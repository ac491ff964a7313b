/-! Style rules and their text. -/
namespace PageSketch

/-- A style rule: what it applies to, and its declarations in order. -/
structure Rule where
  selector : String
  declarations : List (String × String)
  deriving DecidableEq, Repr

namespace Rule

def declarationText (rule : Rule) : String :=
  String.join (rule.declarations.map fun (property, value) => property ++ ": " ++ value ++ "; ")

def line (rule : Rule) : String := rule.selector ++ " \x7b " ++ rule.declarationText ++ "\x7d\n"

def lines (rules : List Rule) : String := String.join (rules.map line)

def block (condition : String) (rules : List Rule) : String :=
  condition ++ " \x7b\n" ++ String.join (rules.map fun rule => "  " ++ rule.line) ++ "\x7d\n"

end Rule

end PageSketch
