import PageSketch.Json.Basic

/-! Findings about a source that do not stop its compilation. -/
namespace PageSketch

/-- A finding, with the number of its line. -/
inductive Diagnostic where
  /-- A component without a name was given one. -/
  | emptyName (assigned : String) (line : Nat)
  /-- A type that means no kind. -/
  | unknownType (component value : String) (line : Nat)
  /-- A theme that is none. -/
  | unknownTheme (component value : String) (line : Nat)
  /-- A style that is none. -/
  | unknownStyle (component value : String) (line : Nat)
  deriving DecidableEq, Repr

namespace Diagnostic

/-- The finding in words. -/
def message : Diagnostic → String
  | emptyName assigned line => s!"line {line}: @component has no name, using '" ++ assigned ++ "'"
  | unknownType component value line =>
    s!"line {line}: unknown @type '" ++ value ++ "' on " ++ component ++
      ", detecting from description"
  | unknownTheme component value line =>
    s!"line {line}: unknown @theme '" ++ value ++ "' on " ++ component ++ ", using light"
  | unknownStyle component value line =>
    s!"line {line}: unknown @style '" ++ value ++ "' on " ++ component ++ ", using vanilla"

/-- The JSON form of a finding that is about the value of a directive. -/
def valueJson (tag component value : String) (line : Nat) : Json :=
  .object [("diagnostic", .text tag), ("component", .text component), ("value", .text value),
    ("line", .number line)]

/-- The JSON form of a finding. -/
def toJson : Diagnostic → Json
  | emptyName assigned line =>
    .object [("diagnostic", .text "emptyName"), ("assigned", .text assigned),
      ("line", .number line)]
  | unknownType component value line => valueJson "unknownType" component value line
  | unknownTheme component value line => valueJson "unknownTheme" component value line
  | unknownStyle component value line => valueJson "unknownStyle" component value line

end Diagnostic

end PageSketch
