import PageSketch.Json.Basic

/-! Page templates: text with values, calls and blocks in it. -/
namespace PageSketch.Template

/-- Where a path starts. -/
inductive Origin where
  /-- At the value of the level so many levels out of the present one. -/
  | level (up : Nat)
  /-- At the whole data. -/
  | root
  deriving DecidableEq, Repr

/-- What a template may insert, test or pass to a call. -/
inductive Expr where
  /-- A value written out in the template. -/
  | literal (value : Json)
  /-- A value of the data, reached name by name. -/
  | path (origin : Origin) (names : List String)
  /-- A value of the loop so many levels out of the present one, such as `@index`. -/
  | loopValue (up : Nat) (name : String)
  /-- What a named function makes of its arguments. -/
  | call (name : String) (args : List Expr)
  deriving Repr

/-- A position in the text of a template: the number of a line, and of a character on that line. -/
structure Position where
  line : Nat := 1
  column : Nat := 1
  deriving DecidableEq, Repr

/-- The position behind one more character. -/
def Position.next (position : Position) (char : Char) : Position :=
  if char = '\n' then ⟨position.line + 1, 1⟩ else { position with column := position.column + 1 }

/-- One part of a template. -/
inductive Node where
  /-- Text that is kept as it is. -/
  | text (text : Text)
  /-- A value, escaped or as it is. -/
  | value (escaped : Bool) (source : Expr)
  /-- What a named function makes of its arguments. -/
  | call (escaped : Bool) (name : String) (args : List Expr)
  /-- A named block with its arguments, its body, and what stands in for the body. -/
  | block (name : String) (args : List Expr) (body otherwise : List Node)
  /-- A part with the position of its tag in the text of the template. -/
  | placed (position : Position) (node : Node)
  deriving Repr

end PageSketch.Template

namespace PageSketch

/-- A template is the sequence of its parts. -/
abbrev Template := List Template.Node

end PageSketch
