import PageSketch.Text.Blank

/-! The lines of a source that count, and what each of them is. -/
namespace PageSketch

namespace Source

/-- A character that the name of a directive is made of. -/
def isNameChar (char : Char) : Bool := char.isAlphanum || char == '_'

/-- What a line of a source is. -/
inductive LineKind where
  /-- A directive with its trimmed value. -/
  | directive (name value : Text)
  /-- A brace that stands alone opens a block. -/
  | blockOpen
  /-- A brace that stands alone closes a block. -/
  | blockClose
  /-- Any other line. -/
  | content
  /-- An at sign without the name of a directive. -/
  | nameless
  deriving DecidableEq, Repr

/-- What a trimmed line is. The name of a directive is as long as possible. -/
def classify : Text → LineKind
  | ['{'] => .blockOpen
  | ['}'] => .blockClose
  | '@' :: rest =>
    match rest.takeWhile isNameChar with
    | [] => .nameless
    | name => .directive name (Text.trim (rest.dropWhile isNameChar))
  | _ => .content

/-- A trimmed line that counts, with its number in the source. -/
structure Line where
  text : Text
  number : Nat
  deriving DecidableEq, Repr

def Line.kind (line : Line) : LineKind := classify line.text

/-- A trimmed line that counts: it is neither empty nor a comment. -/
def counts (line : Text) : Bool := !line.isEmpty && !(['/', '/'].isPrefixOf line)

/-- The lines that count among `rows`, of which the first has the number `number`. -/
def linesFrom (number : Nat) : List Text → List Line
  | [] => []
  | first :: rest =>
    if counts first.trim then ⟨first.trim, number⟩ :: linesFrom (number + 1) rest
    else linesFrom (number + 1) rest

/-- The lines of a source that count, in order. -/
def lines (source : Text) : List Line := linesFrom 1 source.rows

end Source

end PageSketch
