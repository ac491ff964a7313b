import PageSketch.Text.Basic

/-! Reading a text from its front on.

Where a reader repeats itself, the recursion is on a second text, the bound, which has at least as
many characters as are left to read. -/
namespace PageSketch

/-- A reader takes a value from the front of a text and leaves the rest. -/
abbrev Reader (Value : Type) := Text → Option (Value × Text)

namespace Text

/-- Space, tab and line ends may stand between the marks of a text. -/
def isGap (char : Char) : Bool := char == ' ' || char == '\t' || char == '\n' || char == '\r'

/-- The text from its first character on that is no gap. -/
def skipGaps (text : Text) : Text := text.dropWhile isGap

/-- The text after a mark that may have gaps in front. -/
def afterMark? (mark text : Text) : Option Text := after? mark (skipGaps text)

/-- As many values as the front of a text yields, with gaps between them, and the rest of the text.
Each value takes at least one character, and `bound` has as many characters as the text. -/
def repeated {Value : Type} (read : Reader Value) : (bound : Text) → Text → List Value × Text
  | [], text => ([], text)
  | _ :: bound, text =>
    match read (skipGaps text) with
    | some (first, rest) =>
      let (others, left) := repeated read bound rest
      (first :: others, left)
    | none => ([], text)

end Text

end PageSketch
