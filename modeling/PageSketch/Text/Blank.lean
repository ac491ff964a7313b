import PageSketch.Text.Basic

/-! Blank characters, trimming, and the lines of a text that carry something. -/
namespace PageSketch.Text

/-- The 25 code points with the property White_Space. -/
def blankCodes : CodeRanges :=
  [(0x09, 0x0D), (0x20, 0x20), (0x85, 0x85), (0xA0, 0xA0), (0x1680, 0x1680), (0x2000, 0x200A),
    (0x2028, 0x2029), (0x202F, 0x202F), (0x205F, 0x205F), (0x3000, 0x3000)]

/-- White space of any script, line ends included. -/
def isBlank (char : Char) : Bool := blankCodes.contains char.toNat

/-- The text without blanks at either end. -/
def trim (text : Text) : Text := dropEndWhile isBlank (text.dropWhile isBlank)

/-- The lines of a text: the pieces between line feeds. -/
def rows (text : Text) : List Text := pieces (· = '\n') text

/-- The trimmed lines of a text, without those that are only blanks. -/
def lines (text : Text) : List Text := (rows text).map trim |>.filter (!·.isEmpty)

/-- The text with each run of blanks replaced by one hyphen. -/
def hyphenate : Text → Text
  | [] => []
  | first :: rest =>
    if !isBlank first then first :: hyphenate rest
    else if rest.head?.any isBlank then hyphenate rest
    else '-' :: hyphenate rest

end PageSketch.Text
