import PageSketch.Text.Blank

/-! Quoted parts of a text, where either quotation mark opens and either closes; and lines that start with a dash. -/
namespace PageSketch.Text

/-- The double and the single quotation mark. -/
def isQuote (char : Char) : Bool := char == '"' || char == '\''

/-- The first non-empty run between two quotation marks. -/
def firstQuoted : Text → Option Text
  | [] => none
  | first :: rest =>
    let body := rest.takeWhile (!isQuote ·)
    if isQuote first && !body.isEmpty && body.length < rest.length then some body
    else firstQuoted rest

/-- The first quoted text on the first of the lines that has one. -/
def firstQuotedLine (lines : List Text) : Option Text := lines.findSome? firstQuoted

/-- The text inside one pair of equal quotation marks, when such a pair encloses it all. -/
def enclosed? (mark : Char) : Text → Option Text
  | [] => none
  | first :: rest =>
    if first = mark && rest.getLast? = some mark then some rest.dropLast else none

/-- The text without blanks around it and without one pair of quotation marks around that. -/
def unquote (text : Text) : Text :=
  let body := trim text
  match (enclosed? '"' body).or (enclosed? '\'' body) with
  | some inner => trim inner
  | none => body

/-- A line whose first character that is no blank is a dash. -/
def isListItem (line : Text) : Bool := (line.dropWhile isBlank).head? == some '-'

/-- What a list line says, without its dashes and the blanks around them. -/
def itemText (line : Text) : Text :=
  trim (line.dropWhile fun char => isBlank char || char == '-')

/-- The name that a list line gives: its first quoted text, else all it says. -/
def itemName (line : Text) : Text := (firstQuoted line).getD (itemText line)

end PageSketch.Text
