import PageSketch.Extraction.Basic
import PageSketch.Pattern

/-! Tables: their columns and rows. -/
namespace PageSketch

open Pattern in
/-- The phrase that names the columns, to the end of its line. -/
def columnsPhrase : Pattern :=
  wordEdge ++ caseless "column" ++ optional (caseless "s") ++ blanks ++ literal ":" ++
    many Text.isBlank ++ group (several (· != '\n')) ++ textEnd

def cells (isMark : Char → Bool) (text : Text) : List String :=
  (((Text.pieces isMark text).map Text.trim).filter (!·.isEmpty)).map String.ofList

/-- A comma or a bar parts the cells of a row. -/
def isCellMark (char : Char) : Bool := char == '|' || char == ','

def defaultColumns : List String := ["ID", "Name", "Email", "Status"]

/-- The first line that names the columns. -/
def columnsLine? (lines : List Text) : Option Text := lines.find? columnsPhrase.occursIn

/-- The columns of a table: the ones its directive names, else the ones its description names. -/
def Intent.tableColumns (intent : Intent) : List String :=
  let named := ((intent.directiveText? "columns").map fun text =>
    cells (· == ',') text.toList).getD []
  let described := (((columnsLine? intent.lines).bind columnsPhrase.firstGroup?).map
    (cells isCellMark)).getD []
  orDefaults named (orDefaults described defaultColumns)

/-- The rows of a table: every line with a mark, except the line that names the columns. -/
def Intent.tableRows (intent : Intent) : List (List String) :=
  let columnsLine := columnsLine? intent.lines
  let rowLines := intent.lines.filter fun line =>
    some line != columnsLine && line.any isCellMark
  (rowLines.map fun line => cells isCellMark (Text.itemText line)).filter (!·.isEmpty)

/-- The rows and options of a table. -/
def Intent.extractTable (intent : Intent) : Extraction :=
  { items := intent.tableRows.map .tableRow
    options := .ofList
      [("columns", .list intent.tableColumns),
        ("sortable", .bool (intent.mentions "sort")),
        ("searchable", .bool (intent.mentionsAny ["search", "filter"])),
        ("paginated", .bool (intent.mentionsAny ["paginat", "pages"])),
        ("striped", .bool (intent.mentions "stripe")),
        ("hoverable", .bool (intent.mentions "hover"))] }

end PageSketch
