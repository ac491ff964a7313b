import PageSketch.Proofs.Extraction.Shape
import PageSketch.Proofs.Pattern.Grammar
import PageSketch.Proofs.Text.Occurrence
import PageSketch.Proofs.Text.Pieces

/-! Tables that are written out and read back: a line names the columns and each further line is a row, with bars
and commas between its cells. -/
namespace PageSketch

/-- What may stand in a cell: a text without bars, commas and line feeds, and without blanks around it. -/
structure Cell where
  text : Text
  filled : text ≠ []
  trimmed : Text.trim text = text
  noBar : '|' ∉ text
  noComma : ',' ∉ text
  inLine : '\n' ∉ text

/-- What is written between two cells. -/
inductive CellMark where
  | bar | comma

def CellMark.text : CellMark → Text
  | bar => " | ".toList
  | comma => ", ".toList

/-- Cells with marks between them. -/
structure CellLine where
  first : Cell
  others : List (CellMark × Cell)

namespace CellLine

def text (line : CellLine) : Text :=
  line.first.text ++ line.others.flatMap fun (mark, cell) => mark.text ++ cell.text

def cells (line : CellLine) : List Cell := line.first :: line.others.map Prod.snd

end CellLine

/-- A row of at least two cells, which does not start with a dash of its own. -/
structure Row extends CellLine where
  several : others ≠ []
  undashed : first.text.head? ≠ some '-'

/-- A table that can be written out. -/
structure Sheet where
  columns : List Cell
  named : columns ≠ []
  rows : List Row

namespace Sheet

variable (sheet : Sheet)

def header : Text := "Columns: ".toList ++ Text.joined ", ".toList (sheet.columns.map Cell.text)

def rowLines : List Text := sheet.rows.map fun row => "- ".toList ++ row.text

def description : Text := Text.joined ['\n'] (sheet.header :: sheet.rowLines)

end Sheet

section Cells

variable {isMark : Char → Bool}

private theorem cells_append_mark {mark : Char} (marked : isMark mark = true) (before after : Text) :
    cells isMark (before ++ mark :: after) = cells isMark before ++ cells isMark after := by
  rw [cells, cells, cells, Text.pieces_append_mark marked, List.map_append, List.filter_append, List.map_append]

private theorem isCellMark_eq_false_iff {char : Char} : isCellMark char = false ↔ char ≠ '|' ∧ char ≠ ',' := by
  rw [isCellMark, Bool.or_eq_false_iff, beq_eq_false_iff_ne, beq_eq_false_iff_ne]

private theorem isCellMark_of_isBlank {char : Char} (blank : Text.isBlank char = true) : isCellMark char = false := by
  rw [isCellMark_eq_false_iff]
  constructor
  · rintro rfl
    exact absurd blank (by decide)
  · rintro rfl
    exact absurd blank (by decide)

private theorem cells_cons_blank {char : Char} (blank : Text.isBlank char = true) (text : Text) :
    cells isCellMark (char :: text) = cells isCellMark text := by
  rw [cells, cells, Text.pieces_cons_other (isCellMark_of_isBlank blank)]
  cases Text.pieces isCellMark text with
  | nil => rfl
  | cons piece others => rw [List.modifyHead_cons, List.map_cons, List.map_cons, Text.trim_cons_blank blank]

private theorem cells_blanks_append {blank : Text} (blanks : ∀ char ∈ blank, Text.isBlank char = true) (text : Text) :
    cells isCellMark (blank ++ text) = cells isCellMark text := by
  induction blank with
  | nil => rfl
  | cons first rest ih =>
    obtain ⟨isBlank, others⟩ := List.forall_mem_cons.mp blanks
    rw [List.cons_append, cells_cons_blank isBlank, ih others]

private theorem cells_of_unmarked {text : Text} (unmarked : ∀ char ∈ text, isMark char = false)
    (filled : Text.trim text ≠ []) : cells isMark text = [String.ofList (Text.trim text)] := by
  rw [cells, Text.pieces_of_unmarked unmarked, List.map_singleton]
  simp [filled]

end Cells

namespace Cell

variable (cell : Cell)

theorem unmarked : ∀ char ∈ cell.text, isCellMark char = false := by
  intro char member
  rw [isCellMark_eq_false_iff]
  exact ⟨ne_of_mem_of_not_mem member cell.noBar, ne_of_mem_of_not_mem member cell.noComma⟩

private theorem cells_append_blanks {blank : Text} (blanks : ∀ char ∈ blank, Text.isBlank char = true) :
    cells isCellMark (cell.text ++ blank) = [String.ofList cell.text] := by
  have trims : Text.trim (cell.text ++ blank) = cell.text := by
    rw [Text.trim_append_blanks blanks, cell.trimmed]
  rw [cells_of_unmarked, trims]
  · exact List.forall_mem_append.mpr
      ⟨cell.unmarked, fun char member => isCellMark_of_isBlank (blanks char member)⟩
  · rw [trims]
    exact cell.filled

theorem startsDark : ∀ char ∈ cell.text.head?, Text.isBlank char = false := Text.startsDark cell.trimmed

theorem endsDark : ∀ char ∈ cell.text.getLast?, Text.isBlank char = false := Text.endsDark cell.trimmed

end Cell

/-- A mark has blanks in front of it, at most, and a blank behind it. -/
theorem CellMark.exists_text_eq (mark : CellMark) :
    ∃ blank char, mark.text = blank ++ [char, ' '] ∧ isCellMark char = true ∧
      ∀ char ∈ blank, Text.isBlank char = true := by
  cases mark with
  | bar => exact ⟨[' '], '|', by decide, by decide, List.forall_mem_singleton.mpr (by decide)⟩
  | comma => exact ⟨[], ',', by decide, by decide, List.forall_mem_nil _⟩

namespace CellLine

private theorem text_cons (first cell : Cell) (mark : CellMark) (others : List (CellMark × Cell)) :
    text ⟨first, (mark, cell) :: others⟩ = first.text ++ mark.text ++ text ⟨cell, others⟩ := by
  simp only [text, List.flatMap_cons, List.append_assoc]

/-- The cells of a line are read back. -/
theorem cells_text (line : CellLine) :
    PageSketch.cells isCellMark line.text = line.cells.map fun cell => String.ofList cell.text := by
  obtain ⟨first, others⟩ := line
  induction others generalizing first with
  | nil =>
    exact first.cells_append_blanks (List.forall_mem_nil _)
  | cons head rest ih =>
    obtain ⟨mark, cell⟩ := head
    obtain ⟨blank, char, same, marked, blanks⟩ := mark.exists_text_eq
    calc
      PageSketch.cells isCellMark (text ⟨first, (mark, cell) :: rest⟩) =
          PageSketch.cells isCellMark ((first.text ++ blank) ++ char :: (' ' :: text ⟨cell, rest⟩)) := by
        rw [text_cons, same]
        simp
      _ = String.ofList first.text :: PageSketch.cells isCellMark (text ⟨cell, rest⟩) := by
        rw [cells_append_mark marked, first.cells_append_blanks blanks, cells_cons_blank (by decide)]
        rfl
      _ = (cells ⟨first, (mark, cell) :: rest⟩).map fun cell => String.ofList cell.text := by
        rw [ih]
        rfl

variable (line : CellLine)

theorem filled : line.text ≠ [] := fun none => line.first.filled (List.append_eq_nil_iff.mp none).1

private theorem head?_text : line.text.head? = line.first.text.head? := by
  obtain ⟨char, rest, same⟩ := List.exists_cons_of_ne_nil line.first.filled
  rw [text, same]
  rfl

theorem endsDark : ∀ char ∈ line.text.getLast?, Text.isBlank char = false := by
  obtain ⟨first, others⟩ := line
  induction others generalizing first with
  | nil =>
    rw [text, List.flatMap_nil, List.append_nil]
    exact first.endsDark
  | cons head rest ih =>
    obtain ⟨mark, cell⟩ := head
    rw [text_cons, List.getLast?_append_of_ne_nil _ (filled ⟨cell, rest⟩)]
    exact ih cell

theorem inLine : '\n' ∉ line.text := by
  have marks : ∀ mark : CellMark, '\n' ∉ mark.text := by
    intro mark
    cases mark <;> decide
  simp only [text, List.mem_append, List.mem_flatMap, not_or, not_exists, not_and, Prod.forall]
  exact ⟨line.first.inLine, fun mark cell _ => ⟨marks mark, cell.inLine⟩⟩

private theorem any_isCellMark (several : line.others ≠ []) : line.text.any isCellMark = true := by
  obtain ⟨first, others⟩ := line
  obtain ⟨⟨mark, cell⟩, rest, rfl⟩ := List.exists_cons_of_ne_nil several
  obtain ⟨blank, char, same, marked, _⟩ := mark.exists_text_eq
  rw [text_cons, same]
  simp [marked]

end CellLine

private theorem joined_map_text (first : Cell) (rest : List Cell) :
    Text.joined ", ".toList ((first :: rest).map Cell.text) =
      (CellLine.mk first (rest.map fun cell => (.comma, cell))).text := by
  induction rest generalizing first with
  | nil => simp [Text.joined, CellLine.text]
  | cons second rest ih =>
    rw [List.map_cons, List.map_cons, Text.joined, ← List.map_cons, ih, List.map_cons, CellLine.text_cons]
    rfl

/-- Lines that are trimmed and not empty are read back from the text that they are written to. -/
theorem Text.lines_joined {texts : List Text} (some : texts ≠ [])
    (each : ∀ text ∈ texts, '\n' ∉ text ∧ trim text = text ∧ text ≠ []) :
    lines (joined ['\n'] texts) = texts := by
  have trims : texts.map trim = texts := by
    rw [List.map_congr_left fun text member => (each text member).2.1, List.map_id']
  rw [lines, rows_joined some, flatMap_rows fun text member => (each text member).1, trims,
    List.filter_eq_self]
  intro text member
  simpa using (each text member).2.2

theorem CellLine.isLine (line : CellLine) {start : Text} (filled : start ≠ [])
    (dark : ∀ char ∈ start.head?, Text.isBlank char = false) (inLine : '\n' ∉ start) :
    '\n' ∉ start ++ line.text ∧ Text.trim (start ++ line.text) = start ++ line.text ∧
      start ++ line.text ≠ [] := by
  refine ⟨?_, ?_, List.append_ne_nil_of_left_ne_nil filled _⟩
  · rw [List.mem_append, not_or]
    exact ⟨inLine, line.inLine⟩
  · apply Text.trim_eq_self
    · rwa [List.head?_append_of_ne_nil _ filled]
    · rw [List.getLast?_append_of_ne_nil _ line.filled]
      exact line.endsDark

section Header

open Pattern

def columnsWord : Pattern := wordEdge ++ caseless "column" ++ Pattern.optional (caseless "s") ++ blanks

private theorem columnsPhrase_eq :
    columnsPhrase = columnsWord ++ literal ":" ++ many Text.isBlank ++ group (several (· != '\n')) ++ textEnd :=
  rfl

variable {names : Text}

private theorem reads_columnsWord (rest : Text) :
    columnsWord.Reads none "Columns".toList [] (":".toList ++ ([' '] ++ rest)) := by
  have edge : wordEdge.Reads none [] []
      ("Column".toList ++ ("s".toList ++ ([] ++ (":".toList ++ ([' '] ++ rest))))) := ⟨rfl, rfl, rfl⟩
  have column (before : Option Char) (rest : Text) : (caseless "column").Reads before "Column".toList [] rest :=
    (reads_caseless (by decide) (by decide)).mpr ⟨by decide, rfl⟩
  have plural (before : Option Char) (rest : Text) :
      (Pattern.optional (caseless "s")).Reads before "s".toList [] rest :=
    .inl ⟨['s'], [], [], [], rfl, rfl, ⟨⟨'s', by decide, rfl⟩, rfl⟩, rfl, rfl⟩
  have gap (before : Option Char) : blanks.Reads before [] [] (":".toList ++ ([' '] ++ rest)) := by
    refine ⟨nofun, ?_, rfl⟩
    rintro char ⟨⟩
    decide
  exact ((edge.append (column _ _)).append (plural _ _)).append (gap _)

/-- The header of a table reads as a phrase for columns. -/
theorem reads_columnsPhrase (filled : names ≠ []) (inLine : '\n' ∉ names) :
    columnsPhrase.Reads none ("Columns: ".toList ++ names) [names] [] := by
  have colon (before : Option Char) (rest : Text) : (literal ":").Reads before ":".toList [] rest :=
    reads_literal.mpr ⟨rfl, rfl⟩
  have blank (before : Option Char) (rest : Text) : (many Text.isBlank).Reads before [' '] [] rest :=
    ⟨List.forall_mem_singleton.mpr (by decide), rfl⟩
  have named (before : Option Char) : (group (several (· != '\n'))).Reads before names [names] [] := by
    refine ⟨[], rfl, reads_several.mpr ⟨filled, fun char member => ?_, nofun, rfl⟩⟩
    rw [bne_iff_ne]
    rintro rfl
    exact inLine member
  have final (before : Option Char) : textEnd.Reads before [] [] [] := ⟨rfl, rfl, rfl⟩
  rw [columnsPhrase_eq]
  have whole := ((((reads_columnsWord (names ++ [])).append (colon _ _)).append (blank _ _)).append
    (named _)).append (final _)
  rw [List.append_nil] at whole
  exact whole

/-- Whatever a phrase for columns reads of the header, it gives the same cells. -/
theorem cells_of_reads_columnsPhrase {letters rest : Text} {groups : List Text}
    (same : "Columns: ".toList ++ names = letters ++ rest)
    (reads : columnsPhrase.Reads none letters groups rest) :
    ∃ given others, groups = given :: others ∧ cells isCellMark given = cells isCellMark names := by
  rw [columnsPhrase_eq] at reads
  obtain ⟨named, final, _, _, rfl, rfl, readsNamed, readsFinal⟩ := reads_append.mp reads
  obtain ⟨spaced, given, _, _, rfl, rfl, readsSpaced, readsGiven⟩ := reads_append.mp readsNamed
  obtain ⟨marked, blank, _, _, rfl, rfl, readsMarked, readsBlank⟩ := reads_append.mp readsSpaced
  obtain ⟨head, colon, outer, _, rfl, rfl, readsHead, readsColon⟩ := reads_append.mp readsMarked
  obtain ⟨rfl, rfl, rfl⟩ := readsFinal
  obtain ⟨others, rfl, _⟩ := readsGiven
  obtain ⟨isBlank, rfl⟩ := readsBlank
  obtain ⟨rfl, rfl⟩ := reads_literal.mp readsColon
  obtain rfl := groups_eq_nil_of_reads (by decide +kernel) readsHead
  refine ⟨given, _, rfl, ?_⟩
  -- The word in front of the colon has none itself, so it ends at the first colon of the header.
  have noColon : ':' ∉ head := notMem_of_reads (by decide +kernel) readsHead
  have cut : "Columns".toList ++ ':' :: (' ' :: names) = head ++ ':' :: (blank ++ given) := by
    refine same.trans ?_
    simp
  have front : "Columns".toList = head := by
    have first : ("Columns".toList ++ ':' :: (' ' :: names)).takeWhile (· != ':') = "Columns".toList :=
      Text.takeWhile_until (by decide) _
    rw [cut, Text.takeWhile_until noColon] at first
    exact first.symm
  rw [front, List.append_cancel_left_eq] at cut
  have behind := (List.cons.inj cut).2
  rw [← cells_blanks_append isBlank given, ← behind]
  exact cells_cons_blank (by decide) names

private theorem cells_of_firstGroup? (filled : names ≠ []) (inLine : '\n' ∉ names) :
    columnsPhrase.occursIn ("Columns: ".toList ++ names) = true ∧
      (columnsPhrase.firstGroup? ("Columns: ".toList ++ names)).map (cells isCellMark) =
        some (cells isCellMark names) := by
  have here : (columnsPhrase.matchAt? none ("Columns: ".toList ++ names)).isSome = true :=
    isSome_matchAt?_iff.mpr ⟨_, _, [], (List.append_nil _).symm, reads_columnsPhrase filled inLine⟩
  have occurs : columnsPhrase.occursIn ("Columns: ".toList ++ names) = true :=
    (occursIn_iff _ _).mpr ⟨[], _, rfl, here⟩
  refine ⟨occurs, ?_⟩
  obtain ⟨found, search⟩ := Option.isSome_iff_exists.mp occurs
  obtain ⟨left, right, same, matches', least⟩ := exists_place_of_find? search
  have atStart : left = [] := List.length_eq_zero_iff.mp (Nat.le_zero.mp (least [] _ rfl here))
  subst atStart
  obtain ⟨letters, groups, rest, rfl, tells, reads⟩ := exists_reading_of_matchAt? matches'
  rw [List.nil_append] at same
  obtain ⟨given, others, rfl, cut⟩ := cells_of_reads_columnsPhrase same reads
  rw [firstGroup?, search, Option.bind_some, Match.group?, ← List.getElem?_map, tells.groups]
  exact congrArg some cut

end Header

private theorem Row.itemText_line (row : Row) : Text.itemText ("- ".toList ++ row.text) = row.text := by
  obtain ⟨first, rest, same⟩ := List.exists_cons_of_ne_nil row.first.filled
  have starts : row.text.head? = some first := by rw [row.head?_text, same]; rfl
  obtain ⟨others, whole⟩ := List.head?_eq_some_iff.mp starts
  have dark : Text.isBlank first = false := row.first.startsDark first (by rw [same]; rfl)
  have noDash : first ≠ '-' := by
    rintro rfl
    exact row.undashed (by rw [same]; rfl)
  have dropped :
      ("- ".toList ++ row.text).dropWhile (fun char => Text.isBlank char || char == '-') = row.text := by
    have front : ∀ char ∈ "- ".toList, (Text.isBlank char || char == '-') = true :=
      List.all_eq_true.mp (by decide)
    rw [List.dropWhile_append_of_pos front, whole, List.dropWhile_cons_of_neg]
    simp [dark, noDash]
  rw [Text.itemText, dropped]
  refine Text.trim_eq_self (fun char head => ?_) row.endsDark
  rw [starts] at head
  cases head
  exact dark

namespace Sheet

variable (sheet : Sheet)

theorem exists_header_eq :
    ∃ line : CellLine, sheet.header = "Columns: ".toList ++ line.text ∧ line.cells = sheet.columns := by
  obtain ⟨first, rest, same⟩ := List.exists_cons_of_ne_nil sheet.named
  refine ⟨⟨first, rest.map fun cell => (.comma, cell)⟩, ?_, ?_⟩
  · have names := joined_map_text first rest
    rw [← same] at names
    exact congrArg ("Columns: ".toList ++ ·) names
  · simp [CellLine.cells, same, Function.comp_def]

private theorem lines_description : Text.lines sheet.description = sheet.header :: sheet.rowLines := by
  refine Text.lines_joined (List.cons_ne_nil _ _) fun text member => ?_
  rcases List.mem_cons.mp member with rfl | row
  · obtain ⟨line, same, _⟩ := sheet.exists_header_eq
    rw [same]
    refine line.isLine (by decide) (fun char first => ?_) (by decide)
    obtain rfl : 'C' = char := by simpa using first
    decide
  · obtain ⟨own, _, rfl⟩ := List.mem_map.mp row
    refine own.isLine (by decide) (fun char first => ?_) (by decide)
    obtain rfl : '-' = char := by simpa using first
    decide

/-- The header names the columns, whatever the rows say. -/
theorem columns_named :
    columnsLine? (sheet.header :: sheet.rowLines) = some sheet.header ∧
      (columnsPhrase.firstGroup? sheet.header).map (cells isCellMark) =
        some (sheet.columns.map fun cell => String.ofList cell.text) := by
  obtain ⟨line, same, all⟩ := sheet.exists_header_eq
  obtain ⟨occurs, given⟩ := cells_of_firstGroup? line.filled line.inLine
  rw [← same] at occurs given
  rw [columnsLine?, List.find?_cons_of_pos occurs, given, line.cells_text, all]
  exact ⟨rfl, rfl⟩

private theorem filter_rowLines :
    ((sheet.header :: sheet.rowLines).filter fun line =>
      some line != some sheet.header && line.any isCellMark) = sheet.rowLines := by
  rw [List.filter_cons_of_neg (by simp), List.filter_eq_self]
  intro line member
  obtain ⟨row, _, rfl⟩ := List.mem_map.mp member
  obtain ⟨names, same, _⟩ := sheet.exists_header_eq
  have other : "- ".toList ++ row.text ≠ sheet.header := by
    rw [same]
    intro equal
    exact absurd (List.cons.inj equal).1 (by decide)
  rw [Bool.and_eq_true, bne_iff_ne, List.any_append, row.any_isCellMark row.several, Bool.or_true]
  exact ⟨fun equal => other (Option.some.inj equal), rfl⟩

/-- A written table is read back: the columns of its header, and a row for each further line, in order, with the
cells as they were written. -/
theorem written_table_read_back {intent : Intent} (written : intent.description = sheet.description)
    (undirected : intent.directiveText? "columns" = none) :
    (intent.extract .table).options.get? "columns" =
        some (.list (sheet.columns.map fun cell => String.ofList cell.text)) ∧
      (intent.extract .table).items =
        sheet.rows.map fun row => .tableRow (row.cells.map fun cell => String.ofList cell.text) := by
  obtain ⟨found, given⟩ := sheet.columns_named
  have lines : intent.lines = sheet.header :: sheet.rowLines := by
    rw [Intent.lines, written, lines_description]
  have columns : intent.tableColumns = sheet.columns.map fun cell => String.ofList cell.text := by
    obtain ⟨first, rest, named⟩ := List.exists_cons_of_ne_nil sheet.named
    rw [Intent.tableColumns, undirected, lines, found, Option.bind_some, given, named]
    rfl
  have rows : intent.tableRows =
      sheet.rows.map fun row => row.cells.map fun cell => String.ofList cell.text := by
    rw [Intent.tableRows, lines, found]
    simp only [filter_rowLines]
    rw [rowLines, List.map_map, List.filter_eq_self.mpr]
    · refine List.map_congr_left fun row _ => ?_
      rw [Function.comp_apply, row.itemText_line, row.cells_text]
    · intro cells member
      obtain ⟨row, _, rfl⟩ := List.mem_map.mp member
      rw [Function.comp_apply, row.itemText_line, row.cells_text]
      rfl
  constructor
  · rw [← columns]
    exact OrderedMap.get?_ofList_of_mem Kind.table.nodup_optionForms List.mem_cons_self
  · have items : (intent.extract .table).items = intent.tableRows.map .tableRow := rfl
    rw [items, rows, List.map_map]
    rfl

/-- A row that reads like a phrase for columns is a row all the same. -/
theorem row_like_header_read_back :
    (Intent.extract ⟨"People", "Columns: Name, Role\n- Columns: a | b".toList, ∅, 2024⟩ .table).options.get?
        "columns" = some (.list ["Name", "Role"]) ∧
      (Intent.extract ⟨"People", "Columns: Name, Role\n- Columns: a | b".toList, ∅, 2024⟩ .table).items =
        [.tableRow ["Columns: a", "b"]] := by
  let name : Cell := ⟨"Name".toList, by decide, by decide, by decide, by decide, by decide⟩
  let role : Cell := ⟨"Role".toList, by decide, by decide, by decide, by decide, by decide⟩
  let first : Cell := ⟨"Columns: a".toList, by decide, by decide, by decide, by decide, by decide⟩
  let second : Cell := ⟨"b".toList, by decide, by decide, by decide, by decide, by decide⟩
  let row : Row := ⟨⟨first, [(.bar, second)]⟩, List.cons_ne_nil _ _, by decide⟩
  exact written_table_read_back ⟨[name, role], List.cons_ne_nil _ _, [row]⟩ (by decide) rfl

end Sheet

end PageSketch
