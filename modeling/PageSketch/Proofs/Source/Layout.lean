import PageSketch.Proofs.Source.Row

/-! Sources laid out anew: rows that say nothing are put between the rows, blanks around them, and
carriage returns at their ends. The lines that say something keep their texts and their order. -/
namespace PageSketch.Source

/-- A row that says nothing: blanks alone, a comment, or an at sign without the name of a directive. -/
structure IdleRow where
  text : Text
  isRow : '\n' ∉ text
  isIdle : (∀ char ∈ text, Text.isBlank char = true) ∨ ['/', '/'] <+: text.trim ∨
    ∃ rest, text.trim = '@' :: rest ∧ ∀ char ∈ rest.head?, isNameChar char = false

/-- Blanks that stay on their row. -/
structure Padding where
  text : Text
  isRow : '\n' ∉ text
  isBlank : ∀ char ∈ text, Text.isBlank char = true

/-- What is put around one row. -/
structure Margin where
  above : List IdleRow
  left : Padding
  right : Padding
  /-- Whether a carriage return comes before the line feed that ends the row. -/
  returns : Bool

/-- The row with all that is put on it. -/
def Margin.padded (margin : Margin) (row : Text) : Text :=
  margin.left.text ++ row ++ (margin.right.text ++ if margin.returns then ['\r'] else [])

/-- A new layout of a source. -/
structure Layout where
  /-- What is put around the row with this number. -/
  margin : Nat → Margin
  /-- The rows after the last row. -/
  below : List IdleRow

namespace Layout

variable (layout : Layout)

/-- The new rows from the row on that has `count` rows before it. -/
def rowsAfter (count : Nat) : List Text → List Text
  | [] => layout.below.map IdleRow.text
  | row :: rest =>
    (layout.margin (count + 1)).above.map IdleRow.text ++
      (layout.margin (count + 1)).padded row :: rowsAfter (count + 1) rest

def apply (source : Text) : Text := Text.joined ['\n'] (layout.rowsAfter 0 source.rows)

/-- The new number of the row with this number. -/
def place : Nat → Nat
  | 0 => 0
  | count + 1 => place count + (layout.margin (count + 1)).above.length + 1

end Layout

def Line.renumber (place : Nat → Nat) (line : Line) : Line := { line with number := place line.number }

def Line.speaks (line : Line) : Bool := line.kind ≠ .nameless

variable {number count : Nat} {row : Text} {rows : List Text}

private theorem linesFrom_cons_congr {other : Text} (same : other.trim = row.trim) (number : Nat)
    (rest : List Text) : linesFrom number (other :: rest) = linesFrom number (row :: rest) := by
  rw [linesFrom, linesFrom, same]

private theorem Margin.trim_padded (margin : Margin) (row : Text) : (margin.padded row).trim = row.trim := by
  refine Text.trim_append margin.left.isBlank (fun char member => ?_) row
  rcases List.mem_append.mp member with inRight | isReturn
  · exact margin.right.isBlank char inRight
  · split at isReturn
    · rw [List.mem_singleton.mp isReturn]
      decide
    · exact absurd isReturn List.not_mem_nil

theorem IdleRow.silent (row : IdleRow) :
    counts row.text.trim = false ∨ classify row.text.trim = .nameless := by
  rcases row.isIdle with blank | comment | ⟨rest, at_sign, noName⟩
  · left
    rw [Text.trim_eq_nil blank]
    rfl
  · left
    rw [counts, List.isPrefixOf_iff_prefix.mpr comment]
    simp
  · right
    rw [at_sign, classify_nameless noName]

private theorem filter_linesFrom_idle (number : Nat) (idle : List IdleRow) :
    (linesFrom number (idle.map IdleRow.text)).filter Line.speaks = [] := by
  induction idle generalizing number with
  | nil => rfl
  | cons row rest ih =>
    rw [List.map_cons, linesFrom]
    split
    · rename_i counting
      have silent : classify row.text.trim = .nameless :=
        row.silent.resolve_left (by simp [counting])
      rw [List.filter_cons_of_neg (by simp [Line.speaks, Line.kind, silent]), ih]
    · exact ih _

private theorem Layout.place_succ (layout : Layout) (count : Nat) : layout.place (count + 1) =
    layout.place count + 1 + (layout.margin (count + 1)).above.length := by
  rw [Layout.place]
  omega

/-- The lines that say something are the same in the new layout, at their new places. -/
theorem filter_linesFrom_rowsAfter (layout : Layout) (count : Nat) (rows : List Text) :
    (linesFrom (layout.place count + 1) (layout.rowsAfter count rows)).filter Line.speaks =
      ((linesFrom (count + 1) rows).filter Line.speaks).map (Line.renumber layout.place) := by
  induction rows generalizing count with
  | nil => exact filter_linesFrom_idle _ layout.below
  | cons row rest ih =>
    rw [Layout.rowsAfter, linesFrom_append, List.filter_append, filter_linesFrom_idle,
      List.nil_append, List.length_map, ← layout.place_succ,
      linesFrom_cons_congr ((layout.margin (count + 1)).trim_padded row), linesFrom, linesFrom]
    split
    · have same : Line.speaks ⟨row.trim, layout.place (count + 1)⟩ =
          Line.speaks ⟨row.trim, count + 1⟩ := rfl
      rw [List.filter_cons, List.filter_cons, same, ih]
      split <;> rfl
    · exact ih (count + 1)

/-- The new number of a row leads to the row with what is put around it. -/
theorem getElem?_rowsAfter (layout : Layout) (count : Nat) {index : Nat}
    (present : rows[index]? = some row) :
    ∃ position, layout.place (count + index + 1) = layout.place count + position + 1 ∧
      (layout.rowsAfter count rows)[position]? =
        some ((layout.margin (count + index + 1)).padded row) := by
  induction rows generalizing count index with
  | nil => simp at present
  | cons first rest ih =>
    have above : ((layout.margin (count + 1)).above.map IdleRow.text).length =
        (layout.margin (count + 1)).above.length := List.length_map _
    have next := layout.place_succ count
    cases index with
    | zero =>
      obtain rfl : first = row := by simpa using present
      refine ⟨(layout.margin (count + 1)).above.length, by rw [Nat.add_zero]; omega, ?_⟩
      rw [Layout.rowsAfter, List.getElem?_append_right (by omega), above, Nat.sub_self]
      rfl
    | succ index =>
      obtain ⟨position, located, found⟩ := ih (count + 1) (by simpa using present)
      have moved : count + 1 + index + 1 = count + (index + 1) + 1 := by omega
      rw [moved] at located found
      refine ⟨(layout.margin (count + 1)).above.length + (position + 1), by omega, ?_⟩
      rw [Layout.rowsAfter, List.getElem?_append_right (by omega), above, Nat.add_sub_cancel_left,
        List.getElem?_cons_succ, found]

private theorem Margin.padded_isRow (margin : Margin) (inRow : '\n' ∉ row) : '\n' ∉ margin.padded row := by
  have noReturn : '\n' ∉ if margin.returns then ['\r'] else [] := by
    split <;> decide
  simp [Margin.padded, inRow, margin.left.isRow, margin.right.isRow, noReturn]

private theorem isRow_of_mem_rowsAfter (layout : Layout) (count : Nat) (single : ∀ row ∈ rows, '\n' ∉ row) :
    ∀ row ∈ layout.rowsAfter count rows, '\n' ∉ row := by
  have idle (added : List IdleRow) : ∀ row ∈ added.map IdleRow.text, '\n' ∉ row := by
    intro row member
    obtain ⟨original, _, rfl⟩ := List.mem_map.mp member
    exact original.isRow
  induction rows generalizing count with
  | nil => exact idle layout.below
  | cons first rest ih =>
    obtain ⟨own, others⟩ := List.forall_mem_cons.mp single
    intro row member
    rcases List.mem_append.mp member with added | kept
    · exact idle _ row added
    · rcases List.mem_cons.mp kept with rfl | later
      · exact Margin.padded_isRow _ own
      · exact ih (count + 1) others row later

theorem rows_apply (layout : Layout) (source : Text) :
    (layout.apply source).rows = layout.rowsAfter 0 source.rows := by
  have single : ∀ row ∈ source.rows, '\n' ∉ row := fun _ => Text.lineFeed_notMem_of_mem_rows
  have nonempty : layout.rowsAfter 0 source.rows ≠ [] := by
    obtain ⟨first, rest, rows⟩ :=
      List.exists_cons_of_ne_nil (Text.pieces_ne_nil (· = '\n') source)
    rw [Text.rows, rows, Layout.rowsAfter]
    simp
  rw [Layout.apply, Text.rows_joined nonempty,
    Text.flatMap_rows (isRow_of_mem_rowsAfter layout 0 single)]

/-- The lines of a source that say something are the same in any layout. -/
theorem filter_lines_apply (layout : Layout) (source : Text) :
    (lines (layout.apply source)).filter Line.speaks =
      ((lines source).filter Line.speaks).map (Line.renumber layout.place) := by
  rw [lines, rows_apply]
  exact filter_linesFrom_rowsAfter layout 0 source.rows

end PageSketch.Source
