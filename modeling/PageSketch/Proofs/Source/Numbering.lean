import PageSketch.Proofs.Text.Pieces
import PageSketch.Source.Line

/-! The numbers of the lines that count: each leads back to its own row of the source, and the lines of a
source that stands behind another one only have their numbers moved. -/
namespace PageSketch.Source

def Line.shift (offset : Nat) (line : Line) : Line := { line with number := line.number + offset }

@[simp]
theorem Line.kind_shift (offset : Nat) (line : Line) : (line.shift offset).kind = line.kind := rfl

variable {number : Nat} {rows : List Text}

theorem linesFrom_append (number : Nat) (before after : List Text) :
    linesFrom number (before ++ after) =
      linesFrom number before ++ linesFrom (number + before.length) after := by
  induction before generalizing number with
  | nil => rfl
  | cons row rest ih =>
    have moved : number + 1 + rest.length = number + (row :: rest).length := by
      rw [List.length_cons]
      omega
    rw [List.cons_append, linesFrom, linesFrom, ih, moved]
    split
    · rw [List.cons_append]
    · rfl

theorem linesFrom_add (number offset : Nat) (rows : List Text) :
    linesFrom (number + offset) rows = (linesFrom number rows).map (Line.shift offset) := by
  induction rows generalizing number with
  | nil => rfl
  | cons row rest ih =>
    have next : number + offset + 1 = number + 1 + offset := by omega
    rw [linesFrom, linesFrom, next, ih]
    split
    · rw [List.map_cons, Line.shift]
    · rfl

/-- The number of a line leads back to the row that the line was made from. -/
theorem row_of_mem_linesFrom {line : Line} (member : line ∈ linesFrom number rows) :
    number ≤ line.number ∧ rows[line.number - number]?.map Text.trim = some line.text := by
  induction rows generalizing number with
  | nil => simp [linesFrom] at member
  | cons row rest ih =>
    -- A line of the rest has a number above that of the first row, so its index is a successor.
    have later (found : line ∈ linesFrom (number + 1) rest) :
        number ≤ line.number ∧ (row :: rest)[line.number - number]?.map Text.trim = some line.text := by
      obtain ⟨bound, same⟩ := ih found
      have index : line.number - number = line.number - (number + 1) + 1 := by omega
      exact ⟨by omega, by rw [index, List.getElem?_cons_succ, same]⟩
    rw [linesFrom] at member
    split at member
    · rcases List.mem_cons.mp member with same | found
      · subst line
        simp
      · exact later found
    · exact later member

theorem lines_append (before after : Text) :
    lines (before ++ '\n' :: after) =
      lines before ++ (lines after).map (Line.shift (before.count '\n' + 1)) := by
  rw [lines, Text.rows_append, linesFrom_append, Text.length_rows, linesFrom_add]
  rfl

end PageSketch.Source
