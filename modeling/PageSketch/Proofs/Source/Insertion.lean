import PageSketch.Proofs.Source.Layout

/-! Sources with one row put in between the others: the lines stay, and those behind the row move down. -/
namespace PageSketch.Source

/-- The source with one more row, which has so many rows before it, or all when there are fewer. -/
def insertRow (position : Nat) (row source : Text) : Text :=
  Text.joined ['\n'] (source.rows.take position ++ row :: source.rows.drop position)

/-- The number of a row after one has been put in that has so many rows before it. -/
def numberAfter (position number : Nat) : Nat := if number ≤ position then number else number + 1

variable {row source : Text}

private theorem rows_insertRow (isRow : '\n' ∉ row) (position : Nat) (source : Text) :
    (insertRow position row source).rows =
      source.rows.take position ++ row :: source.rows.drop position := by
  rw [insertRow, Text.rows_joined (by simp), Text.flatMap_rows]
  intro other member
  rcases List.mem_append.mp member with early | late
  · exact Text.lineFeed_notMem_of_mem_rows (List.mem_of_mem_take early)
  · rcases List.mem_cons.mp late with rfl | later
    · exact isRow
    · exact Text.lineFeed_notMem_of_mem_rows (List.mem_of_mem_drop later)

private theorem map_numberAfter_before {rows : List Text} {position : Nat} (early : rows.length ≤ position) :
    (linesFrom 1 rows).map (Line.renumber (numberAfter position)) = linesFrom 1 rows := by
  refine (List.map_congr_left fun line member => ?_).trans (List.map_id _)
  obtain ⟨low, present⟩ := row_of_mem_linesFrom member
  have inside : line.number - 1 < rows.length := by
    obtain ⟨text, found, _⟩ := Option.map_eq_some_iff.mp present
    exact (List.getElem?_eq_some_iff.mp found).1
  rw [Line.renumber, numberAfter, if_pos (by omega)]
  rfl

private theorem map_numberAfter_behind {number position : Nat} (late : position < number) (rows : List Text) :
    (linesFrom number rows).map (Line.renumber (numberAfter position)) = linesFrom (number + 1) rows := by
  rw [linesFrom_add number 1]
  refine List.map_congr_left fun line member => ?_
  have high := (row_of_mem_linesFrom member).1
  rw [Line.renumber, numberAfter, if_neg (by omega), Line.shift]

/-- The lines of a source stay as they are around those of a row that is put in, but for their numbers. -/
theorem exists_lines_insertRow (isRow : '\n' ∉ row) (position : Nat) (source : Text) :
    ∃ before number behind, lines source = before ++ behind ∧
      lines (insertRow position row source) =
        before.map (Line.renumber (numberAfter position)) ++ linesFrom number [row] ++
          behind.map (Line.renumber (numberAfter position)) := by
  let early := source.rows.take position
  let late := source.rows.drop position
  have split : lines source = linesFrom 1 early ++ linesFrom (1 + early.length) late := by
    rw [lines, ← linesFrom_append, List.take_append_drop]
  have moved : linesFrom (1 + early.length + 1) late =
      (linesFrom (1 + early.length) late).map (Line.renumber (numberAfter position)) := by
    -- A position beyond the last row leaves no lines behind it whose numbers could be told.
    rcases Nat.lt_or_ge source.rows.length position with beyond | inside
    · have none : late = [] := List.drop_eq_nil_of_le beyond.le
      rw [none]
      rfl
    · have length : early.length = position := List.length_take_of_le inside
      exact (map_numberAfter_behind (by omega) late).symm
  refine ⟨linesFrom 1 early, 1 + early.length, linesFrom (1 + early.length) late, split, ?_⟩
  rw [map_numberAfter_before (List.length_take_le _ _), ← moved, lines, rows_insertRow isRow,
    linesFrom_append, List.append_assoc, ← List.singleton_append, linesFrom_append]
  rfl

end PageSketch.Source
