import PageSketch.Proofs.Source.Passage
import PageSketch.Proofs.Source.Row
import PageSketch.Proofs.Text.Occurrence

/-! The directives that stand on the rows of a source, found there by their names alone. -/
namespace PageSketch.Source

/-- The value of a row that is the directive of this name: what follows the name, unless that goes on. -/
def valueOn? (name : String) (row : Text) : Option Text :=
  match Text.after? ('@' :: name.toList) row.trim with
  | some rest => if rest.head?.any isNameChar then none else some rest.trim
  | none => none

def startValue? (row : Text) : Option Text := valueOn? "component" row

/-- The name of the component that a row with this value starts, by the number of components before. -/
def nameAt (place : Nat) (value : Text) : String :=
  if value.isEmpty then s!"Component{place + 1}" else String.ofList value

def IsWord (name : String) : Prop := name.toList ≠ [] ∧ name.toList.all isNameChar = true

variable {name : String} {line : Line} {row : Text}

theorem isWord_component : IsWord "component" := ⟨by decide, by decide⟩

theorem valueOn?_eq_some_iff (word : IsWord name) {value : Text} :
    valueOn? name row = some value ↔ classify row.trim = .directive name.toList value := by
  rw [classify_eq_directive_iff, valueOn?]
  constructor
  · intro given
    split at given
    · rename_i rest found
      simp only [Option.ite_none_left_eq_some, Option.some.injEq, Bool.not_eq_true] at given
      exact ⟨⟨word.1, List.all_eq_true.mp word.2⟩, rest, Text.after?_eq_some_iff.mp found, given⟩
    · cases given
  · rintro ⟨_, rest, same, ends, rfl⟩
    have found : Text.after? ('@' :: name.toList) row.trim = some rest :=
      Text.after?_eq_some_iff.mpr same
    rw [found]
    simp only [ends, Bool.false_eq_true, if_false]

private theorem Line.value?_eq_some_iff {value : Text} :
    line.value? name = some value ↔ line.kind = .directive name.toList value := by
  unfold Line.value?
  split
  · rename_i found _ kind
    rw [kind, LineKind.directive.injEq, Option.ite_none_right_eq_some, Option.some.injEq]
    refine and_congr_left fun _ => ⟨?_, ?_⟩
    · rintro rfl
      rw [String.toList_ofList]
    · rintro rfl
      rw [String.ofList_toList]
  · rename_i other
    simp only [reduceCtorEq, false_iff]
    exact other _ _

theorem value?_eq_valueOn? (word : IsWord name) (trimmed : line.text = row.trim) :
    line.value? name = valueOn? name row := by
  ext value
  rw [Line.value?_eq_some_iff, valueOn?_eq_some_iff word, ← trimmed, Line.kind]

theorem start?_eq_startValue? (trimmed : line.text = row.trim) : line.start? = startValue? row :=
  value?_eq_valueOn? isWord_component trimmed

/-- A row that counts for nothing is no directive. -/
theorem valueOn?_of_not_counts (idle : counts row.trim = false) (name : String) :
    valueOn? name row = none := by
  have other : row.trim.head? ≠ some '@' := by
    intro starts
    obtain ⟨rest, same⟩ := List.head?_eq_some_iff.mp starts
    rw [same, counts] at idle
    simp at idle
  rw [valueOn?]
  split
  · rename_i rest found
    rw [Text.after?_eq_some_iff.mp found] at other
    exact absurd rfl other
  · rfl

theorem filterMap_start?_linesFrom (number : Nat) (rows : List Text) :
    (linesFrom number rows).filterMap Line.start? = rows.filterMap startValue? := by
  induction rows generalizing number with
  | nil => rfl
  | cons row rest ih =>
    rw [linesFrom]
    split
    · have started : Line.start? ⟨row.trim, number⟩ = startValue? row := start?_eq_startValue? rfl
      rw [List.filterMap_cons, List.filterMap_cons, started, ih]
    · rename_i idle
      have none : startValue? row = none := valueOn?_of_not_counts (by simpa using idle) "component"
      rw [ih, List.filterMap_cons_none none]

/-- Each line that starts a component makes one passage. -/
theorem map_value_passages (found : List Line) :
    (passages found).map Passage.value = found.filterMap Line.start? := by
  induction found with
  | nil => rfl
  | cons line rest ih =>
    cases started : line.start? with
    | none => rw [passages_cons_other started, ih, List.filterMap_cons_none started]
    | some value =>
      rw [passages_cons_start started, List.map_cons, ih, List.filterMap_cons_some started]
      rfl

end PageSketch.Source
