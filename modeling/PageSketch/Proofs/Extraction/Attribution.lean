import PageSketch.Extraction.Testimonials
import PageSketch.Proofs.Text.Occurrence
import PageSketch.Proofs.Text.Trim

/-! Whose words a testimonial has: `Name, Role at Company` and `Name, Role, Company` are read back as they were
written. A name ends at the first comma, and what stands behind it is cut at the first `at` between spaces before
it is cut at a comma. -/
namespace PageSketch

namespace Text

/-- A text with something in it and no blank at either end. -/
structure IsTidy (text : Text) : Prop where
  filled : text ≠ []
  trimmed : trim text = text

theorem IsTidy.trim_append {first last : Text} (starts : first.IsTidy) (ends : last.IsTidy) (middle : Text) :
    trim (first ++ middle ++ last) = first ++ middle ++ last := by
  apply trim_eq_self
  · intro char start
    rw [List.append_assoc, List.head?_append_of_ne_nil _ starts.filled] at start
    exact startsDark starts.trimmed char start
  · intro char finish
    rw [List.getLast?_append_of_ne_nil _ ends.filled] at finish
    exact endsDark ends.trimmed char finish

def spacedWords (text : Text) : List Text := pieces (· = ' ') text

variable {text before : Text}

private theorem atMark_eq : " at ".toList = ' ' :: ("at".toList ++ [' ']) := by decide

private theorem space_notMem_at : ' ' ∉ "at".toList := by decide

private theorem occurrences_at_eq_zero (noAt : "at".toList ∉ spacedWords text) :
    occurrences " at ".toList text = 0 := by
  rw [atMark_eq, occurrences_enclosed space_notMem_at, List.count_eq_zero]
  intro inside
  exact noAt (List.mem_of_mem_tail (List.dropLast_subset _ inside))

/-- An `at` between spaces is the first one when it is not a word of what stands before it: only such a word could
share a space with it. -/
theorem cut?_at (noAt : "at".toList ∉ spacedWords before) (after : Text) :
    cut? " at ".toList (before ++ " at ".toList ++ after) = some (before, after) := by
  have isSpace : decide (' ' = ' ') = true := by decide
  have words : pieces (· = ' ') (before ++ ' ' :: ("at".toList ++ [' '])) =
      pieces (· = ' ') before ++ ["at".toList, []] := by
    rw [pieces_append_mark isSpace, pieces_append_mark isSpace]
    rfl
  have inner : (pieces (· = ' ') before ++ ["at".toList, []]).tail.dropLast =
      (pieces (· = ' ') before).tail ++ ["at".toList] := by
    rw [List.tail_append_of_ne_nil (pieces_ne_nil _ before), List.dropLast_append_of_ne_nil (List.cons_ne_nil _ _)]
    rfl
  have earlier : (pieces (· = ' ') before).tail.count "at".toList = 0 := by
    rw [List.count_eq_zero]
    intro inside
    exact noAt (List.mem_of_mem_tail inside)
  rw [cut?_append_iff (by decide), atMark_eq, occurrences_enclosed space_notMem_at, words, inner,
    List.count_append, earlier, List.count_singleton_self]

private theorem cut?_comma (noComma : ',' ∉ before) (after : Text) :
    cut? [','] (before ++ [','] ++ after) = some (before, after) := by
  rw [cut?_append_iff (List.cons_ne_nil _ _), occurrences_singleton, List.count_append,
    List.count_singleton_self, List.count_eq_zero.mpr noComma]

end Text

namespace Attribution

open Text

private theorem ofText_of_cut {text author rest role company : Text} (named : cut? [','] text = some (author, rest))
    (placed : (cut? " at ".toList rest.trim).or (cut? [','] rest.trim) = some (role, company)) :
    ofText text = ⟨author.trim, role.trim, company.trim⟩ := by
  simp only [ofText, named, placed]

/-- A name, a role and a company are read back from both forms in which they are written, `Name, Role at Company`
and `Name, Role, Company`: from the first one whatever the company is and whether there are commas in the role. -/
theorem ofText_written {name role company : Text} (nameTidy : name.IsTidy) (roleTidy : role.IsTidy)
    (companyTidy : company.IsTidy) (noComma : ',' ∉ name) (noAt : "at".toList ∉ spacedWords role) :
    ofText (name ++ ", ".toList ++ role ++ " at ".toList ++ company) = ⟨name, role, company⟩ ∧
      (',' ∉ role → "at".toList ∉ spacedWords company →
        ofText (name ++ ", ".toList ++ role ++ ", ".toList ++ company) = ⟨name, role, company⟩) := by
  have comma : ", ".toList = [',', ' '] := by decide
  have isSpace : isBlank ' ' = true := by decide
  -- In both forms the first comma is the one behind the name.
  have named (mark : Text) : cut? [','] (name ++ ", ".toList ++ role ++ mark ++ company) =
      some (name, ' ' :: (role ++ mark ++ company)) := by
    have whole : name ++ ", ".toList ++ role ++ mark ++ company =
        name ++ [','] ++ (' ' :: (role ++ mark ++ company)) := by
      rw [comma]
      simp
    rw [whole]
    exact cut?_comma noComma _
  have rest (mark : Text) : trim (' ' :: (role ++ mark ++ company)) = role ++ mark ++ company := by
    rw [trim_cons_blank isSpace, roleTidy.trim_append companyTidy]
  constructor
  · have placed := cut?_at noAt company
    rw [ofText_of_cut (named _) (by rw [rest, placed]; rfl), nameTidy.trimmed, roleTidy.trimmed,
      companyTidy.trimmed]
  · intro plainRole plainCompany
    have whole : role ++ ", ".toList ++ company = role ++ [','] ++ (' ' :: company) := by
      rw [comma]
      simp
    have noAtBehind : "at".toList ∉ spacedWords (' ' :: company) := by
      rw [spacedWords, pieces_cons_mark (by decide), List.mem_cons, not_or]
      exact ⟨by decide, plainCompany⟩
    -- A mark without a comma stands on one side of it.
    have none : cut? " at ".toList (role ++ [','] ++ (' ' :: company)) = none := by
      rw [cut?_eq_none_iff (by decide), List.append_assoc, List.singleton_append,
        occurrences_append_cons (by decide) (by decide), occurrences_at_eq_zero noAt,
        occurrences_at_eq_zero noAtBehind]
    have placed := cut?_comma plainRole (' ' :: company)
    rw [ofText_of_cut (named _) (by rw [rest, whole, none, placed]; rfl), nameTidy.trimmed, roleTidy.trimmed,
      trim_cons_blank isSpace, companyTidy.trimmed]

theorem ofText_written_figtree :
    ofText "Ana Ruiz, Head of Design, Prints at Figtree at Home".toList =
        ⟨"Ana Ruiz".toList, "Head of Design, Prints".toList, "Figtree at Home".toList⟩ ∧
      ofText "Ben Ode, CEO, Oak Labs".toList = ⟨"Ben Ode".toList, "CEO".toList, "Oak Labs".toList⟩ := by
  have tidy (text : String) (filled : text.toList ≠ []) (trimmed : trim text.toList = text.toList) :
      IsTidy text.toList := ⟨filled, trimmed⟩
  constructor
  · exact (ofText_written (tidy "Ana Ruiz" (by decide) (by decide))
      (tidy "Head of Design, Prints" (by decide) (by decide)) (tidy "Figtree at Home" (by decide) (by decide))
      (by decide) (by decide)).1
  · exact (ofText_written (tidy "Ben Ode" (by decide) (by decide)) (tidy "CEO" (by decide) (by decide))
      (tidy "Oak Labs" (by decide) (by decide)) (by decide) (by decide)).2 (by decide) (by decide)

end Attribution

end PageSketch
