import PageSketch.Proofs.Text.Occurrence
import PageSketch.Proofs.Text.Words

/-! Phrases: what can stand on a trimmed line. A phrase stands in the lower case of a text just if it stands in the
lower case of one of its lines, for it reaches over no line break and takes no part in the blanks around a line. -/
namespace PageSketch.Text

/-- A text on one row that is not empty and has no blanks around it. -/
structure IsPhrase (text : Text) : Prop where
  nonempty : text ≠ []
  isRow : '\n' ∉ text
  isTrimmed : text.trim = text

private theorem isPhrase_iff {text : Text} : IsPhrase text ↔ text ≠ [] ∧ '\n' ∉ text ∧ text.trim = text :=
  ⟨fun ⟨nonempty, isRow, isTrimmed⟩ => ⟨nonempty, isRow, isTrimmed⟩,
    fun ⟨nonempty, isRow, isTrimmed⟩ => ⟨nonempty, isRow, isTrimmed⟩⟩

instance (text : Text) : Decidable (IsPhrase text) := decidable_of_iff' _ isPhrase_iff

variable {mark left right : Text}

private theorem isInfix_blanks_append_iff (filled : mark ≠ []) (start : ∀ char ∈ mark.head?, isBlank char = false)
    (blank : ∀ char ∈ left, isBlank char = true) (text : Text) : mark <:+: left ++ text ↔ mark <:+: text := by
  induction left with
  | nil => rfl
  | cons first rest ih =>
    obtain ⟨own, others⟩ := List.forall_mem_cons.mp blank
    obtain ⟨head, tail, rfl⟩ := List.exists_cons_of_ne_nil filled
    have apart : ¬ head :: tail <+: first :: (rest ++ text) := by
      intro starts
      have dark := start head rfl
      rw [(List.cons_prefix_cons.mp starts).1, own] at dark
      cases dark
    rw [List.cons_append, List.infix_cons_iff, or_iff_right apart]
    exact ih others

private theorem isInfix_append_blanks_iff (filled : mark ≠ []) (finish : ∀ char ∈ mark.getLast?, isBlank char = false)
    (blank : ∀ char ∈ right, isBlank char = true) (text : Text) : mark <:+: text ++ right ↔ mark <:+: text := by
  have mirrored : ∀ char ∈ right.reverse, isBlank char = true := by
    intro char member
    exact blank char (List.mem_reverse.mp member)
  rw [← List.reverse_infix, List.reverse_append, isInfix_blanks_append_iff ?_ ?_ mirrored, List.reverse_infix]
  · exact List.reverse_ne_nil_iff.mpr filled
  · rwa [List.head?_reverse]

namespace IsPhrase

variable (phrase : IsPhrase mark)

include phrase

private theorem isInfix_lower_trim_iff (text : Text) : mark <:+: lower (trim text) ↔ mark <:+: lower text := by
  obtain ⟨left, right, same, before, after⟩ := exists_lower_eq_append_trim text
  rw [same, isInfix_append_blanks_iff phrase.nonempty (endsDark phrase.isTrimmed) after,
    isInfix_blanks_append_iff phrase.nonempty (startsDark phrase.isTrimmed) before]

private theorem isInfix_lower_iff_exists_row (text : Text) :
    mark <:+: lower text ↔ ∃ row ∈ rows text, mark <:+: lower row := by
  have unmarked : ∀ char ∈ mark, decide (char = '\n') = false := by
    intro char member
    apply decide_eq_false
    rintro rfl
    exact phrase.isRow member
  have blank : ∀ char, decide (char = '\n') = true → isBlank char = true := by
    intro char isFeed
    rw [of_decide_eq_true isFeed]
    decide
  rw [isInfix_iff_exists_piece unmarked, pieces_lower blank]
  constructor
  · rintro ⟨piece, member, inside⟩
    obtain ⟨row, among, rfl⟩ := List.mem_map.mp member
    exact ⟨row, among, inside⟩
  · rintro ⟨row, among, inside⟩
    exact ⟨lower row, List.mem_map_of_mem among, inside⟩

/-- Whether a phrase is looked for in the lower case of a whole text or of each of its lines makes no difference. -/
theorem isInfix_lower_iff (text : Text) : mark <:+: lower text ↔ ∃ line ∈ lines text, mark <:+: lower line := by
  rw [phrase.isInfix_lower_iff_exists_row]
  constructor
  · rintro ⟨row, member, inside⟩
    have kept := (phrase.isInfix_lower_trim_iff row).mpr inside
    have filled : trim row ≠ [] := by
      intro empty
      rw [empty] at kept
      exact phrase.nonempty (List.infix_nil.mp kept)
    exact ⟨trim row, mem_lines_iff.mpr ⟨⟨row, member, rfl⟩, filled⟩, kept⟩
  · rintro ⟨line, member, inside⟩
    obtain ⟨⟨row, among, rfl⟩, _⟩ := mem_lines_iff.mp member
    exact ⟨row, among, (phrase.isInfix_lower_trim_iff row).mp inside⟩

end IsPhrase

end PageSketch.Text
