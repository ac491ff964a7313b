import PageSketch.Proofs.Text.Pieces

/-! Whether a text starts with a mark, how often the mark stands in it, and where it stands first. -/
namespace PageSketch.Text

theorem after?_eq_some_iff {mark text rest : Text} :
    after? mark text = some rest ↔ text = mark ++ rest := by
  induction mark generalizing text with
  | nil => simp [after?]
  | cons first marks ih =>
    cases text with
    | nil => simp [after?]
    | cons char others =>
      by_cases same : first = char
      · simp [after?, same, ih]
      · simp [after?, same, Ne.symm same]

theorem holds_iff_isInfix {needle text : Text} : holds needle text = true ↔ needle <:+: text := by
  induction text with
  | nil => rw [holds, List.isEmpty_iff, List.infix_nil]
  | cons first rest ih =>
    rw [holds, Bool.or_eq_true, ih, List.isPrefixOf_iff_prefix, List.infix_cons_iff]

/-- How often a mark stands in a text. -/
def occurrences (mark : Text) : Text → Nat
  | [] => 0
  | first :: rest => (if mark.isPrefixOf (first :: rest) then 1 else 0) + occurrences mark rest

variable {mark : Text}

theorem occurrences_eq_zero_iff (marked : mark ≠ []) {text : Text} :
    occurrences mark text = 0 ↔ holds mark text = false := by
  induction text with
  | nil => simp [occurrences, holds, marked]
  | cons first rest ih =>
    rw [occurrences, holds, Nat.add_eq_zero_iff, ih]
    cases mark.isPrefixOf (first :: rest) with
    | true => simp
    | false => simp

/-- A mark does not reach over a character that it lacks. -/
theorem isPrefixOf_append_of_notMem {char : Char} (absent : char ∉ mark) (before after : Text) :
    mark.isPrefixOf (before ++ char :: after) = mark.isPrefixOf before := by
  induction mark generalizing before with
  | nil => rfl
  | cons first rest ih =>
    simp only [List.mem_cons, not_or] at absent
    cases before with
    | nil =>
      have other : (first == char) = false := beq_eq_false_iff_ne.mpr (Ne.symm absent.1)
      simp [List.isPrefixOf, other]
    | cons head tail =>
      rw [List.cons_append, List.isPrefixOf, List.isPrefixOf, ih absent.2]

private theorem isInfix_append_cons_iff {char : Char} (absent : char ∉ mark) (before after : Text) :
    mark <:+: before ++ char :: after ↔ mark <:+: before ∨ mark <:+: after := by
  have starts (before : Text) : mark <+: before ++ char :: after ↔ mark <+: before := by
    rw [← List.isPrefixOf_iff_prefix, isPrefixOf_append_of_notMem absent, List.isPrefixOf_iff_prefix]
  induction before with
  | nil =>
    have here := starts []
    rw [List.nil_append] at here ⊢
    rw [List.infix_cons_iff, here, List.prefix_nil, List.infix_nil]
  | cons first rest ih =>
    have here := starts (first :: rest)
    rw [List.cons_append] at here ⊢
    rw [List.infix_cons_iff, here, List.infix_cons_iff, or_assoc]
    exact or_congr_right ih

/-- A mark without characters that separate pieces stands in one of the pieces. -/
theorem isInfix_iff_exists_piece {isMark : Char → Bool} (unmarked : ∀ char ∈ mark, isMark char = false)
    (text : Text) : mark <:+: text ↔ ∃ piece ∈ pieces isMark text, mark <:+: piece := by
  induction text using pieces_induction isMark with
  | whole text plain => simp [pieces_of_unmarked plain]
  | cut piece found rest plain marked ih =>
    have absent : found ∉ mark := by
      intro member
      rw [unmarked found member] at marked
      cases marked
    rw [isInfix_append_cons_iff absent, ih, pieces_append_mark marked, pieces_of_unmarked plain]
    simp

/-- Around a character that a mark lacks, the mark stands before it or after it. -/
theorem occurrences_append_cons {char : Char} (marked : mark ≠ []) (absent : char ∉ mark)
    (before after : Text) :
    occurrences mark (before ++ char :: after) = occurrences mark before + occurrences mark after := by
  induction before with
  | nil =>
    have none : mark.isPrefixOf (char :: after) = false := by
      rw [← List.nil_append (char :: after), isPrefixOf_append_of_notMem absent]
      cases mark with
      | nil => exact absurd rfl marked
      | cons => rfl
    rw [List.nil_append, occurrences, occurrences, none]
    rfl
  | cons first rest ih =>
    rw [List.cons_append, occurrences, occurrences, ih, ← List.cons_append,
      isPrefixOf_append_of_notMem absent, Nat.add_assoc]

private theorem occurrences_of_length_lt {text : Text} (short : text.length < mark.length) :
    occurrences mark text = 0 := by
  induction text with
  | nil => rfl
  | cons first rest ih =>
    have other : mark.isPrefixOf (first :: rest) = false := by
      rw [Bool.eq_false_iff]
      intro starts
      exact absurd (List.isPrefixOf_iff_prefix.mp starts).length_le (by omega)
    rw [occurrences, other, ih (by rw [List.length_cons] at short; omega)]
    rfl

private theorem occurrences_self (marked : mark ≠ []) : occurrences mark mark = 1 := by
  obtain ⟨first, rest, rfl⟩ := List.exists_cons_of_ne_nil marked
  have whole : (first :: rest).isPrefixOf (first :: rest) = true :=
    List.isPrefixOf_iff_prefix.mpr List.prefix_rfl
  rw [occurrences, whole, occurrences_of_length_lt (by simp)]
  rfl

private theorem occurrences_append_self_pos (marked : mark ≠ []) (before : Text) :
    0 < occurrences mark (before ++ mark) := by
  induction before with
  | nil => simp [occurrences_self marked]
  | cons first rest ih =>
    rw [List.cons_append, occurrences]
    omega

private theorem isPrefixOf_append_append (mark before after : Text) :
    mark.isPrefixOf (before ++ mark ++ after) = mark.isPrefixOf (before ++ mark) := by
  rw [Bool.eq_iff_iff, List.isPrefixOf_iff_prefix, List.isPrefixOf_iff_prefix]
  constructor
  · intro starts
    exact List.prefix_of_prefix_length_le starts (List.prefix_append _ after) (by simp)
  · exact fun starts => starts.trans (List.prefix_append _ after)

/-- A text is cut at the end of a part that ends in the mark just if the mark stands nowhere else in
that part. -/
theorem cut?_append_iff (marked : mark ≠ []) (before after : Text) :
    cut? mark (before ++ mark ++ after) = some (before, after) ↔
      occurrences mark (before ++ mark) = 1 := by
  induction before with
  | nil =>
    obtain ⟨first, rest, rfl⟩ := List.exists_cons_of_ne_nil marked
    have starts : (first :: rest).isPrefixOf (first :: (rest ++ after)) = true :=
      List.isPrefixOf_iff_prefix.mpr (List.prefix_append (first :: rest) after)
    refine iff_of_true ?_ (by rw [List.nil_append, occurrences_self marked])
    rw [List.nil_append, List.cons_append, cut?, if_pos starts, ← List.cons_append, List.drop_left]
  | cons first rest ih =>
    have same := isPrefixOf_append_append mark (first :: rest) after
    have more := occurrences_append_self_pos marked rest
    rw [List.cons_append, List.cons_append] at same ⊢
    rw [cut?, occurrences, same]
    split
    · refine iff_of_false (by simp) (by omega)
    · rw [Nat.zero_add, ← ih]
      simp [Option.map_eq_some_iff]

theorem cut?_eq_none_iff (marked : mark ≠ []) {text : Text} :
    cut? mark text = none ↔ occurrences mark text = 0 := by
  induction text with
  | nil => simp [cut?, occurrences, marked]
  | cons first rest ih =>
    rw [cut?, occurrences, Nat.add_eq_zero_iff, ← ih]
    by_cases starts : mark.isPrefixOf (first :: rest) = true
    · simp [starts]
    · simp [starts]

theorem occurrences_singleton (char : Char) (text : Text) : occurrences [char] text = text.count char := by
  induction text with
  | nil => rfl
  | cons first rest ih =>
    rw [occurrences, ih, List.count_cons, Nat.add_comm]
    by_cases same : first = char
    · simp [same]
    · simp [same, Ne.symm same]

/-- A mark does not start in front of the first place of its first character. -/
theorem occurrences_cons_append {first : Char} {before : Text} (absent : first ∉ before) (rest after : Text) :
    occurrences (first :: rest) (before ++ after) = occurrences (first :: rest) after := by
  induction before with
  | nil => rfl
  | cons head tail ih =>
    rw [List.mem_cons, not_or] at absent
    have apart : (first == head) = false := beq_eq_false_iff_ne.mpr absent.1
    rw [List.cons_append, occurrences, ih absent.2, List.isPrefixOf, apart]
    exact Nat.zero_add _

theorem takeWhile_until {edge : Char} {word : Text} (plain : edge ∉ word) (after : Text) :
    (word ++ edge :: after).takeWhile (· != edge) = word := by
  apply takeWhile_run
  · intro char member
    rw [bne_iff_ne]
    rintro rfl
    exact plain member
  · rintro char ⟨⟩
    exact bne_self_eq_false edge

private theorem isPrefixOf_until_iff {edge : Char} {word body : Text} (plain : edge ∉ word) (unmarked : edge ∉ body)
    (after : Text) : (word ++ [edge]).isPrefixOf (body ++ edge :: after) = true ↔ body = word := by
  rw [List.isPrefixOf_iff_prefix]
  constructor
  · rintro ⟨rest, same⟩
    rw [List.append_assoc, List.singleton_append] at same
    have cut := congrArg (List.takeWhile (· != edge)) same
    rw [takeWhile_until plain, takeWhile_until unmarked] at cut
    exact cut.symm
  · rintro rfl
    exact ⟨after, by rw [List.append_assoc, List.singleton_append]⟩

private theorem notMem_of_unmarked {edge : Char} {text : Text}
    (unmarked : ∀ char ∈ text, decide (char = edge) = false) : edge ∉ text := by
  intro present
  simpa using unmarked edge present

/-- The pieces that a character ends, counted by whether the first of them is the word. -/
theorem count_dropLast_pieces {edge : Char} {word : Text} (plain : edge ∉ word) (text : Text) :
    (pieces (· = edge) text).dropLast.count word =
      (if (word ++ [edge]).isPrefixOf text = true then 1 else 0) +
        (pieces (· = edge) text).tail.dropLast.count word := by
  induction text using pieces_induction (· = edge) with
  | whole text unmarked =>
    have unclosed : (word ++ [edge]).isPrefixOf text = false := by
      rw [Bool.eq_false_iff]
      intro starts
      have part := (List.isPrefixOf_iff_prefix.mp starts).subset
      exact notMem_of_unmarked unmarked (part (by simp))
    rw [unclosed, pieces_of_unmarked unmarked]
    rfl
  | cut body closing after unmarked isEdge _ =>
    obtain rfl : closing = edge := of_decide_eq_true isEdge
    have starts := isPrefixOf_until_iff plain (notMem_of_unmarked unmarked) after
    rw [pieces_append_mark isEdge, pieces_of_unmarked unmarked, List.singleton_append, List.tail_cons,
      List.dropLast_cons_of_ne_nil (pieces_ne_nil _ after), List.count_cons, Nat.add_comm]
    simp only [starts, beq_iff_eq]

/-- A word with the same character on both sides stands in a text as often as it is one of the pieces between
two such characters. -/
theorem occurrences_enclosed {edge : Char} {word : Text} (plain : edge ∉ word) (text : Text) :
    occurrences (edge :: (word ++ [edge])) text = (pieces (· = edge) text).tail.dropLast.count word := by
  induction text using pieces_induction (· = edge) with
  | whole text unmarked =>
    have none := occurrences_cons_append (notMem_of_unmarked unmarked) (word ++ [edge]) []
    rw [List.append_nil] at none
    rw [none, pieces_of_unmarked unmarked]
    rfl
  | cut piece found rest unmarked isEdge ih =>
    obtain rfl : found = edge := of_decide_eq_true isEdge
    rw [occurrences_cons_append (notMem_of_unmarked unmarked), pieces_append_mark isEdge,
      pieces_of_unmarked unmarked, List.singleton_append, List.tail_cons, occurrences, ih, List.isPrefixOf,
      beq_self_eq_true, Bool.true_and]
    exact (count_dropLast_pieces plain rest).symm

end PageSketch.Text
