import Mathlib.Data.List.Infix
import Mathlib.Data.List.TakeWhile
import PageSketch.Proofs.Pattern.Inline

/-! What the parts that patterns are built from take at a place, and where a search finds a match. Letters and
whole runs match in one way only, so they come to the result of that one match. -/
namespace PageSketch.Pattern

variable {Result : Type} {pattern : Pattern}

theorem getLast?_cons_or (first : Char) (taken : Text) (before : Option Char) :
    ((first :: taken).getLast?).or before = taken.getLast?.or (some first) := by
  rw [List.getLast?_cons]
  cases taken.getLast? <;> rfl

theorem wholeRun_eq (allows : Char → Bool) (start : Text) (length : Nat) (before : Option Char)
    (text : Text) :
    wholeRun allows start length before text =
      ⟨⟨start, length + (text.takeWhile allows).length⟩, (text.takeWhile allows).getLast?.or before,
        text.dropWhile allows, []⟩ := by
  induction text generalizing length before with
  | nil => rfl
  | cons first rest ih =>
    rw [wholeRun, List.takeWhile_cons, List.dropWhile_cons]
    by_cases allowed : allows first
    · rw [if_pos allowed, if_pos allowed, if_pos allowed, ih, getLast?_cons_or, List.length_cons,
        Nat.add_assoc, Nat.add_comm 1]
    · rw [if_neg allowed, if_neg allowed, if_neg allowed]
      rfl

theorem useAt_run (allows : Char → Bool) (before : Option Char) (text : Text)
    (use : Match → Option Result) :
    (run allows).useAt before text use =
      use ⟨⟨text, (text.takeWhile allows).length⟩, (text.takeWhile allows).getLast?.or before,
        text.dropWhile allows, []⟩ := by
  rw [useAt, wholeRun_eq, Nat.zero_add]

theorem useAt_several (allows : Char → Bool) (before : Option Char) (text : Text)
    (use : Match → Option Result) :
    (several allows).useAt before text use =
      if text.takeWhile allows = [] then none
      else use ⟨⟨text, (text.takeWhile allows).length⟩, (text.takeWhile allows).getLast?,
        text.dropWhile allows, []⟩ := by
  change (next (one allows) (run allows)).useAt before text use = _
  cases text with
  | nil => rfl
  | cons first rest =>
    rw [useAt, useAt, List.takeWhile_cons, List.dropWhile_cons]
    by_cases allowed : allows first
    · rw [if_pos allowed, if_pos allowed, if_pos allowed, useAt_run, if_neg (List.cons_ne_nil _ _),
        ← getLast?_cons_or first _ none, Option.or_none, List.length_cons, Nat.add_comm _ 1]
      rfl
    · rw [if_neg allowed, if_neg allowed, if_pos rfl]

theorem text_takeWhile (allows : Char → Bool) (text : Text) :
    Slice.text ⟨text, (text.takeWhile allows).length⟩ = text.takeWhile allows :=
  (List.prefix_iff_eq_take.mp (List.takeWhile_prefix allows)).symm

/-- What is left of a text behind letters that stand at its front. -/
def behind? (same : Char → Char → Bool) : (letters text : Text) → Option Text
  | [], text => some text
  | _ :: _, [] => none
  | letter :: letters, first :: rest => if same letter first then behind? same letters rest else none

private theorem useAt_letters (same : Char → Char → Bool) (letters : Text) (before : Option Char) (text : Text)
    (use : Match → Option Result) :
    (sequence (letters.map fun letter => one (same letter))).useAt before text use =
      (behind? same letters text).bind fun rest =>
        use ⟨⟨text, letters.length⟩, (text.take letters.length).getLast?.or before, rest, []⟩ := by
  induction letters generalizing before text use with
  | nil => rfl
  | cons letter letters ih =>
    change (next (one (same letter)) (sequence (letters.map fun letter => one (same letter)))).useAt
      before text use = _
    cases text with
    | nil => rfl
    | cons first rest =>
      rw [useAt, useAt, behind?]
      by_cases alike : same letter first
      · rw [if_pos alike, if_pos alike, ih, List.length_cons, List.take_succ_cons, getLast?_cons_or,
          Nat.add_comm _ 1]
        rfl
      · rw [if_neg alike, if_neg alike]
        rfl

private theorem behind?_eq_after? (letters text : Text) :
    behind? (fun letter char => char == letter) letters text = Text.after? letters text := by
  induction letters generalizing text with
  | nil => rfl
  | cons letter letters ih =>
    cases text with
    | nil => rfl
    | cons first rest =>
      rw [behind?, Text.after?, ih]
      by_cases same : letter = first
      · rw [if_pos same, if_pos (beq_iff_eq.mpr same.symm)]
      · rw [if_neg same, if_neg (by rw [beq_iff_eq]; exact Ne.symm same)]

theorem useAt_literal (word : String) (before : Option Char) (text : Text) (use : Match → Option Result) :
    (literal word).useAt before text use =
      (Text.after? word.toList text).bind fun rest =>
        use ⟨⟨text, word.toList.length⟩, (text.take word.toList.length).getLast?.or before, rest, []⟩ := by
  rw [← behind?_eq_after?]
  exact useAt_letters (fun letter char => char == letter) word.toList before text use

theorem useAt_caseless (word : String) (before : Option Char) (text : Text) (use : Match → Option Result) :
    (caseless word).useAt before text use =
      (behind? sameLetter word.toList text).bind fun rest =>
        use ⟨⟨text, word.toList.length⟩, (text.take word.toList.length).getLast?.or before, rest, []⟩ :=
  useAt_letters sameLetter word.toList before text use

/-- Only `k` and `s` have forms besides the small and the capital letter. -/
theorem sameLetter_eq {letter : Char} (noK : letter ≠ 'k') (noS : letter ≠ 's') (char : Char) :
    sameLetter letter char = (char.toLower == letter) := by
  simp [sameLetter, beq_eq_false_iff_ne.mpr noK, beq_eq_false_iff_ne.mpr noS]

theorem isSome_useAt_eq_any (pattern : Pattern) (before : Option Char) (text : Text)
    (use : Match → Option Result) :
    (pattern.useAt before text use).isSome =
      (pattern.matchesAt before text).any fun found => (use found).isSome := by
  rw [useAt_eq_findSome?, List.isSome_findSome?]

private theorem isSome_findAfter_iff (pattern : Pattern) (before : Option Char) (text : Text) :
    (pattern.findAfter before text).isSome = true ↔
      ∃ left right, text = left ++ right ∧
        (pattern.matchAt? (left.getLast?.or before) right).isSome = true := by
  induction text generalizing before with
  | nil =>
    rw [findAfter]
    constructor
    · intro found
      exact ⟨[], [], rfl, found⟩
    · rintro ⟨left, right, same, found⟩
      obtain ⟨rfl, rfl⟩ := List.append_eq_nil_iff.mp same.symm
      exact found
  | cons first rest ih =>
    rw [findAfter]
    constructor
    · intro found
      split at found
      · rename_i here
        exact ⟨[], first :: rest, rfl, by rw [List.getLast?_nil, Option.none_or, here]; rfl⟩
      · obtain ⟨left, right, same, later⟩ := (ih (some first)).mp found
        exact ⟨first :: left, right, congrArg (first :: ·) same, by rw [getLast?_cons_or]; exact later⟩
    · rintro ⟨left, right, same, found⟩
      split
      · rfl
      · rename_i none
        cases left with
        | nil =>
          rw [List.nil_append] at same
          rw [← same, List.getLast?_nil, Option.none_or, none] at found
          cases found
        | cons head tail =>
          obtain ⟨rfl, others⟩ := List.cons.inj same
          rw [getLast?_cons_or] at found
          exact (ih (some first)).mpr ⟨tail, right, others, found⟩

theorem occursIn_iff (pattern : Pattern) (text : Text) :
    pattern.occursIn text = true ↔
      ∃ left right, text = left ++ right ∧ (pattern.matchAt? left.getLast? right).isSome = true := by
  refine (pattern.isSome_findAfter_iff none text).trans ?_
  simp only [Option.or_none]

/-- A pattern that only matches at the start of a text is found there or nowhere. -/
theorem find?_eq_matchAt? (bound : ∀ char text, pattern.matchAt? (some char) text = none) (text : Text) :
    pattern.find? text = pattern.matchAt? none text := by
  have later (before : Char) (rest : Text) : pattern.findAfter (some before) rest = none := by
    induction rest generalizing before with
    | nil => exact bound before []
    | cons first rest ih => rw [findAfter, bound, ih]
  cases text with
  | nil => rfl
  | cons first rest =>
    rw [find?, findAfter, later]
    cases pattern.matchAt? none (first :: rest) <;> rfl

/-- Where what stands before a place does not matter, the search goes through the ends of the text. -/
theorem map_find?_eq_findSome? {View : Type} {view : Match → View} {read : Text → Option View}
    (same : ∀ before text, (pattern.matchAt? before text).map view = read text) (text : Text) :
    (pattern.find? text).map view = text.tails.findSome? read := by
  have run (before : Option Char) : (pattern.findAfter before text).map view = text.tails.findSome? read := by
    induction text generalizing before with
    | nil =>
      rw [findAfter, same, List.tails, List.findSome?_singleton]
    | cons first rest ih =>
      rw [findAfter, List.tails_cons, List.findSome?_cons, ← same before]
      cases pattern.matchAt? before (first :: rest) with
      | none => exact ih (some first)
      | some found => rfl
  exact run none

end PageSketch.Pattern
