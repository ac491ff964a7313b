import PageSketch.Proofs.Text.Lowering
import PageSketch.Text.Digit

/-! Digits of any script belong to words, as the ASCII letters do, which are no digits. Only a text of ASCII digits
writes a number, which may have any length. -/
namespace PageSketch.Text

variable {char : Char}

/-- Whether ascending ranges are all inside the ranges, by one walk along both. -/
def CodeRanges.holdsAll : CodeRanges → List (Nat × Nat) → Bool
  | _, [] => true
  | [], _ :: _ => false
  | (first, last) :: rest, head :: others =>
    decide (first ≤ head.1) && CodeRanges.holdsAll rest ((head :: others).dropWhile fun range => range.2 ≤ last)

private theorem contains_of_holdsAll {ranges : CodeRanges} {inner : List (Nat × Nat)}
    (ascending : inner.Pairwise fun range later => range.1 ≤ later.1) (inside : ranges.holdsAll inner = true)
    {range : Nat × Nat} (member : range ∈ inner) {code : Nat} (above : range.1 ≤ code) (below : code ≤ range.2) :
    ranges.contains code = true := by
  induction ranges generalizing inner with
  | nil =>
    cases inner with
    | nil => cases member
    | cons head others => cases inside
  | cons own rest ih =>
    obtain ⟨head, others, rfl⟩ := List.exists_cons_of_ne_nil (List.ne_nil_of_mem member)
    obtain ⟨starts, walk⟩ := Bool.and_eq_true_iff.mp inside
    have first : own.1 ≤ range.1 := by
      rcases List.mem_cons.mp member with rfl | later
      · exact of_decide_eq_true starts
      · exact Nat.le_trans (of_decide_eq_true starts) (List.rel_of_pairwise_cons ascending later)
    have reached : own.1 ≤ code := Nat.le_trans first above
    simp only [CodeRanges.contains, Bool.and_eq_true, Bool.or_eq_true, decide_eq_true_eq]
    refine ⟨reached, ?_⟩
    have parts : (head :: others).takeWhile (fun range : Nat × Nat => decide (range.2 ≤ own.2)) ++
      (head :: others).dropWhile (fun range : Nat × Nat => decide (range.2 ≤ own.2)) = head :: others :=
      List.takeWhile_append_dropWhile
    rw [← parts, List.mem_append] at member
    rcases member with within | beyond
    · have small := List.mem_takeWhile_imp within
      exact .inl (Nat.le_trans below (of_decide_eq_true small))
    · exact .inr (ih (ascending.sublist (List.dropWhile_sublist _)) walk beyond)

theorem isWordChar_of_isDigit (digit : isDigit char = true) : isWordChar char = true := by
  have ascending : digitCodes.Pairwise fun range later => range.1 ≤ later.1 := by decide +kernel
  have inside : wordCodes.holdsAll digitCodes = true := by decide +kernel
  obtain ⟨range, member, above, below⟩ := covers_iff.mp (covers_of_contains digit)
  exact contains_of_holdsAll ascending inside member above below

theorem isDigit_of_isBlank (blank : isBlank char = true) : isDigit char = false := by
  rw [Bool.eq_false_iff]
  intro digit
  rw [isBlank_of_isWordChar (isWordChar_of_isDigit digit)] at blank
  cases blank

def letterCodes : CodeRanges := [(0x41, 0x5A), (0x61, 0x7A)]

private theorem contains_letterCodes_of_toLower (lower : letterCodes.contains char.toLower.toNat = true) :
    letterCodes.contains char.toNat = true := by
  unfold Char.toLower at lower
  split at lower
  · rename_i capital
    have above : 0x41 ≤ char.toNat := UInt32.le_iff_toNat_le.mp capital.1
    have below : char.toNat ≤ 0x5A := UInt32.le_iff_toNat_le.mp capital.2
    simp [letterCodes, CodeRanges.contains, above, below]
  · exact lower

/-- A text that is an ASCII word in some letter case has only letters. -/
theorem letters_of_map_toLower {text word : Text} (spelt : text.map Char.toLower = word)
    (letters : word.all (letterCodes.contains ·.toNat) = true) :
    ∀ char ∈ text, isWordChar char = true ∧ isDigit char = false := by
  have each : (letterCodes.characters.all fun char => isWordChar char && !isDigit char) = true := by
    decide +kernel
  subst spelt
  intro char member
  have lower := List.all_eq_true.mp letters char.toLower (List.mem_map_of_mem member)
  have own := List.all_eq_true.mp each char (mem_characters_of_contains (contains_letterCodes_of_toLower lower))
  simpa using own

/-- Digits are read from the left, each behind the ones before it. -/
theorem readDigits_eq_some_iff {start value : Nat} {text : Text} :
    readDigits start text = some value ↔
      (∀ char ∈ text, char.isDigit = true) ∧ Nat.ofDigitChars 10 text start = value := by
  induction text generalizing start with
  | nil => simp [readDigits]
  | cons first rest ih =>
    rw [readDigits, Nat.ofDigitChars_cons, List.forall_mem_cons]
    by_cases digit : first.isDigit = true
    · rw [if_pos digit, ih]
      simp [digit]
    · simp [digit]

theorem readNat_eq_some_iff {text : Text} {value : Nat} :
    readNat text = some value ↔
      text ≠ [] ∧ (∀ char ∈ text, char.isDigit = true) ∧ Nat.ofDigitChars 10 text 0 = value := by
  cases text with
  | nil => simp [readNat]
  | cons first rest =>
    rw [readNat, List.isEmpty_cons, if_neg Bool.false_ne_true, readDigits_eq_some_iff]
    simp

end PageSketch.Text
