import PageSketch.Text.Blank
import PageSketch.Text.LetterCase
import PageSketch.Text.WordChar

/-! Blanks are few, so what is true of all of them is checked on each. A blank ends words, has no letter
case, and hides no letter from a sigma. -/
namespace PageSketch.Text

def CodeRanges.characters (ranges : CodeRanges) : List Char :=
  ranges.flatMap fun (first, last) => (List.range' first (last + 1 - first)).map Char.ofNat

variable {char : Char}

theorem mem_characters_of_contains {ranges : CodeRanges} (inside : ranges.contains char.toNat = true) :
    char ∈ ranges.characters := by
  rw [CodeRanges.characters, List.mem_flatMap]
  induction ranges with
  | nil => cases inside
  | cons range rest ih =>
    simp only [CodeRanges.contains, Bool.and_eq_true, Bool.or_eq_true, decide_eq_true_eq] at inside
    rcases inside with ⟨above, below | later⟩
    · refine ⟨range, List.mem_cons_self, List.mem_map.mpr ⟨char.toNat, ?_, Char.ofNat_toNat char⟩⟩
      rw [List.mem_range'_1]
      omega
    · obtain ⟨found, member, listed⟩ := ih later
      exact ⟨found, List.mem_cons_of_mem _ member, listed⟩

/-- What text around it sees of a blank. -/
structure IsBreak (char : Char) : Prop where
  notWordChar : isWordChar char = false
  notIgnorable : ignorableCodes.contains char.toNat = false
  uncased : casedCodes.contains char.toNat = false
  notSigma : char ≠ 'Σ'
  lower : lowerChar char = [char]

theorem isBreak_of_isBlank (blank : isBlank char = true) : IsBreak char := by
  have each : (blankCodes.characters.all fun char => decide (isWordChar char = false ∧
      ignorableCodes.contains char.toNat = false ∧ casedCodes.contains char.toNat = false ∧
      char ≠ 'Σ' ∧ lowerChar char = [char])) = true := by decide +kernel
  have own := List.all_eq_true.mp each char (mem_characters_of_contains blank)
  obtain ⟨word, ignorable, cased, sigma, lower⟩ := of_decide_eq_true own
  exact ⟨word, ignorable, cased, sigma, lower⟩

theorem isBlank_of_isWordChar (word : isWordChar char = true) : isBlank char = false := by
  rw [Bool.eq_false_iff]
  intro blank
  rw [(isBreak_of_isBlank blank).notWordChar] at word
  cases word

end PageSketch.Text
