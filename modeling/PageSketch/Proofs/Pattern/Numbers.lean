import PageSketch.Proofs.Pattern.Grammar
import PageSketch.Proofs.Text.Digit

/-! Numbers that a pattern looks for in a text. A pattern that reads a number behind a sign without digits finds
the first number that stands as the sign and what follows ask, and takes all its digits. -/
namespace PageSketch

/-- A run of digits that does not go on behind it. -/
structure Text.IsNumber (number behind : Text) : Prop where
  filled : number ≠ []
  digits : ∀ char ∈ number, isDigit char = true
  ends : ∀ char ∈ behind.head?, isDigit char = false

/-- The number is the first one that stands in the text, with what is in front of it and behind it, as `stands`
asks. -/
def Text.IsFirstNumber (stands : (front number behind : Text) → Prop) (text number : Text) : Prop :=
  ∃ front behind, text = front ++ number ++ behind ∧ stands front number behind ∧
    ∀ front' number' behind', text = front' ++ number' ++ behind' → stands front' number' behind' →
      front.length ≤ front'.length

/-- The first number that stands as asked is written in ASCII digits, and this is its value. -/
def Text.IsFirstValue (stands : (front number behind : Text) → Prop) (text : Text) (value : Nat) : Prop :=
  ∃ number, IsFirstNumber stands text number ∧ (∀ char ∈ number, char.isDigit = true) ∧
    Nat.ofDigitChars 10 number 0 = value

namespace Text

variable {stands : (front number behind : Text) → Prop} {text number number' behind behind' : Text}

theorem IsNumber.startsDark (isNumber : IsNumber number behind) :
    ∀ char ∈ (number ++ behind).head?, isBlank char = false := by
  obtain ⟨digit, digits, rfl⟩ := List.exists_cons_of_ne_nil isNumber.filled
  rintro char ⟨⟩
  exact isBlank_of_isWordChar (isWordChar_of_isDigit (isNumber.digits digit List.mem_cons_self))

theorem IsNumber.unique (isNumber : IsNumber number behind) (isNumber' : IsNumber number' behind')
    (same : number ++ behind = number' ++ behind') : number = number' := by
  rw [← takeWhile_run isNumber.digits isNumber.ends, same, takeWhile_run isNumber'.digits isNumber'.ends]

theorem IsFirstNumber.unique
    (numbers : ∀ {front number behind}, stands front number behind → IsNumber number behind)
    (first : IsFirstNumber stands text number) (first' : IsFirstNumber stands text number') :
    number = number' := by
  obtain ⟨front, behind, same, holds, least⟩ := first
  obtain ⟨front', behind', same', holds', least'⟩ := first'
  have length := Nat.le_antisymm (least _ _ _ same' holds') (least' _ _ _ same holds)
  rw [same, List.append_assoc, List.append_assoc] at same'
  obtain ⟨_, rest⟩ := List.append_inj same' length
  exact (numbers holds).unique (numbers holds') rest

private theorem length_le_of_noDigit {sign front : Text} (noDigit : ∀ char ∈ sign, isDigit char = false)
    (isNumber : IsNumber number' behind') (same : sign ++ number ++ behind = front ++ number' ++ behind') :
    sign.length ≤ front.length := by
  rw [List.append_assoc, List.append_assoc] at same
  rcases List.append_eq_append_iff.mp same with ⟨middle, longer, _⟩ | ⟨middle, shorter, rest⟩
  · rw [longer, List.length_append]
    exact Nat.le_add_right _ _
  · cases middle with
    | nil => simp [shorter]
    | cons char others =>
      -- The sign goes on with the first digit of the number.
      obtain ⟨digit, digits, rfl⟩ := List.exists_cons_of_ne_nil isNumber.filled
      obtain ⟨rfl, _⟩ := List.cons.inj rest
      have dark := noDigit digit (by simp [shorter])
      rw [isNumber.digits digit List.mem_cons_self] at dark
      cases dark

end Text

namespace Pattern

theorem reads_digits {before : Option Char} {letters rest : Text} {groups : List Text} :
    digits.Reads before letters groups rest ↔ Text.IsNumber letters rest ∧ groups = [] := by
  rw [digits, reads_several]
  constructor
  · rintro ⟨filled, all, ends, rfl⟩
    exact ⟨⟨filled, all, ends⟩, rfl⟩
  · rintro ⟨⟨filled, all, ends⟩, rfl⟩
    exact ⟨filled, all, ends, rfl⟩

/-- The pattern reads just the numbers that stand as asked, each in its first group behind a sign without
digits. -/
structure FindsNumbers (pattern : Pattern) (stands : (front number behind : Text) → Prop) : Prop where
  isNumber {front number behind : Text} : stands front number behind → Text.IsNumber number behind
  sound {front letters rest : Text} {groups : List Text} :
    pattern.Reads front.getLast? letters groups rest →
      ∃ sign number behind others, letters ++ rest = sign ++ number ++ behind ∧ groups = number :: others ∧
        (∀ char ∈ sign, Text.isDigit char = false) ∧ stands (front ++ sign) number behind
  complete {front number behind : Text} :
    stands front number behind →
      ∃ before sign letters groups rest, front = before ++ sign ∧ sign ++ number ++ behind = letters ++ rest ∧
        pattern.Reads before.getLast? letters groups rest

variable {pattern : Pattern} {stands : (front number behind : Text) → Prop} {text number : Text}

private theorem FindsNumbers.isFirstNumber_of_firstGroup? (finds : pattern.FindsNumbers stands)
    (group : pattern.firstGroup? text = some number) : Text.IsFirstNumber stands text number := by
  obtain ⟨found, search, own⟩ := Option.bind_eq_some_iff.mp group
  obtain ⟨left, right, rfl, here, least⟩ := exists_place_of_find? search
  obtain ⟨letters, groups, rest, rfl, tells, reads⟩ := exists_reading_of_matchAt? here
  obtain ⟨sign, first, behind, others, same, rfl, noDigit, holds⟩ := finds.sound reads
  have taken : some first = some number := by
    rw [← own, Match.group?, ← List.getElem?_map, tells.groups]
    rfl
  cases taken
  refine ⟨left ++ sign, behind, by rw [same]; simp, holds, ?_⟩
  intro front' number' behind' place holds'
  obtain ⟨before, sign', letters', groups', rest', rfl, same', reads'⟩ := finds.complete holds'
  have atPlace : left ++ (letters ++ rest) = before ++ (letters' ++ rest') := by
    rw [place, ← same']
    simp
  have reached := least before (letters' ++ rest') atPlace
    (isSome_matchAt?_iff.mpr ⟨letters', groups', rest', rfl, reads'⟩)
  -- The other number is not in front of the place of this match, and so not within its sign.
  obtain ⟨between, rfl⟩ : ∃ between, before = left ++ between := by
    have starts : left <+: before ++ (letters' ++ rest') := ⟨_, atPlace⟩
    obtain ⟨between, joined⟩ := List.prefix_of_prefix_length_le starts (List.prefix_append _ _) reached
    exact ⟨between, joined.symm⟩
  rw [List.append_assoc, List.append_cancel_left_eq, same, ← same'] at atPlace
  have behindSign : sign.length ≤ (between ++ sign').length :=
    Text.length_le_of_noDigit noDigit (finds.isNumber holds') (by simpa using atPlace)
  simp only [List.length_append] at behindSign ⊢
  omega

/-- The first group of the first match is the first number that stands as asked. -/
theorem FindsNumbers.firstGroup?_eq_some_iff (finds : pattern.FindsNumbers stands) :
    pattern.firstGroup? text = some number ↔ Text.IsFirstNumber stands text number := by
  refine ⟨finds.isFirstNumber_of_firstGroup?, fun first => ?_⟩
  obtain ⟨front, behind, rfl, holds, _⟩ := id first
  obtain ⟨before, sign, letters, groups, rest, rfl, same, reads⟩ := finds.complete holds
  have occurs : pattern.occursIn (before ++ sign ++ number ++ behind) = true := by
    rw [occursIn_iff]
    refine ⟨before, letters ++ rest, by rw [← same]; simp, ?_⟩
    exact isSome_matchAt?_iff.mpr ⟨letters, groups, rest, rfl, reads⟩
  obtain ⟨found, search⟩ := Option.isSome_iff_exists.mp occurs
  obtain ⟨left, right, place, here, _⟩ := exists_place_of_find? search
  obtain ⟨letters', groups', rest', rfl, tells, reads'⟩ := exists_reading_of_matchAt? here
  obtain ⟨_, other, _, others, _, rfl, _, _⟩ := finds.sound reads'
  have group : pattern.firstGroup? (before ++ sign ++ number ++ behind) = some other := by
    rw [firstGroup?, search, Option.bind_some, Match.group?, ← List.getElem?_map, tells.groups]
    rfl
  rw [group, (finds.isFirstNumber_of_firstGroup? group).unique finds.isNumber first]

theorem FindsNumbers.bind_readNat_eq_some_iff (finds : pattern.FindsNumbers stands) {value : Nat} :
    (pattern.firstGroup? text).bind Text.readNat = some value ↔ Text.IsFirstValue stands text value := by
  simp only [Option.bind_eq_some_iff, finds.firstGroup?_eq_some_iff, Text.readNat_eq_some_iff]
  refine exists_congr fun number => and_congr_right fun first => and_iff_right ?_
  obtain ⟨_, _, _, holds, _⟩ := first
  exact (finds.isNumber holds).filled

end Pattern

end PageSketch
