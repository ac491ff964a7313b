import Mathlib.Algebra.Group.Int.Defs
import Mathlib.Algebra.Group.Nat.Defs
import PageSketch.Proofs.Extraction.Fields
import PageSketch.Proofs.Extraction.Shape
import PageSketch.Proofs.Pattern.Numbers

/-! Numbers that are mined from descriptions: the seconds between the slides of a carousel, the columns of a
gallery and the least length of the text in a field. Each is read from the first number that stands as it should,
however long it is, and is given up when its value does not fit. -/
namespace PageSketch

def secondWords : List Text := ["second".toList, "seconds".toList, "sec".toList, "secs".toList]

/-- A number stands alone, directly in front of a word for seconds. -/
structure StandsForSeconds (front number behind : Text) : Prop where
  isNumber : Text.IsNumber number behind
  alone : ∀ char ∈ front.getLast?, Text.isWordChar char = false
  unit : ∃ gap word rest, behind = gap ++ word ++ rest ∧ (∀ char ∈ gap, Text.isBlank char = true) ∧
    word ∈ secondWords ∧ ∀ char ∈ rest.head?, Text.isWordChar char = false

/-- A number stands directly in front of `column`. -/
structure StandsForColumns (number behind : Text) : Prop where
  isNumber : Text.IsNumber number behind
  unit : ∃ gap rest, behind = gap ++ "column".toList ++ rest ∧ ∀ char ∈ gap, Text.isBlank char = true

/-- Nothing, or the word for a length behind blanks. -/
def Text.IsLengthPart (text : Text) : Prop :=
  text = [] ∨ ∃ blank name, text = blank ++ name ∧ blank ≠ [] ∧ (∀ char ∈ blank, isBlank char = true) ∧
    name.map Char.toLower = "length".toList

/-- Nothing, or a colon in front of blanks. -/
def Text.IsColonPart (text : Text) : Prop :=
  text = [] ∨ ∃ blank, text = ':' :: blank ∧ ∀ char ∈ blank, isBlank char = true

/-- A word for a minimum, with at most the word for a length, blanks and a colon behind it. -/
def Text.IsMinimumSign (sign : Text) : Prop :=
  ∃ word size gap colon, sign = word ++ size ++ gap ++ colon ∧
    word.map Char.toLower ∈ ["min".toList, "minimum".toList] ∧ IsLengthPart size ∧
    (∀ char ∈ gap, isBlank char = true) ∧ IsColonPart colon

/-- A number stands directly behind the sign for a minimum. -/
structure StandsForMinimum (front number behind : Text) : Prop where
  isNumber : Text.IsNumber number behind
  sign : ∃ before sign, front = before ++ sign ∧ Text.IsMinimumSign sign ∧
    ∀ char ∈ before.getLast?, Text.isWordChar char = false

namespace Pattern

variable {before : Option Char} {letters rest : Text} {groups : List Text}

private theorem reads_group_digits :
    (group digits).Reads before letters groups rest ↔ Text.IsNumber letters rest ∧ groups = [letters] := by
  constructor
  · rintro ⟨others, rfl, readsNumber⟩
    obtain ⟨isNumber, rfl⟩ := reads_digits.mp readsNumber
    exact ⟨isNumber, rfl⟩
  · rintro ⟨isNumber, rfl⟩
    exact ⟨[], rfl, reads_digits.mpr ⟨isNumber, rfl⟩⟩

private theorem reads_withPlural {word : String} :
    (literal word ++ optional (literal "s")).Reads before letters groups rest ↔
      (letters = word.toList ∨ letters = word.toList ++ "s".toList) ∧ groups = [] := by
  simp only [reads_append, reads_optional, reads_literal]
  constructor
  · rintro ⟨left, right, outer, inner, rfl, rfl, ⟨rfl, rfl⟩, ⟨rfl, rfl⟩ | ⟨rfl, rfl⟩⟩
    · exact ⟨.inr rfl, rfl⟩
    · exact ⟨.inl (List.append_nil _), rfl⟩
  · rintro ⟨rfl | rfl, rfl⟩
    · exact ⟨word.toList, [], [], [], (List.append_nil _).symm, rfl, ⟨rfl, rfl⟩, .inr ⟨rfl, rfl⟩⟩
    · exact ⟨word.toList, "s".toList, [], [], rfl, rfl, ⟨rfl, rfl⟩, .inl ⟨rfl, rfl⟩⟩

def secondWord : Pattern :=
  either (literal "second" ++ optional (literal "s")) (literal "sec" ++ optional (literal "s"))

private theorem secondCount_eq : secondCount = wordEdge ++ group digits ++ blanks ++ secondWord ++ wordEdge := rfl

private theorem reads_secondWord :
    secondWord.Reads before letters groups rest ↔ letters ∈ secondWords ∧ groups = [] := by
  have plural : "second".toList ++ "s".toList = "seconds".toList ∧ "sec".toList ++ "s".toList = "secs".toList := by
    decide
  change _ ∨ _ ↔ _
  rw [reads_withPlural, reads_withPlural, plural.1, plural.2, ← or_and_right, or_assoc]
  simp only [secondWords, List.mem_cons, List.not_mem_nil, or_false]

private theorem ends_of_mem_secondWords {word : Text} (member : word ∈ secondWords) :
    (∀ char ∈ word.head?, Text.isBlank char = false) ∧
      ∃ last, word.getLast? = some last ∧ Text.isWordChar last = true := by
  have each : ∀ word ∈ secondWords, word.head?.any Text.isBlank = false ∧
      word.getLast?.any Text.isWordChar = true := by decide +kernel
  obtain ⟨starts, ends⟩ := each word member
  refine ⟨fun char first => ?_, (Option.any_eq_true _ _).mp ends⟩
  rwa [Option.mem_def.mp first] at starts

private theorem reads_secondCount :
    secondCount.Reads before letters groups rest ↔
      ∃ number gap word, letters = number ++ gap ++ word ∧ groups = [number] ∧
        (∀ char ∈ before, Text.isWordChar char = false) ∧ Text.IsNumber number (gap ++ word ++ rest) ∧
        (∀ char ∈ gap, Text.isBlank char = true) ∧ word ∈ secondWords ∧
        ∀ char ∈ rest.head?, Text.isWordChar char = false := by
  rw [secondCount_eq]
  constructor
  · intro reads
    -- The parts are taken off from the last to the first.
    obtain ⟨counted, edge, _, _, rfl, rfl, readsCounted, readsEnd⟩ := reads_append.mp reads
    obtain ⟨spaced, word, _, _, rfl, rfl, readsSpaced, readsWord⟩ := reads_append.mp readsCounted
    obtain ⟨numbered, gap, _, _, rfl, rfl, readsNumbered, readsGap⟩ := reads_append.mp readsSpaced
    obtain ⟨start, number, _, _, rfl, rfl, readsStart, readsNumber⟩ := reads_append.mp readsNumbered
    obtain ⟨ends, rfl, rfl⟩ := reads_wordEdge.mp readsEnd
    obtain ⟨starts, rfl, rfl⟩ := reads_wordEdge.mp readsStart
    obtain ⟨blank, _, rfl⟩ := reads_blanks.mp readsGap
    obtain ⟨isNumber, rfl⟩ := reads_group_digits.mp readsNumber
    obtain ⟨member, rfl⟩ := reads_secondWord.mp readsWord
    obtain ⟨_, last, final, isWord⟩ := ends_of_mem_secondWords member
    obtain ⟨digit, digits, rfl⟩ := List.exists_cons_of_ne_nil isNumber.filled
    refine ⟨digit :: digits, gap, word, by simp, by simp, ?_, by simpa using isNumber, blank, member, ?_⟩
    · have isDigit := isNumber.digits digit List.mem_cons_self
      exact (atWordEdge_iff_before (Text.isWordChar_of_isDigit isDigit)).mp (by simpa using starts)
    · rw [List.getLast?_append, final] at ends
      exact (atWordEdge_iff_behind isWord).mp ends
  · rintro ⟨number, gap, word, rfl, rfl, alone, isNumber, blank, member, ends⟩
    obtain ⟨starts, last, final, isWord⟩ := ends_of_mem_secondWords member
    rw [List.append_assoc] at isNumber
    have own : wordEdge.Reads before [] [] (number ++ (gap ++ (word ++ rest))) := by
      obtain ⟨digit, digits, rfl⟩ := List.exists_cons_of_ne_nil isNumber.filled
      have isDigit := isNumber.digits digit List.mem_cons_self
      exact ⟨(atWordEdge_iff_before (Text.isWordChar_of_isDigit isDigit)).mpr alone, rfl, rfl⟩
    have count : (group digits).Reads before number [number] (gap ++ (word ++ rest)) :=
      reads_group_digits.mpr ⟨isNumber, rfl⟩
    have gaps (before : Option Char) : blanks.Reads before gap [] (word ++ rest) := by
      obtain ⟨letter, letters, rfl⟩ := List.exists_cons_of_ne_nil (List.ne_nil_of_mem (List.mem_of_getLast? final))
      exact ⟨blank, starts, rfl⟩
    have unit (before : Option Char) : secondWord.Reads before word [] rest :=
      reads_secondWord.mpr ⟨member, rfl⟩
    have edge (front : Text) : wordEdge.Reads ((front ++ word).getLast?.or before) [] [] rest := by
      rw [List.getLast?_append, final]
      exact ⟨(atWordEdge_iff_behind isWord).mpr ends, rfl, rfl⟩
    have whole := (((own.append count).append (gaps _)).append (unit _)).append (edge _)
    simpa using whole

private theorem finds_secondCount : secondCount.FindsNumbers StandsForSeconds where
  isNumber stands := stands.isNumber
  sound {front letters rest groups} reads := by
    obtain ⟨number, gap, word, rfl, rfl, alone, isNumber, blank, member, ends⟩ := reads_secondCount.mp reads
    refine ⟨[], number, gap ++ word ++ rest, [], by simp, rfl, nofun, isNumber, ?_, ?_⟩
    · rwa [List.append_nil]
    · exact ⟨gap, word, rest, rfl, blank, member, ends⟩
  complete {front number behind} stands := by
    obtain ⟨isNumber, alone, gap, word, rest, rfl, blank, member, ends⟩ := stands
    refine ⟨front, [], number ++ gap ++ word, [number], rest, (List.append_nil _).symm, by simp, ?_⟩
    exact reads_secondCount.mpr ⟨number, gap, word, rfl, rfl, alone, isNumber, blank, member, ends⟩

private theorem finds_columnCount : columnCount.FindsNumbers fun _ => StandsForColumns where
  isNumber stands := stands.isNumber
  sound {front letters rest groups} reads := by
    obtain ⟨counted, plural, _, _, rfl, rfl, readsCounted, _⟩ := reads_append.mp reads
    obtain ⟨spaced, unit, _, _, rfl, rfl, readsSpaced, readsUnit⟩ := reads_append.mp readsCounted
    obtain ⟨number, gap, _, _, rfl, rfl, readsNumber, readsGap⟩ := reads_append.mp readsSpaced
    obtain ⟨isNumber, rfl⟩ := reads_group_digits.mp readsNumber
    obtain ⟨blank, _, rfl⟩ := reads_blanks.mp readsGap
    obtain ⟨rfl, rfl⟩ := reads_literal.mp readsUnit
    refine ⟨[], number, gap ++ "column".toList ++ (plural ++ rest), _, by simp, rfl, nofun, ?_, ?_⟩
    · simpa using isNumber
    · exact ⟨gap, plural ++ rest, rfl, blank⟩
  complete {front number behind} stands := by
    obtain ⟨isNumber, gap, rest, rfl, blank⟩ := stands
    refine ⟨front, [], number ++ gap ++ "column".toList, [number], rest, (List.append_nil _).symm, by simp, ?_⟩
    have count : (group digits).Reads front.getLast? number [number] (gap ++ ("column".toList ++ rest)) :=
      reads_group_digits.mpr ⟨by simpa using isNumber, rfl⟩
    have gaps (before : Option Char) : blanks.Reads before gap [] ("column".toList ++ rest) := by
      refine ⟨blank, fun char first => ?_, rfl⟩
      obtain rfl : 'c' = char := by simpa using first
      decide
    have unit (before : Option Char) : (literal "column").Reads before "column".toList [] rest :=
      reads_literal.mpr ⟨rfl, rfl⟩
    have plural (before : Option Char) : (optional (literal "s")).Reads before [] [] rest := .inr ⟨rfl, rfl⟩
    have whole := ((count.append (gaps _)).append (unit _)).append (plural _)
    simpa [columnCount] using whole

def lengthPart : Pattern := optional (several Text.isBlank ++ caseless "length")

def colonPart : Pattern := optional (literal ":" ++ blanks)

def minimumSign : Pattern :=
  wordEdge ++ caseless "min" ++ optional (caseless "imum") ++ lengthPart ++ blanks ++ colonPart

private theorem minLengthNote_eq : minLengthNote = minimumSign ++ group digits := rfl

private theorem reads_minimumWord :
    (caseless "min" ++ optional (caseless "imum")).Reads before letters groups rest ↔
      letters.map Char.toLower ∈ ["min".toList, "minimum".toList] ∧ groups = [] := by
  have parts : "minimum".toList = "min".toList ++ "imum".toList := by decide
  have min {before : Option Char} {letters rest : Text} {groups : List Text} :
      (caseless "min").Reads before letters groups rest ↔
        letters.map Char.toLower = "min".toList ∧ groups = [] := reads_caseless (by decide) (by decide)
  have imum {before : Option Char} {letters rest : Text} {groups : List Text} :
      (caseless "imum").Reads before letters groups rest ↔
        letters.map Char.toLower = "imum".toList ∧ groups = [] := reads_caseless (by decide) (by decide)
  simp only [reads_append, reads_optional, min, imum, List.mem_cons, List.not_mem_nil, or_false, parts]
  constructor
  · rintro ⟨word, more, _, _, rfl, rfl, ⟨spelt, rfl⟩, ⟨spelt', rfl⟩ | ⟨rfl, rfl⟩⟩
    · exact ⟨.inr (by rw [List.map_append, spelt, spelt']), rfl⟩
    · exact ⟨.inl (by rw [List.append_nil, spelt]), rfl⟩
  · rintro ⟨spelt | spelt, rfl⟩
    · exact ⟨letters, [], [], [], (List.append_nil _).symm, rfl, ⟨spelt, rfl⟩, .inr ⟨rfl, rfl⟩⟩
    · obtain ⟨word, more, rfl, own, other⟩ := List.map_eq_append_iff.mp spelt
      exact ⟨word, more, [], [], rfl, rfl, ⟨own, rfl⟩, .inl ⟨other, rfl⟩⟩

private theorem exists_head_of_map_toLower {letters word : Text} (filled : word ≠ [])
    (plain : word.all (Text.letterCodes.contains ·.toNat) = true) (spelt : letters.map Char.toLower = word) :
    ∃ first others, letters = first :: others ∧ Text.isWordChar first = true := by
  subst spelt
  obtain ⟨first, others, rfl⟩ := List.exists_cons_of_ne_nil fun none => filled (List.map_eq_nil_iff.mpr none)
  exact ⟨first, others, rfl, (Text.letters_of_map_toLower rfl plain first List.mem_cons_self).1⟩

private theorem reads_lengthPart :
    lengthPart.Reads before letters groups rest ↔ Text.IsLengthPart letters ∧ groups = [] := by
  rw [lengthPart, reads_optional, reads_append, Text.IsLengthPart]
  constructor
  · rintro (⟨blank, name, _, _, rfl, rfl, readsBlank, readsName⟩ | ⟨rfl, rfl⟩)
    · obtain ⟨filled, all, _, rfl⟩ := reads_several.mp readsBlank
      obtain ⟨spelt, rfl⟩ := (reads_caseless (by decide) (by decide)).mp readsName
      exact ⟨.inr ⟨blank, name, rfl, filled, all, spelt⟩, rfl⟩
    · exact ⟨.inl rfl, rfl⟩
  · rintro ⟨rfl | ⟨blank, name, rfl, filled, all, spelt⟩, rfl⟩
    · exact .inr ⟨rfl, rfl⟩
    · left
      refine ⟨blank, name, [], [], rfl, rfl, reads_several.mpr ⟨filled, all, ?_, rfl⟩,
        (reads_caseless (by decide) (by decide)).mpr ⟨spelt, rfl⟩⟩
      obtain ⟨first, others, rfl, isWord⟩ := exists_head_of_map_toLower (by decide) (by decide) spelt
      rintro char ⟨⟩
      exact Text.isBlank_of_isWordChar isWord

private theorem reads_colonPart (dark : ∀ char ∈ rest.head?, Text.isBlank char = false) :
    colonPart.Reads before letters groups rest ↔ Text.IsColonPart letters ∧ groups = [] := by
  rw [colonPart, reads_optional, reads_append, Text.IsColonPart]
  constructor
  · rintro (⟨colon, blank, _, _, rfl, rfl, readsColon, all, _, rfl⟩ | ⟨rfl, rfl⟩)
    · obtain ⟨rfl, rfl⟩ := reads_literal.mp readsColon
      exact ⟨.inr ⟨blank, rfl, all⟩, rfl⟩
    · exact ⟨.inl rfl, rfl⟩
  · rintro ⟨rfl | ⟨blank, rfl, all⟩, rfl⟩
    · exact .inr ⟨rfl, rfl⟩
    · exact .inl ⟨[':'], blank, [], [], rfl, rfl, reads_literal.mpr ⟨rfl, rfl⟩, all, dark, rfl⟩

private theorem exists_head_of_minimumWord {word : Text}
    (spelt : word.map Char.toLower ∈ ["min".toList, "minimum".toList]) :
    ∃ first others, word = first :: others ∧ Text.isWordChar first = true := by
  rw [List.mem_cons, List.mem_singleton] at spelt
  rcases spelt with short | long
  · exact exists_head_of_map_toLower (by decide) (by decide) short
  · exact exists_head_of_map_toLower (by decide) (by decide) long

/-- In front of what starts with no blank, just the signs for a minimum are read. -/
theorem reads_minimumSign (dark : ∀ char ∈ rest.head?, Text.isBlank char = false) :
    minimumSign.Reads before letters groups rest ↔
      (∀ char ∈ before, Text.isWordChar char = false) ∧ Text.IsMinimumSign letters ∧ groups = [] := by
  constructor
  · intro reads
    obtain ⟨spaced, colon, _, _, rfl, rfl, readsSpaced, readsColon⟩ := reads_append.mp reads
    obtain ⟨sized, gap, _, _, rfl, rfl, readsSized, readsGap⟩ := reads_append.mp readsSpaced
    obtain ⟨named, size, _, _, rfl, rfl, readsNamed, readsSize⟩ := reads_append.mp readsSized
    obtain ⟨begun, more, _, _, rfl, rfl, readsBegun, readsMore⟩ := reads_append.mp readsNamed
    obtain ⟨start, min, _, _, rfl, rfl, readsStart, readsMin⟩ := reads_append.mp readsBegun
    obtain ⟨starts, rfl, rfl⟩ := reads_wordEdge.mp readsStart
    obtain ⟨blank, _, rfl⟩ := reads_blanks.mp readsGap
    obtain ⟨spelt, none⟩ := reads_minimumWord.mp (readsMin.append readsMore)
    obtain ⟨isSize, rfl⟩ := reads_lengthPart.mp readsSize
    obtain ⟨isColon, rfl⟩ := (reads_colonPart dark).mp readsColon
    refine ⟨?_, ⟨min ++ more, size, gap, colon, by simp, spelt, isSize, blank, isColon⟩, by simpa using none⟩
    obtain ⟨first, others, same, isWord⟩ := exists_head_of_minimumWord spelt
    rw [← List.append_assoc, same] at starts
    exact (atWordEdge_iff_before isWord).mp starts
  · rintro ⟨alone, ⟨word, size, gap, colon, rfl, spelt, isSize, blank, isColon⟩, rfl⟩
    have own : wordEdge.Reads before [] [] (word ++ (size ++ (gap ++ (colon ++ rest)))) := by
      obtain ⟨first, others, rfl, isWord⟩ := exists_head_of_minimumWord spelt
      exact ⟨(atWordEdge_iff_before isWord).mpr alone, rfl, rfl⟩
    have named : (caseless "min" ++ optional (caseless "imum")).Reads before word []
        (size ++ (gap ++ (colon ++ rest))) := reads_minimumWord.mpr ⟨spelt, rfl⟩
    obtain ⟨min, more, outer, inner, rfl, none, readsMin, readsMore⟩ := named
    have sizes (before : Option Char) : lengthPart.Reads before size [] (gap ++ (colon ++ rest)) :=
      reads_lengthPart.mpr ⟨isSize, rfl⟩
    have colons (before : Option Char) : colonPart.Reads before colon [] rest :=
      (reads_colonPart dark).mpr ⟨isColon, rfl⟩
    have gaps (before : Option Char) : blanks.Reads before gap [] (colon ++ rest) := by
      refine ⟨blank, ?_, rfl⟩
      rcases isColon with rfl | ⟨_, rfl, _⟩
      · exact dark
      · rintro char ⟨⟩
        decide
    rw [List.append_assoc] at own
    have whole := ((((own.append readsMin).append readsMore).append (sizes _)).append (gaps _)).append (colons _)
    obtain ⟨rfl, rfl⟩ := List.append_eq_nil_iff.mp none.symm
    simpa [minimumSign] using whole

private theorem isDigit_of_mem_minimumSign {sign : Text} (isSign : Text.IsMinimumSign sign) :
    ∀ char ∈ sign, Text.isDigit char = false := by
  have blanks {text : Text} (blank : ∀ char ∈ text, Text.isBlank char = true) :
      ∀ char ∈ text, Text.isDigit char = false := fun char member => Text.isDigit_of_isBlank (blank char member)
  have letters {text word : Text} (spelt : text.map Char.toLower = word)
      (plain : word.all (Text.letterCodes.contains ·.toNat) = true) :
      ∀ char ∈ text, Text.isDigit char = false :=
    fun char member => (Text.letters_of_map_toLower spelt plain char member).2
  obtain ⟨word, size, gap, colon, rfl, spelt, isSize, blank, isColon⟩ := isSign
  simp only [List.forall_mem_append]
  refine ⟨⟨⟨?_, ?_⟩, blanks blank⟩, ?_⟩
  · rw [List.mem_cons, List.mem_singleton] at spelt
    rcases spelt with short | long
    · exact letters short (by decide)
    · exact letters long (by decide)
  · rcases isSize with rfl | ⟨blank, name, rfl, _, all, spelt⟩
    · exact nofun
    · exact List.forall_mem_append.mpr ⟨blanks all, letters spelt (by decide)⟩
  · rcases isColon with rfl | ⟨blank, rfl, all⟩
    · exact nofun
    · exact List.forall_mem_cons.mpr ⟨by decide, blanks all⟩

private theorem finds_minLengthNote : minLengthNote.FindsNumbers StandsForMinimum where
  isNumber stands := stands.isNumber
  sound {front letters rest groups} reads := by
    rw [minLengthNote_eq] at reads
    obtain ⟨sign, number, _, _, rfl, rfl, readsSign, readsNumber⟩ := reads_append.mp reads
    obtain ⟨isNumber, rfl⟩ := reads_group_digits.mp readsNumber
    obtain ⟨alone, isSign, rfl⟩ := (reads_minimumSign isNumber.startsDark).mp readsSign
    refine ⟨sign, number, rest, [], rfl, rfl, isDigit_of_mem_minimumSign isSign, isNumber, ?_⟩
    exact ⟨front, sign, rfl, isSign, alone⟩
  complete {front number behind} stands := by
    obtain ⟨isNumber, before, sign, rfl, isSign, alone⟩ := stands
    refine ⟨before, sign, sign ++ number, [number], behind, rfl, rfl, ?_⟩
    have readsSign := (reads_minimumSign isNumber.startsDark).mpr ⟨alone, isSign, rfl⟩
    exact readsSign.append (reads_group_digits.mpr ⟨isNumber, rfl⟩)

end Pattern

open Text (IsFirstValue)

private theorem slideInterval?_eq_some_iff {text : Text} {millis : Nat} :
    slideInterval? text = some millis ↔
      ∃ seconds, IsFirstValue StandsForSeconds text seconds ∧ 1000 * seconds ≤ 2 ^ 63 - 1 ∧
        millis = 1000 * seconds := by
  have bound : maxInt64 = 2 ^ 63 - 1 := rfl
  rw [slideInterval?, Option.bind_eq_some_iff]
  simp only [Pattern.finds_secondCount.bind_readNat_eq_some_iff, Option.ite_none_right_eq_some, Option.some.injEq,
    Nat.mul_comm _ 1000, eq_comm (b := millis), bound]

private theorem bind_boundedNat?_eq_some_iff {pattern : Pattern} {stands : (front number behind : Text) → Prop}
    (finds : pattern.FindsNumbers stands) {text : Text} {bound value : Nat} :
    (pattern.firstGroup? text).bind (boundedNat? bound) = some value ↔
      IsFirstValue stands text value ∧ value ≤ bound := by
  rw [← finds.bind_readNat_eq_some_iff, Option.bind_eq_some_iff, Option.bind_eq_some_iff]
  simp only [boundedNat?, Option.filter_eq_some_iff, decide_eq_true_eq, ← and_assoc, exists_and_right]

private theorem galleryColumns?_eq_some_iff {text : Text} {count : Nat} :
    galleryColumns? text = some count ↔
      IsFirstValue (fun _ => StandsForColumns) text count ∧ 1 ≤ count ∧ count ≤ 2 ^ 63 - 1 := by
  rw [galleryColumns?, Option.filter_eq_some_iff, bind_boundedNat?_eq_some_iff Pattern.finds_columnCount,
    decide_eq_true_eq, and_assoc, and_comm (a := count ≤ maxInt64)]
  exact Iff.rfl

private theorem map_minLengthOn_eq_some_iff {line : Text} {least : Nat} :
    (minLengthOn line).map UInt32.toNat = some least ↔
      IsFirstValue StandsForMinimum line least ∧ least ≤ 2 ^ 32 - 1 := by
  have same {value : Nat} (small : value ≤ 2 ^ 32 - 1) : (UInt32.ofNat value).toNat = value :=
    UInt32.toNat_ofNat_of_lt (Nat.lt_succ_of_le small)
  rw [minLengthOn, Option.map_map, Option.map_eq_some_iff]
  simp only [bind_boundedNat?_eq_some_iff Pattern.finds_minLengthNote, Function.comp_apply]
  constructor
  · rintro ⟨value, ⟨first, small⟩, rfl⟩
    rw [same small]
    exact ⟨first, small⟩
  · rintro ⟨first, small⟩
    exact ⟨least, ⟨first, small⟩, same small⟩

private theorem toInt_ofNat {value : Nat} (fits : value ≤ 2 ^ 63 - 1) : (Int64.ofNat value).toInt = value :=
  Int64.toInt_ofNat_of_lt (Nat.lt_succ_of_le fits)

namespace Intent

/-- The interval of a carousel is a thousand times the first number that stands in front of a word for seconds, where
that fits, and five thousand elsewhere. -/
structure MinesInterval (intent : Intent) (interval : Int64) : Prop where
  option : (intent.extract .carousel).options.get? "interval" = some (.int interval)
  reads : ∀ seconds, IsFirstValue StandsForSeconds intent.lowered seconds → 1000 * seconds ≤ 2 ^ 63 - 1 →
    interval.toInt = 1000 * seconds
  default : (∀ seconds, IsFirstValue StandsForSeconds intent.lowered seconds → 2 ^ 63 - 1 < 1000 * seconds) →
    interval.toInt = 5000
  nonnegative : 0 ≤ interval.toInt
  fits : interval.toInt ≤ 2 ^ 63 - 1
  thousands : 1000 ∣ interval.toInt

/-- The columns of a gallery are the first number in front of `column`, where that is positive and fits, and three
elsewhere. -/
structure MinesColumns (intent : Intent) (columns : Int64) : Prop where
  option : (intent.extract .gallery).options.get? "columns" = some (.int columns)
  reads : ∀ count, IsFirstValue (fun _ => StandsForColumns) intent.lowered count → 1 ≤ count →
    count ≤ 2 ^ 63 - 1 → columns.toInt = count
  default : (∀ count, IsFirstValue (fun _ => StandsForColumns) intent.lowered count →
    count < 1 ∨ 2 ^ 63 - 1 < count) → columns.toInt = 3
  positive : 1 ≤ columns.toInt

/-- A field is read from the first line that shows the sign of its rule, and so is its least length: the first number
behind a word for a minimum, where that fits. -/
def MinesLength (intent : Intent) (field : Field) : Prop :=
  ∃ rule ∈ fieldRules, field.name = rule.name ∧ ∃ earlier line later, intent.lines = earlier ++ line :: later ∧
    (∀ other ∈ earlier, rule.sign.occursIn other.lower = false) ∧ rule.sign.occursIn line.lower = true ∧
    ∀ least, field.minLength.map UInt32.toNat = some least ↔
      IsFirstValue StandsForMinimum line least ∧ least ≤ 2 ^ 32 - 1

variable (intent : Intent)

private theorem exists_interval : ∃ interval, intent.MinesInterval interval := by
  have option : (intent.extract .carousel).options.get? "interval" =
      some (.int (Int64.ofNat ((slideInterval? intent.lowered).getD 5000))) :=
    OrderedMap.get?_ofList_of_mem Kind.carousel.nodup_optionForms (List.mem_cons_of_mem _ List.mem_cons_self)
  cases read : slideInterval? intent.lowered with
  | none =>
    rw [read, Option.getD_none] at option
    refine ⟨_, option, fun seconds first fits => ?_, fun _ => by decide, by decide, by decide, by decide⟩
    rw [slideInterval?_eq_some_iff.mpr ⟨seconds, first, fits, rfl⟩] at read
    cases read
  | some millis =>
    obtain ⟨seconds, first, fits, rfl⟩ := slideInterval?_eq_some_iff.mp read
    have same : (Int64.ofNat (1000 * seconds)).toInt = 1000 * seconds := toInt_ofNat fits
    rw [read, Option.getD_some] at option
    refine ⟨_, option, fun other first' fits' => ?_, fun unread => ?_, by omega, by omega, ?_⟩
    · rw [slideInterval?_eq_some_iff.mpr ⟨other, first', fits', rfl⟩] at read
      have again := Option.some.inj read
      omega
    · exact absurd fits (Nat.not_le.mpr (unread seconds first))
    · rw [same]
      exact Int.dvd_mul_right _ _

private theorem exists_columns : ∃ columns, intent.MinesColumns columns := by
  have option : (intent.extract .gallery).options.get? "columns" =
      some (.int (Int64.ofNat ((galleryColumns? intent.lowered).getD 3))) :=
    OrderedMap.get?_ofList_of_mem Kind.gallery.nodup_optionForms (List.mem_cons_of_mem _ List.mem_cons_self)
  cases read : galleryColumns? intent.lowered with
  | none =>
    rw [read, Option.getD_none] at option
    refine ⟨_, option, fun count first positive fits => ?_, fun _ => by decide, by decide⟩
    rw [galleryColumns?_eq_some_iff.mpr ⟨first, positive, fits⟩] at read
    cases read
  | some count =>
    obtain ⟨first, positive, fits⟩ := galleryColumns?_eq_some_iff.mp read
    have same : (Int64.ofNat count).toInt = count := toInt_ofNat fits
    rw [read, Option.getD_some] at option
    refine ⟨_, option, fun other first' positive' fits' => ?_, fun unread => ?_, by omega⟩
    · rw [galleryColumns?_eq_some_iff.mpr ⟨first', positive', fits'⟩] at read
      rw [same, Option.some.inj read]
    · have other := unread count first
      omega

private theorem minesLength_of_mem {field : Field} (member : field ∈ (intent.extract .form).fields) :
    intent.MinesLength field := by
  have inForm : field ∈ intent.formFields := member
  rw [formFields_eq] at inForm
  obtain ⟨rule, shown, rfl⟩ := List.mem_map.mp inForm
  obtain ⟨earlier, line, later, same, hidden, occurs, read⟩ := intent.isReadFrom_fieldOn shown _
  refine ⟨rule, (List.mem_filter.mp shown).1, rfl, earlier, line, later, same, hidden, occurs, fun least => ?_⟩
  rw [read]
  exact map_minLengthOn_eq_some_iff

/-- Numbers that are mined from a description do not wrap: each is the first number that stands where it should, if it
is written in ASCII digits, as many as there may be, and fits, and else there is the default. -/
theorem numbers_mined_whole :
    (∃ interval, intent.MinesInterval interval) ∧ (∃ columns, intent.MinesColumns columns) ∧
      ∀ field ∈ (intent.extract .form).fields, intent.MinesLength field :=
  ⟨intent.exists_interval, intent.exists_columns, fun _ member => intent.minesLength_of_mem member⟩

/-- Three seconds, four columns and eight characters are read, but more milliseconds than fit are not. -/
theorem three_seconds_mined :
    (∃ interval : Int64, (extract ⟨"Shots", "Every 3 secs, in 4 columns".toList, ∅, 2024⟩ .carousel).options.get?
        "interval" = some (.int interval) ∧ interval.toInt = 3000) ∧
      (∃ columns : Int64, (extract ⟨"Shots", "Every 3 secs, in 4 columns".toList, ∅, 2024⟩ .gallery).options.get?
        "columns" = some (.int columns) ∧ columns.toInt = 4) ∧
      (∃ interval : Int64, (extract ⟨"Shots", "9300000000000000 seconds".toList, ∅, 2024⟩ .carousel).options.get?
        "interval" = some (.int interval) ∧ interval.toInt = 5000) ∧
      ∃ field ∈ (extract ⟨"Join", "Password of min length: 8".toList, ∅, 2024⟩ .form).fields,
        field.minLength.map UInt32.toNat = some 8 := by
  obtain ⟨⟨interval, mined⟩, ⟨columns, mined'⟩, _⟩ :=
    numbers_mined_whole ⟨"Shots", "Every 3 secs, in 4 columns".toList, ∅, 2024⟩
  obtain ⟨⟨other, mined''⟩, _⟩ := numbers_mined_whole ⟨"Shots", "9300000000000000 seconds".toList, ∅, 2024⟩
  obtain ⟨_, _, lengths⟩ := numbers_mined_whole ⟨"Join", "Password of min length: 8".toList, ∅, 2024⟩
  refine ⟨⟨interval, mined.option, mined.reads 3 ?_ (by decide)⟩,
    ⟨columns, mined'.option, mined'.reads 4 ?_ (by decide) (by decide)⟩,
    ⟨other, mined''.option, mined''.default fun seconds first => ?_⟩, ?_⟩
  · exact Pattern.finds_secondCount.bind_readNat_eq_some_iff.mp (by decide +kernel)
  · exact Pattern.finds_columnCount.bind_readNat_eq_some_iff.mp (by decide +kernel)
  · have read : (secondCount.firstGroup? (Text.lower "9300000000000000 seconds".toList)).bind Text.readNat =
        some 9300000000000000 := by decide +kernel
    have large := (Pattern.finds_secondCount.bind_readNat_eq_some_iff.mpr first).symm.trans read
    have same := Option.some.inj large
    omega
  · have filled : (extract ⟨"Join", "Password of min length: 8".toList, ∅, 2024⟩ .form).fields ≠ [] := by
      decide +kernel
    obtain ⟨field, member⟩ := List.exists_mem_of_ne_nil _ filled
    obtain ⟨_, _, _, earlier, line, later, same, _, _, least⟩ := lengths field member
    have single : Intent.lines ⟨"Join", "Password of min length: 8".toList, ∅, 2024⟩ =
        ["Password of min length: 8".toList] := by decide +kernel
    rw [single] at same
    obtain ⟨rfl, rfl, rfl⟩ : earlier = [] ∧ line = "Password of min length: 8".toList ∧ later = [] := by
      cases earlier <;> simp_all
    exact ⟨field, member, (least 8).mpr
      ⟨Pattern.finds_minLengthNote.bind_readNat_eq_some_iff.mp (by decide +kernel), by decide⟩⟩

end Intent

end PageSketch
