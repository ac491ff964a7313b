import PageSketch.Proofs.Pattern.Lines
import PageSketch.Proofs.Text.Words

/-! Patterns that take no blanks occur in a text just if they occur in one of its words; so they occur in a
text just if they occur in one of its trimmed lines. A whole word occurs just as well with another word that may
stand before it. -/
namespace PageSketch.Pattern

/-- Whether the pattern takes no blank and asks for neither end of the text. -/
def staysInWord (pattern : Pattern) : Bool := Text.blankCodes.characters.all pattern.avoids

variable {pattern : Pattern} {text : Text}

private theorem avoids_of_isBlank (stays : pattern.staysInWord = true) {char : Char}
    (blank : Text.isBlank char = true) : pattern.avoids char = true :=
  List.all_eq_true.mp stays char (Text.mem_characters_of_contains blank)

private theorem occursIn_eq_any_words (stays : pattern.staysInWord = true) (filled : pattern.occursIn [] = false)
    (text : Text) : pattern.occursIn text = (Text.words text).any pattern.occursIn := by
  have single (text : Text) (dark : ∀ char ∈ text, Text.isBlank char = false) :
      pattern.occursIn text = (Text.words text).any pattern.occursIn := by
    rw [Text.words_of_dark dark]
    cases text with
    | nil => exact filled
    | cons first rest => exact (Bool.or_false _).symm
  induction text using Text.pieces_induction Text.isBlank with
  | whole text dark => exact single text dark
  | cut word blank rest dark isBlank ih =>
    have acts := actsApart_of_avoids (Text.isBreak_of_isBlank isBlank).notWordChar
      (avoids_of_isBlank stays isBlank) rest
    have apart : blank ∉ word := by
      intro member
      rw [dark blank member] at isBlank
      cases isBlank
    rw [acts.occursIn_append apart, Text.words_append_blank isBlank, List.any_append, ih, single word dark]

/-- In lower case, a pattern that stays in words occurs in a text just if it occurs in one of the lines. -/
theorem occursIn_lower_iff (stays : pattern.staysInWord = true) (filled : pattern.occursIn [] = false)
    (text : Text) :
    pattern.occursIn text.lower = true ↔ ∃ line ∈ text.lines, pattern.occursIn line.lower = true := by
  have words (text : Text) :
      pattern.occursIn text.lower = text.words.any fun word => pattern.occursIn word.lower := by
    rw [occursIn_eq_any_words stays filled, Text.words_lower, List.any_map]
    rfl
  rw [words, Text.words_eq_flatMap_lines, List.any_flatMap, List.any_eq_true]
  refine exists_congr fun line => and_congr_right fun _ => ?_
  rw [words line]

section Word

variable {pattern : Pattern} {before : Option Char} {text : Text}

def endingWord (found : Match) : Option Match :=
  if atWordEdge found.last found.rest then some found else none

private theorem isSome_endingWord (found : Match) :
    (endingWord found).isSome = atWordEdge found.last found.rest := by
  unfold endingWord
  cases atWordEdge found.last found.rest <;> rfl

private theorem isSome_useAt_endingWord {use : Match → Option Match}
    (same : ∀ found, (use found).isSome = atWordEdge found.last found.rest) :
    (pattern.useAt before text use).isSome = (pattern.useAt before text endingWord).isSome := by
  simp only [isSome_useAt_eq_any, same, isSome_endingWord]

private theorem isSome_matchAt_word (pattern : Pattern) (before : Option Char) (text : Text) :
    ((word pattern).matchAt? before text).isSome =
      (atWordEdge before text && (pattern.useAt before text endingWord).isSome) := by
  change ((next (next wordEdge pattern) wordEdge).useAt before text some).isSome = _
  simp only [useAt]
  cases atWordEdge before text with
  | false => rfl
  | true =>
    rw [if_pos rfl, Bool.true_and]
    refine isSome_useAt_endingWord fun found => ?_
    cases atWordEdge found.last found.rest <;> rfl

private theorem isSome_useAt_literal_endingWord {name : String} {use : Match → Option Match}
    (found : ((literal name).useAt before text use).isSome = true) :
    ∃ rest, text = name.toList ++ rest := by
  rw [useAt_literal, Option.isSome_iff_exists] at found
  obtain ⟨_, found⟩ := found
  obtain ⟨rest, stands, _⟩ := Option.bind_eq_some_iff.mp found
  exact ⟨rest, Text.after?_eq_some_iff.mp stands⟩

private theorem exists_name_behind_blanks {first name : String} {letter : Char} {letters : Text}
    (spelt : name.toList = letter :: letters) (isLetter : Text.isWordChar letter = true)
    (found : ((literal first ++ several Text.isBlank).useAt before text fun head =>
      (literal name).useAt head.last head.rest endingWord).isSome = true) :
    ∃ taken rest, text = taken ++ rest ∧
      ((word (literal name)).matchAt? (taken.getLast?.or before) rest).isSome = true := by
  change ((next (literal first) (several Text.isBlank)).useAt _ _ _).isSome = true at found
  rw [useAt, useAt_literal] at found
  obtain ⟨_, found⟩ := Option.isSome_iff_exists.mp found
  obtain ⟨behind, stands, found⟩ := Option.bind_eq_some_iff.mp found
  rw [useAt_several] at found
  split at found
  · cases found
  · rename_i filled
    have ends : ((literal name).useAt (behind.takeWhile Text.isBlank).getLast?
        (behind.dropWhile Text.isBlank) endingWord).isSome = true := by rw [found]; rfl
    obtain ⟨blank, last⟩ := Option.isSome_iff_exists.mp (List.getLast?_isSome.mpr filled)
    have isBlank : Text.isBlank blank = true := List.mem_takeWhile_imp (List.mem_of_getLast? last)
    refine ⟨first.toList ++ behind.takeWhile Text.isBlank, behind.dropWhile Text.isBlank, ?_, ?_⟩
    · rw [List.append_assoc, List.takeWhile_append_dropWhile]
      exact Text.after?_eq_some_iff.mp stands
    · obtain ⟨rest, same⟩ := isSome_useAt_literal_endingWord ends
      rw [isSome_matchAt_word, List.getLast?_append, last, Option.some_or, Option.some_or, ← last, ends,
        Bool.and_true, last, same, spelt, atWordEdge, List.cons_append, List.head?_cons, Option.any_some,
        Option.any_some, isLetter, (Text.isBreak_of_isBlank isBlank).notWordChar]
      rfl

/-- A word that may stand before a name, with blanks between, need not be looked for. -/
theorem occursIn_optional_word {first name : String} {letter : Char} {letters : Text}
    (spelt : name.toList = letter :: letters) (isLetter : Text.isWordChar letter = true) (text : Text) :
    (word (optional (literal first ++ several Text.isBlank) ++ literal name)).occursIn text =
      (word (literal name)).occursIn text := by
  -- The pattern matches with the first word or, at the same place, without it.
  have parts (before : Option Char) (text : Text) :
      ((optional (literal first ++ several Text.isBlank) ++ literal name).useAt before text endingWord).isSome =
        (((literal first ++ several Text.isBlank).useAt before text fun head =>
            (literal name).useAt head.last head.rest endingWord).isSome ||
          ((literal name).useAt before text endingWord).isSome) := by
    change ((next (either (literal first ++ several Text.isBlank) empty) (literal name)).useAt _ _ _).isSome = _
    rw [useAt, useAt]
    refine (isSome_preferred _ _).trans ?_
    congr 1
    · simp only [isSome_useAt_eq_any, isSome_endingWord]
    · rw [useAt]
      exact isSome_useAt_endingWord fun found => isSome_endingWord _
  rw [Bool.eq_iff_iff, occursIn_iff, occursIn_iff]
  constructor
  · rintro ⟨left, right, rfl, found⟩
    rw [isSome_matchAt_word, parts, Bool.and_eq_true, Bool.or_eq_true] at found
    obtain ⟨edge, behind | here⟩ := found
    · obtain ⟨taken, rest, rfl, found⟩ := exists_name_behind_blanks spelt isLetter behind
      refine ⟨left ++ taken, rest, (List.append_assoc _ _ _).symm, ?_⟩
      rwa [List.getLast?_append]
    · exact ⟨left, right, rfl, by rw [isSome_matchAt_word, edge, here]; rfl⟩
  · rintro ⟨left, right, rfl, found⟩
    rw [isSome_matchAt_word, Bool.and_eq_true] at found
    obtain ⟨edge, here⟩ := found
    exact ⟨left, right, rfl, by rw [isSome_matchAt_word, parts, edge, here, Bool.or_true]; rfl⟩

end Word

end PageSketch.Pattern
