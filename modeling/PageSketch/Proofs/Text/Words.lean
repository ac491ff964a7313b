import PageSketch.Proofs.Text.Lowering
import PageSketch.Proofs.Text.Pieces

/-! The words of a text: what stands between blanks. Its lines, and their lower case, have the same words. -/
namespace PageSketch.Text

/-- The longest runs of a text without a blank, in order. -/
def words (text : Text) : List Text := (pieces isBlank text).filter (!·.isEmpty)

variable {char : Char} {text : Text}

theorem words_append_blank (blank : isBlank char = true) (before after : Text) :
    words (before ++ char :: after) = words before ++ words after := by
  rw [words, pieces_append_mark blank, List.filter_append]
  rfl

theorem words_of_dark (dark : ∀ char ∈ text, isBlank char = false) :
    words text = if text.isEmpty then [] else [text] := by
  rw [words, pieces_of_unmarked dark]
  cases text <;> rfl

private theorem words_eq_nil (blank : ∀ char ∈ text, isBlank char = true) : words text = [] := by
  induction text with
  | nil => rfl
  | cons first rest ih =>
    obtain ⟨own, others⟩ := List.forall_mem_cons.mp blank
    rw [← List.nil_append (first :: rest), words_append_blank own, ih others]
    rfl

private theorem words_blanks_append {left : Text} (blank : ∀ char ∈ left, isBlank char = true) (text : Text) :
    words (left ++ text) = words text := by
  induction left with
  | nil => rfl
  | cons first rest ih =>
    obtain ⟨own, others⟩ := List.forall_mem_cons.mp blank
    rw [← List.nil_append (first :: rest ++ text), List.cons_append, words_append_blank own, ih others]
    rfl

private theorem words_append_blanks {right : Text} (blank : ∀ char ∈ right, isBlank char = true) (text : Text) :
    words (text ++ right) = words text := by
  cases right with
  | nil => rw [List.append_nil]
  | cons first rest =>
    obtain ⟨own, others⟩ := List.forall_mem_cons.mp blank
    rw [words_append_blank own, words_eq_nil others, List.append_nil]

theorem words_trim (text : Text) : words (trim text) = words text := by
  obtain ⟨left, right, same, before, after⟩ := exists_append_trim_append text
  conv_rhs => rw [same]
  rw [words_append_blanks after, words_blanks_append before]

/-- The words of a text are those of its lines. -/
theorem words_eq_flatMap_lines (text : Text) : words text = (lines text).flatMap words := by
  have newline : isBlank '\n' = true := by decide
  have byRow : words text = (rows text).flatMap words := by
    induction text using pieces_induction (· = '\n') with
    | whole text inLine => rw [rows, pieces_of_unmarked inLine, List.flatMap_singleton]
    | cut row feed rest inLine isFeed ih =>
      have row : rows row = [row] := pieces_of_unmarked inLine
      rw [of_decide_eq_true isFeed, rows_append, words_append_blank newline, ih, List.flatMap_append, row,
        List.flatMap_singleton]
  have dropped (rows : List Text) : (rows.filter (!·.isEmpty)).flatMap words = rows.flatMap words := by
    induction rows with
    | nil => rfl
    | cons row rest ih => cases row <;> simp [ih, words, pieces]
  rw [byRow, lines, dropped, List.flatMap_map]
  simp only [words_trim]

/-- Lower case makes no blanks and loses none, and it looks at nothing beyond a blank. -/
theorem pieces_lower {isMark : Char → Bool} (blank : ∀ char, isMark char = true → isBlank char = true)
    (text : Text) : pieces isMark (lower text) = (pieces isMark text).map lower := by
  have kept (piece : Text) (unmarked : ∀ char ∈ piece, isMark char = false) :
      pieces isMark (lower piece) = [lower piece] := by
    apply pieces_of_unmarked
    intro char member
    rw [Bool.eq_false_iff]
    intro marked
    have present := mem_of_mem_lowerAfter isCaseless_stopCodes (covers_of_isBlank (blank char marked)) member
    rw [unmarked char present] at marked
    cases marked
  induction text using pieces_induction isMark with
  | whole text unmarked => rw [kept text unmarked, pieces_of_unmarked unmarked, List.map_singleton]
  | cut piece mark rest unmarked marked ih =>
    have parted : lower (piece ++ mark :: rest) = lower piece ++ mark :: lower rest :=
      lowerAfter_append_blank (blank mark marked) [] piece rest
    rw [parted, pieces_append_mark marked, pieces_append_mark marked, kept piece unmarked, ih,
      pieces_of_unmarked unmarked, List.map_append, List.map_singleton]

theorem words_lower (text : Text) : words (lower text) = (words text).map lower := by
  rw [words, words, pieces_lower fun _ => id, List.filter_map]
  refine congrArg (List.map lower) (List.filter_congr fun word _ => ?_)
  rw [Function.comp_apply, isEmpty_lower]

/-- The text consists of these words, with blanks between two of them, and perhaps before and after them all. -/
inductive IsSpaced : List Text → Text → Prop where
  | blanks {text : Text} (blank : ∀ char ∈ text, isBlank char = true) : IsSpaced [] text
  | word {before word rest : Text} {others : List Text} (blank : ∀ char ∈ before, isBlank char = true)
      (filled : word ≠ []) (dark : ∀ char ∈ word, isBlank char = false)
      (parted : ∀ char ∈ rest.head?, isBlank char = true) (spaced : IsSpaced others rest) :
      IsSpaced (word :: others) (before ++ word ++ rest)

theorem IsSpaced.all_blank (spaced : IsSpaced [] text) : ∀ char ∈ text, isBlank char = true := by
  cases spaced with
  | blanks blank => exact blank

theorem IsSpaced.words_eq {parts : List Text} (spaced : IsSpaced parts text) : words text = parts := by
  induction spaced with
  | blanks blank => exact words_eq_nil blank
  | @word before word rest others blank filled dark parted _ ih =>
    have own : words word = [word] := by
      rw [words_of_dark dark, List.isEmpty_eq_false_iff.mpr filled]
      rfl
    rw [List.append_assoc, words_blanks_append blank]
    cases rest with
    | nil =>
      rw [List.append_nil, own, ← ih]
      rfl
    | cons first behind =>
      have isBlank := parted first rfl
      have alone := words_append_blank isBlank [] behind
      rw [List.nil_append] at alone
      rw [words_append_blank isBlank, own, ← ih, alone]
      rfl

private theorem IsSpaced.cons_blank {parts : List Text} (spaced : IsSpaced parts text) (blank : isBlank char = true) :
    IsSpaced parts (char :: text) := by
  cases spaced with
  | blanks others => exact .blanks (List.forall_mem_cons.mpr ⟨blank, others⟩)
  | @word before word rest others blanks filled dark parted spaced =>
    have wider : IsSpaced (word :: others) ((char :: before) ++ word ++ rest) :=
      .word (List.forall_mem_cons.mpr ⟨blank, blanks⟩) filled dark parted spaced
    exact wider

theorem isSpaced_words (text : Text) : IsSpaced (words text) text := by
  induction text using pieces_induction isBlank with
  | whole text dark =>
    rw [words_of_dark dark]
    by_cases filled : text = []
    · subst filled
      exact .blanks nofun
    · rw [List.isEmpty_eq_false_iff.mpr filled, if_neg Bool.false_ne_true]
      have spaced : IsSpaced [text] ([] ++ text ++ []) := .word nofun filled dark nofun (.blanks nofun)
      rwa [List.nil_append, List.append_nil] at spaced
  | cut word blank rest dark isBlank ih =>
    have behind := ih.cons_blank isBlank
    rw [words_append_blank isBlank, words_of_dark dark]
    by_cases filled : word = []
    · subst filled
      exact behind
    · rw [List.isEmpty_eq_false_iff.mpr filled, if_neg Bool.false_ne_true]
      have parted : ∀ char ∈ (blank :: rest).head?, Text.isBlank char = true := by
        rintro char ⟨⟩
        exact isBlank
      have spaced : IsSpaced (word :: words rest) ([] ++ word ++ blank :: rest) :=
        .word nofun filled dark parted behind
      exact spaced

end PageSketch.Text
