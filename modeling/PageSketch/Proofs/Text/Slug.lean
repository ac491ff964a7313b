import PageSketch.Proofs.Text.Words
import PageSketch.Text.WordCase

/-! Slugs are the words of a text in lower case with a hyphen between each two of them, so they have no blanks and do
not show how the words were spaced. -/
namespace PageSketch.Text

variable {text : Text} {char : Char}

private theorem hyphenate_dark_append {word : Text} (dark : ∀ char ∈ word, isBlank char = false) (rest : Text) :
    hyphenate (word ++ rest) = word ++ hyphenate rest := by
  induction word with
  | nil => rfl
  | cons first others ih =>
    obtain ⟨own, later⟩ := List.forall_mem_cons.mp dark
    rw [List.cons_append, hyphenate, own, ih later]
    rfl

private theorem hyphenate_blanks_append {before rest : Text} (blank : ∀ char ∈ before, isBlank char = true)
    (filled : before ≠ []) (dark : rest.head?.any isBlank = false) :
    hyphenate (before ++ rest) = '-' :: hyphenate rest := by
  induction before with
  | nil => exact absurd rfl filled
  | cons first others ih =>
    obtain ⟨own, later⟩ := List.forall_mem_cons.mp blank
    rw [List.cons_append, hyphenate, own]
    cases others with
    | nil =>
      rw [List.nil_append, dark]
      rfl
    | cons second more =>
      have next : ((second :: more ++ rest).head?.any isBlank) = true := later second List.mem_cons_self
      rw [next, ih later (List.cons_ne_nil _ _)]
      rfl

/-- A text that does not end in a blank gets a hyphen for each gap, also for one before its first word. -/
theorem IsSpaced.hyphenate_eq {parts : List Text} (spaced : IsSpaced parts text)
    (finish : ∀ char ∈ text.getLast?, isBlank char = false) :
    hyphenate text = (if text.head?.any isBlank then ['-'] else []) ++ joined ['-'] parts := by
  induction spaced with
  | blanks blank =>
    rw [eq_nil_of_blank blank finish]
    rfl
  | @word before word rest others blank filled dark parted spaced ih =>
    have behind : hyphenate (word ++ rest) = joined ['-'] (word :: others) := by
      rw [hyphenate_dark_append dark]
      cases rest with
      | nil =>
        obtain rfl : [] = others := spaced.words_eq
        exact List.append_nil word
      | cons first more =>
        have finish : ∀ char ∈ (first :: more).getLast?, isBlank char = false := by
          rwa [List.getLast?_append_of_ne_nil _ (List.cons_ne_nil _ _)] at finish
        have gap : (first :: more).head?.any isBlank = true := parted first rfl
        rw [ih finish, gap]
        cases others with
        | nil => cases eq_nil_of_blank spaced.all_blank finish
        | cons next later => exact (List.append_assoc word ['-'] _).symm
    obtain ⟨first, letters, rfl⟩ := List.exists_cons_of_ne_nil filled
    have start : (first :: letters ++ rest).head?.any isBlank = false := dark first List.mem_cons_self
    rw [List.append_assoc]
    by_cases spacing : before = []
    · subst spacing
      rw [List.nil_append, behind, start]
      rfl
    · obtain ⟨gap, more, rfl⟩ := List.exists_cons_of_ne_nil spacing
      have isBlank : isBlank gap = true := blank gap List.mem_cons_self
      rw [hyphenate_blanks_append blank spacing start, behind, List.cons_append, List.head?_cons, Option.any_some,
        isBlank]
      rfl

theorem slug_eq (text : Text) : slug text = lower (joined ['-'] (words text)) := by
  have spaced : IsSpaced (words text) (trim text) := by
    rw [← words_trim]
    exact isSpaced_words (trim text)
  have start : (trim text).head?.any isBlank = false := (Option.any_eq_false _ _).mpr fun _ => head?_trim
  rw [slug, spaced.hyphenate_eq fun _ => getLast?_trim, start]
  rfl

/-- Texts with the same words have the same slug, however the words are spaced. -/
theorem IsSpaced.slug_eq {parts : List Text} (spaced : IsSpaced parts text) :
    slug text = lower (joined ['-'] parts) := by
  rw [Text.slug_eq, spaced.words_eq]

private theorem mem_joined {mark : Text} {texts : List Text} (member : char ∈ joined mark texts) :
    char ∈ mark ∨ ∃ text ∈ texts, char ∈ text := by
  fun_induction joined mark texts with
  | case1 => cases member
  | case2 only => exact .inr ⟨only, List.mem_cons_self, member⟩
  | case3 first second rest ih =>
    rcases List.mem_append.mp member with inFront | later
    · rcases List.mem_append.mp inFront with own | between
      · exact .inr ⟨first, List.mem_cons_self, own⟩
      · exact .inl between
    · rcases ih later with between | ⟨text, present, inText⟩
      · exact .inl between
      · exact .inr ⟨text, List.mem_cons_of_mem _ present, inText⟩

/-- Lower case makes no blanks. -/
theorem isBlank_of_mem_slug (member : char ∈ slug text) : isBlank char = false := by
  rw [Bool.eq_false_iff]
  intro blank
  rw [slug_eq] at member
  have inWords := mem_of_mem_lowerAfter isCaseless_stopCodes (covers_of_isBlank blank) member
  rcases mem_joined inWords with hyphen | ⟨word, present, inWord⟩
  · rw [List.mem_singleton.mp hyphen] at blank
    exact absurd blank (by decide)
  · have dark := unmarked_of_mem_pieces (List.mem_filter.mp present).1 char inWord
    rw [dark] at blank
    cases blank

end PageSketch.Text
