import PageSketch.Proofs.Text.Pieces
import PageSketch.Proofs.Text.Trim
import PageSketch.Text.Quoted

/-! The quotation marks cut a text into pieces. Its first quoted text is the first piece between two of them
that is not empty; what stands outside of the marks has no part in it. -/
namespace PageSketch.Text

def quotedPieces (text : Text) : List Text := (pieces isQuote text).tail.dropLast

variable {text body : Text}

private theorem isQuote_cases {mark other char : Char} (isMark : isQuote mark = true) (isOther : isQuote other = true)
    (differ : other ≠ mark) (quote : isQuote char = true) : char = mark ∨ char = other := by
  simp only [isQuote, Bool.or_eq_true, beq_iff_eq] at isMark isOther quote
  rcases isMark with rfl | rfl
  · exact quote.imp_right fun single => single.trans (isOther.resolve_left differ).symm
  · exact quote.symm.imp_right fun double => double.trans (isOther.resolve_right differ).symm

theorem isQuote_eq_false (holds : Char → Prop) {char : Char} (own : holds char) (double : ¬ holds '"')
    (single : ¬ holds '\'') : isQuote char = false := by
  rw [Bool.eq_false_iff]
  intro quote
  rcases Bool.or_eq_true_iff.mp quote with same | same
  · rw [beq_iff_eq.mp same] at own
    exact double own
  · rw [beq_iff_eq.mp same] at own
    exact single own

theorem isQuote_of_all (plain : text.all (!isQuote ·) = true) : ∀ char ∈ text, isQuote char = false :=
  fun char member => (Bool.not_eq_true' _).mp (List.all_eq_true.mp plain char member)

private theorem firstQuoted_append {before : Text} (plain : ∀ char ∈ before, isQuote char = false) (text : Text) :
    firstQuoted (before ++ text) = firstQuoted text := by
  induction before with
  | nil => rfl
  | cons first rest ih =>
    obtain ⟨own, others⟩ := List.forall_mem_cons.mp plain
    rw [List.cons_append, firstQuoted, own, ih others]
    rfl

private theorem firstQuoted_eq_none (plain : ∀ char ∈ text, isQuote char = false) : firstQuoted text = none := by
  have same := firstQuoted_append plain []
  rwa [List.append_nil] at same

private theorem firstQuoted_open {opening : Char} (plain : ∀ char ∈ text, isQuote char = false) :
    firstQuoted (opening :: text) = none := by
  have whole : text.takeWhile (!isQuote ·) = text :=
    List.takeWhile_eq_self_iff.mpr fun char member => by rw [plain char member]; rfl
  rw [firstQuoted, whole, decide_eq_false (Nat.lt_irrefl _), Bool.and_false, if_neg Bool.false_ne_true]
  exact firstQuoted_eq_none plain

theorem takeWhile_plain {closing : Char} (plain : ∀ char ∈ body, isQuote char = false)
    (closes : isQuote closing = true) (after : Text) :
    (body ++ closing :: after).takeWhile (!isQuote ·) = body := by
  rw [List.takeWhile_append_of_pos fun char member => by rw [plain char member]; rfl,
    List.takeWhile_cons_of_neg (by rw [closes]; exact Bool.false_ne_true), List.append_nil]

theorem dropWhile_plain {closing : Char} (plain : ∀ char ∈ body, isQuote char = false)
    (closes : isQuote closing = true) (after : Text) :
    (body ++ closing :: after).dropWhile (!isQuote ·) = closing :: after := by
  rw [List.dropWhile_append_of_pos fun char member => by rw [plain char member]; rfl,
    List.dropWhile_cons_of_neg (by rw [closes]; exact Bool.false_ne_true)]

private theorem firstQuoted_pair {opening closing : Char} (opens : isQuote opening = true)
    (closes : isQuote closing = true) (plain : ∀ char ∈ body, isQuote char = false) (after : Text) :
    firstQuoted (opening :: (body ++ closing :: after)) =
      if body.isEmpty then firstQuoted (closing :: after) else some body := by
  have shorter : body.length < (body ++ closing :: after).length := by
    rw [List.length_append, List.length_cons]
    omega
  rw [firstQuoted, takeWhile_plain plain closes, opens, decide_eq_true shorter, Bool.true_and, Bool.and_true]
  cases body with
  | nil => rfl
  | cons first rest => rfl

theorem firstQuoted_eq_find? (text : Text) : firstQuoted text = (quotedPieces text).find? (!·.isEmpty) := by
  induction text using pieces_induction isQuote with
  | whole text plain =>
    rw [firstQuoted_eq_none plain, quotedPieces, pieces_of_unmarked plain]
    rfl
  | cut piece mark rest plain marked ih =>
    rw [firstQuoted_append plain, quotedPieces, pieces_append_mark marked, pieces_of_unmarked plain,
      List.singleton_append, List.tail_cons]
    -- What the mark opens is the first piece of what stands behind it, if that is closed.
    revert ih
    induction rest using pieces_induction isQuote with
    | whole text plain =>
      intro _
      rw [firstQuoted_open plain, pieces_of_unmarked plain]
      rfl
    | cut body closing after plain closes _ =>
      intro ih
      rw [firstQuoted_append plain, quotedPieces, pieces_append_mark closes, pieces_of_unmarked plain,
        List.singleton_append, List.tail_cons] at ih
      rw [firstQuoted_pair marked closes plain, ih, pieces_append_mark closes, pieces_of_unmarked plain,
        List.singleton_append, List.dropLast_cons_of_ne_nil (pieces_ne_nil isQuote after), List.find?_cons]
      cases body with
      | nil => rfl
      | cons first rest => rfl

theorem isQuote_of_mem_firstQuoted (found : firstQuoted text = some body) :
    ∀ char ∈ body, isQuote char = false := by
  rw [firstQuoted_eq_find?] at found
  have inside := List.dropLast_subset _ (List.mem_of_find?_eq_some found)
  exact unmarked_of_mem_pieces (List.mem_of_mem_tail inside)

/-- The first text between two marks is taken whole. -/
theorem firstQuoted_between {before : Text} {opening closing : Char}
    (start : ∀ char ∈ before, isQuote char = false) (opens : isQuote opening = true)
    (closes : isQuote closing = true) (plain : ∀ char ∈ body, isQuote char = false) (filled : body ≠ [])
    (after : Text) : firstQuoted (before ++ opening :: body ++ closing :: after) = some body := by
  rw [List.append_assoc, firstQuoted_append start, List.cons_append, firstQuoted_pair opens closes plain,
    List.isEmpty_eq_false_iff.mpr filled]
  rfl

/-- A text between two equal marks, the first ones of its line, is taken whole just if the other mark is not
in it. -/
theorem firstQuoted_eq_some_iff {before : Text} {mark other : Char} (isMark : isQuote mark = true)
    (isOther : isQuote other = true) (differ : other ≠ mark) (start : ∀ char ∈ before, isQuote char = false)
    (filled : body ≠ []) (closed : mark ∉ body) (after : Text) :
    firstQuoted (before ++ mark :: body ++ mark :: after) = some body ↔ other ∉ body := by
  constructor
  · intro found present
    rw [isQuote_of_mem_firstQuoted found other present] at isOther
    cases isOther
  · intro absent
    refine firstQuoted_between start isMark isMark (fun char member => ?_) filled after
    rw [Bool.eq_false_iff]
    intro quote
    rcases isQuote_cases isMark isOther differ quote with rfl | rfl
    · exact closed member
    · exact absent member

private theorem firstQuoted_append_plain {after : Text} (plain : ∀ char ∈ after, isQuote char = false) (text : Text) :
    firstQuoted (text ++ after) = firstQuoted text := by
  obtain ⟨others, last, same⟩ := exists_pieces_append isQuote text
  have alone := same [] nofun
  rw [List.append_nil, List.append_nil] at alone
  rw [firstQuoted_eq_find?, firstQuoted_eq_find?, quotedPieces, quotedPieces, same after plain, alone]
  cases others with
  | nil => rfl
  | cons piece rest =>
    rw [List.cons_append, List.cons_append, List.tail_cons, List.tail_cons, List.dropLast_concat,
      List.dropLast_concat]

theorem isQuote_of_isBlank {char : Char} (blank : isBlank char = true) : isQuote char = false :=
  isQuote_eq_false (isBlank · = true) blank (by decide) (by decide)

private theorem firstQuoted_trim (text : Text) : firstQuoted (trim text) = firstQuoted text := by
  obtain ⟨left, right, same, before, after⟩ := exists_append_trim_append text
  conv_rhs => rw [same]
  rw [firstQuoted_append_plain fun char member => isQuote_of_isBlank (after char member),
    firstQuoted_append fun char member => isQuote_of_isBlank (before char member)]

/-- The dash of a list line has no part in what the line quotes. -/
theorem firstQuoted_itemText (line : Text) : firstQuoted (itemText line) = firstQuoted line := by
  have plain : ∀ char ∈ line.takeWhile fun char => isBlank char || char == '-', isQuote char = false := by
    intro char member
    have dropped := List.mem_takeWhile_imp member
    rcases Bool.or_eq_true_iff.mp dropped with blank | dash
    · exact isQuote_of_isBlank blank
    · rw [beq_iff_eq.mp dash]
      decide
  rw [itemText, firstQuoted_trim, ← firstQuoted_append plain, List.takeWhile_append_dropWhile]

theorem firstQuotedLine_map_itemText (lines : List Text) :
    firstQuotedLine (lines.map itemText) = firstQuotedLine lines := by
  rw [firstQuotedLine, List.findSome?_map]
  exact congrArg lines.findSome? (funext firstQuoted_itemText)

theorem firstQuotedLine_cons (line : Text) (rest : List Text) :
    firstQuotedLine (line :: rest) = (firstQuoted line).or (firstQuotedLine rest) := by
  rw [firstQuotedLine, List.findSome?_cons]
  cases firstQuoted line <;> rfl

theorem firstQuotedLine_append (earlier later : List Text) :
    firstQuotedLine (earlier ++ later) = (firstQuotedLine earlier).or (firstQuotedLine later) :=
  List.findSome?_append

/-- A text can be cut at its quotation marks in one way, and then the first segment with a mark on either side that
is not empty is the text that it quotes first; it quotes none if there is no such segment. So a quoted text is never
empty, and no quotation mark stands in it. -/
theorem firstQuoted_first_filled (line : Text) :
    ∃ cut : Cut isQuote, (∀ other : Cut isQuote, other.text = line ↔ other = cut) ∧
      (∀ text, firstQuoted line = some text ↔ ∃ earlier later, cut.inner = earlier ++ text :: later ∧
        (∀ segment ∈ earlier, segment = []) ∧ text ≠ []) ∧
      (firstQuoted line = none ↔ ∀ segment ∈ cut.inner, segment = []) ∧
      ∀ text, firstQuoted line = some text → text ≠ [] ∧ '"' ∉ text ∧ '\'' ∉ text := by
  obtain ⟨cut, rfl⟩ := Cut.exists_text_eq isQuote line
  have search : firstQuoted cut.text = cut.inner.find? (!·.isEmpty) := by
    rw [firstQuoted_eq_find?, quotedPieces, cut.pieces_text]
    rfl
  have first (text : Text) : firstQuoted cut.text = some text ↔ ∃ earlier later,
      cut.inner = earlier ++ text :: later ∧ (∀ segment ∈ earlier, segment = []) ∧ text ≠ [] := by
    rw [search, List.find?_eq_some_iff_append]
    constructor
    · rintro ⟨filled, earlier, later, same, empty⟩
      exact ⟨earlier, later, same, by simpa using empty, by simpa using filled⟩
    · rintro ⟨earlier, later, same, empty, filled⟩
      exact ⟨by simpa using filled, earlier, later, same, by simpa using empty⟩
  refine ⟨cut, ?_, first, ?_, ?_⟩
  · intro other
    constructor
    · exact Cut.eq_of_text_eq
    · intro same
      rw [same]
  · rw [search, List.find?_eq_none]
    simp
  · intro text found
    have plain := isQuote_of_mem_firstQuoted found
    obtain ⟨_, _, _, _, filled⟩ := (first text).mp found
    refine ⟨filled, ?_, ?_⟩
    · intro double
      cases plain '"' double
    · intro single
      cases plain '\'' single

/-- Between marks that stand side by side there is nothing to quote. -/
example : firstQuoted "'' and \"now' or\"".toList = some " and ".toList := by decide

end PageSketch.Text
