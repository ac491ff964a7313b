import Mathlib.Data.List.TakeWhile
import PageSketch.Text.Blank

/-! A mark separates the pieces of a text: what stands before it and what stands after it are cut up
independently of each other, and there is one piece more than there are marks. A text is cut at its marks in one way
only. -/
namespace PageSketch.Text

section Run

variable {passes : Char → Bool} {front rest : Text}

/-- A run at the front of a text ends where the first other character stands. -/
theorem takeWhile_run (run : ∀ char ∈ front, passes char = true)
    (ends : ∀ char ∈ rest.head?, passes char = false) : (front ++ rest).takeWhile passes = front := by
  cases rest with
  | nil => rw [List.append_nil, List.takeWhile_eq_self_iff.mpr run]
  | cons first others =>
    have stops : ¬ passes first = true := Bool.eq_false_iff.mp (ends first rfl)
    rw [List.takeWhile_append_of_pos run, List.takeWhile_cons_of_neg stops, List.append_nil]

theorem dropWhile_run (run : ∀ char ∈ front, passes char = true)
    (ends : ∀ char ∈ rest.head?, passes char = false) : (front ++ rest).dropWhile passes = rest := by
  have parts : (front ++ rest).takeWhile passes ++ (front ++ rest).dropWhile passes = front ++ rest :=
    List.takeWhile_append_dropWhile
  rw [takeWhile_run run ends] at parts
  exact List.append_cancel_left parts

end Run

variable {isMark : Char → Bool}

theorem pieces_cons_mark {first : Char} (marked : isMark first = true) (rest : Text) :
    pieces isMark (first :: rest) = [] :: pieces isMark rest := by
  simp [pieces, marked]

theorem pieces_ne_nil (isMark : Char → Bool) (text : Text) : pieces isMark text ≠ [] := by
  cases text with
  | nil => simp [pieces]
  | cons first rest =>
    unfold pieces
    split <;> simp

theorem pieces_cons_other {first : Char} (unmarked : isMark first = false) (rest : Text) :
    pieces isMark (first :: rest) = (pieces isMark rest).modifyHead (first :: ·) := by
  obtain ⟨piece, others, found⟩ := List.exists_cons_of_ne_nil (pieces_ne_nil isMark rest)
  simp [pieces, unmarked, found]

/-- A mark separates: the pieces before it and the pieces after it are all the pieces. -/
theorem pieces_append_mark {mark : Char} (marked : isMark mark = true) (before after : Text) :
    pieces isMark (before ++ mark :: after) = pieces isMark before ++ pieces isMark after := by
  induction before with
  | nil =>
    rw [List.nil_append, pieces_cons_mark marked]
    rfl
  | cons first rest ih =>
    rw [List.cons_append]
    cases same : isMark first with
    | true => rw [pieces_cons_mark same, pieces_cons_mark same, ih, List.cons_append]
    | false =>
      obtain ⟨piece, others, found⟩ := List.exists_cons_of_ne_nil (pieces_ne_nil isMark rest)
      rw [pieces_cons_other same, pieces_cons_other same, ih, found]
      rfl

/-- Pieces behind other pieces, the first of which goes on with the last one of those. -/
def glue {Part : Type} : List (List Part) → List (List Part) → List (List Part)
  | [], more => more
  | [last], more => more.modifyHead (last ++ ·)
  | piece :: next :: rest, more => piece :: glue (next :: rest) more

theorem glue_map {Part Other : Type} {change : List Part → List Other}
    (append : ∀ first second, change (first ++ second) = change first ++ change second)
    (pieces more : List (List Part)) :
    (glue pieces more).map change = glue (pieces.map change) (more.map change) := by
  fun_induction glue pieces more with
  | case1 => rfl
  | case2 last more => cases more <;> simp [glue, append]
  | case3 piece next rest more ih =>
    rw [List.map_cons, ih]
    rfl

theorem pieces_append (before after : Text) :
    pieces isMark (before ++ after) = glue (pieces isMark before) (pieces isMark after) := by
  induction before with
  | nil =>
    obtain ⟨piece, others, found⟩ := List.exists_cons_of_ne_nil (pieces_ne_nil isMark after)
    rw [List.nil_append, found]
    rfl
  | cons first rest ih =>
    obtain ⟨piece, others, found⟩ := List.exists_cons_of_ne_nil (pieces_ne_nil isMark rest)
    rw [List.cons_append]
    cases same : isMark first with
    | true => rw [pieces_cons_mark same, pieces_cons_mark same, ih, found, glue]
    | false =>
      rw [pieces_cons_other same, pieces_cons_other same, ih, found, List.modifyHead_cons]
      cases others with
      | nil => simp [glue, List.modifyHead_modifyHead, Function.comp_def]
      | cons next more => rfl

theorem pieces_of_unmarked {text : Text} (unmarked : ∀ char ∈ text, isMark char = false) :
    pieces isMark text = [text] := by
  induction text with
  | nil => rfl
  | cons first rest ih =>
    obtain ⟨other, others⟩ := List.forall_mem_cons.mp unmarked
    rw [pieces_cons_other other, ih others]
    rfl

/-- A text is one piece, or a piece with a mark and another text behind it. -/
theorem pieces_induction (isMark : Char → Bool) {holds : Text → Prop}
    (whole : ∀ text, (∀ char ∈ text, isMark char = false) → holds text)
    (cut : ∀ piece mark rest, (∀ char ∈ piece, isMark char = false) → isMark mark = true → holds rest →
      holds (piece ++ mark :: rest)) (text : Text) : holds text := by
  have run (piece : Text) (unmarked : ∀ char ∈ piece, isMark char = false) : holds (piece ++ text) := by
    induction text generalizing piece with
    | nil => exact whole _ (by simpa using unmarked)
    | cons first rest ih =>
      cases marked : isMark first with
      | true => exact cut piece first rest unmarked marked (ih [] nofun)
      | false =>
        rw [← List.singleton_append, ← List.append_assoc]
        refine ih _ fun char member => ?_
        rcases List.mem_append.mp member with before | own
        · exact unmarked char before
        · rwa [List.mem_singleton.mp own]
  exact run [] nofun

/-- What has no mark goes on with the last piece of what stands before it. -/
theorem exists_pieces_append (isMark : Char → Bool) (before : Text) :
    ∃ others last, ∀ after, (∀ char ∈ after, isMark char = false) →
      pieces isMark (before ++ after) = others ++ [last ++ after] := by
  induction before with
  | nil => exact ⟨[], [], fun after unmarked => pieces_of_unmarked unmarked⟩
  | cons first rest ih =>
    obtain ⟨others, last, same⟩ := ih
    cases marked : isMark first with
    | true =>
      refine ⟨[] :: others, last, fun after unmarked => ?_⟩
      rw [List.cons_append, pieces_cons_mark marked, same after unmarked, List.cons_append]
    | false =>
      cases others with
      | nil =>
        refine ⟨[], first :: last, fun after unmarked => ?_⟩
        rw [List.cons_append, pieces_cons_other marked, same after unmarked]
        rfl
      | cons piece more =>
        refine ⟨(first :: piece) :: more, last, fun after unmarked => ?_⟩
        rw [List.cons_append, pieces_cons_other marked, same after unmarked]
        rfl

private theorem length_pieces (text : Text) :
    (pieces isMark text).length = text.countP isMark + 1 := by
  induction text with
  | nil => rfl
  | cons first rest ih =>
    cases same : isMark first with
    | true => rw [pieces_cons_mark same, List.length_cons, ih, List.countP_cons_of_pos same]
    | false =>
      rw [pieces_cons_other same, List.length_modifyHead, ih,
        List.countP_cons_of_neg (by simp [same])]

/-- A text cut at its marks: what stands before the first one, and each mark with what stands behind it up to the
next one. -/
@[ext]
structure Cut (isMark : Char → Bool) where
  start : Text
  parts : List (Char × Text)
  unmarked : ∀ segment ∈ start :: parts.map Prod.snd, ∀ char ∈ segment, isMark char = false
  marked : ∀ part ∈ parts, isMark part.1 = true

namespace Cut

def text (cut : Cut isMark) : Text := cut.start ++ cut.parts.flatMap fun part => part.1 :: part.2

def segments (cut : Cut isMark) : List Text := cut.start :: cut.parts.map Prod.snd

def inner (cut : Cut isMark) : List Text := cut.segments.tail.dropLast

private theorem pieces_append_parts {start : Text} {parts : List (Char × Text)}
    (unmarked : ∀ segment ∈ start :: parts.map Prod.snd, ∀ char ∈ segment, isMark char = false)
    (marked : ∀ part ∈ parts, isMark part.1 = true) :
    pieces isMark (start ++ parts.flatMap fun part => part.1 :: part.2) = start :: parts.map Prod.snd := by
  induction parts generalizing start with
  | nil =>
    rw [List.flatMap_nil, List.append_nil]
    exact pieces_of_unmarked (unmarked start List.mem_cons_self)
  | cons part rest ih =>
    obtain ⟨own, others⟩ := List.forall_mem_cons.mp unmarked
    obtain ⟨isMark, later⟩ := List.forall_mem_cons.mp marked
    rw [List.flatMap_cons, List.cons_append, pieces_append_mark isMark, pieces_of_unmarked own, ih others later]
    rfl

theorem pieces_text (cut : Cut isMark) : pieces isMark cut.text = cut.segments :=
  pieces_append_parts cut.unmarked cut.marked

private theorem filter_append_parts {start : Text} {parts : List (Char × Text)}
    (unmarked : ∀ segment ∈ start :: parts.map Prod.snd, ∀ char ∈ segment, isMark char = false)
    (marked : ∀ part ∈ parts, isMark part.1 = true) :
    (start ++ parts.flatMap fun part => part.1 :: part.2).filter isMark = parts.map Prod.fst := by
  have none (segment : Text) (free : ∀ char ∈ segment, isMark char = false) : segment.filter isMark = [] := by
    apply List.filter_eq_nil_iff.mpr
    intro char member
    exact Bool.eq_false_iff.mp (free char member)
  induction parts generalizing start with
  | nil => simpa using none start (unmarked start List.mem_cons_self)
  | cons part rest ih =>
    obtain ⟨own, others⟩ := List.forall_mem_cons.mp unmarked
    obtain ⟨isMark, later⟩ := List.forall_mem_cons.mp marked
    rw [List.filter_append, none start own, List.flatMap_cons, List.cons_append, List.filter_cons_of_pos isMark,
      ih others later]
    rfl

/-- There is only one way to cut a text at its marks. -/
theorem eq_of_text_eq {cut other : Cut isMark} (same : cut.text = other.text) : cut = other := by
  have segments : cut.segments = other.segments := by
    rw [← cut.pieces_text, ← other.pieces_text, same]
  have marks : cut.parts.map Prod.fst = other.parts.map Prod.fst := by
    have own : cut.text.filter isMark = cut.parts.map Prod.fst := filter_append_parts cut.unmarked cut.marked
    have others : other.text.filter isMark = other.parts.map Prod.fst :=
      filter_append_parts other.unmarked other.marked
    rw [← own, ← others, same]
  obtain ⟨start, texts⟩ := List.cons.inj segments
  have parts : cut.parts = other.parts := by
    rw [← List.zip_unzip cut.parts, ← List.zip_unzip other.parts]
    simp only [List.unzip_eq_map, marks, texts]
  exact Cut.ext start parts

theorem exists_text_eq (isMark : Char → Bool) (text : Text) : ∃ cut : Cut isMark, cut.text = text := by
  induction text using pieces_induction isMark with
  | whole text unmarked =>
    have only : ∀ segment ∈ [text], ∀ char ∈ segment, isMark char = false := List.forall_mem_singleton.mpr unmarked
    exact ⟨⟨text, [], only, nofun⟩, List.append_nil text⟩
  | cut piece mark rest unmarked isMark ih =>
    obtain ⟨later, rfl⟩ := ih
    exact ⟨⟨piece, (mark, later.start) :: later.parts, List.forall_mem_cons.mpr ⟨unmarked, later.unmarked⟩,
      List.forall_mem_cons.mpr ⟨isMark, later.marked⟩⟩, rfl⟩

end Cut

theorem rows_append (before after : Text) :
    rows (before ++ '\n' :: after) = rows before ++ rows after :=
  pieces_append_mark (by simp) before after

theorem lines_append (before after : Text) : lines (before ++ '\n' :: after) = lines before ++ lines after := by
  rw [lines, lines, lines, rows_append, List.map_append, List.filter_append]

theorem mem_lines_iff {line text : Text} :
    line ∈ lines text ↔ (∃ row ∈ rows text, trim row = line) ∧ line ≠ [] := by
  rw [lines, List.mem_filter, List.mem_map]
  simp

theorem length_rows (text : Text) : (rows text).length = text.count '\n' + 1 := by
  rw [rows, length_pieces, List.count]
  congr 1

theorem unmarked_of_mem_pieces {text piece : Text} (member : piece ∈ pieces isMark text) :
    ∀ char ∈ piece, isMark char = false := by
  induction text generalizing piece with
  | nil => simp_all [pieces]
  | cons first rest ih =>
    cases marked : isMark first with
    | true =>
      rw [pieces_cons_mark marked] at member
      rcases List.mem_cons.mp member with rfl | later
      · exact fun _ absent => absurd absent List.not_mem_nil
      · exact ih later
    | false =>
      obtain ⟨head, others, found⟩ := List.exists_cons_of_ne_nil (pieces_ne_nil isMark rest)
      rw [pieces_cons_other marked, found, List.modifyHead_cons] at member
      rcases List.mem_cons.mp member with rfl | later
      · exact List.forall_mem_cons.mpr ⟨marked, ih (found ▸ List.mem_cons_self)⟩
      · exact ih (found ▸ List.mem_cons_of_mem _ later)

/-- The pieces of texts with a mark between each two are those of the texts. -/
theorem pieces_joined {mark : Char} (marked : isMark mark = true) {texts : List Text}
    (nonempty : texts ≠ []) :
    pieces isMark (joined [mark] texts) = texts.flatMap (pieces isMark) := by
  fun_induction joined [mark] texts with
  | case1 => exact absurd rfl nonempty
  | case2 only => rw [List.flatMap_singleton]
  | case3 first second rest ih =>
    rw [List.flatMap_cons, List.append_assoc, List.singleton_append, pieces_append_mark marked,
      ih (List.cons_ne_nil _ _)]

theorem lineFeed_notMem_of_mem_rows {text row : Text} (member : row ∈ rows text) : '\n' ∉ row :=
  fun present => by simpa using unmarked_of_mem_pieces member '\n' present

theorem rows_joined {texts : List Text} (nonempty : texts ≠ []) :
    rows (joined ['\n'] texts) = texts.flatMap rows :=
  pieces_joined (by simp) nonempty

private theorem rows_of_isRow {text : Text} (isRow : '\n' ∉ text) : rows text = [text] := by
  refine pieces_of_unmarked fun char present => ?_
  rw [decide_eq_false_iff_not]
  rintro rfl
  exact isRow present

/-- Rows are read back from the text that they are written to. -/
theorem flatMap_rows {texts : List Text} (isRow : ∀ text ∈ texts, '\n' ∉ text) :
    texts.flatMap rows = texts := by
  induction texts with
  | nil => rfl
  | cons first rest ih =>
    obtain ⟨own, others⟩ := List.forall_mem_cons.mp isRow
    rw [List.flatMap_cons, rows_of_isRow own, ih others, List.singleton_append]

end PageSketch.Text
