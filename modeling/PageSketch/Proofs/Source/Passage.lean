import Mathlib.Data.List.TakeWhile
import PageSketch.Component.Value
import PageSketch.Proofs.Source.Numbering

/-! A source cut into passages, one for each line that starts a component. What a component takes from
its passage is said here by cutting alone, without a state that goes from line to line. -/
namespace PageSketch.Source

/-- The value of a line that is the directive of this name. -/
def Line.value? (name : String) (line : Line) : Option Text :=
  match line.kind with
  | .directive found value => if String.ofList found = name then some value else none
  | _ => none

def values (name : String) (lines : List Line) : List Text := lines.filterMap (Line.value? name)

/-- The value of a line that starts a component. -/
def Line.start? (line : Line) : Option Text := line.value? "component"

@[simp]
theorem Line.start?_shift (offset : Nat) (line : Line) :
    (line.shift offset).start? = line.start? := rfl

/-- The entry that a directive makes in the map of its component. -/
def Line.setting? (line : Line) : Option (String × DirectiveValue) :=
  match line.kind with
  | .directive name value => some (String.ofList name, .ofRaw (String.ofList value))
  | _ => none

def settings (lines : List Line) : List (String × DirectiveValue) := lines.filterMap Line.setting?

/-- Whether the line is neither a directive nor an at sign without a name. -/
def Line.isText (line : Line) : Bool :=
  match line.kind with
  | .directive _ _ | .nameless => false
  | _ => true

/-- One component as it stands in a source: the line that starts it, and the lines from there to the
next line that starts one or to the end. -/
@[ext]
structure Passage where
  start : Line
  value : Text
  body : List Line
  started : start.start? = some value
  unbroken : ∀ line ∈ body, line.start? = none

/-- The passage of a line that starts a component, with the lines that follow it in the source. -/
def Passage.ofStart {start : Line} {value : Text} (started : start.start? = some value)
    (following : List Line) : Passage where
  start := start
  value := value
  body := following.takeWhile (·.start? = none)
  started := started
  unbroken := fun _ member => by simpa using List.mem_takeWhile_imp member

/-- The passages of the lines that count, in order. -/
def passages : List Line → List Passage
  | [] => []
  | line :: rest =>
    match started : line.start? with
    | some _ => .ofStart started rest :: passages rest
    | none => passages rest

namespace Passage

variable (passage : Passage)

/-- The lines before the block: those up to the first opening brace that stands alone. -/
def before : List Line := passage.body.takeWhile (·.text ≠ ['{'])

/-- The lines of the block: those after that brace, up to the first closing brace that stands alone. -/
def block : List Line :=
  ((passage.body.dropWhile (·.text ≠ ['{'])).drop 1).takeWhile (·.text ≠ ['}'])

/-- The lines that count for the component: its own line, and those up to the end of its block. -/
def live : List Line := passage.start :: (passage.before ++ passage.block)

def values (name : String) : List Text := Source.values name passage.live

/-- The lines of the block that are text, one below the other. -/
def description : Text := Text.joined ['\n'] ((passage.block.filter Line.isText).map Line.text)

def lines : List Line := passage.start :: passage.body

def shift (offset : Nat) (passage : Passage) : Passage where
  start := passage.start.shift offset
  value := passage.value
  body := passage.body.map (Line.shift offset)
  started := (Line.start?_shift offset passage.start).trans passage.started
  unbroken := by
    intro line member
    obtain ⟨original, found, same⟩ := List.mem_map.mp member
    subst line
    rw [Line.start?_shift]
    exact passage.unbroken original found

end Passage

variable {line : Line} {rest : List Line} {passage : Passage}

theorem Line.name_ne_of_noStart {name value : Text} (directive : line.kind = .directive name value)
    (inside : line.start? = none) : String.ofList name ≠ "component" := by
  intro same
  simp [Line.start?, Line.value?, directive, same] at inside

theorem Line.kind_of_start {value : Text} (started : line.start? = some value) :
    ∃ name, String.ofList name = "component" ∧ line.kind = .directive name value := by
  unfold Line.start? Line.value? at started
  split at started
  · rename_i name found kind
    split at started
    · rename_i same
      cases started
      exact ⟨name, same, kind⟩
    · cases started
  · cases started

theorem Line.kind_eq_blockOpen : line.kind = .blockOpen ↔ line.text = ['{'] := by
  unfold Line.kind
  fun_cases classify line.text <;> simp_all

theorem Line.kind_eq_blockClose : line.kind = .blockClose ↔ line.text = ['}'] := by
  unfold Line.kind
  fun_cases classify line.text <;> simp_all

theorem Passage.not_brace_of_mem_before (member : line ∈ passage.before) : line.text ≠ ['{'] := by
  simpa using List.mem_takeWhile_imp member

theorem Passage.not_brace_of_mem_block (member : line ∈ passage.block) : line.text ≠ ['}'] := by
  simpa using List.mem_takeWhile_imp member

/-- The three forms of a passage: without a block, with one that does not close, with one that does. -/
theorem Passage.body_cases (passage : Passage) :
    (passage.body = passage.before ∧ passage.block = []) ∨
      ∃ opening, opening.text = ['{'] ∧
        (passage.body = passage.before ++ opening :: passage.block ∨
          ∃ closing after, closing.text = ['}'] ∧
            passage.body = passage.before ++ opening :: (passage.block ++ closing :: after)) := by
  have parts : passage.before ++ passage.body.dropWhile (·.text ≠ ['{']) = passage.body :=
    List.takeWhile_append_dropWhile
  have head := List.head?_dropWhile_not (·.text ≠ ['{']) passage.body
  cases found : passage.body.dropWhile (·.text ≠ ['{']) with
  | nil =>
    left
    rw [found, List.append_nil] at parts
    exact ⟨parts.symm, by rw [Passage.block, found]; rfl⟩
  | cons opening rest =>
    right
    rw [found] at parts head
    have opens : opening.text = ['{'] := by simpa using head
    have block : passage.block = rest.takeWhile (·.text ≠ ['}']) := by
      rw [Passage.block, found]
      rfl
    have inner : passage.block ++ rest.dropWhile (·.text ≠ ['}']) = rest := by
      rw [block]
      exact List.takeWhile_append_dropWhile
    have last := List.head?_dropWhile_not (·.text ≠ ['}']) rest
    refine ⟨opening, opens, ?_⟩
    cases closed : rest.dropWhile (·.text ≠ ['}']) with
    | nil =>
      left
      rw [closed, List.append_nil] at inner
      rw [inner, parts]
    | cons closing after =>
      right
      rw [closed] at inner last
      exact ⟨closing, after, by simpa using last, by rw [inner, parts]⟩

/-- The lines that count for a component are lines of its passage. -/
theorem Passage.live_sublist (passage : Passage) : passage.live.Sublist passage.lines := by
  apply List.Sublist.cons_cons
  rcases passage.body_cases with ⟨body, empty⟩ | ⟨opening, _, body | ⟨closing, after, _, body⟩⟩
  · rw [empty, List.append_nil]
    exact body ▸ List.Sublist.refl _
  · rw [body]
    exact (List.Sublist.refl _).append (List.sublist_cons_self _ _)
  · rw [body]
    exact (List.Sublist.refl _).append
      ((List.sublist_append_left _ _).trans (List.sublist_cons_self _ _))

theorem passages_cons_other (other : line.start? = none) :
    passages (line :: rest) = passages rest := by
  rw [passages]
  split
  · rename_i value started
    rw [other] at started
    cases started
  · rfl

theorem passages_cons_start {value : Text} (started : line.start? = some value) :
    passages (line :: rest) = .ofStart started rest :: passages rest := by
  rw [passages]
  split
  · rename_i found again
    rw [started] at again
    cases again
    rfl
  · rename_i other
    rw [started] at other
    cases other

private theorem passages_eq_nil {lines : List Line} (unstarted : ∀ line ∈ lines, line.start? = none) :
    passages lines = [] := by
  induction lines with
  | nil => rfl
  | cons line rest ih =>
    obtain ⟨first, others⟩ := List.forall_mem_cons.mp unstarted
    rw [passages_cons_other first, ih others]

/-- A single component with its block, cut at its braces. -/
theorem exists_passage_of_block {start opening closing : Line} {value : Text}
    {before block : List Line} (started : start.start? = some value)
    (unstarted : ∀ line ∈ before ++ block, line.start? = none)
    (noOpen : ∀ line ∈ before, line.text ≠ ['{']) (opens : opening.text = ['{'])
    (noClose : ∀ line ∈ block, line.text ≠ ['}']) (closes : closing.text = ['}']) :
    ∃ passage, passages (start :: (before ++ opening :: (block ++ [closing]))) = [passage] ∧
      passage.start = start ∧ passage.value = value ∧ passage.before = before ∧
      passage.block = block := by
  have noStart : ∀ line ∈ before ++ opening :: (block ++ [closing]), line.start? = none := by
    have openingStarts : opening.start? = none := by
      simp [Line.start?, Line.value?, Line.kind_eq_blockOpen.mpr opens]
    have closingStarts : closing.start? = none := by
      simp [Line.start?, Line.value?, Line.kind_eq_blockClose.mpr closes]
    simp only [List.forall_mem_append, List.forall_mem_cons] at unstarted ⊢
    exact ⟨unstarted.1, openingStarts, unstarted.2, closingStarts,
      fun _ absent => absurd absent List.not_mem_nil⟩
  have body : (Passage.ofStart started (before ++ opening :: (block ++ [closing]))).body =
      before ++ opening :: (block ++ [closing]) :=
    List.takeWhile_eq_self_iff.mpr (by simpa using noStart)
  have kept : ∀ line ∈ before, decide (line.text ≠ ['{']) = true := by simpa using noOpen
  have inside : ∀ line ∈ block, decide (line.text ≠ ['}']) = true := by simpa using noClose
  refine ⟨.ofStart started (before ++ opening :: (block ++ [closing])), ?_, rfl, rfl, ?_, ?_⟩
  · rw [passages_cons_start started, passages_eq_nil noStart]
  · rw [Passage.before, body, List.takeWhile_append_of_pos kept,
      List.takeWhile_cons_of_neg (by simp [opens]), List.append_nil]
  · rw [Passage.block, body, List.dropWhile_append_of_pos kept,
      List.dropWhile_cons_of_neg (by simp [opens]), List.drop_one, List.tail_cons,
      List.takeWhile_append_of_pos inside, List.takeWhile_cons_of_neg (by simp [closes]),
      List.append_nil]

/-- Nothing is lost by cutting: the passages are all lines from the first start on. -/
theorem takeWhile_append_passages (lines : List Line) :
    lines.takeWhile (·.start? = none) ++ (passages lines).flatMap Passage.lines = lines := by
  induction lines with
  | nil => rfl
  | cons line rest ih =>
    cases started : line.start? with
    | none =>
      rw [passages_cons_other started, List.takeWhile_cons_of_pos (by simp [started]),
        List.cons_append, ih]
    | some value =>
      rw [passages_cons_start started, List.takeWhile_cons_of_neg (by simp [started]),
        List.flatMap_cons, List.nil_append, Passage.lines, List.cons_append, Passage.ofStart, ih]

theorem mem_of_mem_passages {found : List Line} {passage : Passage}
    (cut : passage ∈ passages found) (member : line ∈ passage.lines) : line ∈ found := by
  rw [← takeWhile_append_passages found]
  exact List.mem_append_right _ (List.mem_flatMap.mpr ⟨passage, cut, member⟩)

/-- Lines that start a component end the passage before them, whatever that one has come to. -/
theorem passages_append {before after : List Line}
    (starts : ∀ line ∈ after.head?, line.start? ≠ none) :
    passages (before ++ after) = passages before ++ passages after := by
  induction before with
  | nil => rfl
  | cons line rest ih =>
    rw [List.cons_append]
    cases started : line.start? with
    | none => rw [passages_cons_other started, passages_cons_other started, ih]
    | some value =>
      have ended : after.takeWhile (·.start? = none) = [] := by
        cases after with
        | nil => rfl
        | cons first others =>
          exact List.takeWhile_cons_of_neg (by simpa using starts first (by simp))
      have cut : (rest ++ after).takeWhile (·.start? = none) = rest.takeWhile (·.start? = none) := by
        rw [List.takeWhile_append, ended, List.append_nil]
        split
        · rename_i whole
          exact ((List.takeWhile_sublist _).eq_of_length whole).symm
        · rfl
      have same : Passage.ofStart started (rest ++ after) = .ofStart started rest :=
        Passage.ext rfl rfl cut
      rw [passages_cons_start started, passages_cons_start started, ih, same, List.cons_append]

theorem passages_shift (offset : Nat) (lines : List Line) :
    passages (lines.map (Line.shift offset)) = (passages lines).map (Passage.shift offset) := by
  induction lines with
  | nil => rfl
  | cons line rest ih =>
    rw [List.map_cons]
    cases started : line.start? with
    | none =>
      have moved : (line.shift offset).start? = none := started
      rw [passages_cons_other started, passages_cons_other moved, ih]
    | some value =>
      have moved : (line.shift offset).start? = some value := started
      have same : Passage.ofStart moved (rest.map (Line.shift offset)) =
          (Passage.ofStart started rest).shift offset :=
        Passage.ext rfl rfl List.takeWhile_map
      rw [passages_cons_start moved, passages_cons_start started, ih, same, List.map_cons]

end PageSketch.Source
