import PageSketch.Proofs.Text.Lowering
import PageSketch.Template.Render
import PageSketch.Text.WordCase

/-! The characters that markup is made of, in texts that are escaped and in names that are rewritten. -/
namespace PageSketch.Text

/-- The characters that open and close tags and attributes. -/
def isMark (char : Char) : Bool := char == '<' || char == '>' || char == '"'

def marks (text : Text) : Text := text.filter isMark

@[simp]
theorem marks_nil : marks [] = [] := rfl

@[simp]
theorem marks_append (before after : Text) : marks (before ++ after) = marks before ++ marks after :=
  List.filter_append before after

theorem marks_eq_nil_iff {text : Text} : marks text = [] ↔ ∀ char ∈ text, isMark char = false := by
  simp [marks, List.filter_eq_nil_iff]

private theorem marks_cons (first : Char) (rest : Text) : marks (first :: rest) = marks [first] ++ marks rest :=
  marks_append [first] rest

private theorem marks_flatten (texts : List Text) : marks texts.flatten = texts.flatMap marks := by
  rw [marks, List.filter_flatten, List.flatMap_def]
  rfl

theorem marks_escape (text : Text) : marks (Template.escape text) = [] := by
  have clean (char : Char) : marks (Template.escapeChar char) = [] := by
    unfold Template.escapeChar
    split
    case h_8 notLess notGreater notQuote _ _ _ =>
      simp_all [marks, isMark]
    all_goals decide
  rw [Template.escape, List.flatMap_def, marks_flatten, List.flatMap_eq_nil_iff]
  intro piece member
  obtain ⟨char, _, rfl⟩ := List.mem_map.mp member
  exact clean char

def markCodes : CodeRanges := [(0x22, 0x22), (0x3C, 0x3C), (0x3E, 0x3E)]

private theorem isCaseless_markCodes : markCodes.IsCaseless := ⟨by decide +kernel, by decide⟩

private theorem covers_of_isMark {char : Char} (mark : isMark char = true) : markCodes.covers char = true := by
  simp only [isMark, Bool.or_eq_true, beq_iff_eq] at mark
  rcases mark with (rfl | rfl) | rfl <;> decide

private theorem marks_lowerAfter (before text : Text) : marks (lowerAfter before text) = marks text := by
  induction text generalizing before with
  | nil => rfl
  | cons first rest ih =>
    obtain ⟨image, same, kinds⟩ := exists_lowerAfter_cons isCaseless_markCodes before first rest
    have clean (piece : Text) (free : ∀ char ∈ piece, markCodes.covers char = false) : marks piece = [] := by
      refine marks_eq_nil_iff.mpr fun char member => Bool.eq_false_iff.mpr fun mark => ?_
      have uncovered := free char member
      rw [covers_of_isMark mark] at uncovered
      cases uncovered
    rw [same, marks_append, ih, marks_cons first rest]
    rcases kinds with ⟨_, rfl⟩ | ⟨uncovered, _, free⟩
    · rfl
    · rw [clean image free, clean [first] (List.forall_mem_singleton.mpr uncovered)]

/-- Lower case keeps the characters that markup is made of. -/
theorem marks_lower (text : Text) : marks (lower text) = marks text := marks_lowerAfter [] text

private theorem flatten_clustersFrom (begun : Text) (left : ClusterEnd) (rest : Text) :
    (clustersFrom begun left rest).flatten = begun.reverse ++ rest := by
  induction rest generalizing begun left with
  | nil => simp [clustersFrom]
  | cons first rest ih =>
    unfold clustersFrom
    split
    · simp [ih]
    · simp [ih]

private theorem flatten_clusters (text : Text) : (clusters text).flatten = text := by
  cases text with
  | nil => rfl
  | cons first rest => exact flatten_clustersFrom [first] _ rest

private theorem marks_of_isSeparator {cluster : Text} (separator : isSeparator cluster = true) :
    marks cluster = [] := by
  simp only [isSeparator, Bool.or_eq_true, beq_iff_eq] at separator
  rcases separator with (rfl | rfl) | rfl <;> decide

/-- A name loses nothing but separators when it is cut into words. -/
theorem marks_wordsAfter (left : Option Text) (clusters : List Text) :
    (wordsAfter left clusters).flatMap marks = clusters.flatMap marks := by
  induction clusters generalizing left with
  | nil => rfl
  | cons cluster rest ih =>
    rw [List.flatMap_cons, ← ih (some cluster), wordsAfter]
    split
    · rename_i separator
      simp [marks_of_isSeparator separator]
    · rename_i found
      simp [found]
    · rename_i found
      split <;> simp [found]

private theorem marks_joined {mark : Text} (clean : marks mark = []) (texts : List Text) :
    marks (joined mark texts) = texts.flatMap marks := by
  fun_induction joined mark texts with
  | case1 => rfl
  | case2 only => simp
  | case3 first second rest ih => simp [clean, ih]

private theorem flatMap_marks_filter (texts : List Text) :
    (texts.filter (!·.isEmpty)).flatMap marks = texts.flatMap marks := by
  induction texts with
  | nil => rfl
  | cons text rest ih =>
    cases text with
    | nil => simpa using ih
    | cons first others => simp [ih]

/-- A name in kebab case has the characters of the name that markup is made of. -/
theorem marks_kebabCase (name : Text) : marks (kebabCase name) = marks name := by
  calc marks (kebabCase name)
    _ = ((nameWords name).map lower).flatMap marks := marks_joined (by decide) _
    _ = (nameWords name).flatMap marks := by
      rw [List.flatMap_map]
      simp only [marks_lower]
    _ = (wordsAfter none (clusters name)).flatMap marks := flatMap_marks_filter _
    _ = (clusters name).flatMap marks := marks_wordsAfter none _
    _ = marks name := by rw [← marks_flatten, flatten_clusters]

end PageSketch.Text
