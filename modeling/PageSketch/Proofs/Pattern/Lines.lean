import PageSketch.Proofs.Pattern.Reading
import PageSketch.Proofs.Text.Occurrence

/-! Patterns that occur in a text of several lines, or several words, just if they occur in one of them. -/
namespace PageSketch.Pattern

/-- The pattern matches in a text before a `stop` as in that text alone, and below the `stop` as at the start
of a text. A match of the `stop` itself may stand for one that is at the start. -/
structure ActsApart (pattern : Pattern) (stop : Char) (below : Text) : Prop where
  inside : ∀ before first rest, stop ∉ first :: rest →
    (pattern.matchAt? before (first :: rest ++ stop :: below)).isSome =
      (pattern.matchAt? before (first :: rest)).isSome
  across : ∀ before,
    ((pattern.matchAt? before (stop :: below)).isSome ||
        (pattern.matchAt? (some stop) below).isSome) =
      ((pattern.matchAt? before []).isSome || (pattern.matchAt? none below).isSome)

/-- The pattern acts apart from the lines above these lines. -/
def ActsByLine (pattern : Pattern) (below : Text) : Prop := pattern.ActsApart '\n' below

variable {pattern : Pattern} {stop : Char} {below line : Text}

private theorem isSome_findAfter_cons (pattern : Pattern) (before : Option Char) (first : Char) (rest : Text) :
    (pattern.findAfter before (first :: rest)).isSome =
      ((pattern.matchAt? before (first :: rest)).isSome || (pattern.findAfter (some first) rest).isSome) := by
  rw [findAfter]
  cases pattern.matchAt? before (first :: rest) <;> rfl

private theorem exists_isSome_findAfter (pattern : Pattern) (text : Text) :
    ∃ later, ∀ before,
      (pattern.findAfter before text).isSome = ((pattern.matchAt? before text).isSome || later) := by
  cases text with
  | nil => exact ⟨false, fun before => (Bool.or_false _).symm⟩
  | cons first rest =>
    exact ⟨(pattern.findAfter (some first) rest).isSome, fun before =>
      pattern.isSome_findAfter_cons before first rest⟩

/-- A search that goes through a line goes on below it as at the start of a text. -/
theorem ActsApart.isSome_findAfter (acts : pattern.ActsApart stop below) (inLine : stop ∉ line)
    (before : Option Char) :
    (pattern.findAfter before (line ++ stop :: below)).isSome =
      ((pattern.findAfter before line).isSome || (pattern.findAfter none below).isSome) := by
  induction line generalizing before with
  | nil =>
    -- The search beyond the first place below is the same on both sides.
    obtain ⟨later, start⟩ := pattern.exists_isSome_findAfter below
    rw [List.nil_append, isSome_findAfter_cons, start, start, ← Bool.or_assoc, acts.across, Bool.or_assoc]
    rfl
  | cons first rest ih =>
    have later : stop ∉ rest := fun member => inLine (List.mem_cons_of_mem _ member)
    rw [List.cons_append, isSome_findAfter_cons, isSome_findAfter_cons, ← List.cons_append,
      acts.inside before first rest inLine, ih later, Bool.or_assoc]

/-- The pattern occurs in a line and the lines below it just if it occurs in the line or below. -/
theorem ActsApart.occursIn_append (acts : pattern.ActsApart stop below) (inLine : stop ∉ line) :
    pattern.occursIn (line ++ stop :: below) = (pattern.occursIn line || pattern.occursIn below) :=
  acts.isSome_findAfter inLine none

theorem ActsByLine.occursIn_append (acts : pattern.ActsByLine below) (inLine : '\n' ∉ line) :
    pattern.occursIn (line ++ '\n' :: below) = (pattern.occursIn line || pattern.occursIn below) :=
  ActsApart.occursIn_append acts inLine

private theorem sameLine_start (dark : Text.isWordChar stop = false) (below text : Text) :
    SameLine stop below none (some stop) text text := by
  refine ⟨?_, .inl rfl⟩
  rw [Option.any_some, dark]
  rfl

/-- A pattern acts apart if it comes to a result at both of two places with the same text up to the `stop`, or
at neither. -/
theorem actsApart_of_sameLine (dark : Text.isWordChar stop = false)
    (same : ∀ before before' text text', SameLine stop below before before' text text' →
      (pattern.matchAt? before text).isSome = (pattern.matchAt? before' text').isSome) :
    pattern.ActsApart stop below := by
  constructor
  case inside =>
    intro before first rest _
    exact (same _ _ _ _ ⟨rfl, .inr rfl⟩).symm
  case across =>
    intro before
    rw [same before before [] (stop :: below) ⟨rfl, .inr rfl⟩,
      same none (some stop) below below (sameLine_start dark below below)]

theorem actsApart_of_avoids (dark : Text.isWordChar stop = false) (apart : pattern.avoids stop = true)
    (below : Text) : pattern.ActsApart stop below :=
  actsApart_of_sameLine dark fun _ _ _ _ same => isSome_useAt dark apart (fun _ _ _ => rfl) same

theorem actsByLine_of_isInline (inline : pattern.isInline = true) (below : Text) :
    pattern.ActsByLine below :=
  actsApart_of_avoids newline_notWordChar inline below

private theorem isSome_useAt_literal {Result : Type} {use : Match → Option Result}
    (always : ∀ found, (use found).isSome = true) (word : String) (before : Option Char) (text : Text) :
    ((literal word).useAt before text use).isSome = word.toList.isPrefixOf text := by
  rw [literal]
  induction word.toList generalizing before text use with
  | nil => exact always _
  | cons letter letters ih =>
    have parts : sequence ((letter :: letters).map fun char => one (· == char)) =
      next (one (· == letter)) (sequence (letters.map fun char => one (· == char))) := rfl
    rw [parts, useAt]
    cases text with
    | nil => rfl
    | cons first rest =>
      rw [useAt, List.isPrefixOf, Bool.beq_comm]
      split
      · rename_i equal
        rw [equal, Bool.true_and]
        exact ih (fun _ => always _) _ rest
      · rename_i other
        rw [eq_false_of_ne_true other]
        rfl

section Colon

/-- No colon is the first that comes, behind blanks and line feeds, from outside the line. -/
theorem SameLine.colon_eq {before before' : Option Char} {text text' : Text}
    (same : SameLine '\n' below before before' text text')
    (uncolon : (below.dropWhile Text.isBlank).head? ≠ some ':') :
    ":".toList.isPrefixOf (text.dropWhile Text.isBlank) =
      ":".toList.isPrefixOf (text'.dropWhile Text.isBlank) := by
  have colon (rest : Text) : ":".toList.isPrefixOf rest = (rest.head? == some ':') := by
    cases rest with
    | nil => rfl
    | cons first others =>
      rw [List.head?_cons, Option.some_beq_some, Bool.beq_comm]
      exact Bool.and_true _
  rw [colon, colon]
  rcases same.line with equal | longer
  · rw [equal]
  · have newline : Text.isBlank '\n' = true := by decide
    rw [longer, List.dropWhile_append]
    cases inLine : text.dropWhile Text.isBlank with
    | nil =>
      rw [List.isEmpty_nil, if_pos rfl, List.dropWhile_cons_of_pos newline, beq_eq_false_iff_ne.mpr uncolon]
      rfl
    | cons first rest => rfl

theorem actsByLine_colon {head : Pattern} (inline : head.isInline = true)
    (uncolon : (below.dropWhile Text.isBlank).head? ≠ some ':') :
    (head ++ blanks ++ literal ":").ActsByLine below := by
  refine actsApart_of_sameLine newline_notWordChar fun before before' text text' same => ?_
  change ((next (next head blanks) (literal ":")).useAt before text some).isSome =
    ((next (next head blanks) (literal ":")).useAt before' text' some).isSome
  simp only [blanks, useAt, wholeRun_eq]
  refine isSome_useAt newline_notWordChar inline (fun found found' ends => ?_) same
  rw [isSome_useAt_literal (fun _ => rfl), isSome_useAt_literal (fun _ => rfl)]
  exact ends.colon_eq uncolon

end Colon

section Start

/-- Whether the word stands below a line feed at the front of the text. -/
def standsBelow (word : Text) : Text → Bool
  | [] => false
  | first :: rest => first == '\n' && word.isPrefixOf rest

private theorem isSome_useAt_lineStart {Result : Type} {use : Match → Option Result} {word : Text}
    (behind : ∀ found, (use found).isSome = word.isPrefixOf found.rest) (before : Option Char)
    (text : Text) :
    ((either textStart (literal "\n")).useAt before text use).isSome =
      (before.isNone && word.isPrefixOf text || standsBelow word text) := by
  refine (isSome_preferred _ _).trans ?_
  congr 1
  · cases before with
    | none => exact behind _
    | some char => rfl
  · have feed : literal "\n" = next (one (· == '\n')) empty := rfl
    rw [feed, useAt]
    cases text with
    | nil => rfl
    | cons first rest =>
      rw [useAt, standsBelow]
      split
      · rename_i equal
        rw [equal, Bool.true_and]
        exact behind _
      · rename_i other
        rw [eq_false_of_ne_true other]
        rfl

private theorem isSome_matchAt_start (word : String) (before : Option Char) (text : Text) :
    ((either textStart (literal "\n") ++ literal word).matchAt? before text).isSome =
      (before.isNone && word.toList.isPrefixOf text || standsBelow word.toList text) :=
  isSome_useAt_lineStart (fun _ => isSome_useAt_literal (fun _ => rfl) word _ _) before text

/-- A word at the start of a line is one at the start of a text or below a line feed. -/
theorem actsByLine_start {word : String} (inLine : '\n' ∉ word.toList) (below : Text) :
    (either textStart (literal "\n") ++ literal word).ActsByLine below := by
  constructor
  case inside =>
    intro before first rest single
    have other : (first == '\n') = false := by
      rw [beq_eq_false_iff_ne]
      rintro rfl
      exact single List.mem_cons_self
    rw [isSome_matchAt_start, isSome_matchAt_start, Text.isPrefixOf_append_of_notMem inLine,
      List.cons_append, standsBelow, standsBelow, other]
    rfl
  case across =>
    intro before
    have none : word.toList.isPrefixOf ('\n' :: below) = word.toList.isPrefixOf [] :=
      Text.isPrefixOf_append_of_notMem inLine [] below
    rw [isSome_matchAt_start, isSome_matchAt_start, isSome_matchAt_start, isSome_matchAt_start, none,
      standsBelow, standsBelow]
    simp [Bool.or_assoc]

end Start

end PageSketch.Pattern
