import PageSketch.Pattern

/-! Patterns that avoid a character, and with it stay within a line or a word: what they match at a place
does not depend on what comes from that character on and, of what stands before, on no more than whether it
is a word character. -/
namespace PageSketch.Pattern

/-- Whether the pattern takes no `stop` and asks for neither end of the text. -/
def avoids (stop : Char) : Pattern → Bool
  | empty | wordEdge => true
  | one allows | many allows | run allows => !allows stop
  | next first second | either first second => first.avoids stop && second.avoids stop
  | textStart | textEnd => false
  | group inner => inner.avoids stop

/-- Whether the pattern takes no line feed and asks for neither end of the text. -/
def isInline (pattern : Pattern) : Bool := pattern.avoids '\n'

/-- Two places with the same text after them. Only the second text may go on, behind a `stop`. -/
structure SameLine (stop : Char) (below : Text) (before before' : Option Char) (text text' : Text) :
    Prop where
  edge : before.any Text.isWordChar = before'.any Text.isWordChar
  line : text' = text ∨ text' = text ++ stop :: below

/-- Two uses of matches that come to a result at the same places. -/
def SameUse {Result : Type} (stop : Char) (below : Text) (use use' : Match → Option Result) : Prop :=
  ∀ found found' : Match, SameLine stop below found.last found'.last found.rest found'.rest →
    (use found).isSome = (use' found').isSome

variable {Result : Type} {stop : Char} {below text text' : Text} {before before' : Option Char}
  {use use' : Match → Option Result}

theorem SameLine.nil (same : SameLine stop below before before' [] text') :
    text' = [] ∨ text' = stop :: below :=
  same.line

theorem SameLine.cons {first : Char} {rest : Text}
    (same : SameLine stop below before before' (first :: rest) text') :
    ∃ rest', text' = first :: rest' ∧ SameLine stop below (some first) (some first) rest rest' := by
  rcases same.line with equal | longer
  · exact ⟨rest, equal, rfl, .inl rfl⟩
  · exact ⟨rest ++ stop :: below, longer, rfl, .inr rfl⟩

theorem newline_notWordChar : Text.isWordChar '\n' = false := by decide

/-- What is no word character ends a word as the end of the text does. -/
theorem SameLine.atWordEdge (dark : Text.isWordChar stop = false)
    (same : SameLine stop below before before' text text') :
    atWordEdge before text = atWordEdge before' text' := by
  rw [Pattern.atWordEdge, Pattern.atWordEdge, same.edge]
  cases text with
  | nil =>
    rcases same.nil with rfl | rfl
    · rfl
    · rw [List.head?_cons, Option.any_some, dark]
      rfl
  | cons first rest =>
    obtain ⟨rest', rfl, _⟩ := same.cons
    rfl

/-- There is a result where there is one that is preferred, or one that stands in for it. -/
theorem isSome_preferred (result other : Option Result) :
    (match result with | some found => some found | none => other).isSome =
      (result.isSome || other.isSome) := by
  cases result <;> rfl

theorem preferred_eq_self (result other : Option Result) : result.isSome = true →
    (match result with | some found => some found | none => other) = result := by
  intro made
  obtain ⟨found, rfl⟩ := Option.isSome_iff_exists.mp made
  rfl

private theorem isSome_preferred_congr {result result' other other' : Option Result}
    (same : result.isSome = result'.isSome) (others : other.isSome = other'.isSome) :
    (match result with | some found => some found | none => other).isSome =
      (match result' with | some found => some found | none => other').isSome := by
  rw [isSome_preferred, isSome_preferred, same, others]

private theorem isSome_useRun {allows : Char → Bool} (refuses : allows stop = false) {start start' : Text}
    {length length' : Nat} (uses : SameUse stop below use use')
    (same : SameLine stop below before before' text text') :
    (useRun allows start use length before text).isSome =
      (useRun allows start' use' length' before' text').isSome := by
  induction text generalizing before before' text' length length' with
  | nil =>
    rcases same.nil with rfl | rfl
    · exact uses _ _ same
    · rw [useRun, useRun, refuses]
      exact uses _ _ same
  | cons first rest ih =>
    obtain ⟨rest', rfl, later⟩ := same.cons
    rw [useRun, useRun]
    refine isSome_preferred_congr ?_ (uses _ _ same)
    split
    · exact ih later
    · rfl

theorem SameLine.wholeRun {allows : Char → Bool} (refuses : allows stop = false) {start start' : Text}
    {length length' : Nat} (same : SameLine stop below before before' text text') :
    SameLine stop below (wholeRun allows start length before text).last
      (wholeRun allows start' length' before' text').last
      (wholeRun allows start length before text).rest
      (wholeRun allows start' length' before' text').rest := by
  induction text generalizing before before' text' length length' with
  | nil =>
    rcases same.nil with rfl | rfl
    · exact same
    · rw [Pattern.wholeRun, Pattern.wholeRun, refuses]
      exact same
  | cons first rest ih =>
    obtain ⟨rest', rfl, later⟩ := same.cons
    rw [Pattern.wholeRun, Pattern.wholeRun]
    split
    · exact ih later
    · exact same

/-- A pattern that avoids a character comes to a result at both of two places with the same text up to that
character, or at neither. -/
theorem isSome_useAt {pattern : Pattern} (dark : Text.isWordChar stop = false)
    (apart : pattern.avoids stop = true) (uses : SameUse stop below use use')
    (same : SameLine stop below before before' text text') :
    (pattern.useAt before text use).isSome = (pattern.useAt before' text' use').isSome := by
  -- The uses are any, because in a sequence the second pattern is part of how the first one is used.
  induction pattern generalizing before before' text text' use use' with
  | empty => exact uses _ _ same
  | one allows =>
    have refuses : allows stop = false := by simpa [avoids] using apart
    cases text with
    | nil =>
      rcases same.nil with rfl | rfl
      · rfl
      · simp [useAt, refuses]
    | cons first rest =>
      obtain ⟨rest', rfl, later⟩ := same.cons
      rw [useAt, useAt]
      split
      · exact uses _ _ later
      · rfl
  | many allows =>
    have refuses : allows stop = false := by simpa [avoids] using apart
    exact isSome_useRun refuses uses same
  | run allows =>
    have refuses : allows stop = false := by simpa [avoids] using apart
    exact uses _ _ (same.wholeRun refuses)
  | next first second ihFirst ihSecond =>
    obtain ⟨inFirst, inSecond⟩ := Bool.and_eq_true_iff.mp apart
    refine ihFirst inFirst (fun head head' heads => ?_) same
    exact ihSecond inSecond (fun tail tail' tails => uses _ _ tails) heads
  | either first second ihFirst ihSecond =>
    obtain ⟨inFirst, inSecond⟩ := Bool.and_eq_true_iff.mp apart
    exact isSome_preferred_congr (ihFirst inFirst uses same) (ihSecond inSecond uses same)
  | wordEdge =>
    rw [useAt, useAt, same.atWordEdge dark]
    split
    · exact uses _ _ same
    · rfl
  | textStart => cases apart
  | textEnd => cases apart
  | group inner ih => exact ih apart (fun found found' ends => uses _ _ ends) same

end PageSketch.Pattern
