import PageSketch.Detection
import PageSketch.Proofs.Pattern.Lines
import PageSketch.Proofs.Text.Lowering

/-! Guessing a kind line by line: a description points to the first of the kinds that its lines point to. -/
namespace PageSketch

open Pattern

/-- A text on one row that does not go on, with a colon, with what a row above it begins. -/
structure Text.IsOwnLine (line : Text) : Prop where
  isRow : '\n' ∉ line
  uncolon : (line.dropWhile isBlank).head? ≠ some ':'

variable {lines : List Text} {line below : Text}

theorem Text.IsOwnLine.lower (own : line.IsOwnLine) : (Text.lower line).IsOwnLine where
  isRow lineFeed := own.isRow (mem_of_mem_lowerAfter isCaseless_stopCodes (by decide) lineFeed)
  uncolon := head?_dropWhile_lowerAfter own.uncolon

private theorem Text.uncolon_joined (own : ∀ line ∈ lines, line.IsOwnLine) :
    ((joined ['\n'] lines).dropWhile isBlank).head? ≠ some ':' := by
  fun_induction joined ['\n'] lines with
  | case1 =>
    intro start
    cases start
  | case2 only => exact (own only List.mem_cons_self).uncolon
  | case3 first second rest ih =>
    obtain ⟨ownFirst, ownRest⟩ := List.forall_mem_cons.mp own
    rw [List.append_assoc, List.dropWhile_append]
    split
    · have newline : isBlank '\n' = true := by decide
      rw [List.singleton_append, List.dropWhile_cons_of_pos newline]
      exact ih ownRest
    · rename_i filled
      rw [List.isEmpty_iff] at filled
      rw [List.head?_append_of_ne_nil _ filled]
      exact ownFirst.uncolon

namespace Kind

/-- Every sign of a kind acts by line above lines that do not start with a colon. -/
theorem actsByLine_of_mem_signs (kind : Kind)
    (uncolon : (below.dropWhile Text.isBlank).head? ≠ some ':') :
    ∀ sign ∈ kind.signs, sign.ActsByLine below := by
  have inline (signs : List Pattern) (all : signs.all isInline = true) :
      ∀ sign ∈ signs, sign.ActsByLine below := fun sign member =>
    actsByLine_of_isInline (List.all_eq_true.mp all sign member) below
  cases kind with
  | form =>
    refine List.forall_mem_cons.mpr ⟨actsByLine_of_isInline (by decide) below, ?_⟩
    refine List.forall_mem_cons.mpr ⟨actsByLine_of_isInline (by decide) below, ?_⟩
    exact List.forall_mem_cons.mpr ⟨actsByLine_colon (by decide) uncolon, inline _ (by decide)⟩
  | table =>
    refine List.forall_mem_cons.mpr ⟨actsByLine_of_isInline (by decide) below, ?_⟩
    exact List.forall_mem_cons.mpr ⟨actsByLine_colon (by decide) uncolon, inline _ (by decide)⟩
  | accordion =>
    refine List.forall_mem_cons.mpr ⟨actsByLine_of_isInline (by decide) below, ?_⟩
    refine List.forall_mem_cons.mpr ⟨actsByLine_of_isInline (by decide) below, ?_⟩
    refine List.forall_mem_cons.mpr ⟨actsByLine_of_isInline (by decide) below, ?_⟩
    exact List.forall_mem_singleton.mpr (actsByLine_start (by decide) below)
  | tabs =>
    refine List.forall_mem_cons.mpr ⟨actsByLine_of_isInline (by decide) below, ?_⟩
    refine List.forall_mem_cons.mpr ⟨actsByLine_of_isInline (by decide) below, ?_⟩
    exact List.forall_mem_singleton.mpr (actsByLine_start (by decide) below)
  | hero | card | navigation | modal | footer | gallery | carousel | pricing | testimonial =>
    exact inline _ (by decide)

/-- A sign occurs in lines just if it occurs in one of them. -/
theorem occursIn_joined {kind : Kind} {sign : Pattern} (member : sign ∈ kind.signs)
    (own : ∀ line ∈ lines, line.IsOwnLine) (nonempty : lines ≠ []) :
    sign.occursIn (Text.joined ['\n'] lines) = lines.any sign.occursIn := by
  fun_induction Text.joined ['\n'] lines with
  | case1 => exact absurd rfl nonempty
  | case2 only => simp
  | case3 first second rest ih =>
    obtain ⟨ownFirst, ownRest⟩ := List.forall_mem_cons.mp own
    have acts := kind.actsByLine_of_mem_signs (Text.uncolon_joined ownRest) sign member
    rw [List.append_assoc, List.singleton_append, acts.occursIn_append ownFirst.isRow,
      ih ownRest (List.cons_ne_nil _ _)]
    rfl

def showsIn (kind : Kind) (lowered : Text) : Bool := kind.signs.any (·.occursIn lowered)

private theorem showsIn_lower_joined (kind : Kind) (own : ∀ line ∈ lines, line.IsOwnLine) :
    kind.showsIn (Text.joined ['\n'] lines).lower = lines.any fun line => kind.showsIn line.lower := by
  by_cases nonempty : lines = []
  · subst nonempty
    cases kind <;> decide
  · have lowered : ∀ line ∈ lines.map Text.lower, line.IsOwnLine := by
      intro line member
      obtain ⟨original, present, rfl⟩ := List.mem_map.mp member
      exact (own original present).lower
    rw [Text.lower_joined, Bool.eq_iff_iff]
    have each (sign : Pattern) (member : sign ∈ kind.signs) :=
      occursIn_joined member lowered (by simpa using nonempty)
    simp only [showsIn, List.any_eq_true]
    constructor
    · rintro ⟨sign, member, occurs⟩
      rw [each sign member, List.any_map, List.any_eq_true] at occurs
      obtain ⟨line, present, occurs⟩ := occurs
      exact ⟨line, present, sign, member, occurs⟩
    · rintro ⟨line, present, sign, member, occurs⟩
      refine ⟨sign, member, ?_⟩
      rw [each sign member, List.any_map, List.any_eq_true]
      exact ⟨line, present, occurs⟩

end Kind

section First

variable {Key : Type} {keys : List Key} {holds weaker : Key → Bool}

private theorem find?_eq_find? (imp : ∀ key, holds key = true → weaker key = true)
    (first : ∀ key, keys.find? weaker = some key → holds key = true) :
    keys.find? holds = keys.find? weaker := by
  cases found : keys.find? weaker with
  | none =>
    rw [List.find?_eq_none] at found ⊢
    exact fun key member holds => found key member (imp key holds)
  | some key =>
    obtain ⟨_, before, after, same, none⟩ := List.find?_eq_some_iff_append.mp found
    refine List.find?_eq_some_iff_append.mpr ⟨first key found, before, after, same, fun other member => ?_⟩
    have not := none other member
    rw [Bool.not_eq_true'] at not ⊢
    exact Bool.eq_false_iff.mpr fun holds => by rw [imp other holds] at not; cases not

private theorem exists_find?_idxOf_le [BEq Key] [LawfulBEq Key] (imp : ∀ key, holds key = true → weaker key = true)
    {key : Key} (found : keys.find? holds = some key) :
    ∃ better, keys.find? weaker = some better ∧ keys.idxOf better ≤ keys.idxOf key := by
  have passes := imp key (List.find?_some found)
  obtain ⟨better, first⟩ := Option.isSome_iff_exists.mp
    (List.find?_isSome.mpr ⟨key, List.mem_of_find?_eq_some found, passes⟩)
  obtain ⟨holds, before, after, same, none⟩ := List.find?_eq_some_iff_append.mp first
  have later (other : Key) (passes : weaker other = true) : other ∉ before := fun member => by
    have not := none other member
    rw [passes] at not
    cases not
  refine ⟨better, first, ?_⟩
  rw [same, List.idxOf_append_of_notMem (later better holds), List.idxOf_append_of_notMem (later key passes),
    List.idxOf_cons_self]
  omega

end First

namespace Kind

private theorem detect?_joined_eq (own : ∀ line ∈ lines, line.IsOwnLine) :
    detect? (Text.joined ['\n'] lines) =
      all.find? fun kind => lines.any fun line => kind.showsIn line.lower := by
  have shows : detect? (Text.joined ['\n'] lines) =
      all.find? fun kind => kind.showsIn (Text.joined ['\n'] lines).lower := rfl
  simp only [shows, showsIn_lower_joined _ own]

/-- The first kind that lines show a sign of is the first that one of them points to. -/
theorem find?_detect?_eq (lines : List Text) :
    all.find? (fun kind => lines.any fun line => detect? line = some kind) =
      all.find? fun kind => lines.any fun line => kind.showsIn line.lower := by
  apply find?_eq_find?
  · intro kind points
    obtain ⟨line, present, detected⟩ := List.any_eq_true.mp points
    have found : all.find? (·.showsIn line.lower) = some kind := of_decide_eq_true detected
    have shows := List.find?_some found
    exact List.any_eq_true.mpr ⟨line, present, shows⟩
  · intro kind found
    obtain ⟨shows, before, after, same, none⟩ := List.find?_eq_some_iff_append.mp found
    obtain ⟨line, present, shows⟩ := List.any_eq_true.mp shows
    refine List.any_eq_true.mpr ⟨line, present, decide_eq_true ?_⟩
    refine List.find?_eq_some_iff_append.mpr ⟨shows, before, after, same, fun other member => ?_⟩
    -- An earlier kind that this line showed a sign of would have been found among all lines.
    have hidden := none other member
    rw [Bool.not_eq_true', List.any_eq_false] at hidden
    rw [Bool.not_eq_true', Bool.eq_false_iff]
    exact hidden line present

/-- A description of lines points to the first kind that one of its lines points to, to none if none does.
So the order of the lines does not matter, and one more line leaves the kind or leads to an earlier one. -/
theorem detect?_joined (lines : List Text) (own : ∀ line ∈ lines, line.IsOwnLine) :
    detect? (Text.joined ['\n'] lines) =
        all.find? (fun kind => lines.any fun line => detect? line = some kind) ∧
      (detect? (Text.joined ['\n'] lines) = none ↔ ∀ line ∈ lines, detect? line = none) ∧
      (∀ others, lines.Perm others →
        detect? (Text.joined ['\n'] others) = detect? (Text.joined ['\n'] lines)) ∧
      ∀ before line after kind, lines = before ++ line :: after →
        detect? (Text.joined ['\n'] (before ++ after)) = some kind →
        ∃ better, detect? (Text.joined ['\n'] lines) = some better ∧ all.idxOf better ≤ all.idxOf kind := by
  have byLine := (detect?_joined_eq own).trans (find?_detect?_eq lines).symm
  refine ⟨byLine, ?_, fun others perm => ?_, ?_⟩
  · rw [byLine, List.find?_eq_none]
    constructor
    · intro none line present
      refine Option.eq_none_iff_forall_ne_some.mpr fun kind detected => ?_
      have found : all.find? (·.showsIn line.lower) = some kind := detected
      refine none kind (List.mem_of_find?_eq_some found) ?_
      exact List.any_eq_true.mpr ⟨line, present, decide_eq_true detected⟩
    · intro none kind _ points
      obtain ⟨line, present, detected⟩ := List.any_eq_true.mp points
      rw [none line present] at detected
      cases detected
  · have ownOthers : ∀ line ∈ others, line.IsOwnLine := fun line member => own line (perm.mem_iff.mpr member)
    rw [detect?_joined_eq own, detect?_joined_eq ownOthers]
    congr 1
    funext kind
    rw [Bool.eq_iff_iff, List.any_eq_true, List.any_eq_true]
    simp only [perm.mem_iff]
  · rintro before line after kind rfl detected
    have kept : ∀ other ∈ before ++ after, other ∈ before ++ line :: after := fun other member =>
      (List.sublist_cons_self line after).append_left before |>.subset member
    rw [detect?_joined_eq fun other member => own other (kept other member)] at detected
    rw [detect?_joined_eq own]
    refine exists_find?_idxOf_le (fun kind shows => ?_) detected
    obtain ⟨other, member, shows⟩ := List.any_eq_true.mp shows
    exact List.any_eq_true.mpr ⟨other, kept other member, shows⟩

/-- A hero above the first question of a list, in either order. -/
theorem detect?_joined_question :
    (∀ line ∈ ["A Hero".toList, "Q: why?".toList], Text.IsOwnLine line) ∧
      detect? "A Hero".toList = some hero ∧ detect? "Q: why?".toList = some accordion ∧
      detect? "A Hero\nQ: why?".toList = some hero ∧ detect? "Q: why?\nA Hero".toList = some hero := by
  have own : ∀ line ∈ ["A Hero".toList, "Q: why?".toList], Text.IsOwnLine line :=
    List.forall_mem_cons.mpr ⟨⟨by decide, by decide⟩, List.forall_mem_singleton.mpr ⟨by decide, by decide⟩⟩
  have first : detect? "A Hero".toList = some hero := by decide +kernel
  have second : detect? "Q: why?".toList = some accordion := by decide +kernel
  obtain ⟨byLine, _, reordered, _⟩ := detect?_joined ["A Hero".toList, "Q: why?".toList] own
  have found : detect? (Text.joined ['\n'] ["A Hero".toList, "Q: why?".toList]) = some hero := by
    rw [byLine]
    simp only [List.any_cons, List.any_nil, first, second]
    decide
  have swapped := reordered ["Q: why?".toList, "A Hero".toList] (List.Perm.swap _ _ _)
  have joined : Text.joined ['\n'] ["A Hero".toList, "Q: why?".toList] = "A Hero\nQ: why?".toList := by decide
  have joined' : Text.joined ['\n'] ["Q: why?".toList, "A Hero".toList] = "Q: why?\nA Hero".toList := by decide
  rw [found, joined'] at swapped
  rw [joined] at found
  exact ⟨own, first, second, found, swapped⟩

end Kind

end PageSketch
