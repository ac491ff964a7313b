import PageSketch.Proofs.Text.Blank
import PageSketch.Proofs.Text.Trim

/-! Lower case, word by word and line by line, since a blank ends the context of a sigma; and the characters
that are their own lower case and no other character's. -/
namespace PageSketch.Text

variable {before text : Text} {char : Char}

private theorem startsCased_append_blank (blank : isBlank char = true) (before after : Text) :
    startsCased (before ++ char :: after) = startsCased before := by
  have apart := isBreak_of_isBlank blank
  induction before with
  | nil =>
    simp only [List.nil_append, startsCased, apart.notIgnorable, apart.uncased, Bool.false_eq_true, if_false]
  | cons first rest ih => rw [List.cons_append, startsCased, startsCased, ih]

/-- Only whether a letter stands before a text matters for its lower case. -/
theorem lowerAfter_congr {other : Text} (same : startsCased before = startsCased other) (text : Text) :
    lowerAfter before text = lowerAfter other text := by
  induction text generalizing before other with
  | nil => rfl
  | cons first rest ih =>
    have next : startsCased (first :: before) = startsCased (first :: other) := by
      rw [startsCased, startsCased, same]
    rw [lowerAfter, lowerAfter, ih next, lowerSigma, lowerSigma, same]

theorem lowerAfter_append_blank (blank : isBlank char = true) (before text rest : Text) :
    lowerAfter before (text ++ char :: rest) = lowerAfter before text ++ char :: lower rest := by
  induction text generalizing before with
  | nil =>
    have apart := isBreak_of_isBlank blank
    have ends : startsCased (char :: before) = startsCased [] := startsCased_append_blank blank [] before
    simp only [List.nil_append, lowerAfter, if_neg apart.notSigma, apart.lower, lowerAfter_congr ends]
    rfl
  | cons first others ih =>
    rw [List.cons_append, lowerAfter, lowerAfter, ih, lowerSigma, lowerSigma, startsCased_append_blank blank,
      List.append_assoc]

private theorem lower_blanks_append {left : Text} (blank : ∀ char ∈ left, isBlank char = true) (text : Text) :
    lower (left ++ text) = left ++ lower text := by
  induction left with
  | nil => rfl
  | cons first rest ih =>
    obtain ⟨own, others⟩ := List.forall_mem_cons.mp blank
    have parted : lower (first :: (rest ++ text)) = first :: lower (rest ++ text) :=
      lowerAfter_append_blank own [] [] (rest ++ text)
    rw [List.cons_append, parted, ih others, List.cons_append]

private theorem lower_append_blanks {right : Text} (blank : ∀ char ∈ right, isBlank char = true) (text : Text) :
    lower (text ++ right) = lower text ++ right := by
  cases right with
  | nil => rw [List.append_nil, List.append_nil]
  | cons first rest =>
    obtain ⟨own, others⟩ := List.forall_mem_cons.mp blank
    have parted : lower (text ++ first :: rest) = lower text ++ first :: lower rest :=
      lowerAfter_append_blank own [] text rest
    have kept : lower (rest ++ []) = rest ++ [] := lower_blanks_append others []
    rw [List.append_nil] at kept
    rw [parted, kept]

/-- Trimming takes from the lower case what it takes from the text. -/
theorem exists_lower_eq_append_trim (text : Text) :
    ∃ left right, lower text = left ++ lower (trim text) ++ right ∧ (∀ char ∈ left, isBlank char = true) ∧
      ∀ char ∈ right, isBlank char = true := by
  obtain ⟨left, right, same, before, after⟩ := exists_append_trim_append text
  refine ⟨left, right, ?_, before, after⟩
  rw [← lower_blanks_append before, ← lower_append_blanks after, ← same]

theorem lower_joined (lines : List Text) :
    lower (joined ['\n'] lines) = joined ['\n'] (lines.map lower) := by
  induction lines with
  | nil => rfl
  | cons first rest ih =>
    cases rest with
    | nil => rfl
    | cons second others =>
      rw [List.map_cons] at ih
      simp only [joined, List.map_cons, List.append_assoc, List.singleton_append, ← ih]
      exact lowerAfter_append_blank (by decide) [] first _

section Caseless

def CodeRanges.covers (ranges : CodeRanges) (char : Char) : Bool :=
  ranges.any fun range => range.1 ≤ char.toNat && char.toNat ≤ range.2

/-- Whether a shift neither starts nor ends in a range. -/
def CaseShift.avoids (shift : CaseShift) (range : Nat × Nat) : Bool :=
  (shift.last < range.1 || range.2 < shift.first) &&
    (shift.last + shift.offset < range.1 || range.2 < shift.first + shift.offset)

/-- Ranges that no shift to lower case touches, and none of the mappings that are no shifts. -/
structure CodeRanges.IsCaseless (ranges : CodeRanges) : Prop where
  shifts : ∀ range ∈ ranges, 0 < range.1 ∧ ∀ shift ∈ lowerShifts, shift.avoids range = true
  others : ['İ', 'i', '\u0307', 'Σ', 'σ', 'ς'].all (!ranges.covers ·) = true

variable {ranges : CodeRanges}

theorem covers_iff :
    ranges.covers char = true ↔ ∃ range ∈ ranges, range.1 ≤ char.toNat ∧ char.toNat ≤ range.2 := by
  simp [CodeRanges.covers]

theorem covers_of_contains (inside : ranges.contains char.toNat = true) : ranges.covers char = true := by
  rw [covers_iff]
  induction ranges with
  | nil => cases inside
  | cons range rest ih =>
    simp only [CodeRanges.contains, Bool.and_eq_true, Bool.or_eq_true, decide_eq_true_eq] at inside
    rcases inside with ⟨above, below | later⟩
    · exact ⟨range, List.mem_cons_self, above, below⟩
    · obtain ⟨found, member, bounds⟩ := ih later
      exact ⟨found, List.mem_cons_of_mem _ member, bounds⟩

private theorem shiftedCode_avoids {shifts : List CaseShift} {range : Nat × Nat} (positive : 0 < range.1)
    (avoid : ∀ shift ∈ shifts, shift.avoids range = true) (code : Nat) :
    shiftedCode shifts code = code ∨
      ¬ (range.1 ≤ code ∧ code ≤ range.2) ∧
        ¬ (range.1 ≤ shiftedCode shifts code ∧ shiftedCode shifts code ≤ range.2) := by
  -- The cases are those of the search: before the first shift, at a step of it, between two steps, later.
  induction shifts with
  | nil => exact .inl rfl
  | cons shift rest ih =>
    have avoids := avoid shift List.mem_cons_self
    simp only [CaseShift.avoids, Bool.and_eq_true, Bool.or_eq_true, decide_eq_true_eq] at avoids
    unfold shiftedCode
    split
    · exact .inl rfl
    · split
      · split
        · right
          omega
        · exact .inl rfl
      · exact ih fun later member => avoid later (List.mem_cons_of_mem _ member)

private theorem toNat_ofNat_cases (code : Nat) :
    (Char.ofNat code).toNat = code ∨ (Char.ofNat code).toNat = 0 := by
  by_cases valid : code.isValidChar
  · left
    rw [Char.ofNat, dif_pos valid]
    rfl
  · right
    rw [Char.ofNat, dif_neg valid]
    rfl

variable (caseless : ranges.IsCaseless)

include caseless

private theorem covers_eq_false (other : Char) (listed : other ∈ ['İ', 'i', '\u0307', 'Σ', 'σ', 'ς']) :
    ranges.covers other = false := by
  simpa using List.all_eq_true.mp caseless.others other listed

private theorem lowerChar_cases (char : Char) :
    ranges.covers char = true ∧ lowerChar char = [char] ∨
      ranges.covers char = false ∧ lowerChar char ≠ [] ∧
        ∀ lowered ∈ lowerChar char, ranges.covers lowered = false := by
  have free := covers_eq_false caseless
  unfold lowerChar
  split
  · rename_i same
    subst same
    refine .inr ⟨free 'İ' (by decide), List.cons_ne_nil _ _, ?_⟩
    exact List.forall_mem_cons.mpr ⟨free 'i' (by decide), List.forall_mem_singleton.mpr (free _ (by decide))⟩
  · cases covered : ranges.covers char with
    | true =>
      obtain ⟨range, among, inside⟩ := covers_iff.mp covered
      obtain ⟨positive, avoid⟩ := caseless.shifts range among
      have same := (shiftedCode_avoids positive avoid char.toNat).resolve_right fun apart => apart.1 inside
      exact .inl ⟨rfl, by rw [same, Char.ofNat_toNat]⟩
    | false =>
      refine .inr ⟨rfl, List.cons_ne_nil _ _, List.forall_mem_singleton.mpr ?_⟩
      rw [Bool.eq_false_iff]
      intro lands
      obtain ⟨range, among, inside⟩ := covers_iff.mp lands
      obtain ⟨positive, avoid⟩ := caseless.shifts range among
      rcases shiftedCode_avoids positive avoid char.toNat with same | ⟨_, apart⟩
      · rw [same, Char.ofNat_toNat, covered] at lands
        cases lands
      · rcases toNat_ofNat_cases (shiftedCode lowerShifts char.toNat) with same | zero
        · rw [same] at inside
          exact apart inside
        · omega

/-- One character: it stays when it is covered, and else becomes characters that are not. -/
theorem exists_lowerAfter_cons (before : Text) (first : Char) (rest : Text) :
    ∃ image, lowerAfter before (first :: rest) = image ++ lowerAfter (first :: before) rest ∧
      (ranges.covers first = true ∧ image = [first] ∨
        ranges.covers first = false ∧ image ≠ [] ∧ ∀ char ∈ image, ranges.covers char = false) := by
  rw [lowerAfter]
  split
  · rename_i same
    subst same
    have free := covers_eq_false caseless
    refine ⟨_, rfl, .inr ⟨free 'Σ' (by decide), List.cons_ne_nil _ _, List.forall_mem_singleton.mpr ?_⟩⟩
    rw [lowerSigma]
    split
    · exact free 'ς' (by decide)
    · exact free 'σ' (by decide)
  · exact ⟨_, rfl, lowerChar_cases caseless first⟩

/-- Characters that are covered come from those of the text. -/
theorem mem_of_mem_lowerAfter (covered : ranges.covers char = true)
    (member : char ∈ lowerAfter before text) : char ∈ text := by
  induction text generalizing before with
  | nil => cases member
  | cons first rest ih =>
    obtain ⟨image, same, ⟨_, kept⟩ | ⟨_, _, free⟩⟩ := exists_lowerAfter_cons caseless before first rest
    · rw [same, kept, List.singleton_append] at member
      rcases List.mem_cons.mp member with rfl | later
      · exact List.mem_cons_self
      · exact List.mem_cons_of_mem _ (ih later)
    · rw [same, List.mem_append] at member
      rcases member with own | later
      · rw [free char own] at covered
        cases covered
      · exact List.mem_cons_of_mem _ (ih later)

end Caseless

def stopCodes : CodeRanges := (0x3A, 0x3A) :: blankCodes

theorem isCaseless_stopCodes : stopCodes.IsCaseless := ⟨by decide +kernel, by decide⟩

theorem covers_of_isBlank (blank : isBlank char = true) : stopCodes.covers char = true := by
  obtain ⟨range, member, bounds⟩ := covers_iff.mp (covers_of_contains blank)
  exact covers_iff.mpr ⟨range, List.mem_cons_of_mem _ member, bounds⟩

theorem isEmpty_lower (text : Text) : (lower text).isEmpty = text.isEmpty := by
  cases text with
  | nil => rfl
  | cons first rest =>
    obtain ⟨image, same, kinds⟩ := exists_lowerAfter_cons isCaseless_stopCodes [] first rest
    have filled : image ≠ [] := by
      rcases kinds with ⟨_, rfl⟩ | ⟨_, filled, _⟩
      · exact List.cons_ne_nil _ _
      · exact filled
    rw [lower, same, List.isEmpty_cons, List.isEmpty_eq_false_iff]
    exact List.append_ne_nil_of_left_ne_nil filled _

/-- Lower case starts no text with a colon, behind blanks, that did not start so. -/
theorem head?_dropWhile_lowerAfter (uncolon : (text.dropWhile isBlank).head? ≠ some ':') :
    ((lowerAfter before text).dropWhile isBlank).head? ≠ some ':' := by
  induction text generalizing before with
  | nil => exact uncolon
  | cons first rest ih =>
    obtain ⟨image, same, ⟨_, rfl⟩ | ⟨_, nonempty, free⟩⟩ :=
      exists_lowerAfter_cons isCaseless_stopCodes before first rest
    · rw [same, List.singleton_append]
      rw [List.dropWhile_cons] at uncolon ⊢
      split
      · rename_i blank
        rw [if_pos blank] at uncolon
        exact ih uncolon
      · rename_i dark
        rw [if_neg dark] at uncolon
        exact uncolon
    · obtain ⟨head, others, rfl⟩ := List.exists_cons_of_ne_nil nonempty
      have uncovered := free head List.mem_cons_self
      have dark : ¬ isBlank head = true := fun blank => by
        rw [covers_of_isBlank blank] at uncovered
        cases uncovered
      rw [same, List.cons_append, List.dropWhile_cons_of_neg dark, List.head?_cons]
      rintro ⟨⟩
      exact absurd uncovered (by decide)

end PageSketch.Text
