import PageSketch.Json.Printer
import PageSketch.Json.Reader

/-! A text between quotation marks is read back from the way it is written: every character that has to be
escaped is, and nothing of an escape closes the quotation. -/
namespace PageSketch.Json

variable {char : Char} {plain rest : Text}

private theorem hexValue?_hexDigit : ∀ value < 16, hexValue? (hexDigit value) = some value := by decide

private theorem hexDigit_isPlain : ∀ value < 16, hexDigit value ≠ '"' ∧ hexDigit value ≠ '\\' := by decide

private theorem unitsCharacter?_hexDigits (control : char.toNat < 32) (rest : Text) :
    unitsCharacter? ('0' :: '0' :: hexDigit (char.toNat / 16) :: hexDigit (char.toNat % 16) :: rest) =
      some (char, rest) := by
  have zero : hexValue? '0' = some 0 := by decide
  have high := hexValue?_hexDigit (char.toNat / 16) (by omega)
  have low := hexValue?_hexDigit (char.toNat % 16) (by omega)
  have unit : unit? ('0' :: '0' :: hexDigit (char.toNat / 16) :: hexDigit (char.toNat % 16) :: rest) =
      some (char.toNat, rest) := by
    simp only [unit?, zero, high, low, Option.bind_eq_bind, Option.bind_some, Option.pure_def]
    congr 2
    omega
  simp only [unitsCharacter?, unit, Option.bind_eq_bind, Option.bind_some]
  rw [if_pos (by omega), Char.ofNat_toNat]
  rfl

/-- A character is written as it is, or as an escape that is read back. -/
theorem escapeChar_cases (char : Char) :
    (escapeChar char = [char] ∧ char ≠ '"' ∧ char ≠ '\\' ∧ ¬char.toNat < 0x20) ∨
      ∃ first tail, escapeChar char = '\\' :: first :: tail ∧
        (∀ later ∈ tail, later ≠ '"' ∧ later ≠ '\\') ∧
        ∀ rest, escaped? '"' (first :: tail ++ rest) = some (char, rest) := by
  have named {letter : Char} {code : Nat} (same : char.toNat = code)
      (escape : ∀ rest, escaped? '"' (letter :: rest) = some (Char.ofNat code, rest)) (rest : Text) :
      escaped? '"' ([letter] ++ rest) = some (char, rest) := by
    rw [List.singleton_append, escape, ← same, Char.ofNat_toNat]
  fun_cases escapeChar char with
  | case1 same => exact .inr ⟨_, _, rfl, by simp, fun rest => by subst char; rfl⟩
  | case2 _ same => exact .inr ⟨_, _, rfl, by simp, fun rest => by subst char; rfl⟩
  | case3 _ _ same => exact .inr ⟨_, _, rfl, by simp, fun rest => by subst char; rfl⟩
  | case4 _ _ _ same => exact .inr ⟨_, _, rfl, by simp, fun rest => by subst char; rfl⟩
  | case5 _ _ _ _ same => exact .inr ⟨_, _, rfl, by simp, fun rest => by subst char; rfl⟩
  | case6 _ _ _ _ _ same => exact .inr ⟨_, _, rfl, by simp, named same fun _ => rfl⟩
  | case7 _ _ _ _ _ _ same => exact .inr ⟨_, _, rfl, by simp, named same fun _ => rfl⟩
  | case8 _ _ _ _ _ _ _ control =>
    have high := hexDigit_isPlain (char.toNat / 16) (by omega)
    have low := hexDigit_isPlain (char.toNat % 16) (by omega)
    exact .inr ⟨_, _, rfl, by simp [high, low], unitsCharacter?_hexDigits control⟩
  | case9 mark slash _ _ _ _ _ plain => exact .inl ⟨rfl, mark, slash, plain⟩

private theorem quotedFrom_plain (noMark : ∀ char ∈ plain, char ≠ '"' ∧ char ≠ '\\') (read rest : Text) :
    quotedFrom '"' read (plain ++ rest) = quotedFrom '"' (plain.reverse ++ read) rest := by
  induction plain generalizing read with
  | nil => rfl
  | cons first others ih =>
    obtain ⟨⟨mark, slash⟩, later⟩ := List.forall_mem_cons.mp noMark
    have step : quotedFrom '"' read (first :: (others ++ rest)) =
        quotedFrom '"' (first :: read) (others ++ rest) := by
      rw [quotedFrom.eq_def]
      split
      · rename_i none
        cases none
      · rename_i escape
        exact absurd (List.cons.inj escape).1 slash
      · rename_i same
        obtain ⟨rfl, rfl⟩ := List.cons.inj same
        exact if_neg mark
    rw [List.cons_append, step, ih later, List.reverse_cons, List.append_assoc,
      List.singleton_append]

private theorem quotedFrom_escapeChar (char : Char) (read rest : Text) :
    quotedFrom '"' read (escapeChar char ++ rest) =
      quotedFrom '"' ((escapeChar char).reverse ++ read) rest := by
  rcases escapeChar_cases char with ⟨same, mark, slash, _⟩ | ⟨first, tail, same, plain, _⟩
  · rw [same]
    exact quotedFrom_plain (by simp [mark, slash]) read rest
  · rw [same, List.cons_append, List.cons_append, quotedFrom, quotedFrom_plain plain]
    simp

private theorem quotedFrom_escaped (chars read rest : Text) :
    quotedFrom '"' read (chars.flatMap escapeChar ++ '"' :: rest) =
      some (read.reverse ++ chars.flatMap escapeChar, rest) := by
  induction chars generalizing read with
  | nil => simp [quotedFrom]
  | cons char others ih =>
    rw [List.flatMap_cons, List.append_assoc, quotedFrom_escapeChar, ih]
    simp

private theorem unescapeFrom_escapeChar (char : Char) (read rest bound : Text) (mark : Char) :
    unescapeFrom '"' read (mark :: bound) (escapeChar char ++ rest) =
      unescapeFrom '"' (char :: read) bound rest := by
  rcases escapeChar_cases char with ⟨same, _, slash, visible⟩ | ⟨first, tail, same, _, escaped⟩
  · rw [same, List.singleton_append]
    rw [unescapeFrom.eq_def]
    split
    · rename_i none
      cases none
    · rename_i none _
      cases none
    · rename_i escape
      exact absurd (List.cons.inj escape).1 slash
    · rename_i whole some
      obtain ⟨rfl, rfl⟩ := List.cons.inj some
      obtain ⟨rfl, rfl⟩ := List.cons.inj whole
      exact if_neg visible
  · rw [same, List.cons_append, unescapeFrom, escaped]
    rfl

private theorem unescapeFrom_escaped (chars : Text) {bound : Text}
    (enough : chars.length ≤ bound.length) (read : Text) :
    unescapeFrom '"' read bound (chars.flatMap escapeChar) = some (read.reverse ++ chars) := by
  -- Every character takes one of the bound, however long its escape is.
  induction chars generalizing bound read with
  | nil => cases bound <;> simp [unescapeFrom]
  | cons char others ih =>
    cases bound with
    | nil => simp at enough
    | cons mark bound =>
      rw [List.flatMap_cons, unescapeFrom_escapeChar, ih (by simpa using enough)]
      simp

private theorem length_le_escaped (chars : Text) : chars.length ≤ (chars.flatMap escapeChar).length := by
  induction chars with
  | nil => exact Nat.le_refl 0
  | cons char others ih =>
    have some : 1 ≤ (escapeChar char).length := by
      rcases escapeChar_cases char with ⟨same, _⟩ | ⟨first, tail, same, _⟩ <;> simp [same]
    rw [List.flatMap_cons, List.length_append, List.length_cons]
    omega

/-- A text is read back from between its quotation marks, whatever follows. -/
theorem quotedText?_quoted (text : String) (rest : Text) :
    quotedText? '"' (text.toList.flatMap escapeChar ++ '"' :: rest) = some (text, rest) := by
  have chars := unescapeFrom_escaped text.toList (length_le_escaped text.toList) []
  rw [quotedText?, quotedFrom_escaped, Option.bind_some]
  simp only [List.reverse_nil, List.nil_append] at chars ⊢
  rw [chars, Option.map_some, String.ofList_toList]

/-- Where one quoted text ends and which it is can be told from the characters alone. -/
theorem quoted_append_inj {first second : String} {after : Text}
    (same : quoted first ++ after = quoted second ++ rest) : first = second ∧ after = rest := by
  have read := quotedText?_quoted first after
  simp only [quoted, List.cons_append, List.append_assoc, List.nil_append, List.cons.injEq,
    true_and] at same
  rw [same, quotedText?_quoted] at read
  obtain ⟨rfl, rfl⟩ := Prod.mk.inj (Option.some.inj read)
  exact ⟨rfl, rfl⟩

end PageSketch.Json
