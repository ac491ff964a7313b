import PageSketch.Proofs.Json.Quoted

/-! The JSON text of a value without doubles says all of it: where the text of a value ends and which value
it is can be told from its characters alone, whatever follows. -/
namespace PageSketch.Json

/-- Values whose numbers are integers. -/
inductive IsExact : Json → Prop
  | null : IsExact null
  | bool (value : Bool) : IsExact (bool value)
  | number (value : Int) : IsExact (number value)
  | text (value : String) : IsExact (text value)
  | array {values : List Json} (each : ∀ value ∈ values, IsExact value) : IsExact (array values)
  | object {fields : List (String × Json)} (each : ∀ field ∈ fields, IsExact field.2) :
      IsExact (object fields)

attribute [simp] IsExact.null IsExact.bool IsExact.number IsExact.text

/-- What the first character of its text tells about a value. -/
inductive Form where
  | null | bool | number | text | array | object
  deriving DecidableEq

def formOf : Char → Form
  | 'n' => .null
  | 't' | 'f' => .bool
  | '"' => .text
  | '[' => .array
  | '{' => .object
  | _ => .number

def form : Json → Form
  | null => .null
  | bool _ => .bool
  | number _ | double _ => .number
  | text _ => .text
  | array _ => .array
  | object _ => .object

def isNumeralChar (char : Char) : Bool := char == '-' || char.isDigit

/-- The text of a value may end here: nothing follows, or a comma or a line end. -/
def Ends (text : Text) : Prop := ∀ char ∈ text.head?, char = ',' ∨ char = '\n'

/-- The text of the value can be told from that of any other value without doubles, whatever follows. -/
def IsReadable (value : Json) : Prop :=
  ∀ other : Json, other.IsExact → ∀ (depth : Nat) (after rest : Text), Ends after → Ends rest →
    print depth value ++ after = print depth other ++ rest → value = other ∧ after = rest

variable {after rest : Text} {value other : Json}

private theorem isDigit_of_mem_repr {count : Nat} {char : Char} (member : char ∈ count.repr.toList) :
    char.isDigit = true := by
  rw [Nat.toList_repr] at member
  exact Nat.isDigit_of_mem_toDigits (by decide) (by decide) member

theorem isNumeralChar_of_mem (value : Int) :
    ∀ char ∈ (toString value).toList, isNumeralChar char = true := by
  intro char member
  change char ∈ value.repr.toList at member
  rw [Int.repr_eq_if] at member
  rw [isNumeralChar, Bool.or_eq_true, beq_iff_eq]
  split at member
  · exact .inr (isDigit_of_mem_repr member)
  · rw [String.toList_append] at member
    rcases List.mem_append.mp member with sign | digit
    · exact .inl (List.mem_singleton.mp sign)
    · exact .inr (isDigit_of_mem_repr digit)

private theorem repr_nat_inj {first second : Nat} (same : first.repr = second.repr) : first = second := by
  have digits := congrArg (fun text => Nat.ofDigitChars 10 text.toList 0) same
  simpa only [Nat.toList_repr, Nat.ofDigitChars_ten_toDigits] using digits

private theorem toString_int_inj {first second : Int} (same : toString first = toString second) :
    first = second := by
  have signed {positive negative : Nat} (same : positive.repr = "-" ++ negative.repr) : False := by
    have sign : '-' ∈ positive.repr.toList := by
      rw [same, String.toList_append]
      exact List.mem_append_left _ (by decide)
    exact absurd (isDigit_of_mem_repr sign) (by decide)
  cases first with
  | ofNat positive =>
    cases second with
    | ofNat other => exact congrArg Int.ofNat (repr_nat_inj same)
    | negSucc other => exact (signed same).elim
  | negSucc negative =>
    cases second with
    | ofNat other => exact (signed same.symm).elim
    | negSucc other =>
      have digits := congrArg String.toList
        (show "-" ++ (negative + 1).repr = "-" ++ (other + 1).repr from same)
      rw [String.toList_append, String.toList_append] at digits
      have count := repr_nat_inj (String.toList_injective (List.append_cancel_left digits))
      rw [Nat.succ.inj count]

private theorem takeWhile_numeral (value : Int) (ends : Ends after) :
    ((toString value).toList ++ after).takeWhile isNumeralChar = (toString value).toList := by
  rw [List.takeWhile_append_of_pos (isNumeralChar_of_mem value)]
  cases after with
  | nil => exact List.append_nil _
  | cons first others =>
    rcases ends first rfl with rfl | rfl
    · exact List.append_nil _
    · exact List.append_nil _

private theorem numeral_append_inj {first second : Int} (ends : Ends after) (later : Ends rest)
    (same : (toString first).toList ++ after = (toString second).toList ++ rest) :
    first = second ∧ after = rest := by
  -- Nothing marks the end of a numeral but that its characters do not go on.
  have numerals := congrArg (List.takeWhile isNumeralChar) same
  rw [takeWhile_numeral first ends, takeWhile_numeral second later] at numerals
  rw [numerals] at same
  exact ⟨toString_int_inj (String.toList_injective numerals), List.append_cancel_left same⟩

private theorem formOf_of_isNumeralChar {char : Char} (numeral : isNumeralChar char = true) :
    formOf char = .number := by
  unfold formOf
  split
  all_goals first
    | rfl
    | exact absurd numeral (by decide)

/-- The first character of its text tells the form of a value. -/
theorem exists_print_eq_cons (exact : value.IsExact) (depth : Nat) :
    ∃ first tail, print depth value = first :: tail ∧ formOf first = value.form := by
  cases exact with
  | null => exact ⟨_, _, rfl, rfl⟩
  | bool value => cases value <;> exact ⟨_, _, rfl, rfl⟩
  | number value =>
    have some : (toString value).toList ≠ [] := by
      rw [ne_eq, String.toList_eq_nil_iff]
      cases value with
      | ofNat count => exact Nat.repr_ne_empty
      | negSucc count => exact fun empty => absurd (String.append_eq_empty_iff.mp empty).1 (by decide)
    obtain ⟨first, tail, chars⟩ := List.exists_cons_of_ne_nil some
    have numeral := isNumeralChar_of_mem value first (chars ▸ List.mem_cons_self)
    exact ⟨first, tail, chars, formOf_of_isNumeralChar numeral⟩
  | text value => exact ⟨_, _, rfl, rfl⟩
  | @array values _ => cases values <;> exact ⟨_, _, by rw [print]; rfl, rfl⟩
  | @object fields _ => cases fields <;> exact ⟨_, _, by rw [print]; rfl, rfl⟩

/-- Values with one text have one form. -/
theorem form_eq_of_print_append_eq (exact : value.IsExact) (others : other.IsExact) {depth : Nat}
    (same : print depth value ++ after = print depth other ++ rest) : value.form = other.form := by
  obtain ⟨first, tail, printed, form⟩ := exists_print_eq_cons exact depth
  obtain ⟨second, later, alike, shape⟩ := exists_print_eq_cons others depth
  rw [printed, alike, List.cons_append, List.cons_append] at same
  rw [← form, ← shape, (List.cons.inj same).1]

private theorem ends_printElements (depth : Nat) (values : List Json) (after : Text) :
    Ends (printElements depth values ++ '\n' :: after) := by
  cases values with
  | nil => simp [Ends, printElements]
  | cons first rest => simp [Ends, printElements]

private theorem ends_printFields (depth : Nat) (fields : List (String × Json)) (after : Text) :
    Ends (printFields depth fields ++ '\n' :: after) := by
  cases fields with
  | nil => simp [Ends, printFields]
  | cons first rest => simp [Ends, printFields]

private theorem printElements_append_inj {values others : List Json}
    (each : ∀ value ∈ values, value.IsReadable) (exact : ∀ other ∈ others, other.IsExact)
    {depth : Nat}
    (same : printElements depth values ++ '\n' :: after =
      printElements depth others ++ '\n' :: rest) : values = others ∧ after = rest := by
  induction values generalizing others with
  | nil =>
    cases others with
    | nil => exact ⟨rfl, (List.cons.inj same).2⟩
    | cons other others => simp [printElements] at same
  | cons value values ih =>
    cases others with
    | nil => simp [printElements] at same
    | cons other others =>
      obtain ⟨first, later⟩ := List.forall_mem_cons.mp each
      obtain ⟨own, rest⟩ := List.forall_mem_cons.mp exact
      simp only [printElements, List.cons_append, List.append_assoc, List.cons.injEq, true_and,
        List.append_cancel_left_eq] at same
      obtain ⟨rfl, more⟩ := first other own depth _ _ (ends_printElements depth values _)
        (ends_printElements depth others _) same
      obtain ⟨rfl, ended⟩ := ih later rest more
      exact ⟨rfl, ended⟩

private theorem printFields_append_inj {fields others : List (String × Json)}
    (each : ∀ field ∈ fields, field.2.IsReadable) (exact : ∀ other ∈ others, other.2.IsExact)
    {depth : Nat}
    (same : printFields depth fields ++ '\n' :: after = printFields depth others ++ '\n' :: rest) :
    fields = others ∧ after = rest := by
  induction fields generalizing others with
  | nil =>
    cases others with
    | nil => exact ⟨rfl, (List.cons.inj same).2⟩
    | cons other others => simp [printFields] at same
  | cons field fields ih =>
    cases others with
    | nil => simp [printFields] at same
    | cons other others =>
      obtain ⟨name, value⟩ := field
      obtain ⟨otherName, otherValue⟩ := other
      obtain ⟨first, later⟩ := List.forall_mem_cons.mp each
      obtain ⟨own, rest⟩ := List.forall_mem_cons.mp exact
      simp only [printFields, List.cons_append, List.append_assoc, List.cons.injEq, true_and,
        List.append_cancel_left_eq] at same
      obtain ⟨rfl, colon⟩ := quoted_append_inj same
      obtain ⟨rfl, more⟩ := first otherValue own depth _ _ (ends_printFields depth fields _)
        (ends_printFields depth others _) (List.append_cancel_left colon)
      obtain ⟨rfl, ended⟩ := ih later rest more
      exact ⟨rfl, ended⟩

private theorem isReadable_array {values : List Json} (exact : (array values).IsExact)
    (each : ∀ value ∈ values, value.IsReadable) : (array values).IsReadable := by
  intro other others depth after rest _ _ same
  -- An empty array closes at once, any other goes on with a line end.
  have form := form_eq_of_print_append_eq exact others same
  cases others with
  | @array others all =>
    cases values with
    | nil =>
      cases others with
      | nil => exact ⟨rfl, List.append_cancel_left same⟩
      | cons second more => simp [print, newLine] at same
    | cons first values =>
      cases others with
      | nil => simp [print, newLine] at same
      | cons second others =>
        obtain ⟨one, several⟩ := List.forall_mem_cons.mp each
        obtain ⟨own, more⟩ := List.forall_mem_cons.mp all
        simp only [print, newLine, List.cons_append, List.append_assoc, List.nil_append,
          List.cons.injEq, true_and, List.append_cancel_left_eq] at same
        obtain ⟨rfl, elements⟩ := one second own _ _ _ (ends_printElements _ _ _)
          (ends_printElements _ _ _) same
        obtain ⟨rfl, closing⟩ := printElements_append_inj several more elements
        exact ⟨rfl, (List.cons.inj (List.append_cancel_left closing)).2⟩
  | null | bool | number | text | object => cases form

private theorem isReadable_object {fields : List (String × Json)} (exact : (object fields).IsExact)
    (each : ∀ field ∈ fields, field.2.IsReadable) : (object fields).IsReadable := by
  intro other others depth after rest _ _ same
  have form := form_eq_of_print_append_eq exact others same
  cases others with
  | @object others all =>
    cases fields with
    | nil =>
      cases others with
      | nil => exact ⟨rfl, List.append_cancel_left same⟩
      | cons second more => simp [print, newLine] at same
    | cons first fields =>
      cases others with
      | nil => simp [print, newLine] at same
      | cons second others =>
        obtain ⟨name, value⟩ := first
        obtain ⟨otherName, otherValue⟩ := second
        obtain ⟨one, several⟩ := List.forall_mem_cons.mp each
        obtain ⟨own, more⟩ := List.forall_mem_cons.mp all
        simp only [print, newLine, List.cons_append, List.append_assoc, List.nil_append,
          List.cons.injEq, true_and, List.append_cancel_left_eq] at same
        obtain ⟨rfl, colon⟩ := quoted_append_inj same
        obtain ⟨rfl, later⟩ := one otherValue own _ _ _ (ends_printFields _ _ _)
          (ends_printFields _ _ _) (List.append_cancel_left colon)
        obtain ⟨rfl, closing⟩ := printFields_append_inj several more later
        exact ⟨rfl, (List.cons.inj (List.append_cancel_left closing)).2⟩
  | null | bool | number | text | array => cases form

/-- The text of a value without doubles can be told from that of any other, by induction on what the
value is made of. -/
theorem IsExact.isReadable (exact : value.IsExact) : value.IsReadable := by
  induction exact with
  | array each ih => exact isReadable_array (.array each) ih
  | object each ih => exact isReadable_object (.object each) ih
  | null =>
    intro other others depth after rest _ _ same
    have form := form_eq_of_print_append_eq .null others same
    cases others with
    | null => exact ⟨rfl, List.append_cancel_left same⟩
    | bool | number | text | array | object => cases form
  | bool value =>
    intro other others depth after rest _ _ same
    have form := form_eq_of_print_append_eq (.bool value) others same
    cases others with
    | bool other =>
      cases value <;> cases other
      · exact ⟨rfl, List.append_cancel_left same⟩
      · cases (List.cons.inj same).1
      · cases (List.cons.inj same).1
      · exact ⟨rfl, List.append_cancel_left same⟩
    | null | number | text | array | object => cases form
  | number value =>
    intro other others depth after rest ends later same
    have form := form_eq_of_print_append_eq (.number value) others same
    cases others with
    | number other =>
      obtain ⟨rfl, ended⟩ := numeral_append_inj ends later same
      exact ⟨rfl, ended⟩
    | null | bool | text | array | object => cases form
  | text value =>
    intro other others depth after rest _ _ same
    have form := form_eq_of_print_append_eq (.text value) others same
    cases others with
    | text other =>
      obtain ⟨rfl, ended⟩ := quoted_append_inj same
      exact ⟨rfl, ended⟩
    | null | bool | number | array | object => cases form

/-- Values without doubles that have one JSON text are one value. -/
theorem IsExact.eq_of_pretty_eq (exact : value.IsExact) (others : other.IsExact)
    (same : value.pretty = other.pretty) : value = other := by
  have chars : print 0 value ++ [] = print 0 other ++ [] := by
    rw [List.append_nil, List.append_nil]
    exact String.ofList_injective same
  exact (exact.isReadable other others 0 [] [] (by simp [Ends]) (by simp [Ends]) chars).1

end PageSketch.Json
