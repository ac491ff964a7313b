import PageSketch.Proofs.Source.Numbering
import PageSketch.Proofs.Text.Trim

/-! The texts of the lines that count, and directives written on rows so that they are read off them
again. -/
namespace PageSketch.Source

variable {text name value : Text}

/-- A text that is a line of a source as it stands. -/
structure IsLineText (text : Text) : Prop where
  isRow : '\n' ∉ text
  isTrimmed : text.trim = text
  counts : counts text = true

theorem map_text_linesFrom (number : Nat) (rows : List Text) :
    (linesFrom number rows).map Line.text = (rows.map Text.trim).filter counts := by
  induction rows generalizing number with
  | nil => rfl
  | cons row rest ih =>
    rw [linesFrom, List.map_cons, List.filter_cons]
    split
    · rw [List.map_cons, ih]
    · exact ih _

theorem isLineText_of_mem_lines {source : Text} {line : Line} (member : line ∈ lines source) :
    IsLineText line.text := by
  have present : line.text ∈ (source.rows.map Text.trim).filter counts := by
    rw [← map_text_linesFrom 1]
    exact List.mem_map_of_mem member
  obtain ⟨trimmed, counting⟩ := List.mem_filter.mp present
  obtain ⟨row, isRow, same⟩ := List.mem_map.mp trimmed
  refine ⟨fun lineFeed => ?_, ?_, counting⟩
  · rw [← same] at lineFeed
    exact Text.lineFeed_notMem_of_mem_rows isRow ((Text.trim_sublist row).subset lineFeed)
  · rw [← same, Text.trim_trim]

theorem filter_map_trim_eq_self {rows : List Text} (kept : ∀ row ∈ rows, IsLineText row) :
    (rows.map Text.trim).filter counts = rows := by
  have trimmed : rows.map Text.trim = rows.map id :=
    List.map_congr_left fun row member => (kept row member).isTrimmed
  rw [trimmed, List.map_id, List.filter_eq_self]
  exact fun row member => (kept row member).counts

/-- The name and the value of a directive as a line can hold them. -/
structure IsDirective (name value : Text) : Prop where
  isNamed : name ≠ []
  isWord : ∀ char ∈ name, isNameChar char = true
  isRow : '\n' ∉ value
  isTrimmed : value.trim = value

/-- A directive written on a row. -/
def directiveRow (name value : Text) : Text :=
  '@' :: (name ++ if value.isEmpty then [] else ' ' :: value)

theorem isBlank_of_isNameChar {char : Char} (inName : isNameChar char = true) :
    Text.isBlank char = false := by
  rw [isNameChar, Bool.or_eq_true, beq_iff_eq] at inName
  have range : 48 ≤ char.toNat ∧ char.toNat ≤ 122 := by
    rcases inName with alphanum | rfl
    · change ((char.isUpper || char.isLower) || char.isDigit) = true at alphanum
      rw [Bool.or_eq_true, Bool.or_eq_true] at alphanum
      rcases alphanum with (upper | lower) | digit
      · have bounds : 65 ≤ char.toNat ∧ char.toNat ≤ 90 := of_decide_eq_true upper
        omega
      · obtain ⟨first, last⟩ := Bool.and_eq_true_iff.mp lower
        have least : 97 ≤ char.toNat := of_decide_eq_true first
        have greatest : char.toNat ≤ 122 := of_decide_eq_true last
        omega
      · obtain ⟨first, last⟩ := Bool.and_eq_true_iff.mp digit
        have least : 48 ≤ char.toNat := of_decide_eq_true first
        have greatest : char.toNat ≤ 57 := of_decide_eq_true last
        omega
    · decide
  -- All blanks come before the digits or after the letters.
  simp [Text.isBlank, Text.blankCodes, Text.CodeRanges.contains]
  omega

/-- Where no name starts behind an at sign, none is read. -/
theorem classify_nameless {rest : Text} (ends : ∀ char ∈ rest.head?, isNameChar char = false) :
    classify ('@' :: rest) = .nameless := by
  have none : rest.takeWhile isNameChar = [] := by
    rw [← List.head?_eq_none_iff, List.head?_takeWhile, Option.filter_eq_none_iff]
    intro char first
    exact Bool.eq_false_iff.mp (ends char first)
  rw [classify, none]

/-- A line is a directive by the longest name behind an at sign. -/
theorem classify_eq_directive_iff {text name value : Text} :
    classify text = .directive name value ↔
      (name ≠ [] ∧ ∀ char ∈ name, isNameChar char = true) ∧
        ∃ rest : Text, text = '@' :: (name ++ rest) ∧ rest.head?.any isNameChar = false ∧
          rest.trim = value := by
  constructor
  · intro kind
    unfold classify at kind
    split at kind
    · cases kind
    · cases kind
    · rename_i rest
      split at kind
      · cases kind
      · rename_i named
        simp only [LineKind.directive.injEq] at kind
        obtain ⟨rfl, rfl⟩ := kind
        refine ⟨⟨named, fun _ => List.mem_takeWhile_imp⟩, rest.dropWhile isNameChar, ?_, ?_, rfl⟩
        · rw [List.takeWhile_append_dropWhile]
        · rw [Option.any_eq_false]
          intro char next
          have ends := List.head?_dropWhile_not isNameChar rest
          rwa [next] at ends
    · cases kind
  · rintro ⟨⟨named, word⟩, rest, rfl, ends, rfl⟩
    have stops := (Option.any_eq_false _ _).mp ends
    obtain ⟨first, letters, same⟩ := List.exists_cons_of_ne_nil named
    rw [classify, Text.takeWhile_run word stops, Text.dropWhile_run word stops, same]

/-- A directive is read off the row that it is written on. -/
theorem classify_directiveRow (directive : IsDirective name value) :
    classify (directiveRow name value) = .directive name value := by
  apply classify_eq_directive_iff.mpr
  refine ⟨⟨directive.isNamed, directive.isWord⟩, if value.isEmpty then [] else ' ' :: value, rfl, ?_, ?_⟩
  · cases value <;> rfl
  · split
    · rename_i empty
      rw [List.isEmpty_iff.mp empty]
      rfl
    · rw [Text.trim_cons_blank (by decide), directive.isTrimmed]

theorem isLineText_directiveRow (directive : IsDirective name value) :
    IsLineText (directiveRow name value) := by
  refine ⟨?_, ?_, rfl⟩
  · have noName : '\n' ∉ name := fun present => absurd (directive.isWord _ present) (by decide)
    rw [directiveRow]
    split <;> simp [noName, directive.isRow]
  · refine Text.trim_eq_self (by simp [directiveRow]; decide) fun char last => ?_
    -- The row ends with its value, or with its name when the value is empty.
    cases value with
    | nil =>
      obtain ⟨first, rest, named⟩ := List.exists_cons_of_ne_nil directive.isNamed
      rw [directiveRow, List.isEmpty_nil, if_pos rfl, List.append_nil, named,
        List.getLast?_cons_cons, ← named] at last
      exact isBlank_of_isNameChar (directive.isWord char (List.mem_of_getLast? last))
    | cons first rest =>
      rw [directiveRow, List.isEmpty_cons, if_neg Bool.false_ne_true, ← List.cons_append,
        List.getLast?_append_of_ne_nil _ (List.cons_ne_nil _ _), List.getLast?_cons_cons] at last
      exact Text.endsDark directive.isTrimmed char last

/-- A line that is a directive holds one that can be written again. -/
theorem isDirective_of_classify (isLine : IsLineText text)
    (kind : classify text = .directive name value) : IsDirective name value := by
  obtain ⟨⟨named, word⟩, rest, rfl, _, rfl⟩ := classify_eq_directive_iff.mp kind
  refine ⟨named, word, fun lineFeed => ?_, Text.trim_trim rest⟩
  have inRest := (Text.trim_sublist rest).subset lineFeed
  exact isLine.isRow (List.mem_cons_of_mem _ (List.mem_append_right name inRest))

/-- A directive is read off its row, with its value trimmed. -/
theorem classify_trim_row (named : name ≠ []) (word : ∀ char ∈ name, isNameChar char = true)
    (value : Text) :
    classify (Text.trim ('@' :: (name ++ ' ' :: value))) = .directive name value.trim := by
  have dark : ∀ char ∈ '@' :: name, Text.isBlank char = false := by
    rw [List.forall_mem_cons]
    exact ⟨by decide, fun char member => isBlank_of_isNameChar (word char member)⟩
  have start : ∀ char ∈ ('@' :: (name ++ ' ' :: value)).head?, Text.isBlank char = false := by
    rintro _ ⟨⟩
    decide
  obtain ⟨right, same, blank⟩ := Text.exists_trim_append start
  rw [← List.cons_append] at same
  -- What is cut off consists of blanks, so it is cut off behind the name.
  have parted : ∃ rest : Text, Text.trim ('@' :: name ++ ' ' :: value) = '@' :: (name ++ rest) ∧
      ' ' :: value = rest ++ right := by
    rcases List.append_eq_append_iff.mp same with ⟨rest, kept, cut⟩ | ⟨cut, kept, tail⟩
    · exact ⟨rest, kept, cut⟩
    · have none : cut = [] := by
        refine List.eq_nil_iff_forall_not_mem.mpr fun char member => ?_
        have light := blank char (by rw [tail]; exact List.mem_append_left _ member)
        rw [dark char (by rw [kept]; exact List.mem_append_right _ member)] at light
        cases light
      rw [none, List.append_nil] at kept
      exact ⟨[], by rw [← kept, List.append_nil], by rw [tail, none]; rfl⟩
  obtain ⟨rest, kept, cut⟩ := parted
  refine classify_eq_directive_iff.mpr ⟨⟨named, word⟩, rest, kept, ?_, ?_⟩
  · cases rest with
    | nil => rfl
    | cons first others =>
      cases cut
      rfl
  · rw [← Text.trim_append_blanks blank rest, ← cut]
    exact Text.trim_cons_blank (by decide) value

end PageSketch.Source
