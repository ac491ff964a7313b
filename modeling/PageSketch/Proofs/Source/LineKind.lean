import PageSketch.Proofs.Source.Row

/-! What a line of each kind looks like. A trimmed line is of the one kind that describes it, and a directive loses
nothing but the blanks between its name and its value. -/
namespace PageSketch.Source

/-- The line writes a directive of this name with this value. -/
structure WritesDirective (line name value : Text) : Prop where
  named : name ≠ []
  isWord : ∀ char ∈ name, isNameChar char = true
  /-- No other name that can be read behind the at sign is longer. -/
  longest : ∀ run rest, line = '@' :: (run ++ rest) → (∀ char ∈ run, isNameChar char = true) → run <+: name
  isTrimmed : value.trim = value
  lossless : ∃ gap, line = '@' :: (name ++ gap ++ value) ∧ ∀ char ∈ gap, Text.isBlank char = true

/-- The line looks like one of the kind. -/
def LineKind.Describes : LineKind → (line : Text) → Prop
  | .directive name value, line => WritesDirective line name value
  | .blockOpen, line => line = ['{']
  | .blockClose, line => line = ['}']
  | .nameless, line => ∃ rest, line = '@' :: rest ∧ ∀ char ∈ rest.head?, isNameChar char = false
  | .content, line => line.head? ≠ some '@' ∧ line ≠ ['{'] ∧ line ≠ ['}']

variable {line name value rest : Text}

/-- A name that ends where no name goes on is longer than every other one. -/
theorem isPrefix_of_ends (word : ∀ char ∈ name, isNameChar char = true)
    (ends : rest.head?.any isNameChar = false) {run other : Text} (same : name ++ rest = run ++ other)
    (inName : ∀ char ∈ run, isNameChar char = true) : run <+: name := by
  have stops := (Option.any_eq_false _ _).mp ends
  have taken : name = run ++ other.takeWhile isNameChar := by
    rw [← Text.takeWhile_run word stops, same, List.takeWhile_append_of_pos inName]
  rw [taken]
  exact List.prefix_append run _

private theorem writesDirective_of_classify (trimmed : line.trim = line)
    (kind : classify line = .directive name value) : WritesDirective line name value := by
  obtain ⟨⟨named, word⟩, rest, rfl, ends, rfl⟩ := classify_eq_directive_iff.mp kind
  refine ⟨named, word, ?_, Text.trim_trim rest, ?_⟩
  · intro run other same inName
    exact isPrefix_of_ends word ends (List.cons.inj same).2 inName
  · obtain ⟨left, right, parts, before, after⟩ := Text.exists_append_trim_append rest
    -- Blanks behind the value would end the line, but it is trimmed.
    have none : right = [] := by
      apply Text.eq_nil_of_blank after
      intro char last
      apply Text.endsDark trimmed
      rw [parts, ← List.append_assoc, ← List.cons_append, List.getLast?_append, Option.mem_def.mp last]
      rfl
    refine ⟨left, ?_, before⟩
    rw [none, List.append_nil] at parts
    rw [List.append_assoc, ← parts]

private theorem classify_of_writesDirective (writes : WritesDirective line name value) :
    classify line = .directive name value := by
  obtain ⟨gap, rfl, blank⟩ := writes.lossless
  apply classify_eq_directive_iff.mpr
  refine ⟨⟨writes.named, writes.isWord⟩, gap ++ value, by rw [List.append_assoc], ?_, ?_⟩
  · cases behind : gap ++ value with
    | nil => rfl
    | cons first others =>
      rw [List.head?_cons, Option.any_some, Bool.eq_false_iff]
      intro goesOn
      have longer : name ++ [first] <+: name := by
        apply writes.longest (name ++ [first]) others
        · rw [List.append_assoc, behind, List.append_assoc, List.singleton_append]
        · intro char member
          rcases List.mem_append.mp member with own | next
          · exact writes.isWord char own
          · rwa [List.mem_singleton.mp next]
      have short := longer.length_le
      rw [List.length_append, List.length_singleton] at short
      omega
  · rw [Text.trim_blanks_append blank, writes.isTrimmed]

private theorem classify_at_name {first : Char} (inName : isNameChar first = true) (rest : Text) :
    classify ('@' :: first :: rest) = .directive (first :: rest.takeWhile isNameChar)
      (Text.trim (rest.dropWhile isNameChar)) := by
  rw [classify, List.takeWhile_cons_of_pos inName, List.dropWhile_cons_of_pos inName]

/-- Whatever a kind describes is of that kind, so no line is described by two kinds. -/
theorem classify_of_describes {kind : LineKind} (describes : kind.Describes line) : classify line = kind := by
  cases kind with
  | directive name value => exact classify_of_writesDirective describes
  | blockOpen =>
    obtain rfl : line = ['{'] := describes
    rfl
  | blockClose =>
    obtain rfl : line = ['}'] := describes
    rfl
  | nameless =>
    obtain ⟨rest, rfl, ends⟩ := describes
    exact classify_nameless ends
  | content =>
    obtain ⟨other, notOpen, notClose⟩ := describes
    unfold classify
    split
    · exact absurd rfl notOpen
    · exact absurd rfl notClose
    · exact absurd rfl other
    · rfl

/-- A trimmed line looks like one of its kind. -/
theorem describes_classify (trimmed : line.trim = line) : (classify line).Describes line := by
  have settled (kind : LineKind) (describes : kind.Describes line) : (classify line).Describes line := by
    rwa [classify_of_describes describes]
  by_cases starts : line.head? = some '@'
  · obtain ⟨rest, rfl⟩ := List.head?_eq_some_iff.mp starts
    by_cases ends : ∀ char ∈ rest.head?, isNameChar char = false
    · exact settled .nameless ⟨rest, rfl, ends⟩
    · cases rest with
      | nil => exact absurd nofun ends
      | cons first others =>
        have inName : isNameChar first = true := by simpa using ends
        have kind := classify_at_name inName others
        rw [kind]
        exact writesDirective_of_classify trimmed kind
  · by_cases opens : line = ['{']
    · exact settled .blockOpen opens
    · by_cases closes : line = ['}']
      · exact settled .blockClose closes
      · exact settled .content ⟨starts, opens, closes⟩

/-- A trimmed line is of a kind just if the kind describes it. It is a directive just if a character of a name
follows its at sign; then the name is the longest one that can be read there, and the line is put together again from
the name, blanks and the trimmed value. A name and a trimmed value written behind an at sign are read back. -/
theorem classify_eq_iff_describes (trimmed : line.trim = line) :
    (∀ kind, classify line = kind ↔ kind.Describes line) ∧
      ((∃ name value, classify line = .directive name value) ↔
        ∃ first rest, line = '@' :: first :: rest ∧ isNameChar first = true) ∧
      ∀ name value : Text, name ≠ [] → (∀ char ∈ name, isNameChar char = true) → value.trim = value →
        classify (Text.trim ('@' :: (name ++ ' ' :: value))) = .directive name value := by
  refine ⟨?_, ?_, ?_⟩
  · intro kind
    constructor
    · rintro rfl
      exact describes_classify trimmed
    · exact classify_of_describes
  · constructor
    · rintro ⟨name, value, kind⟩
      have writes := writesDirective_of_classify trimmed kind
      obtain ⟨gap, same, _⟩ := writes.lossless
      obtain ⟨first, others, rfl⟩ := List.exists_cons_of_ne_nil writes.named
      exact ⟨first, others ++ gap ++ value, same, writes.isWord first List.mem_cons_self⟩
    · rintro ⟨first, rest, rfl, inName⟩
      exact ⟨_, _, classify_at_name inName rest⟩
  · intro name value named word isTrimmed
    rw [classify_trim_row named word value, isTrimmed]

/-- The blanks between a name and a value are many here, and the value has a blank of its own. -/
theorem columns_line_writes_directive :
    Text.trim "@columns   Name, Email".toList = "@columns   Name, Email".toList ∧
      WritesDirective "@columns   Name, Email".toList "columns".toList "Name, Email".toList := by
  have trimmed : Text.trim "@columns   Name, Email".toList = "@columns   Name, Email".toList := by decide
  obtain ⟨described, _, _⟩ := classify_eq_iff_describes trimmed
  have read : classify "@columns   Name, Email".toList =
      .directive "columns".toList "Name, Email".toList := by decide
  exact ⟨trimmed, (described _).mp read⟩

end PageSketch.Source
