import PageSketch.Proofs.Pattern.Reading
import PageSketch.Proofs.Text.Pieces

/-! What patterns read, said without a search. A pattern reads letters, with the texts of its groups, between
what stands before them and what stands behind them. Its matches are its readings: a search finds one at the first
place where there is one. -/
namespace PageSketch.Pattern

/-- The pattern reads the letters, with these texts in its groups, between `before` and `rest`. -/
def Reads : Pattern → (before : Option Char) → (letters : Text) → (groups : List Text) → (rest : Text) → Prop
  | empty, _, letters, groups, _ => letters = [] ∧ groups = []
  | one allows, _, letters, groups, _ => (∃ char, allows char = true ∧ letters = [char]) ∧ groups = []
  | many allows, _, letters, groups, _ => (∀ char ∈ letters, allows char = true) ∧ groups = []
  | run allows, _, letters, groups, rest =>
    (∀ char ∈ letters, allows char = true) ∧ (∀ char ∈ rest.head?, allows char = false) ∧ groups = []
  | next first second, before, letters, groups, rest =>
    ∃ left right outer inner, letters = left ++ right ∧ groups = outer ++ inner ∧
      first.Reads before left outer (right ++ rest) ∧
      second.Reads (left.getLast?.or before) right inner rest
  | either first second, before, letters, groups, rest =>
    first.Reads before letters groups rest ∨ second.Reads before letters groups rest
  | wordEdge, before, letters, groups, rest => atWordEdge before rest = true ∧ letters = [] ∧ groups = []
  | textStart, before, letters, groups, _ => before = none ∧ letters = [] ∧ groups = []
  | textEnd, _, letters, groups, rest => rest = [] ∧ letters = [] ∧ groups = []
  | group inner, before, letters, groups, rest =>
    ∃ others, groups = letters :: others ∧ inner.Reads before letters others rest

/-- A match that tells of a reading. -/
structure Match.Tells (found : Match) (before : Option Char) (letters : Text) (groups : List Text)
    (rest : Text) : Prop where
  taken : found.taken = ⟨letters ++ rest, letters.length⟩
  last : found.last = letters.getLast?.or before
  rest : found.rest = rest
  groups : found.groups.map Slice.text = groups

variable {pattern : Pattern} {before : Option Char} {text letters rest : Text} {groups : List Text}
  {found : Match}

private theorem Match.Tells.text_taken (tells : found.Tells before letters groups rest) :
    found.taken.text = letters := by
  rw [tells.taken]
  exact List.take_left

private theorem tells_nothing (before : Option Char) (rest : Text) :
    Match.Tells ⟨⟨rest, 0⟩, before, rest, []⟩ before [] [] rest :=
  ⟨rfl, rfl, rfl, rfl⟩

theorem Match.Tells.next {head tail : Match} {left right : Text} {outer inner : List Text}
    (heads : head.Tells before left outer (right ++ rest))
    (tails : tail.Tells (left.getLast?.or before) right inner rest) :
    Match.Tells ⟨⟨left ++ right ++ rest, head.taken.length + tail.taken.length⟩, tail.last, tail.rest,
      head.groups ++ tail.groups⟩ before (left ++ right) (outer ++ inner) rest where
  taken := by rw [heads.taken, tails.taken, List.length_append]
  last := by rw [tails.last, List.getLast?_append, Option.or_assoc]
  rest := tails.rest
  groups := by rw [List.map_append, heads.groups, tails.groups]

private theorem mem_nothingIf_iff {holds : Bool} :
    found ∈ nothingIf holds before text ↔ holds = true ∧ found = ⟨⟨text, 0⟩, before, text, []⟩ := by
  cases holds <;> simp [nothingIf]

private theorem mem_runsFrom_iff {allows : Char → Bool} {start : Text} {length : Nat} :
    found ∈ runsFrom allows start length before text ↔
      ∃ letters rest, text = letters ++ rest ∧ (∀ char ∈ letters, allows char = true) ∧
        found = ⟨⟨start, length + letters.length⟩, letters.getLast?.or before, rest, []⟩ := by
  induction text generalizing length before with
  | nil => simp [runsFrom, and_assoc]
  | cons first rest ih =>
    rw [runsFrom, List.mem_cons]
    constructor
    · rintro (rfl | longer)
      · exact ⟨[], first :: rest, rfl, List.forall_mem_nil _, rfl⟩
      · split at longer
        · rename_i allowed
          obtain ⟨letters, others, rfl, all, rfl⟩ := ih.mp longer
          refine ⟨first :: letters, others, rfl, List.forall_mem_cons.mpr ⟨allowed, all⟩, ?_⟩
          rw [getLast?_cons_or, List.length_cons, Nat.add_assoc, Nat.add_comm 1]
        · cases longer
    · rintro ⟨letters, others, same, all, rfl⟩
      cases letters with
      | nil =>
        left
        rw [same]
        rfl
      | cons head tail =>
        right
        obtain ⟨rfl, rfl⟩ := List.cons.inj same
        obtain ⟨allowed, later⟩ := List.forall_mem_cons.mp all
        rw [if_pos allowed, ih]
        refine ⟨tail, others, rfl, later, ?_⟩
        rw [getLast?_cons_or, List.length_cons, Nat.add_assoc, Nat.add_comm 1]

/-- Each match tells of a reading. -/
theorem exists_reading_of_mem_matchesAt (member : found ∈ pattern.matchesAt before text) :
    ∃ letters groups rest, text = letters ++ rest ∧ found.Tells before letters groups rest ∧
      pattern.Reads before letters groups rest := by
  have nothing {holds : Bool} {before : Option Char} {text : Text} {found : Match}
      (member : found ∈ nothingIf holds before text) : holds = true ∧ found.Tells before [] [] text := by
    obtain ⟨true, rfl⟩ := mem_nothingIf_iff.mp member
    exact ⟨true, tells_nothing before text⟩
  induction pattern generalizing before text found with
  | empty =>
    obtain ⟨_, tells⟩ := nothing member
    exact ⟨[], [], text, rfl, tells, rfl, rfl⟩
  | one allows =>
    cases text with
    | nil => cases member
    | cons first rest =>
      rw [matchesAt] at member
      split at member
      · rename_i allowed
        rw [List.mem_singleton.mp member]
        exact ⟨[first], [], rest, rfl, ⟨rfl, rfl, rfl, rfl⟩, ⟨first, allowed, rfl⟩, rfl⟩
      · cases member
  | many allows =>
    obtain ⟨letters, rest, rfl, all, rfl⟩ := mem_runsFrom_iff.mp (List.mem_reverse.mp member)
    rw [Nat.zero_add]
    exact ⟨letters, [], rest, rfl, ⟨rfl, rfl, rfl, rfl⟩, all, rfl⟩
  | run allows =>
    rw [List.mem_singleton.mp member, wholeRun_eq, Nat.zero_add]
    have parts : text.takeWhile allows ++ text.dropWhile allows = text := List.takeWhile_append_dropWhile
    refine ⟨text.takeWhile allows, [], text.dropWhile allows, parts.symm, ⟨?_, rfl, rfl, rfl⟩,
      fun _ => List.mem_takeWhile_imp, ?_, rfl⟩
    · rw [parts]
    · intro char first
      have stops := List.head?_dropWhile_not allows text
      rw [Option.mem_def.mp first] at stops
      exact stops
  | next first second ihFirst ihSecond =>
    obtain ⟨head, inFirst, joined⟩ := List.mem_flatMap.mp member
    obtain ⟨tail, inSecond, rfl⟩ := List.mem_map.mp joined
    obtain ⟨left, outer, others, rfl, heads, readsFirst⟩ := ihFirst inFirst
    rw [heads.last, heads.rest] at inSecond
    obtain ⟨right, inner, rest, rfl, tails, readsSecond⟩ := ihSecond inSecond
    have whole := heads.next tails
    rw [List.append_assoc] at whole
    exact ⟨left ++ right, outer ++ inner, rest, (List.append_assoc _ _ _).symm, whole,
      left, right, outer, inner, rfl, rfl, readsFirst, readsSecond⟩
  | either first second ihFirst ihSecond =>
    rcases List.mem_append.mp member with inFirst | inSecond
    · obtain ⟨letters, groups, rest, same, tells, reads⟩ := ihFirst inFirst
      exact ⟨letters, groups, rest, same, tells, .inl reads⟩
    · obtain ⟨letters, groups, rest, same, tells, reads⟩ := ihSecond inSecond
      exact ⟨letters, groups, rest, same, tells, .inr reads⟩
  | wordEdge =>
    obtain ⟨edge, tells⟩ := nothing member
    exact ⟨[], [], text, rfl, tells, edge, rfl, rfl⟩
  | textStart =>
    obtain ⟨start, tells⟩ := nothing member
    exact ⟨[], [], text, rfl, tells, Option.isNone_iff_eq_none.mp start, rfl, rfl⟩
  | textEnd =>
    obtain ⟨finish, tells⟩ := nothing member
    exact ⟨[], [], text, rfl, tells, List.isEmpty_iff.mp finish, rfl, rfl⟩
  | group inner ih =>
    obtain ⟨own, inside, rfl⟩ := List.mem_map.mp member
    obtain ⟨letters, groups, rest, same, tells, reads⟩ := ih inside
    refine ⟨letters, letters :: groups, rest, same, ⟨tells.taken, tells.last, tells.rest, ?_⟩, groups, rfl,
      reads⟩
    rw [List.map_cons, tells.text_taken, tells.groups]

/-- Each reading is told of by a match. -/
theorem exists_mem_matchesAt_of_reads (reads : pattern.Reads before letters groups rest) :
    ∃ found ∈ pattern.matchesAt before (letters ++ rest), found.Tells before letters groups rest := by
  have nothing {holds : Bool} {before : Option Char} {rest : Text} (true : holds = true) :
      ∃ found ∈ nothingIf holds before rest, found.Tells before [] [] rest :=
    ⟨_, mem_nothingIf_iff.mpr ⟨true, rfl⟩, tells_nothing before rest⟩
  induction pattern generalizing before letters groups rest with
  | empty =>
    obtain ⟨rfl, rfl⟩ := reads
    exact nothing rfl
  | one allows =>
    obtain ⟨⟨char, allowed, rfl⟩, rfl⟩ := reads
    refine ⟨⟨⟨char :: rest, 1⟩, some char, rest, []⟩, ?_, rfl, rfl, rfl, rfl⟩
    rw [List.singleton_append, matchesAt, if_pos allowed, List.mem_singleton]
  | many allows =>
    obtain ⟨all, rfl⟩ := reads
    refine ⟨_, List.mem_reverse.mpr (mem_runsFrom_iff.mpr ⟨letters, rest, rfl, all, rfl⟩), ?_⟩
    rw [Nat.zero_add]
    exact ⟨rfl, rfl, rfl, rfl⟩
  | run allows =>
    obtain ⟨all, stops, rfl⟩ := reads
    refine ⟨_, List.mem_singleton_self _, ?_⟩
    rw [wholeRun_eq, Text.takeWhile_run all stops, Text.dropWhile_run all stops, Nat.zero_add]
    exact ⟨rfl, rfl, rfl, rfl⟩
  | next first second ihFirst ihSecond =>
    obtain ⟨left, right, outer, inner, rfl, rfl, readsFirst, readsSecond⟩ := reads
    obtain ⟨head, inFirst, heads⟩ := ihFirst readsFirst
    obtain ⟨tail, inSecond, tails⟩ := ihSecond readsSecond
    rw [← heads.last, ← heads.rest] at inSecond
    rw [List.append_assoc]
    refine ⟨_, List.mem_flatMap.mpr ⟨head, inFirst, List.mem_map_of_mem inSecond⟩, ?_⟩
    rw [← List.append_assoc]
    exact heads.next tails
  | either first second ihFirst ihSecond =>
    rcases reads with readsFirst | readsSecond
    · obtain ⟨found, member, tells⟩ := ihFirst readsFirst
      exact ⟨found, List.mem_append_left _ member, tells⟩
    · obtain ⟨found, member, tells⟩ := ihSecond readsSecond
      exact ⟨found, List.mem_append_right _ member, tells⟩
  | wordEdge =>
    obtain ⟨edge, rfl, rfl⟩ := reads
    exact nothing edge
  | textStart =>
    obtain ⟨start, rfl, rfl⟩ := reads
    exact nothing (Option.isNone_iff_eq_none.mpr start)
  | textEnd =>
    obtain ⟨finish, rfl, rfl⟩ := reads
    exact nothing (List.isEmpty_iff.mpr finish)
  | group inner ih =>
    obtain ⟨others, rfl, inside⟩ := reads
    obtain ⟨own, member, tells⟩ := ih inside
    refine ⟨_, List.mem_map_of_mem member, tells.taken, tells.last, tells.rest, ?_⟩
    rw [List.map_cons, tells.text_taken, tells.groups]

theorem notMem_of_reads {stop : Char} (avoided : pattern.avoids stop = true)
    (reads : pattern.Reads before letters groups rest) : stop ∉ letters := by
  have refused {allows : Char → Bool} {letters : Text} (apart : (!allows stop) = true)
      (all : ∀ char ∈ letters, allows char = true) : stop ∉ letters := by
    intro present
    simp [all stop present] at apart
  induction pattern generalizing before letters groups rest with
  | empty =>
    rw [reads.1]
    exact List.not_mem_nil
  | wordEdge =>
    rw [reads.2.1]
    exact List.not_mem_nil
  | textStart | textEnd => cases avoided
  | one allows =>
    obtain ⟨⟨char, allowed, rfl⟩, _⟩ := reads
    exact refused avoided (List.forall_mem_singleton.mpr allowed)
  | many allows | run allows => exact refused avoided reads.1
  | next first second ihFirst ihSecond =>
    obtain ⟨left, right, outer, inner, rfl, rfl, readsFirst, readsSecond⟩ := reads
    obtain ⟨byFirst, bySecond⟩ := Bool.and_eq_true_iff.mp avoided
    intro present
    rcases List.mem_append.mp present with before | behind
    · exact ihFirst byFirst readsFirst before
    · exact ihSecond bySecond readsSecond behind
  | either first second ihFirst ihSecond =>
    obtain ⟨byFirst, bySecond⟩ := Bool.and_eq_true_iff.mp avoided
    rcases reads with readsFirst | readsSecond
    · exact ihFirst byFirst readsFirst
    · exact ihSecond bySecond readsSecond
  | group inner ih =>
    obtain ⟨others, rfl, inside⟩ := reads
    exact ih avoided inside

/-- Whether the pattern keeps no text. -/
def isBare : Pattern → Bool
  | group _ => false
  | next first second | either first second => first.isBare && second.isBare
  | empty | one _ | many _ | run _ | wordEdge | textStart | textEnd => true

theorem groups_eq_nil_of_reads (bare : pattern.isBare = true) (reads : pattern.Reads before letters groups rest) :
    groups = [] := by
  induction pattern generalizing before letters groups rest with
  | empty | one allows | many allows => exact reads.2
  | run allows | wordEdge | textStart | textEnd => exact reads.2.2
  | group inner => cases bare
  | next first second ihFirst ihSecond =>
    obtain ⟨left, right, outer, inner, rfl, rfl, readsFirst, readsSecond⟩ := reads
    obtain ⟨bareFirst, bareSecond⟩ := Bool.and_eq_true_iff.mp bare
    rw [ihFirst bareFirst readsFirst, ihSecond bareSecond readsSecond]
    rfl
  | either first second ihFirst ihSecond =>
    obtain ⟨bareFirst, bareSecond⟩ := Bool.and_eq_true_iff.mp bare
    rcases reads with readsFirst | readsSecond
    · exact ihFirst bareFirst readsFirst
    · exact ihSecond bareSecond readsSecond

theorem isSome_matchAt?_iff :
    (pattern.matchAt? before text).isSome = true ↔
      ∃ letters groups rest, text = letters ++ rest ∧ pattern.Reads before letters groups rest := by
  rw [matchAt?_eq_head?, List.isSome_head?]
  constructor
  · intro some
    obtain ⟨found, others, same⟩ := List.exists_cons_of_ne_nil (by simpa using some)
    obtain ⟨letters, groups, rest, same, _, reads⟩ :=
      exists_reading_of_mem_matchesAt (same ▸ List.mem_cons_self : found ∈ pattern.matchesAt before text)
    exact ⟨letters, groups, rest, same, reads⟩
  · rintro ⟨letters, groups, rest, rfl, reads⟩
    obtain ⟨found, member, _⟩ := exists_mem_matchesAt_of_reads reads
    simpa using List.ne_nil_of_mem member

theorem exists_reading_of_matchAt? (here : pattern.matchAt? before text = some found) :
    ∃ letters groups rest, text = letters ++ rest ∧ found.Tells before letters groups rest ∧
      pattern.Reads before letters groups rest := by
  rw [matchAt?_eq_head?] at here
  exact exists_reading_of_mem_matchesAt (List.mem_of_head? here)

/-- A search stops at the first place that has a match. -/
theorem exists_place_of_findAfter (search : pattern.findAfter before text = some found) :
    ∃ left right, text = left ++ right ∧ pattern.matchAt? (left.getLast?.or before) right = some found ∧
      ∀ left' right', text = left' ++ right' →
        (pattern.matchAt? (left'.getLast?.or before) right').isSome = true → left.length ≤ left'.length := by
  induction text generalizing before with
  | nil => exact ⟨[], [], rfl, search, fun _ _ _ _ => Nat.zero_le _⟩
  | cons first rest ih =>
    rw [findAfter] at search
    split at search
    · rename_i own
      rw [search] at own
      exact ⟨[], first :: rest, rfl, own, fun _ _ _ _ => Nat.zero_le _⟩
    · rename_i none
      obtain ⟨left, right, rfl, later, least⟩ := ih search
      refine ⟨first :: left, right, rfl, by rw [getLast?_cons_or]; exact later, ?_⟩
      intro left' right' same found
      cases left' with
      | nil =>
        rw [List.nil_append] at same
        rw [← same, List.getLast?_nil, Option.none_or, none] at found
        cases found
      | cons head tail =>
        obtain ⟨rfl, others⟩ := List.cons.inj same
        rw [getLast?_cons_or] at found
        exact Nat.succ_le_succ (least tail right' others found)

theorem exists_place_of_find? (search : pattern.find? text = some found) :
    ∃ left right, text = left ++ right ∧ pattern.matchAt? left.getLast? right = some found ∧
      ∀ left' right', text = left' ++ right' →
        (pattern.matchAt? left'.getLast? right').isSome = true → left.length ≤ left'.length := by
  simpa only [Option.or_none] using exists_place_of_findAfter search

theorem notMem_taken_of_find? {stop : Char} (search : pattern.find? text = some found)
    (avoided : pattern.avoids stop = true) : stop ∉ found.taken.text := by
  obtain ⟨_, _, _, here, _⟩ := exists_place_of_find? search
  obtain ⟨_, _, _, _, tells, reads⟩ := exists_reading_of_matchAt? here
  rw [tells.text_taken]
  exact notMem_of_reads avoided reads

section Parts

variable {first second : Pattern} {word : String}

theorem Reads.append {left right : Text} {outer inner : List Text}
    (reads : first.Reads before left outer (right ++ rest))
    (later : second.Reads (left.getLast?.or before) right inner rest) :
    (first ++ second).Reads before (left ++ right) (outer ++ inner) rest :=
  ⟨left, right, outer, inner, rfl, rfl, reads, later⟩

theorem reads_append :
    (first ++ second).Reads before letters groups rest ↔
      ∃ left right outer inner, letters = left ++ right ∧ groups = outer ++ inner ∧
        first.Reads before left outer (right ++ rest) ∧
        second.Reads (left.getLast?.or before) right inner rest :=
  Iff.rfl

theorem reads_optional :
    (optional pattern).Reads before letters groups rest ↔
      pattern.Reads before letters groups rest ∨ letters = [] ∧ groups = [] :=
  Iff.rfl

private theorem reads_letters {same : Char → Char → Bool} {form : Char → Char} {marks : Text}
    (alike : ∀ mark ∈ marks, ∀ char, same mark char = true ↔ form char = mark) :
    (sequence (marks.map fun mark => one (same mark))).Reads before letters groups rest ↔
      letters.map form = marks ∧ groups = [] := by
  induction marks generalizing before letters groups with
  | nil => exact and_congr_left fun _ => List.map_eq_nil_iff.symm
  | cons mark marks ih =>
    obtain ⟨own, others⟩ := List.forall_mem_cons.mp alike
    have parts : sequence ((mark :: marks).map fun mark => one (same mark)) =
      one (same mark) ++ sequence (marks.map fun mark => one (same mark)) := rfl
    rw [parts, reads_append]
    constructor
    · rintro ⟨left, right, outer, inner, rfl, rfl, ⟨⟨char, passes, rfl⟩, rfl⟩, later⟩
      obtain ⟨rfl, rfl⟩ := (ih others).mp later
      rw [← (own char).mp passes]
      exact ⟨rfl, rfl⟩
    · rintro ⟨spelt, rfl⟩
      obtain ⟨char, right, rfl, passes, later⟩ := List.map_eq_cons_iff.mp spelt
      exact ⟨[char], right, [], [], rfl, rfl, ⟨⟨char, (own char).mpr passes, rfl⟩, rfl⟩,
        (ih others).mpr ⟨later, rfl⟩⟩

theorem reads_literal :
    (literal word).Reads before letters groups rest ↔ letters = word.toList ∧ groups = [] := by
  have spelt : (literal word).Reads before letters groups rest ↔ letters.map id = word.toList ∧ groups = [] :=
    reads_letters fun _ _ _ => beq_iff_eq
  rwa [List.map_id] at spelt

theorem reads_caseless (noK : 'k' ∉ word.toList) (noS : 's' ∉ word.toList) :
    (caseless word).Reads before letters groups rest ↔
      letters.map Char.toLower = word.toList ∧ groups = [] := by
  refine reads_letters fun letter member char => ?_
  have otherK : letter ≠ 'k' := fun same => noK (same ▸ member)
  have otherS : letter ≠ 's' := fun same => noS (same ▸ member)
  rw [sameLetter_eq otherK otherS, beq_iff_eq]

theorem reads_several {allows : Char → Bool} :
    (several allows).Reads before letters groups rest ↔
      letters ≠ [] ∧ (∀ char ∈ letters, allows char = true) ∧ (∀ char ∈ rest.head?, allows char = false) ∧
        groups = [] := by
  constructor
  · rintro ⟨left, right, outer, inner, rfl, rfl, ⟨⟨char, allowed, rfl⟩, rfl⟩, all, stops, rfl⟩
    exact ⟨List.cons_ne_nil _ _, List.forall_mem_cons.mpr ⟨allowed, all⟩, stops, rfl⟩
  · rintro ⟨filled, all, stops, rfl⟩
    obtain ⟨char, right, rfl⟩ := List.exists_cons_of_ne_nil filled
    obtain ⟨allowed, later⟩ := List.forall_mem_cons.mp all
    exact ⟨[char], right, [], [], rfl, rfl, ⟨⟨char, allowed, rfl⟩, rfl⟩, later, stops, rfl⟩

theorem reads_blanks :
    blanks.Reads before letters groups rest ↔
      (∀ char ∈ letters, Text.isBlank char = true) ∧ (∀ char ∈ rest.head?, Text.isBlank char = false) ∧
        groups = [] :=
  Iff.rfl

theorem reads_wordEdge :
    wordEdge.Reads before letters groups rest ↔ atWordEdge before rest = true ∧ letters = [] ∧ groups = [] :=
  Iff.rfl

/-- In front of a word character a word starts just if none goes on there. -/
theorem atWordEdge_iff_before {first : Char} (isWord : Text.isWordChar first = true) :
    atWordEdge before (first :: rest) = true ↔ ∀ char ∈ before, Text.isWordChar char = false := by
  cases before <;> simp [atWordEdge, isWord]

/-- Behind a word character a word ends just if it does not go on there. -/
theorem atWordEdge_iff_behind {last : Char} (isWord : Text.isWordChar last = true) :
    atWordEdge (some last) rest = true ↔ ∀ char ∈ rest.head?, Text.isWordChar char = false := by
  cases rest <;> simp [atWordEdge, isWord]

end Parts

end PageSketch.Pattern
