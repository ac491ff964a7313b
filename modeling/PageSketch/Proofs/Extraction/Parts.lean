import Mathlib.Data.List.TakeWhile
import PageSketch.Extraction.Basic

/-! Lines cut at their headers. Readers that open an entry at every header line, and give every other line to the
entry opened last, read each part by itself. -/
namespace PageSketch

variable {Head Entry : Type} {head? : Text → Option Head}

private theorem head?_of_mem_takeWhile {lines : List Text} {line : Text}
    (member : line ∈ lines.takeWhile fun line => (head? line).isNone) : head? line = none := by
  have plain := List.mem_takeWhile_imp member
  exact Option.isNone_iff_eq_none.mp plain

/-- A header line, what it announces, and the lines from there to the next header or to the end. -/
structure Part (head? : Text → Option Head) where
  header : Text
  head : Head
  body : List Text
  headed : head? header = some head
  plain : ∀ line ∈ body, head? line = none

/-- The part of a header line, with the lines that follow it. -/
def Part.ofHeader {header : Text} {head : Head} (headed : head? header = some head) (following : List Text) :
    Part head? where
  header := header
  head := head
  body := following.takeWhile fun line => (head? line).isNone
  headed := headed
  plain := fun _ => head?_of_mem_takeWhile

def parts (head? : Text → Option Head) : List Text → List (Part head?)
  | [] => []
  | line :: rest =>
    match headed : head? line with
    | some _ => .ofHeader headed rest :: parts head? rest
    | none => parts head? rest

def Part.lines (part : Part head?) : List Text := part.header :: part.body

private theorem parts_cons_header {line : Text} {head : Head} (headed : head? line = some head) (rest : List Text) :
    parts head? (line :: rest) = .ofHeader headed rest :: parts head? rest := by
  rw [parts]
  split
  · rename_i found again
    rw [headed] at again
    cases again
    rfl
  · rename_i other
    rw [headed] at other
    cases other

private theorem parts_cons_other {line : Text} (other : head? line = none) (rest : List Text) :
    parts head? (line :: rest) = parts head? rest := by
  rw [parts]
  split
  · rename_i headed
    rw [other] at headed
    cases headed
  · rfl

/-- Nothing is lost by cutting: the parts are all lines from the first header on. -/
theorem takeWhile_append_parts (head? : Text → Option Head) (lines : List Text) :
    (lines.takeWhile fun line => (head? line).isNone) ++ (parts head? lines).flatMap Part.lines = lines := by
  induction lines with
  | nil => rfl
  | cons line rest ih =>
    cases headed : head? line with
    | none =>
      rw [parts_cons_other headed, List.takeWhile_cons_of_pos (by rw [headed]; rfl), List.cons_append, ih]
    | some head =>
      rw [parts_cons_header headed, List.takeWhile_cons_of_neg (by rw [headed]; exact Bool.false_ne_true),
        List.flatMap_cons, List.nil_append, Part.lines, List.cons_append, Part.ofHeader, ih]

/-- There is a part for each header line. -/
theorem map_head_parts (head? : Text → Option Head) (lines : List Text) :
    (parts head? lines).map Part.head = lines.filterMap head? := by
  induction lines with
  | nil => rfl
  | cons line rest ih =>
    cases headed : head? line with
    | none => rw [parts_cons_other headed, List.filterMap_cons_none headed, ih]
    | some head =>
      rw [parts_cons_header headed, List.filterMap_cons_some headed, ← ih]
      rfl

private theorem parts_eq_nil_iff {lines : List Text} :
    parts head? lines = [] ↔ ∀ line ∈ lines, head? line = none := by
  rw [← List.map_eq_nil_iff (f := Part.head), map_head_parts, List.filterMap_eq_nil_iff]

/-- Where there is one entry for each part, defaults stand in just when there is no header line. -/
theorem orDefaults_eq_ite {entries : List Entry} {lines : List Text}
    (count : entries.length = (parts head? lines).length) (defaults : List Entry) :
    orDefaults entries defaults =
      if lines.any fun line => (head? line).isSome then entries else defaults := by
  have empty : entries = [] ↔ ∀ line ∈ lines, head? line = none := by
    rw [← parts_eq_nil_iff, ← List.length_eq_zero_iff, count, List.length_eq_zero_iff]
  cases headed : lines.any fun line => (head? line).isSome with
  | true =>
    have some : entries ≠ [] := by
      intro none
      obtain ⟨line, member, announced⟩ := List.any_eq_true.mp headed
      rw [empty.mp none line member] at announced
      cases announced
    rw [orDefaults, List.isEmpty_eq_false_iff.mpr some]
    rfl
  | false =>
    have none : entries = [] := by
      rw [empty]
      intro line member
      exact Option.not_isSome_iff_eq_none.mp (List.any_eq_false.mp headed line member)
    rw [none]
    rfl

theorem orDefaults_map_parts (entryOf : Part head? → Entry) (defaults : List Entry) (lines : List Text) :
    orDefaults ((parts head? lines).map entryOf) defaults =
      if lines.any fun line => (head? line).isSome then (parts head? lines).map entryOf else defaults :=
  orDefaults_eq_ite (List.length_map entryOf) defaults

/-- The entries after one more line: a header opens one, any other line goes to the last one. -/
def addLine (head? : Text → Option Head) (start : Head → Entry) (read : Entry → Text → Entry)
    (entries : List Entry) (line : Text) : List Entry :=
  match head? line, entries.getLast? with
  | some head, _ => entries ++ [start head]
  | none, some entry => entries.dropLast ++ [read entry line]
  | none, none => entries

variable {start : Head → Entry} {read : Entry → Text → Entry}

theorem addLine_header {line : Text} {head : Head} (headed : head? line = some head) (entries : List Entry) :
    addLine head? start read entries line = entries ++ [start head] := by
  rw [addLine, headed]

theorem addLine_other {line : Text} (other : head? line = none) (entries : List Entry) (entry : Entry) :
    addLine head? start read (entries ++ [entry]) line = entries ++ [read entry line] := by
  rw [addLine, other, List.getLast?_concat, List.dropLast_concat]

private theorem foldl_addLine_body {body : List Text} (plain : ∀ line ∈ body, head? line = none)
    (entries : List Entry) (entry : Entry) :
    body.foldl (addLine head? start read) (entries ++ [entry]) = entries ++ [body.foldl read entry] := by
  induction body generalizing entry with
  | nil => rfl
  | cons line rest ih =>
    obtain ⟨own, others⟩ := List.forall_mem_cons.mp plain
    rw [List.foldl_cons, addLine_other own, ih others, List.foldl_cons]

private theorem foldl_addLine_preamble {lines : List Text} (plain : ∀ line ∈ lines, head? line = none) :
    lines.foldl (addLine head? start read) [] = [] := by
  induction lines with
  | nil => rfl
  | cons line rest ih =>
    obtain ⟨own, others⟩ := List.forall_mem_cons.mp plain
    rw [List.foldl_cons, addLine, own, List.getLast?_nil]
    exact ih others

private theorem foldl_addLine_parts (parts : List (Part head?)) (entries : List Entry) :
    (parts.flatMap Part.lines).foldl (addLine head? start read) entries =
      entries ++ parts.map fun part => part.body.foldl read (start part.head) := by
  induction parts generalizing entries with
  | nil => exact (List.append_nil entries).symm
  | cons part rest ih =>
    rw [List.flatMap_cons, List.foldl_append, Part.lines, List.foldl_cons, addLine_header part.headed,
      foldl_addLine_body part.plain, ih, List.append_assoc]
    rfl

/-- Every part is read by itself, and the lines before the first header are not read. -/
theorem foldl_addLine (head? : Text → Option Head) (start : Head → Entry) (read : Entry → Text → Entry)
    (lines : List Text) :
    lines.foldl (addLine head? start read) [] =
      (parts head? lines).map fun part => part.body.foldl read (start part.head) := by
  calc
    _ = ((lines.takeWhile fun line => (head? line).isNone) ++ (parts head? lines).flatMap Part.lines).foldl
          (addLine head? start read) [] := by
      rw [takeWhile_append_parts]
    _ = [] ++ (parts head? lines).map fun part => part.body.foldl read (start part.head) := by
      rw [List.foldl_append, foldl_addLine_preamble fun _ => head?_of_mem_takeWhile, foldl_addLine_parts]

end PageSketch
