import PageSketch.Program.Scan
import PageSketch.Proofs.Source.Layout

/-! The layout of a source does not matter: reading goes on unchanged over the rows that say nothing, and
what it reads off the others does not depend on their numbers, which only the findings keep. -/
namespace PageSketch

open Source

def Diagnostic.renumber (place : Nat → Nat) : Diagnostic → Diagnostic
  | emptyName assigned line => emptyName assigned (place line)
  | unknownType component value line => unknownType component value (place line)
  | unknownTheme component value line => unknownTheme component value (place line)
  | unknownStyle component value line => unknownStyle component value (place line)

def Program.renumber (place : Nat → Nat) (program : Program) : Program :=
  { program with diagnostics := program.diagnostics.map (Diagnostic.renumber place) }

def Scan.renumber (place : Nat → Nat) (scan : Scan) : Scan :=
  { scan with program := scan.program.renumber place }

variable {place : Nat → Nat} {year : Int}

theorem Scan.sealed_renumber (scan : Scan) :
    (scan.renumber place).sealed year = (scan.sealed year).renumber place := rfl

private theorem Scan.begin_renumber (scan : Scan) (value : Text) (line : Nat) :
    (scan.renumber place).begin year value (place line) =
      (scan.begin year value line).renumber place := by
  rw [Scan.begin, Scan.begin, Scan.sealed_renumber]
  split
  · simp [Scan.renumber, Program.renumber, Diagnostic.renumber]
  · rfl

private theorem Draft.direct_renumber (draft : Draft) (name value : Text) (line : Nat) :
    draft.direct name value (place line) =
      ((draft.direct name value line).1,
        (draft.direct name value line).2.map (Diagnostic.renumber place)) := by
  unfold Draft.direct
  split
  · split <;> rfl
  · split <;> rfl
  · split <;> rfl
  · rfl

private theorem Scan.direct_renumber (scan : Scan) (name value : Text) (line : Nat) :
    (scan.renumber place).direct name value (place line) =
      (scan.direct name value line).renumber place := by
  obtain ⟨program, draft⟩ := scan
  cases draft with
  | none => rfl
  | some draft =>
    simp only [Scan.direct, Scan.renumber, Draft.direct_renumber]
    split
    · rfl
    · simp [Program.renumber]

/-- One line: a scan that keeps other numbers reads it in the same way. -/
theorem Scan.read_renumber (scan : Scan) (line : Line) :
    Scan.read year (scan.renumber place) (line.renumber place) =
      (Scan.read year scan line).renumber place := by
  have kind : (line.renumber place).kind = line.kind := rfl
  rw [Scan.read, Scan.read, kind]
  cases line.kind with
  | directive name value =>
    simp only
    split
    · exact Scan.begin_renumber scan value line.number
    · exact Scan.direct_renumber scan name value line.number
  | blockOpen | blockClose | content | nameless => rfl

theorem Scan.foldl_read_renumber (scan : Scan) (lines : List Line) :
    (lines.map (Line.renumber place)).foldl (Scan.read year) (scan.renumber place) =
      (lines.foldl (Scan.read year) scan).renumber place := by
  induction lines generalizing scan with
  | nil => rfl
  | cons line rest ih =>
    rw [List.map_cons, List.foldl_cons, Scan.read_renumber, ih, List.foldl_cons]

private theorem Scan.read_of_silent {line : Line} (silent : ¬ line.speaks = true) (scan : Scan) :
    Scan.read year scan line = scan := by
  have nameless : line.kind = .nameless := by simpa [Line.speaks] using silent
  rw [Scan.read, nameless]

/-- Only the lines that say something count. -/
theorem Scan.foldl_read_filter (scan : Scan) (lines : List Line) :
    (lines.filter Line.speaks).foldl (Scan.read year) scan =
      lines.foldl (Scan.read year) scan := by
  rw [List.foldl_filter]
  congr 1
  funext scan line
  split
  · rfl
  · rename_i silent
    exact (Scan.read_of_silent silent scan).symm

/-- A source in any other layout has the same components, and the same findings at the new numbers of
their lines. -/
theorem ofSource_apply (year : Int) (layout : Layout) (source : Text) :
    Program.ofSource year (layout.apply source) =
        { components := (Program.ofSource year source).components
          diagnostics := (Program.ofSource year source).diagnostics.map
            (Diagnostic.renumber layout.place) } ∧
      ∀ number row, source.rows[number]? = some row →
        (layout.apply source).rows[layout.place (number + 1) - 1]? =
          some ((layout.margin (number + 1)).padded row) := by
  constructor
  · have start : Scan.renumber layout.place {} = {} := rfl
    rw [Program.ofSource, ← Scan.foldl_read_filter, filter_lines_apply, ← start,
      Scan.foldl_read_renumber, Scan.foldl_read_filter]
    rfl
  · intro number row present
    obtain ⟨position, located, found⟩ := getElem?_rowsAfter layout 0 present
    rw [Nat.zero_add, Layout.place, Nat.zero_add] at located
    rw [rows_apply, located, Nat.add_sub_cancel, found, Nat.zero_add]

/-- A comment above the second row, a tab before every row, and carriage returns at the ends. -/
def commented : Layout where
  margin number :=
    { above := if number = 2 then [⟨"  // note".toList, by decide, .inr (.inl (by decide))⟩] else []
      left := ⟨['\t'], by decide, List.forall_mem_singleton.mpr (by decide)⟩
      right := ⟨[], by decide, fun _ absent => absurd absent List.not_mem_nil⟩
      returns := true }
  below := []

/-- The finding about the second row is one about the third row then. -/
theorem ofSource_apply_commented :
    commented.apply "@component A\n@type x".toList =
        "\t@component A\r\n  // note\n\t@type x\r".toList ∧
      (Program.ofSource 2024 "@component A\n@type x".toList).diagnostics =
        [.unknownType "A" "x" 2] ∧
      (Program.ofSource 2024 (commented.apply "@component A\n@type x".toList)).diagnostics =
        [.unknownType "A" "x" 3] ∧
      (commented.apply "@component A\n@type x".toList).rows[2]? = some "\t@type x\r".toList := by
  obtain ⟨same, rows⟩ := ofSource_apply 2024 commented "@component A\n@type x".toList
  refine ⟨by decide +kernel, by decide +kernel, ?_, ?_⟩
  · rw [same]
    decide +kernel
  · exact rows 1 "@type x".toList (by decide +kernel)

end PageSketch
