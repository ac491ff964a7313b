import PageSketch.Program.Scan
import PageSketch.Proofs.Component.Entries
import PageSketch.Proofs.Source.Passage

/-! What a draft is after any lines, and what a scan is after a whole passage. -/
namespace PageSketch

open Source

variable {Value : Type}

/-- What the last of the words means that means anything. -/
def lastMeant (read : Text → Option Value) (words : List Text) : Option Value :=
  (words.filterMap read).getLast?

theorem lastMeant_concat (read : Text → Option Value) (words : List Text) (word : Text) :
    lastMeant read (words ++ [word]) = (read word).or (lastMeant read words) := by
  rw [lastMeant, List.filterMap_append, List.getLast?_append, lastMeant]
  cases meant : read word with
  | none => rw [List.filterMap_cons_none meant]; rfl
  | some value => rw [List.filterMap_cons_some meant]; rfl

/-- What is found wrong with a line of the component with this name. -/
def Source.Line.finding? (component : String) (line : Line) : Option Diagnostic :=
  match line.kind with
  | .directive name value =>
    let raw := String.ofList value
    match String.ofList name with
    | "component" => if value.isEmpty then some (.emptyName component line.number) else none
    | "type" =>
      if (Kind.ofAlias? value).isNone then some (.unknownType component raw line.number) else none
    | "theme" =>
      if (Theme.ofWord? value).isNone then some (.unknownTheme component raw line.number) else none
    | "style" =>
      if (Style.ofWord? value).isNone then some (.unknownStyle component raw line.number) else none
    | _ => none
  | _ => none

/-- The draft of a component for which these lines count and which has these lines in its block. -/
def Draft.having (name : String) (live block : List Line) (state : BlockState) : Draft where
  component :=
    { name
      kind := (lastMeant Kind.ofAlias? (values "type" live)).getD .form
      theme := (lastMeant Theme.ofWord? (values "theme" live)).getD .light
      style := (lastMeant Style.ofWord? (values "style" live)).getD .vanilla
      directives := .ofList (settings live) }
  state := state
  block := (block.filter Line.isText).map Line.text
  kindGiven := (lastMeant Kind.ofAlias? (values "type" live)).isSome

def Program.report (program : Program) (findings : List Diagnostic) : Program :=
  { program with diagnostics := program.diagnostics ++ findings }

variable {year : Int} {program : Program} {name : String} {line : Line} {live block : List Line}
  {state : BlockState} {key value : Text}

private theorem values_concat (directive : line.kind = .directive key value) (live : List Line)
    (word : String) : values word (live ++ [line]) =
      values word live ++ if String.ofList key = word then [value] else [] := by
  rw [values, List.filterMap_append, values]
  congr 1
  by_cases same : String.ofList key = word
  · simp [Line.value?, directive, same]
  · simp [Line.value?, directive, same]

private theorem settings_concat (directive : line.kind = .directive key value) (live : List Line) :
    settings (live ++ [line]) =
      settings live ++ [(String.ofList key, .ofRaw (String.ofList value))] := by
  rw [settings, List.filterMap_append, settings]
  simp [Line.setting?, directive]

/-- A directive adds its line to those that count for the draft, and its finding to the findings. -/
theorem direct_having (directive : line.kind = .directive key value) (inside : line.start? = none) :
    (Draft.having name live block state).direct key value line.number =
      (.having name (live ++ [line]) block state, (line.finding? name).toList) := by
  have noStart := Line.name_ne_of_noStart directive inside
  -- A value that means nothing changes only the map, and is what the finding is about.
  by_cases isType : String.ofList key = "type"
  · cases meant : Kind.ofAlias? value <;>
      simp [Draft.direct, Draft.having, Line.finding?, directive, isType, meant, lastMeant_concat,
        values_concat directive, settings_concat directive, Component.setDirective]
  · by_cases isTheme : String.ofList key = "theme"
    · cases meant : Theme.ofWord? value <;>
        simp [Draft.direct, Draft.having, Line.finding?, directive, isTheme, meant,
          lastMeant_concat, values_concat directive, settings_concat directive,
          Component.setDirective]
    · by_cases isStyle : String.ofList key = "style"
      · cases meant : Style.ofWord? value <;>
          simp [Draft.direct, Draft.having, Line.finding?, directive, isStyle, meant,
            lastMeant_concat, values_concat directive, settings_concat directive,
            Component.setDirective]
      · simp [Draft.direct, Draft.having, Line.finding?, directive, isType, isTheme, isStyle,
          values_concat directive, settings_concat directive, Component.setDirective]

theorem Program.report_nil (program : Program) : program.report [] = program := by
  rw [Program.report, List.append_nil]

theorem Program.report_append (program : Program) (first second : List Diagnostic) :
    program.report (first ++ second) = (program.report first).report second := by
  rw [Program.report, Program.report, Program.report, List.append_assoc]

theorem value?_eq_none (other : ∀ key value, line.kind ≠ .directive key value) (word : String) :
    line.value? word = none := by
  unfold Line.value?
  split
  · rename_i directive
    exact absurd directive (other _ _)
  · rfl

theorem setting?_eq_none (other : ∀ key value, line.kind ≠ .directive key value) :
    line.setting? = none := by
  unfold Line.setting?
  split
  · rename_i directive
    exact absurd directive (other _ _)
  · rfl

private theorem having_concat_of_noDirective (other : ∀ key value, line.kind ≠ .directive key value)
    (name : String) (live block : List Line) (state : BlockState) :
    Draft.having name (live ++ [line]) block state = .having name live block state := by
  simp [Draft.having, values, settings, value?_eq_none other, setting?_eq_none other]

theorem finding?_eq_none (other : ∀ key value, line.kind ≠ .directive key value) (name : String) :
    line.finding? name = none := by
  unfold Line.finding?
  split
  · rename_i directive
    exact absurd directive (other _ _)
  · rfl

theorem Scan.read_eq_direct (directive : line.kind = .directive key value)
    (inside : line.start? = none) (scan : Scan) :
    Scan.read year scan line = scan.direct key value line.number := by
  have noStart : key ≠ "component".toList := by
    intro same
    exact Line.name_ne_of_noStart directive inside (by rw [same, String.ofList_toList])
  rw [Scan.read, directive]
  simp only [noStart, if_false]

/-- Scanning a directive that starts no component, before or inside the block. -/
theorem read_directive (directive : line.kind = .directive key value)
    (inside : line.start? = none) (live block : List Line) (openEnded : state ≠ .closed) :
    Scan.read year ⟨program, some (.having name live block state)⟩ line =
      ⟨program.report (line.finding? name).toList,
        some (.having name (live ++ [line]) block state)⟩ := by
  have counts : (Draft.having name live block state).state ≠ .closed := openEnded
  rw [Scan.read_eq_direct directive inside]
  simp only [Scan.direct, counts, if_false, direct_having directive inside]
  rfl

private theorem read_pending (inside : line.start? = none) (plain : line.text ≠ ['{']) (live : List Line) :
    Scan.read year ⟨program, some (.having name live [] .pending)⟩ line =
      ⟨program.report (line.finding? name).toList,
        some (.having name (live ++ [line]) [] .pending)⟩ := by
  cases kind : line.kind with
  | directive key value => exact read_directive kind inside live [] (by simp)
  | blockOpen => exact absurd (Line.kind_eq_blockOpen.mp kind) plain
  | blockClose | content | nameless =>
    have other : ∀ key value, line.kind ≠ .directive key value := by simp [kind]
    have same : Scan.read year ⟨program, some (.having name live [] .pending)⟩ line =
        ⟨program, some (.having name live [] .pending)⟩ := by
      simp [Scan.read, kind, Scan.mapDraft, Draft.having, Draft.addText]
    rw [same, having_concat_of_noDirective other, finding?_eq_none other, Option.toList_none,
      Program.report_nil]

private theorem read_opened (inside : line.start? = none) (plain : line.text ≠ ['}'])
    (live block : List Line) :
    Scan.read year ⟨program, some (.having name live block .opened)⟩ line =
      ⟨program.report (line.finding? name).toList,
        some (.having name (live ++ [line]) (block ++ [line]) .opened)⟩ := by
  cases kind : line.kind with
  | directive key value =>
    rw [read_directive kind inside live block (by simp)]
    simp [Draft.having, Line.isText, kind]
  | blockClose => exact absurd (Line.kind_eq_blockClose.mp kind) plain
  | blockOpen | content | nameless =>
    have other : ∀ key value, line.kind ≠ .directive key value := by simp [kind]
    rw [having_concat_of_noDirective other, finding?_eq_none other, Option.toList_none,
      Program.report_nil, Scan.read, kind]
    simp [Scan.mapDraft, Draft.having, Draft.addText, Line.isText, kind]

private theorem read_closed {draft : Draft} (closed : draft.state = .closed) (inside : line.start? = none) :
    Scan.read year ⟨program, some draft⟩ line = ⟨program, some draft⟩ := by
  cases kind : line.kind with
  | directive key value =>
    rw [Scan.read_eq_direct kind inside]
    simp only [Scan.direct, closed, if_true]
  | blockOpen | blockClose | content =>
    rw [Scan.read, kind]
    simp [Scan.mapDraft, Draft.addText, closed]
  | nameless => rw [Scan.read, kind]

theorem foldl_read_pending {lines : List Line} (inside : ∀ line ∈ lines, line.start? = none)
    (plain : ∀ line ∈ lines, line.text ≠ ['{']) (program : Program) (live : List Line) :
    lines.foldl (Scan.read year) ⟨program, some (.having name live [] .pending)⟩ =
      ⟨program.report (lines.filterMap (Line.finding? name)),
        some (.having name (live ++ lines) [] .pending)⟩ := by
  induction lines generalizing program live with
  | nil => rw [List.filterMap_nil, Program.report_nil, List.append_nil, List.foldl_nil]
  | cons line rest ih =>
    obtain ⟨first, others⟩ := List.forall_mem_cons.mp inside
    obtain ⟨noOpen, noOpens⟩ := List.forall_mem_cons.mp plain
    rw [List.foldl_cons, read_pending first noOpen, ih others noOpens, ← Program.report_append,
      List.append_assoc]
    cases found : line.finding? name <;> simp [found]

theorem foldl_read_opened {lines : List Line} (inside : ∀ line ∈ lines, line.start? = none)
    (plain : ∀ line ∈ lines, line.text ≠ ['}']) (program : Program) (live block : List Line) :
    lines.foldl (Scan.read year) ⟨program, some (.having name live block .opened)⟩ =
      ⟨program.report (lines.filterMap (Line.finding? name)),
        some (.having name (live ++ lines) (block ++ lines) .opened)⟩ := by
  induction lines generalizing program live block with
  | nil => rw [List.filterMap_nil, Program.report_nil, List.append_nil, List.append_nil, List.foldl_nil]
  | cons line rest ih =>
    obtain ⟨first, others⟩ := List.forall_mem_cons.mp inside
    obtain ⟨noClose, noCloses⟩ := List.forall_mem_cons.mp plain
    rw [List.foldl_cons, read_opened first noClose, ih others noCloses, ← Program.report_append,
      List.append_assoc, List.append_assoc]
    cases found : line.finding? name <;> simp [found]

/-- Scanning what stands between a block and the next component changes nothing. -/
theorem foldl_read_closed {lines : List Line} (inside : ∀ line ∈ lines, line.start? = none)
    {draft : Draft} (closed : draft.state = .closed) :
    lines.foldl (Scan.read year) ⟨program, some draft⟩ = ⟨program, some draft⟩ := by
  induction lines with
  | nil => rfl
  | cons line rest ih =>
    obtain ⟨first, others⟩ := List.forall_mem_cons.mp inside
    rw [List.foldl_cons, read_closed closed first, ih others]

end PageSketch
