import PageSketch.Proofs.Program.Components
import PageSketch.Proofs.Source.Directives

/-! The findings about a source: which rows have one, what it says, and that they come in the order of those
rows. -/
namespace PageSketch

open Source

def Diagnostic.line : Diagnostic → Nat
  | emptyName _ line | unknownType _ _ line | unknownTheme _ _ line | unknownStyle _ _ line => line

namespace Source

/-- The last component that is started on these rows: its name, and the rows since then. -/
structure LastStarts (rows : List Text) (name : String) (since : List Text) : Prop where
  started : ∃ before start value, rows = before ++ start :: since ∧ startValue? start = some value ∧
    name = nameAt (before.filterMap startValue?).length value
  unbroken : ∀ row ∈ since, startValue? row = none

/-- Whether the rows since the start of a component hold its block to the end. -/
def HoldBlock (since : List Text) : Prop := [['{'], ['}']].Sublist (since.map Text.trim)

/-- The rows lead into the component with this name, and its block has not closed. -/
def LeadInto (rows : List Text) (name : String) : Prop :=
  ∃ since, LastStarts rows name since ∧ ¬ HoldBlock since

end Source

/-- What is found wrong with a row behind earlier ones: it starts a component without a name, or it is a directive
of a component, up to the end of its block, with a value that means nothing. -/
inductive Diagnostic.IsAbout (earlier : List Text) (row : Text) : Diagnostic → Prop where
  | emptyName (nameless : startValue? row = some []) :
      IsAbout earlier row
        (.emptyName (nameAt (earlier.filterMap startValue?).length []) (earlier.length + 1))
  | unknownType {name : String} {value : Text} (inside : LeadInto earlier name)
      (given : valueOn? "type" row = some value) (meaningless : Kind.ofAlias? value = none) :
      IsAbout earlier row (.unknownType name (String.ofList value) (earlier.length + 1))
  | unknownTheme {name : String} {value : Text} (inside : LeadInto earlier name)
      (given : valueOn? "theme" row = some value) (meaningless : Theme.ofWord? value = none) :
      IsAbout earlier row (.unknownTheme name (String.ofList value) (earlier.length + 1))
  | unknownStyle {name : String} {value : Text} (inside : LeadInto earlier name)
      (given : valueOn? "style" row = some value) (meaningless : Style.ofWord? value = none) :
      IsAbout earlier row (.unknownStyle name (String.ofList value) (earlier.length + 1))

/-- The findings about some rows, all of them and in order. -/
structure Reports (rows : List Text) (findings : List Diagnostic) : Prop where
  exact : ∀ finding, finding ∈ findings ↔
    ∃ earlier row later, rows = earlier ++ row :: later ∧ finding.IsAbout earlier row
  ordered : (findings.map Diagnostic.line).Pairwise (· < ·)

/-- How far a block has come after one more trimmed row. -/
def BlockState.after (state : BlockState) (text : Text) : BlockState :=
  match state with
  | pending => if text = ['{'] then opened else pending
  | opened => if text = ['}'] then closed else opened
  | closed => closed

section Blocks

private theorem foldl_after_closed (texts : List Text) :
    texts.foldl BlockState.after .closed = .closed := by
  induction texts with
  | nil => rfl
  | cons text rest ih => exact ih

private theorem foldl_after_opened (texts : List Text) :
    texts.foldl BlockState.after .opened = .closed ↔ ['}'] ∈ texts := by
  induction texts with
  | nil => simp
  | cons text rest ih =>
    rw [List.foldl_cons, BlockState.after, List.mem_cons]
    split
    · rename_i closes
      exact iff_of_true (foldl_after_closed rest) (.inl closes.symm)
    · rename_i other
      rw [ih, or_iff_right (Ne.symm other)]

/-- A block has closed just if it has opened and a closing brace stands further down. -/
private theorem foldl_after_pending (texts : List Text) :
    texts.foldl BlockState.after .pending = .closed ↔ [['{'], ['}']].Sublist texts := by
  induction texts with
  | nil => simp
  | cons text rest ih =>
    rw [List.foldl_cons, BlockState.after]
    split
    · rename_i opens
      rw [foldl_after_opened, opens, List.cons_sublist_cons, List.singleton_sublist]
    · rename_i other
      rw [ih, List.sublist_cons_iff]
      simp [Ne.symm other]

end Blocks

section Starts

variable {rows since : List Text} {name : String}

private theorem Source.LastStarts.next (last : LastStarts rows name since) {row : Text}
    (inside : startValue? row = none) : LastStarts (rows ++ [row]) name (since ++ [row]) := by
  obtain ⟨before, start, value, same, starts, named⟩ := last.started
  refine ⟨⟨before, start, value, ?_, starts, named⟩, ?_⟩
  · rw [same, List.append_assoc, List.cons_append]
  · intro other member
    rcases List.mem_append.mp member with earlier | this
    · exact last.unbroken other earlier
    · rwa [List.mem_singleton.mp this]

private theorem Source.LastStarts.unique (last : LastStarts rows name since) {other : String}
    {sinceOther : List Text} (again : LastStarts rows other sinceOther) :
    name = other ∧ since = sinceOther := by
  obtain ⟨before, start, value, split, starts, rfl⟩ := last.started
  obtain ⟨before', start', value', split', starts', rfl⟩ := again.started
  have none_of_later {between : List Text} {first second : Text} {rest later : List Text} {given : Text}
      (cut : first :: rest = between ++ second :: later) (starts : startValue? second = some given)
      (unbroken : ∀ row ∈ rest, startValue? row = none) : between = [] := by
    cases between with
    | nil => rfl
    | cons head tail =>
      have later := unbroken second (by rw [(List.cons.inj cut).2]; simp)
      rw [starts] at later
      cases later
  -- Neither start can stand behind the other one, so they are the same row.
  have same : before = before' ∧ start :: since = start' :: sinceOther := by
    rcases List.append_eq_append_iff.mp (split.symm.trans split') with
      ⟨between, longer, cut⟩ | ⟨between, longer, cut⟩
    · obtain rfl := none_of_later cut starts' last.unbroken
      exact ⟨by rw [longer, List.append_nil], cut⟩
    · obtain rfl := none_of_later cut starts again.unbroken
      exact ⟨by rw [longer, List.append_nil], cut.symm⟩
  obtain ⟨rfl, cut⟩ := same
  obtain ⟨rfl, rfl⟩ := List.cons.inj cut
  rw [starts] at starts'
  obtain rfl := Option.some.inj starts'
  exact ⟨rfl, rfl⟩

end Starts

section Lines

variable {year : Int} {line : Line} {row : Text} {key value : Text}

/-- A directive leaves the name of its component and the state of the block. -/
private theorem direct_progress (draft : Draft) (directive : line.kind = .directive key value)
    (inside : line.start? = none) :
    (draft.direct key value line.number).1.component.name = draft.component.name ∧
      (draft.direct key value line.number).1.state = draft.state ∧
      (draft.direct key value line.number).2 = (line.finding? draft.component.name).toList := by
  have noStart := Line.name_ne_of_noStart directive inside
  unfold Draft.direct Line.finding?
  rw [directive]
  split
  · rename_i isType
    cases meant : Kind.ofAlias? value <;> simp [isType, meant, Component.setDirective]
  · rename_i isTheme
    cases meant : Theme.ofWord? value <;> simp [isTheme, meant, Component.setDirective]
  · rename_i isStyle
    cases meant : Style.ofWord? value <;> simp [isStyle, meant, Component.setDirective]
  · simp [Component.setDirective]

/-- What a line that starts no component has as its finding. -/
private theorem finding?_eq_some_iff (trimmed : line.text = row.trim) (inside : line.start? = none)
    (name : String) (finding : Diagnostic) :
    line.finding? name = some finding ↔
      (∃ value, valueOn? "type" row = some value ∧ Kind.ofAlias? value = none ∧
        .unknownType name (String.ofList value) line.number = finding) ∨
      (∃ value, valueOn? "theme" row = some value ∧ Theme.ofWord? value = none ∧
        .unknownTheme name (String.ofList value) line.number = finding) ∨
      (∃ value, valueOn? "style" row = some value ∧ Style.ofWord? value = none ∧
        .unknownStyle name (String.ofList value) line.number = finding) := by
  have isType : IsWord "type" := ⟨by decide, by decide⟩
  have isTheme : IsWord "theme" := ⟨by decide, by decide⟩
  have isStyle : IsWord "style" := ⟨by decide, by decide⟩
  rw [← value?_eq_valueOn? isType trimmed, ← value?_eq_valueOn? isTheme trimmed,
    ← value?_eq_valueOn? isStyle trimmed]
  unfold Line.finding? Line.value?
  cases kind : line.kind with
  | directive key value =>
    have noStart := Line.name_ne_of_noStart kind inside
    simp only
    split
    · rename_i starts
      exact absurd starts noStart
    · rename_i isType
      simp [isType]
    · rename_i isTheme
      simp [isTheme]
    · rename_i isStyle
      simp [isStyle]
    · rename_i noType noTheme noStyle
      simp [if_neg noType, if_neg noTheme, if_neg noStyle]
  | blockOpen | blockClose | content | nameless => simp

/-- What is found about a line that starts no component: nothing before the first component and behind a block. -/
def Scan.finding? (scan : Scan) (line : Line) : Option Diagnostic :=
  scan.draft.bind fun draft =>
    if draft.state = .closed then none else line.finding? draft.component.name

def Draft.progress (draft : Draft) : String × BlockState := (draft.component.name, draft.state)

/-- A line that starts no component moves the block of the last one on. -/
private theorem read_inside (year : Int) (scan : Scan) (inside : line.start? = none) :
    (scan.read year line).program = scan.program.report (scan.finding? line).toList ∧
      (scan.read year line).draft.map Draft.progress = scan.draft.map fun draft =>
        (draft.component.name, draft.state.after line.text) := by
  obtain ⟨program, _ | draft⟩ := scan
  · cases kind : line.kind with
    | directive key value =>
      rw [Scan.read_eq_direct kind inside]
      exact ⟨(Program.report_nil program).symm, rfl⟩
    | blockOpen | blockClose | content | nameless =>
      rw [Scan.read, kind]
      exact ⟨(Program.report_nil program).symm, rfl⟩
  · have opens : line.text = ['{'] ↔ line.kind = .blockOpen := Line.kind_eq_blockOpen.symm
    have closes : line.text = ['}'] ↔ line.kind = .blockClose := Line.kind_eq_blockClose.symm
    cases kind : line.kind with
    | directive key value =>
      obtain ⟨name, state, finding⟩ := direct_progress draft kind inside
      rw [Scan.read_eq_direct kind inside]
      cases reached : draft.state <;>
        simp [Scan.direct, Scan.finding?, reached, finding, Program.report, Draft.progress, name, state,
          BlockState.after, opens, closes, kind]
    | blockOpen | blockClose | content | nameless =>
      have nothing : line.finding? draft.component.name = none :=
        finding?_eq_none (by simp [kind]) draft.component.name
      have name : (draft.finish year).component.name = draft.component.name := rfl
      have state : (draft.finish year).state = .closed := rfl
      cases reached : draft.state <;>
        simp [Scan.read, Scan.mapDraft, Draft.addText, kind, Scan.finding?, reached, nothing, opens, closes,
          Program.report_nil, Draft.progress, BlockState.after, name, state]

end Lines

section Rows

variable {year : Int} {rows : List Text} {row : Text} {scan : Scan}

private theorem Diagnostic.IsAbout.line_eq {finding : Diagnostic} (about : finding.IsAbout rows row) :
    finding.line = rows.length + 1 := by
  cases about <;> rfl

private theorem exists_split_concat {holds : List Text → Text → Prop} :
    (∃ earlier other later, rows ++ [row] = earlier ++ other :: later ∧ holds earlier other) ↔
      (∃ earlier other later, rows = earlier ++ other :: later ∧ holds earlier other) ∨ holds rows row := by
  constructor
  · rintro ⟨earlier, other, later, same, fact⟩
    rcases List.eq_nil_or_concat later with rfl | ⟨front, last, rfl⟩
    · obtain ⟨rfl, only⟩ := List.append_inj' same rfl
      obtain rfl := List.singleton_inj.mp only
      exact .inr fact
    · rw [List.concat_eq_append, ← List.cons_append, ← List.append_assoc] at same
      exact .inl ⟨earlier, other, front, (List.append_inj' same rfl).1, fact⟩
  · rintro (⟨earlier, other, later, rfl, fact⟩ | fact)
    · exact ⟨earlier, other, later ++ [row], by simp, fact⟩
    · exact ⟨rows, row, [], rfl, fact⟩

/-- A row has one finding at most, which comes behind those about the rows before. -/
private theorem Reports.concat {findings : List Diagnostic} (reports : Reports rows findings)
    {found : Option Diagnostic} (exact : ∀ finding, found = some finding ↔ finding.IsAbout rows row) :
    Reports (rows ++ [row]) (findings ++ found.toList) := by
  constructor
  · intro finding
    rw [List.mem_append, Option.mem_toList, exists_split_concat, reports.exact, exact]
  · rw [List.map_append, List.pairwise_append]
    refine ⟨reports.ordered, ?_, ?_⟩
    · cases found <;> simp
    · intro number earlier last this
      obtain ⟨finding, member, rfl⟩ := List.mem_map.mp earlier
      obtain ⟨newest, own, rfl⟩ := List.mem_map.mp this
      obtain ⟨before, other, later, rfl, about⟩ := (reports.exact finding).mp member
      rw [about.line_eq, ((exact newest).mp (by simpa using own)).line_eq, List.length_append, List.length_cons]
      omega

/-- What a scan knows after some rows. -/
structure Scan.HasRead (year : Int) (rows : List Text) (scan : Scan) : Prop where
  count : (scan.sealed year).components.length = (rows.filterMap startValue?).length
  outside : scan.draft = none → ∀ row ∈ rows, startValue? row = none
  inside : ∀ draft ∈ scan.draft, ∃ since, LastStarts rows draft.component.name since ∧
    draft.state = (since.map Text.trim).foldl BlockState.after .pending
  reports : Reports rows scan.program.diagnostics

namespace Scan.HasRead

/-- The rows lead into the component that is read, unless its block has closed. -/
private theorem leadInto_iff (read : scan.HasRead year rows) {name : String} :
    LeadInto rows name ↔ ∃ draft ∈ scan.draft, draft.state ≠ .closed ∧ draft.component.name = name := by
  constructor
  · rintro ⟨since, last, openEnded⟩
    cases drafted : scan.draft with
    | none =>
      obtain ⟨before, start, value, same, starts, _⟩ := last.started
      rw [read.outside drafted start (by simp [same])] at starts
      cases starts
    | some draft =>
      obtain ⟨sinceDraft, lastDraft, state⟩ := read.inside draft drafted
      obtain ⟨named, rfl⟩ := lastDraft.unique last
      refine ⟨draft, rfl, ?_, named⟩
      rwa [state, ne_eq, foldl_after_pending]
  · rintro ⟨draft, drafted, openEnded, rfl⟩
    obtain ⟨since, last, state⟩ := read.inside draft drafted
    refine ⟨since, last, ?_⟩
    rwa [state, ne_eq, foldl_after_pending] at openEnded

/-- A row that starts no component has been read when the block of the last one has moved on. -/
private theorem concat (read : scan.HasRead year rows) (noStart : startValue? row = none) {next : Scan}
    {found : Option Diagnostic} (program : next.program = scan.program.report found.toList)
    (progress : next.draft.map Draft.progress = scan.draft.map fun draft =>
      (draft.component.name, draft.state.after row.trim))
    (exact : ∀ finding, found = some finding ↔ finding.IsAbout rows row) :
    next.HasRead year (rows ++ [row]) := by
  have same : next.draft.isSome = scan.draft.isSome := by
    simpa using congrArg Option.isSome progress
  constructor
  case count =>
    have counted := read.count
    rw [List.filterMap_append, List.filterMap_cons_none noStart, List.filterMap_nil, List.append_nil, ← counted]
    have size (scan : Scan) : (scan.sealed year).components.length =
        scan.program.components.length + scan.draft.isSome.toNat := by
      cases drafted : scan.draft <;> simp [Scan.sealed, drafted]
    rw [size, size, same, program]
    rfl
  case outside =>
    intro none other member
    rw [none] at same
    have before := read.outside (by simpa using same.symm)
    rcases List.mem_append.mp member with earlier | this
    · exact before other earlier
    · rwa [List.mem_singleton.mp this]
  case inside =>
    intro draft drafted
    rw [Option.mem_def.mp drafted, Option.map_some] at progress
    obtain ⟨old, oldDrafted, moved⟩ := Option.map_eq_some_iff.mp progress.symm
    obtain ⟨name, state⟩ := Prod.mk.inj moved
    obtain ⟨since, last, reached⟩ := read.inside old oldDrafted
    refine ⟨since ++ [row], ?_, ?_⟩
    · rw [← name]
      exact last.next noStart
    · rw [← state, reached, List.map_append, List.foldl_append]
      rfl
  case reports =>
    rw [program]
    exact read.reports.concat exact

/-- What is found about a row that starts no component. -/
private theorem finding?_eq_some_iff (read : scan.HasRead year rows) {line : Line} (trimmed : line.text = row.trim)
    (numbered : line.number = rows.length + 1) (noStart : startValue? row = none) (finding : Diagnostic) :
    scan.finding? line = some finding ↔ finding.IsAbout rows row := by
  have inside : line.start? = none := (start?_eq_startValue? trimmed).trans noStart
  have iff := PageSketch.finding?_eq_some_iff trimmed inside
  rw [numbered] at iff
  constructor
  · intro found
    obtain ⟨draft, drafted, found⟩ := Option.bind_eq_some_iff.mp found
    rw [Option.ite_none_left_eq_some, iff] at found
    obtain ⟨openEnded, found⟩ := found
    have leads : LeadInto rows draft.component.name :=
      read.leadInto_iff.mpr ⟨draft, drafted, openEnded, rfl⟩
    rcases found with ⟨_, given, meaningless, rfl⟩ | ⟨_, given, meaningless, rfl⟩ | ⟨_, given, meaningless, rfl⟩
    · exact .unknownType leads given meaningless
    · exact .unknownTheme leads given meaningless
    · exact .unknownStyle leads given meaningless
  · have settle {name : String} {finding : Diagnostic} (leads : LeadInto rows name)
        (found : line.finding? name = some finding) : scan.finding? line = some finding := by
      obtain ⟨draft, drafted, openEnded, rfl⟩ := read.leadInto_iff.mp leads
      rw [Scan.finding?, Option.mem_def.mp drafted, Option.bind_some, if_neg openEnded, found]
    intro about
    cases about with
    | emptyName nameless =>
      rw [noStart] at nameless
      cases nameless
    | unknownType leads given meaningless => exact settle leads ((iff _ _).mpr (.inl ⟨_, given, meaningless, rfl⟩))
    | unknownTheme leads given meaningless =>
      exact settle leads ((iff _ _).mpr (.inr (.inl ⟨_, given, meaningless, rfl⟩)))
    | unknownStyle leads given meaningless =>
      exact settle leads ((iff _ _).mpr (.inr (.inr ⟨_, given, meaningless, rfl⟩)))

/-- The line that starts a component, whatever has been read before. -/
private theorem begin_eq (scan : Scan) (value : Text) (line : Nat) {count : Nat}
    (counted : (scan.sealed year).components.length = count) :
    scan.begin year value line =
      ⟨(scan.sealed year).report
        (if value = [] then some (.emptyName (nameAt count []) line) else none).toList,
        some (.start (nameAt count value) (String.ofList value))⟩ := by
  subst counted
  cases value with
  | nil => rfl
  | cons => exact congrArg (Scan.mk · _) (Program.report_nil _).symm

/-- A row that starts a component. -/
private theorem begin (read : scan.HasRead year rows) {value : Text} (starts : startValue? row = some value) :
    (scan.begin year value (rows.length + 1)).HasRead year (rows ++ [row]) := by
  rw [begin_eq scan value (rows.length + 1) read.count]
  have none_else {name : String} {given : Text} (word : IsWord name) (other : name ≠ "component")
      (also : valueOn? name row = some given) : False := by
    have directive := (valueOn?_eq_some_iff isWord_component).mp starts
    rw [(valueOn?_eq_some_iff word).mp also, LineKind.directive.injEq, String.toList_inj] at directive
    exact other directive.1
  constructor
  case count =>
    rw [List.filterMap_append, List.length_append, List.filterMap_cons_some starts, ← read.count]
    simp [Scan.sealed, Program.report, Nat.add_assoc]
  case outside =>
    intro drafted
    cases drafted
  case inside =>
    intro draft drafted
    cases drafted
    exact ⟨[], ⟨⟨rows, row, value, rfl, starts, rfl⟩, List.forall_mem_nil _⟩, rfl⟩
  case reports =>
    refine read.reports.concat fun finding => ?_
    constructor
    · intro found
      obtain ⟨rfl, about⟩ := Option.ite_none_right_eq_some.mp found
      obtain rfl := Option.some.inj about
      exact .emptyName starts
    · intro about
      cases about with
      | emptyName nameless =>
        rw [starts] at nameless
        rw [if_pos (Option.some.inj nameless)]
      | unknownType _ given => exact (none_else ⟨by decide, by decide⟩ (by decide) given).elim
      | unknownTheme _ given => exact (none_else ⟨by decide, by decide⟩ (by decide) given).elim
      | unknownStyle _ given => exact (none_else ⟨by decide, by decide⟩ (by decide) given).elim

/-- A row that counts for nothing. -/
private theorem idle (read : scan.HasRead year rows) (idle : counts row.trim = false) :
    scan.HasRead year (rows ++ [row]) := by
  have noBrace : row.trim ≠ ['{'] ∧ row.trim ≠ ['}'] := by
    constructor <;> exact fun brace => absurd idle (by rw [brace]; decide)
  have nothing (finding : Diagnostic) : none = some finding ↔ finding.IsAbout rows row := by
    refine iff_of_false nofun fun about => ?_
    cases about with
    | emptyName nameless =>
      rw [startValue?, valueOn?_of_not_counts idle] at nameless
      cases nameless
    | unknownType _ given | unknownTheme _ given | unknownStyle _ given =>
      rw [valueOn?_of_not_counts idle] at given
      cases given
  refine read.concat (valueOn?_of_not_counts idle _) ?_ ?_ nothing
  · exact (Program.report_nil _).symm
  · refine congrArg (Option.map · scan.draft) (funext fun draft => ?_)
    cases reached : draft.state <;> simp [Draft.progress, BlockState.after, reached, noBrace]

/-- One more row. -/
private theorem next (read : scan.HasRead year rows) (row : Text) :
    ((linesFrom (rows.length + 1) [row]).foldl (Scan.read year) scan).HasRead year (rows ++ [row]) := by
  rw [linesFrom]
  split
  · cases starts : startValue? row with
    | some value =>
      have kind := (valueOn?_eq_some_iff isWord_component).mp starts
      have begun : Scan.read year scan ⟨row.trim, rows.length + 1⟩ = scan.begin year value (rows.length + 1) := by
        rw [Scan.read, Line.kind, kind]
        rfl
      rw [linesFrom, List.foldl_cons, begun]
      exact read.begin starts
    | none =>
      have inside : Line.start? ⟨row.trim, rows.length + 1⟩ = none :=
        (start?_eq_startValue? rfl).trans starts
      obtain ⟨program, progress⟩ := read_inside year scan inside
      exact read.concat starts program progress fun finding => read.finding?_eq_some_iff rfl rfl starts finding
  · rename_i idle
    exact read.idle (by simpa using idle)

end Scan.HasRead

/-- All rows. -/
private theorem hasRead_rows (year : Int) (rows : List Text) :
    ((linesFrom 1 rows).foldl (Scan.read year) {}).HasRead year rows := by
  induction rows using List.reverseRecOn with
  | nil => exact ⟨rfl, fun _ => nofun, nofun, fun finding => iff_of_false nofun (by simp), .nil⟩
  | append_singleton rows row ih =>
    rw [linesFrom_append, List.foldl_append, Nat.add_comm]
    exact ih.next row

end Rows

/-- The components have the names that stand on the rows, or stand-ins. -/
theorem map_name_components (year : Int) (source : Text) :
    (Program.ofSource year source).components.map Component.name =
      (source.rows.filterMap startValue?).mapIdx nameAt := by
  rw [← filterMap_start?_linesFrom 1, ← lines, ← map_value_passages, ofSource_eq]
  apply List.ext_getElem?
  intro place
  simp only [List.getElem?_map, List.getElem?_mapIdx, Option.map_map]
  rfl

/-- The findings about a source are exactly those about its rows: about each that starts a component without a
name, which is then named by its place, and about each type, theme and style that means nothing and stands between
the start of a component and the end of its block, with the name of that component. They come in the order of the
rows. -/
theorem findings_exact (year : Int) (source : Text) :
    Reports source.rows (Program.ofSource year source).diagnostics ∧
      (Program.ofSource year source).components.map Component.name =
        (source.rows.filterMap startValue?).mapIdx nameAt :=
  ⟨(hasRead_rows year source.rows).reports, map_name_components year source⟩

end PageSketch
