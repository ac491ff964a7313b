import Mathlib.Data.List.Forall2
import PageSketch.Proofs.Program.Reading

/-! The program of a source, read off its passages: each gives one component and the findings about its
lines, whatever the passages before it have come to. -/
namespace PageSketch

open Source

namespace Source.Passage

variable (passage : Passage)

/-- The name of the component whose place among all components is given. -/
def name (place : Nat) : String :=
  if passage.value.isEmpty then s!"Component{place + 1}" else String.ofList passage.value

/-- The component as far as it is written in the passage. -/
def written (place : Nat) : Component where
  name := passage.name place
  kind := (lastMeant Kind.ofAlias? (passage.values "type")).getD (Kind.detect passage.description)
  theme := (lastMeant Theme.ofWord? (passage.values "theme")).getD .light
  style := (lastMeant Style.ofWord? (passage.values "style")).getD .vanilla
  description := String.ofList passage.description
  directives := .ofList (settings passage.live)

/-- The component of the passage: what is written, and what that says for its kind. -/
def component (year : Int) (place : Nat) : Component :=
  let written := passage.written place
  written.withExtraction ((Intent.ofComponent written year).extract written.kind)

def findings (place : Nat) : List Diagnostic :=
  passage.live.filterMap (Line.finding? (passage.name place))

end Source.Passage

variable {year : Int}

theorem Source.Passage.name_of_written {passage : Passage} (named : passage.value ≠ []) (place : Nat) :
    passage.name place = String.ofList passage.value := by
  rw [Passage.name, if_neg (by simpa using named)]

/-- A draft for which the lines of a passage count ends as the component of the passage. -/
theorem finish_having (year : Int) (passage : Passage) (place : Nat) (state : BlockState) :
    ((Draft.having (passage.name place) passage.live passage.block state).finish year).component =
      passage.component year place := by
  have kind : (if (lastMeant Kind.ofAlias? (passage.values "type")).isSome then
        (lastMeant Kind.ofAlias? (passage.values "type")).getD .form
      else Kind.detect passage.description) =
        (lastMeant Kind.ofAlias? (passage.values "type")).getD (Kind.detect passage.description) := by
    cases lastMeant Kind.ofAlias? (passage.values "type") <;> rfl
  unfold Draft.finish Passage.component Passage.written
  rw [← kind]
  rfl

/-- The line that starts a component seals the one before it, whatever state that one is in. -/
theorem read_start (passage : Passage) (scan : Scan) {name : String}
    (named : passage.name (scan.sealed year).components.length = name) :
    Scan.read year scan passage.start =
      ⟨(scan.sealed year).report (passage.start.finding? name).toList,
        some (.having name [passage.start] [] .pending)⟩ := by
  obtain ⟨key, same, kind⟩ := Line.kind_of_start passage.started
  have starts : key = "component".toList := by rw [← same, String.toList_ofList]
  have fresh (raw : String) : raw = String.ofList passage.value →
      Draft.start name raw = .having name [passage.start] [] .pending := by
    intro written
    subst written
    simp [Draft.start, Draft.having, values, settings, Line.value?, Line.setting?, kind, same,
      lastMeant]
  rw [Scan.read, kind]
  simp only [starts, if_true]
  unfold Scan.begin
  by_cases empty : passage.value.isEmpty = true
  · have blank : "" = String.ofList passage.value := by
      rw [List.isEmpty_iff.mp empty, String.ofList_nil]
    have finding : passage.start.finding? name = some (.emptyName name passage.start.number) := by
      simp [Line.finding?, kind, same, empty]
    have assigned : name = s!"Component{(scan.sealed year).components.length + 1}" := by
      rw [← named, Passage.name, if_pos empty]
    rw [if_pos empty, finding]
    simp only [← assigned, fresh "" blank]
    rfl
  · have finding : passage.start.finding? name = none := by
      simp [Line.finding?, kind, same, empty]
    have own : String.ofList passage.value = name := by
      rw [← named, Passage.name, if_neg empty]
    rw [if_neg empty, finding, own, fresh name own.symm, Option.toList_none, Program.report_nil]

private theorem read_opening {opening : Line} (opens : opening.text = ['{']) (program : Program)
    (name : String) (live : List Line) :
    Scan.read year ⟨program, some (.having name live [] .pending)⟩ opening =
      ⟨program, some (.having name live [] .opened)⟩ := by
  rw [Scan.read, Line.kind_eq_blockOpen.mpr opens]
  rfl

private theorem read_closing {closing : Line} (closes : closing.text = ['}']) (program : Program)
    (name : String) (live block : List Line) :
    Scan.read year ⟨program, some (.having name live block .opened)⟩ closing =
      ⟨program, some ((Draft.having name live block .opened).finish year)⟩ := by
  rw [Scan.read, Line.kind_eq_blockClose.mpr closes]
  rfl

private theorem findings_eq (passage : Passage) (place : Nat) {name : String}
    (named : passage.name place = name) :
    passage.findings place = (passage.start.finding? name).toList ++
      passage.before.filterMap (Line.finding? name) ++
      passage.block.filterMap (Line.finding? name) := by
  rw [Passage.findings, named, Passage.live, List.filterMap_cons, List.filterMap_append]
  cases passage.start.finding? name <;> simp

/-- Scanning a whole passage leaves a draft that is sealed as the component of the passage, whether its
block has closed or not. -/
theorem foldl_read_passage (passage : Passage) (scan : Scan) {place : Nat}
    (located : (scan.sealed year).components.length = place) :
    ∃ draft, passage.lines.foldl (Scan.read year) scan =
        ⟨(scan.sealed year).report (passage.findings place), some draft⟩ ∧
      draft.sealed year = passage.component year place := by
  have inBefore : ∀ line ∈ passage.before, line.start? = none := fun line member =>
    passage.unbroken line ((List.takeWhile_sublist _).subset member)
  have noOpen : ∀ line ∈ passage.before, line.text ≠ ['{'] := fun _ => Passage.not_brace_of_mem_before
  have noClose : ∀ line ∈ passage.block, line.text ≠ ['}'] := fun _ => Passage.not_brace_of_mem_block
  have finished := finish_having year passage place
  have findings := findings_eq passage place rfl
  rw [Passage.lines, List.foldl_cons, read_start passage scan rfl, located]
  -- Without a closing brace the draft is finished when it is sealed, otherwise at that brace already.
  rcases passage.body_cases with ⟨body, empty⟩ | ⟨opening, opens, body | ⟨closing, after, closes, body⟩⟩
  · refine ⟨.having (passage.name place) passage.live passage.block .pending, ?_, finished .pending⟩
    rw [body, foldl_read_pending inBefore noOpen, ← Program.report_append, findings, Passage.live,
      empty]
    simp
  · refine ⟨.having (passage.name place) passage.live passage.block .opened, ?_, finished .opened⟩
    have inBlock : ∀ line ∈ passage.block, line.start? = none := fun line member =>
      passage.unbroken line (by rw [body]; simp [member])
    rw [body, List.foldl_append, foldl_read_pending inBefore noOpen, List.foldl_cons,
      read_opening opens, foldl_read_opened inBlock noClose, ← Program.report_append,
      ← Program.report_append, findings, Passage.live]
    simp
  · refine ⟨(Draft.having (passage.name place) passage.live passage.block .opened).finish year, ?_,
      finished .opened⟩
    have inBlock : ∀ line ∈ passage.block, line.start? = none := fun line member =>
      passage.unbroken line (by rw [body]; simp [member])
    have inAfter : ∀ line ∈ after, line.start? = none := fun line member =>
      passage.unbroken line (by rw [body]; simp [member])
    rw [body, List.foldl_append, foldl_read_pending inBefore noOpen, List.foldl_cons,
      read_opening opens, List.foldl_append, foldl_read_opened inBlock noClose, List.foldl_cons,
      read_closing closes, foldl_read_closed inAfter rfl, ← Program.report_append,
      ← Program.report_append, findings, Passage.live]
    simp

/-- Scanning passages one after the other: each adds its component and its findings. -/
theorem sealed_foldl_passages (year : Int) (found : List Passage) (scan : Scan) {count : Nat}
    (counted : (scan.sealed year).components.length = count) :
    ((found.flatMap Passage.lines).foldl (Scan.read year) scan).sealed year =
      { components := (scan.sealed year).components ++
          found.mapIdx fun place passage => passage.component year (count + place)
        diagnostics := (scan.sealed year).diagnostics ++
          (found.mapIdx fun place passage => passage.findings (count + place)).flatten } := by
  -- What a passage gives is fixed once its draft is sealed, so the scan goes into the rest only sealed.
  induction found generalizing scan count with
  | nil => simp
  | cons passage rest ih =>
    obtain ⟨draft, scanned, component⟩ := foldl_read_passage passage scan counted
    have result : Scan.sealed ⟨(scan.sealed year).report (passage.findings count), some draft⟩ year =
        ⟨(scan.sealed year).components ++ [passage.component year count],
          (scan.sealed year).diagnostics ++ passage.findings count⟩ := by
      rw [← component]
      rfl
    have grown : (Scan.sealed ⟨(scan.sealed year).report (passage.findings count), some draft⟩
        year).components.length = count + 1 := by
      rw [result, List.length_append, counted]
      rfl
    rw [List.flatMap_cons, List.foldl_append, scanned, ih _ grown, result, List.mapIdx_cons,
      List.mapIdx_cons]
    simp [Nat.add_comm, Nat.add_left_comm]

/-- Before the first component starts, nothing counts. -/
theorem foldl_read_preamble {lines : List Line} (outside : ∀ line ∈ lines, line.start? = none) :
    lines.foldl (Scan.read year) {} = {} := by
  induction lines with
  | nil => rfl
  | cons line rest ih =>
    obtain ⟨first, others⟩ := List.forall_mem_cons.mp outside
    have same : Scan.read year {} line = {} := by
      cases kind : line.kind with
      | directive key value => exact Scan.read_eq_direct kind first {}
      | blockOpen | blockClose | content =>
        rw [Scan.read, kind]
        rfl
      | nameless => rw [Scan.read, kind]
    rw [List.foldl_cons, same, ih others]

theorem ofSource_eq (year : Int) (source : Text) :
    Program.ofSource year source =
      { components := (passages (lines source)).mapIdx fun place passage =>
          passage.component year place
        diagnostics := ((passages (lines source)).mapIdx fun place passage =>
          passage.findings place).flatten } := by
  have outside : ∀ line ∈ (lines source).takeWhile (·.start? = none), line.start? = none :=
    fun _ member => by simpa using List.mem_takeWhile_imp member
  have run := sealed_foldl_passages year (passages (lines source)) {} rfl
  rw [Program.ofSource, ← takeWhile_append_passages (lines source), List.foldl_append,
    foldl_read_preamble outside, run, takeWhile_append_passages]
  simp [Scan.sealed]

/-- A relation that holds between each passage and its component holds all along a source. -/
theorem forall₂_components {relation : Passage → Component → Prop} {year : Int}
    (each : ∀ passage place, relation passage (passage.component year place)) (source : Text) :
    List.Forall₂ relation (passages (lines source)) (Program.ofSource year source).components := by
  have all (found : List Passage) (count : Nat) : List.Forall₂ relation found
      (found.mapIdx fun place passage => passage.component year (count + place)) := by
    induction found generalizing count with
    | nil => exact .nil
    | cons passage rest ih =>
      rw [List.mapIdx_cons]
      refine .cons (each passage count) ?_
      simpa only [Nat.add_comm, Nat.add_left_comm] using ih (count + 1)
  rw [ofSource_eq]
  simpa only [Nat.zero_add] using all (passages (lines source)) 0

/-- Each component of a source is that of a passage. -/
theorem exists_passage_of_mem {year : Int} {source : Text} {component : Component}
    (member : component ∈ (Program.ofSource year source).components) :
    ∃ passage ∈ passages (lines source), ∃ place, component = passage.component year place := by
  rw [ofSource_eq] at member
  obtain ⟨place, inside, rfl⟩ := List.mem_mapIdx.mp member
  exact ⟨_, List.getElem_mem inside, place, rfl⟩

section Extracted

variable {year : Int} {source : Text} {component : Component}
  (member : component ∈ (Program.ofSource year source).components)

include member

theorem items_of_mem :
    component.items = ((Intent.ofComponent component year).extract component.kind).items := by
  obtain ⟨passage, _, place, rfl⟩ := exists_passage_of_mem member
  rfl

theorem option?_of_mem (key : String) :
    component.option? key =
      ((Intent.ofComponent component year).extract component.kind).options.get? key := by
  obtain ⟨passage, _, place, rfl⟩ := exists_passage_of_mem member
  rfl

end Extracted

theorem settings_live (passage : Passage) :
    settings passage.live = ("component", .ofRaw (String.ofList passage.value)) ::
      settings (passage.before ++ passage.block) := by
  obtain ⟨key, same, kind⟩ := Line.kind_of_start passage.started
  simp [settings, Passage.live, Line.setting?, kind, same]

/-- What a passage says about its component: the description is the text of the block, each directive
up to the end of the block makes its entry, and of the words for theme, style and kind the last one that
means anything counts. -/
structure Source.Passage.Describes (passage : Passage) (component : Component) : Prop where
  description : component.description = String.ofList passage.description
  directives : component.directives = .ofList (("component", .ofRaw (String.ofList passage.value)) ::
    settings (passage.before ++ passage.block))
  theme : component.theme = (lastMeant Theme.ofWord? (passage.values "theme")).getD .light
  style : component.style = (lastMeant Style.ofWord? (passage.values "style")).getD .vanilla
  kind : component.kind = (lastMeant Kind.ofAlias? (passage.values "type")).getD
    (Kind.detect component.description.toList)

/-- The components of a source are what its passages say, one for one. -/
theorem passages_describe_components (year : Int) (source : Text) :
    List.Forall₂ Passage.Describes (passages (lines source))
      (Program.ofSource year source).components := by
  apply forall₂_components
  intro passage place
  constructor
  case description => rfl
  case directives => exact congrArg OrderedMap.ofList (settings_live passage)
  case theme => rfl
  case style => rfl
  case kind =>
    have text : (passage.component year place).description.toList = passage.description :=
      String.toList_ofList
    rw [text]
    rfl

end PageSketch
