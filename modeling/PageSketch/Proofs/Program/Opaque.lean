import PageSketch.Proofs.Extraction.Reliance
import PageSketch.Proofs.Page.Reliance
import PageSketch.Proofs.Program.Layout
import PageSketch.Proofs.Program.Reading
import PageSketch.Proofs.Source.Insertion
import PageSketch.Proofs.Source.Row

/-! Directives that no reading looks at: a source with one more of them has the same components, but for
the entry of that directive in one of them. -/
namespace PageSketch

open Source

/-- The directives that the reading of a source looks at. -/
def readDirectives : List String :=
  ["component", "type", "theme", "style"] ++ consultedDirectives

def Draft.without (name : String) (draft : Draft) : Draft :=
  { draft with component := draft.component.without name }

/-- Two programs that are the same but for the entry of one directive in one component. -/
structure Program.AgreeBut (name : String) (left right : Program) : Prop where
  diagnostics : left.diagnostics = right.diagnostics
  components : left.components.map (Component.without name) =
    right.components.map (Component.without name)
  single : ∃ place : Nat, ∀ other, other ≠ place → left.components[other]? = right.components[other]?

/-- Two scans that are the same but for the entry of one directive, in the draft or in one of the complete
components. -/
inductive Scan.AgreeBut (name : String) : Scan → Scan → Prop where
  | draft (program : Program) {left right : Draft} (same : left.without name = right.without name) :
    Scan.AgreeBut name ⟨program, some left⟩ ⟨program, some right⟩
  | program {left right : Program} (agree : left.AgreeBut name right) (draft : Option Draft) :
    Scan.AgreeBut name ⟨left, draft⟩ ⟨right, draft⟩

variable {name : String} {year : Int}

private theorem Program.agreeBut_refl (program : Program) : program.AgreeBut name program :=
  ⟨rfl, rfl, 0, fun _ _ => rfl⟩

private theorem Scan.agreeBut_refl (scan : Scan) : scan.AgreeBut name scan :=
  .program scan.program.agreeBut_refl scan.draft

theorem Program.AgreeBut.length_eq {left right : Program} (agree : left.AgreeBut name right) :
    left.components.length = right.components.length := by
  simpa using congrArg List.length agree.components

theorem Program.AgreeBut.append {left right : Program} (agree : left.AgreeBut name right)
    (components : List Component) (findings : List Diagnostic) :
    Program.AgreeBut name ⟨left.components ++ components, left.diagnostics ++ findings⟩
      ⟨right.components ++ components, right.diagnostics ++ findings⟩ := by
  obtain ⟨place, single⟩ := agree.single
  refine ⟨by rw [agree.diagnostics], by simp [agree.components], place, fun other apart => ?_⟩
  simp only [List.getElem?_append, agree.length_eq, single other apart]

private theorem Program.agreeBut_concat (program : Program) {left right : Component}
    (same : left.without name = right.without name) :
    Program.AgreeBut name { program with components := program.components ++ [left] }
      { program with components := program.components ++ [right] } := by
  refine ⟨rfl, by simp [same], program.components.length, fun other apart => ?_⟩
  rcases Nat.lt_or_ge other program.components.length with early | late
  · rw [List.getElem?_append_left early, List.getElem?_append_left early]
  · have beyond : program.components.length + 1 ≤ other := by omega
    rw [List.getElem?_eq_none (by simpa using beyond), List.getElem?_eq_none (by simpa using beyond)]

private theorem Draft.state_without (name : String) (draft : Draft) : (draft.without name).state = draft.state := rfl

private theorem Draft.direct_without (name : String) (draft : Draft) (key value : Text) (line : Nat) :
    ((draft.without name).direct key value line).1.without name =
        (draft.direct key value line).1.without name ∧
      ((draft.without name).direct key value line).2 = (draft.direct key value line).2 := by
  have set (directives : OrderedMap DirectiveValue) :=
    OrderedMap.without_set directives name (String.ofList key) (.ofRaw (String.ofList value))
  unfold Draft.direct
  split
  · cases Kind.ofAlias? value <;>
      simp [Draft.without, Component.without, Component.setDirective, set]
  · cases Theme.ofWord? value <;>
      simp [Draft.without, Component.without, Component.setDirective, set]
  · cases Style.ofWord? value <;>
      simp [Draft.without, Component.without, Component.setDirective, set]
  · simp [Draft.without, Component.without, Component.setDirective, set]

/-- What is read from the block of a draft does not depend on directives that no extraction looks at. -/
theorem Draft.finish_without (unread : name ∉ consultedDirectives) (draft : Draft) :
    (draft.without name).finish year = (draft.finish year).without name := by
  have extract (described : Component) (kind : Kind) :
      (Intent.ofComponent (described.without name) year).extract kind =
        (Intent.ofComponent described year).extract kind := by
    refine extract_congr (Intent.ofComponent described year) _ (fun key consulted => ?_) kind
    have other : key ≠ name := by
      rintro rfl
      exact unread consulted
    exact OrderedMap.get?_without other described.directives
  have described (component : Component) (description : String) (kind : Kind) :
      { component.without name with description, kind } =
        { component with description, kind }.without name := rfl
  simp only [Draft.finish, Draft.without, described, extract]
  rfl

private theorem Draft.sealed_without (unread : name ∉ consultedDirectives) (draft : Draft) :
    (draft.without name).sealed year = (draft.sealed year).without name := by
  rw [Draft.sealed, Draft.sealed, Draft.finish_without unread, Draft.state_without]
  split <;> rfl

section Step

variable {left right : Scan}

theorem Scan.AgreeBut.sealed (unread : name ∉ consultedDirectives) (agree : left.AgreeBut name right) :
    (left.sealed year).AgreeBut name (right.sealed year) := by
  cases agree with
  | @draft program left right same =>
    refine program.agreeBut_concat ?_
    rw [← Draft.sealed_without unread, same, Draft.sealed_without unread]
  | program agree draft =>
    have more := agree.append (draft.map (·.sealed year)).toList []
    rw [List.append_nil, List.append_nil] at more
    exact more

theorem Scan.AgreeBut.begin (unread : name ∉ consultedDirectives) (agree : left.AgreeBut name right)
    (value : Text) (line : Nat) :
    (left.begin year value line).AgreeBut name (right.begin year value line) := by
  have sealed : (left.sealed year).AgreeBut name (right.sealed year) := agree.sealed unread
  -- Programs that agree are equally long, so a component without a name is named alike.
  rw [Scan.begin, Scan.begin, sealed.length_eq]
  split
  · have more := sealed.append []
      [.emptyName s!"Component{(right.sealed year).components.length + 1}" line]
    rw [List.append_nil, List.append_nil] at more
    exact .program more _
  · exact .program sealed _

theorem Scan.AgreeBut.direct (agree : left.AgreeBut name right) (key value : Text) (line : Nat) :
    (left.direct key value line).AgreeBut name (right.direct key value line) := by
  cases agree with
  | @draft program left right same =>
    have state : left.state = right.state := by
      rw [← left.state_without name, same, right.state_without]
    obtain ⟨kept, findings⟩ := left.direct_without name key value line
    obtain ⟨kept', findings'⟩ := right.direct_without name key value line
    rw [same] at kept findings
    rw [kept'] at kept
    rw [findings'] at findings
    simp only [Scan.direct, state]
    split
    · exact .draft program same
    · rw [findings]
      exact .draft _ kept.symm
  | program agree draft =>
    cases draft with
    | none => exact .program agree none
    | some draft =>
      simp only [Scan.direct]
      split
      · exact .program agree (some draft)
      · have more := agree.append [] (draft.direct key value line).2
        rw [List.append_nil, List.append_nil] at more
        exact .program more _

/-- A change of the draft that leaves the directives alone keeps scans alike. -/
theorem Scan.AgreeBut.mapDraft (agree : left.AgreeBut name right) {change : Draft → Draft}
    (commutes : ∀ draft : Draft, change (draft.without name) = (change draft).without name) :
    (left.mapDraft change).AgreeBut name (right.mapDraft change) := by
  cases agree with
  | draft program same => exact .draft program (by rw [← commutes, same, commutes])
  | program agree draft => exact .program agree (draft.map change)

private theorem Draft.addText_without (draft : Draft) (text : Text) :
    (draft.without name).addText text = (draft.addText text).without name := by
  rw [Draft.addText, Draft.addText, Draft.state_without]
  split <;> rfl

/-- One line: scans that agree still do when they have read it. -/
theorem Scan.AgreeBut.read (unread : name ∉ consultedDirectives) (agree : left.AgreeBut name right)
    (line : Line) : (Scan.read year left line).AgreeBut name (Scan.read year right line) := by
  rw [Scan.read, Scan.read]
  cases line.kind with
  | directive key value =>
    simp only
    split
    · exact agree.begin unread value line.number
    · exact agree.direct key value line.number
  | blockOpen =>
    refine agree.mapDraft fun draft => ?_
    rw [Draft.addText_without, Draft.state_without]
    split <;> rfl
  | blockClose =>
    refine agree.mapDraft fun draft => ?_
    rw [Draft.finish_without unread, Draft.state_without]
    split <;> rfl
  | content => exact agree.mapDraft fun draft => draft.addText_without line.text
  | nameless => exact agree

/-- All lines that come after, one by one. -/
theorem Scan.AgreeBut.foldl_read (unread : name ∉ consultedDirectives)
    (agree : left.AgreeBut name right) (lines : List Line) :
    (lines.foldl (Scan.read year) left).AgreeBut name (lines.foldl (Scan.read year) right) := by
  -- Each line keeps the agreement, whether the scans differ in the draft or in a complete component.
  induction lines generalizing left right with
  | nil => exact agree
  | cons line rest ih => exact ih (agree.read unread line)

end Step

/-- A directive that no reading looks at changes its own entry in the draft, if it changes anything. -/
theorem Scan.agreeBut_of_unread (unread : name ∉ readDirectives) (scan : Scan) {line : Line}
    {key value : Text} (directive : line.kind = .directive key value) (named : String.ofList key = name) :
    (Scan.read year scan line).AgreeBut name scan := by
  have other (word : String) (among : word ∈ readDirectives) : String.ofList key ≠ word := by
    rintro rfl
    exact unread (named ▸ among)
  have noStart : key ≠ "component".toList := by
    rintro rfl
    exact other "component" (by decide) (String.ofList_toList)
  rw [Scan.read, directive]
  simp only [noStart, if_false]
  obtain ⟨program, draft⟩ := scan
  cases draft with
  | none => exact Scan.agreeBut_refl _
  | some draft =>
    have kept : draft.direct key value line.number =
        ({ draft with component := draft.component.setDirective name (String.ofList value) }, []) := by
      unfold Draft.direct
      split
      · rename_i same
        exact absurd same (other "type" (by decide))
      · rename_i same
        exact absurd same (other "theme" (by decide))
      · rename_i same
        exact absurd same (other "style" (by decide))
      · rw [named]
    simp only [Scan.direct, kept, List.append_nil]
    split
    · exact Scan.agreeBut_refl _
    · refine .draft program ?_
      simp only [Draft.without, Component.without, Component.setDirective, OrderedMap.without_set_self]

/-- One more directive among the lines, which no reading looks at. -/
theorem Scan.agreeBut_insert (unread : name ∉ readDirectives) {line : Line} {key value : Text}
    (directive : line.kind = .directive key value) (named : String.ofList key = name)
    (before behind : List Line) :
    (((before ++ line :: behind).foldl (Scan.read year) {}).sealed year).AgreeBut name
      (((before ++ behind).foldl (Scan.read year) {}).sealed year) := by
  have unconsulted : name ∉ consultedDirectives := fun consulted =>
    unread (List.mem_append_right _ consulted)
  rw [List.foldl_append, List.foldl_append, List.foldl_cons]
  have own : (Scan.read year (before.foldl (Scan.read year) {}) line).AgreeBut name
      (before.foldl (Scan.read year) {}) := Scan.agreeBut_of_unread unread _ directive named
  exact (own.foldl_read unconsulted behind).sealed unconsulted

/-- A source with a row put in that holds a directive which no reading looks at describes the same
components, but for the entry of that directive in one of them at most, and has the same findings, at the
new numbers of their lines. Unless a page looks at the directive, all pages are the same. -/
theorem insert_unread_directive (year : Int) (source value : Text) (position : Nat) (name : String)
    (named : name ≠ "") (word : ∀ char ∈ name.toList, isNameChar char = true)
    (unread : name ∉ readDirectives) (isRow : '\n' ∉ value) :
    (Program.ofSource year (insertRow position ('@' :: (name.toList ++ ' ' :: value)) source)).AgreeBut
        name ((Program.ofSource year source).renumber (numberAfter position)) ∧
      (name ∉ drawnDirectives → ∀ credits,
        (Program.ofSource year (insertRow position ('@' :: (name.toList ++ ' ' :: value))
            source)).components.map (Page.ofComponent credits) =
          (Program.ofSource year source).components.map (Page.ofComponent credits)) := by
  have letters : name.toList ≠ [] := by rwa [ne_eq, String.toList_eq_nil_iff]
  have read := classify_trim_row letters word value
  have single : '\n' ∉ '@' :: (name.toList ++ ' ' :: value) := by
    have inName : '\n' ∉ name.toList := fun present => absurd (word _ present) (by decide)
    simp [inName, isRow]
  generalize '@' :: (name.toList ++ ' ' :: value) = row at read single
  obtain ⟨before, number, behind, old, new⟩ := exists_lines_insertRow single position source
  have directive : Line.kind ⟨Text.trim row, number⟩ = .directive name.toList value.trim := read
  have added : linesFrom number [row] = [⟨Text.trim row, number⟩] := by
    obtain ⟨_, rest, at_sign, _⟩ := classify_eq_directive_iff.mp read
    rw [linesFrom, at_sign]
    rfl
  have agree : (Program.ofSource year (insertRow position row source)).AgreeBut name
      ((Program.ofSource year source).renumber (numberAfter position)) := by
    have start : Scan.renumber (numberAfter position) {} = {} := rfl
    -- Both runs start with no numbers and read moved lines, so they differ in the added line only.
    rw [Program.ofSource, Program.ofSource, new, added, ← Scan.sealed_renumber,
      ← Scan.foldl_read_renumber, start, old, List.map_append, List.append_assoc,
      List.singleton_append]
    exact Scan.agreeBut_insert unread directive String.ofList_toList _ _
  refine ⟨agree, fun undrawn credits => ?_⟩
  have drawn (component : Component) :
      Page.ofComponent credits component = Page.ofComponent credits (component.without name) :=
    (ofComponent_without undrawn credits component).symm
  have pages := congrArg (List.map (Page.ofComponent credits)) agree.components
  simp only [List.map_map, Function.comp_def, ← drawn] at pages
  exact pages

/-- A row that names an author moves the finding about the row below it, and changes no page. -/
theorem insert_unread_directive_author :
    "author" ∉ readDirectives ∧ "author" ∉ drawnDirectives ∧
      insertRow 1 "@author me".toList "@component A\n@type x".toList =
        "@component A\n@author me\n@type x".toList ∧
      (Program.ofSource 2025 "@component A\n@author me\n@type x".toList).AgreeBut "author"
        ((Program.ofSource 2025 "@component A\n@type x".toList).renumber (numberAfter 1)) ∧
      (Program.ofSource 2025 "@component A\n@author me\n@type x".toList).components.map
          (Page.ofComponent {}) =
        (Program.ofSource 2025 "@component A\n@type x".toList).components.map (Page.ofComponent {}) := by
  have inserted : insertRow 1 "@author me".toList "@component A\n@type x".toList =
      "@component A\n@author me\n@type x".toList := by decide +kernel
  obtain ⟨agree, pages⟩ := insert_unread_directive 2025 "@component A\n@type x".toList "me".toList 1
    "author" (by decide) (List.all_eq_true.mp (by decide)) (by decide) (by decide)
  have row : '@' :: ("author".toList ++ ' ' :: "me".toList) = "@author me".toList := by decide
  rw [row, inserted] at agree pages
  exact ⟨by decide, by decide, inserted, agree, pages (by decide) {}⟩

end PageSketch
