import PageSketch.Proofs.Extraction.Reliance
import PageSketch.Proofs.Program.Stored

/-! A component written as a source of its own: reading that source gives the component again. -/
namespace PageSketch

open Source

/-- The directives that a source of its own writes in their canonical form. -/
def canonicalDirectives : List String := ["component", "type", "theme", "style"]

namespace Component

/-- The directives in a source of its own: first the name, then those that are kept as they were set,
and last what decides kind, theme and style. -/
def writtenDirectives (component : Component) : List (String × DirectiveValue) :=
  ("component", .text component.name) ::
    (component.directives.entries.filter (·.1 ∉ canonicalDirectives) ++
      [("type", .text component.kind.name), ("theme", .text component.theme.name),
        ("style", .text component.style.name)])

def rowOf (entry : String × DirectiveValue) : Text := directiveRow entry.1.toList entry.2.raw

/-- The component as a source of its own, with its description in a block. -/
def source (component : Component) : Text :=
  Text.joined ['\n'] (component.writtenDirectives.map rowOf ++
    [['{'], component.description.toList, ['}']])

/-- The passage in which a component is written: its lines before the block are the written directives,
and those of the block are the lines of the description. -/
structure IsWrittenIn (component : Component) (passage : Passage) : Prop where
  value : passage.value = component.name.toList
  directives : (passage.start :: passage.before).map Line.text =
    component.writtenDirectives.map rowOf
  description : component.description =
    String.ofList (Text.joined ['\n'] (passage.block.map Line.text))
  isText : ∀ line ∈ passage.block, IsBlockText line.text

end Component

variable {entry : String × DirectiveValue} {entries : List (String × DirectiveValue)} {line : Line}
  {written : List Line}

private theorem Kind.ofAlias?_name (kind : Kind) : Kind.ofAlias? kind.name.toList = some kind := by
  cases kind <;> decide +kernel

private theorem Theme.ofWord?_name (theme : Theme) : Theme.ofWord? theme.name.toList = some theme := by
  cases theme <;> decide +kernel

private theorem Style.ofWord?_name (style : Style) : Style.ofWord? style.name.toList = some style := by
  cases style <;> decide +kernel

private theorem kind_of_row (writable : IsWritable entry) (row : line.text = Component.rowOf entry) :
    line.kind = .directive entry.1.toList entry.2.raw := by
  rw [Line.kind, row]
  exact classify_directiveRow writable.directive

private theorem start?_of_row (writable : IsWritable entry) (other : entry.1 ≠ "component")
    (row : line.text = Component.rowOf entry) : line.start? = none := by
  simp only [Line.start?, Line.value?, kind_of_row writable row, String.ofList_toList, other,
    if_false]

private theorem exists_entry_of_rows (rows : written.map Line.text = entries.map Component.rowOf)
    (member : line ∈ written) : ∃ entry ∈ entries, line.text = Component.rowOf entry := by
  have row : line.text ∈ written.map Line.text := List.mem_map_of_mem member
  rw [rows] at row
  obtain ⟨entry, present, same⟩ := List.mem_map.mp row
  exact ⟨entry, present, same.symm⟩

private theorem filterMap_of_rows {Value : Type} {read : Line → Option Value}
    {found : String × DirectiveValue → Option Value}
    (each : ∀ line : Line, ∀ entry ∈ entries,
      line.text = Component.rowOf entry → read line = found entry)
    (rows : written.map Line.text = entries.map Component.rowOf) :
    written.filterMap read = entries.filterMap found := by
  induction entries generalizing written with
  | nil => rw [List.map_eq_nil_iff.mp rows, List.filterMap_nil, List.filterMap_nil]
  | cons entry rest ih =>
    obtain ⟨line, lines, rfl, own, later⟩ := List.map_eq_cons_iff.mp rows
    have others := ih (fun line entry member => each line entry (List.mem_cons_of_mem _ member)) later
    rw [List.filterMap_cons, List.filterMap_cons, each line entry List.mem_cons_self own, others]

private theorem settings_of_rows (writable : ∀ entry ∈ entries, IsWritable entry)
    (rows : written.map Line.text = entries.map Component.rowOf) : settings written = entries := by
  have each : ∀ line : Line, ∀ entry ∈ entries,
      line.text = Component.rowOf entry → line.setting? = some entry := by
    intro line entry member row
    simp only [Line.setting?, kind_of_row (writable entry member) row, String.ofList_toList,
      (writable entry member).kept]
  rw [settings, filterMap_of_rows each rows, List.filterMap_some]

private theorem values_of_rows (writable : ∀ entry ∈ entries, IsWritable entry)
    (rows : written.map Line.text = entries.map Component.rowOf) (name : String) :
    values name written = (entries.filter (·.1 = name)).map (·.2.raw) := by
  have each : ∀ line : Line, ∀ entry ∈ entries, line.text = Component.rowOf entry →
      line.value? name = if decide (entry.1 = name) = true then some entry.2.raw else none := by
    intro line entry member row
    simp only [Line.value?, kind_of_row (writable entry member) row, String.ofList_toList,
      decide_eq_true_eq]
  rw [values, filterMap_of_rows each rows, ← List.filterMap_eq_map, List.filterMap_filter]
  rfl

private theorem noDirective_of_isBlockText (block : IsBlockText line.text) (key value : Text) :
    line.kind ≠ .directive key value := by
  intro directive
  rcases block.plain with content | opening
  · rw [Line.kind, content] at directive
    cases directive
  · rw [Line.kind, opening] at directive
    cases directive

private theorem isText_of_isBlockText (block : IsBlockText line.text) : line.isText = true := by
  unfold Line.isText
  rcases block.plain with content | opening
  · rw [Line.kind, content]
  · rw [Line.kind, opening]

namespace Component

variable {year : Int} {component : Component}

private theorem mem_kept (member : entry ∈ component.directives.entries.filter (·.1 ∉ canonicalDirectives)) :
    entry ∈ component.directives.entries ∧ entry.1 ∉ canonicalDirectives := by
  obtain ⟨stored, other⟩ := List.mem_filter.mp member
  exact ⟨stored, by simpa using other⟩

private theorem isWritable_canonical (component : Component) :
    ∀ entry ∈ [("type", DirectiveValue.text component.kind.name),
      ("theme", .text component.theme.name), ("style", .text component.style.name)],
      IsWritable entry := by
  have kind : component.kind.name ≠ "" ∧
      component.kind.name.toList.all isNameChar = true := by
    cases component.kind <;> decide
  have theme : component.theme.name ≠ "" ∧
      component.theme.name.toList.all isNameChar = true := by
    cases component.theme <;> decide
  have style : component.style.name ≠ "" ∧
      component.style.name.toList.all isNameChar = true := by
    cases component.style <;> decide
  simp only [List.forall_mem_cons]
  exact ⟨isWritable_word (by simp) (by decide) kind.1 kind.2,
    isWritable_word (by simp) (by decide) theme.1 theme.2,
    isWritable_word (by simp) (by decide) style.1 style.2, fun _ absent => absurd absent List.not_mem_nil⟩

theorem IsStored.writable (stored : component.IsStored year) :
    ∀ entry ∈ component.writtenDirectives, IsWritable entry := by
  intro entry member
  rcases List.mem_cons.mp member with rfl | later
  · exact stored.name
  · rcases List.mem_append.mp later with kept | last
    · exact stored.directives entry (mem_kept kept).1
    · exact isWritable_canonical component entry last

private theorem nodup_writtenDirectives (component : Component) :
    (component.writtenDirectives.map Prod.fst).Nodup := by
  have kept : ((component.directives.entries.filter (·.1 ∉ canonicalDirectives)).map
      Prod.fst).Nodup := component.directives.distinct.sublist (List.filter_sublist.map Prod.fst)
  have other : ∀ name ∈ (component.directives.entries.filter (·.1 ∉ canonicalDirectives)).map
      Prod.fst, name ∉ canonicalDirectives := by
    intro name member
    obtain ⟨entry, stored, rfl⟩ := List.mem_map.mp member
    exact (mem_kept stored).2
  rw [writtenDirectives, List.map_cons, List.map_append, List.nodup_cons, List.nodup_append]
  refine ⟨?_, kept, by simp, ?_⟩
  · intro twice
    rcases List.mem_append.mp twice with again | last
    · exact other "component" again (by decide)
    · simp at last
  · intro name first again last same
    subst same
    exact other name first (List.mem_cons_of_mem _ last)

private theorem get?_writtenDirectives (component : Component) {name : String}
    (other : name ∉ canonicalDirectives) :
    (OrderedMap.ofList component.writtenDirectives).get? name = component.directives.get? name := by
  have notLast : [("type", DirectiveValue.text component.kind.name),
      ("theme", .text component.theme.name), ("style", .text component.style.name)].lookup name =
        none := by
    simp only [canonicalDirectives, List.mem_cons, not_or] at other
    simp only [OrderedMap.lookup_cons_eq_ite, other, if_false, List.lookup_nil]
  have notFirst : name ≠ "component" := fun same => other (same ▸ List.mem_cons_self)
  have kept := OrderedMap.lookup_filter (fun key => decide (key ∉ canonicalDirectives))
    (decide_eq_true other) component.directives.entries
  rw [OrderedMap.get?, OrderedMap.entries_ofList component.nodup_writtenDirectives,
    writtenDirectives, OrderedMap.lookup_cons_eq_ite, if_neg notFirst, List.lookup_append, kept,
    notLast, Option.or_none, OrderedMap.get?]

/-- Each directive that is written in its canonical form is written once. -/
theorem filter_writtenDirectives (component : Component) :
    component.writtenDirectives.filter (·.1 = "component") =
      [("component", .text component.name)] ∧
    component.writtenDirectives.filter (·.1 = "type") = [("type", .text component.kind.name)] ∧
    component.writtenDirectives.filter (·.1 = "theme") = [("theme", .text component.theme.name)] ∧
    component.writtenDirectives.filter (·.1 = "style") =
      [("style", .text component.style.name)] := by
  have none {name : String} (canonical : name ∈ canonicalDirectives) :
      (component.directives.entries.filter (·.1 ∉ canonicalDirectives)).filter (·.1 = name) =
        [] := by
    rw [List.filter_eq_nil_iff]
    intro entry member same
    exact (mem_kept member).2 (by simpa [of_decide_eq_true same] using canonical)
  simp only [writtenDirectives, List.filter_cons, List.filter_append]
  rw [none (by decide), none (by decide), none (by decide), none (by decide)]
  simp

private theorem finding?_of_row (stored : component.IsStored year)
    (member : entry ∈ component.writtenDirectives) (row : line.text = rowOf entry) (name : String) :
    line.finding? name = none := by
  obtain ⟨named, type, theme, style⟩ := component.filter_writtenDirectives
  have only {word : String} {value : DirectiveValue} (same : entry.1 = word)
      (once : component.writtenDirectives.filter (·.1 = word) = [(word, value)]) :
      entry = (word, value) := by
    have found : entry ∈ component.writtenDirectives.filter (·.1 = word) :=
      List.mem_filter.mpr ⟨member, decide_eq_true same⟩
    rwa [once, List.mem_singleton] at found
  simp only [Line.finding?, kind_of_row (stored.writable entry member) row, String.ofList_toList]
  split
  · rename_i same
    rw [only same named]
    exact if_neg fun empty => stored.name.ne_empty (by simpa [DirectiveValue.raw] using empty)
  · rename_i same
    rw [only same type, DirectiveValue.raw, Kind.ofAlias?_name]
    rfl
  · rename_i same
    rw [only same theme, DirectiveValue.raw, Theme.ofWord?_name]
    rfl
  · rename_i same
    rw [only same style, DirectiveValue.raw, Style.ofWord?_name]
    rfl
  · rfl

/-- The lines of a source of its own: the written directives, and a block with the description. -/
theorem map_text_lines_source (stored : component.IsStored year) {texts : List Text}
    (description : component.description = String.ofList (Text.joined ['\n'] texts))
    (isText : ∀ text ∈ texts, IsBlockText text) :
    (lines component.source).map Line.text =
      component.writtenDirectives.map rowOf ++ ['{'] :: (texts ++ [['}']]) := by
  have directives : ∀ row ∈ component.writtenDirectives.map rowOf, IsLineText row := by
    intro row member
    obtain ⟨entry, written, rfl⟩ := List.mem_map.mp member
    exact isLineText_directiveRow (stored.writable entry written).directive
  have block : ((Text.rows component.description.toList).map Text.trim).filter counts = texts := by
    rw [description, String.toList_ofList]
    cases texts with
    | nil => rfl
    | cons first rest =>
      rw [Text.rows_joined (List.cons_ne_nil _ _),
        Text.flatMap_rows fun text member => (isText text member).line.isRow]
      exact filter_map_trim_eq_self fun text member => (isText text member).line
  rw [lines, map_text_linesFrom, source, Text.rows_joined (by simp), List.flatMap_append,
    Text.flatMap_rows fun row member => (directives row member).isRow, List.map_append,
    List.filter_append, filter_map_trim_eq_self directives]
  simp only [List.flatMap_cons, List.map_append, List.filter_append, block]
  rfl

/-- A source of its own is one passage, in which the component is written. -/
theorem exists_passage_source (stored : component.IsStored year) :
    ∃ passage, passages (lines component.source) = [passage] ∧ component.IsWrittenIn passage := by
  obtain ⟨texts, description, isText⟩ := stored.description
  -- The texts of the lines are known, so the lines are cut where these texts are.
  have lines := map_text_lines_source stored description isText
  obtain ⟨written, inner, same, directives, rest⟩ := List.map_eq_append_iff.mp lines
  obtain ⟨opening, body, rfl, opens, later⟩ := List.map_eq_cons_iff.mp rest
  obtain ⟨block, last, rfl, content, closed⟩ := List.map_eq_append_iff.mp later
  obtain ⟨closing, none, rfl, closes, ended⟩ := List.map_eq_cons_iff.mp closed
  obtain rfl := List.map_eq_nil_iff.mp ended
  obtain ⟨start, before, rfl, named, rows⟩ := List.map_eq_cons_iff.mp directives
  obtain ⟨name, others⟩ := List.forall_mem_cons.mp stored.writable
  have kind := kind_of_row name named
  have started : start.start? = some component.name.toList := by
    simp [Line.start?, Line.value?, kind, DirectiveValue.raw]
  have once := (List.nodup_cons.mp component.nodup_writtenDirectives).1
  have inBlock : ∀ line ∈ block, IsBlockText line.text := fun line member =>
    isText line.text (content ▸ List.mem_map_of_mem member)
  have unstarted : ∀ line ∈ before ++ block, line.start? = none := by
    intro line member
    rcases List.mem_append.mp member with early | later
    · obtain ⟨entry, written, row⟩ := exists_entry_of_rows rows early
      exact start?_of_row (others entry written)
        (fun named => once (List.mem_map.mpr ⟨entry, written, named⟩)) row
    · exact value?_eq_none (noDirective_of_isBlockText (inBlock line later)) "component"
  have noOpen : ∀ line ∈ before, line.text ≠ ['{'] := by
    intro line member
    obtain ⟨entry, _, row⟩ := exists_entry_of_rows rows member
    simp [row, rowOf, directiveRow]
  obtain ⟨passage, cut, starts, value, early, inner⟩ := exists_passage_of_block started unstarted
    noOpen opens (fun line member => (inBlock line member).ne_closing) closes
  refine ⟨passage, by rw [same]; exact cut, value, ?_, ?_, ?_⟩
  · rw [starts, early, directives]
  · rw [inner, content, description]
  · rwa [inner]

namespace IsWrittenIn

variable {passage : Passage}

private theorem live_eq (passage : Passage) :
    passage.live = (passage.start :: passage.before) ++ passage.block := rfl

private theorem noDirective (written : component.IsWrittenIn passage) :
    ∀ line ∈ passage.block, ∀ key value, line.kind ≠ .directive key value :=
  fun line member => noDirective_of_isBlockText (written.isText line member)

private theorem values_eq (stored : component.IsStored year) (written : component.IsWrittenIn passage)
    (name : String) : passage.values name =
      (component.writtenDirectives.filter (·.1 = name)).map (·.2.raw) := by
  have inBlock : Source.values name passage.block = [] :=
    List.filterMap_eq_nil_iff.mpr fun line member =>
      value?_eq_none (written.noDirective line member) name
  have before := values_of_rows stored.writable written.directives name
  rw [Source.values] at inBlock before
  rw [Passage.values, live_eq, Source.values, List.filterMap_append, inBlock, before,
    List.append_nil]

private theorem settings_eq (stored : component.IsStored year) (written : component.IsWrittenIn passage) :
    Source.settings passage.live = component.writtenDirectives := by
  have inBlock : Source.settings passage.block = [] :=
    List.filterMap_eq_nil_iff.mpr fun line member =>
      setting?_eq_none (written.noDirective line member)
  have before := settings_of_rows stored.writable written.directives
  rw [Source.settings] at inBlock before
  rw [live_eq, Source.settings, List.filterMap_append, inBlock, before, List.append_nil]

private theorem description_eq (written : component.IsWrittenIn passage) :
    String.ofList passage.description = component.description := by
  have all : passage.block.filter Line.isText = passage.block :=
    List.filter_eq_self.mpr fun line member => isText_of_isBlockText (written.isText line member)
  rw [Passage.description, all, written.description]

private theorem name_eq (stored : component.IsStored year) (written : component.IsWrittenIn passage)
    (place : Nat) : passage.name place = component.name := by
  have nonempty : passage.value ≠ [] := by
    rw [written.value, ne_eq, String.toList_eq_nil_iff]
    exact stored.name.ne_empty
  rw [Passage.name_of_written nonempty, written.value, String.ofList_toList]

private theorem findings_eq_nil (stored : component.IsStored year)
    (written : component.IsWrittenIn passage) (place : Nat) : passage.findings place = [] := by
  rw [Passage.findings, List.filterMap_eq_nil_iff]
  intro line counting
  rw [live_eq] at counting
  rcases List.mem_append.mp counting with before | inBlock
  · obtain ⟨entry, member, row⟩ := exists_entry_of_rows written.directives before
    exact finding?_of_row stored member row _
  · exact finding?_eq_none (written.noDirective line inBlock) _

/-- What is written in the passage is the component before anything is read from its description. -/
theorem written_eq (stored : component.IsStored year) (written : component.IsWrittenIn passage)
    (place : Nat) :
    passage.written place =
      { component with
        directives := .ofList component.writtenDirectives
        fields := []
        items := []
        options := ∅ } := by
  obtain ⟨_, type, theme, style⟩ := component.filter_writtenDirectives
  rw [Passage.written, written.name_eq stored, written.values_eq stored, written.values_eq stored,
    written.values_eq stored, type, theme, style, written.settings_eq stored, written.description_eq]
  simp [lastMeant, DirectiveValue.raw, Kind.ofAlias?_name, Theme.ofWord?_name, Style.ofWord?_name]

/-- What the passage says of its component is what the component says. -/
theorem component_eq (stored : component.IsStored year) (written : component.IsWrittenIn passage)
    (place : Nat) :
    passage.component year place =
      { component with directives := .ofList component.writtenDirectives } := by
  have consulted : ∀ name ∈ consultedDirectives,
      (OrderedMap.ofList component.writtenDirectives).get? name =
        (Intent.ofComponent component year).directives.get? name := by
    intro name member
    exact component.get?_writtenDirectives (by revert name; decide)
  -- Only directives that the reading of a description does not look at have other values.
  have extraction := extract_congr (Intent.ofComponent component year)
    (.ofList component.writtenDirectives) consulted component.kind
  calc passage.component year place
      = { component with directives := .ofList component.writtenDirectives }.withExtraction
          ({ Intent.ofComponent component year with
            directives := .ofList component.writtenDirectives }.extract component.kind) := by
        rw [Passage.component, written.written_eq stored]
        rfl
    _ = { component.withExtraction ((Intent.ofComponent component year).extract component.kind) with
          directives := .ofList component.writtenDirectives } := by
        rw [extraction]
        rfl
    _ = { component with directives := .ofList component.writtenDirectives } := by
        rw [← stored.extraction]

end IsWrittenIn

end Component

/-- A component of a source, written as a source of its own, is read as that component again and
without findings; only the directives that are written in their canonical form may have other values. -/
theorem ofSource_source {year : Int} {source : Text} {component : Component}
    (member : component ∈ (Program.ofSource year source).components) :
    Program.ofSource year component.source =
        { components := [{ component with directives := .ofList component.writtenDirectives }]
          diagnostics := [] } ∧
      ∀ name ∉ canonicalDirectives,
        (OrderedMap.ofList component.writtenDirectives).get? name =
          component.directives.get? name := by
  refine ⟨?_, fun name other => component.get?_writtenDirectives other⟩
  have stored := isStored_of_mem member
  obtain ⟨passage, cut, written⟩ := Component.exists_passage_source stored
  rw [ofSource_eq, cut, List.mapIdx_singleton, List.mapIdx_singleton, written.component_eq stored,
    written.findings_eq_nil stored, List.flatten_singleton]

/-- The component has no name and its kind is no kind; a brace is text of its block, which is not
closed. -/
theorem ofSource_source_menu :
    ∃ component ∈ (Program.ofSource 2024
        "@component\n@type widget\n@sticky\n\x7b\n\x7b\n@theme Dark\nA menu of:\n- Docs".toList).components,
      component.source = ("@component Component1\n@sticky\n@type navigation\n@theme dark\n" ++
        "@style vanilla\n\x7b\n\x7b\nA menu of:\n- Docs\n\x7d").toList ∧
      Program.ofSource 2024 component.source =
        { components := [{ component with directives := .ofList component.writtenDirectives }]
          diagnostics := [] } := by
  have written : ("@component Component1\n@sticky\n@type navigation\n@theme dark\n" ++
      "@style vanilla\n\x7b\n\x7b\nA menu of:\n- Docs\n\x7d").toList ∈
      (Program.ofSource 2024
        "@component\n@type widget\n@sticky\n\x7b\n\x7b\n@theme Dark\nA menu of:\n- Docs".toList
        ).components.map Component.source := by
    decide +kernel
  obtain ⟨component, member, same⟩ := List.mem_map.mp written
  exact ⟨component, member, same, (ofSource_source member).1⟩

end PageSketch
