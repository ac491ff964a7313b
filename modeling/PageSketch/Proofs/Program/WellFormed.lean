import PageSketch.Proofs.Program.Findings
import PageSketch.Proofs.Program.Stored
import PageSketch.Proofs.Text.Phrase

/-! The components of a source are well formed, whatever the source, and there is one of them for each row
that starts one. -/
namespace PageSketch

open Source

/-- What a component must be like so that it can have come from a source. -/
structure Component.IsWellFormed (component : Component) : Prop where
  name : Text.IsPhrase component.name.toList
  first : component.directives.keys.head? = some "component"
  distinct : component.directives.keys.Nodup
  keys : ∀ key ∈ component.directives.keys, key ≠ "" ∧ ∀ char ∈ key.toList, isNameChar char = true
  values : ∀ entry ∈ component.directives.entries,
    entry.2 = .flag true ∨ ∃ text, entry.2 = .text text ∧ Text.IsPhrase text.toList
  description : component.description = "" ∨ ∀ row ∈ Text.rows component.description.toList,
    Text.IsPhrase row ∧ row.head? ≠ some '@' ∧ ¬ ['/', '/'] <+: row ∧ row ≠ ['}']

variable {text : Text}

private theorem IsBlockText.isPhrase (block : IsBlockText text) : Text.IsPhrase text := by
  refine ⟨?_, block.line.isRow, block.line.isTrimmed⟩
  rintro rfl
  exact absurd block.line.counts (by decide)

private theorem IsBlockText.head?_ne_at (block : IsBlockText text) : text.head? ≠ some '@' := by
  intro starts
  obtain ⟨rest, rfl⟩ := List.head?_eq_some_iff.mp starts
  have plain := block.plain
  rw [classify] at plain
  split at plain <;> simp at plain

private theorem IsBlockText.no_comment (block : IsBlockText text) : ¬ ['/', '/'] <+: text := by
  intro comment
  have counting := block.line.counts
  rw [counts, List.isPrefixOf_iff_prefix.mpr comment] at counting
  simp at counting

private theorem IsWritable.flag_or_phrase {entry : String × DirectiveValue} (writable : IsWritable entry) :
    entry.2 = .flag true ∨ ∃ text, entry.2 = .text text ∧ Text.IsPhrase text.toList := by
  obtain ⟨key, value⟩ := entry
  cases value with
  | flag isSet =>
    left
    exact writable.kept.symm
  | text value =>
    refine .inr ⟨value, rfl, ?_, writable.directive.isRow, writable.directive.isTrimmed⟩
    rw [ne_eq, String.toList_eq_nil_iff]
    exact writable.ne_empty

/-- Every component that can be written as a source is well formed, once its first directive is the one
that started it. -/
theorem Component.IsStored.isWellFormed {year : Int} {component : Component}
    (stored : component.IsStored year)
    (first : component.directives.keys.head? = some "component") : component.IsWellFormed := by
  constructor
  case name =>
    have name := stored.name
    refine ⟨?_, name.directive.isRow, name.directive.isTrimmed⟩
    rw [ne_eq, String.toList_eq_nil_iff]
    exact name.ne_empty
  case first => exact first
  case distinct => exact component.directives.distinct
  case keys =>
    intro key listed
    obtain ⟨entry, member, rfl⟩ := List.mem_map.mp listed
    have directive := (stored.directives entry member).directive
    refine ⟨?_, directive.isWord⟩
    rw [ne_eq, ← String.toList_eq_nil_iff]
    exact directive.isNamed
  case values => exact fun entry member => (stored.directives entry member).flag_or_phrase
  case description =>
    obtain ⟨texts, same, isText⟩ := stored.description
    cases texts with
    | nil => exact .inl same
    | cons text others =>
      right
      rw [same, String.toList_ofList, Text.rows_joined (List.cons_ne_nil _ _),
        Text.flatMap_rows fun text member => (isText text member).line.isRow]
      intro row member
      have block := isText row member
      exact ⟨block.isPhrase, block.head?_ne_at, block.no_comment, block.ne_closing⟩

/-- Each component of a source is well formed. -/
theorem isWellFormed_of_mem {year : Int} {source : Text} {component : Component}
    (member : component ∈ (Program.ofSource year source).components) : component.IsWellFormed := by
  refine (isStored_of_mem member).isWellFormed ?_
  obtain ⟨passage, _, place, rfl⟩ := exists_passage_of_mem member
  have directives : (passage.component year place).directives = .ofList (settings passage.live) := rfl
  rw [directives, settings_live, OrderedMap.head?_keys_ofList]

/-- Each component of a source is well formed, and there is one for each row that starts one, which is
named by the value of that row or, when that is empty, by its place. -/
theorem components_well_formed (year : Int) (source : Text) :
    (∀ component ∈ (Program.ofSource year source).components, component.IsWellFormed) ∧
      (Program.ofSource year source).components.length = (source.rows.filterMap startValue?).length ∧
      (Program.ofSource year source).components.map Component.name =
        (source.rows.filterMap startValue?).mapIdx nameAt := by
  have names := map_name_components year source
  refine ⟨fun _ => isWellFormed_of_mem, ?_, names⟩
  rw [← List.length_map (f := Component.name), names, List.length_mapIdx]

end PageSketch
