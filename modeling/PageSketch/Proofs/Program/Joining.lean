import PageSketch.Proofs.Program.Components

/-! Two sources one after the other: when the second one starts with a component, neither takes anything
from the other, and only line numbers move. -/
namespace PageSketch

open Source

def Diagnostic.shift (offset : Nat) : Diagnostic → Diagnostic
  | emptyName assigned line => emptyName assigned (line + offset)
  | unknownType component value line => unknownType component value (line + offset)
  | unknownTheme component value line => unknownTheme component value (line + offset)
  | unknownStyle component value line => unknownStyle component value (line + offset)

variable (offset : Nat)

private theorem finding?_shift (name : String) (line : Line) :
    (line.shift offset).finding? name = (line.finding? name).map (Diagnostic.shift offset) := by
  unfold Line.finding?
  rw [Line.kind_shift]
  split
  · split
    · split <;> rfl
    · split <;> rfl
    · split <;> rfl
    · split <;> rfl
    · rfl
  · rfl

variable (passage : Passage)

private theorem before_shift : (passage.shift offset).before = passage.before.map (Line.shift offset) :=
  List.takeWhile_map

private theorem block_shift : (passage.shift offset).block = passage.block.map (Line.shift offset) := by
  have rest : (passage.shift offset).body.dropWhile (·.text ≠ ['{']) =
      (passage.body.dropWhile (·.text ≠ ['{'])).map (Line.shift offset) := List.dropWhile_map
  rw [Passage.block, rest, ← List.map_drop, List.takeWhile_map]
  rfl

private theorem live_shift : (passage.shift offset).live = passage.live.map (Line.shift offset) := by
  rw [Passage.live, before_shift, block_shift, Passage.live, List.map_cons, List.map_append]
  rfl

private theorem written_shift (place : Nat) : (passage.shift offset).written place = passage.written place := by
  have values (name : String) : (passage.shift offset).values name = passage.values name := by
    rw [Passage.values, live_shift, Source.values, List.filterMap_map]
    rfl
  have settings : settings (passage.shift offset).live = settings passage.live := by
    rw [live_shift, Source.settings, List.filterMap_map]
    rfl
  have description : (passage.shift offset).description = passage.description := by
    rw [Passage.description, block_shift, List.filter_map, List.map_map]
    rfl
  simp only [Passage.written, values, settings, description]
  rfl

private theorem component_shift (year : Int) {passage : Passage} (named : passage.value ≠ [])
    (place other : Nat) :
    (passage.shift offset).component year place = passage.component year other := by
  have same : passage.written place = passage.written other := by
    rw [Passage.written, Passage.name_of_written named, Passage.written,
      Passage.name_of_written named]
  rw [Passage.component, written_shift, same]
  rfl

private theorem findings_shift {passage : Passage} (named : passage.value ≠ []) (place other : Nat) :
    (passage.shift offset).findings place =
      (passage.findings other).map (Diagnostic.shift offset) := by
  have same : (passage.shift offset).name place = passage.name other :=
    (Passage.name_of_written named place).trans (Passage.name_of_written named other).symm
  rw [Passage.findings, same, live_shift, List.filterMap_map, Passage.findings, List.map_filterMap]
  congr 1
  funext line
  exact finding?_shift offset _ line

private theorem mapIdx_moved {Item Result : Type} {items : List Item} {move : Item → Item}
    (give original : Nat → Item → Result) (change : Result → Result)
    (same : ∀ item ∈ items, ∀ place, give place (move item) = change (original place item)) :
    (items.map move).mapIdx give = (items.mapIdx original).map change := by
  apply List.ext_getElem?
  intro place
  rw [List.getElem?_mapIdx, List.getElem?_map, List.getElem?_map, List.getElem?_mapIdx]
  cases found : items[place]? with
  | none => rfl
  | some item => exact congrArg some (same item (List.mem_of_getElem? found) place)

/-- A source after another one, starting with a component and naming all of its own, adds its own
components and findings to those of the other, whatever the other one ends with. -/
theorem ofSource_append (year : Int) (first second : Text)
    (starts : ∀ line ∈ (lines second).head?, line.start? ≠ none)
    (named : ∀ line ∈ lines second, line.start? ≠ some []) :
    Program.ofSource year (first ++ '\n' :: second) =
      { components := (Program.ofSource year first).components ++
          (Program.ofSource year second).components
        diagnostics := (Program.ofSource year first).diagnostics ++
          (Program.ofSource year second).diagnostics.map
            (Diagnostic.shift (first.count '\n' + 1)) } := by
  have starting : ∀ line ∈ ((lines second).map (Line.shift (first.count '\n' + 1))).head?,
      line.start? ≠ none := by
    intro line member
    rw [List.head?_map] at member
    obtain ⟨original, head, same⟩ := Option.map_eq_some_iff.mp member
    subst line
    exact starts original head
  have own : ∀ passage ∈ passages (lines second), passage.value ≠ [] := by
    intro passage member empty
    have present : passage.start ∈ passage.lines := List.mem_cons_self
    exact named passage.start (mem_of_mem_passages member present) (by rw [passage.started, empty])
  have cut : passages (lines (first ++ '\n' :: second)) = passages (lines first) ++
      (passages (lines second)).map (Passage.shift (first.count '\n' + 1)) := by
    rw [lines_append, passages_append starting, passages_shift]
  rw [ofSource_eq, ofSource_eq, ofSource_eq, cut, List.mapIdx_append, List.mapIdx_append,
    List.flatten_append, List.map_flatten]
  congr 2
  · rw [mapIdx_moved _ (fun place passage => passage.component year place) id fun passage member
      place => component_shift _ year (own passage member) _ place, List.map_id]
  · rw [mapIdx_moved _ (fun place passage => passage.findings place) _ fun passage member place =>
      findings_shift _ (own passage member) _ place]

/-- The first source ends in the middle of a block; the second one has a finding of its own. -/
theorem ofSource_append_openBlock :
    (∀ line ∈ (lines "@component Top\n@theme neon".toList).head?, line.start? ≠ none) ∧
    (∀ line ∈ lines "@component Top\n@theme neon".toList, line.start? ≠ some []) ∧
    Program.ofSource 2025
        ("@component Menu\n\x7b\n- Docs".toList ++ '\n' :: "@component Top\n@theme neon".toList) =
      { components := (Program.ofSource 2025 "@component Menu\n\x7b\n- Docs".toList).components ++
          (Program.ofSource 2025 "@component Top\n@theme neon".toList).components
        diagnostics := (Program.ofSource 2025 "@component Menu\n\x7b\n- Docs".toList).diagnostics ++
          (Program.ofSource 2025 "@component Top\n@theme neon".toList).diagnostics.map
            (Diagnostic.shift ("@component Menu\n\x7b\n- Docs".toList.count '\n' + 1)) } := by
  have starts : ∀ line ∈ (lines "@component Top\n@theme neon".toList).head?, line.start? ≠ none := by
    decide +kernel
  have named : ∀ line ∈ lines "@component Top\n@theme neon".toList, line.start? ≠ some [] := by
    decide +kernel
  exact ⟨starts, named, ofSource_append 2025 _ _ starts named⟩

end PageSketch
