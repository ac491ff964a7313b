import PageSketch.Proofs.Program.Components

/-! What becomes of a component whose last theme, style or type means nothing. The finding about it
announces a default, but an earlier directive that means something stays in force. -/
namespace PageSketch

open Source

variable {Value : Type} {read : Text → Option Value} {words : List Text}

/-- The last of the words means nothing. -/
def EndsUnknown (read : Text → Option Value) (words : List Text) : Prop :=
  ∃ word, words.getLast? = some word ∧ read word = none

private theorem lastMeant_of_endsUnknown (unknown : EndsUnknown read words) :
    lastMeant read words = lastMeant read words.dropLast := by
  obtain ⟨word, last, nothing⟩ := unknown
  obtain ⟨earlier, same⟩ := List.getLast?_eq_some_iff.mp last
  rw [same, List.dropLast_concat, lastMeant_concat, nothing]
  rfl

/-- The default applies just when nothing else was meant before. -/
theorem getD_lastMeant_iff (unknown : EndsUnknown read words) (default : Value) :
    (lastMeant read words).getD default = default ↔
      ∀ value ∈ lastMeant read words.dropLast, value = default := by
  rw [lastMeant_of_endsUnknown unknown]
  cases lastMeant read words.dropLast <;> simp

/-- When the last theme, style or type of a component means nothing, the default that the finding about
it announces applies exactly if the directives before it have not come to something else. -/
theorem fallback_applied_iff (year : Int) (source : Text) :
    List.Forall₂ (fun passage component =>
        (EndsUnknown Theme.ofWord? (passage.values "theme") →
          (component.theme = .light ↔
            ∀ theme ∈ lastMeant Theme.ofWord? (passage.values "theme").dropLast, theme = .light)) ∧
        (EndsUnknown Style.ofWord? (passage.values "style") →
          (component.style = .vanilla ↔
            ∀ style ∈ lastMeant Style.ofWord? (passage.values "style").dropLast,
              style = .vanilla)) ∧
        (EndsUnknown Kind.ofAlias? (passage.values "type") →
          (component.kind = Kind.detect component.description.toList ↔
            ∀ kind ∈ lastMeant Kind.ofAlias? (passage.values "type").dropLast,
              kind = Kind.detect component.description.toList)))
      (passages (lines source)) (Program.ofSource year source).components := by
  apply forall₂_components
  intro passage place
  refine ⟨?_, ?_, ?_⟩
  · intro unknown
    exact getD_lastMeant_iff unknown .light
  · intro unknown
    exact getD_lastMeant_iff unknown .vanilla
  · intro unknown
    have text : (passage.component year place).description.toList = passage.description :=
      String.toList_ofList
    rw [text]
    exact getD_lastMeant_iff unknown (Kind.detect passage.description)

/-- A finding announces the light theme for a component that keeps the dark one. -/
theorem dark_kept_light_announced :
    ((passages (lines "@component A\n@theme dark\n@theme neon".toList)).map fun passage =>
      passage.values "theme") = [["dark".toList, "neon".toList]] ∧
    Theme.ofWord? "neon".toList = none ∧
    (Program.ofSource 2025 "@component A\n@theme dark\n@theme neon".toList).diagnostics.map
      Diagnostic.message = ["line 3: unknown @theme 'neon' on A, using light"] ∧
    (Program.ofSource 2025 "@component A\n@theme dark\n@theme neon".toList).components.map
      Component.theme = [.dark] := by
  refine ⟨?_, ?_, ?_, ?_⟩
  · decide +kernel
  · decide +kernel
  · decide +kernel
  · decide +kernel

end PageSketch
