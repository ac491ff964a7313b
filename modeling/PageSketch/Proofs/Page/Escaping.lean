import PageSketch.Proofs.Page.Masking
import PageSketch.Proofs.Program.Components
import PageSketch.Proofs.Template.Marks

/-! Where the tags and attributes of a body come from: from its template, and from the choices of select
fields, which are the only text of an author's that is not escaped. -/
namespace PageSketch

open Template

def Component.scope (component : Component) : Scope := ⟨⟨component.bodyData, []⟩, []⟩

private theorem verbatims_form (component : Component) :
    verbatims (stretchesAll (Stock.leaks .form) component.scope) =
      component.fields.flatMap fun field =>
        if field.control = .select then field.choices.map fun choice => Text.kebabCase choice.toList
        else [] := by
  have fields : (Stock.named "fields").eval component.scope =
      .ok (some (.array (component.fields.map Field.view))) := rfl
  rw [Stock.leaks, stretchesAll_singleton]
  apply verbatims_each fields
  intro field loop
  have checkbox : (Stock.named "is_checkbox").eval (component.scope.enter ⟨field.view, loop⟩) =
    .ok (some (.bool (decide (field.control = .checkbox)))) := rfl
  have select : (Stock.named "is_select").eval (component.scope.enter ⟨field.view, loop⟩) =
    .ok (some (.bool (decide (field.control = .select)))) := rfl
  have choices : (Stock.named "options").eval (component.scope.enter ⟨field.view, loop⟩) =
    .ok (some (.array (field.choices.map .text))) := rfl
  have inserted : verbatims ((Node.block "each" [Stock.named "options"]
      [.call true "kebab_case" [.path (.level 0) []]] []).stretches
        (component.scope.enter ⟨field.view, loop⟩)) =
          field.choices.flatMap fun choice => [Text.kebabCase choice.toList] := by
    apply verbatims_each choices
    intro choice _
    have made : insertCall true "kebab_case" [.text choice] =
      .ok (String.ofList (Text.kebabCase choice.toList)).toList := rfl
    rw [String.toList_ofList] at made
    rw [stretchesAll_singleton]
    exact verbatims_call rfl made
  rw [stretchesAll_singleton, stretches_when rfl checkbox, stretchesAll_singleton,
    stretches_when rfl select, stretchesAll_singleton, Option.getD_some, Option.getD_some]
  simp only [Json.isTruthy, beq_true, decide_eq_true_eq]
  by_cases chosen : field.control = .select
  · have other : field.control ≠ .checkbox := by
      rw [chosen]
      decide
    rw [if_neg other, if_pos chosen, if_pos chosen, inserted, List.map_eq_flatMap]
  · rw [if_neg chosen, if_neg chosen]
    split <;> rfl

private theorem verbatims_footer (component : Component) :
    verbatims (stretchesAll (Stock.leaks .footer) component.scope) =
      (component.items.filterMap Item.social?).map fun link => Text.upperFirst link.platform.toList := by
  have socials : (Stock.named "socials").eval component.scope =
      .ok (some (.array ((component.items.filterMap Item.social?).map fun link =>
        .object link.fields))) := rfl
  have inserted : verbatims ((Node.block "each" [Stock.named "socials"]
      [.call true "upper_first" [Stock.named "platform"]] []).stretches component.scope) =
        (component.items.filterMap Item.social?).flatMap fun link =>
          [Text.upperFirst link.platform.toList] := by
    apply verbatims_each socials
    intro link _
    have made : insertCall true "upper_first" [.text link.platform] =
      .ok (String.ofList (Text.upperFirst link.platform.toList)).toList := rfl
    rw [String.toList_ofList] at made
    rw [stretchesAll_singleton]
    exact verbatims_call rfl made
  rw [Stock.leaks, stretchesAll_singleton, stretches_when rfl socials, stretchesAll_singleton]
  split
  · rw [inserted, List.map_eq_flatMap]
  · rename_i untrue
    have none : component.items.filterMap Item.social? = [] := by
      simpa [Json.isTruthy] using untrue
    rw [none]
    rfl

private theorem foreignMarks_testimonial (component : Component) :
    foreignMarks (stretchesAll (Stock.leaks .testimonial) component.scope) = [] := by
  have nothing (scope : Scope) : foreignMarks (stretchesAll [] scope) = [] := rfl
  have stars (scope : Scope) :
      foreignMarks (stretchesAll [.call true "stars" [Stock.named "rating"]] scope) = [] := by
    rw [stretchesAll_singleton]
    simp only [Node.stretches]
    split
    · rename_i values _
      have made : insertCall true "stars" values = .ok
          (String.ofList (List.replicate (Function.filledStars values) '★' ++
            List.replicate (5 - Function.filledStars values) '☆')).toList := rfl
      rw [made, String.toList_ofList]
      simp [foreignMarks, verbatims, Stretch.verbatim?, Except.toOption, Text.marks, Text.isMark]
    · rfl
  rw [Stock.leaks, stretchesAll_singleton]
  refine foreignMarks_block (fun scope => ?_) nothing _ _ _
  rw [stretchesAll_singleton]
  exact foreignMarks_block stars nothing _ _ _

/-- The platforms of a footer are those that are looked for. -/
theorem platform_mem {year : Int} {source : Text} {component : Component}
    (member : component ∈ (Program.ofSource year source).components) (footer : component.kind = .footer)
    {link : SocialLink} (linked : link ∈ component.items.filterMap Item.social?) :
    link.platform ∈ socialPlatforms := by
  let intent := Intent.ofComponent component year
  have items : component.items = (intent.extract .footer).items := by
    rw [items_of_mem member, footer]
  have links : (intent.extract .footer).items.filterMap Item.social? = intent.socialLinks := by
    simp [Intent.extract, Intent.extractFooter, Item.social?, Function.comp_def]
  rw [items, links] at linked
  obtain ⟨platform, found, rfl⟩ := List.mem_map.mp linked
  exact List.mem_of_mem_filter found

/-- Only the choices of select fields may bring tags and attributes of their own into a body. -/
theorem foreignMarks_eq_nil_iff (component : Component)
    (platforms : component.kind = .footer → ∀ link ∈ component.items.filterMap Item.social?,
      (Text.upperFirst link.platform.toList).marks = []) :
    foreignMarks (stretchesAll (Stock.leaks component.kind) component.scope) = [] ↔
      (component.kind = .form → ∀ field ∈ component.fields, field.control = .select →
        ∀ choice ∈ field.choices, Text.marks choice.toList = []) := by
  cases kind : component.kind with
  | form =>
    rw [foreignMarks, verbatims_form, List.flatMap_assoc, List.flatMap_eq_nil_iff]
    refine ⟨fun clean _ field listed select choice given => ?_, fun clean field listed => ?_⟩
    · have none := clean field listed
      rw [if_pos select, List.flatMap_map, List.flatMap_eq_nil_iff] at none
      rw [← Text.marks_kebabCase]
      exact none choice given
    · split
      · rename_i select
        rw [List.flatMap_map, List.flatMap_eq_nil_iff]
        intro choice given
        rw [Text.marks_kebabCase]
        exact clean rfl field listed select choice given
      · rfl
  | footer =>
    refine iff_of_true ?_ (fun form => absurd form (by decide))
    rw [foreignMarks, verbatims_footer, List.flatMap_map, List.flatMap_eq_nil_iff]
    exact platforms kind
  | testimonial =>
    exact iff_of_true (foreignMarks_testimonial component) (fun form => absurd form (by decide))
  | _ => exact iff_of_true rfl (fun form => absurd form (by decide))

/-- The body of a component is drawn, and the body of the changed component is drawn alike. -/
theorem exists_body_alike {change : String → String} (keeps : KeepsEmpty change)
    (component : Component) :
    ∃ lefts rights, component.body = .ok (String.ofList (textOf lefts)) ∧
      (component.mapTexts change).body = .ok (String.ofList (textOf rights)) ∧
      List.Forall₂ Stretch.Alike lefts rights ∧
      foreignMarks lefts = foreignMarks (stretchesAll (Stock.leaks component.kind) component.scope) ∧
      foreignMarks rights = foreignMarks
        (stretchesAll (Stock.leaks component.kind) (component.mapTexts change).scope) := by
  obtain ⟨template, found, isBody⟩ := Stock.exists_body component.kind
  simp only [Stock.isBody, Bool.and_eq_true] at isBody
  obtain ⟨suits, leaks⟩ := isBody
  have filled := fillsAlike_all template suits (Scope.alike_whole (keeps.bodyData component))
  have same (scope : Scope) : foreignMarks (stretchesAll template scope) =
      foreignMarks (stretchesAll (Stock.leaks component.kind) scope) := by
    rw [foreignMarks, ← verbatims_leaksAll, eq_of_nodesAgree _ _ leaks, foreignMarks]
  have left : component.body = .ok _ := Stock.render_eq found filled.left
  have right : (component.mapTexts change).body = .ok _ := Stock.render_eq found filled.right
  exact ⟨_, _, left, right, filled.alike, same component.scope, same (component.mapTexts change).scope⟩

/-- What the platforms that are looked for insert as they are could not open or close a tag. -/
theorem marks_platform : ∀ platform ∈ socialPlatforms,
    Text.marks (Text.upperFirst platform.toList) = [] ∧
      Text.marks (Text.upperFirst (maskText platform).toList) = [] := by
  decide +kernel

/-- A component whose platforms are those that are looked for has a body. When what its author wrote is
masked, the body keeps its tags and attributes just if no choice of a select field opens or closes one. -/
theorem exists_body_masked (component : Component)
    (known : component.kind = .footer → ∀ link ∈ component.items.filterMap Item.social?,
      link.platform ∈ socialPlatforms) :
    ∃ body masked, component.body = .ok body ∧ component.masked.body = .ok masked ∧
      (Text.marks body.toList = Text.marks masked.toList ↔
        (component.kind = .form → ∀ field ∈ component.fields, field.control = .select →
          ∀ choice ∈ field.choices, Text.marks choice.toList = [])) := by
  obtain ⟨lefts, rights, drawn, masked, alike, foreign, foreignMasked⟩ :=
    exists_body_alike keepsEmpty_maskText component
  have clean : foreignMarks rights = [] := by
    rw [foreignMasked]
    refine (foreignMarks_eq_nil_iff component.masked fun footer link linked => ?_).mpr
      fun _ field listed _ choice given => ?_
    · -- masking leaves a platform that is looked for without a mark, though it need not leave it as it is
      rw [Component.masked, Component.mapTexts, filterMap_social_mapTexts] at linked
      obtain ⟨written, original, rfl⟩ := List.mem_map.mp linked
      exact (marks_platform _ (known footer written original)).2
    · obtain ⟨written, _, rfl⟩ := List.mem_map.mp listed
      obtain ⟨text, _, rfl⟩ := List.mem_map.mp given
      exact marks_maskText text
  refine ⟨_, _, drawn, masked, ?_⟩
  rw [String.toList_ofList, String.toList_ofList, (marks_textOf_eq_iff rights).mpr clean,
    ← ownMarks_alike alike, marks_textOf_eq_iff, foreign]
  exact foreignMarks_eq_nil_iff component fun footer link linked =>
    (marks_platform _ (known footer link linked)).1

/-- Every component of every source has a body. All that its author wrote is escaped in it but the choices
of select fields: masking keeps the tags and attributes of the body just if no such choice has a character
that opens or closes one. -/
theorem marks_body_masked_iff {year : Int} {source : Text} {component : Component}
    (member : component ∈ (Program.ofSource year source).components) :
    ∃ body masked, component.body = .ok body ∧ component.masked.body = .ok masked ∧
      (Text.marks body.toList = Text.marks masked.toList ↔
        (component.kind = .form → ∀ field ∈ component.fields, field.control = .select →
          ∀ choice ∈ field.choices, Text.marks choice.toList = [])) :=
  exists_body_masked component fun footer _ linked => platform_mem member footer linked

/-- The tags in a headline stay text. -/
theorem marks_body_masked_headline :
    ∃ component ∈ (Program.ofSource 2025
        "@component Top\n@type hero\n\x7b\nHeadline: \"<b>Hi</b>\"\n\x7d".toList).components,
      ∃ body masked, component.body = .ok body ∧ component.masked.body = .ok masked ∧
        Text.marks body.toList = Text.marks masked.toList := by
  obtain ⟨component, listed, hero⟩ : ∃ component ∈ (Program.ofSource 2025
      "@component Top\n@type hero\n\x7b\nHeadline: \"<b>Hi</b>\"\n\x7d".toList).components,
        component.kind = .hero := by
    decide +kernel
  obtain ⟨body, masked, drawn, drawnMasked, same⟩ := marks_body_masked_iff listed
  refine ⟨component, listed, body, masked, drawn, drawnMasked, same.mpr fun form => ?_⟩
  rw [hero] at form
  cases form

/-- A choice of a select field opens a tag of its own. -/
theorem choice_opens_tag :
    ∃ component ∈ (Program.ofSource 2025
        "@component Order\n@type form\n\x7b\nSelect options: <b>small</b>, large\n\x7d".toList).components,
      ∃ body masked, component.body = .ok body ∧ component.masked.body = .ok masked ∧
        Text.marks body.toList ≠ Text.marks masked.toList := by
  obtain ⟨component, listed, form, field, ofForm, select, given⟩ : ∃ component ∈ (Program.ofSource 2025
      "@component Order\n@type form\n\x7b\nSelect options: <b>small</b>, large\n\x7d".toList).components,
        component.kind = .form ∧ ∃ field ∈ component.fields, field.control = .select ∧
          "<b>small</b>" ∈ field.choices := by
    decide +kernel
  have noFooter : component.kind ≠ .footer := by
    rw [form]
    decide
  obtain ⟨body, masked, drawn, drawnMasked, same⟩ :=
    exists_body_masked component fun footer => absurd footer noFooter
  refine ⟨component, listed, body, masked, drawn, drawnMasked, fun equal => ?_⟩
  have clean := same.mp equal form field ofForm select "<b>small</b>" given
  exact absurd clean (by decide +kernel)

end PageSketch
