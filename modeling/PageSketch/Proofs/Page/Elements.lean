import PageSketch.Proofs.Page.Escaping
import PageSketch.Proofs.Template.Elements

/-! The body of a component read as markup: it has the elements of the template of its kind. -/
namespace PageSketch

open Template Markup

def Stock.outline? (kind : Kind) : Option (List (Outline Snippet)) :=
  (parse? (body kind).toList).bind outlined?

/-- The body of a component is read as the outline of the template of its kind, with all that is known of it. -/
theorem Component.exists_outline {component : Component} {body : String} (drawn : component.body = .ok body)
    {kind : Kind} (same : component.kind = kind) {known : List (Outline Snippet) → Bool}
    (checked : (Stock.outline? kind).any known) :
    ∃ outline, known outline ∧ tokens body.toList = tokensAll outline component.scope := by
  obtain ⟨outline, outlined, holds⟩ := (Option.any_eq_true _ _).mp checked
  obtain ⟨template, parsed, found⟩ := Option.bind_eq_some_iff.mp outlined
  have isBody := Stock.parse?_body kind
  rw [parsed, Option.any_some, Stock.isBody, Bool.and_eq_true] at isBody
  rw [← same] at parsed
  have alike := Scope.alike_whole (keepsEmpty_maskText.bodyData component)
  have filling : component.body = .ok (String.ofList (filled template component.scope)) :=
    Stock.render_eq (Stock.get?_body parsed) (fillsAlike_all template isBody.1 alike).left
  obtain rfl := Except.ok.inj (drawn.symm.trans filling)
  refine ⟨outline, holds, ?_⟩
  rw [String.toList_ofList, tokens_filled found]

theorem Component.eval_option (component : Component) (key : String) :
    (Expr.path (.level 0) ["options", key]).eval component.scope =
      .ok ((component.option? key).map OptionValue.toJson) := by
  have found : (Expr.path (.level 0) ["options", key]).eval component.scope =
      .ok ((component.options.entries.map (Prod.map id OptionValue.toJson)).lookup key) := rfl
  rw [found, lookup_map]
  rfl

theorem Component.eval_items {component : Component} {Value : Type} {encode : Value → Item}
    {values : List Value} (items : component.items = values.map encode) :
    (Stock.named "items").eval component.scope =
      .ok (some (.array (values.map fun value => (encode value).toJson))) := by
  have found : (Stock.named "items").eval component.scope =
      .ok (some (.array (component.items.map Item.toJson))) := rfl
  rw [found, items, List.map_map]
  rfl

end PageSketch
