import PageSketch.Proofs.Page.Masking

/-! The stock templates are filled with whatever a component holds: with options that are missing or of
another form, with items that are not of its kind, and with the template of another kind. -/
namespace PageSketch

open Template

namespace Stock

/-- A stock template that suits the shape of some data is filled with them. -/
theorem exists_render {name : String} {template : Template} {shape : Shape} {data twin : Json}
    (found : registry.templates.get? name = some template) (suits : suitsAll [shape] template)
    (alike : shape.Alike data twin) : ∃ text, registry.render name data = .ok text := by
  have filled := (fillsAlike_all template suits (Scope.alike_whole alike)).left
  exact ⟨_, render_eq found filled⟩

/-- The template of a page uses its data as their shape allows, the header included. -/
theorem suitsAll_of_isPage {template : Template} (page : isPage template) :
    suitsAll [pageShape] template := by
  unfold isPage at page
  split at page
  · rename_i position header start nodes
    simp only [Bool.and_eq_true] at page
    obtain ⟨⟨⟨named, _⟩, suit⟩, _⟩ := page
    obtain rfl := header.eq_of_agrees _ named
    have top : (Node.placed position (.value false (Stock.named "header"))).suits [pageShape] = true := rfl
    rw [suitsAll, suitsAll, top, suit]
    rfl
  · cases page

/-- The template of each kind of body is filled with the data of each component. -/
theorem exists_render_body (kind : Kind) (component : Component) :
    ∃ text, registry.render (bodyName kind) component.bodyData = .ok text := by
  obtain ⟨template, found, isBody⟩ := exists_body kind
  simp only [Stock.isBody, Bool.and_eq_true] at isBody
  exact exists_render found isBody.1 (keepsEmpty_maskText.bodyData component)

/-- The template of a page is filled with the data of each component, around whatever stands for its
body. -/
theorem exists_render_page (component : Component) (credits : Credits) (body : String) :
    ∃ text, registry.render pageName (component.pageData credits body) = .ok text := by
  obtain ⟨template, found, isPage⟩ := exists_page
  have alike : pageShape.Alike (component.pageData credits body) (component.pageData credits body) :=
    ⟨_, _, rfl, rfl, List.forall₂_same.mpr fun _ _ => ⟨rfl, .same _⟩⟩
  exact exists_render found (suitsAll_of_isPage isPage) alike

end Stock

end PageSketch
