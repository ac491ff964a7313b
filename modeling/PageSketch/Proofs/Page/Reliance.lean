import PageSketch.Page.Basic
import PageSketch.Proofs.Component.Entries

/-! A page relies on no other directives than those for its accent colour, its language and its rules for
narrow screens. -/
namespace PageSketch

def drawnDirectives : List String := ["accent", "responsive", "language"]

def Component.without (name : String) (component : Component) : Component :=
  { component with directives := component.directives.without name }

/-- A component is drawn as if it had not the directives that no page looks at. -/
theorem ofComponent_without {name : String} (undrawn : name ∉ drawnDirectives) (credits : Credits)
    (component : Component) :
    Page.ofComponent credits (component.without name) = Page.ofComponent credits component := by
  have same (key : String) (drawn : key ∈ drawnDirectives) :
      (component.without name).directives.get? key = component.directives.get? key := by
    have other : key ≠ name := by
      rintro rfl
      exact undrawn drawn
    exact OrderedMap.get?_without other component.directives
  have accent : (component.without name).accent = component.accent := by
    rw [Component.accent, Component.accent, Component.directiveText?, same "accent" (by decide)]
    rfl
  have responsive : (component.without name).isResponsive = component.isResponsive := by
    rw [Component.isResponsive, Component.isResponsive, same "responsive" (by decide)]
  have language : (component.without name).language = component.language := by
    rw [Component.language, Component.language, Component.directiveText?, same "language" (by decide)]
    rfl
  have markup : (component.without name).markup credits = component.markup credits := by
    have body : (component.without name).body = component.body := rfl
    have data (text : String) :
        (component.without name).pageData credits text = component.pageData credits text := by
      rw [Component.pageData, language]
      rfl
    simp only [Component.markup, body, data]
  have stylesheet : (component.without name).stylesheet credits = component.stylesheet credits := by
    rw [Component.stylesheet, accent, Component.narrowRules, responsive]
    rfl
  have script : (component.without name).script credits = component.script credits := rfl
  rw [Page.ofComponent, Page.ofComponent, markup, stylesheet, script]
  rfl

end PageSketch
