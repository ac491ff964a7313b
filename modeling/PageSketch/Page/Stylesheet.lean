import PageSketch.Component.Basic
import PageSketch.Page.Asset
import PageSketch.Page.Palette
import PageSketch.Page.Stock.Rules

/-! The style sheet of a component. -/
namespace PageSketch

/-- The style rules that only this kind needs. -/
def Kind.rules : Kind → List Rule
  | .form => Stock.Rules.form
  | .hero => Stock.Rules.hero
  | .card => Stock.Rules.card
  | .navigation => Stock.Rules.navigation
  | .modal => Stock.Rules.modal
  | .table => Stock.Rules.table
  | .footer => Stock.Rules.footer
  | .gallery => Stock.Rules.gallery
  | .accordion => Stock.Rules.accordion
  | .tabs => Stock.Rules.tabs
  | .carousel => Stock.Rules.carousel
  | .pricing => Stock.Rules.pricing
  | .testimonial => Stock.Rules.testimonial

namespace Component

/-- The common rules, which a style that brings its own goes without. -/
def baseRules (component : Component) : String :=
  match component.style with
  | .vanilla => Rule.lines Stock.Rules.base ++ "\n"
  | .tailwind => ""

/-- The rules for narrow screens, if the component asks for them. -/
def narrowRules (component : Component) : String :=
  if component.isResponsive then
    "\n" ++ Rule.block "@media (max-width: 768px)" Stock.Rules.narrow
  else ""

/-- The style sheet of a component: colours, common rules, its kind's rules, narrow screens. -/
def stylesheet (component : Component) (credits : Credits) : String :=
  Asset.css.header component.name credits ++ "\n" ++
    component.theme.palette.declarations component.accent ++ "\n" ++
    component.baseRules ++ Rule.lines component.kind.rules ++ component.narrowRules

end Component

end PageSketch
