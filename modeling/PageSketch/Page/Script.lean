import PageSketch.Component.Basic
import PageSketch.Page.Asset
import PageSketch.Page.Stock.Scripts

/-! The script of a component. -/
namespace PageSketch

/-- The script of a kind, if it needs one. -/
def Kind.script? : Kind → Option String
  | .form => some Stock.Scripts.form
  | .navigation => some Stock.Scripts.navigation
  | .modal => some Stock.Scripts.modal
  | .table => some Stock.Scripts.table
  | .gallery => some Stock.Scripts.gallery
  | .accordion => some Stock.Scripts.accordion
  | .tabs => some Stock.Scripts.tabs
  | .carousel => some Stock.Scripts.carousel
  | .hero | .card | .footer | .pricing | .testimonial => none

/-- The script of a component; it does nothing for a kind that needs none. -/
def Component.script (component : Component) (credits : Credits) : String :=
  Asset.js.header component.name credits ++ "\n" ++ component.kind.script?.getD Stock.Scripts.empty

end PageSketch
