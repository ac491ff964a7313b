import PageSketch.Component.Kind
import PageSketch.Page.Stock.Templates
import PageSketch.Template.Registry

/-! The stock templates under their names. -/
namespace PageSketch.Stock

/-- The name of the template of the page itself. -/
def pageName : String := "html/page"

/-- The name of the template of the body of a kind. -/
def bodyName (kind : Kind) : String := "html/" ++ kind.name

/-- The template of the body of a kind. -/
def body : Kind → String
  | .form => Templates.form
  | .hero => Templates.hero
  | .card => Templates.card
  | .navigation => Templates.navigation
  | .modal => Templates.modal
  | .table => Templates.table
  | .footer => Templates.footer
  | .gallery => Templates.gallery
  | .accordion => Templates.accordion
  | .tabs => Templates.tabs
  | .carousel => Templates.carousel
  | .pricing => Templates.pricing
  | .testimonial => Templates.testimonial

/-- The names and texts of the stock templates. -/
def templates : List (String × String) :=
  (pageName, Templates.page) :: Kind.all.map fun kind => (bodyName kind, body kind)

/-- The registry with the stock templates; a text that is no template would be left out. -/
def registry : Template.Registry :=
  templates.foldl
    (fun registry (name, text) => (registry.register name text).toOption.getD registry) ⟨∅⟩

end PageSketch.Stock
