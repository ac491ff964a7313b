import PageSketch.Text.Blank
import PageSketch.Text.LetterCase

/-! The kinds of component. -/
namespace PageSketch

/-- What a component is, which decides what is read from its description and how it is drawn. -/
inductive Kind where
  | form | hero | card | navigation | modal | table | footer | gallery | accordion | tabs
  | carousel | pricing | testimonial
  deriving DecidableEq, Repr, Inhabited

namespace Kind

/-- Every kind, the ones that are looked for first in front. -/
def all : List Kind :=
  [form, hero, card, navigation, modal, table, footer, gallery, accordion, tabs, carousel, pricing,
    testimonial]

/-- The canonical name. -/
def name : Kind → String
  | form => "form"
  | hero => "hero"
  | card => "card"
  | navigation => "navigation"
  | modal => "modal"
  | table => "table"
  | footer => "footer"
  | gallery => "gallery"
  | accordion => "accordion"
  | tabs => "tabs"
  | carousel => "carousel"
  | pricing => "pricing"
  | testimonial => "testimonial"

/-- The names that mean the kind, its canonical name first. -/
def aliases : Kind → List String
  | form => ["form", "contact", "signup", "login"]
  | hero => ["hero", "banner", "jumbotron"]
  | card => ["card", "cards"]
  | navigation => ["navigation", "nav", "navbar", "menu"]
  | modal => ["modal", "popup", "dialog"]
  | table => ["table", "datatable", "data-table"]
  | footer => ["footer"]
  | gallery => ["gallery", "photos", "images"]
  | accordion => ["accordion", "faq", "collapsible"]
  | tabs => ["tabs", "tab", "tabbed"]
  | carousel => ["carousel", "slider", "slideshow"]
  | pricing => ["pricing", "plans", "prices"]
  | testimonial => ["testimonial", "testimonials", "reviews"]

def ofName? (name : String) : Option Kind := all.find? (·.name == name)

/-- Whether the kind needs a script beside its page. -/
def isInteractive : Kind → Bool
  | form | navigation | modal | table | gallery | accordion | tabs | carousel => true
  | hero | card | footer | pricing | testimonial => false

end Kind

/-- A word as written by hand, in the form in which it is compared: trimmed and in lower case. -/
def Text.keyword (text : Text) : String := String.ofList (lower (trim text))

/-- The kind that a word means, in any letter case and with blanks around it. -/
def Kind.ofAlias? (word : Text) : Option Kind := all.find? (·.aliases.contains word.keyword)

end PageSketch
