import PageSketch.Component.Kind
import PageSketch.Pattern

/-! Guessing the kind of a component from its description. -/
namespace PageSketch

open Pattern in
/-- The patterns in lower-case text that point to a kind. -/
def Kind.signs : Kind → List Pattern
  | form =>
    [oneWord ["form"], oneWord ["inputs", "input"],
      wordEdge ++ literal "field" ++ optional (literal "s") ++ blanks ++ literal ":",
      oneWord ["submit"],
      word (literal "sign" ++ optional (one fun c => c == ' ' || c == '-') ++ literal "up"),
      word (literal "log" ++ optional (one fun c => c == ' ' || c == '-') ++ literal "in"),
      oneWord ["password"]]
  | hero =>
    [oneWord ["hero"], oneWord ["headline"], oneWord ["banner"], oneWord ["landing"],
      oneWord ["jumbotron"]]
  | card => [oneWord ["cards", "card"]]
  | navigation => [oneWord ["navigation", "navbar", "nav"], oneWord ["menu"], oneWord ["logo"]]
  | modal =>
    [oneWord ["modal"], oneWord ["dialog"], oneWord ["pop-up", "popup"], oneWord ["overlay"]]
  | table =>
    [oneWord ["table"],
      wordEdge ++ literal "column" ++ optional (literal "s") ++ blanks ++ literal ":",
      oneWord ["data grid", "datagrid"], oneWord ["sortable"]]
  | footer => [oneWord ["footer"], oneWord ["copyright"], literal "©"]
  | gallery => [oneWord ["gallery"], oneWord ["masonry"], oneWord ["lightbox"], oneWord ["photos"]]
  | accordion =>
    [oneWord ["accordion"], oneWord ["faq"], oneWord ["collapsible"],
      either textStart (literal "\n") ++ literal "q:"]
  | tabs =>
    [oneWord ["tabs", "tab"], oneWord ["tabbed"], either textStart (literal "\n") ++ literal "tab:"]
  | carousel =>
    [oneWord ["carousel"], oneWord ["slider"], oneWord ["slides", "slide"], oneWord ["slideshow"]]
  | pricing =>
    [oneWord ["pricing"], oneWord ["plans", "plan"], oneWord ["per month"], literal "$" ++ digits]
  | testimonial =>
    [oneWord ["testimonials", "testimonial"], oneWord ["reviews", "review"],
      oneWord ["customer quotes", "customer quote"]]

/-- The first kind of which a description shows a sign. -/
def Kind.detect? (description : Text) : Option Kind :=
  let lowered := description.lower
  all.find? fun kind => kind.signs.any (·.occursIn lowered)

/-- The kind of a description; a form when nothing points to another kind. -/
def Kind.detect (description : Text) : Kind := (detect? description).getD form

end PageSketch
