import PageSketch.Page.Markup
import PageSketch.Page.Script
import PageSketch.Page.Stylesheet

/-! Components drawn as pages. -/
namespace PageSketch

/-- A component drawn as a page with its own style sheet and script. -/
structure Page where
  name : String
  html : String
  css : String
  js : String
  deriving DecidableEq, Repr

/-- One file of a component. -/
def Component.asset (component : Component) (credits : Credits) :
    Asset → Except Template.RegistryError String
  | .html => component.markup credits
  | .css => .ok (component.stylesheet credits)
  | .js => .ok (component.script credits)

namespace Page

/-- The page of a component. -/
def ofComponent (credits : Credits) (component : Component) :
    Except Template.RegistryError Page := do
  return {
    name := component.name
    html := ← component.markup credits
    css := component.stylesheet credits
    js := component.script credits }

/-- The text of one file of a page. -/
def text (page : Page) : Asset → String
  | .html => page.html
  | .css => page.css
  | .js => page.js

/-- The names of a page's files and what is in them. -/
def files (page : Page) : List (String × String) :=
  Asset.all.map fun asset => (asset.fileName page.name, page.text asset)

end Page

end PageSketch
