import PageSketch.Component.Json
import PageSketch.Page.Asset
import PageSketch.Page.Stock.Registry
import PageSketch.Text.WordCase

/-! The markup of a component: its body, drawn with the template of its kind, inside the page. -/
namespace PageSketch

/-- A control that is not written as an input element of its own type has markup of its own. -/
def Control.isInput : Control → Bool
  | .checkbox | .textarea | .select => false
  | _ => true

/-- A field as templates see it: its JSON form, and which markup its control needs. -/
def Field.view (field : Field) : Json :=
  .object (field.parts ++
    [("is_checkbox", .bool (decide (field.control = .checkbox))),
      ("is_textarea", .bool (decide (field.control = .textarea))),
      ("is_select", .bool (decide (field.control = .select))),
      ("is_input", .bool field.control.isInput)])

namespace Item

/-- The group of links, if the item is one. -/
def linkGroup? : Item → Option LinkGroup
  | footerSection group => some group
  | _ => none

/-- The social link, if the item is one. -/
def social? : Item → Option SocialLink
  | socialLink link => some link
  | _ => none

end Item

namespace Component

/-- The name as identifiers in the page are made of. -/
def slug (component : Component) : String :=
  String.ofList (Text.kebabCase component.name.toList)

/-- What the template of a body is filled with. -/
def bodyData (component : Component) : Json :=
  .object [("name", .text component.name), ("slug", .text component.slug),
    ("theme", .text component.theme.name),
    ("options", component.options.toJson OptionValue.toJson),
    ("fields", .array (component.fields.map Field.view)),
    ("items", .array (component.items.map Item.toJson)),
    ("sections", .array ((component.items.filterMap Item.linkGroup?).map fun group =>
      .object group.fields)),
    ("socials", .array ((component.items.filterMap Item.social?).map fun link =>
      .object link.fields))]

def body (component : Component) : Except Template.RegistryError String :=
  Stock.registry.render (Stock.bodyName component.kind) component.bodyData

/-- The language that the page is in, English when the component names none. -/
def language (component : Component) : String := (component.directiveText? "language").getD "en"

/-- What the template of a page is filled with, once its body is drawn. -/
def pageData (component : Component) (credits : Credits) (body : String) : Json :=
  .object [("header", .text (Asset.html.header component.name credits)),
    ("language", .text component.language), ("name", .text component.name),
    ("theme", .text component.theme.name),
    ("tailwind", .bool (decide (component.style = .tailwind))), ("body", .text body)]

/-- The page of a component. -/
def markup (component : Component) (credits : Credits) :
    Except Template.RegistryError String := do
  Stock.registry.render Stock.pageName (component.pageData credits (← component.body))

end Component

end PageSketch
