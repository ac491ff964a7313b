import PageSketch.Component.Basic
import PageSketch.Json.Basic

/-! The JSON form of components: writing it and reading it back. -/
namespace PageSketch

/-- A text without value stands for a directive that is a flag. -/
def DirectiveValue.toJson : DirectiveValue → Json
  | text value => .text value
  | flag isSet => .bool isSet

/-- The directive value with this JSON form. -/
def DirectiveValue.ofJson? : Json → Option DirectiveValue
  | .text value => some (text value)
  | .bool isSet => some (flag isSet)
  | _ => none

/-- Each kind of option value has a JSON form of its own, so no tag is needed. -/
def OptionValue.toJson : OptionValue → Json
  | bool value => .bool value
  | int value => .number value.toInt
  | text value => .text value
  | list values => .ofTexts values
  | none => .null

/-- The integer with 64 bits that is this number. -/
def int64? (value : Int) : Option Int64 :=
  if -0x8000000000000000 ≤ value ∧ value < 0x8000000000000000 then some (Int64.ofInt value)
  else none

/-- The option value with this JSON form. -/
def OptionValue.ofJson? : Json → Option OptionValue
  | .bool value => some (bool value)
  | .number value => (int64? value).map int
  | .text value => some (text value)
  | .array values => (Json.array values).texts?.map list
  | .null => some none
  | _ => Option.none

def OrderedMap.toJson {Value : Type} (encode : Value → Json) (map : OrderedMap Value) : Json :=
  .object (map.entries.map fun (key, value) => (key, encode value))

/-- The map with the fields of an object, in their order. -/
def OrderedMap.ofJson? {Value : Type} (decode : Json → Option Value) (value : Json) :
    Option (OrderedMap Value) := do
  let fields ← value.object?
  let pairs ← fields.mapM fun (key, field) => (decode field).map (key, ·)
  return .ofList pairs

namespace Json

/-- A record as an object. It may also be written as the array of all its parts in the order of
these names. -/
def named (value : Json) (names : List String) : Json :=
  match value with
  | array parts => if parts.length = names.length then object (names.zip parts) else array parts
  | other => other

/-- The name of a choice. It may also be written as an object with the name as its only field, which
is null. -/
def choice? : Json → Option String
  | text name => some name
  | object [(name, null)] => some name
  | _ => none

def choiceField? (value : Json) (name : String) : Option String := (value.field? name).bind choice?

def textField? (value : Json) (name : String) : Option String := (value.field? name).bind text?

def boolField? (value : Json) (name : String) : Option Bool := (value.field? name).bind bool?

def textsField? (value : Json) (name : String) : Option (List String) :=
  (value.field? name).bind texts?

/-- A field of an object that holds an array of values of one form. -/
def listField? {Value : Type} (value : Json) (name : String) (decode : Json → Option Value) :
    Option (List Value) :=
  ((value.field? name).bind array?).bind fun values => values.mapM decode

end Json

namespace Field

/-- What the JSON form of a field holds. -/
def parts (field : Field) : List (String × Json) :=
  [("type", .text field.control.name), ("name", .text field.name), ("label", .text field.label),
    ("placeholder", .text field.placeholder), ("required", .bool field.required),
    ("minLength", (field.minLength.map fun length => Json.number length.toNat).getD .null),
    ("options", .ofTexts field.choices)]

def toJson (field : Field) : Json := .object field.parts

/-- The names of the parts of a field, in their order. -/
def partNames : List String :=
  ["type", "name", "label", "placeholder", "required", "minLength", "options"]

/-- A minimum length in JSON form: absent, null, or a number with 32 bits. -/
def minLength? : Option Json → Option (Option UInt32)
  | none => some none
  | some .null => some none
  | some (.number value) =>
    if 0 ≤ value ∧ value < UInt32.size then some (some (UInt32.ofNat value.toNat)) else none
  | some _ => none

/-- The field with this JSON form. -/
def ofJson? (json : Json) : Option Field := do
  let value := json.named partNames
  return {
    control := ← (value.choiceField? "type").bind Control.ofName?
    name := ← value.textField? "name"
    label := ← value.textField? "label"
    placeholder := ← value.textField? "placeholder"
    required := ← value.boolField? "required"
    minLength := ← minLength? (value.field? "minLength")
    choices := ← value.textsField? "options" }

end Field

namespace Link

def fields (link : Link) : List (String × Json) :=
  [("text", .text link.text), ("href", .text link.target)]

/-- The link with these fields. -/
def ofJson? (json : Json) : Option Link := do
  let value := json.named ["text", "href"]
  return { text := ← value.textField? "text", target := ← value.textField? "href" }

end Link

namespace Section

def fields (part : Section) : List (String × Json) :=
  [("title", .text part.title), ("content", .text part.content)]

/-- The section with these fields. -/
def ofJson? (json : Json) : Option Section := do
  let value := json.named ["title", "content"]
  return { title := ← value.textField? "title", content := ← value.textField? "content" }

end Section

namespace Slide

def fields (slide : Slide) : List (String × Json) :=
  [("image", .text slide.image), ("title", .text slide.title),
    ("description", .text slide.description)]

/-- The slide with these fields. -/
def ofJson? (json : Json) : Option Slide := do
  let value := json.named ["image", "title", "description"]
  return {
    image := ← value.textField? "image"
    title := ← value.textField? "title"
    description := ← value.textField? "description" }

end Slide

namespace Picture

def fields (picture : Picture) : List (String × Json) :=
  [("src", .text picture.source), ("alt", .text picture.alt), ("caption", .text picture.caption)]

/-- The picture with these fields. -/
def ofJson? (json : Json) : Option Picture := do
  let value := json.named ["src", "alt", "caption"]
  return {
    source := ← value.textField? "src"
    alt := ← value.textField? "alt"
    caption := ← value.textField? "caption" }

end Picture

namespace Plan

def fields (plan : Plan) : List (String × Json) :=
  [("name", .text plan.name), ("price", .text plan.price), ("period", .text plan.period),
    ("features", .ofTexts plan.features), ("highlighted", .bool plan.highlighted),
    ("buttonText", .text plan.buttonText)]

/-- The plan with these fields. -/
def ofJson? (json : Json) : Option Plan := do
  let value := json.named ["name", "price", "period", "features", "highlighted", "buttonText"]
  return {
    name := ← value.textField? "name"
    price := ← value.textField? "price"
    period := ← value.textField? "period"
    features := ← value.textsField? "features"
    highlighted := ← value.boolField? "highlighted"
    buttonText := ← value.textField? "buttonText" }

end Plan

namespace Testimonial

def fields (testimonial : Testimonial) : List (String × Json) :=
  [("quote", .text testimonial.quote), ("author", .text testimonial.author),
    ("role", .text testimonial.role), ("company", .text testimonial.company),
    ("avatar", .text testimonial.avatar), ("rating", .number testimonial.rating.toNat)]

def rating? (value : Int) : Option UInt8 :=
  if 0 ≤ value ∧ value < UInt8.size then some (UInt8.ofNat value.toNat) else none

/-- The testimonial with these fields. -/
def ofJson? (json : Json) : Option Testimonial := do
  let value := json.named ["quote", "author", "role", "company", "avatar", "rating"]
  return {
    quote := ← value.textField? "quote"
    author := ← value.textField? "author"
    role := ← value.textField? "role"
    company := ← value.textField? "company"
    avatar := ← value.textField? "avatar"
    rating := ← ((value.field? "rating").bind Json.number?).bind rating? }

end Testimonial

namespace LinkGroup

def fields (group : LinkGroup) : List (String × Json) :=
  [("title", .text group.title),
    ("links", .array (group.links.map fun link => .object link.fields))]

/-- The group of links with these fields. -/
def ofJson? (json : Json) : Option LinkGroup := do
  let value := json.named ["title", "links"]
  return {
    title := ← value.textField? "title"
    links := ← value.listField? "links" Link.ofJson? }

end LinkGroup

namespace SocialLink

def fields (link : SocialLink) : List (String × Json) :=
  [("platform", .text link.platform), ("url", .text link.url)]

/-- The social link with these fields. -/
def ofJson? (json : Json) : Option SocialLink := do
  let value := json.named ["platform", "url"]
  return { platform := ← value.textField? "platform", url := ← value.textField? "url" }

end SocialLink

namespace Item

/-- The name of an item's variant. -/
def tag : Item → String
  | navLink _ => "navLink"
  | tableRow _ => "tableRow"
  | accordionEntry _ => "accordionEntry"
  | tabEntry _ => "tabEntry"
  | slide _ => "slide"
  | galleryImage _ => "galleryImage"
  | pricingPlan _ => "pricingPlan"
  | testimonial _ => "testimonial"
  | footerSection _ => "footerSection"
  | socialLink _ => "socialLink"

def fields : Item → List (String × Json)
  | navLink link => link.fields
  | tableRow cells => [("cells", .ofTexts cells)]
  | accordionEntry entry => entry.fields
  | tabEntry entry => entry.fields
  | slide picture => picture.fields
  | galleryImage picture => picture.fields
  | pricingPlan plan => plan.fields
  | testimonial words => words.fields
  | footerSection group => group.fields
  | socialLink link => link.fields

/-- The JSON form of an item; its variant stands in front as the field `item`. -/
def toJson (item : Item) : Json := .object (("item", .text item.tag) :: item.fields)

/-- The variant of an item in JSON form, and the record with its fields. An item that is an array
has its variant in front. -/
def tagged? : Json → Option (String × Json)
  | .array (.text tag :: parts) => some (tag, .array parts)
  | value => (value.textField? "item").map fun tag => (tag, value)

/-- The item with this JSON form. -/
def ofJson? (json : Json) : Option Item :=
  (tagged? json).bind fun (tag, value) =>
    match tag with
    | "navLink" => (Link.ofJson? value).map navLink
    | "tableRow" => ((value.named ["cells"]).textsField? "cells").map tableRow
    | "accordionEntry" => (Section.ofJson? value).map accordionEntry
    | "tabEntry" => (Section.ofJson? value).map tabEntry
    | "slide" => (Slide.ofJson? value).map slide
    | "galleryImage" => (Picture.ofJson? value).map galleryImage
    | "pricingPlan" => (Plan.ofJson? value).map pricingPlan
    | "testimonial" => (Testimonial.ofJson? value).map testimonial
    | "footerSection" => (LinkGroup.ofJson? value).map footerSection
    | "socialLink" => (SocialLink.ofJson? value).map socialLink
    | _ => none

end Item

namespace Component

def toJson (component : Component) : Json :=
  .object [("name", .text component.name), ("kind", .text component.kind.name),
    ("theme", .text component.theme.name), ("style", .text component.style.name),
    ("rawDescription", .text component.description),
    ("directives", component.directives.toJson DirectiveValue.toJson),
    ("fields", .array (component.fields.map Field.toJson)),
    ("items", .array (component.items.map Item.toJson)),
    ("options", component.options.toJson OptionValue.toJson)]

/-- The names of the parts of a component, in their order. -/
def partNames : List String :=
  ["name", "kind", "theme", "style", "rawDescription", "directives", "fields", "items", "options"]

/-- The component with this JSON form. -/
def ofJson? (json : Json) : Option Component := do
  let value := json.named partNames
  return {
    name := ← value.textField? "name"
    kind := ← (value.choiceField? "kind").bind Kind.ofName?
    theme := ← (value.choiceField? "theme").bind Theme.ofName?
    style := ← (value.choiceField? "style").bind Style.ofName?
    description := ← value.textField? "rawDescription"
    directives := ← (value.field? "directives").bind (OrderedMap.ofJson? DirectiveValue.ofJson?)
    fields := ← value.listField? "fields" Field.ofJson?
    items := ← value.listField? "items" Item.ofJson?
    options := ← (value.field? "options").bind (OrderedMap.ofJson? OptionValue.ofJson?) }

end Component

end PageSketch
