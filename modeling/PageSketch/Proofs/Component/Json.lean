import Mathlib.Logic.Function.Basic
import PageSketch.Component.Json
import PageSketch.Proofs.Component.Entries
import PageSketch.Proofs.Json.Printing

/-! Nothing is lost in the JSON form of a component: reading it gives the component again, with directives
and options in their order. -/
namespace PageSketch

private theorem mapM_map_of_forall {Value Form : Type} {encode : Value → Form} {decode : Form → Option Value}
    {values : List Value} (each : ∀ value ∈ values, decode (encode value) = some value) :
    (values.map encode).mapM decode = some values := by
  induction values with
  | nil => rfl
  | cons value rest ih =>
    obtain ⟨first, others⟩ := List.forall_mem_cons.mp each
    rw [List.map_cons, List.mapM_cons, first, ih others]
    rfl

namespace Json

def names? (value : Json) : Option (List String) := value.object?.map (List.map Prod.fst)

/-- The first field of an object answers for its own name. -/
@[simp]
theorem field?_object_cons (key : String) (value : Json) (fields : List (String × Json))
    (name : String) : (object ((key, value) :: fields)).field? name =
      if name = key then some value else (object fields).field? name :=
  OrderedMap.lookup_cons_eq_ite key value fields name

@[simp]
theorem named_object (fields : List (String × Json)) (names : List String) :
    (object fields).named names = object fields := rfl

@[simp]
theorem texts?_ofTexts (texts : List String) : (ofTexts texts).texts? = some texts :=
  mapM_map_of_forall fun _ _ => rfl

end Json

namespace DirectiveValue

@[simp]
theorem ofJson?_toJson (value : DirectiveValue) : ofJson? value.toJson = some value := by
  cases value <;> rfl

end DirectiveValue

namespace OptionValue

private theorem int64?_toInt (value : Int64) : int64? value.toInt = some value := by
  have least := Int64.le_toInt value
  have greatest := Int64.toInt_lt value
  rw [int64?, if_pos ⟨by omega, by omega⟩, Int64.ofInt_toInt]

@[simp]
theorem ofJson?_toJson (value : OptionValue) : ofJson? value.toJson = some value := by
  cases value with
  | bool value => rfl
  | int value => exact congrArg (Option.map int) (int64?_toInt value)
  | text value => rfl
  | list values => exact congrArg (Option.map list) (Json.texts?_ofTexts values)
  | none => rfl

end OptionValue

/-- The entries of a map are read back in their order. -/
theorem OrderedMap.ofJson?_toJson {Value : Type} {encode : Value → Json}
    {decode : Json → Option Value} (each : ∀ value, decode (encode value) = some value)
    (map : OrderedMap Value) : OrderedMap.ofJson? decode (map.toJson encode) = some map := by
  rw [toJson, OrderedMap.ofJson?]
  simp only [Json.object?, Option.bind_eq_bind, Option.bind_some]
  rw [mapM_map_of_forall]
  · exact congrArg some (ofList_entries map)
  · rintro ⟨key, value⟩ _
    simp only [each, Option.map_some]

private theorem Json.listField?_of_field? {Value : Type} {encode : Value → Json}
    {decode : Json → Option Value} {object : Json} {name : String} {values : List Value}
    (each : ∀ value, decode (encode value) = some value)
    (field : object.field? name = some (.array (values.map encode))) :
    object.listField? name decode = some values := by
  rw [listField?, field]
  exact mapM_map_of_forall fun value _ => each value

private theorem Control.ofName?_name (control : Control) : Control.ofName? control.name = some control := by
  cases control <;> rfl

namespace Field

private theorem minLength?_toNat (length : Option UInt32) :
    minLength? (some ((length.map fun length => Json.number length.toNat).getD .null)) =
      some length := by
  cases length with
  | none => rfl
  | some length =>
    have bound : (length.toNat : Int) < UInt32.size := by exact_mod_cast length.toNat_lt
    rw [Option.map_some, Option.getD_some, minLength?, if_pos ⟨by omega, bound⟩, Int.toNat_natCast,
      UInt32.ofNat_toNat]

@[simp]
theorem ofJson?_toJson (field : Field) : ofJson? field.toJson = some field := by
  have length := minLength?_toNat field.minLength
  simp [ofJson?, toJson, parts, Json.choiceField?, Json.choice?, Json.textField?, Json.text?,
    Json.boolField?, Json.bool?, Json.textsField?, Control.ofName?_name, length]

end Field

/-! Each record of an item is read back from its fields, also with the variant of the item in front. -/

private theorem Link.ofJson?_fields (link : Link) : Link.ofJson? (.object link.fields) = some link := by
  simp [ofJson?, fields, Json.textField?, Json.text?]

variable {tag : Json}

private theorem Link.ofJson?_tagged (link : Link) :
    Link.ofJson? (.object (("item", tag) :: link.fields)) = some link := by
  simp [ofJson?, fields, Json.textField?, Json.text?]

private theorem Section.ofJson?_tagged (part : Section) :
    Section.ofJson? (.object (("item", tag) :: part.fields)) = some part := by
  simp [ofJson?, fields, Json.textField?, Json.text?]

private theorem Slide.ofJson?_tagged (slide : Slide) :
    Slide.ofJson? (.object (("item", tag) :: slide.fields)) = some slide := by
  simp [ofJson?, fields, Json.textField?, Json.text?]

private theorem Picture.ofJson?_tagged (picture : Picture) :
    Picture.ofJson? (.object (("item", tag) :: picture.fields)) = some picture := by
  simp [ofJson?, fields, Json.textField?, Json.text?]

private theorem Plan.ofJson?_tagged (plan : Plan) :
    Plan.ofJson? (.object (("item", tag) :: plan.fields)) = some plan := by
  simp [ofJson?, fields, Json.textField?, Json.text?, Json.textsField?, Json.boolField?, Json.bool?]

private theorem Testimonial.rating?_toNat (rating : UInt8) : rating? rating.toNat = some rating := by
  have bound : (rating.toNat : Int) < UInt8.size := by exact_mod_cast rating.toNat_lt
  rw [rating?, if_pos ⟨by omega, bound⟩, Int.toNat_natCast, UInt8.ofNat_toNat]

private theorem Testimonial.ofJson?_tagged (testimonial : Testimonial) :
    Testimonial.ofJson? (.object (("item", tag) :: testimonial.fields)) = some testimonial := by
  simp [ofJson?, fields, Json.textField?, Json.text?, Json.number?, rating?_toNat]

private theorem LinkGroup.ofJson?_tagged (group : LinkGroup) :
    LinkGroup.ofJson? (.object (("item", tag) :: group.fields)) = some group := by
  have links : (Json.object (("item", tag) :: group.fields)).listField? "links" Link.ofJson? =
      some group.links := Json.listField?_of_field? Link.ofJson?_fields rfl
  simp [ofJson?, links]
  simp [fields, Json.textField?, Json.text?]

private theorem SocialLink.ofJson?_tagged (link : SocialLink) :
    SocialLink.ofJson? (.object (("item", tag) :: link.fields)) = some link := by
  simp [ofJson?, fields, Json.textField?, Json.text?]

namespace Item

private theorem tagged?_toJson (item : Item) : tagged? item.toJson = some (item.tag, item.toJson) := rfl

@[simp]
theorem ofJson?_toJson (item : Item) : ofJson? item.toJson = some item := by
  rw [ofJson?, tagged?_toJson, Option.bind_some]
  cases item with
  | navLink link => exact congrArg (Option.map navLink) link.ofJson?_tagged
  | tableRow cells => exact congrArg (Option.map tableRow) (Json.texts?_ofTexts cells)
  | accordionEntry entry => exact congrArg (Option.map accordionEntry) entry.ofJson?_tagged
  | tabEntry entry => exact congrArg (Option.map tabEntry) entry.ofJson?_tagged
  | slide picture => exact congrArg (Option.map slide) picture.ofJson?_tagged
  | galleryImage picture => exact congrArg (Option.map galleryImage) picture.ofJson?_tagged
  | pricingPlan plan => exact congrArg (Option.map pricingPlan) plan.ofJson?_tagged
  | testimonial words => exact congrArg (Option.map testimonial) words.ofJson?_tagged
  | footerSection group => exact congrArg (Option.map footerSection) group.ofJson?_tagged
  | socialLink link => exact congrArg (Option.map socialLink) link.ofJson?_tagged

end Item

private theorem Kind.ofName?_name (kind : Kind) : Kind.ofName? kind.name = some kind := by
  cases kind <;> rfl

private theorem Theme.ofName?_name (theme : Theme) : Theme.ofName? theme.name = some theme := by
  cases theme <;> rfl

private theorem Style.ofName?_name (style : Style) : Style.ofName? style.name = some style := by
  cases style <;> rfl

namespace Component

@[simp]
theorem ofJson?_toJson (component : Component) : ofJson? component.toJson = some component := by
  have directives := OrderedMap.ofJson?_toJson DirectiveValue.ofJson?_toJson component.directives
  have options := OrderedMap.ofJson?_toJson OptionValue.ofJson?_toJson component.options
  have fields : component.toJson.listField? "fields" Field.ofJson? = some component.fields :=
    Json.listField?_of_field? Field.ofJson?_toJson (by simp [toJson])
  have items : component.toJson.listField? "items" Item.ofJson? = some component.items :=
    Json.listField?_of_field? Item.ofJson?_toJson (by simp [toJson])
  rw [toJson] at fields items
  simp [ofJson?, toJson, Json.choiceField?, Json.choice?, Json.textField?, Json.text?,
    Kind.ofName?_name, Theme.ofName?_name, Style.ofName?_name, directives, options, fields, items]

end Component

/-- What is read back from its form shares the form with nothing else. -/
theorem injective_of_ofJson? {Value : Type} {encode : Value → Json} {decode : Json → Option Value}
    (each : ∀ value, decode (encode value) = some value) : Function.Injective encode := by
  intro first second same
  have read := each first
  rw [same, each second] at read
  exact (Option.some.inj read).symm

/-! There are no doubles in the JSON form of a component. -/

@[simp]
theorem Json.isExact_ofTexts (texts : List String) : (ofTexts texts).IsExact := by
  refine .array fun value member => ?_
  obtain ⟨text, _, rfl⟩ := List.mem_map.mp member
  exact .text text

private theorem Json.isExact_array_map {Value : Type} {encode : Value → Json} {values : List Value}
    (each : ∀ value, (encode value).IsExact) : (array (values.map encode)).IsExact := by
  refine .array fun form member => ?_
  obtain ⟨value, _, rfl⟩ := List.mem_map.mp member
  exact each value

private theorem OrderedMap.isExact_toJson {Value : Type} {encode : Value → Json}
    (each : ∀ value, (encode value).IsExact) (map : OrderedMap Value) :
    (map.toJson encode).IsExact := by
  refine .object fun field member => ?_
  obtain ⟨entry, _, rfl⟩ := List.mem_map.mp member
  exact each entry.2

private theorem DirectiveValue.isExact_toJson (value : DirectiveValue) : value.toJson.IsExact := by
  cases value <;> simp [toJson]

private theorem OptionValue.isExact_toJson (value : OptionValue) : value.toJson.IsExact := by
  cases value <;> simp [toJson]

private theorem Field.isExact_toJson (field : Field) : field.toJson.IsExact := by
  have length : ((field.minLength.map fun length => Json.number length.toNat).getD .null).IsExact := by
    cases field.minLength <;> simp
  exact .object (by simp [parts, length])

private theorem Link.isExact_object (link : Link) : (Json.object link.fields).IsExact :=
  .object (by simp [fields])

private theorem Item.isExact_toJson (item : Item) : item.toJson.IsExact := by
  refine .object (List.forall_mem_cons.mpr ⟨.text _, ?_⟩)
  cases item with
  | footerSection group =>
    have links : (Json.array (group.links.map fun link => .object link.fields)).IsExact :=
      Json.isExact_array_map Link.isExact_object
    simp [fields, LinkGroup.fields, links]
  | navLink | tableRow | accordionEntry | tabEntry | slide | galleryImage | pricingPlan
  | testimonial | socialLink =>
    simp [fields, Link.fields, Section.fields, Slide.fields, Picture.fields, Plan.fields,
      Testimonial.fields, SocialLink.fields]

private theorem Component.isExact_toJson (component : Component) : component.toJson.IsExact := by
  have directives := OrderedMap.isExact_toJson DirectiveValue.isExact_toJson component.directives
  have options := OrderedMap.isExact_toJson OptionValue.isExact_toJson component.options
  have fields : (Json.array (component.fields.map Field.toJson)).IsExact :=
    Json.isExact_array_map Field.isExact_toJson
  have items : (Json.array (component.items.map Item.toJson)).IsExact :=
    Json.isExact_array_map Item.isExact_toJson
  exact .object (by simp [directives, options, fields, items])

/-- The JSON form of a component says all of it: reading it gives the component again, and no two components
are printed as one text. Components and fields are objects with the names of their parts, an item is told by
its field `item`, and the values of options and directives carry no tag; still no two items, options or
directives have the same form. -/
theorem json_lossless :
    (∀ component : Component, Component.ofJson? component.toJson = some component ∧
        component.toJson.names? = some Component.partNames) ∧
      Function.Injective (fun component : Component => component.toJson.pretty) ∧
      (∀ field : Field, field.toJson.names? = some Field.partNames) ∧
      (∀ item : Item, item.toJson.textField? "item" = some item.tag) ∧
      (∀ value : OptionValue, value.toJson.object? = none) ∧
      (∀ value : DirectiveValue, value.toJson.object? = none) ∧
      Function.Injective Item.toJson ∧ Function.Injective OptionValue.toJson ∧
      Function.Injective DirectiveValue.toJson := by
  refine ⟨fun component => ⟨component.ofJson?_toJson, rfl⟩, ?_, fun _ => rfl, fun _ => rfl, ?_, ?_,
    injective_of_ofJson? Item.ofJson?_toJson, injective_of_ofJson? OptionValue.ofJson?_toJson,
    injective_of_ofJson? DirectiveValue.ofJson?_toJson⟩
  · intro first second same
    exact injective_of_ofJson? Component.ofJson?_toJson
      (first.isExact_toJson.eq_of_pretty_eq second.isExact_toJson same)
  · intro value
    cases value <;> rfl
  · intro value
    cases value <;> rfl

end PageSketch
