import PageSketch.Page.Markup
import PageSketch.Proofs.Page.Stock
import PageSketch.Proofs.Text.Marks

/-! Components with their texts changed. When the change neither empties a text nor fills an empty one, the
data for the body stay alike, so the same parts of the template are drawn. -/
namespace PageSketch

open Template

def OrderedMap.mapValues {Value : Type} (change : Value → Value) (map : OrderedMap Value) :
    OrderedMap Value where
  entries := map.entries.map fun (key, value) => (key, change value)
  distinct := by simpa [Function.comp_def] using map.distinct

section Change

variable (change : String → String)

/-- The link with its texts changed, as below each other part of a component. -/
def Link.mapTexts (link : Link) : Link := ⟨change link.text, change link.target⟩

def Section.mapTexts (part : Section) : Section := ⟨change part.title, change part.content⟩

def Slide.mapTexts (slide : Slide) : Slide :=
  ⟨change slide.image, change slide.title, change slide.description⟩

def Picture.mapTexts (picture : Picture) : Picture :=
  ⟨change picture.source, change picture.alt, change picture.caption⟩

def Plan.mapTexts (plan : Plan) : Plan :=
  { plan with
    name := change plan.name
    price := change plan.price
    period := change plan.period
    features := plan.features.map change
    buttonText := change plan.buttonText }

def Testimonial.mapTexts (words : Testimonial) : Testimonial :=
  { words with
    quote := change words.quote
    author := change words.author
    role := change words.role
    company := change words.company
    avatar := change words.avatar }

def LinkGroup.mapTexts (group : LinkGroup) : LinkGroup :=
  ⟨change group.title, group.links.map (Link.mapTexts change)⟩

def SocialLink.mapTexts (link : SocialLink) : SocialLink := ⟨change link.platform, change link.url⟩

def Item.mapTexts : Item → Item
  | navLink link => navLink (link.mapTexts change)
  | tableRow cells => tableRow (cells.map change)
  | accordionEntry entry => accordionEntry (entry.mapTexts change)
  | tabEntry entry => tabEntry (entry.mapTexts change)
  | slide picture => slide (picture.mapTexts change)
  | galleryImage picture => galleryImage (picture.mapTexts change)
  | pricingPlan plan => pricingPlan (plan.mapTexts change)
  | testimonial words => testimonial (words.mapTexts change)
  | footerSection group => footerSection (group.mapTexts change)
  | socialLink link => socialLink (link.mapTexts change)

/-- The field with the texts changed that its author wrote. -/
def Field.mapTexts (field : Field) : Field :=
  { field with
    label := change field.label
    placeholder := change field.placeholder
    choices := field.choices.map change }

def OptionValue.mapTexts : OptionValue → OptionValue
  | text value => text (change value)
  | list values => list (values.map change)
  | other => other

/-- The component with the texts changed that its body shows. -/
def Component.mapTexts (component : Component) : Component :=
  { component with
    name := change component.name
    fields := component.fields.map (Field.mapTexts change)
    items := component.items.map (Item.mapTexts change)
    options := component.options.mapValues (OptionValue.mapTexts change) }

end Change

/-- No test on a text can tell whether the text has been changed. -/
def KeepsEmpty (change : String → String) : Prop := ∀ text, (change text).isEmpty = text.isEmpty

variable {change : String → String}

theorem KeepsEmpty.text (keeps : KeepsEmpty change) (text : String) :
    PlainAlike (.text text) (.text (change text)) := .text (keeps text).symm

theorem KeepsEmpty.texts (keeps : KeepsEmpty change) (texts : List String) :
    PlainAlike (.ofTexts texts) (.ofTexts (texts.map change)) := by
  apply PlainAlike.texts
  rw [List.forall₂_map_right_iff, List.forall₂_same]
  exact fun text _ => (keeps text).symm

@[simp]
theorem PlainAlike.refl (value : Json) : PlainAlike value value := .same value

/-- A record of plain parts is alike when it has alike parts of the same names. -/
theorem KeepsEmpty.link (keeps : KeepsEmpty change) (link : Link) :
    (Shape.record fun _ => .plain).Alike (.object link.fields)
      (.object (link.mapTexts change).fields) := by
  simp [Shape.Alike, Link.fields, Link.mapTexts, keeps.text]

private theorem KeepsEmpty.linkGroup (keeps : KeepsEmpty change) (group : LinkGroup) :
    Stock.entryShape.Alike (.object group.fields) (.object (group.mapTexts change).fields) := by
  have links : List.Forall₂ (Shape.record fun _ => .plain).Alike
      (group.links.map fun link => .object link.fields)
      ((group.links.map (Link.mapTexts change)).map fun link => .object link.fields) := by
    rw [List.map_map, List.forall₂_map_left_iff, List.forall₂_map_right_iff, List.forall₂_same]
    exact fun link _ => keeps.link link
  refine ⟨_, _, rfl, rfl, .cons ⟨rfl, keeps.text _⟩ (.cons ⟨rfl, _, _, rfl, rfl, links⟩ .nil)⟩

theorem KeepsEmpty.socialLink (keeps : KeepsEmpty change) (link : SocialLink) :
    Stock.entryShape.Alike (.object link.fields) (.object (link.mapTexts change).fields) := by
  simp [Shape.Alike, Stock.entryShape, SocialLink.fields, SocialLink.mapTexts, keeps.text]

theorem KeepsEmpty.item (keeps : KeepsEmpty change) (item : Item) :
    Stock.entryShape.Alike item.toJson (item.mapTexts change).toJson := by
  cases item with
  | footerSection group =>
    obtain ⟨_, _, left, right, parts⟩ := keeps.linkGroup group
    cases left
    cases right
    exact ⟨_, _, rfl, rfl, .cons ⟨rfl, .same _⟩ parts⟩
  | _ =>
    simp [Shape.Alike, Stock.entryShape, Item.toJson, Item.tag, Item.fields, Item.mapTexts, Link.fields,
      Link.mapTexts, Section.fields, Section.mapTexts, Slide.fields, Slide.mapTexts, Picture.fields,
      Picture.mapTexts, Plan.fields, Plan.mapTexts, Testimonial.fields, Testimonial.mapTexts,
      SocialLink.fields, SocialLink.mapTexts, keeps.text, keeps.texts]

theorem KeepsEmpty.field (keeps : KeepsEmpty change) (field : Field) :
    Stock.entryShape.Alike field.view (field.mapTexts change).view := by
  exact ⟨_, _, rfl, rfl, .cons ⟨rfl, .same _⟩ <| .cons ⟨rfl, .same _⟩ <|
    .cons ⟨rfl, keeps.text field.label⟩ <| .cons ⟨rfl, keeps.text field.placeholder⟩ <|
    .cons ⟨rfl, .same _⟩ <| .cons ⟨rfl, .same _⟩ <| .cons ⟨rfl, keeps.texts field.choices⟩ <|
    .cons ⟨rfl, .same _⟩ <| .cons ⟨rfl, .same _⟩ <| .cons ⟨rfl, .same _⟩ <|
    .cons ⟨rfl, .same _⟩ .nil⟩

theorem KeepsEmpty.options (keeps : KeepsEmpty change) (options : OrderedMap OptionValue) :
    (Shape.record fun _ => .plain).Alike (options.toJson OptionValue.toJson)
      ((options.mapValues (OptionValue.mapTexts change)).toJson OptionValue.toJson) := by
  refine ⟨_, _, rfl, rfl, ?_⟩
  rw [OrderedMap.mapValues, List.map_map, List.forall₂_map_left_iff, List.forall₂_map_right_iff,
    List.forall₂_same]
  rintro ⟨key, value⟩ _
  refine ⟨rfl, ?_⟩
  cases value with
  | text value => exact keeps.text value
  | list values => exact keeps.texts values
  | bool _ | int _ | none => exact .same _

private theorem alike_map {Value : Type} {shape : Shape} {encode : Value → Json} {change : Value → Value}
    (alike : ∀ value, shape.Alike (encode value) (encode (change value))) (values : List Value) :
    (Shape.list shape).Alike (.array (values.map encode)) (.array ((values.map change).map encode)) := by
  refine ⟨_, _, rfl, rfl, ?_⟩
  rw [List.map_map, List.forall₂_map_left_iff, List.forall₂_map_right_iff, List.forall₂_same]
  exact fun value _ => alike value

private theorem filterMap_linkGroup_mapTexts (items : List Item) :
    (items.map (Item.mapTexts change)).filterMap Item.linkGroup? =
      (items.filterMap Item.linkGroup?).map (LinkGroup.mapTexts change) := by
  rw [List.filterMap_map, List.map_filterMap]
  congr 1
  funext item
  cases item <;> rfl

theorem filterMap_social_mapTexts (items : List Item) :
    (items.map (Item.mapTexts change)).filterMap Item.social? =
      (items.filterMap Item.social?).map (SocialLink.mapTexts change) := by
  rw [List.filterMap_map, List.map_filterMap]
  congr 1
  funext item
  cases item <;> rfl

theorem KeepsEmpty.bodyData (keeps : KeepsEmpty change) (component : Component) :
    Stock.bodyShape.Alike component.bodyData (component.mapTexts change).bodyData := by
  have name := keeps.text component.name
  have options := keeps.options component.options
  have fields := alike_map keeps.field component.fields
  have items := alike_map keeps.item component.items
  have sections := alike_map keeps.linkGroup (component.items.filterMap Item.linkGroup?)
  have socials := alike_map keeps.socialLink (component.items.filterMap Item.social?)
  rw [← filterMap_linkGroup_mapTexts] at sections
  rw [← filterMap_social_mapTexts] at socials
  exact ⟨_, _, rfl, rfl, .cons ⟨rfl, name⟩ <| .cons ⟨rfl, trivial⟩ <| .cons ⟨rfl, .same _⟩ <|
    .cons ⟨rfl, options⟩ <| .cons ⟨rfl, fields⟩ <| .cons ⟨rfl, items⟩ <| .cons ⟨rfl, sections⟩ <|
    .cons ⟨rfl, socials⟩ .nil⟩

def maskChar (char : Char) : Char :=
  if ['<', '>', '"', '\'', '&'].contains char then 'x' else char

/-- The text with its characters masked that mean something in markup. -/
def maskText (text : String) : String := String.ofList (text.toList.map maskChar)

/-- The component with all that its author wrote masked, as far as its body shows it. -/
def Component.masked (component : Component) : Component := component.mapTexts maskText

theorem keepsEmpty_maskText : KeepsEmpty maskText := by
  intro text
  rw [Bool.eq_iff_iff, String.isEmpty_iff, String.isEmpty_iff, maskText, ← String.toList_inj,
    ← String.toList_inj, String.toList_ofList]
  simp

theorem marks_maskText (text : String) : Text.marks (maskText text).toList = [] := by
  rw [maskText, String.toList_ofList, Text.marks_eq_nil_iff]
  intro char member
  obtain ⟨written, _, rfl⟩ := List.mem_map.mp member
  unfold maskChar
  split
  · decide
  · rename_i plain
    simp_all [Text.isMark]

end PageSketch
