import PageSketch.Proofs.Extraction.Shape
import PageSketch.Proofs.Page.Elements
import PageSketch.Proofs.Page.Filling

/-! How tabs, carousels and accordions start: their parts are numbered as the items are, and the first part
alone is active or open. What the items say changes nothing about that. -/
namespace PageSketch

open Template Markup

/-- A button or panel of tabs as it is drawn. -/
structure Tab where
  number : Option String
  isActive : Bool
  text : String
  deriving DecidableEq

def Tab.ofElement : Text × List Token → Tab
  | (inside, between) =>
    ⟨(attribute? "data-tab" inside).map String.ofList, hasClass "active" inside, shown between⟩

def tabButtons (body : String) : List Tab :=
  (elements (hasClass "tab-button") "/button".toList (tokens body.toList)).map Tab.ofElement

def tabPanels (body : String) : List Tab :=
  (elements (hasClass "tab-panel") "/div".toList (tokens body.toList)).map Tab.ofElement

def activeSlides (body : String) : List Bool :=
  (tags (hasClass "carousel-slide") (tokens body.toList)).map (hasClass "active")

def slideDots (body : String) : List (Option String × Bool) :=
  (tags (hasClass "carousel-dot") (tokens body.toList)).map fun inside =>
    ((attribute? "data-slide" inside).map String.ofList, hasClass "active" inside)

def openItems (body : String) : List Bool :=
  (tags (hasClass "accordion-item") (tokens body.toList)).map (hasClass "open")

namespace Stock

def isFirst : Expr := .loopValue 0 "first"

def place : Expr := .loopValue 0 "index"

def isOpen : Expr := .call "eq" [place, .path (.level 1) ["options", "defaultOpen"]]

/-- A loop over the items around one part. -/
def eachItem {Part : Type} (part : Part) : List (Outline Part) := [.block "each" [named "items"] [.part part] []]

def isTab (element : Element) (source : Expr) : Bool :=
  gives "data-tab" place element.inside && switches "active" isFirst element.inside &&
    areValue source element.between

def areTabs (outlines : List (Outline Snippet)) : Bool :=
  finds (hasClass? "tab-button") "/button".toList isTab (eachItem (named "title")) outlines &&
    finds (hasClass? "tab-panel") "/div".toList isTab (eachItem (named "content")) outlines

def isSlide (element : Element) (_ : Unit) : Bool := switches "active" isFirst element.inside

def isDot (element : Element) (_ : Unit) : Bool :=
  gives "data-slide" place element.inside && switches "active" isFirst element.inside

def areCarousel (outlines : List (Outline Snippet)) : Bool :=
  finds (hasClass? "carousel-slide") "/div".toList isSlide (eachItem ()) outlines &&
    finds (hasClass? "carousel-dot") "/button".toList isDot
      [.block "if" [.path (.level 0) ["options", "showDots"]] (eachItem ()) []] outlines

def isItem (element : Element) (_ : Unit) : Bool := switches "open" isOpen element.inside

def areAccordion (outlines : List (Outline Snippet)) : Bool :=
  finds (hasClass? "accordion-item") "/div".toList isItem (eachItem ()) outlines

set_option maxRecDepth 20000 in
private theorem areTabs_outline? : (outline? .tabs).any areTabs = true := by
  rw [outline?, body, Templates.tabs, toList_braced]
  decide +kernel

set_option maxRecDepth 20000 in
private theorem areCarousel_outline? : (outline? .carousel).any areCarousel = true := by
  rw [outline?, body, Templates.carousel, toList_braced]
  decide +kernel

set_option maxRecDepth 20000 in
private theorem areAccordion_outline? : (outline? .accordion).any areAccordion = true := by
  rw [outline?, body, Templates.accordion, toList_braced]
  decide +kernel

end Stock

section Drawn

variable {component : Component} {body : String}

/-- A loop over the items makes its part once for each item. -/
theorem madeAll_eachItem {Part Result Value : Type} {encode : Value → Item} {values : List Value}
    (items : component.items = values.map encode) (make : Part → Scope → Result) (own : Part) :
    madeAll make (Stock.eachItem own) component.scope = values.mapIdx fun index value =>
      make own (component.scope.enter
        ⟨(encode value).toJson, ("index", .number index) :: loopFacts index values.length⟩) :=
  madeAll_each (Component.eval_items items) own

variable {scope : Scope} {value : Json} {index count : Nat}

private theorem passes_isFirst :
    Stock.isFirst.passes (scope.enter ⟨value, ("index", .number index) :: loopFacts index count⟩) =
      (index == 0) := rfl

private theorem shown_place :
    Stock.place.shown (scope.enter ⟨value, ("index", .number index) :: loopFacts index count⟩) =
      toString index := by
  rw [Expr.shown_value rfl]
  exact String.ofList_toList

private theorem passes_isOpen {option : OptionValue} (given : component.option? "defaultOpen" = some option) :
    Stock.isOpen.passes
        (component.scope.enter ⟨value, ("index", .number index) :: loopFacts index count⟩) =
      (Json.number index).same option.toJson := by
  let inside := component.scope.enter ⟨value, ("index", .number index) :: loopFacts index count⟩
  have place : Stock.place.eval inside = .ok (some (.number index)) := rfl
  have outer : (Expr.path (.level 1) ["options", "defaultOpen"]).eval inside = .ok (some option.toJson) := by
    have same : (Expr.path (.level 1) ["options", "defaultOpen"]).eval inside =
      (Expr.path (.level 0) ["options", "defaultOpen"]).eval component.scope := rfl
    rw [same, component.eval_option, given]
    rfl
  have tested : Stock.isOpen.eval inside = .ok (some (.bool ((Json.number index).same option.toJson))) := by
    rw [Stock.isOpen, Expr.eval, evalAll, place, evalAll, outer]
    rfl
  rw [Expr.passes, tested]
  rfl

private theorem ofElement_made {element : Element} {source : Expr} (isTab : Stock.isTab element source)
    (scope : Scope) :
    Tab.ofElement (element.made scope) =
      ⟨some (Stock.place.shown scope), Stock.isFirst.passes scope, source.shown scope⟩ := by
  simp only [Stock.isTab, Bool.and_eq_true] at isTab
  obtain ⟨⟨numbered, switched⟩, around⟩ := isTab
  rw [Element.made, Tab.ofElement, attribute?_of_gives numbered, hasClass_of_switches switched,
    shown_of_areValue around]

private theorem map_ofElement_eq {entries : List Section} (items : component.items = entries.map .tabEntry)
    {outline : List (Outline Snippet)} {name : String} {closing : Text} {source : Expr}
    (found : finds (hasClass? name) closing Stock.isTab (Stock.eachItem source) outline)
    {text : Section → String} (shows : ∀ entry loop,
      source.shown (component.scope.enter ⟨(Item.tabEntry entry).toJson, loop⟩) = text entry) :
    (elements (hasClass name) closing (tokensAll outline component.scope)).map Tab.ofElement =
      entries.mapIdx fun index entry => ⟨some (toString index), index == 0, text entry⟩ := by
  rw [map_elements_of_finds (decides_hasClass? name) found fun _ _ => ofElement_made, madeAll_eachItem items]
  simp only [shown_place, passes_isFirst, shows]

theorem tabs_start (drawn : component.body = .ok body) (tabs : component.kind = .tabs)
    {entries : List Section} (items : component.items = entries.map .tabEntry) :
    tabButtons body = entries.mapIdx (fun index entry => ⟨some (toString index), index == 0, entry.title⟩) ∧
      tabPanels body =
        entries.mapIdx (fun index entry => ⟨some (toString index), index == 0, entry.content⟩) := by
  obtain ⟨outline, areTabs, read⟩ := Component.exists_outline drawn tabs Stock.areTabs_outline?
  simp only [Stock.areTabs, Bool.and_eq_true] at areTabs
  constructor
  · rw [tabButtons, read]
    exact map_ofElement_eq items areTabs.1 fun _ _ => Expr.shown_text rfl
  · rw [tabPanels, read]
    exact map_ofElement_eq items areTabs.2 fun _ _ => Expr.shown_text rfl

private theorem map_tags_of_finds {outline : List (Outline Snippet)} {name : String} {closing : Text}
    {same : Element → Unit → Bool} {expected : List (Outline Unit)} {Result : Type}
    (found : finds (hasClass? name) closing same expected outline) {read : Text → Result}
    {make : Scope → Result}
    (equal : ∀ element, same element () → ∀ scope, read (filled element.inside scope) = make scope)
    (scope : Scope) :
    (tags (hasClass name) (tokensAll outline scope)).map read = madeAll (fun _ => make) expected scope := by
  rw [← map_fst_elements _ closing, List.map_map]
  exact map_elements_of_finds (decides_hasClass? name) found (fun element _ => equal element) scope

/-- The first slide alone is active, and so is the first dot when there are dots. -/
theorem carousel_start (drawn : component.body = .ok body) (carousel : component.kind = .carousel)
    {slides : List Slide} (items : component.items = slides.map .slide) {dots : Bool}
    (given : component.option? "showDots" = some (.bool dots)) :
    activeSlides body = slides.mapIdx (fun index _ => index == 0) ∧
      slideDots body =
        if dots then slides.mapIdx (fun index _ => (some (toString index), index == 0)) else [] := by
  obtain ⟨outline, areCarousel, read⟩ := Component.exists_outline drawn carousel Stock.areCarousel_outline?
  simp only [Stock.areCarousel, Bool.and_eq_true] at areCarousel
  constructor
  · have slide (element : Element) (isSlide : Stock.isSlide element ()) (scope : Scope) :
        hasClass "active" (filled element.inside scope) = Stock.isFirst.passes scope :=
      hasClass_of_switches isSlide scope
    rw [activeSlides, read, map_tags_of_finds areCarousel.1 slide, madeAll_eachItem items]
    simp only [passes_isFirst]
  · have dot (element : Element) (isDot : Stock.isDot element ()) (scope : Scope) :
        ((attribute? "data-slide" (filled element.inside scope)).map String.ofList,
          hasClass "active" (filled element.inside scope)) =
            (some (Stock.place.shown scope), Stock.isFirst.passes scope) := by
      simp only [Stock.isDot, Bool.and_eq_true] at isDot
      rw [attribute?_of_gives isDot.1, hasClass_of_switches isDot.2]
    have shown : (Expr.path (.level 0) ["options", "showDots"]).passes component.scope = dots := by
      rw [Expr.passes, component.eval_option, given]
      rfl
    rw [slideDots, read, map_tags_of_finds areCarousel.2 dot, madeAll_if, shown, madeAll_eachItem items]
    simp only [shown_place, passes_isFirst]

/-- The item at the place that the option says is open, and no other. -/
theorem accordion_start (drawn : component.body = .ok body) (accordion : component.kind = .accordion)
    {entries : List Section} (items : component.items = entries.map .accordionEntry) {option : OptionValue}
    (given : component.option? "defaultOpen" = some option) :
    openItems body = entries.mapIdx fun index _ => (Json.number index).same option.toJson := by
  obtain ⟨outline, areAccordion, read⟩ :=
    Component.exists_outline drawn accordion Stock.areAccordion_outline?
  have item (element : Element) (isItem : Stock.isItem element ()) (scope : Scope) :
      hasClass "open" (filled element.inside scope) = Stock.isOpen.passes scope :=
    hasClass_of_switches isItem scope
  rw [openItems, read, map_tags_of_finds areAccordion item, madeAll_eachItem items]
  simp only [passes_isOpen given]

end Drawn

/-- How the parts of a component that can be switched start. -/
structure StartsConsistent (component : Component) (body : String) : Prop where
  /-- There is a button and a panel for each entry, and the first ones alone are active. -/
  tabs : component.kind = .tabs → ∃ entries : List Section,
    entries ≠ [] ∧ component.items = entries.map .tabEntry ∧
      tabButtons body = entries.mapIdx (fun index entry => ⟨some (toString index), index == 0, entry.title⟩) ∧
      tabPanels body = entries.mapIdx (fun index entry => ⟨some (toString index), index == 0, entry.content⟩)
  /-- The first slide alone is active, and there is a dot for each slide or none at all. -/
  carousel : component.kind = .carousel → ∃ slides : List Slide,
    slides ≠ [] ∧ component.items = slides.map .slide ∧
      activeSlides body = slides.mapIdx (fun index _ => index == 0) ∧
      slideDots body = if component.optionIsTrue "showDots" then
        slides.mapIdx (fun index _ => (some (toString index), index == 0)) else []
  /-- The first item is open if the description asks for that, and the others never are. -/
  accordion : component.kind = .accordion → ∃ entries : List Section,
    entries ≠ [] ∧ component.items = entries.map .accordionEntry ∧
      openItems body = entries.mapIdx fun index _ =>
        (Text.lower component.description.toList).mentionsAny ["open", "expanded"] && index == 0

private theorem same_defaultOpen (asked : Bool) (index : Nat) :
    (Json.number index).same (if asked then OptionValue.int 0 else .none).toJson = (asked && index == 0) := by
  cases asked with
  | true => exact Bool.eq_iff_iff.mpr (by simp [OptionValue.toJson, Json.same])
  | false => rfl

/-- The body of every component of every source starts with its first part active, or with the part open that
the description asks for. -/
theorem widgets_start_consistent {year : Int} {source : Text} {component : Component}
    (member : component ∈ (Program.ofSource year source).components) :
    ∃ body, component.body = .ok body ∧ StartsConsistent component body := by
  let intent := Intent.ofComponent component year
  have items : component.items = (intent.extract component.kind).items := items_of_mem member
  have options (key : String) : component.option? key = (intent.extract component.kind).options.get? key :=
    option?_of_mem member key
  obtain ⟨body, drawn⟩ := Stock.exists_render_body component.kind component
  refine ⟨body, drawn, ?_⟩
  constructor
  case tabs =>
    intro tabs
    rw [tabs] at items
    obtain ⟨entries, nonempty, same⟩ := intent.extractTabs_fits.items
    have ofEntries := items.trans same
    exact ⟨entries, nonempty, ofEntries, tabs_start drawn tabs ofEntries⟩
  case carousel =>
    intro carousel
    have dots : component.option? "showDots" = some (.bool !(intent.mentions "no dots")) := by
      rw [options, carousel]
      rfl
    have shows : component.optionIsTrue "showDots" = !(intent.mentions "no dots") := by
      rw [Component.optionIsTrue, dots]
      rfl
    rw [carousel] at items
    obtain ⟨slides, nonempty, same⟩ := intent.extractCarousel_fits.items
    have ofSlides := items.trans same
    rw [shows]
    exact ⟨slides, nonempty, ofSlides, carousel_start drawn carousel ofSlides dots⟩
  case accordion =>
    intro accordion
    have asked : component.option? "defaultOpen" =
        some (if intent.mentionsAny ["open", "expanded"] then .int 0 else .none) := by
      rw [options, accordion]
      rfl
    rw [accordion] at items
    obtain ⟨entries, nonempty, same⟩ := intent.extractAccordion_fits.items
    have ofEntries := items.trans same
    have opened := accordion_start drawn accordion ofEntries asked
    simp only [same_defaultOpen] at opened
    exact ⟨entries, nonempty, ofEntries, opened⟩

/-- A body that a source in the year 2025 makes. -/
def IsDrawnFrom (source body : String) : Prop :=
  ∃ component ∈ (Program.ofSource 2025 source.toList).components, component.body = .ok body

/-- A title that imitates an active button is only a title, and each widget starts with its first part. -/
theorem tabs_start_first :
    (∃ body, IsDrawnFrom
      "@component Plans\n@type tabs\n\x7b\nTab: <i class=\"tab-button active\">\nTab: Two\n\x7d" body ∧
        tabButtons body =
          [⟨some "0", true, "<i class=\"tab-button active\">"⟩, ⟨some "1", false, "Two"⟩]) ∧
    (∃ body, IsDrawnFrom "@component Tour\n@type carousel\n\x7b\n- Sea\n- Hills\n\x7d" body ∧
      activeSlides body = [true, false] ∧ slideDots body = [(some "0", true), (some "1", false)]) ∧
    ∃ body, IsDrawnFrom "@component Help\n@type accordion\n\x7b\nQ: Why?\nOpen it.\nQ: How?\n\x7d" body ∧
      openItems body = [true, false] := by
  refine ⟨?tabs, ?carousel, ?accordion⟩
  case tabs =>
    obtain ⟨component, listed, tabs, items⟩ : ∃ component ∈ (Program.ofSource 2025
        "@component Plans\n@type tabs\n\x7b\nTab: <i class=\"tab-button active\">\nTab: Two\n\x7d".toList).components,
          component.kind = .tabs ∧
            component.items = [.tabEntry ⟨"<i class=\"tab-button active\">", ""⟩, .tabEntry ⟨"Two", ""⟩] := by
      decide +kernel
    obtain ⟨body, drawn, starts⟩ := widgets_start_consistent listed
    obtain ⟨entries, _, same, buttons, _⟩ := starts.tabs tabs
    have given : entries = [⟨"<i class=\"tab-button active\">", ""⟩, ⟨"Two", ""⟩] := by
      refine List.map_injective_iff.mpr (fun _ _ => Item.tabEntry.inj) ?_
      exact same.symm.trans items
    refine ⟨body, ⟨component, listed, drawn⟩, ?_⟩
    rw [buttons, given]
    rfl
  case carousel =>
    obtain ⟨component, listed, carousel, two, dots⟩ : ∃ component ∈ (Program.ofSource 2025
        "@component Tour\n@type carousel\n\x7b\n- Sea\n- Hills\n\x7d".toList).components,
          component.kind = .carousel ∧ component.items.length = 2 ∧ component.optionIsTrue "showDots" := by
      decide +kernel
    obtain ⟨body, drawn, starts⟩ := widgets_start_consistent listed
    obtain ⟨slides, _, same, active, numbered⟩ := starts.carousel carousel
    rw [same, List.length_map] at two
    obtain ⟨sea, hills, rfl⟩ := List.length_eq_two.mp two
    have first : toString 0 = "0" := rfl
    have second : toString 1 = "1" := rfl
    refine ⟨body, ⟨component, listed, drawn⟩, active, ?_⟩
    rw [numbered, if_pos dots, ← first, ← second]
    rfl
  case accordion =>
    obtain ⟨component, listed, accordion, two, asked⟩ : ∃ component ∈ (Program.ofSource 2025
        "@component Help\n@type accordion\n\x7b\nQ: Why?\nOpen it.\nQ: How?\n\x7d".toList).components,
          component.kind = .accordion ∧ component.items.length = 2 ∧
            (Text.lower component.description.toList).mentionsAny ["open", "expanded"] := by
      decide +kernel
    obtain ⟨body, drawn, starts⟩ := widgets_start_consistent listed
    obtain ⟨entries, _, same, opened⟩ := starts.accordion accordion
    rw [same, List.length_map] at two
    obtain ⟨why, how, rfl⟩ := List.length_eq_two.mp two
    rw [asked] at opened
    exact ⟨body, ⟨component, listed, drawn⟩, opened⟩

end PageSketch
