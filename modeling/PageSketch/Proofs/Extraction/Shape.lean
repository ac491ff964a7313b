import PageSketch.Proofs.Component.Entries
import PageSketch.Proofs.Extraction.Wording

/-! The shape of what is read from a description. Each kind has its own items, and its own options in a
fixed order, each with values of a fixed form; whatever is written, reading fills this shape. -/
namespace PageSketch

/-- What an option of a kind may be set to. -/
inductive OptionForm where
  /-- A Boolean. -/
  | flag
  /-- A text that is not empty. -/
  | wording
  /-- Any text. -/
  | text
  /-- A text that is not empty, or nothing on purpose. -/
  | wordingOrNone
  /-- One of these words. -/
  | choice (words : List String)
  /-- Any integer. -/
  | number
  /-- An integer from 1 on. -/
  | positive
  /-- The integer 0, or nothing on purpose. -/
  | zeroOrNone
  /-- Any list of texts. -/
  | texts
  /-- At least one text, each of them trimmed and not empty. -/
  | headings
  deriving DecidableEq, Repr

/-- An option of this form may have this value. -/
inductive OptionForm.Allows : OptionForm → OptionValue → Prop
  | flag (value : Bool) : Allows .flag (.bool value)
  | wording {value : String} (filled : value ≠ "") : Allows .wording (.text value)
  | text (value : String) : Allows .text (.text value)
  | someWording {value : String} (filled : value ≠ "") : Allows .wordingOrNone (.text value)
  | noWording : Allows .wordingOrNone .none
  | choice {words : List String} {value : String} (listed : value ∈ words) :
      Allows (.choice words) (.text value)
  | number (value : Int64) : Allows .number (.int value)
  | positive {value : Int64} (atLeastOne : 1 ≤ value.toInt) : Allows .positive (.int value)
  | zero : Allows .zeroOrNone (.int 0)
  | noZero : Allows .zeroOrNone .none
  | texts (values : List String) : Allows .texts (.list values)
  | headings {values : List String} (some : values ≠ [])
      (each : ∀ value ∈ values, value ≠ "" ∧ Text.trim value.toList = value.toList) :
      Allows .headings (.list values)

/-- Entries with exactly these keys in this order, each with a value of its form. Only the keys that are
optional may be missing. -/
inductive OptionsFit (optional : List String) :
    List (String × OptionForm) → List (String × OptionValue) → Prop
  | done : OptionsFit optional [] []
  | set {key : String} {form : OptionForm} {value : OptionValue}
      {forms : List (String × OptionForm)} {entries : List (String × OptionValue)}
      (allowed : form.Allows value) (rest : OptionsFit optional forms entries) :
      OptionsFit optional ((key, form) :: forms) ((key, value) :: entries)
  | missing {key : String} {form : OptionForm} {forms : List (String × OptionForm)}
      {entries : List (String × OptionValue)} (omitted : key ∈ optional)
      (rest : OptionsFit optional forms entries) :
      OptionsFit optional ((key, form) :: forms) entries

namespace Kind

/-- The options of a kind in their order. -/
def optionForms : Kind → List (String × OptionForm)
  | form => [("buttonText", .wording), ("successMessage", .wording), ("styling", .texts),
      ("behavior", .texts)]
  | hero => [("headline", .wording), ("subheadline", .wording), ("ctaText", .wording),
      ("secondaryText", .wordingOrNone), ("badge", .wordingOrNone), ("backgroundImage", .flag),
      ("centered", .flag)]
  | card => [("title", .wording), ("content", .wording), ("buttonText", .wording),
      ("hasImage", .flag), ("hasButton", .flag), ("price", .text), ("badge", .text)]
  | navigation => [("logo", .wording), ("sticky", .flag), ("ctaText", .wording)]
  | modal => [("title", .wording), ("content", .wording), ("confirmText", .wording),
      ("cancelText", .wording), ("triggerText", .wording),
      ("size", .choice ["small", "medium", "large"]), ("showClose", .flag), ("showConfirm", .flag),
      ("showCancel", .flag), ("closeOnOverlay", .flag), ("closeOnEscape", .flag)]
  | table => [("columns", .headings), ("sortable", .flag), ("searchable", .flag),
      ("paginated", .flag), ("striped", .flag), ("hoverable", .flag)]
  | footer => [("copyright", .wording), ("newsletter", .flag)]
  | gallery => [("layout", .choice ["masonry", "carousel", "grid"]), ("columns", .positive),
      ("lightbox", .flag)]
  | accordion => [("allowMultiple", .flag), ("defaultOpen", .zeroOrNone)]
  | tabs => [("vertical", .flag), ("pills", .flag)]
  | carousel => [("autoplay", .flag), ("interval", .number), ("showDots", .flag),
      ("showArrows", .flag)]
  | pricing => [("billingToggle", .flag)]
  | testimonial => [("layout", .choice ["grid", "carousel"]), ("showStars", .flag)]

/-- The options of a kind that are set only when the description speaks of them. -/
def optionalKeys : Kind → List String
  | card => ["price", "badge"]
  | navigation => ["ctaText"]
  | form | hero | modal | table | footer | gallery | accordion | tabs | carousel | pricing
  | testimonial => []

/-- The items that a component of the kind has: none, or only its own; of most kinds at least one. -/
def ItemsFit : Kind → List Item → Prop
  | form, items | hero, items | card, items | modal, items => items = []
  | navigation, items => ∃ links : List Link, links ≠ [] ∧ items = links.map .navLink
  | table, items => ∃ rows : List (List String), items = rows.map .tableRow
  | footer, items => ∃ (groups : List LinkGroup) (links : List SocialLink),
      items = groups.map .footerSection ++ links.map .socialLink
  | gallery, items => ∃ pictures : List Picture, pictures ≠ [] ∧ items = pictures.map .galleryImage
  | accordion, items => ∃ entries : List Section, entries ≠ [] ∧ items = entries.map .accordionEntry
  | tabs, items => ∃ entries : List Section, entries ≠ [] ∧ items = entries.map .tabEntry
  | carousel, items => ∃ slides : List Slide, slides ≠ [] ∧ items = slides.map .slide
  | pricing, items => ∃ plans : List Plan, plans ≠ [] ∧ items = plans.map .pricingPlan
  | testimonial, items =>
    ∃ testimonials : List Testimonial, testimonials ≠ [] ∧ items = testimonials.map .testimonial

end Kind

/-- The extracted parts have the shape of the kind. -/
structure Extraction.Fits (kind : Kind) (extraction : Extraction) : Prop where
  fields : kind ≠ .form → extraction.fields = []
  items : kind.ItemsFit extraction.items
  options : OptionsFit kind.optionalKeys kind.optionForms extraction.options.entries

variable {optional : List String} {forms : List (String × OptionForm)}
  {pairs : List (String × OptionValue)}

/-- Keys are missing, but never more or in another order. -/
theorem OptionsFit.keys_sublist (fit : OptionsFit optional forms pairs) :
    (pairs.map Prod.fst).Sublist (forms.map Prod.fst) := by
  induction fit with
  | done => exact .slnil
  | set _ _ ih => exact ih.cons_cons _
  | missing _ _ ih => exact ih.cons _

theorem Kind.nodup_optionForms (kind : Kind) : (kind.optionForms.map Prod.fst).Nodup := by
  cases kind <;> decide

theorem OptionsFit.ofList {kind : Kind} (fit : OptionsFit optional kind.optionForms pairs) :
    OptionsFit optional kind.optionForms (OrderedMap.ofList pairs).entries := by
  rwa [OrderedMap.entries_ofList (kind.nodup_optionForms.sublist fit.keys_sublist)]

private theorem OptionsFit.setSome {key : String} {form : OptionForm} (omitted : key ∈ optional)
    {value : Option String} (allowed : ∀ text, form.Allows (.text text))
    (rest : OptionsFit optional forms pairs) :
    OptionsFit optional ((key, form) :: forms)
      ((value.map fun text => (key, OptionValue.text text)).toList ++ pairs) := by
  cases value with
  | none => exact .missing omitted rest
  | some text => exact .set (allowed text) rest

theorem keys_ofText?_sublist (key : String) (found : Option String) :
    ((found.map fun text => (key, OptionValue.text text)).toList.map Prod.fst).Sublist [key] := by
  cases found with
  | none => exact List.nil_sublist _
  | some text => exact List.Sublist.refl _

theorem keys_unless_sublist (omitted : Prop) [Decidable omitted] (entry : String × OptionValue) :
    ((if omitted then [] else [entry]).map Prod.fst).Sublist [entry.1] := by
  split
  · exact List.nil_sublist _
  · exact List.Sublist.refl _

namespace OptionForm.Allows

variable {Role : Type} [DecidableEq Role] {roleOf? : Text → Option Role} {lines : List Text}
  {role : Role} {default : String}

private theorem ofRole (given : default ≠ "") :
    OptionForm.wording.Allows (.text ((Slot.fill roleOf? lines role).textOr default)) :=
  .wording (Slot.textOr_ne_empty roleOf? lines role given)

private theorem ofSeenRole (given : default ≠ "") :
    OptionForm.wordingOrNone.Allows (.ofText? ((Slot.fill roleOf? lines role).textWhenSeen? default)) := by
  have filled := Slot.textWhenSeen?_ne_empty roleOf? lines role given
  cases seen : (Slot.fill roleOf? lines role).textWhenSeen? default with
  | none => exact .noWording
  | some value => exact .someWording (filled value seen)

private theorem ofQuoted (given : default ≠ "") : OptionForm.wording.Allows
    (.text (((Text.firstQuotedLine lines).map String.ofList).getD default)) :=
  .wording (wording_ne_empty (Text.firstQuotedLine_ne_some_nil lines) given)

end OptionForm.Allows

namespace Intent

variable (intent : Intent)

private theorem extractForm_fits : intent.extractForm.Fits .form where
  fields other := absurd rfl other
  items := rfl
  options := by
    have started : ({ button := anyButtonText intent.lines } : FormNotes).button ≠ [] :=
      anyButtonText_ne_nil intent.lines
    have button := FormNotes.button_foldl_ne_nil started intent.lines
    exact .ofList <|
      .set (.wording fun empty => button (String.ofList_eq_empty_iff.mp empty)) <|
      .set (.ofQuoted (by decide)) <| .set (.texts _) <| .set (.texts _) .done

private theorem extractHero_fits : intent.extractHero.Fits .hero where
  fields _ := rfl
  items := rfl
  options := .ofList <|
    .set (.ofRole (by decide)) <| .set (.ofRole (by decide)) <| .set (.ofRole (by decide)) <|
    .set (.ofSeenRole (by decide)) <| .set (.ofSeenRole (by decide)) <|
    .set (.flag _) <| .set (.flag _) .done

private theorem extractCard_fits : intent.extractCard.Fits .card where
  fields _ := rfl
  items := rfl
  options := by
    apply OptionsFit.ofList
    rw [List.append_assoc,
      ← List.append_nil (Option.toList (Option.map _ (Slot.textWhenSeen? _ _)))]
    exact .set (.ofRole (by decide)) <| .set (.ofRole (by decide)) <| .set (.ofRole (by decide)) <|
      .set (.flag _) <| .set (.flag _) <|
      .setSome (by decide) .text <| .setSome (by decide) .text .done

private theorem extractNavigation_fits : intent.extractNavigation.Fits .navigation where
  fields _ := rfl
  items := ⟨_, orDefaults_ne_nil _ (by decide), rfl⟩
  options := by
    apply OptionsFit.ofList
    refine .set (.ofQuoted (by decide)) <| .set (.flag _) ?_
    simp only [List.append_eq, List.nil_append]
    split
    · exact .missing (by decide) .done
    · exact .set (.ofQuoted (by decide)) .done

private theorem extractModal_fits : intent.extractModal.Fits .modal where
  fields _ := rfl
  items := rfl
  options := by
    have trigger : (((intent.directiveText? "trigger").filter (!·.isEmpty))).getD
        ((Slot.fill ModalRole.of? intent.lines .trigger).textOr "Open Modal") ≠ "" := by
      cases named : (intent.directiveText? "trigger").filter (!·.isEmpty) with
      | none => exact Slot.textOr_ne_empty _ _ _ (by decide)
      | some text => simpa using (Option.filter_eq_some_iff.mp named).2
    exact .ofList <|
      .set (.ofRole (by decide)) <| .set (.ofRole (by decide)) <| .set (.ofRole (by decide)) <|
      .set (.ofRole (by decide)) <| .set (.wording trigger) <|
      .set (.choice intent.modalSize_mem) <| .set (.flag _) <| .set (.flag _) <|
      .set (.flag _) <| .set (.flag _) <| .set (.flag _) .done

private theorem extractTable_fits : intent.extractTable.Fits .table where
  fields _ := rfl
  items := ⟨_, rfl⟩
  options := by
    have some : intent.tableColumns ≠ [] :=
      orDefaults_ne_nil _ (orDefaults_ne_nil _ (by decide))
    exact .ofList <|
      .set (.headings some fun _ => column_of_mem_tableColumns) <| .set (.flag _) <|
      .set (.flag _) <| .set (.flag _) <| .set (.flag _) <| .set (.flag _) .done

private theorem extractFooter_fits : intent.extractFooter.Fits .footer where
  fields _ := rfl
  items := ⟨_, _, rfl⟩
  options := .ofList <| .set (.wording intent.copyright_ne_empty) <| .set (.flag _) .done

private theorem extractGallery_fits : intent.extractGallery.Fits .gallery where
  fields _ := rfl
  items := ⟨_, orDefaults_ne_nil _ (by simp [defaultPictures]), rfl⟩
  options := by
    have layout : intent.galleryLayout ∈ ["masonry", "carousel", "grid"] := by
      unfold galleryLayout
      split
      · decide
      · split <;> decide
    exact .ofList <|
      .set (.choice layout) <| .set (.positive (toInt_galleryColumns _)) <| .set (.flag _) .done

theorem extractAccordion_fits : intent.extractAccordion.Fits .accordion where
  fields _ := rfl
  items := ⟨_, orDefaults_ne_nil _ (by decide), rfl⟩
  options := by
    refine .ofList <| .set (.flag _) <| .set ?_ .done
    split
    · exact .zero
    · exact .noZero

theorem extractTabs_fits : intent.extractTabs.Fits .tabs where
  fields _ := rfl
  items := ⟨_, orDefaults_ne_nil _ (by decide), rfl⟩
  options := .ofList <| .set (.flag _) <| .set (.flag _) .done

theorem extractCarousel_fits : intent.extractCarousel.Fits .carousel where
  fields _ := rfl
  items := ⟨_, orDefaults_ne_nil _ (by simp [defaultSlides]), rfl⟩
  options := .ofList <|
    .set (.flag _) <| .set (.number _) <| .set (.flag _) <| .set (.flag _) .done

private theorem extractPricing_fits : intent.extractPricing.Fits .pricing where
  fields _ := rfl
  items := ⟨_, orDefaults_ne_nil _ (by decide), rfl⟩
  options := .ofList <| .set (.flag _) .done

private theorem extractTestimonials_fits : intent.extractTestimonials.Fits .testimonial where
  fields _ := rfl
  items := ⟨_, orDefaults_ne_nil _ (by simp [defaultTestimonials]), rfl⟩
  options := by
    refine .ofList <| .set (.choice ?_) <| .set (.flag _) .done
    split <;> decide

/-- Whatever is written, reading it as a component of a kind fills the shape of that kind. -/
theorem extract_fits (kind : Kind) : (intent.extract kind).Fits kind := by
  cases kind with
  | form => exact intent.extractForm_fits
  | hero => exact intent.extractHero_fits
  | card => exact intent.extractCard_fits
  | navigation => exact intent.extractNavigation_fits
  | modal => exact intent.extractModal_fits
  | table => exact intent.extractTable_fits
  | footer => exact intent.extractFooter_fits
  | gallery => exact intent.extractGallery_fits
  | accordion => exact intent.extractAccordion_fits
  | tabs => exact intent.extractTabs_fits
  | carousel => exact intent.extractCarousel_fits
  | pricing => exact intent.extractPricing_fits
  | testimonial => exact intent.extractTestimonials_fits

/-- A card with a line on its price, but with none on a badge. -/
example : (extract ⟨"Offer", "Price: ask us".toList, ∅, 2024⟩ .card).options.keys =
    ["title", "content", "buttonText", "hasImage", "hasButton", "price"] := by decide +kernel

end Intent

end PageSketch
