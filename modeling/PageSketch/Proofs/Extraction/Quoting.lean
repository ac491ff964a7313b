import PageSketch.Proofs.Extraction.Notes
import PageSketch.Proofs.Extraction.Shape
import PageSketch.Proofs.Json.Printing
import PageSketch.Proofs.Pattern.Grammar

/-! Options that are worded by a quoted text. Six kinds have such options, each read from lines of its own; one
rule holds for them all: the first quoted text on these lines, or else a wording that stands in for it. -/
namespace PageSketch

def Text.quotedOr (lines : List Text) (default : String) : String :=
  ((firstQuotedLine lines).map String.ofList).getD default

/-- An option that is worded by a quoted text. -/
structure Wording where
  key : String
  /-- The lines it is read from, the preferred ones first. -/
  lines : List Text
  /-- The wording when none of the lines has a quoted text. -/
  fallback : String

def Wording.text (wording : Wording) : String := Text.quotedOr wording.lines wording.fallback

namespace Intent

variable (intent : Intent)

/-- The lines of a form that may name the text of its button, and behind them the lines anywhere that speak of
it. The last line that names it counts. -/
def formButtonLines : List Text :=
  (FormPart.buttonLines (FormPart.general.placed intent.lines)).reverse ++ intent.lines.filter isButtonTextLine

/-- The notes on the behavior of a form that speak of what is shown after it was sent. -/
def successLines : List Text :=
  (FormPart.listLines .behavior (FormPart.general.placed intent.lines)).filter fun line =>
    (Text.itemText line).lower.mentionsAny ["success", "show"]

/-- The lines of a modal that name its trigger; a directive that does is preferred to all of them. -/
def triggerLines : List Text :=
  match (intent.directiveText? "trigger").filter (!·.isEmpty) with
  | some _ => []
  | none => Slot.linesOf ModalRole.of? .trigger intent.lines

/-- The options of a kind that are worded by a quoted text. -/
def wordings : Kind → List Wording
  | .hero =>
    [⟨"headline", Slot.linesOf HeroRole.of? .headline intent.lines, "Welcome to Our Platform"⟩,
      ⟨"subheadline", Slot.linesOf HeroRole.of? .subheadline intent.lines,
        "Build something amazing with us today."⟩,
      ⟨"ctaText", Slot.linesOf HeroRole.of? .action intent.lines, "Get Started"⟩,
      ⟨"secondaryText", Slot.linesOf HeroRole.of? .secondary intent.lines, "Learn More"⟩,
      ⟨"badge", Slot.linesOf HeroRole.of? .badge intent.lines, "New"⟩]
  | .card =>
    [⟨"title", Slot.linesOf CardRole.of? .title intent.lines, "Card Title"⟩,
      ⟨"content", Slot.linesOf CardRole.of? .content intent.lines, "Description text here."⟩,
      ⟨"buttonText", Slot.linesOf CardRole.of? .button intent.lines, "View"⟩,
      ⟨"price", Slot.linesOf CardRole.of? .price intent.lines,
        String.ofList ((firstCardPrice? intent.lines).getD [])⟩,
      ⟨"badge", Slot.linesOf CardRole.of? .badge intent.lines, ""⟩]
  | .modal =>
    [⟨"title", Slot.linesOf ModalRole.of? .title intent.lines, "Modal Title"⟩,
      ⟨"content", Slot.linesOf ModalRole.of? .content intent.lines, "This is the modal content."⟩,
      ⟨"confirmText", Slot.linesOf ModalRole.of? .confirm intent.lines, "Confirm"⟩,
      ⟨"cancelText", Slot.linesOf ModalRole.of? .cancel intent.lines, "Cancel"⟩,
      ⟨"triggerText", intent.triggerLines, "Open Modal"⟩]
  | .navigation =>
    [⟨"logo", intent.lines.filter fun line => isLogoLine line.lower, "Brand"⟩,
      ⟨"ctaText", intent.lines.filter fun line => isActionLine line.lower, "Get Started"⟩]
  | .footer =>
    [⟨"copyright", Text.linesMentioning ["copyright", "©", "(c)"] intent.lines,
      defaultCopyright intent.year⟩]
  | .form =>
    [⟨"buttonText", intent.formButtonLines, "Submit"⟩,
      ⟨"successMessage", intent.successLines, "Success! Thank you for your submission."⟩]
  | .table | .gallery | .accordion | .tabs | .carousel | .pricing | .testimonial => []

end Intent

namespace Slot

variable {Role : Type} [DecidableEq Role] {roleOf? : Text → Option Role} {role : Role} {lines : List Text}

theorem textOr_fill (default : String) :
    (fill roleOf? lines role).textOr default = Text.quotedOr (linesOf roleOf? role lines) default := by
  rw [fill_eq]
  rfl

private theorem textWhenSeen?_fill (some : linesOf roleOf? role lines ≠ []) (default : String) :
    (fill roleOf? lines role).textWhenSeen? default =
      .some (Text.quotedOr (linesOf roleOf? role lines) default) := by
  rw [fill_eq, textWhenSeen?, List.isEmpty_eq_false_iff.mpr some]
  rfl

end Slot

/-- A map of options has the option as it is worded, if one of its lines is there. -/
def Wording.IsIn (wording : Wording) (options : OrderedMap OptionValue) : Prop :=
  wording.lines ≠ [] → options.get? wording.key = some (.text wording.text)

private theorem Wording.isIn_ofList {wording : Wording} {pairs : List (String × OptionValue)}
    (distinct : (pairs.map Prod.fst).Nodup)
    (member : wording.lines ≠ [] → (wording.key, .text wording.text) ∈ pairs) :
    wording.IsIn (OrderedMap.ofList pairs) :=
  fun some => OrderedMap.get?_ofList_of_mem distinct (member some)

namespace Intent

variable {intent : Intent} {wording : Wording}

private theorem isIn_extractHero (listed : wording ∈ intent.wordings .hero) :
    wording.IsIn intent.extractHero.options := by
  refine Wording.isIn_ofList Kind.hero.nodup_optionForms fun some => ?_
  simp only [wordings, List.mem_cons, List.not_mem_nil, or_false] at listed
  rcases listed with rfl | rfl | rfl | rfl | rfl
  · simp [Wording.text, Slot.textOr_fill]
  · simp [Wording.text, Slot.textOr_fill]
  · simp [Wording.text, Slot.textOr_fill]
  · simp [Wording.text, Slot.textWhenSeen?_fill some, OptionValue.ofText?]
  · simp [Wording.text, Slot.textWhenSeen?_fill some, OptionValue.ofText?]

private theorem cardPriceText?_fill (some : Slot.linesOf CardRole.of? .price intent.lines ≠ []) :
    cardPriceText? (Slot.fill CardRole.of? intent.lines .price) intent.lines =
      .some (Text.quotedOr (Slot.linesOf CardRole.of? .price intent.lines)
        (String.ofList ((firstCardPrice? intent.lines).getD []))) := by
  rw [Slot.fill_eq, cardPriceText?, List.isEmpty_eq_false_iff.mpr some, Text.quotedOr]
  cases Text.firstQuotedLine (Slot.linesOf CardRole.of? .price intent.lines) <;> rfl

private theorem isIn_extractCard (listed : wording ∈ intent.wordings .card) :
    wording.IsIn intent.extractCard.options := by
  refine Wording.isIn_ofList ?_ fun some => ?_
  · rw [List.map_append, List.map_append]
    exact Kind.card.nodup_optionForms.sublist
      (((List.Sublist.refl _).append (keys_ofText?_sublist "price" _)).append (keys_ofText?_sublist "badge" _))
  simp only [wordings, List.mem_cons, List.not_mem_nil, or_false] at listed
  rcases listed with rfl | rfl | rfl | rfl | rfl
  · simp [Wording.text, Slot.textOr_fill]
  · simp [Wording.text, Slot.textOr_fill]
  · simp [Wording.text, Slot.textOr_fill]
  · simp [Wording.text, cardPriceText?_fill some]
  · simp [Wording.text, Slot.textWhenSeen?_fill some]

private theorem isIn_extractModal (listed : wording ∈ intent.wordings .modal) :
    wording.IsIn intent.extractModal.options := by
  refine Wording.isIn_ofList Kind.modal.nodup_optionForms fun some => ?_
  simp only [wordings, List.mem_cons, List.not_mem_nil, or_false] at listed
  rcases listed with rfl | rfl | rfl | rfl | rfl
  · simp [Wording.text, Slot.textOr_fill]
  · simp [Wording.text, Slot.textOr_fill]
  · simp [Wording.text, Slot.textOr_fill]
  · simp [Wording.text, Slot.textOr_fill]
  · cases named : (intent.directiveText? "trigger").filter (!·.isEmpty) with
    | some trigger => simp [triggerLines, named] at some
    | none => simp [Wording.text, Slot.textOr_fill, triggerLines, named]

private theorem isIn_extractNavigation (listed : wording ∈ intent.wordings .navigation) :
    wording.IsIn intent.extractNavigation.options := by
  refine Wording.isIn_ofList ?_ fun some => ?_
  · refine Kind.navigation.nodup_optionForms.sublist ?_
    rw [List.map_append]
    exact (List.Sublist.refl _).append (keys_unless_sublist _ ("ctaText", _))
  simp only [wordings, List.mem_cons, List.not_mem_nil, or_false] at listed
  rcases listed with rfl | rfl
  · simp [Wording.text, Text.quotedOr]
  · simp [Wording.text, Text.quotedOr, some]

private theorem isIn_extractFooter (listed : wording ∈ intent.wordings .footer) :
    wording.IsIn intent.extractFooter.options := by
  refine Wording.isIn_ofList Kind.footer.nodup_optionForms fun _ => ?_
  rw [List.mem_singleton.mp listed]
  exact List.mem_cons_self

private theorem button_eq (intent : Intent) :
    String.ofList (intent.lines.foldl FormNotes.read { button := anyButtonText intent.lines }).button =
      Text.quotedOr intent.formButtonLines "Submit" := by
  rw [FormNotes.foldl_read, FormNotes.noting, Text.quotedOr, formButtonLines, Text.firstQuotedLine_append,
    anyButtonText]
  cases Text.firstQuotedLine (FormPart.buttonLines (FormPart.general.placed intent.lines)).reverse with
  | some text => rfl
  | none =>
    cases Text.firstQuotedLine (intent.lines.filter isButtonTextLine) with
    | some text => rfl
    | none => rfl

private theorem successMessage_eq (intent : Intent) (button : Text) :
    successMessage (intent.lines.foldl FormNotes.read { button := button }).behavior =
      Text.quotedOr intent.successLines "Success! Thank you for your submission." := by
  have behavior : (intent.lines.foldl FormNotes.read { button := button }).behavior =
      (FormPart.listLines .behavior (FormPart.general.placed intent.lines)).map Text.itemText := by
    rw [FormNotes.foldl_read]
    exact List.nil_append _
  rw [behavior, successMessage, Text.linesMentioning, List.filter_map, Text.firstQuotedLine_map_itemText]
  rfl

private theorem isIn_extractForm (listed : wording ∈ intent.wordings .form) :
    wording.IsIn intent.extractForm.options := by
  refine Wording.isIn_ofList Kind.form.nodup_optionForms fun some => ?_
  simp only [wordings, List.mem_cons, List.not_mem_nil, or_false] at listed
  rcases listed with rfl | rfl
  · simp [Wording.text, button_eq]
  · simp [Wording.text, successMessage_eq]

/-- An option that is worded by a quoted text is the first quoted text on its lines, or else its fallback. -/
theorem isIn_extract (kind : Kind) (listed : wording ∈ intent.wordings kind) :
    wording.IsIn (intent.extract kind).options := by
  cases kind with
  | hero => exact isIn_extractHero listed
  | card => exact isIn_extractCard listed
  | modal => exact isIn_extractModal listed
  | navigation => exact isIn_extractNavigation listed
  | footer => exact isIn_extractFooter listed
  | form => exact isIn_extractForm listed
  | table | gallery | accordion | tabs | carousel | pricing | testimonial => cases listed

private theorem isQuote_of_mem_firstCardPrice? {lines : List Text} {price : Text}
    (found : firstCardPrice? lines = some price) :
    ∀ char ∈ price, Text.isQuote char = false := by
  obtain ⟨line, _, found⟩ := List.exists_of_findSome?_eq_some found
  obtain ⟨result, search, rfl⟩ := Option.map_eq_some_iff.mp found
  have apart (mark : Char) (avoided : cardPrice.avoids mark = true) : mark ∉ result.taken.text :=
    Pattern.notMem_taken_of_find? search avoided
  intro char member
  exact Text.isQuote_eq_false (· ∈ result.taken.text) member (apart '"' (by decide +kernel))
    (apart '\'' (by decide +kernel))

private theorem isQuote_of_mem_defaultCopyright (year : Int) :
    ∀ char ∈ (defaultCopyright year).toList, Text.isQuote char = false := by
  have plain : ∀ char ∈ "© ".toList ++ " Company. All rights reserved.".toList,
      Text.isQuote char = false := Text.isQuote_of_all (by decide +kernel)
  have numeral {char : Char} (numeral : Json.isNumeralChar char = true) : Text.isQuote char = false :=
    Text.isQuote_eq_false (Json.isNumeralChar · = true) numeral (by decide) (by decide)
  change ∀ char ∈ ("© " ++ toString year ++ " Company. All rights reserved.").toList, _
  intro char member
  rw [String.toList_append, String.toList_append, List.mem_append, List.mem_append] at member
  rcases member with (sign | digit) | rest
  · exact plain char (List.mem_append_left _ sign)
  · exact numeral (Json.isNumeralChar_of_mem year char digit)
  · exact plain char (List.mem_append_right _ rest)

/-- No quotation mark stands in what an option says without a quoted text. -/
theorem isQuote_of_mem_fallback {kind : Kind} (listed : wording ∈ intent.wordings kind) :
    ∀ char ∈ wording.fallback.toList, Text.isQuote char = false := by
  have given : wording.fallback ∈ (intent.wordings kind).map Wording.fallback := List.mem_map_of_mem listed
  have fixed (fallbacks : List String)
      (plain : ∀ fallback ∈ fallbacks, fallback.toList.all (!Text.isQuote ·) = true)
      (member : wording.fallback ∈ fallbacks) :
      ∀ char ∈ wording.fallback.toList, Text.isQuote char = false :=
    Text.isQuote_of_all (plain _ member)
  -- Only the price of a card and the copyright of a footer are not fixed.
  cases kind with
  | hero =>
    exact fixed ["Welcome to Our Platform", "Build something amazing with us today.", "Get Started",
      "Learn More", "New"] (by decide +kernel) given
  | card =>
    have price : ∀ char ∈ (String.ofList ((firstCardPrice? intent.lines).getD [])).toList,
        Text.isQuote char = false := by
      rw [String.toList_ofList]
      cases found : firstCardPrice? intent.lines with
      | none => nofun
      | some price => exact isQuote_of_mem_firstCardPrice? found
    simp only [wordings, List.mem_cons, List.not_mem_nil, or_false] at listed
    rcases listed with rfl | rfl | rfl | rfl | rfl
    · exact fixed ["Card Title"] (by decide +kernel) List.mem_cons_self
    · exact fixed ["Description text here."] (by decide +kernel) List.mem_cons_self
    · exact fixed ["View"] (by decide +kernel) List.mem_cons_self
    · exact price
    · exact fixed [""] (by decide +kernel) List.mem_cons_self
  | modal =>
    exact fixed ["Modal Title", "This is the modal content.", "Confirm", "Cancel", "Open Modal"]
      (by decide +kernel) given
  | navigation => exact fixed ["Brand", "Get Started"] (by decide +kernel) given
  | footer =>
    rw [List.mem_singleton.mp listed]
    exact isQuote_of_mem_defaultCopyright intent.year
  | form => exact fixed ["Submit", "Success! Thank you for your submission."] (by decide +kernel) given
  | table | gallery | accordion | tabs | carousel | pricing | testimonial => cases listed

private theorem isQuote_of_mem_text {kind : Kind} (listed : wording ∈ intent.wordings kind) :
    ∀ char ∈ wording.text.toList, Text.isQuote char = false := by
  rw [Wording.text, Text.quotedOr]
  cases found : Text.firstQuotedLine wording.lines with
  | none => exact isQuote_of_mem_fallback listed
  | some text =>
    obtain ⟨line, _, quoted⟩ := List.exists_of_findSome?_eq_some found
    rw [Option.map_some, Option.getD_some, String.toList_ofList]
    exact Text.isQuote_of_mem_firstQuoted quoted

end Intent

/-- A text between two equal marks, the first ones of its line, is read whole just if the other mark is not in it.
That holds of the options too that are worded by a quoted text: the first line with one decides. -/
theorem quoted_text_read_whole_iff {mark other : Char} (isMark : Text.isQuote mark = true)
    (isOther : Text.isQuote other = true) (differ : other ≠ mark) {before text : Text}
    (start : ∀ char ∈ before, Text.isQuote char = false) (filled : text ≠ []) (closed : mark ∉ text)
    (after : Text) :
    (Text.firstQuoted (before ++ mark :: text ++ mark :: after) = some text ↔ other ∉ text) ∧
      ∀ (intent : Intent) (kind : Kind), ∀ wording ∈ intent.wordings kind, ∀ earlier later,
        wording.lines = earlier ++ (before ++ mark :: text ++ mark :: after) :: later →
        Text.firstQuotedLine earlier = none →
        ((intent.extract kind).options.get? wording.key = some (.text (String.ofList text)) ↔
          other ∉ text) := by
  have whole := Text.firstQuoted_eq_some_iff isMark isOther differ start filled closed after
  refine ⟨whole, fun intent kind wording listed earlier later lines nothing => ?_⟩
  have present : wording.lines ≠ [] := by
    rw [lines]
    exact List.append_ne_nil_of_right_ne_nil _ (List.cons_ne_nil _ _)
  rw [Intent.isIn_extract kind listed present]
  constructor
  · intro same inside
    have worded : wording.text = String.ofList text := OptionValue.text.inj (Option.some.inj same)
    have plain := Intent.isQuote_of_mem_text listed
    rw [worded, String.toList_ofList] at plain
    rw [plain other inside] at isOther
    cases isOther
  · intro absent
    rw [Wording.text, Text.quotedOr, lines, Text.firstQuotedLine_append, nothing, Option.none_or,
      Text.firstQuotedLine_cons, whole.mpr absent]
    rfl

theorem quoted_text_read_whole_headline :
    (Intent.extract ⟨"Page", "Headline: \"Ship it\"".toList, ∅, 2025⟩ .hero).options.get? "headline" =
      some (.text "Ship it") := by
  have start : ∀ char ∈ "Headline: ".toList, Text.isQuote char = false := Text.isQuote_of_all (by decide)
  have filled : "Ship it".toList ≠ [] := by decide
  have closed : '"' ∉ "Ship it".toList := by decide
  have isOther : Text.isQuote '\'' = true := rfl
  obtain ⟨_, options⟩ := quoted_text_read_whole_iff rfl isOther (by decide) start filled closed []
  let intent : Intent := ⟨"Page", "Headline: \"Ship it\"".toList, ∅, 2025⟩
  have lines : Slot.linesOf HeroRole.of? .headline intent.lines =
      [] ++ ("Headline: ".toList ++ '"' :: "Ship it".toList ++ '"' :: []) :: [] := by
    decide +kernel
  exact (options intent .hero ⟨"headline", _, _⟩ List.mem_cons_self [] [] lines rfl).mpr (by decide)

/-- An apostrophe ends a text in double quotation marks. -/
theorem apostrophe_ends_quoted_text :
    '"' ∉ "It's here".toList ∧
      Text.firstQuoted "Headline: \"It's here\"".toList ≠ some "It's here".toList ∧
      (Intent.extract ⟨"Page", "Headline: \"It's here\"".toList, ∅, 2025⟩ .hero).options.get? "headline" =
        some (.text "It") := by
  decide +kernel

end PageSketch
