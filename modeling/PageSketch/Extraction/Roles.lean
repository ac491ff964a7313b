import PageSketch.Extraction.Basic
import PageSketch.Pattern

/-! Kinds whose lines play roles: hero, card and modal. The text of a role is the first quoted text
on its lines. -/
namespace PageSketch

/-- What has been found for one role. -/
structure Slot where
  /-- Whether a line played the role. -/
  seen : Bool := false
  text : Option Text := none
  deriving DecidableEq, Repr

namespace Slot

/-- The slot after one more line of its role; the first quoted text stays. -/
def offer (slot : Slot) (line : Text) : Slot := ⟨true, slot.text.or (Text.firstQuoted line)⟩

/-- The text found, or the default. -/
def textOr (slot : Slot) (default : String) : String := (slot.text.map String.ofList).getD default

/-- The text found, or the default; nothing when no line played the role. -/
def textWhenSeen? (slot : Slot) (default : String) : Option String :=
  if slot.seen then some (slot.textOr default) else none

/-- The slots of all roles after one more line. -/
def offerTo {Role : Type} [DecidableEq Role] (roleOf? : Text → Option Role) (slots : Role → Slot)
    (line : Text) : Role → Slot :=
  fun role => if roleOf? line.lower = some role then (slots role).offer line else slots role

/-- The slots of all roles after the lines, each of which goes to the role it plays. -/
def fill {Role : Type} [DecidableEq Role] (roleOf? : Text → Option Role) (lines : List Text) :
    Role → Slot :=
  lines.foldl (offerTo roleOf?) fun _ => {}

end Slot

/-- The roles of a hero's lines. -/
inductive HeroRole where
  | badge | subheadline | headline | secondary | action
  deriving DecidableEq, Repr

/-- The role that a line in lower case plays in a hero. -/
def HeroRole.of? (line : Text) : Option HeroRole :=
  if line.mentions "badge" then some badge
  else if line.mentionsAny ["subhead", "subtitle", "tagline", "description"] then some subheadline
  else if line.mentionsAny ["headline", "heading", "title"] then some headline
  else if line.mentions "secondary" && line.mentionsAny ["button", "cta", "link"] then
    some secondary
  else if line.mentionsAny ["button", "cta", "call to action"] then some action
  else none

/-- The options of a hero. -/
def Intent.extractHero (intent : Intent) : Extraction :=
  let slots := Slot.fill HeroRole.of? intent.lines
  { options := .ofList
      [("headline", .text ((slots .headline).textOr "Welcome to Our Platform")),
        ("subheadline",
          .text ((slots .subheadline).textOr "Build something amazing with us today.")),
        ("ctaText", .text ((slots .action).textOr "Get Started")),
        ("secondaryText", .ofText? ((slots .secondary).textWhenSeen? "Learn More")),
        ("badge", .ofText? ((slots .badge).textWhenSeen? "New")),
        ("backgroundImage",
          .bool (intent.mentionsAny
            ["background image", "background-image", "bg image", "image background"])),
        ("centered", .bool !(intent.mentionsAny ["left aligned", "left-aligned"]))] }

/-- The roles of a card's lines. -/
inductive CardRole where
  | badge | price | button | title | content
  deriving DecidableEq, Repr

/-- The role that a line in lower case plays in a card. A line on the text of a button is about the
button. -/
def CardRole.of? (line : Text) : Option CardRole :=
  if line.mentions "badge" then some badge
  else if line.mentionsAny ["price", "$"] then some price
  else if line.mentionsAny ["button", "cta"] then some button
  else if line.mentionsAny ["title", "heading", "name"] then some title
  else if line.mentionsAny ["content", "description", "text", "body"] then some content
  else none

open Pattern in
/-- An amount of dollars as a card shows it. -/
def cardPrice : Pattern :=
  literal "$" ++ digits ++ optional (one (fun c => c == '.' || c == ',') ++ digits)

/-- The first amount on the price lines of a card. -/
def firstCardPrice? (lines : List Text) : Option Text :=
  (lines.filter fun line => CardRole.of? line.lower = some .price).findSome? fun line =>
    (cardPrice.find? line).map (·.taken.text)

/-- The price of a card that has a price line: its quoted text, else the first amount. -/
def cardPriceText? (slot : Slot) (lines : List Text) : Option String :=
  if slot.seen then
    some (String.ofList ((slot.text.or (firstCardPrice? lines)).getD []))
  else none

/-- The options of a card. -/
def Intent.extractCard (intent : Intent) : Extraction :=
  let slots := Slot.fill CardRole.of? intent.lines
  let price := (cardPriceText? (slots .price) intent.lines).map fun text =>
    ("price", OptionValue.text text)
  let badge := ((slots .badge).textWhenSeen? "").map fun text => ("badge", OptionValue.text text)
  { options := .ofList <|
      [("title", .text ((slots .title).textOr "Card Title")),
        ("content", .text ((slots .content).textOr "Description text here.")),
        ("buttonText", .text ((slots .button).textOr "View")),
        ("hasImage",
          .bool (intent.mentionsAny ["image", "photo", "picture"] && !intent.mentions "no image")),
        ("hasButton", .bool (intent.mentionsAny ["button", "cta"]))] ++
      price.toList ++ badge.toList }

/-- The roles of a modal's lines. -/
inductive ModalRole where
  | trigger | confirm | cancel | title | content
  deriving DecidableEq, Repr

/-- The role that a line in lower case plays in a modal. -/
def ModalRole.of? (line : Text) : Option ModalRole :=
  if line.mentionsAny ["trigger", "open button", "opens"] then some trigger
  else if line.mentionsAny ["confirm", "primary", "ok button"] then some confirm
  else if line.mentionsAny ["cancel", "dismiss"] then some cancel
  else if line.mentionsAny ["title", "heading", "header"] then some title
  else if line.mentionsAny ["content", "body", "message", "text"] then some content
  else none

/-- The size of a modal: the one its directive names, else one that its description mentions. -/
def Intent.modalSize (intent : Intent) : String :=
  let named := ((intent.directiveText? "size").map fun word => Text.keyword word.toList).filter
    (["small", "medium", "large"].contains ·)
  match named with
  | some size => size
  | none =>
    if intent.mentions "small" then "small"
    else if intent.mentions "large" then "large"
    else "medium"

/-- The options of a modal. -/
def Intent.extractModal (intent : Intent) : Extraction :=
  let slots := Slot.fill ModalRole.of? intent.lines
  let trigger := (((intent.directiveText? "trigger").filter (!·.isEmpty))).getD
    ((slots .trigger).textOr "Open Modal")
  { options := .ofList
      [("title", .text ((slots .title).textOr "Modal Title")),
        ("content", .text ((slots .content).textOr "This is the modal content.")),
        ("confirmText", .text ((slots .confirm).textOr "Confirm")),
        ("cancelText", .text ((slots .cancel).textOr "Cancel")),
        ("triggerText", .text trigger),
        ("size", .text intent.modalSize),
        ("showClose", .bool !(intent.mentionsAny ["no close", "without close"])),
        ("showConfirm", .bool (intent.mentions "confirm")),
        ("showCancel", .bool (intent.mentions "cancel")),
        ("closeOnOverlay", .bool (intent.mentionsAny ["overlay", "click outside"])),
        ("closeOnEscape", .bool (intent.mentionsAny ["escape", "esc key"]))] }

end PageSketch
