import PageSketch.Extraction.Basic
import PageSketch.Pattern
import PageSketch.Text.Placeholder
import PageSketch.Text.WordCase

/-! Kinds whose list lines are their entries: navigation, gallery and carousel. -/
namespace PageSketch

/-- The names that the list lines give, in order, without the empty ones. -/
def listNames (lines : List Text) : List Text :=
  ((lines.filter Text.isListItem).map Text.itemName).filter (!·.isEmpty)

def isLogoLine (line : Text) : Bool := line.mentionsAny ["logo", "brand"]

def isActionLine (line : Text) : Bool := line.mentionsAny ["button", "cta"]

def defaultLinks : List Link :=
  [⟨"Home", "#"⟩, ⟨"Features", "#features"⟩, ⟨"About", "#about"⟩, ⟨"Contact", "#contact"⟩]

/-- The link to the part of the page that a name names. -/
def Link.ofName (name : Text) : Link := ⟨String.ofList name, String.ofList (Text.anchor name)⟩

/-- The links that the lines give; lines on the logo and on the call to action give none. -/
def menuLinks (lines : List Text) : List Link :=
  (listNames (lines.filter fun line => !isLogoLine line.lower && !isActionLine line.lower)).map
    Link.ofName

/-- The links and options of a navigation bar. -/
def Intent.extractNavigation (intent : Intent) : Extraction :=
  let logoLines := intent.lines.filter fun line => isLogoLine line.lower
  let actionLines := intent.lines.filter fun line => isActionLine line.lower
  let quotedOr (lines : List Text) (default : String) : OptionValue :=
    .text (((Text.firstQuotedLine lines).map String.ofList).getD default)
  { items := (orDefaults (menuLinks intent.lines) defaultLinks).map .navLink
    options := .ofList <|
      [("logo", quotedOr logoLines "Brand"),
        ("sticky", .bool (intent.mentionsAny ["sticky", "fixed"]))] ++
      (if actionLines.isEmpty then [] else [("ctaText", quotedOr actionLines "Get Started")]) }

/-- The picture of a gallery at a place. -/
def Intent.galleryPicture (intent : Intent) (index : Nat) (alt caption : String) : Picture :=
  ⟨Text.placeholderImage intent.name index 400 300, alt, caption⟩

/-- The pictures that the list lines of a description give. -/
def Intent.galleryPictures (intent : Intent) : List Picture :=
  (listNames intent.lines).mapIdx fun index name =>
    intent.galleryPicture index (String.ofList name) (String.ofList name)

/-- The pictures of a description without list lines. -/
def Intent.defaultPictures (intent : Intent) : List Picture :=
  (List.range 6).map fun index =>
    intent.galleryPicture index s!"Gallery image {index + 1}" s!"Image {index + 1}"

open Pattern in
def columnCount : Pattern := group digits ++ blanks ++ literal "column" ++ optional (literal "s")

/-- The number of a text, when it is at most `bound`. -/
def boundedNat? (bound : Nat) (text : Text) : Option Nat :=
  (Text.readNat text).filter (· ≤ bound)

def maxInt64 : Nat := 0x7FFFFFFFFFFFFFFF

/-- The number of columns that a text in lower case asks for, if it is one that works. -/
def galleryColumns? (text : Text) : Option Nat :=
  ((columnCount.firstGroup? text).bind (boundedNat? maxInt64)).filter (0 < ·)

/-- How a gallery is laid out. -/
def Intent.galleryLayout (intent : Intent) : String :=
  if intent.mentions "masonry" then "masonry"
  else if intent.mentionsAny ["carousel", "slider"] then "carousel"
  else "grid"

/-- The pictures and options of a gallery. -/
def Intent.extractGallery (intent : Intent) : Extraction :=
  { items := (orDefaults intent.galleryPictures intent.defaultPictures).map .galleryImage
    options := .ofList
      [("layout", .text intent.galleryLayout),
        ("columns", .int (Int64.ofNat ((galleryColumns? intent.lowered).getD 3))),
        ("lightbox", .bool (intent.mentions "lightbox"))] }

/-- The slide of a carousel at a place. -/
def Intent.carouselSlide (intent : Intent) (index : Nat) (title : String) : Slide :=
  ⟨Text.placeholderImage intent.name index 1200 500, title, ""⟩

def Intent.carouselSlides (intent : Intent) : List Slide :=
  (listNames intent.lines).mapIdx fun index name => intent.carouselSlide index (String.ofList name)

/-- The slides of a description without list lines. -/
def Intent.defaultSlides (intent : Intent) : List Slide :=
  (List.range 4).map fun index => intent.carouselSlide index s!"Slide {index + 1}"

open Pattern in
/-- A number of seconds that stands alone. -/
def secondCount : Pattern :=
  wordEdge ++ group digits ++ blanks ++
    either (literal "second" ++ optional (literal "s")) (literal "sec" ++ optional (literal "s")) ++
    wordEdge

/-- The milliseconds between slides that a text in lower case asks for, if they fit. -/
def slideInterval? (text : Text) : Option Nat :=
  ((secondCount.firstGroup? text).bind Text.readNat).bind fun seconds =>
    if seconds * 1000 ≤ maxInt64 then some (seconds * 1000) else none

/-- The slides and options of a carousel. -/
def Intent.extractCarousel (intent : Intent) : Extraction :=
  { items := (orDefaults intent.carouselSlides intent.defaultSlides).map .slide
    options := .ofList
      [("autoplay", .bool (intent.mentionsAny ["autoplay", "auto-play", "automatic"])),
        ("interval", .int (Int64.ofNat ((slideInterval? intent.lowered).getD 5000))),
        ("showDots", .bool !(intent.mentions "no dots")),
        ("showArrows", .bool !(intent.mentions "no arrows"))] }

end PageSketch
