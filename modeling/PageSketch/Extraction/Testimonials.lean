import PageSketch.Extraction.Basic
import PageSketch.Text.Placeholder

/-! Testimonials: quotes, each attributed by the first list line after it. -/
namespace PageSketch

/-- Who said something: `Name, Role at Company` or `Name, Role, Company`. -/
structure Attribution where
  author : Text
  role : Text
  company : Text
  deriving DecidableEq, Repr

/-- The attribution that a text gives. -/
def Attribution.ofText (text : Text) : Attribution :=
  let (author, rest) := match Text.cut? [','] text with
    | some (before, after) => (before.trim, after.trim)
    | none => (text.trim, [])
  let (role, company) :=
    match (Text.cut? " at ".toList rest).or (Text.cut? [','] rest) with
    | some (before, after) => (before.trim, after.trim)
    | none => (rest, [])
  ⟨author, role, company⟩

/-- The quote that a line gives: it starts with `>`, or one pair of equal marks encloses it. -/
def quoteOn? (line : Text) : Option Text :=
  match Text.after? ['>'] line with
  | some rest => some (Text.unquote rest)
  | none =>
    if ((Text.enclosed? '"' line).or (Text.enclosed? '\'' line)).isSome then
      some (Text.unquote line)
    else none

def portrait (name : String) (index : Nat) : String :=
  s!"https://i.pravatar.cc/150?img={Text.placeholderNumber name index 70}"

/-- A quote at a place, by nobody yet. -/
def Testimonial.ofQuote (name : String) (index : Nat) (quote : String) : Testimonial :=
  ⟨quote, "", "", "", portrait name index, 5⟩

/-- The testimonial with its attribution. -/
def Testimonial.by (testimonial : Testimonial) (source : Attribution) : Testimonial :=
  { testimonial with
    author := String.ofList source.author
    role := String.ofList source.role
    company := String.ofList source.company }

/-- The testimonials read so far, and whether the last one still lacks its attribution. -/
structure TestimonialNotes where
  read : List Testimonial := []
  awaitsAuthor : Bool := false

/-- The notes after one more line. -/
def TestimonialNotes.add (name : String) (notes : TestimonialNotes) (line : Text) :
    TestimonialNotes :=
  match quoteOn? line, notes.read.getLast? with
  | some quote, _ =>
    ⟨notes.read ++ [.ofQuote name notes.read.length (String.ofList quote)], true⟩
  | none, some last =>
    if notes.awaitsAuthor && Text.isListItem line then
      ⟨notes.read.dropLast ++ [last.by (.ofText (Text.itemText line))], false⟩
    else notes
  | none, none => notes

/-- The testimonials of a description without quotes. -/
def defaultTestimonials (name : String) : List Testimonial :=
  [("This product completely changed how our team works.", "Sarah Johnson", "Product Manager",
      "TechCorp"),
    ("Setup took five minutes and support has been fantastic.", "Michael Chen", "CTO",
      "StartupXYZ"),
    ("The best investment we made this year.", "Emily Davis", "Founder", "DesignStudio")].mapIdx
    fun index (quote, author, role, company) =>
      { Testimonial.ofQuote name index quote with author, role, company }

/-- The testimonials that the lines give. -/
def Intent.testimonials (intent : Intent) : List Testimonial :=
  (intent.lines.foldl (TestimonialNotes.add intent.name) {}).read

/-- The testimonials and their options. -/
def Intent.extractTestimonials (intent : Intent) : Extraction :=
  { items := (orDefaults intent.testimonials (defaultTestimonials intent.name)).map .testimonial
    options := .ofList
      [("layout", .text (if intent.mentions "grid" then "grid" else "carousel")),
        ("showStars", .bool (intent.mentionsAny ["star", "rating"]))] }

end PageSketch
