import PageSketch.Extraction.Lists

/-! Forms: their fields, their button, and notes on style and behaviour. -/
namespace PageSketch

/-- A field that a form gets when its description shows the sign. -/
structure FieldRule where
  /-- A pattern in lower-case text. -/
  sign : Pattern
  control : Control
  name : String
  label : String
  placeholder : String

open Pattern in
/-- The rules in the order of the fields they yield. -/
def fieldRules : List FieldRule :=
  [⟨word (literal "e" ++ optional (literal "-") ++ literal "mail"), .email, "email",
      "Email Address", "Enter your email"⟩,
    ⟨word (optional (literal "full" ++ several Text.isBlank) ++ literal "name"), .text, "name",
      "Full Name", "Enter your name"⟩,
    ⟨oneWord ["username"], .text, "username", "Username", "Choose a username"⟩,
    ⟨oneWord ["password"], .password, "password", "Password", "Enter your password"⟩,
    ⟨oneWord ["phone", "telephone", "mobile"], .tel, "phone", "Phone Number",
      "Enter your phone number"⟩,
    ⟨oneWord ["website", "url"], .url, "website", "Website", "https://"⟩,
    ⟨oneWord ["date", "birthday"], .date, "date", "Date", ""⟩,
    ⟨oneWord ["quantity", "amount"], .number, "quantity", "Quantity", "0"⟩,
    ⟨oneWord ["subject"], .select, "subject", "Subject", "Select a subject"⟩,
    ⟨oneWord ["dropdown", "select"], .select, "select", "Select", "Choose an option"⟩,
    ⟨oneWord ["message", "textarea", "comments", "comment"], .textarea, "message", "Message",
      "Write your message here..."⟩,
    ⟨oneWord ["checkbox", "agree", "terms"], .checkbox, "terms",
      "I agree to the terms and conditions", ""⟩]

/-- The sign in lower-case text that all fields must be filled in. -/
def requiredSign : Pattern := Pattern.oneWord ["required"]

def isColonOrBlank (char : Char) : Bool := char == ':' || Text.isBlank char

open Pattern in
/-- A placeholder text in quotation marks. -/
def placeholderNote : Pattern :=
  caseless "placeholder" ++ several isColonOrBlank ++ one Text.isQuote ++
    group (several (!Text.isQuote ·)) ++ one Text.isQuote

open Pattern in
/-- A minimum length. -/
def minLengthNote : Pattern :=
  wordEdge ++ caseless "min" ++ optional (caseless "imum") ++
    optional (several Text.isBlank ++ caseless "length") ++ blanks ++
    optional (literal ":" ++ blanks) ++ group digits

open Pattern in
/-- A list of choices, up to a closing parenthesis. -/
def choicesNote : Pattern :=
  caseless "option" ++ optional (caseless "s") ++ someOf isColonOrBlank ++
    group (several (· != ')'))

def defaultChoices : List String := ["General", "Support", "Partnership"]

/-- A choice without blanks and quotation marks around it. -/
def bareChoice (text : Text) : Text :=
  Text.trim (Text.dropEndWhile Text.isQuote (text.trim.dropWhile Text.isQuote))

/-- The choices that a line gives. -/
def choicesOn (line : Text) : List String :=
  let note := (choicesNote.firstGroup? line).getD []
  (((Text.pieces (· == ',') note).map bareChoice).filter (!·.isEmpty)).map String.ofList

/-- The minimum length that a line gives, if it has 32 bits. -/
def minLengthOn (line : Text) : Option UInt32 :=
  ((minLengthNote.firstGroup? line).bind (boundedNat? (UInt32.size - 1))).map UInt32.ofNat

/-- The field that a rule yields for the line that shows its sign. -/
def FieldRule.fieldOn (rule : FieldRule) (required : Bool) (line : Text) : Field where
  control := rule.control
  name := rule.name
  label := rule.label
  placeholder := ((placeholderNote.firstGroup? line).map String.ofList).getD rule.placeholder
  required := required
  minLength := minLengthOn line
  choices := if rule.control = .select then orDefaults (choicesOn line) defaultChoices else []

/-- The fields of a form: one for each rule whose sign the description shows, read from the first
line that shows it. -/
def Intent.formFields (intent : Intent) : List Field :=
  let lowered := intent.lowered
  let lines := intent.lines.map fun line => (line, line.lower)
  let required := requiredSign.occursIn lowered
  (fieldRules.filter fun rule => rule.sign.occursIn lowered).map fun rule =>
    let line := lines.find? fun (_, lowered) => rule.sign.occursIn lowered
    rule.fieldOn required ((line.map Prod.fst).getD [])

/-- The parts that the header lines of a form open. -/
inductive FormPart where
  | general | fields | styling | behavior | button
  deriving DecidableEq, Repr

/-- The part that a header line in lower case opens. -/
def FormPart.opened? (line : Text) : Option FormPart :=
  if line.mentions "field" && line.mentions ":" then some fields
  else if line.mentionsAny ["styling", "style"] then some styling
  else if line.mentionsAny ["behavior", "behaviour", "when"] then some behavior
  else if line.mentionsAny ["submit button", "button:"] && !line.mentions "disable" then some button
  else none

/-- What the lines of a form have given so far. -/
structure FormNotes where
  part : FormPart := .general
  button : Text
  styling : List Text := []
  behavior : List Text := []

/-- The notes after one more line. -/
def FormNotes.read (notes : FormNotes) (line : Text) : FormNotes :=
  if Text.isListItem line then
    let text := Text.itemText line
    match notes.part with
    | .styling => { notes with styling := notes.styling ++ [text] }
    | .behavior => { notes with behavior := notes.behavior ++ [text] }
    | .button => { notes with button := (Text.firstQuoted text).getD notes.button }
    | .general | .fields => notes
  else
    match FormPart.opened? line.lower with
    | some .button =>
      { notes with part := .button, button := (Text.firstQuoted line).getD notes.button }
    | some part => { notes with part := part }
    | none => notes

/-- Whether a line speaks of the text of a button. -/
def isButtonTextLine (line : Text) : Bool :=
  let lowered := line.lower
  let hasQuote := line.any Text.isQuote
  (lowered.mentions "button" && (lowered.mentions "text" || hasQuote)) ||
    (lowered.mentions "text:" && hasQuote)

/-- The button text that a description mentions anywhere. -/
def anyButtonText (lines : List Text) : Text :=
  (Text.firstQuotedLine (lines.filter isButtonTextLine)).getD "Submit".toList

/-- The message shown after a form was sent. -/
def successMessage (behavior : List Text) : String :=
  ((Text.firstQuotedLine (Text.linesMentioning ["success", "show"] behavior)).map
    String.ofList).getD "Success! Thank you for your submission."

/-- The fields and options of a form. -/
def Intent.extractForm (intent : Intent) : Extraction :=
  let notes := intent.lines.foldl FormNotes.read { button := anyButtonText intent.lines }
  { fields := intent.formFields
    options := .ofList
      [("buttonText", .text (String.ofList notes.button)),
        ("successMessage", .text (successMessage notes.behavior)),
        ("styling", .list (notes.styling.map String.ofList)),
        ("behavior", .list (notes.behavior.map String.ofList))] }

end PageSketch
