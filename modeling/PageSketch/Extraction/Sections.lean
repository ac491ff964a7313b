import PageSketch.Extraction.Basic
import PageSketch.Pattern

/-! Descriptions cut into titled sections: accordions and tabs. -/
namespace PageSketch

/-- The text after `mark`, when it starts with it in any case of the ASCII letters. -/
def Text.afterLetters? : (mark text : Text) → Option Text
  | [], text => some text
  | _ :: _, [] => none
  | mark :: marks, first :: rest =>
    if first.toLower = mark then afterLetters? marks rest else none

open Pattern in
/-- A list line that is one quoted text and nothing else. -/
def quotedItem : Pattern :=
  textStart ++ literal "-" ++ blanks ++ one Text.isQuote ++ group (several (!Text.isQuote ·)) ++
    one Text.isQuote ++ blanks ++ textEnd

open Pattern in
/-- The mark of an answer at the start of a line. -/
def answerMark : Pattern := textStart ++ caseless "a:" ++ blanks

/-- The line without the mark of an answer. -/
def withoutAnswerMark (line : Text) : Text :=
  ((answerMark.find? line).map (·.rest)).getD line

/-- The title that a header line gives: it starts with two hashes or with `mark`, or it is a list
line that is one quoted text. -/
def headerTitle? (mark : String) (line : Text) : Option Text :=
  match Text.after? ['#', '#'] line with
  | some rest => some (Text.unquote (rest.dropWhile (· == '#')))
  | none =>
    match Text.afterLetters? mark.toList line with
    | some rest => some (Text.unquote rest)
    | none => (quotedItem.firstGroup? line).map Text.trim

/-- The sections after one more line: a header opens one, any other line goes to the last one. -/
def addSectionLine (mark : String) (sections : List (Text × Text)) (line : Text) :
    List (Text × Text) :=
  match headerTitle? mark line, sections.getLast? with
  | some title, _ => sections ++ [(title, [])]
  | none, some (title, content) =>
    sections.dropLast ++ [(title, content ++ withoutAnswerMark line ++ [' '])]
  | none, none => sections

/-- The sections that the lines make up. Lines before the first header belong to none. -/
def collectSections (mark : String) (lines : List Text) : List Section :=
  (lines.foldl (addSectionLine mark) []).map fun (title, content) =>
    ⟨String.ofList title, String.ofList content⟩

/-- The entries of an accordion without headers. -/
def defaultQuestions : List Section :=
  [⟨"What is this product?", "A short answer explaining what the product does."⟩,
    ⟨"How do I get started?", "Sign up for an account and follow the onboarding guide."⟩,
    ⟨"Can I cancel anytime?", "Yes. You can cancel your subscription at any time."⟩]

/-- The tabs of a description without headers. -/
def defaultTabs : List Section :=
  [⟨"Overview", "An overview of the product and what it offers."⟩,
    ⟨"Features", "A list of the main features."⟩,
    ⟨"Pricing", "Plans and pricing details."⟩]

/-- The entries and options of an accordion. -/
def Intent.extractAccordion (intent : Intent) : Extraction :=
  { items := (orDefaults (collectSections "q:" intent.lines) defaultQuestions).map .accordionEntry
    options := .ofList
      [("allowMultiple", .bool (intent.mentions "multiple")),
        ("defaultOpen", if intent.mentionsAny ["open", "expanded"] then .int 0 else .none)] }

/-- The tabs and their options. -/
def Intent.extractTabs (intent : Intent) : Extraction :=
  { items := (orDefaults (collectSections "tab:" intent.lines) defaultTabs).map .tabEntry
    options := .ofList
      [("vertical", .bool (intent.mentions "vertical")),
        ("pills", .bool (intent.mentions "pill"))] }

end PageSketch
