import PageSketch.Component.Basic
import PageSketch.Text.Quoted

/-! What is read from, and what is read: descriptions and their extracted parts. -/
namespace PageSketch

/-- What a component's author wrote, ready for reading. -/
structure Intent where
  /-- The name of the component. -/
  name : String
  description : Text
  directives : OrderedMap DirectiveValue := ∅
  /-- The year of a copyright line that the description does not give. -/
  year : Int

namespace Intent

/-- The description in lower case. -/
def lowered (intent : Intent) : Text := intent.description.lower

/-- The trimmed lines of the description that are not empty. -/
def lines (intent : Intent) : List Text := intent.description.lines

/-- Whether the description mentions `needle`, which is in lower case. -/
def mentions (intent : Intent) (needle : String) : Bool := intent.lowered.mentions needle

/-- Whether the description mentions one of the needles, which are in lower case. -/
def mentionsAny (intent : Intent) (needles : List String) : Bool :=
  intent.lowered.mentionsAny needles

def directiveText? (intent : Intent) (name : String) : Option String :=
  (intent.directives.get? name).bind DirectiveValue.text?

/-- What was written for a component. -/
def ofComponent (component : Component) (year : Int) : Intent :=
  ⟨component.name, component.description.toList, component.directives, year⟩

end Intent

/-- The parts of a component that are read from its description. -/
structure Extraction where
  fields : List Field := []
  items : List Item := []
  options : OrderedMap OptionValue := ∅
  deriving DecidableEq, Repr

/-- The component with the extracted parts in place of its own. -/
def Component.withExtraction (component : Component) (extraction : Extraction) : Component :=
  { component with
    fields := extraction.fields
    items := extraction.items
    options := extraction.options }

/-- The lines that, in any letter case, mention one of the needles. -/
def Text.linesMentioning (needles : List String) (lines : List Text) : List Text :=
  lines.filter fun line => line.lower.mentionsAny needles

/-- Entries, or the entries that stand in when there are none. -/
def orDefaults {Entry : Type} (entries defaults : List Entry) : List Entry :=
  if entries.isEmpty then defaults else entries

end PageSketch
