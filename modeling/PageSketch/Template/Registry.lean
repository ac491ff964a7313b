import PageSketch.OrderedMap
import PageSketch.Template.Parser
import PageSketch.Template.Render

/-! Templates under names. -/
namespace PageSketch.Template

/-- The templates that pages are made with, by name. -/
structure Registry where
  templates : OrderedMap Template := ∅

/-- Why a registry yields no text. -/
inductive RegistryError where
  /-- No template has the name. -/
  | notFound (name : String)
  /-- The text is no template. -/
  | invalid {cause : TextError}
  /-- The template cannot be filled with the data. -/
  | render (cause : RenderError)
  deriving DecidableEq, Repr

/-- What went wrong, in words. What is wrong with a text that is no template is said by `words`, where the text
itself stands for it unless other words are given. -/
def RegistryError.message (error : RegistryError) (words : TextError → String := TextError.text) : String :=
  match error with
  | notFound name => "Template not found: " ++ name
  | @invalid cause => "Invalid template: " ++ words cause
  | render cause => "Template error: " ++ cause.message words

namespace Registry

/-- The registry with the template of a text under a name, unless the text is no template. -/
def register (registry : Registry) (name text : String) : Except RegistryError Registry :=
  match parse? text.toList with
  | some template => .ok ⟨registry.templates.set name template⟩
  | none => .error (@RegistryError.invalid ⟨some name, text⟩)

def has (registry : Registry) (name : String) : Bool := (registry.templates.get? name).isSome

/-- The template of a name, filled with data. An error says the name. -/
def render (registry : Registry) (name : String) (data : Json) : Except RegistryError String :=
  match registry.templates.get? name with
  | some template => (template.render data).mapError fun cause => .render (cause.inTemplate name)
  | none => .error (.notFound name)

end Registry

/-- The template of a text, filled with data. The template has no name that an error could say. -/
def renderText (text : String) (data : Json) : Except RegistryError String :=
  match parse? text.toList with
  | some template => (Template.render template data).mapError .render
  | none => .error (.render { reason := .unparsed ⟨none, text⟩ })

end PageSketch.Template
