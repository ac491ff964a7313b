import PageSketch.Component.Field
import PageSketch.Component.Item
import PageSketch.Component.Look
import PageSketch.Component.Value
import PageSketch.OrderedMap

/-! Components and what is set on them. -/
namespace PageSketch

/-- One component of a page, as described by one block of a source. -/
structure Component where
  name : String
  kind : Kind := .form
  theme : Theme := .light
  style : Style := .vanilla
  description : String := ""
  /-- Every directive seen, unknown ones included. -/
  directives : OrderedMap DirectiveValue := ∅
  fields : List Field := []
  items : List Item := []
  options : OrderedMap OptionValue := ∅
  deriving DecidableEq, Repr

namespace Component

/-- The text of a directive; flags have none. -/
def directiveText? (component : Component) (name : String) : Option String :=
  (component.directives.get? name).bind DirectiveValue.text?

def option? (component : Component) (key : String) : Option OptionValue :=
  component.options.get? key

def optionText? (component : Component) (key : String) : Option String :=
  (component.option? key).bind OptionValue.text?

/-- Whether an option is the Boolean true; an option that is not set is not. -/
def optionIsTrue (component : Component) (key : String) : Bool :=
  (component.option? key).any OptionValue.isTrue

def optionInt? (component : Component) (key : String) : Option Int64 :=
  (component.option? key).bind OptionValue.int?

def optionList? (component : Component) (key : String) : Option (List String) :=
  (component.option? key).bind OptionValue.list?

def setOption (component : Component) (key : String) (value : OptionValue) : Component :=
  { component with options := component.options.set key value }

def setDirective (component : Component) (name raw : String) : Component :=
  { component with directives := component.directives.set name (.ofRaw raw) }

/-- The accent colour that the component asks for; gold when it asks for none or an unknown one. -/
def accent (component : Component) : Accent :=
  ((component.directiveText? "accent").bind fun word => Accent.ofWord? word.toList).getD .gold

/-- Whether the component asks for rules for narrow screens. -/
def isResponsive (component : Component) : Bool :=
  (component.directives.get? "responsive").any DirectiveValue.isOn

end Component

end PageSketch
