/-! The fields of a form. -/
namespace PageSketch

/-- The control that a field is filled in with. -/
inductive Control where
  | text | email | password | tel | url | number | date | select | textarea | checkbox
  deriving DecidableEq, Repr

namespace Control

def all : List Control :=
  [text, email, password, tel, url, number, date, select, textarea, checkbox]

/-- The canonical name. -/
def name : Control → String
  | text => "text"
  | email => "email"
  | password => "password"
  | tel => "tel"
  | url => "url"
  | number => "number"
  | date => "date"
  | select => "select"
  | textarea => "textarea"
  | checkbox => "checkbox"

def ofName? (name : String) : Option Control := all.find? (·.name == name)

end Control

/-- One field of a form. Only a select field has choices. -/
structure Field where
  control : Control
  name : String
  label : String
  placeholder : String
  required : Bool
  minLength : Option UInt32
  choices : List String
  deriving DecidableEq, Repr

end PageSketch
