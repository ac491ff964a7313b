import PageSketch.Double.Basic
import PageSketch.Text.Basic

/-! JSON values whose objects keep the order of their fields. -/
namespace PageSketch

/-- A JSON value. A number is an integer or a double, and the two are never the same. -/
inductive Json where
  | null
  | bool (value : Bool)
  | number (value : Int)
  | double (value : Double)
  | text (value : String)
  | array (values : List Json)
  | object (fields : List (String × Json))
  deriving Repr, Inhabited

namespace Json

/-- The Boolean, if the value is one. -/
def bool? : Json → Option Bool
  | bool value => some value
  | _ => none

/-- The integer, if the value is one. -/
def number? : Json → Option Int
  | number value => some value
  | _ => none

/-- The text, if the value is one. -/
def text? : Json → Option String
  | text value => some value
  | _ => none

/-- The elements, if the value is an array. -/
def array? : Json → Option (List Json)
  | array values => some values
  | _ => none

/-- The fields, if the value is an object. -/
def object? : Json → Option (List (String × Json))
  | object fields => some fields
  | _ => none

def texts? (value : Json) : Option (List String) :=
  value.array?.bind fun values => values.mapM text?

def ofTexts (texts : List String) : Json := array (texts.map text)

def field? (value : Json) (name : String) : Option Json :=
  value.object?.bind fun fields => fields.lookup name

end Json

end PageSketch
