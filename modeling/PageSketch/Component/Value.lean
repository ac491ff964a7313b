import PageSketch.Component.Kind

/-! The values of directives and of options. -/
namespace PageSketch

/-- The value of a directive: a text, or a bare flag. -/
inductive DirectiveValue where
  | text (text : String)
  | flag (isSet : Bool)
  deriving DecidableEq, Repr

namespace DirectiveValue

/-- A directive without a value is a flag that is set. -/
def ofRaw (raw : String) : DirectiveValue := if raw.isEmpty then flag true else text raw

/-- The text of a directive; a flag has none. -/
def text? : DirectiveValue → Option String
  | text value => some value
  | flag _ => none

/-- A text switches its directive on unless it is one of the words for off. -/
def isOn : DirectiveValue → Bool
  | text value => !(["false", "no", "off", "0"].contains (String.ofList (Text.lower value.toList)))
  | flag isSet => isSet

end DirectiveValue

/-- The value of an option. -/
inductive OptionValue where
  | bool (value : Bool)
  | int (value : Int64)
  | text (value : String)
  | list (values : List String)
  /-- Set to nothing on purpose. -/
  | none
  deriving DecidableEq, Repr

namespace OptionValue

/-- The text, or nothing on purpose. -/
def ofText? (text : Option String) : OptionValue := (text.map OptionValue.text).getD none

/-- The value is the Boolean true. -/
def isTrue : OptionValue → Bool
  | bool value => value
  | _ => false

/-- The integer, if the value is one. -/
def int? : OptionValue → Option Int64
  | int value => some value
  | _ => Option.none

/-- The text, if the value is one. -/
def text? : OptionValue → Option String
  | text value => some value
  | _ => Option.none

/-- The list, if the value is one. -/
def list? : OptionValue → Option (List String)
  | list values => some values
  | _ => Option.none

end OptionValue

end PageSketch
