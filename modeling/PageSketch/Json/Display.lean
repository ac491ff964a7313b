import PageSketch.Double.Decimal
import PageSketch.Json.Basic

/-! JSON values as a page shows and tests them. -/
namespace PageSketch.Json

mutual

/-- The text that stands for a value on a page: nothing for null, brackets around an array. -/
def display : Json → Text
  | null => []
  | bool value => (if value then "true" else "false").toList
  | number value => (toString value).toList
  | double value => value.text
  | text value => value.toList
  | array values => '[' :: displayAll values ++ [']']
  | object _ => "[object]".toList

/-- The texts of several values, parted by commas. -/
def displayAll : List Json → Text
  | [] => []
  | [only] => display only
  | first :: second :: rest => display first ++ ", ".toList ++ displayAll (second :: rest)

end

/-- Whether a test on a value holds: null, false, zero and everything empty fail it. So do the
doubles that are too small for a full mantissa. -/
def isTruthy : Json → Bool
  | null => false
  | bool value => value
  | number value => value != 0
  | double value => value.isNormal
  | text value => !value.isEmpty
  | array values => !values.isEmpty
  | object fields => !fields.isEmpty

mutual

/-- Whether two values are equal. -/
def same : Json → Json → Bool
  | null, null => true
  | bool left, bool right => left == right
  | number left, number right => left == right
  | double left, double right => left.same right
  | text left, text right => left == right
  | array left, array right => sameAll left right
  | object left, object right => sameFields left right
  | _, _ => false

/-- Whether two lists hold equal values. -/
def sameAll : List Json → List Json → Bool
  | [], [] => true
  | left :: lefts, right :: rights => same left right && sameAll lefts rights
  | _, _ => false

/-- Whether two objects hold equal fields in the same order. -/
def sameFields : List (String × Json) → List (String × Json) → Bool
  | [], [] => true
  | (name, left) :: lefts, (other, right) :: rights =>
    name == other && same left right && sameFields lefts rights
  | _, _ => false

end

end PageSketch.Json
