import PageSketch.Json.Display
import PageSketch.Template.Error
import PageSketch.Text.WordCase

/-! The functions and blocks that templates may call. -/
namespace PageSketch.Template

/-- A function for use in templates. -/
inductive Function where
  /-- A name in kebab case. -/
  | kebabCase
  /-- A name in pascal case. -/
  | pascalCase
  /-- A text with its first character in upper case. -/
  | upperFirst
  /-- A rating of up to five stars. -/
  | stars
  /-- The texts of an array, joined. -/
  | join
  /-- Whether two values are equal. -/
  | eq
  /-- Whether two values differ. -/
  | ne
  /-- Whether an integer is greater than another one. -/
  | gt
  /-- Whether an integer is not less than another one. -/
  | gte
  /-- Whether an integer is less than another one. -/
  | lt
  /-- Whether an integer is not greater than another one. -/
  | lte
  /-- Whether tests on two values hold. -/
  | and
  /-- Whether a test on one of two values holds. -/
  | or
  /-- Whether a test on a value fails. -/
  | not
  /-- How many elements, fields or bytes a value has. -/
  | len
  /-- The element or field of a value at a place. -/
  | lookup
  deriving DecidableEq, Repr

namespace Function

/-- The function that templates call by this name. -/
def named? : String → Option Function
  | "kebab_case" => some kebabCase
  | "pascal_case" => some pascalCase
  | "upper_first" => some upperFirst
  | "stars" => some stars
  | "join" => some join
  | "eq" => some eq
  | "ne" => some ne
  | "gt" => some gt
  | "gte" => some gte
  | "lt" => some lt
  | "lte" => some lte
  | "and" => some and
  | "or" => some or
  | "not" => some not
  | "len" => some len
  | "lookup" => some lookup
  | _ => none

/-- The text among the arguments at a place; empty when there is none. -/
def textAt (args : List Json) (place : Nat) : Text :=
  (((args[place]?).bind Json.text?).map String.toList).getD []

/-- How many of the five stars of a rating are filled: none for what is not a number from zero up
that fits 64 bits. -/
def filledStars (args : List Json) : Nat :=
  match args.head?.bind Json.number? with
  | some value => if 0 ≤ value ∧ value < UInt64.size then min value.toNat 5 else 0
  | none => 0

/-- The texts of the first argument, parted by the second; a comma and a space by default. -/
def joinedTexts (args : List Json) : Text :=
  let mark := (((args[1]?).bind Json.text?).getD ", ").toList
  match args.head?.bind Json.array? with
  | some values => Text.joined mark (values.filterMap fun value => value.text?.map String.toList)
  | none => []

/-- The argument at a place, which the function of this name calls `param`. -/
def required (name param : String) (args : List Json) (place : Nat) : Except Reason Json :=
  match args[place]? with
  | some value => .ok value
  | none => .error (.missing name param)

/-- An argument that is an integer with 64 bits and a sign. -/
def requiredInt (name param : String) (args : List Json) (place : Nat) : Except Reason Int :=
  (required name param args place).bind fun
    | .number value =>
      if value < 0x8000000000000000 then .ok value else .error (.mistyped name param "i64")
    | _ => .error (.mistyped name param "i64")

/-- What a relation says of two arguments. -/
def relate (name : String) (args : List Json) (holds : Json → Json → Bool) : Except Reason Json := do
  let left ← required name "x" args 0
  let right ← required name "y" args 1
  return .bool (holds left right)

/-- What a relation says of two arguments that are integers. -/
def compare (name : String) (args : List Json) (holds : Int → Int → Bool) : Except Reason Json := do
  let left ← requiredInt name "x" args 0
  let right ← requiredInt name "y" args 1
  return .bool (holds left right)

/-- How many elements, fields or bytes a value has. -/
def size : Json → Nat
  | .array values => values.length
  | .object fields => fields.length
  | .text value => value.utf8ByteSize
  | _ => 0

/-- The element or field of a value at a place, null if it has none there. -/
def find : Json → Json → Json
  | .array values, .number place =>
    if 0 ≤ place then (values[place.toNat]?).getD .null else .null
  | .object fields, .text name => (fields.lookup name).getD .null
  | _, _ => .null

/-- What the function of this name makes of its arguments. -/
def call (function : Function) (name : String) (args : List Json) : Except Reason Json :=
  match function with
  | kebabCase => .ok (.text (String.ofList (Text.kebabCase (textAt args 0))))
  | pascalCase => .ok (.text (String.ofList (Text.pascalCase (textAt args 0))))
  | upperFirst => .ok (.text (String.ofList (Text.upperFirst (textAt args 0))))
  | stars =>
    let filled := filledStars args
    .ok (.text (String.ofList (List.replicate filled '★' ++ List.replicate (5 - filled) '☆')))
  | join => .ok (.text (String.ofList (joinedTexts args)))
  | eq => relate name args Json.same
  | ne => relate name args fun left right => !left.same right
  | gt => compare name args (· > ·)
  | gte => compare name args (· ≥ ·)
  | lt => compare name args (· < ·)
  | lte => compare name args (· ≤ ·)
  | and => relate name args fun left right => left.isTruthy && right.isTruthy
  | or => relate name args fun left right => left.isTruthy || right.isTruthy
  | not => (required name "x" args 0).map fun value => .bool (!value.isTruthy)
  | len => (required name "x" args 0).map fun value => .number (size value)
  | lookup =>
    match args with
    | value :: place :: _ => .ok (find value place)
    | args => .error (.missingAt name args.length)

end Function

/-- A block for use in templates. -/
inductive Block where
  /-- The body if a test on a value holds, or if it fails. -/
  | when (wanted : Bool)
  /-- The body once for each element or field of a value. -/
  | each
  /-- The body inside a value, if a test on it holds. -/
  | within
  /-- The body. -/
  | raw
  /-- Nothing. -/
  | log
  deriving DecidableEq, Repr

namespace Block

/-- The block of this name. -/
def named? : String → Option Block
  | "if" => some (when true)
  | "unless" => some (when false)
  | "each" => some each
  | "with" => some within
  | "raw" => some raw
  | "log" => some log
  | _ => none

/-- The name by which the block asks for its value, if it needs one. -/
def needsValue? : Block → Option String
  | when _ => some "if"
  | each => some "each"
  | within => some "with"
  | raw | log => none

end Block

/-- Whether a path of this name calls something. -/
def isCallable (name : String) : Bool :=
  (Function.named? name).isSome || (Block.named? name).isSome

end PageSketch.Template
