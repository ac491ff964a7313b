import PageSketch.Template.Argument

/-! The tags of a template: the parts of its text between double braces. -/
namespace PageSketch.Template

/-- A tag of a template. -/
inductive Tag where
  /-- Inserts a value. -/
  | value (escaped : Bool) (source : Expr)
  /-- Inserts what a function makes of its arguments. -/
  | call (escaped : Bool) (name : String) (args : List Expr)
  /-- Starts a block. -/
  | openBlock (name : String) (args : List Expr)
  /-- Starts what stands in for the body of a block. -/
  | otherwise
  /-- Starts a block that stands in for the body of a block and ends with it. -/
  | chainBlock (name : String) (args : List Expr)
  /-- Ends a block. -/
  | closeBlock (name : String)
  deriving Repr

/-- Whether the tag belongs to a block. -/
def Tag.isOfBlock : Tag → Bool
  | .value _ _ | .call _ _ _ => false
  | _ => true

namespace Tag

def opening : Text := ['{', '{']

def closing : Text := ['}', '}']

/-- What a tag inserts: a call with arguments, or a value. The bare name of a function calls it. -/
def insertion? (isFunction : String → Bool) (escaped : Bool) : Reader Tag := fun text =>
  match callWith? (argument? text) text with
  | some ((name, args), rest) => some (call escaped name args, rest)
  | none =>
    match enclosedCall? (argument? text) text with
    | some (source, rest) => some (value escaped source, rest)
    | none => (reference? text).map fun (source, rest) =>
      match (bareName? text).filter isFunction with
      | some name => (call escaped name [], rest)
      | none => (value escaped source, rest)

/-- The tag that a text goes on with inside its braces, by its marks. -/
def inner? (isFunction : String → Bool) (text : Text) : Option (Tag × Text) :=
  match text with
  | '#' :: rest => (nameWithArguments? (Text.skipGaps rest)).map fun ((name, args), left) =>
    (openBlock name args, left)
  | '/' :: rest => (name? (Text.skipGaps rest)).map fun (name, left) => (closeBlock name, left)
  | '{' :: rest =>
    (insertion? isFunction false (Text.skipGaps rest)).bind fun (tag, left) =>
      (Text.afterMark? ['}'] left).map fun after => (tag, after)
  | text => insertion? isFunction true text

/-- The tag of a block that a text goes on with inside its braces after the word `else`, which
stands in front of the end or of a name. -/
def elseTag? (text : Text) : Option (Tag × Text) := do
  let rest ← Text.after? "else".toList text
  match Text.afterMark? closing rest with
  | some _ => return (otherwise, rest)
  | none =>
    let ((name, args), left) ← nameWithArguments? (Text.skipGaps rest)
    return (chainBlock name args, left)

/-- The tag with its closing braces read. -/
def closed? (found : Option (Tag × Text)) : Option (Tag × Text) :=
  found.bind fun (tag, rest) => (Text.afterMark? closing rest).map fun left => (tag, left)

/-- The tag that starts a text. -/
def read? (isFunction : String → Bool) : Reader Tag := fun text =>
  (Text.after? opening text).bind fun rest =>
    let inside := Text.skipGaps rest
    (closed? (elseTag? inside)).or (closed? (inner? isFunction inside))

end Tag

end PageSketch.Template
