import PageSketch.Json.Reader
import PageSketch.Template.Reference

/-! The arguments that the tags of a template pass to functions and blocks. -/
namespace PageSketch.Template

/-- Whether a text starts with a word that is kept for other uses, and that is no part of a longer
word. A name behind it, even after a gap, frees it. -/
def startsKeyword (text : Text) : Bool :=
  ["as", "else"].any fun word =>
    (Text.after? word.toList text).any fun rest => !startsName (Text.skipGaps rest)

/-- The text of a number that a text starts with, and the rest of the text. The number ends where no
name could go on. -/
def numberText? : Reader Text := fun text =>
  let unsigned := match text with
    | '-' :: rest => rest
    | text => text
  let (whole, afterWhole) := Json.digitsOf unsigned
  let afterPoint := match afterWhole with
    | '.' :: rest => rest
    | text => text
  let afterFraction := (Json.digitsOf afterPoint).2
  let rest := match afterFraction with
    | 'E' :: power =>
      let (digits, left) := Json.digitsOf (if power.head? = some '-' then power.drop 1 else power)
      if digits.isEmpty then afterFraction else left
    | text => text
  if whole.isEmpty || startsName rest then none
  else some (text.take (text.length - rest.length), rest)

/-- A word that stands for a value, and is no part of a name. -/
def constant? : Reader Json := fun text =>
  [("null", Json.null), ("true", .bool true), ("false", .bool false)].findSome?
    fun (word, value) =>
      ((Text.after? word.toList text).filter fun rest => !startsName rest).map
        fun rest => (value, rest)

/-- The value that a text starts with, if it starts with one that is written out. The inner nothing
stands for a quoted text or a number that is not well formed. -/
def literal? (text : Text) : Option (Option (Json × Text)) :=
  match text with
  | '"' :: rest => some ((Json.quotedText? '"' rest).map fun (value, left) => (.text value, left))
  | '\'' :: rest => some ((Json.quotedText? '\'' rest).map fun (value, left) => (.text value, left))
  | text =>
    match numberText? text with
    | some (number, rest) => some ((Json.read? number).map fun value => (value, rest))
    | none => (constant? text).map some

/-- A function with its arguments, at least one, in front of a text. -/
def callWith? (argument? : Reader Expr) : Reader (String × List Expr) := fun text =>
  (name? text).bind fun (name, afterName) =>
    match Text.repeated argument? afterName afterName with
    | ([], _) => none
    | (args, rest) => some ((name, args), rest)

/-- The text of what was read when `rest` was left of a text. -/
def readText (text rest : Text) : String := String.ofList (text.take (text.length - rest.length))

/-- A call in parentheses: a function with arguments, or a path that names a function without. -/
def enclosedCall? (argument? : Reader Expr) : Reader Expr
  | '(' :: afterOpening => do
    let inner := Text.skipGaps afterOpening
    let (call, rest) ← match callWith? argument? inner with
      | some ((name, args), rest) => some (Expr.call name args, rest)
      | none => (reference? inner).map fun (_, rest) => (Expr.call (readText inner rest) [], rest)
    let left ← Text.afterMark? [')'] rest
    return (call, left)
  | _ => none

/-- An argument in front of a text. Calls in it are nested less often than the bound has
characters. -/
def argument? : (bound : Text) → Reader Expr
  | [], _ => none
  | _ :: bound, text =>
    if startsKeyword text then none
    else
      match literal? text with
      | some found => found.map fun (value, rest) => (.literal value, rest)
      | none => (reference? text).or (enclosedCall? (argument? bound) text)

/-- A function or block with its arguments in front of a text. -/
def nameWithArguments? : Reader (String × List Expr) := fun text =>
  (name? text).map fun (name, afterName) =>
    let (args, rest) := Text.repeated (argument? text) afterName afterName
    ((name, args), rest)

end PageSketch.Template
