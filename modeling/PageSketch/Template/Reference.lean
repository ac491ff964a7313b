import PageSketch.Template.Basic
import PageSketch.Text.Reader

/-! Names and paths in the tags of a template. -/
namespace PageSketch.Template

def isNameChar (char : Char) : Bool :=
  char.isAlphanum || char == '_' || char == '-' || char == '$' || 0x80 ≤ char.toNat

def startsName (text : Text) : Bool := text.head?.any isNameChar

/-- The name that a text starts with: its longest run of characters that names are made of. -/
def name? : Reader String := fun text =>
  if startsName text then
    some (String.ofList (text.takeWhile isNameChar), text.dropWhile isNameChar)
  else none

def isStepMark (char : Char) : Bool := char == '/' || char == '.'

/-- One step of a path: a name, or any text between brackets. -/
def step? : Reader String
  | '[' :: rest => (Text.cut? [']'] rest).map fun (inner, left) => (String.ofList inner, left)
  | text => name? text

/-- The steps that a text starts with, at least one. A mark that no step follows is left. -/
def stepsFrom : (bound : Text) → Reader (List String)
  | [], _ => none
  | _ :: bound, text =>
    (step? text).map fun (first, rest) =>
      match rest with
      | mark :: later =>
        match isStepMark mark, stepsFrom bound later with
        | true, some (others, left) => (first :: others, left)
        | _, _ => ([first], rest)
      | [] => ([first], [])

/-- The name that a text starts with, when it is no part of a longer path. -/
def bareName? (text : Text) : Option String :=
  match startsName text, stepsFrom text text with
  | true, some ([name], _) => some name
  | _, _ => none

/-- The text after the word `this`, or a point, that leads nowhere in front of a path. -/
def skipPresent : Text → Text
  | '.' :: '/' :: rest => skipPresent rest
  | 't' :: 'h' :: 'i' :: 's' :: mark :: rest =>
    if isStepMark mark then skipPresent rest else 't' :: 'h' :: 'i' :: 's' :: mark :: rest
  | text => text

/-- How many levels the double points in front of a path lead out, and the rest of the text. -/
def leadingUps : Text → Nat × Text
  | '.' :: '.' :: mark :: rest =>
    if isStepMark mark then
      let (ups, left) := leadingUps rest
      (ups + 1, left)
    else (0, '.' :: '.' :: mark :: rest)
  | text => (0, text)

/-- Whether a path starts at the whole data, and the rest of the text. -/
def leadingRoot : Text → Bool × Text
  | '@' :: 'r' :: 'o' :: 'o' :: 't' :: mark :: rest =>
    if isStepMark mark then (true, rest)
    else (false, '@' :: 'r' :: 'o' :: 'o' :: 't' :: mark :: rest)
  | text => (false, text)

/-- Whether a path leads to a value of a loop, and the rest of the text. -/
def leadingLoop : Text → Bool × Text
  | '@' :: rest => (true, rest)
  | text => (false, text)

/-- The value that a text starts with a path to. The steps `this` lead nowhere. -/
def reference? : Reader Expr := fun text =>
  let (isRooted, afterRoot) := leadingRoot (skipPresent text)
  let (isOfLoop, afterLoop) := leadingLoop afterRoot
  let (ups, afterUps) := leadingUps afterLoop
  (stepsFrom afterUps afterUps).map fun (steps, rest) =>
    let names := steps.filter (· != "this")
    if isRooted then (.path .root names, rest)
    else
      match isOfLoop, names with
      | true, name :: _ => (.loopValue ups name, rest)
      | true, [] => (.path (.level 0) [], rest)
      | false, _ => (.path (.level ups) names, rest)

end PageSketch.Template
