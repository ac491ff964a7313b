import PageSketch.Template.Function
import PageSketch.Text.Digit

/-! Filling a template with data. -/
namespace PageSketch.Template

/-- One level of the data: a value, and what the loop that leads to it knows. -/
structure Level where
  value : Json
  loop : List (String × Json) := []

/-- The levels of the data at a place of a template, the innermost in front. -/
structure Scope where
  inner : Level
  outer : List Level := []

namespace Scope

def enter (scope : Scope) (level : Level) : Scope := ⟨level, scope.inner :: scope.outer⟩

/-- The level so far out, if there are so many. -/
def levelAt? (scope : Scope) (up : Nat) : Option Level := (scope.inner :: scope.outer)[up]?

/-- The value that a path starts at. A path that leads too far out starts at the innermost level. -/
def start (scope : Scope) : Origin → Json
  | .level up => ((scope.levelAt? up).getD scope.inner).value
  | .root => (scope.outer.getLast?.getD scope.inner).value

end Scope

/-- The place in an array that a name writes, with 64 bits. -/
def readIndex (name : Text) : Option Nat :=
  (Text.readNat (match name with
    | '+' :: digits => digits
    | digits => digits)).filter (· < UInt64.size)

/-- One step into a value. Only an array refuses a name that is no index. -/
def stepInto (value : Option Json) (name : String) : Except Reason (Option Json) :=
  match value with
  | some (.object fields) => .ok (fields.lookup name)
  | some (.array values) =>
    match readIndex name.toList with
    | some index => .ok values[index]?
    | none => .error (.badIndex name)
  | _ => .ok none

/-- The value at the end of a path, if there is one. -/
def Scope.find (scope : Scope) (origin : Origin) (names : List String) :
    Except Reason (Option Json) :=
  names.foldlM stepInto (some (scope.start origin))

/-- What a call of a name makes of its arguments. A block without a body makes an empty text. -/
def callNamed (name : String) (args : List Json) : Except Reason Json :=
  match Function.named? name, Block.named? name with
  | some function, _ => function.call name args
  | none, some block =>
    match block.needsValue?, args with
    | some asked, [] => .error (.missingAt asked 0)
    | _, _ => .ok (.text "")
  | none, none => .error (.unknown name)

mutual

/-- The value of an expression; nothing when the data lacks it. -/
def Expr.eval (scope : Scope) : Expr → Except Reason (Option Json)
  | .literal value => .ok (some value)
  | .path origin names => scope.find origin names
  | .loopValue up name => .ok ((scope.levelAt? up).bind fun level => level.loop.lookup name)
  | .call name args => do
    let values ← evalAll scope args
    return some (← callNamed name values)

/-- The values of the arguments of a call or block; null for one that the data lacks. -/
def evalAll (scope : Scope) : List Expr → Except Reason (List Json)
  | [] => .ok []
  | first :: rest => do
    let value ← first.eval scope
    let values ← evalAll scope rest
    return value.getD .null :: values

end

/-- How a character is written in the text and the attributes of a page. -/
def escapeChar (char : Char) : Text :=
  match char with
  | '&' => "&amp;".toList
  | '<' => "&lt;".toList
  | '>' => "&gt;".toList
  | '"' => "&quot;".toList
  | '\'' => "&#x27;".toList
  | '\x60' => "&#x60;".toList
  | '=' => "&#x3D;".toList
  | other => [other]

/-- The text with the characters escaped that mean something in markup. -/
def escape (text : Text) : Text := text.flatMap escapeChar

/-- The text that stands for a value, escaped or as it is. -/
def shown (escaped : Bool) (value : Json) : Text :=
  if escaped then escape value.display else value.display

/-- The text that a call inserts. What a function has made is not escaped, what it has found is. -/
def insertCall (escaped : Bool) (name : String) (args : List Json) : Except Reason Text := do
  let value ← callNamed name args
  return shown (escaped && Function.named? name == some .lookup) value

/-- The text that a value inserts. A call as the value names what to call, if it names something. -/
def insertValue (escaped : Bool) (source : Expr) (value : Option Json) : Except Reason Text :=
  match source, value with
  | _, none => .ok []
  | .call _ _, some value =>
    let name := String.ofList value.display
    if isCallable name then insertCall escaped name [] else .ok (shown escaped value)
  | _, some value => .ok (shown escaped value)

/-- What the round of a loop at a place knows, of so many rounds. -/
def loopFacts (index count : Nat) : List (String × Json) :=
  [("first", .bool (index == 0)), ("last", .bool (index + 1 == count))]

/-- The levels of the rounds of a loop over a value, one for each element or field. -/
def rounds : Json → List Level
  | .array values =>
    let count := values.length
    values.mapIdx fun index value => ⟨value, ("index", .number index) :: loopFacts index count⟩
  | .object fields =>
    let count := fields.length
    fields.mapIdx fun index (name, value) => ⟨value, ("key", .text name) :: loopFacts index count⟩
  | _ => []

/-- The result with its reason as an error that has no position yet. -/
def raised {Value : Type} (result : Except Reason Value) : Except RenderError Value :=
  result.mapError fun reason => { reason }

mutual

/-- The text of a part of a template. -/
def Node.render : Node → Scope → Except RenderError Text
  | .text text, _ => .ok text
  | .value escaped source, scope => do
    let value ← raised (source.eval scope)
    raised (insertValue escaped source value)
  | .call escaped name args, scope => do
    let values ← raised (evalAll scope args)
    raised (insertCall escaped name values)
  | .block name args body otherwise, scope => do
    let values ← raised (evalAll scope args)
    match Block.named? name, values with
    | some (.when wanted), value :: _ =>
      if value.isTruthy == wanted then renderAll body scope else renderAll otherwise scope
    | some .each, value :: _ =>
      if (rounds value).isEmpty then renderAll otherwise scope
      else
        let texts ← (rounds value).mapM fun level => renderAll body (scope.enter level)
        return texts.flatten
    | some .within, value :: _ =>
      if value.isTruthy then renderAll body (scope.enter ⟨value, []⟩) else renderAll otherwise scope
    | some .raw, _ => renderAll body scope
    | _, _ => raised (insertCall true name values)
  | .placed position node, scope => (node.render scope).mapError (·.atTag position)

/-- The text of several parts, one after the other. -/
def renderAll : List Node → Scope → Except RenderError Text
  | [], _ => .ok []
  | first :: rest, scope => do
    let text ← first.render scope
    let texts ← renderAll rest scope
    return text ++ texts

end

end PageSketch.Template

namespace PageSketch

def Template.render (template : Template) (data : Json) : Except Template.RenderError String :=
  (Template.renderAll template ⟨⟨data, []⟩, []⟩).map String.ofList

end PageSketch
