import PageSketch.Template.Function
import PageSketch.Template.Tag

/-! Reading a template from its text. -/
namespace PageSketch.Template

/-- A piece of a template: plain text or a tag. -/
inductive Piece where
  | text (text : Text)
  | tag (position : Position) (tag : Tag)
  deriving Repr

/-- The plain text up to the next tag, after what was read of it, which is kept backwards, and the
rest of the text. One backslash keeps the braces after it from starting a tag; of several in front
of a tag one is dropped. -/
def plainFrom (read : Text) : Text → Text × Text
  | [] => (read.reverse, [])
  | '\\' :: '{' :: '{' :: '{' :: '{' :: rest =>
    plainFrom ('{' :: '{' :: '{' :: '{' :: read) rest
  | '\\' :: '{' :: '{' :: rest => plainFrom ('{' :: '{' :: read) rest
  | '{' :: '{' :: rest => (read.reverse, '{' :: '{' :: rest)
  | '\\' :: '\\' :: rest =>
    let backslashes := '\\' :: rest.takeWhile (· == '\\')
    let after := rest.dropWhile (· == '\\')
    if (Text.after? Tag.opening after).isSome then (read.reverse ++ backslashes, after)
    else plainFrom ('\\' :: read) ('\\' :: rest)
  | first :: rest => plainFrom (first :: read) rest

/-- The position of what is left of a text that stands at a position. -/
def Position.ofRest (position : Position) (text rest : Text) : Position :=
  (text.take (text.length - rest.length)).foldl Position.next position

/-- The pieces of a text that stands at a position. -/
def piecesFrom : (bound : Text) → Position → Text → Option (List Piece)
  | bound, position, text =>
    let (plain, rest) := plainFrom [] text
    let withPlain (pieces : List Piece) := if plain.isEmpty then pieces else .text plain :: pieces
    match bound, rest with
    | _, [] => some (withPlain [])
    | [], _ => none
    | _ :: bound, rest =>
      let atTag := position.ofRest text rest
      (Tag.read? isCallable rest).bind fun (tag, left) =>
        (piecesFrom bound (atTag.ofRest rest left) left).map fun pieces =>
          withPlain (.tag atTag tag :: pieces)

def isLineSpace (char : Char) : Bool := char == ' ' || char == '\t'

def isLineEnd (char : Char) : Bool := char == '\n' || char == '\r'

/-- Whether nothing but spaces stands on the line before a place; `before` is backwards. -/
def startsLine : (before : List Piece) → Bool
  | [] => true
  | .text text :: earlier =>
    match (Text.dropEndWhile isLineSpace text).getLast? with
    | some last => isLineEnd last
    | none => earlier.isEmpty
  | .tag _ _ :: _ => false

/-- Whether nothing but spaces stands on the line after a place. -/
def endsLine : (after : List Piece) → Bool
  | [] => false
  | .text text :: _ => (text.dropWhile isLineSpace).head?.any isLineEnd
  | .tag _ _ :: _ => false

/-- Whether the tag of a block has its line for itself. -/
def standsAlone (before : List Piece) (tag : Tag) (after : List Piece) : Bool :=
  tag.isOfBlock && startsLine before && endsLine after

/-- Whether the piece just before `after` is a tag that stands alone. -/
def followsLoneTag (before after : List Piece) : Bool :=
  match before with
  | .tag _ tag :: earlier => standsAlone earlier tag after
  | _ => false

/-- Whether the piece just after `before` is a tag that stands alone. -/
def precedesLoneTag (before after : List Piece) : Bool :=
  match after with
  | .tag _ tag :: later => standsAlone before tag later
  | _ => false

/-- The text without the end of the line it starts on. -/
def dropLineEnd (text : Text) : Text :=
  match text.dropWhile isLineSpace with
  | '\r' :: '\n' :: rest => rest
  | '\n' :: rest => rest
  | other => other

/-- The pieces after `before`; a tag of a block that stands alone takes its whole line away. -/
def withoutLoneLines (before : List Piece) : List Piece → List Piece
  | [] => []
  | .tag position tag :: rest =>
    .tag position tag :: withoutLoneLines (.tag position tag :: before) rest
  | .text text :: rest =>
    let fromLine := if followsLoneTag before (.text text :: rest) then dropLineEnd text else text
    let kept :=
      if precedesLoneTag (.text text :: before) rest then Text.dropEndWhile isLineSpace fromLine
      else fromLine
    .text kept :: withoutLoneLines (.text text :: before) rest

/-- A block that is not closed yet. -/
structure OpenBlock where
  name : String
  args : List Expr
  /-- The parts before the block, backwards. -/
  outside : List Node := []
  /-- The body, once what stands in for it has begun. -/
  body : Option (List Node) := none
  /-- The position of its tag. A block that stands in for the body of the block around it has none, and ends
  with that block. -/
  position? : Option Position

/-- The part that a block makes when it closes after `last`. -/
def OpenBlock.close (block : OpenBlock) (last : List Node) : Node :=
  match block.body with
  | some body => .block block.name block.args body last
  | none => .block block.name block.args last []

/-- The block that a closing tag after `last` belongs to, as a part, and the blocks around it. The
blocks that stand in for bodies inside it close with it. -/
def closeChain : List OpenBlock → (last : List Node) → Option (OpenBlock × Node × List OpenBlock)
  | [], _ => none
  | block :: others, last =>
    match block.position? with
    | none => closeChain others [block.close last]
    | some position => some (block, .placed position (block.close last), others)

/-- The innermost block goes on with what stands in for its body, after the parts read so far. -/
def turnInnermost (parts : List Node) : List OpenBlock → Option (List OpenBlock)
  | [] => none
  | block :: others =>
    if block.body.isSome then none
    else some ({ block with body := some parts.reverse } :: others)

/-- The template of the pieces, inside the blocks that are open, after the parts read so far, which
are kept backwards. Every block must be closed by its name. -/
def nest (blocks : List OpenBlock) (parts : List Node) : List Piece → Option Template
  | [] => if blocks.isEmpty then some parts.reverse else none
  | .text text :: rest => nest blocks (.text text :: parts) rest
  | .tag position (.value escaped source) :: rest =>
    nest blocks (.placed position (.value escaped source) :: parts) rest
  | .tag position (.call escaped name args) :: rest =>
    nest blocks (.placed position (.call escaped name args) :: parts) rest
  | .tag position (.openBlock name args) :: rest =>
    nest ({ name, args, outside := parts, position? := some position } :: blocks) [] rest
  | .tag _ .otherwise :: rest =>
    (turnInnermost parts blocks).bind fun turned => nest turned [] rest
  | .tag _ (.chainBlock name args) :: rest =>
    (turnInnermost parts blocks).bind fun turned =>
      nest ({ name, args, position? := none } :: turned) [] rest
  | .tag _ (.closeBlock name) :: rest =>
    match closeChain blocks parts.reverse with
    | some (block, node, others) =>
      if block.name = name then nest others (node :: block.outside) rest else none
    | none => none

def parse? (text : Text) : Option Template :=
  (piecesFrom text {} text).bind fun pieces => nest [] [] (withoutLoneLines [] pieces)

end PageSketch.Template
