import PageSketch.Detection
import PageSketch.Extraction.Kinds
import PageSketch.Program.Basic
import PageSketch.Source.Line

/-! Reading a source: one pass over its lines that never fails. -/
namespace PageSketch

/-- Where the reading stands relative to the block of a component. -/
inductive BlockState where
  /-- Before the block. -/
  | pending
  /-- Inside the block. -/
  | opened
  /-- After the block; only the next component matters. -/
  | closed
  deriving DecidableEq, Repr

/-- A component that more lines may still add to. -/
structure Draft where
  component : Component
  state : BlockState := .pending
  /-- The lines of the block so far. -/
  block : List Text := []
  /-- Whether a directive has named the kind. -/
  kindGiven : Bool := false

namespace Draft

/-- The draft of a component whose line has this value; `name` is the value or what stands in. -/
def start (name value : String) : Draft :=
  { component := { name, directives := .ofList [("component", .ofRaw value)] } }

/-- The draft after a directive, and what is found wrong with it. -/
def direct (draft : Draft) (name value : Text) (line : Nat) : Draft × List Diagnostic :=
  let component := draft.component
  let raw := String.ofList value
  let kept : Draft :=
    { draft with component := component.setDirective (String.ofList name) raw }
  match String.ofList name with
  | "type" =>
    match Kind.ofAlias? value with
    | some kind => ({ kept with component.kind := kind, kindGiven := true }, [])
    | none => (kept, [.unknownType component.name raw line])
  | "theme" =>
    match Theme.ofWord? value with
    | some theme => ({ kept with component.theme := theme }, [])
    | none => (kept, [.unknownTheme component.name raw line])
  | "style" =>
    match Style.ofWord? value with
    | some style => ({ kept with component.style := style }, [])
    | none => (kept, [.unknownStyle component.name raw line])
  | _ => (kept, [])

/-- The draft with its block closed: the description is the block, the kind is the one given or the
one that the description points to, and the rest is read from the description. -/
def finish (draft : Draft) (year : Int) : Draft :=
  let description := Text.joined ['\n'] draft.block
  let kind := if draft.kindGiven then draft.component.kind else Kind.detect description
  let described :=
    { draft.component with description := String.ofList description, kind := kind }
  let component := described.withExtraction ((Intent.ofComponent described year).extract kind)
  { draft with component := component, state := .closed }

/-- The component of a draft to which no more lines will come. -/
def sealed (draft : Draft) (year : Int) : Component :=
  if draft.state = .closed then draft.component else (draft.finish year).component

/-- The draft after a line of its block that is text. -/
def addText (draft : Draft) (text : Text) : Draft :=
  if draft.state = .opened then { draft with block := draft.block ++ [text] } else draft

end Draft

/-- A source read in part: the components that are complete, the findings, and the draft. -/
structure Scan where
  program : Program := {}
  draft : Option Draft := none

namespace Scan

/-- The program with the draft, if there is one, as its last component. -/
def sealed (scan : Scan) (year : Int) : Program :=
  { scan.program with
    components := scan.program.components ++ (scan.draft.map (·.sealed year)).toList }

/-- The scan after the line that starts a component. One without a name is named by its place. -/
def begin (scan : Scan) (year : Int) (value : Text) (line : Nat) : Scan :=
  let program := scan.sealed year
  if value.isEmpty then
    let assigned := s!"Component{program.components.length + 1}"
    { program :=
        { program with diagnostics := program.diagnostics ++ [.emptyName assigned line] }
      draft := some (.start assigned "") }
  else { program, draft := some (.start (String.ofList value) (String.ofList value)) }

/-- The scan after a directive that starts no component. It counts until the block closes. -/
def direct (scan : Scan) (name value : Text) (line : Nat) : Scan :=
  match scan.draft with
  | none => scan
  | some draft =>
    if draft.state = .closed then scan
    else
      let (draft, findings) := draft.direct name value line
      { program :=
          { scan.program with diagnostics := scan.program.diagnostics ++ findings }
        draft := some draft }

/-- The scan with its draft, if there is one, changed. -/
def mapDraft (scan : Scan) (change : Draft → Draft) : Scan :=
  { scan with draft := scan.draft.map change }

/-- The scan after one more line. Blocks do not nest: an opening brace inside one is text. -/
def read (year : Int) (scan : Scan) (line : Source.Line) : Scan :=
  match line.kind with
  | .directive name value =>
    if name = "component".toList then scan.begin year value line.number
    else scan.direct name value line.number
  | .blockOpen =>
    scan.mapDraft fun draft =>
      if draft.state = .pending then { draft with state := .opened } else draft.addText line.text
  | .blockClose =>
    scan.mapDraft fun draft => if draft.state = .opened then draft.finish year else draft
  | .content => scan.mapDraft fun draft => draft.addText line.text
  | .nameless => scan

end Scan

/-- The program of a source. -/
def Program.ofSource (year : Int) (source : Text) : Program :=
  ((Source.lines source).foldl (Scan.read year) {}).sealed year

/-- The program of a source that is not only blanks. -/
def Program.ofDocument? (year : Int) (source : Text) : Option Program :=
  if source.trim.isEmpty then none else some (ofSource year source)

end PageSketch
