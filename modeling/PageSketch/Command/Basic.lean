import PageSketch.Command.Starter
import PageSketch.Json.Printer
import PageSketch.Page.Basic
import PageSketch.Program.Scan
import PageSketch.Workspace.Store

/-! The commands: show what a source describes, draw its pages, start a project. -/
namespace PageSketch

/-- Why a command fails. -/
inductive CommandError where
  /-- The source holds only blanks. -/
  | emptySource
  | unreadable (path : String) (cause : FileError)
  | unwritable (path : String) (cause : FileError)
  /-- A component cannot be drawn. -/
  | undrawable (component : String) (cause : Template.RegistryError)
  /-- A project would be made where something is already. -/
  | taken (path : String)
  deriving DecidableEq, Repr

/-- What went wrong, in words. -/
def CommandError.message : CommandError → String
  | emptySource => "Source is empty"
  | unreadable path cause => "Cannot read " ++ path ++ ": " ++ cause.message
  | unwritable path cause => "Failed to write " ++ path ++ ": " ++ cause.message
  | undrawable component cause =>
    "Code generation failed for " ++ component ++ ": " ++ cause.message
  | taken path => path ++ " already exists"

/-- What a command does with the files of a place. -/
abbrev Task (m : Type → Type) := ExceptT CommandError m

namespace Task

variable {m : Type → Type} [Monad m] [FileStore m]

def read (path : String) : Task m String :=
  ExceptT.mk ((·.mapError (.unreadable path)) <$> FileStore.read path)

def write (path text : String) : Task m Unit :=
  ExceptT.mk ((·.mapError (.unwritable path)) <$> FileStore.write path text)

def makeFolders (path : String) : Task m Unit :=
  ExceptT.mk ((·.mapError (.unwritable path)) <$> FileStore.makeFolders path)

/-- The program of a source file; `year` is the year of copyright lines that name none. -/
def load (year : Int) (input : String) : Task m Program := do
  match Program.ofDocument? year (← read input).toList with
  | some program => return program
  | none => throw .emptySource

/-- What a source file describes, as JSON text. -/
def inspect (year : Int) (input : String) : Task m String := do
  return (← load year input).toJson.pretty

/-- Writes the files of a component's page into a folder. Yields their paths. -/
def writePage (credits : Credits) (folder : String) (component : Component) :
    Task m (List String) := do
  let page ← ExceptT.mk (pure ((Page.ofComponent credits component).mapError
    (.undrawable component.name)))
  page.files.mapM fun (name, text) => do
    write (joinPath folder name) text
    return joinPath folder name

/-- Draws the components of a source file into a folder. Yields the paths of what is written. -/
def compile (year : Int) (credits : Credits) (input folder : String) :
    Task m (List String) := do
  let program ← load year input
  makeFolders folder
  return (← program.components.mapM (writePage credits folder)).flatten

/-- Starts a project in a folder, unless something has its name there. Yields the path of its
source file. -/
def start (folder name : String) : Task m String := do
  let root := joinPath folder name
  if ← (FileStore.has root : m Bool) then throw (.taken root)
  makeFolders (joinPath root "src")
  makeFolders (joinPath root "dist")
  let main := joinPath (joinPath root "src") "Main.centaur"
  write main (Starter.source name)
  write (joinPath root "README.md") (Starter.notes name)
  return main

end Task

end PageSketch
