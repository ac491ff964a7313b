import PageSketch.OrderedMap
import PageSketch.Workspace.Route

/-! Trees of files and folders. -/
namespace PageSketch

/-- Where something is in a tree: the names from the root on. -/
abbrev Location := List String

/-- What may be at a location. -/
inductive Entry where
  | folder
  /-- A file with its text, or without when its bytes are no text. -/
  | file (text : Option String)
  deriving DecidableEq, Repr

def Entry.ofBytes (bytes : ByteArray) : Entry := file (String.fromUTF8? bytes)

/-- A tree of files and folders, and the folder in it that paths start from. -/
structure Workspace where
  entries : List (Location × Entry)
  here : Location
  deriving DecidableEq, Repr

namespace Workspace

def fresh : Workspace := ⟨[(["tmp"], .folder), (["tmp", "work"], .folder)], ["tmp", "work"]⟩

/-- What is at a location; the root is a folder. -/
def find? (workspace : Workspace) (location : Location) : Option Entry :=
  if location.isEmpty then some .folder else workspace.entries.lookup location

/-- The tree with something at a location, in place of what was there. -/
def put (workspace : Workspace) (location : Location) (entry : Entry) : Workspace :=
  { workspace with
    entries := (location, entry) :: workspace.entries.filter (·.1 != location) }

/-- What was put is there; all else is as it was. -/
theorem find?_put (workspace : Workspace) (location : Location) (entry : Entry)
    (place : Location) (below : location ≠ []) :
    (workspace.put location entry).find? place =
      if place = location then some entry else workspace.find? place := by
  have kept (different : place ≠ location) (entries : List (Location × Entry)) :
      (entries.filter (·.1 != location)).lookup place = entries.lookup place := by
    induction entries with
    | nil => rfl
    | cons head rest ih =>
      obtain ⟨there, old⟩ := head
      by_cases same : there = location
      · simp [same, different, OrderedMap.lookup_cons_eq_ite, ih]
      · simp [same, OrderedMap.lookup_cons_eq_ite, ih]
  unfold find? put
  by_cases same : place = location
  · simp [same, below]
  · simp only [OrderedMap.lookup_cons_eq_ite, same, if_false, kept same]

/-- Where a name leads from a folder. -/
def step (workspace : Workspace) (folder : Location) (name : String) :
    Except FileError Location :=
  if name = "." then .ok folder
  else if name = ".." then .ok folder.dropLast
  else if Route.maxNameBytes < name.utf8ByteSize then .error .nameTooLong
  else if (workspace.find? (folder ++ [name])).isSome then .ok (folder ++ [name])
  else .error .missing

/-- Where names lead from a location. What they lead through must be folders. -/
def walk (workspace : Workspace) (location : Location) : List String → Except FileError Location
  | [] => .ok location
  | name :: rest =>
    if workspace.find? location = some .folder then do
      walk workspace (← workspace.step location name) rest
    else .error .notFolder

def startOf (workspace : Workspace) (route : Route) : Location :=
  if route.fromRoot then [] else workspace.here

/-- Where a route leads. -/
def locate (workspace : Workspace) (route : Route) : Except FileError Location :=
  workspace.walk (workspace.startOf route)
    (route.names ++ if route.endsInSlash then ["."] else [])

def folderOf (workspace : Workspace) (route : Route) : Except FileError Location :=
  workspace.walk (workspace.startOf route) (route.names.dropLast ++ ["."])

/-- Whether a route leads to a folder. -/
def leadsToFolder (workspace : Workspace) (route : Route) : Bool :=
  match workspace.locate route with
  | .ok location => workspace.find? location == some .folder
  | .error _ => false

/-- The text of the file that a route leads to. -/
def text (workspace : Workspace) (route : Route) : Except FileError String := do
  match workspace.find? (← workspace.locate route) with
  | some (.file (some text)) => .ok text
  | some (.file none) => .error .notText
  | some .folder => .error .isFolder
  | none => .error .missing

/-- Where a file may be written: where one is already, or where nothing is. -/
def placeForFile (workspace : Workspace) (route : Route) : Except FileError Location := do
  let folder ← workspace.folderOf route
  match route.names.getLast?, route.endsInSlash with
  | some name, false =>
    match workspace.step folder name with
    | .ok location =>
      if workspace.find? location = some .folder then .error .isFolder else .ok location
    | .error .missing => .ok (folder ++ [name])
    | .error problem => .error problem
  | _, _ => .error .isFolder

/-- Where a folder may be made: only where nothing is. -/
def placeForFolder (workspace : Workspace) (route : Route) : Except FileError Location := do
  let folder ← workspace.folderOf route
  match route.names.getLast? with
  | none => .error .taken
  | some name =>
    match workspace.step folder name with
    | .ok _ => .error .taken
    | .error .missing => .ok (folder ++ [name])
    | .error problem => .error problem

/-- The path of a location below the present folder; that of a folder ends in a slash. -/
def pathBelow? (workspace : Workspace) : Location × Entry → Option String
  | (location, entry) =>
    let names := location.drop workspace.here.length
    if workspace.here.isPrefixOf location && !names.isEmpty then
      some (String.intercalate "/" names ++ if entry = .folder then "/" else "")
    else none

/-- The paths of everything below the present folder, sorted. -/
def paths (workspace : Workspace) : List String :=
  (workspace.entries.filterMap workspace.pathBelow?).mergeSort fun left right => left ≤ right

end Workspace

end PageSketch
