import PageSketch.Workspace.Basic

/-! Places where files are kept, and trees of files as one of them. -/
namespace PageSketch

/-- The operations of a place where files are kept. They tell a failure as a value. -/
class FileStore (m : Type → Type) where
  /-- The text of a file. -/
  read : String → m (Except FileError String)
  /-- Writes a file, in place of an old one. -/
  write : String → String → m (Except FileError Unit)
  /-- Makes a folder and those on the way to it, as far as they are missing. -/
  makeFolders : String → m (Except FileError Unit)
  /-- Whether a path leads anywhere. -/
  has : String → m Bool

namespace Workspace

/-- What becomes of a tree by a change that may fail: what changed before it failed stays. -/
abbrev Changed := Except FileError Unit × Workspace

/-- The changed tree of a change that either fails or is done. -/
def changed (workspace : Workspace) : Except FileError Workspace → Changed
  | .ok changed => (.ok (), changed)
  | .error problem => (.error problem, workspace)

/-- The tree with a file at a path. -/
def writeFile (workspace : Workspace) (route : Route) (entry : Entry) :
    Except FileError Workspace :=
  (workspace.placeForFile route).map fun location => workspace.put location entry

/-- The tree with one more folder. A folder that is there already is as good. -/
def makeFolder (workspace : Workspace) (route : Route) : Except FileError Workspace :=
  match workspace.placeForFolder route with
  | .ok location => .ok (workspace.put location .folder)
  | .error problem => if workspace.leadsToFolder route then .ok workspace else .error problem

/-- The tree with one more folder, which is prepared for if something on the way is missing. -/
def makeFolderAfter (prepare : Workspace → Changed) (workspace : Workspace) (route : Route) :
    Changed :=
  match workspace.makeFolder route with
  | .error .missing =>
    match prepare workspace with
    | (.ok (), prepared) => prepared.changed (prepared.makeFolder route)
    | failed => failed
  | result => workspace.changed result

/-- The tree with the folders on the way through some names, of which the last comes first. -/
def makeFoldersThrough (fromRoot : Bool) : List String → Workspace → Changed
  | [], workspace => (.ok (), workspace)
  | last :: earlier, workspace =>
    if last = "." then makeFoldersThrough fromRoot earlier workspace
    else
      makeFolderAfter (makeFoldersThrough fromRoot earlier) workspace
        ⟨fromRoot, (last :: earlier).reverse, false⟩

/-- The tree with a folder at a path, and with the folders on the way to it. -/
def makeFolders (workspace : Workspace) (route : Route) : Changed :=
  makeFolderAfter
    (makeFoldersThrough route.fromRoot ((route.names.reverse.dropWhile (· == ".")).drop 1))
    workspace route

/-- The tree with something at a path, and with the folders on the way to it. -/
def store (workspace : Workspace) (path : String) (entry : Entry) : Changed :=
  match Route.ofPath path with
  | .error problem => (.error problem, workspace)
  | .ok route =>
    match makeFoldersThrough route.fromRoot (route.names.reverse.drop 1) workspace with
    | (.ok (), prepared) => prepared.changed (prepared.writeFile route entry)
    | failed => failed

/-- The tree is such a place. Nothing is to be made for the empty path. -/
instance : FileStore (StateM Workspace) where
  read path := fun workspace => ((Route.ofPath path).bind workspace.text, workspace)
  write path text := fun workspace =>
    workspace.changed <| (Route.ofPath path).bind fun route =>
      workspace.writeFile route (.file (some text))
  makeFolders path := fun workspace =>
    if path.isEmpty then (.ok (), workspace)
    else
      match Route.ofPath path with
      | .ok route => workspace.makeFolders route
      | .error problem => (.error problem, workspace)
  has path := fun workspace => (((Route.ofPath path).bind workspace.locate).isOk, workspace)

end Workspace

end PageSketch
