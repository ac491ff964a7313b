import PageSketch.Text.Basic

/-! Paths of files and folders, and the steps that they consist of. -/
namespace PageSketch

/-- Why an operation on a file or folder fails. -/
inductive FileError where
  | missing
  | taken
  | notFolder
  | isFolder
  | nameTooLong
  /-- A path with the character zero in it names nothing. -/
  | zeroCharacter
  /-- The file's bytes are no text. -/
  | notText
  | other (text : String)
  deriving DecidableEq, Repr

/-- What went wrong, in words. -/
def FileError.message : FileError → String
  | missing => "No such file or directory (os error 2)"
  | taken => "File exists (os error 17)"
  | notFolder => "Not a directory (os error 20)"
  | isFolder => "Is a directory (os error 21)"
  | nameTooLong => "File name too long (os error 36)"
  | zeroCharacter => "file name contained an unexpected NUL byte"
  | notText => "stream did not contain valid UTF-8"
  | other text => text

/-- The path of something in a folder. A path that starts at the root stands for itself. -/
def joinPath (folder path : String) : String :=
  if path.toList.head? = some '/' then path
  else if folder.toList.getLast?.all (· == '/') then folder ++ path
  else folder ++ "/" ++ path

/-- A path, taken apart. -/
structure Route where
  /-- Whether the path starts at the root instead of the present folder. -/
  fromRoot : Bool
  names : List String
  /-- Whether a slash ends the path, as only the path of a folder may. -/
  endsInSlash : Bool
  deriving DecidableEq, Repr

namespace Route

/-- The most bytes that a path may have. -/
def maxBytes : Nat := 4095

/-- The most bytes that a name may have. -/
def maxNameBytes : Nat := 255

/-- The steps of a path. -/
def ofPath (path : String) : Except FileError Route :=
  if path.toList.contains '\x00' then .error .zeroCharacter
  else if path.isEmpty then .error .missing
  else if maxBytes < path.utf8ByteSize then .error .nameTooLong
  else
    let names := (Text.pieces (· == '/') path.toList).filter (!·.isEmpty)
    .ok ⟨path.toList.head? == some '/', names.map String.ofList, path.toList.getLast? == some '/'⟩

end Route

end PageSketch
