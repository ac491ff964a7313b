import PageSketch.Command.Invocation
import Std.Time.DateTime

/-! The program: runs one command on the files of the computer. -/
namespace PageSketch

/-- The cause of a failure, told by the number that the system gives it, which may be negated. -/
def FileError.ofCode (code : UInt32) (details : String) : FileError :=
  let number := if code < 0x80000000 then code else 0 - code
  match number with
  | 2 => missing
  | 17 => taken
  | 20 => notFolder
  | 21 => isFolder
  | 36 => nameTooLong
  | _ => other (details ++ " (os error " ++ toString number ++ ")")

/-- The cause of a failure of the system. -/
def FileError.ofSystem : IO.Error → FileError
  | .noFileOrDirectory _ code details => ofCode code details
  | .alreadyExists _ code details => ofCode code details
  | .inappropriateType _ code details => ofCode code details
  | .invalidArgument _ code details => ofCode code details
  | .permissionDenied _ code details => ofCode code details
  | .resourceExhausted _ code details => ofCode code details
  | problem => other (toString problem)

def attempt {Value : Type} (action : IO Value) : IO (Except FileError Value) := do
  try return .ok (← action) catch problem => return .error (.ofSystem problem)

/-- Makes a folder, if need be after the folders on the way to it. One that is there is as good. -/
def makeFolders (path : String) : IO (Except FileError Unit) := do
  match ← attempt (IO.FS.createDir path) with
  | .error .missing => attempt (IO.FS.createDirAll path)
  | .error problem =>
    match ← attempt (IO.FS.realPath path) with
    | .ok place => return if ← place.isDir then .ok () else .error problem
    | .error _ => return .error problem
  | result => return result

/-- The files of the computer. -/
instance : FileStore IO where
  read path := do
    match ← attempt (IO.FS.readBinFile path) with
    | .error problem => return .error problem
    | .ok bytes =>
      match String.fromUTF8? bytes with
      | some text => return .ok text
      | none => return .error .notText
  write path text := attempt (IO.FS.writeFile path text)
  makeFolders path := if path.isEmpty then return .ok () else makeFolders path
  has path := return (← attempt (IO.FS.realPath path)).isOk

/-- The present year. -/
def yearNow : IO Int := do
  let now ← Std.Time.Timestamp.now
  return (Std.Time.PlainDate.ofEpochDay now.toDaysSinceUnixEpoch).year

end PageSketch

/-- Runs the command that the arguments ask for. -/
def main (arguments : List String) : IO UInt32 := do
  let outcome ← PageSketch.Command.run (← PageSketch.yearNow) arguments
  IO.print outcome.output
  IO.eprint outcome.errorOutput
  return outcome.exitCode
