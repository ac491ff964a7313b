import PageSketch.Text.Basic

/-! Arguments of a command line. -/
namespace PageSketch

/-- What an argument is by the way it is written. -/
inductive Argument where
  /-- Two hyphens: all that follows is plain. -/
  | onlyPlainFollows
  /-- An option by its name, perhaps with a value after an equals sign. -/
  | named (name : String) (value : Option String)
  /-- Options by their letters. -/
  | letters (letters : List Char)
  | plain (text : String)
  deriving DecidableEq, Repr

/-- An argument, by the way it is written; a single hyphen is plain. -/
def Argument.ofText (text : String) : Argument :=
  match text.toList with
  | ['-', '-'] => onlyPlainFollows
  | '-' :: '-' :: name =>
    match Text.cut? ['='] name with
    | some (before, after) => named (String.ofList before) (some (String.ofList after))
    | none => named (String.ofList name) none
  | '-' :: first :: rest => letters (first :: rest)
  | _ => plain text

/-- Why the reading of arguments stops before their end. -/
inductive Stop where
  /-- Help is asked for. -/
  | help
  /-- The version is asked for. -/
  | version
  /-- The arguments make no sense. -/
  | misuse
  deriving DecidableEq, Repr

/-- What the arguments of one command may be. -/
structure Usage where
  /-- How many plain arguments there may be. -/
  places : Nat
  /-- The names of the options that have a value. -/
  options : List String
  /-- Whether the version may be asked for. -/
  tellsVersion : Bool := false
  deriving DecidableEq, Repr

/-- The arguments read so far. -/
structure Given where
  verbose : Bool := false
  plain : List String := []
  options : List (String × String) := []
  deriving DecidableEq, Repr

namespace Given

/-- More output is asked for, which may be done once. -/
def addVerbose (given : Given) : Except Stop Given :=
  if given.verbose then .error .misuse else .ok { given with verbose := true }

/-- An option with its value, which may be given once. -/
def addOption (given : Given) (name value : String) : Except Stop Given :=
  if (given.options.lookup name).isSome then .error .misuse
  else .ok { given with options := given.options ++ [(name, value)] }

/-- A plain argument, as long as there is a place for it. -/
def addPlain (usage : Usage) (given : Given) (text : String) : Except Stop Given :=
  if given.plain.length < usage.places then .ok { given with plain := given.plain ++ [text] }
  else .error .misuse

/-- An option without value, by its name. -/
def addSwitch (usage : Usage) (given : Given) (name : String) : Except Stop Given :=
  if name = "verbose" then given.addVerbose
  else if name = "help" then .error .help
  else if name = "version" && usage.tellsVersion then .error .version
  else .error .misuse

/-- The name of the option with this letter. -/
def switchName (letter : Char) : String :=
  match letter with
  | 'v' => "verbose"
  | 'h' => "help"
  | 'V' => "version"
  | other => other.toString

/-- Options without value, by their letters. -/
def addLetters (usage : Usage) (given : Given) (letters : List Char) : Except Stop Given :=
  letters.foldlM (fun given letter => given.addSwitch usage (switchName letter)) given

/-- The given arguments, with those that are still to be read. The value of an option follows its
name; it does not look like an option itself. -/
def addAll (usage : Usage) (given : Given) : List String → Except Stop Given
  | [] => .ok given
  | text :: rest =>
    match Argument.ofText text with
    | .onlyPlainFollows => rest.foldlM (addPlain usage) given
    | .letters letters => do addAll usage (← given.addLetters usage letters) rest
    | .plain text => do addAll usage (← given.addPlain usage text) rest
    | .named name value =>
      if usage.options.contains name then
        match value, rest with
        | some value, rest => do addAll usage (← given.addOption name value) rest
        | none, next :: later =>
          match Argument.ofText next with
          | .plain value => do addAll usage (← given.addOption name value) later
          | _ => .error .misuse
        | none, [] => .error .misuse
      else if value.isSome then .error .misuse
      else do addAll usage (← given.addSwitch usage name) rest

def option (given : Given) (name default : String) : String :=
  (given.options.lookup name).getD default

end Given

end PageSketch
