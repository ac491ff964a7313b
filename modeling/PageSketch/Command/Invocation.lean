import PageSketch.Command.Argument
import PageSketch.Command.Basic

/-! What a command line asks for, and what comes of it. -/
namespace PageSketch

/-- A command with all that it needs to know. -/
inductive Command where
  /-- Draws the components of a source file into a folder. -/
  | compile (input folder : String) (credits : Credits)
  /-- Shows what a source file describes. -/
  | inspect (input : String)
  /-- Starts a project in the present folder. -/
  | start (name : String)
  deriving DecidableEq, Repr

namespace Command

/-- The words that name the commands. -/
def words : List String := ["compile", "inspect", "init"]

/-- What the arguments after a command's word may be. -/
def usage (word : String) : Usage :=
  match word with
  | "compile" => { places := 2, options := ["human", "ai"] }
  | _ => { places := 1, options := [] }

/-- The command with a word and arguments. -/
def ofGiven (word : String) (given : Given) : Except Stop Command :=
  match word, given.plain with
  | "compile", input :: rest =>
    .ok (compile input (rest.head?.getD "./dist")
      { human := given.option "human" "Human", ai := given.option "ai" "Claude" })
  | "inspect", [input] => .ok (inspect input)
  | "init", rest => .ok (start (rest.head?.getD "centaur-project"))
  | _, _ => .error .misuse

/-- What help may be asked for: nothing more, or one command. -/
def isHelpTopic : List String → Bool
  | [] => true
  | [word] => (words ++ ["help"]).contains word
  | _ => false

/-- The command that a command line asks for, after some options in front of it. -/
def ofArguments (given : Given) : List String → Except Stop Command
  | [] => .error .misuse
  | word :: rest =>
    if words.contains word then
      (Given.addAll (usage word) {} rest).bind (ofGiven word)
    else if word = "help" then .error (if isHelpTopic rest then .help else .misuse)
    else
      match Argument.ofText word with
      | .letters letters => do
        ofArguments (← given.addLetters ⟨0, [], true⟩ letters) rest
      | .named name none => do
        ofArguments (← given.addSwitch ⟨0, [], true⟩ name) rest
      | _ => .error .misuse

end Command

/-- What comes of a command line. -/
inductive Outcome where
  /-- A command is done and prints something. -/
  | done (text : String)
  /-- A command fails. -/
  | failed (problem : CommandError)
  /-- Help is given, as asked for. -/
  | help
  /-- The command line makes no sense. -/
  | misuse
  deriving DecidableEq, Repr

namespace Outcome

/-- The exit code of the program. -/
def exitCode : Outcome → UInt32
  | done _ | help => 0
  | failed _ => 1
  | misuse => 2

/-- How the program is called. -/
def usageText : String :=
  "Usage:\n" ++
    "  centaur compile <INPUT> [OUTPUT] [--human <NAME>] [--ai <NAME>]\n" ++
    "  centaur inspect <INPUT>\n" ++
    "  centaur init [NAME]\n"

/-- What the program writes to its output. -/
def output : Outcome → String
  | done text => text
  | help => usageText
  | failed _ | misuse => ""

/-- What the program writes to its error output. -/
def errorOutput : Outcome → String
  | failed problem => "Error: " ++ problem.message ++ "\n"
  | misuse => usageText
  | done _ | help => ""

end Outcome

namespace Command

variable {m : Type → Type} [Monad m] [FileStore m]

/-- What a command prints. -/
def perform (year : Int) : Command → Task m String
  | compile input folder credits => do
    let paths ← Task.compile year credits input folder
    return String.join (paths.map (· ++ "\n"))
  | inspect input => do return (← Task.inspect year input) ++ "\n"
  | start name => do return (← Task.start "." name) ++ "\n"

/-- What comes of a command line. -/
def run (year : Int) (arguments : List String) : m Outcome := do
  match ofArguments {} arguments with
  | .error .help => return .help
  | .error .version => return .done ("centaur " ++ version ++ "\n")
  | .error .misuse => return .misuse
  | .ok command =>
    match ← (command.perform year).run with
    | .ok text => return .done text
    | .error problem => return .failed problem

end Command

end PageSketch
