import PageSketch.Component.Json
import PageSketch.Program.Diagnostic

/-! Programs: all components of a source and the findings about it. -/
namespace PageSketch

/-- The components of a source in order, and the findings about it in order. -/
structure Program where
  components : List Component := []
  diagnostics : List Diagnostic := []
  deriving DecidableEq, Repr

namespace Program

def component? (program : Program) (name : String) : Option Component :=
  program.components.find? (·.name == name)

def indexOf? (program : Program) (name : String) : Option Nat :=
  program.components.findIdx? (·.name == name)

def isEmpty (program : Program) : Bool := program.components.isEmpty

/-- The JSON form of a program. -/
def toJson (program : Program) : Json :=
  .object [("components", .array (program.components.map Component.toJson)),
    ("diagnostics", .array (program.diagnostics.map Diagnostic.toJson))]

end Program

end PageSketch
