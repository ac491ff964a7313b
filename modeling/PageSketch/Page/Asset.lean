/-! The files that a component is drawn with, and the comment at the top of each. -/
namespace PageSketch

/-- The version that generated files are marked with. -/
def version : String := "0.4.0"

/-- One of the files that a component is drawn with. -/
inductive Asset where
  | html | css | js
  deriving DecidableEq, Repr

/-- How a comment opens, how each of its lines begins, and how it closes. -/
structure CommentMarks where
  opening : String
  lead : String
  closing : String
  deriving DecidableEq, Repr

/-- Who a generated file is credited to. -/
structure Credits where
  human : String := "Human"
  ai : String := "Claude"
  deriving DecidableEq, Repr

namespace Asset

def all : List Asset := [html, css, js]

/-- What the name of the file ends in. -/
def suffix : Asset → String
  | html => "html"
  | css => "css"
  | js => "js"

/-- The file whose name ends in this. -/
def ofSuffix? (suffix : String) : Option Asset := all.find? (·.suffix == suffix)

/-- The name of this file of a component. -/
def fileName (asset : Asset) (component : String) : String := component ++ "." ++ asset.suffix

/-- How comments are written in the file. -/
def comment : Asset → CommentMarks
  | html => ⟨"<!--", "    ", "-->"⟩
  | css => ⟨"/*", " * ", " */"⟩
  | js => ⟨"/**", " * ", " */"⟩

/-- What the comment at the top of a file says. It holds no time, so that the same source always
gives the same file. -/
def headerLines (component : String) (credits : Credits) : List String :=
  ["@centaur-generated true", "@version " ++ version, "@component " ++ component,
    "@human " ++ credits.human, "@ai " ++ credits.ai]

/-- The comment at the top of this file of a component. -/
def header (asset : Asset) (component : String) (credits : Credits) : String :=
  asset.comment.opening ++ "\n" ++
    String.join ((headerLines component credits).map fun line =>
      asset.comment.lead ++ line ++ "\n") ++
    asset.comment.closing ++ "\n"

end Asset

end PageSketch
