import PageSketch.Template.Basic

/-! What may go wrong with a template: its text may be none, or a tag of it may not be filled with the data. -/
namespace PageSketch.Template

/-- A text that is no template, with the name that it was to have. What is wrong is told by these. -/
structure TextError where
  template? : Option String
  text : String
  deriving DecidableEq, Repr

/-- Why a tag cannot be filled, or a text not at all. -/
inductive Reason where
  /-- No function or block has the name. -/
  | unknown (name : String)
  /-- A function or block lacks the argument at a place. -/
  | missingAt (name : String) (place : Nat)
  /-- A function lacks the argument that it calls `param`. -/
  | missing (name param : String)
  /-- The argument that a function calls `param` is of another type. -/
  | mistyped (name param type : String)
  /-- An array has no place of that name. -/
  | badIndex (name : String)
  /-- The text is no template. -/
  | unparsed (cause : TextError)
  deriving DecidableEq, Repr

/-- The reason in words. What is wrong with a text that is no template is said by `words`. -/
def Reason.message (words : TextError → String) : Reason → String
  | unknown name => "Helper not found " ++ name
  | missingAt name place =>
    "Helper/Decorator " ++ name ++ " param at index " ++ toString place ++ " required but not found"
  | missing name param =>
    "Helper/Decorator " ++ name ++ " param with name " ++ param ++ " required but not found"
  | mistyped name param type =>
    "Helper/Decorator " ++ name ++ " param with name " ++ param ++ " type mismatch for " ++ type
  | badIndex name => "Cannot access array/vector with string index, " ++ name
  | unparsed cause => "Failed to parse template " ++ words cause

/-- Why a template cannot be filled, at which tag of its text, and the name of the template if it has one. -/
structure RenderError where
  reason : Reason
  position? : Option Position := none
  template? : Option String := none
  deriving DecidableEq, Repr

namespace RenderError

/-- The error with the position of the tag it came from. One from a tag inside has its own position. -/
def atTag (error : RenderError) (position : Position) : RenderError :=
  { error with position? := error.position?.or (some position) }

/-- The error with the name of the template it came from. -/
def inTemplate (error : RenderError) (name : String) : RenderError :=
  { error with template? := error.template?.or (some name) }

/-- What went wrong, in words. -/
def message (words : TextError → String) (error : RenderError) : String :=
  match error.position? with
  | some position =>
    "Error rendering \"" ++ error.template?.getD "Unnamed template" ++ "\" line " ++
      toString position.line ++ ", col " ++ toString position.column ++ ": " ++ error.reason.message words
  | none => error.reason.message words

end RenderError

end PageSketch.Template
