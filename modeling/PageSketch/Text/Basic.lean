/-! Texts as lists of characters: searching, cutting and cutting up; and tables of character properties. -/
namespace PageSketch

/-- A text is handled as the list of its characters, so that list induction reaches it. -/
abbrev Text := List Char

namespace Text

/-- Whether `needle` stands somewhere in the text as one contiguous run. -/
def holds (needle : Text) : Text → Bool
  | [] => needle.isEmpty
  | first :: rest => needle.isPrefixOf (first :: rest) || holds needle rest

def mentions (text : Text) (needle : String) : Bool := holds needle.toList text

def mentionsAny (text : Text) (needles : List String) : Bool :=
  needles.any text.mentions

/-- What stands before and after the first occurrence of `mark`. -/
def cut? (mark : Text) : Text → Option (Text × Text)
  | [] => if mark.isEmpty then some ([], []) else none
  | first :: rest =>
    if mark.isPrefixOf (first :: rest) then some ([], (first :: rest).drop mark.length)
    else (cut? mark rest).map fun (before, after) => (first :: before, after)

/-- The text after `mark`, when it starts with it. -/
def after? : Text → Text → Option Text
  | [], text => some text
  | _ :: _, [] => none
  | mark :: marks, first :: rest => if mark = first then after? marks rest else none

/-- The pieces between the characters that satisfy `isMark`: one more than there are marks. -/
def pieces (isMark : Char → Bool) : Text → List Text
  | [] => [[]]
  | first :: rest =>
    match isMark first, pieces isMark rest with
    | true, found => [] :: found
    | false, piece :: others => (first :: piece) :: others
    | false, [] => [[first]]

/-- The texts with `mark` between each two neighbours. -/
def joined (mark : Text) : List Text → Text
  | [] => []
  | [only] => only
  | first :: second :: rest => first ++ mark ++ joined mark (second :: rest)

/-- The text without the longest run at its end of characters that satisfy `drops`. -/
def dropEndWhile (drops : Char → Bool) : Text → Text
  | [] => []
  | first :: rest =>
    match dropEndWhile drops rest with
    | [] => if drops first then [] else [first]
    | kept => first :: kept

/-- Closed ranges of code points in ascending order. -/
abbrev CodeRanges := List (Nat × Nat)

/-- Ranges ascend, so the search stops at the first one that starts after the code point. -/
def CodeRanges.contains : CodeRanges → Nat → Bool
  | [], _ => false
  | (first, last) :: rest, code =>
    decide (first ≤ code) && (decide (code ≤ last) || CodeRanges.contains rest code)

end Text

end PageSketch
