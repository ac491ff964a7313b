import PageSketch.Text.Basic
import PageSketch.Text.ClusterTable

/-! Clusters: characters that a reader takes as one, such as a letter with its marks, a syllable
block, a flag, or a picture made of pictures. -/
namespace PageSketch.Text

/-- The part that a character takes in a cluster. -/
inductive ClusterRole where
  | control
  /-- Continues whatever stands before it. -/
  | extending
  /-- Like an extending character, and joins two pictures. -/
  | joiner
  | spacing
  | opening
  /-- One of the letters that make up flags in pairs. -/
  | flagLetter
  /-- The first, second and third part of a syllable block. -/
  | initial | medial | final
  /-- A syllable block without and with a third part. -/
  | openSyllable | closedSyllable
  | picture
  | other
  deriving DecidableEq, Repr

/-- Whether a code point lies in a closed range. -/
def codeWithin (first last code : Nat) : Bool := decide (first ≤ code) && decide (code ≤ last)

/-- The part of a syllable block that a code point is, if it is one. -/
def syllableRole? (code : Nat) : Option ClusterRole :=
  if codeWithin 0x1100 0x115F code || codeWithin 0xA960 0xA97C code then some .initial
  else if codeWithin 0x1160 0x11A7 code || codeWithin 0xD7B0 0xD7C6 code || code == 0x16D63 ||
    codeWithin 0x16D67 0x16D6A code then some .medial
  else if codeWithin 0x11A8 0x11FF code || codeWithin 0xD7CB 0xD7FB code then some .final
  else if codeWithin 0xAC00 0xD7A3 code then
    some (if (code - 0xAC00) % 28 = 0 then .openSyllable else .closedSyllable)
  else none

/-- The part that a character takes. -/
def ClusterRole.of (char : Char) : ClusterRole :=
  let code := char.toNat
  if controlCodes.contains code then .control
  else if code = 0x200D then .joiner
  else if extendingCodes.contains code then .extending
  else if spacingCodes.contains code then .spacing
  else if openingCodes.contains code then .opening
  else if codeWithin 0x1F1E6 0x1F1FF code then .flagLetter
  else if pictureCodes.contains code then .picture
  else (syllableRole? code).getD .other

/-- How far a cluster has got on the way from one picture to the next. -/
inductive PictureState where
  | none
  /-- A picture, perhaps extended. -/
  | picture
  /-- A picture, perhaps extended, and a joiner. -/
  | joined
  deriving DecidableEq, Repr

/-- How far a cluster has got on the way from one consonant to the next. -/
inductive ConjunctState where
  | none
  | consonant
  /-- A consonant with a linker. -/
  | linked
  deriving DecidableEq, Repr

/-- What decides whether a cluster goes on: its last character and what leads up to it. -/
structure ClusterEnd where
  last : Char
  role : ClusterRole
  /-- Whether the last character is the first of a pair of flag letters. -/
  halfFlag : Bool
  picture : PictureState
  conjunct : ConjunctState
  deriving DecidableEq, Repr

namespace ClusterEnd

/-- The end of a cluster of one character. -/
def start (char : Char) : ClusterEnd :=
  let role := ClusterRole.of char
  { last := char
    role
    halfFlag := role == .flagLetter
    picture := if role = .picture then .picture else .none
    conjunct := if conjunctCodes.contains char.toNat then .consonant else .none }

/-- The way to the next picture after one more character. -/
def nextPicture (state : PictureState) (role : ClusterRole) : PictureState :=
  match state, role with
  | _, .picture => .picture
  | .picture, .extending => .picture
  | .picture, .joiner => .joined
  | _, _ => .none

/-- The way to the next consonant after one more character. The non-joiner ends it. -/
def nextConjunct (state : ConjunctState) (char : Char) (role : ClusterRole) : ConjunctState :=
  if conjunctCodes.contains char.toNat then .consonant
  else if char = '\u200c' then .none
  else if linkerCodes.contains char.toNat then
    if state = .none then .none else .linked
  else if role = .extending || role = .joiner then state
  else .none

/-- The end of the cluster after one more character. -/
def next (left : ClusterEnd) (char : Char) : ClusterEnd :=
  let role := ClusterRole.of char
  { last := char
    role
    halfFlag := role == .flagLetter && !left.halfFlag
    picture := nextPicture left.picture role
    conjunct := nextConjunct left.conjunct char role }

/-- Whether the cluster goes on with a character. -/
def joins (left : ClusterEnd) (char : Char) : Bool :=
  match left.role, ClusterRole.of char with
  | .control, .control => left.last == '\r' && char == '\n'
  | .control, _ | _, .control => false
  | .initial, .initial | .initial, .medial => true
  | .initial, .openSyllable | .initial, .closedSyllable => true
  | .openSyllable, .medial | .openSyllable, .final | .medial, .medial | .medial, .final => true
  | .closedSyllable, .final | .final, .final => true
  | _, .extending | _, .joiner | _, .spacing | .opening, _ => true
  | .flagLetter, .flagLetter => left.halfFlag
  | .joiner, .picture => left.picture == .joined
  | _, _ => left.conjunct == .linked && conjunctCodes.contains char.toNat

end ClusterEnd

/-- The clusters of a text after the one that has begun, which is kept backwards. -/
def clustersFrom (begun : Text) (left : ClusterEnd) : Text → List Text
  | [] => [begun.reverse]
  | first :: rest =>
    if left.joins first then clustersFrom (first :: begun) (left.next first) rest
    else begun.reverse :: clustersFrom [first] (.start first) rest

/-- The clusters of a text, in order. -/
def clusters : Text → List Text
  | [] => []
  | first :: rest => clustersFrom [first] (.start first) rest

end PageSketch.Text
