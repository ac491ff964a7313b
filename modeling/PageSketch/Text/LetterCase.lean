import PageSketch.Text.Basic
import PageSketch.Text.CaseTable

/-! Full lower and upper case of texts in any script. -/
namespace PageSketch.Text

def lowerChar (char : Char) : Text :=
  if char = 'İ' then ['i', '\u0307'] else [Char.ofNat (shiftedCode lowerShifts char.toNat)]

/-- The upper-case form of a character. -/
def upperChar (char : Char) : Text :=
  match upperExpansions.lookup char.toNat with
  | some codes => codes.map Char.ofNat
  | none => [Char.ofNat (shiftedCode upperShifts char.toNat)]

/-- Whether the first character that is not ignorable has letter case. -/
def startsCased : Text → Bool
  | [] => false
  | first :: rest =>
    if ignorableCodes.contains first.toNat then startsCased rest
    else casedCodes.contains first.toNat

/-- A capital sigma between `before`, read backwards, and `after`: it is final when a letter stands
before it and none after it. -/
def lowerSigma (before after : Text) : Char :=
  if startsCased before && !startsCased after then 'ς' else 'σ'

/-- The lower-case form of a text that stands after `before`, which is read backwards. -/
def lowerAfter (before : Text) : Text → Text
  | [] => []
  | first :: rest =>
    (if first = 'Σ' then [lowerSigma before rest] else lowerChar first) ++
      lowerAfter (first :: before) rest

def lower (text : Text) : Text := lowerAfter [] text

def upper (text : Text) : Text := text.flatMap upperChar

end PageSketch.Text
