import PageSketch.Json.Basic
import PageSketch.Text.Digit
import PageSketch.Text.Reader

/-! Numbers as JSON writes them: digits, perhaps with a sign, a fraction and a power of ten. -/
namespace PageSketch.Json

/-- The run of ASCII digits that a text starts with, and the rest of the text. -/
def digitsOf (chars : Text) : Text × Text :=
  (chars.takeWhile Char.isDigit, chars.dropWhile Char.isDigit)

/-- The integer that further digits make of a value, as long as it has at most 64 bits, and how many
digits are left over. After the first digit that is left over, all are. -/
def appendDigits (value : Nat) : Text → Nat × Nat
  | [] => (value, 0)
  | digit :: rest =>
    let longer := 10 * value + (digit.toNat - '0'.toNat)
    if longer < UInt64.size then appendDigits longer rest else (value, rest.length + 1)

/-- The digits after the point that a text starts with, and the rest of the text. A point without
digits after it makes no number. -/
def fraction? : Reader Text
  | '.' :: rest => if (digitsOf rest).1.isEmpty then none else some (digitsOf rest)
  | chars => some ([], chars)

/-- A sign in front of a text, and the rest of the text. -/
def signOf : Text → Bool × Text
  | '-' :: rest => (true, rest)
  | '+' :: rest => (false, rest)
  | chars => (false, chars)

/-- The power of ten that a text starts with, if it starts with one, and the rest of the text. The
letter without digits after it makes no number. -/
def power? : Reader (Option Int) := fun chars =>
  match chars with
  | letter :: rest =>
    if letter = 'e' ∨ letter = 'E' then
      let (negative, unsigned) := signOf rest
      let (digits, left) := digitsOf unsigned
      (Text.readNat digits).map fun power => (some (if negative then -power else power), left)
    else some (none, chars)
  | [] => some (none, [])

/-- The integer with this sign and these digits; a double when it does not fit 64 bits. A negative
zero is a double. -/
def wholeNumber? (negative : Bool) (digits : Nat) : Option Json :=
  if negative ∧ (digits = 0 ∨ 0x8000000000000000 < digits) then
    (Double.ofDecimal? negative digits 0).map double
  else some (number (if negative then -digits else digits))

/-- The number that a text starts with, and the rest of the text. Digits that do not fit 64 bits
count as zeros. -/
def numeral? : Reader Json := fun chars => do
  let (negative, unsigned) := match chars with
    | '-' :: rest => (true, rest)
    | chars => (false, chars)
  let (whole, afterWhole) := digitsOf unsigned
  if whole.isEmpty ∨ (whole.head? = some '0' ∧ whole ≠ ['0']) then none
  let (fraction, afterFraction) ← fraction? afterWhole
  let (power, rest) ← power? afterFraction
  let (digits, left) := appendDigits 0 whole
  let (allDigits, lost) := appendDigits digits fraction
  if fraction.isEmpty ∧ power.isNone ∧ left = 0 then
    return (← wholeNumber? negative digits, rest)
  else
    let places : Int := left - (fraction.length - lost : Nat)
    let value ← Double.ofDecimal? negative allDigits (places + power.getD 0)
    return (double value, rest)

end PageSketch.Json
