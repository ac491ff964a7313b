import PageSketch.Double.Basic
import PageSketch.Text.Basic

/-! The text of a double: the fewest digits that read back, and how they are laid out. -/
namespace PageSketch

/-- The number `digits * 10 ^ power`. -/
structure Decimal where
  digits : Nat
  power : Int
  deriving DecidableEq, Repr

namespace Decimal

def top (decimal : Decimal) : Nat := decimal.digits * Nat.pow 10 decimal.power.toNat

def bottom (decimal : Decimal) : Nat := Nat.pow 10 (-decimal.power).toNat

/-- The decimal without zeros at the end of its digits, of which it has at most `count`. -/
def trimmed (decimal : Decimal) : (count : Nat) → Decimal
  | 0 => decimal
  | count + 1 =>
    if decimal.digits % 10 = 0 then trimmed ⟨decimal.digits / 10, decimal.power + 1⟩ count
    else decimal

/-- How many digits a number has; zero has none. -/
def countDigits (value : Nat) : Nat := if value = 0 then 0 else (Nat.toDigits 10 value).length

end Decimal

namespace Double

/-- The ends of the interval that rounds to a double, in quarters of the unit of its last bit. Just
above a power of two the lower half of the interval is only half as long. -/
def bounds (value : Double) : Nat × Nat :=
  let middle := 4 * value.mantissa
  (if value.mantissa = leastFull ∧ leastExponent < value.exponent then middle - 1 else middle - 2,
    middle + 2)

/-- Whether a decimal rounds to the double, whose sign does not count. The ends of the interval
round to it when its mantissa is even. -/
def readsBack (value : Double) (decimal : Decimal) : Bool :=
  let (low, high) := value.bounds
  let (scaled, unit) := inUnits decimal.top decimal.bottom (value.exponent - 2)
  if value.mantissa % 2 = 0 then low * unit ≤ scaled && scaled ≤ high * unit
  else low * unit < scaled && scaled < high * unit

/-- The power of ten of the first digit of a positive double. -/
def magnitude (value : Double) : Int :=
  if value.bottom ≤ value.top then Decimal.countDigits (value.top / value.bottom) - 1
  else -Decimal.countDigits ((value.bottom + value.top - 1) / value.top - 1)

/-- The decimal of so many digits nearest to a positive double among those that round to it. Of two
that are equally near the even one counts. -/
def decimal? (value : Double) (count : Nat) : Option Decimal :=
  let power := value.magnitude + 1 - count
  let grid := Decimal.mk 1 power
  let scaled := value.top * grid.bottom
  let unit := value.bottom * grid.top
  let below := Decimal.mk (scaled / unit) power
  let above := Decimal.mk (scaled / unit + 1) power
  let nearest :=
    if roundQuotient scaled unit = below.digits then [below, above] else [above, below]
  nearest.find? value.readsBack

/-- The shortest decimal that rounds to a positive double. Seventeen digits are enough. -/
def shortest (value : Double) : Decimal :=
  let found := (List.range 17).findSome? fun count => value.decimal? (count + 1)
  (found.getD ⟨value.mantissa, 0⟩).trimmed 17

/-- The least power of ten of the first digit of a number that is written in full. -/
def leastPlain : Int := -5

/-- The greatest power of ten of the first digit of a number that is written in full. -/
def greatestPlain : Int := 15

/-- The digits with a point behind the first one, if there are more. -/
def pointed : Text → Text
  | [] => []
  | [only] => [only]
  | first :: second :: rest => first :: '.' :: second :: rest

/-- The text of a number without sign, given its digits and the power of ten of the first of them.
Very small and very large numbers are written with a power of ten. -/
def layout (digits : Text) (leading : Int) : Text :=
  let zeros (count : Int) : Text := List.replicate count.toNat '0'
  if leading < leastPlain ∨ greatestPlain < leading then
    pointed digits ++ 'e' :: (if leading < 0 then '-' else '+') ::
      Nat.toDigits 10 leading.natAbs
  else if leading < 0 then "0.".toList ++ zeros (-leading - 1) ++ digits
  else if digits.length ≤ leading + 1 then
    digits ++ zeros (leading + 1 - digits.length) ++ ".0".toList
  else digits.take (leading + 1).toNat ++ '.' :: digits.drop (leading + 1).toNat

/-- The text of a double. -/
def text (value : Double) : Text :=
  let written :=
    if value.isZero then layout ['0'] 0
    else
      let decimal := value.shortest
      let digits := Nat.toDigits 10 decimal.digits
      layout digits (decimal.power + digits.length - 1)
  if value.negative then '-' :: written else written

end Double

end PageSketch
