/-! Finite numbers of double precision: a sign, up to 53 bits, and a power of two. -/
namespace PageSketch

/-- The number `mantissa * 2 ^ exponent`, perhaps negated. The mantissa has exactly 53 bits, or
fewer if the exponent is the least one; a zero has the least exponent and a sign. -/
structure Double where
  negative : Bool
  mantissa : Nat
  exponent : Int
  deriving DecidableEq, Repr, Inhabited

namespace Double

def leastExponent : Int := -1074

def greatestExponent : Int := 971

/-- The least mantissa of 53 bits. -/
def leastFull : Nat := 0x10000000000000

def zero (negative : Bool) : Double := ⟨negative, 0, leastExponent⟩

def isZero (value : Double) : Bool := value.mantissa == 0

def isNormal (value : Double) : Bool := decide (leastFull ≤ value.mantissa)

/-- Whether two doubles are equal as numbers; the sign of a zero does not count. -/
def same (left right : Double) : Bool := (left.isZero && right.isZero) || left == right

/-- The integer nearest to a quotient; a half goes to the even neighbour. -/
def roundQuotient (top bottom : Nat) : Nat :=
  let whole := top / bottom
  let twice := 2 * (top % bottom)
  if bottom < twice ∨ (twice = bottom ∧ whole % 2 = 1) then whole + 1 else whole

/-- The fraction `top / bottom` in units of `2 ^ exponent`, as a fraction. -/
def inUnits (top bottom : Nat) (exponent : Int) : Nat × Nat :=
  (top <<< (-exponent).toNat, bottom <<< exponent.toNat)

/-- The exponent with which a positive fraction has 53 bits, or the least one. -/
def exponentOf (top bottom : Nat) : Int :=
  let guess : Int := top.log2 - bottom.log2 - 53
  let (scaledTop, scaledBottom) := inUnits top bottom guess
  max leastExponent (if scaledTop / scaledBottom < 2 * leastFull then guess else guess + 1)

/-- The double nearest to a fraction, with a sign; none when the fraction is too great. -/
def ofFraction? (negative : Bool) (top bottom : Nat) : Option Double :=
  if top = 0 then some (zero negative)
  else
    let exponent := exponentOf top bottom
    let (scaledTop, scaledBottom) := inUnits top bottom exponent
    let mantissa := roundQuotient scaledTop scaledBottom
    let value : Double :=
      if mantissa = 2 * leastFull then ⟨negative, leastFull, exponent + 1⟩
      else ⟨negative, mantissa, exponent⟩
    if value.exponent ≤ greatestExponent then some value else none

def top (value : Double) : Nat := value.mantissa <<< value.exponent.toNat

def bottom (value : Double) : Nat := 1 <<< (-value.exponent).toNat

/-- The product, rounded; none when it is too great. -/
def times? (left right : Double) : Option Double :=
  ofFraction? (left.negative != right.negative) (left.top * right.top) (left.bottom * right.bottom)

/-- The quotient, rounded; none when it is too great. -/
def over? (left right : Double) : Option Double :=
  ofFraction? (left.negative != right.negative) (left.top * right.bottom) (left.bottom * right.top)

/-- The double nearest to a power of ten. -/
def powerOfTen (power : Nat) : Double := (ofFraction? false (Nat.pow 10 power) 1).getD (zero false)

/-- The greatest power of ten that a number is multiplied with or divided by at once. -/
def greatestPower : Nat := 308

/-- The number divided so many times by the greatest power of ten. A zero stays as it is. -/
def lowered (value : Double) : (times : Nat) → Double
  | 0 => value
  | times + 1 =>
    if value.isZero then value
    else ((value.over? (powerOfTen greatestPower)).getD value).lowered times

/-- The number times a power of ten. Each multiplication and division is rounded, and no power is
greater than the greatest one; none when the result is too great. -/
def scale? (value : Double) (power : Int) : Option Double :=
  if value.isZero then some value
  else if greatestPower < power then none
  else if 0 ≤ power then value.times? (powerOfTen power.toNat)
  else
    let steps := (power.natAbs - 1) / greatestPower
    (value.lowered steps).over? (powerOfTen (power.natAbs - steps * greatestPower))

/-- The double that digits with a power of ten stand for; none when it is too great. -/
def ofDecimal? (negative : Bool) (digits : Nat) (power : Int) : Option Double :=
  (ofFraction? negative digits 1).bind (·.scale? power)

end Double

end PageSketch
