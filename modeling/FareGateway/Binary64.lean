/-!
# Binary64 numbers

A `Binary64` is its 64 bits.  Every finite number is a whole multiple of the
least positive one, `2 ^ -1074`, so its size is a natural number of such
*units*, and arithmetic on the sizes is exact.  Rounding goes the other way:
`ofUnits` takes a fraction of units to the nearest number, a tie going to the
even significand.

The order of the magnitudes as words is the order of the sizes: the step from
one magnitude to the next is one in the last place, also across a change of
exponent and into infinity.
-/

namespace FareGateway

structure Binary64 where
  bits : UInt64
  deriving DecidableEq, Repr, Inhabited

namespace Binary64

/-! ## Fields -/

/-- The word without its sign. -/
def magnitude (x : Binary64) : Nat := x.bits.toNat % (1 <<< 63)

def isNegative (x : Binary64) : Bool := decide (1 <<< 63 ≤ x.bits.toNat)

/-- The magnitude of infinity; those above it are not numbers. -/
def infiniteMagnitude : Nat := 2047 <<< 52

def isFinite (x : Binary64) : Bool := decide (x.magnitude < infiniteMagnitude)

def isInfinite (x : Binary64) : Bool := decide (x.magnitude = infiniteMagnitude)

def isNaN (x : Binary64) : Bool := decide (infiniteMagnitude < x.magnitude)

def isZero (x : Binary64) : Bool := decide (x.magnitude = 0)

def unitsPerOne : Nat := 1 <<< 1074

/-- How many times the unit is doubled in the last place of the number. -/
def scale (x : Binary64) : Nat := (x.magnitude >>> 52) - 1

def significand (x : Binary64) : Nat := x.magnitude - (x.scale <<< 52)

def units (x : Binary64) : Nat := x.significand <<< x.scale

def signedUnits (x : Binary64) : Int :=
  if x.isNegative then -(x.units : Int) else x.units

def pack (negative : Bool) (magnitude : Nat) : Binary64 :=
  ⟨UInt64.ofNat (if negative then magnitude + (1 <<< 63) else magnitude)⟩

/-- The one pattern that stands for every result that is not a number. -/
def nan : Binary64 := ⟨0x7ff8000000000000⟩

def infinity (negative : Bool) : Binary64 := pack negative infiniteMagnitude

def zero (negative : Bool) : Binary64 := pack negative 0

def negate (x : Binary64) : Binary64 := pack (!x.isNegative) x.magnitude

/-! ## Rounding -/

/-- The nearest whole quotient; a half goes to the even one. -/
def roundHalfEven (num den : Nat) : Nat :=
  let quotient := num / den
  let twice := 2 * (num % den)
  if twice < den ∨ (twice = den ∧ quotient % 2 = 0) then quotient
  else quotient + 1

/-- The magnitude nearest to `num / den` units, infinity when that is too large. -/
def magnitudeOfUnits (num den : Nat) : Nat :=
  let scale := Nat.log2 (num / den) - 52
  min ((scale <<< 52) + roundHalfEven num (den <<< scale)) infiniteMagnitude

def ofUnits (negative : Bool) (num den : Nat) : Binary64 :=
  pack negative (magnitudeOfUnits num den)

def ofQuotient (negative : Bool) (num den : Nat) : Binary64 :=
  ofUnits negative (num * unitsPerOne) den

def ofNat (n : Nat) : Binary64 := ofQuotient false n 1

def ofInt (n : Int) : Binary64 := ofQuotient (decide (n < 0)) n.natAbs 1

/-! ## Arithmetic -/

def mul (x y : Binary64) : Binary64 :=
  let negative := x.isNegative != y.isNegative
  if x.isNaN || y.isNaN then nan
  else if x.isInfinite || y.isInfinite then
    if x.isZero || y.isZero then nan else infinity negative
  else ofUnits negative (x.units * y.units) unitsPerOne

def div (x y : Binary64) : Binary64 :=
  let negative := x.isNegative != y.isNegative
  if x.isNaN || y.isNaN then nan
  else if x.isInfinite then
    if y.isInfinite then nan else infinity negative
  else if y.isInfinite then zero negative
  else if y.isZero then
    if x.isZero then nan else infinity negative
  else ofUnits negative (x.units * unitsPerOne) y.units

/-! ## Whole numbers -/

def toWhole? (x : Binary64) : Option Int :=
  if x.isFinite && x.units % unitsPerOne == 0 then
    some (if x.isNegative then -(x.units / unitsPerOne : Nat)
      else (x.units / unitsPerOne : Nat))
  else none

def truncate (x : Binary64) : Int :=
  let whole := x.units / unitsPerOne
  if x.isNegative then -(whole : Int) else whole

def roundHalfAway (x : Binary64) : Int :=
  let whole := (2 * x.units + unitsPerOne) / (2 * unitsPerOne)
  if x.isNegative then -(whole : Int) else whole

end Binary64

def Int64.saturate (n : Int) : Int64 :=
  if n < Int64.minValue.toInt then Int64.minValue
  else if Int64.maxValue.toInt < n then Int64.maxValue
  else Int64.ofInt n

end FareGateway
