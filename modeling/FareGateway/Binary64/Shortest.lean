import FareGateway.Binary64

/-!
# The shortest decimal that reads back

A finite number stands for the interval of reals that round to it; the ends
belong to it when its significand is even.  `shortest` is the decimal with the
fewest digits in that interval, of several the one nearest to the number, and
of two equally near ones the even one.

Sizes are counted in quarter units here, so that the ends of the interval are
whole: the step down is half as wide below a power of two.
-/

namespace FareGateway

/-- The number `digits * 10 ^ exponent`. -/
structure Decimal where
  digits : Nat
  exponent : Int
  deriving DecidableEq, Repr

namespace Decimal

/-- Drops trailing zeros, at most `fuel` of them. -/
def trim : Nat → Decimal → Decimal
  | 0, d => d
  | fuel + 1, d =>
      if d.digits ≠ 0 ∧ d.digits % 10 = 0 then
        trim fuel ⟨d.digits / 10, d.exponent + 1⟩
      else d

/-- The digits without an exponent, and without a point when there is no fraction. -/
def positional (d : Decimal) : List Char :=
  let digits := Nat.toDigits 10 d.digits
  let point := digits.length + d.exponent
  if 0 ≤ d.exponent then digits ++ List.replicate d.exponent.toNat '0'
  else if 0 < point then
    digits.take point.toNat ++ '.' :: digits.drop point.toNat
  else '0' :: '.' :: List.replicate (-point).toNat '0' ++ digits

end Decimal

/-- The number of decimal digits; zero has none. -/
def digitCount (n : Nat) : Nat :=
  if h : n = 0 then 0 else digitCount (n / 10) + 1
termination_by n
decreasing_by omega

namespace Binary64

def quartersPerOne : Nat := 4 * unitsPerOne

def lowerEnd (x : Binary64) : Nat :=
  4 * x.units -
    if x.significand = 1 <<< 52 ∧ x.scale ≠ 0 then 1 <<< x.scale
    else 1 <<< (x.scale + 1)

def upperEnd (x : Binary64) : Nat := 4 * x.units + (1 <<< (x.scale + 1))

/-- Whether `digits * num / den`, in quarter units, rounds to the number. -/
def covers (x : Binary64) (digits num den : Nat) : Bool :=
  if x.significand % 2 = 0 then
    decide (x.lowerEnd * den ≤ digits * num ∧ digits * num ≤ x.upperEnd * den)
  else
    decide (x.lowerEnd * den < digits * num ∧ digits * num < x.upperEnd * den)

/-- The place of the decimal point: `10 ^ (point - 1) ≤ x < 10 ^ point`. -/
def decimalPoint (x : Binary64) : Int :=
  if unitsPerOne ≤ x.units then (digitCount (x.units / unitsPerOne) : Int)
  else 1 - digitCount ((unitsPerOne - 1) / x.units)

def decimalOfCount? (x : Binary64) (count : Nat) : Option Decimal :=
  let exponent := x.decimalPoint - count
  let num := quartersPerOne * Nat.pow 10 exponent.toNat
  let den := Nat.pow 10 (-exponent).toNat
  let value := 4 * x.units * den
  let below := value / num
  match x.covers below num den, x.covers (below + 1) num den with
  | false, false => none
  | true, false => some ⟨below, exponent⟩
  | false, true => some ⟨below + 1, exponent⟩
  | true, true =>
      let nearBelow := 2 * value < (2 * below + 1) * num
      let halfway := 2 * value = (2 * below + 1) * num
      some ⟨if nearBelow ∨ (halfway ∧ below % 2 = 0) then below else below + 1,
        exponent⟩

/-- The shortest decimal that rounds to a finite number.  Seventeen digits
always do, so the last alternative is never taken. -/
def shortest (x : Binary64) : Decimal :=
  if x.isZero then ⟨0, 0⟩
  else
    let found := (List.range 17).findSome? fun n => x.decimalOfCount? (n + 1)
    Decimal.trim 17 (found.getD ⟨x.units / unitsPerOne, 0⟩)

end Binary64

end FareGateway
