import FareGateway.Binary64.Shortest
import FareGateway.Json.Value

/-!
# Numbers in JSON

Integers are read exactly, and only from digits without fraction and exponent.

A binary64 is read in two steps.  The digits are collected into one 64-bit
significand, as many as fit; the decimal exponent counts those that do not.
The significand is then multiplied or divided, in binary64 arithmetic, by a
power of ten.  Each step rounds, so the result may differ in the last place
from the number nearest to what is written.

A binary64 is written with its shortest digits, positionally when the decimal
point falls among or near them.
-/

namespace FareGateway.Json

/-! ## Reading -/

structure Scaled where
  significand : Nat := 0
  exponent : Int := 0
  deriving DecidableEq, Repr

namespace Scaled

def fits (scaled : Scaled) (digit : Digit) : Bool :=
  decide (scaled.significand * 10 + digit.val < UInt64.size)

/-- Collects digits before the point.  After the first that does not fit, the
rest only raise the exponent. -/
def addWhole (scaled : Scaled) : List Digit → Scaled
  | [] => scaled
  | digit :: rest =>
      if scaled.fits digit then
        addWhole ⟨scaled.significand * 10 + digit.val, scaled.exponent⟩ rest
      else ⟨scaled.significand, scaled.exponent + (rest.length + 1)⟩

/-- Collects digits after the point.  From the first that does not fit on, they
are dropped. -/
def addFraction (scaled : Scaled) : List Digit → Scaled
  | [] => scaled
  | digit :: rest =>
      if scaled.fits digit then
        addFraction ⟨scaled.significand * 10 + digit.val, scaled.exponent - 1⟩ rest
      else scaled

end Scaled

def natOfDigits (digits : List Digit) : Nat :=
  digits.foldl (fun acc digit => acc * 10 + digit.val) 0

namespace Number

def isInteger (number : Number) : Bool :=
  number.fraction = [] && number.exponent = []

/-- A natural number below a bound.  Minus zero is not one. -/
def toNat? (bound : Nat) (number : Number) : Option Nat :=
  let n := natOfDigits number.whole
  if number.isInteger && !number.negative && decide (n < bound) then some n
  else none

def scaled (number : Number) : Scaled :=
  let read := (Scaled.addWhole {} number.whole).addFraction number.fraction
  let exponent : Int := natOfDigits number.exponent
  ⟨read.significand,
    read.exponent + if number.exponentNegative then -exponent else exponent⟩

end Number

def tenTo (n : Nat) : Binary64 := Binary64.ofNat (Nat.pow 10 n)

/-- Divides by a power of ten, in steps of at most `10 ^ 308`. -/
def shrink (x : Binary64) (exponent : Nat) : Binary64 :=
  if exponent ≤ 308 then x.div (tenTo exponent)
  else if x.isZero then x
  else shrink (x.div (tenTo 308)) (exponent - 308)
termination_by exponent

def Scaled.toBinary64? (scaled : Scaled) : Option Binary64 :=
  let x := Binary64.ofNat scaled.significand
  if scaled.exponent < 0 then some (shrink x scaled.exponent.natAbs)
  else if x.isZero then some x
  else if 308 < scaled.exponent then none
  else
    let result := x.mul (tenTo scaled.exponent.natAbs)
    if result.isInfinite then none else some result

def Number.toBinary64? (number : Number) : Option Binary64 :=
  number.scaled.toBinary64?.map fun x => if number.negative then x.negate else x

/-! ## Writing -/

def Number.ofNat (n : Nat) : Number := { whole := digitsOf n }

/-- Positional when at most sixteen digits stand before the point and at most
four zeros after it, with at least one digit on each side; else one digit before
the point and an exponent. -/
def Number.ofDecimal (negative : Bool) (decimal : Decimal) : Number :=
  let digits := digitsOf decimal.digits
  let point := digits.length + decimal.exponent
  if 0 ≤ decimal.exponent ∧ point ≤ 16 then
    { negative, whole := digits ++ List.replicate decimal.exponent.toNat Digit.zero
      fraction := [Digit.zero] }
  else if 0 < point ∧ point ≤ 16 then
    { negative, whole := digits.take point.toNat
      fraction := digits.drop point.toNat }
  else if -5 < point ∧ point ≤ 0 then
    { negative, whole := [Digit.zero]
      fraction := List.replicate (-point).toNat Digit.zero ++ digits }
  else
    { negative, whole := digits.take 1, fraction := digits.drop 1
      exponentNegative := decide (point < 1)
      exponent := digitsOf (point - 1).natAbs }

/-- What is not a finite number is written as `null`. -/
def Value.ofBinary64 (x : Binary64) : Value :=
  if x.isFinite then .number (Number.ofDecimal x.isNegative x.shortest) else .null

end FareGateway.Json
