import FareGateway.Binary64

/-!
# Prices

An amount in a currency.  Amounts are compared by their whole number of cents,
so that 10.1 and 10.100000001 are one price.
-/

namespace FareGateway

structure Price where
  amount : Binary64
  currency : String
  deriving DecidableEq, Repr, Inhabited

/-- Hundred times the amount, rounded to a binary64 and then to the nearest
whole number; a half goes away from zero, what is too large to the last 64-bit
integer, and what is not a number to zero. -/
def Price.cents (price : Price) : Int64 :=
  let product := price.amount.mul (Binary64.ofNat 100)
  if product.isNaN then 0
  else if product.isInfinite then
    if product.isNegative then Int64.minValue else Int64.maxValue
  else Int64.saturate product.roundHalfAway

end FareGateway
