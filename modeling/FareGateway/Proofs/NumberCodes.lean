import FareGateway.Digest
import FareGateway.Proofs.ExactValues

/-!
# Codes of numbers

A binary64 that stands for an integer of 64 bits is hashed as that integer.  Only the least
one is left out, because sizes are compared and its size is not that of an integer of 64 bits.
What is not a number has one code.
-/

namespace FareGateway

/-- The pattern of `-2 ^ 63`. -/
def Binary64.leastInteger : Binary64 := ⟨0xC3E0000000000000⟩

namespace Digest

open Binary64 (leastInteger value?_eq_intCast_iff value?_zero toWhole?_eq_some_iff)

theorem natAbs_toInt_lt_iff {n : Int64} : n.toInt.natAbs < 1 <<< 63 ↔ n ≠ Int64.minValue := by
  have hleast : Int64.minValue.toInt = -2 ^ 63 := by decide
  have hlower := n.le_toInt
  have hupper := n.toInt_lt
  rw [ne_eq, ← Int64.toInt_inj, hleast, Nat.one_shiftLeft]
  omega

theorem ofBinary64_of_value {x : Binary64} {n : Int64}
    (h : x.value? = some (n.toInt : ℚ)) :
    ofBinary64 x = if n = Int64.minValue then foldHalves x.bits else ofInt64 n := by
  rw [ofBinary64, toWhole?_eq_some_iff.mpr h]
  simp only [natAbs_toInt_lt_iff, Int64.ofInt_toInt, ite_not]

theorem value?_leastInteger : leastInteger.value? = some (Int64.minValue.toInt : ℚ) :=
  value?_eq_intCast_iff.mpr ⟨by decide, by decide +kernel⟩

theorem value?_eq_least_iff {x : Binary64} :
    x.value? = some (Int64.minValue.toInt : ℚ) ↔ x = leastInteger := by
  constructor
  · intro h
    exact Binary64.eq_of_value? h value?_leastInteger (by decide)
  · rintro rfl
    exact value?_leastInteger

theorem ofBinary64_of_isNotANumber {x : Binary64} (h : x.IsNotANumber) :
    ofBinary64 x = foldHalves Binary64.nan.bits := by
  have hfinite : x.isFinite = false := by
    rw [← Bool.not_eq_true, Binary64.isFinite_iff]
    exact not_not_intro h.1
  rw [ofBinary64, Binary64.toWhole?, hfinite]
  simp [Binary64.isNaN_iff.mpr h]

/--
A binary64 and an integer of 64 bits that are the same number have the same code, except for
the least integer.  That one has another code than its pattern, of which there is only one.
Both patterns of zero have the code of the integer, and all patterns that are not a number
have one code.
-/
theorem equal_numbers_hash_alike (x : Binary64) :
    (∀ n : Int64, x.value? = some (n.toInt : ℚ) →
      ((Value.real x).code = (Value.whole n).code ↔ n ≠ Int64.minValue)) ∧
    (x.value? = some (Int64.minValue.toInt : ℚ) ↔ x = leastInteger) ∧
    (∀ negative : Bool, x = .zero negative →
      x.value? = some 0 ∧ (Value.real x).code = (Value.whole 0).code) ∧
    ∀ y : Binary64, x.IsNotANumber → y.IsNotANumber →
      (Value.real x).code = (Value.real y).code := by
  have hcode (n : Int64) (h : x.value? = some (n.toInt : ℚ)) :
      (Value.real x).code = (Value.whole n).code ↔ n ≠ Int64.minValue := by
    rw [Value.code, Value.code, ofBinary64_of_value h]
    by_cases hleast : n = Int64.minValue
    · subst hleast
      rw [value?_eq_least_iff.mp h]
      decide
    · simp [hleast]
  refine ⟨hcode, value?_eq_least_iff, ?_, fun y hx hy => ?_⟩
  · rintro negative rfl
    have hzero : (Binary64.zero negative).value? = some ((0 : Int64).toInt : ℚ) := by
      simpa using value?_zero negative
    exact ⟨value?_zero negative, (hcode 0 hzero).mpr (by decide)⟩
  · rw [Value.code, Value.code, ofBinary64_of_isNotANumber hx, ofBinary64_of_isNotANumber hy]

/-- The largest number below `2 ^ 63`, and two patterns with a payload of their own. -/
theorem largest_integer_hashes_alike :
    let largest : Binary64 := ⟨0x43DFFFFFFFFFFFFF⟩
    largest.value? = some ((9223372036854774784 : Int64).toInt : ℚ) ∧
      (Value.real largest).code = (Value.whole 9223372036854774784).code ∧
      (Value.real ⟨0x7FF0000000000001⟩).code = (Value.real ⟨0xFFFFFFFFFFFFFFFF⟩).code := by
  intro largest
  have hvalue : largest.value? = some ((9223372036854774784 : Int64).toInt : ℚ) :=
    value?_eq_intCast_iff.mpr ⟨by decide, by decide +kernel⟩
  obtain ⟨hwhole, -, -, -⟩ := equal_numbers_hash_alike largest
  obtain ⟨-, -, -, hpayload⟩ := equal_numbers_hash_alike ⟨0x7FF0000000000001⟩
  refine ⟨hvalue, (hwhole _ hvalue).mpr (by decide), hpayload _ ?_ ?_⟩
  · exact ⟨by decide, by decide⟩
  · exact ⟨by decide, by decide⟩

theorem least_integer_hashes_apart :
    leastInteger.value? = some (Int64.minValue.toInt : ℚ) ∧
      (Value.real leastInteger).code = -1008730112 ∧
      (Value.whole Int64.minValue).code = -2147483648 :=
  ⟨value?_leastInteger, by decide +kernel, by decide⟩

end Digest

end FareGateway
