import FareGateway.Binary64
import Mathlib.Algebra.Order.Field.Rat
import Mathlib.Order.Monotone.Basic
import Mathlib.Tactic.FieldSimp
import Mathlib.Tactic.NormNum
import Mathlib.Tactic.Ring

/-!
# The number a pattern stands for

A pattern is read by its three fields, as a rational number.  Counting units gives the same
number, and of two patterns for one number both stand for zero: the units grow with the
magnitude.
-/

namespace FareGateway

namespace Binary64

def signField (x : Binary64) : Nat := x.bits.toNat / 2 ^ 63

def exponentField (x : Binary64) : Nat := x.bits.toNat / 2 ^ 52 % 2 ^ 11

def fractionField (x : Binary64) : Nat := x.bits.toNat % 2 ^ 52

/-- The number without its sign.  The fraction follows a leading one, except where the exponent
field is zero. -/
def size (x : Binary64) : ℚ :=
  if x.exponentField = 0 then x.fractionField / 2 ^ 52 * 2 ^ (-1022 : ℤ)
  else (1 + x.fractionField / 2 ^ 52) * 2 ^ ((x.exponentField : ℤ) - 1023)

/-- The last exponent is left to the infinities and to what is not a number. -/
def value? (x : Binary64) : Option ℚ :=
  if x.exponentField = 2047 then none else some ((-1) ^ x.signField * x.size)

def IsNotANumber (x : Binary64) : Prop := x.exponentField = 2047 ∧ x.fractionField ≠ 0

/-! ## Fields and magnitudes -/

theorem fractionField_lt (x : Binary64) : x.fractionField < 2 ^ 52 :=
  Nat.mod_lt _ (by decide)

theorem magnitude_eq (x : Binary64) :
    x.magnitude = x.exponentField * 2 ^ 52 + x.fractionField := by
  simp only [magnitude, exponentField, fractionField, Nat.shiftLeft_eq]
  omega

theorem isFinite_iff {x : Binary64} : x.isFinite = true ↔ x.exponentField ≠ 2047 := by
  have hfraction := x.fractionField_lt
  have hexponent : x.exponentField < 2 ^ 11 := Nat.mod_lt _ (by decide)
  rw [isFinite, decide_eq_true_iff, magnitude_eq, infiniteMagnitude, Nat.shiftLeft_eq]
  omega

theorem isNaN_iff {x : Binary64} : x.isNaN = true ↔ x.IsNotANumber := by
  have hfraction := x.fractionField_lt
  have hexponent : x.exponentField < 2 ^ 11 := Nat.mod_lt _ (by decide)
  rw [isNaN, decide_eq_true_iff, magnitude_eq, infiniteMagnitude, Nat.shiftLeft_eq,
    IsNotANumber]
  omega

theorem scale_eq (x : Binary64) : x.scale = x.exponentField - 1 := by
  have hfraction := x.fractionField_lt
  rw [scale, magnitude_eq, Nat.shiftRight_eq_div_pow]
  omega

theorem significand_eq (x : Binary64) :
    x.significand = (if x.exponentField = 0 then 0 else 2 ^ 52) + x.fractionField := by
  unfold significand
  rw [scale_eq, magnitude_eq, Nat.shiftLeft_eq]
  split <;> omega

/-! ## Units -/

theorem cast_one_shiftLeft (n : Nat) : ((1 <<< n : Nat) : ℚ) = 2 ^ (n : ℤ) := by
  rw [Nat.one_shiftLeft, Nat.cast_pow, Nat.cast_ofNat, zpow_natCast]

theorem unitsPerOne_eq : (unitsPerOne : ℚ) = 2 ^ (1074 : ℤ) := cast_one_shiftLeft 1074

theorem unitsPerOne_pos : (0 : ℚ) < unitsPerOne := by
  rw [unitsPerOne_eq]
  exact zpow_pos two_pos _

theorem size_eq (x : Binary64) : x.size = x.units / unitsPerOne := by
  rw [eq_div_iff unitsPerOne_pos.ne', unitsPerOne_eq, units, significand_eq, scale_eq,
    Nat.shiftLeft_eq, size]
  by_cases hzero : x.exponentField = 0
  · have hscale : (2 : ℚ) ^ (-1022 : ℤ) * 2 ^ (1074 : ℤ) = 2 ^ 52 := by
      rw [← zpow_add₀ two_ne_zero]
      norm_num
    rw [if_pos hzero, if_pos hzero, hzero, mul_assoc, hscale]
    simp
  · have hscale : (2 : ℚ) ^ ((x.exponentField : ℤ) - 1023) * 2 ^ (1074 : ℤ) =
        2 ^ 52 * 2 ^ (x.exponentField - 1) := by
      have hexponent : (x.exponentField : ℤ) - 1023 + 1074 = 52 + (x.exponentField - 1 : ℕ) := by
        omega
      rw [← zpow_add₀ two_ne_zero, hexponent, zpow_add₀ two_ne_zero, zpow_natCast]
      norm_num
    rw [if_neg hzero, if_neg hzero, mul_assoc, hscale]
    push_cast
    ring

theorem isNegative_iff {x : Binary64} : x.isNegative = true ↔ 2 ^ 63 ≤ x.bits.toNat := by
  rw [isNegative, decide_eq_true_iff, Nat.shiftLeft_eq, one_mul]

theorem sign_eq (x : Binary64) :
    (-1 : ℚ) ^ x.signField = if x.isNegative then -1 else 1 := by
  have hbits : x.bits.toNat < 2 ^ 64 := x.bits.toNat_lt
  have hsign : x.signField = if x.isNegative then 1 else 0 := by
    simp only [signField, isNegative_iff]
    split <;> omega
  rw [hsign]
  cases x.isNegative with
  | true => exact pow_one _
  | false => exact pow_zero _

/-- The number is the count of units, with its sign. -/
theorem value?_eq_some_iff {x : Binary64} {number : ℚ} :
    x.value? = some number ↔
      x.isFinite = true ∧ (x.signedUnits : ℚ) = number * unitsPerOne := by
  have hvalue : (-1) ^ x.signField * x.size = x.signedUnits / unitsPerOne := by
    rw [sign_eq, size_eq, signedUnits]
    split
    · push_cast
      ring
    · rw [one_mul, Int.cast_natCast]
  rw [value?, isFinite_iff, hvalue, ← div_eq_iff unitsPerOne_pos.ne']
  by_cases hlast : x.exponentField = 2047
  · simp [hlast]
  · simp [hlast]

/-! ## Whole numbers -/

theorem whole_quotient_iff (count : Nat) {parts : Nat} (hparts : 0 < parts) (n : Int) :
    (count % parts = 0 ∧ ((count / parts : Nat) : Int) = n) ↔ (count : Int) = n * parts := by
  constructor
  · rintro ⟨hrest, rfl⟩
    have hcount := Nat.div_add_mod' count parts
    rw [hrest, Nat.add_zero] at hcount
    exact_mod_cast hcount.symm
  · intro hcount
    obtain ⟨m, rfl⟩ : ∃ m : Nat, n = m := by
      refine Int.eq_ofNat_of_zero_le (nonneg_of_mul_nonneg_left ?_ (Int.natCast_pos.mpr hparts))
      rw [← hcount]
      exact Int.natCast_nonneg count
    have hcount : count = m * parts := by exact_mod_cast hcount
    rw [hcount, Nat.mul_mod_left, Nat.mul_div_cancel m hparts]
    exact ⟨rfl, rfl⟩

theorem value?_eq_intCast_iff {x : Binary64} {n : Int} :
    x.value? = some (n : ℚ) ↔ x.isFinite = true ∧ x.signedUnits = n * unitsPerOne := by
  rw [value?_eq_some_iff]
  exact_mod_cast Iff.rfl

theorem value?_zero (negative : Bool) : (zero negative).value? = some 0 := by
  have hunits : (zero negative).isFinite = true ∧ (zero negative).signedUnits = 0 := by
    cases negative <;> decide
  rw [← Int.cast_zero, value?_eq_intCast_iff, zero_mul]
  exact hunits

theorem toWhole?_eq_some_iff {x : Binary64} {n : Int} :
    x.toWhole? = some n ↔ x.value? = some (n : ℚ) := by
  have hparts : 0 < unitsPerOne := by exact_mod_cast unitsPerOne_pos
  rw [value?_eq_intCast_iff, toWhole?, signedUnits]
  generalize unitsPerOne = parts at hparts
  cases x.isFinite with
  | false => simp
  | true =>
      cases x.isNegative with
      | false => simpa using whole_quotient_iff x.units hparts n
      | true => simpa [neg_eq_iff_eq_neg] using whole_quotient_iff x.units hparts (-n)

/-! ## One pattern for each number -/

theorem units_eq (x : Binary64) :
    x.units =
      ((if x.exponentField = 0 then 0 else 2 ^ 52) + x.fractionField) *
        2 ^ (x.exponentField - 1) := by
  rw [units, significand_eq, scale_eq, Nat.shiftLeft_eq]

theorem units_lt (x : Binary64) : x.units < 2 ^ 52 * 2 ^ x.exponentField := by
  have hfraction := x.fractionField_lt
  rw [units_eq]
  cases x.exponentField with
  | zero => simpa using hfraction
  | succ exponent =>
      rw [if_neg (Nat.succ_ne_zero exponent), Nat.add_sub_cancel]
      calc (2 ^ 52 + x.fractionField) * 2 ^ exponent
          < (2 ^ 52 * 2) * 2 ^ exponent :=
            Nat.mul_lt_mul_of_pos_right (by omega) (Nat.two_pow_pos exponent)
        _ = 2 ^ 52 * 2 ^ (exponent + 1) := by rw [Nat.mul_assoc, ← Nat.pow_succ']

theorem le_units {x : Binary64} {exponent : Nat} (h : exponent < x.exponentField) :
    2 ^ 52 * 2 ^ exponent ≤ x.units := by
  rw [units_eq, if_neg (Nat.ne_of_gt (Nat.lt_of_le_of_lt (Nat.zero_le _) h))]
  exact Nat.mul_le_mul (Nat.le_add_right _ _) (Nat.pow_le_pow_right two_pos (by omega))

theorem units_lt_units {x y : Binary64} (h : x.magnitude < y.magnitude) : x.units < y.units := by
  have hfraction := y.fractionField_lt
  rw [magnitude_eq, magnitude_eq] at h
  rcases Nat.lt_or_ge x.exponentField y.exponentField with hbelow | habove
  · exact Nat.lt_of_lt_of_le x.units_lt (le_units hbelow)
  · have hsame : x.exponentField = y.exponentField := by omega
    rw [units_eq, units_eq, hsame]
    exact Nat.mul_lt_mul_of_pos_right (by omega) (Nat.two_pow_pos _)

theorem magnitude_eq_of_units_eq {x y : Binary64} (h : x.units = y.units) :
    x.magnitude = y.magnitude := by
  rcases Nat.lt_trichotomy x.magnitude y.magnitude with hlt | heq | hgt
  · exact absurd h (Nat.ne_of_lt (units_lt_units hlt))
  · exact heq
  · exact absurd h (Nat.ne_of_gt (units_lt_units hgt))

theorem isNegative_iff_signedUnits_neg {x : Binary64} (h : x.signedUnits ≠ 0) :
    x.isNegative = true ↔ x.signedUnits < 0 := by
  unfold signedUnits at h ⊢
  cases hsign : x.isNegative with
  | false => simp
  | true =>
      refine iff_of_true rfl ?_
      simp only [hsign, if_true] at h ⊢
      omega

theorem eq_of_value? {x y : Binary64} {number : ℚ} (hx : x.value? = some number)
    (hy : y.value? = some number) (hne : number ≠ 0) : x = y := by
  obtain ⟨-, hxunits⟩ := value?_eq_some_iff.mp hx
  obtain ⟨-, hyunits⟩ := value?_eq_some_iff.mp hy
  have hsame : x.signedUnits = y.signedUnits := by exact_mod_cast hxunits.trans hyunits.symm
  have hpositive : x.signedUnits ≠ 0 := by
    have hproduct := mul_ne_zero hne unitsPerOne_pos.ne'
    rw [← hxunits] at hproduct
    exact_mod_cast hproduct
  have hsign : x.isNegative = y.isNegative := by
    rw [Bool.eq_iff_iff, isNegative_iff_signedUnits_neg hpositive,
      isNegative_iff_signedUnits_neg (hsame ▸ hpositive), hsame]
  have hunits : x.units = y.units := by
    unfold signedUnits at hsame
    rw [hsign] at hsame
    split at hsame <;> omega
  have hmagnitude := magnitude_eq_of_units_eq hunits
  have hbits : x.bits.toNat = y.bits.toNat := by
    have hxbits := x.bits.toNat_lt
    have hybits := y.bits.toNat_lt
    simp only [isNegative, magnitude, Nat.shiftLeft_eq, decide_eq_decide] at hsign hmagnitude
    omega
  cases x
  cases y
  exact congrArg Binary64.mk (UInt64.toNat.inj hbits)

end Binary64

end FareGateway
