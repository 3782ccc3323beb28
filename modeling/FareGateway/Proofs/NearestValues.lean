import FareGateway.Proofs.ExactValues
import Mathlib.Algebra.Order.Field.Basic
import Mathlib.Algebra.Order.Round
import Mathlib.Data.Nat.Cast.Order.Field
import Mathlib.Data.Rat.Floor
import Mathlib.Tactic.Linarith
import Mathlib.Tactic.Positivity

/-!
# The nearest value

A fraction of units is rounded to the nearest finite number, and of two that are nearest to
the one with the even fraction.  The numbers around it stand on a grid of equal steps, where
rounding is that of whole numbers; those below the grid are no match for its first point.
-/

namespace FareGateway

namespace Binary64

/-- The pattern stands for a number, and no other one is nearer. -/
def IsNearest (x : Binary64) (number : ℚ) : Prop :=
  ∃ value, x.value? = some value ∧
    ∀ y other, value? y = some other → |value - number| ≤ |other - number|

/-- If another number is as near, the last place of the pattern is even. -/
def IsNearestEven (x : Binary64) (number : ℚ) : Prop :=
  x.IsNearest number ∧
    ∀ y, IsNearest y number → y.value? ≠ x.value? → x.fractionField % 2 = 0

/-! ## Whole quotients -/

section

variable (num : Nat) {den : Nat}

theorem roundHalfEven_bounds (num den : Nat) :
    num / den ≤ roundHalfEven num den ∧ roundHalfEven num den ≤ num / den + 1 := by
  unfold roundHalfEven
  dsimp only
  split <;> omega

theorem roundHalfEven_mul (hden : 0 < den) (n : Nat) : roundHalfEven (n * den) den = n := by
  simp [roundHalfEven, Nat.mul_div_cancel n hden, hden]

theorem natAbs_roundHalfEven_sub (hden : 0 < den) :
    (2 * ((roundHalfEven num den * den : Nat) : Int) - 2 * num).natAbs ≤ den ∧
      ((2 * ((roundHalfEven num den * den : Nat) : Int) - 2 * num).natAbs = den →
        roundHalfEven num den % 2 = 0) := by
  have hrest := Nat.mod_lt num hden
  have hnum := Nat.div_add_mod' num den
  unfold roundHalfEven
  dsimp only
  split
  · omega
  · rw [Nat.add_one_mul]
    omega

theorem abs_roundHalfEven_sub (hden : 0 < den) :
    |(roundHalfEven num den : ℚ) - num / den| ≤ 1 / 2 ∧
      (|(roundHalfEven num den : ℚ) - num / den| = 1 / 2 → roundHalfEven num den % 2 = 0) := by
  have hden' : (0 : ℚ) < den := Nat.cast_pos.mpr hden
  have herror : |(roundHalfEven num den : ℚ) - num / den| =
      (2 * ((roundHalfEven num den * den : Nat) : Int) - 2 * num).natAbs / (2 * den) := by
    have hparts : (roundHalfEven num den : ℚ) - num / den =
        ((2 * ((roundHalfEven num den * den : Nat) : Int) - 2 * num : Int) : ℚ) / (2 * den) := by
      push_cast
      field_simp
    rw [hparts, abs_div, abs_of_pos (mul_pos two_pos hden'), Nat.cast_natAbs, Int.cast_abs]
  obtain ⟨hle, heven⟩ := natAbs_roundHalfEven_sub num hden
  rw [herror, div_le_iff₀ (mul_pos two_pos hden'), div_eq_iff (mul_pos two_pos hden').ne',
    one_div, inv_mul_cancel_left₀ two_ne_zero]
  exact ⟨Nat.cast_le.mpr hle, fun htie => heven (Nat.cast_injective htie)⟩

/-! ## The grid around a fraction -/

/-- How many times the unit is doubled from one point of the grid to the next. -/
def gridScale (num den : Nat) : Nat := Nat.log2 (num / den) - 52

/-- The number of the point of the grid to which the fraction is rounded. -/
def gridPoint (num den : Nat) : Nat := roundHalfEven num (den * 2 ^ gridScale num den)

theorem magnitudeOfUnits_eq (num den : Nat) :
    magnitudeOfUnits num den =
      min (gridScale num den * 2 ^ 52 + gridPoint num den) infiniteMagnitude := by
  simp only [magnitudeOfUnits, gridScale, gridPoint, Nat.shiftLeft_eq]

theorem lt_two_pow_gridScale (num den : Nat) : num / den < 2 ^ 53 * 2 ^ gridScale num den := by
  have hlog : Nat.log2 (num / den) + 1 ≤ 53 + gridScale num den := by
    unfold gridScale
    omega
  rw [← Nat.pow_add]
  exact Nat.lt_of_lt_of_le Nat.lt_log2_self (Nat.pow_le_pow_right two_pos hlog)

theorem two_pow_gridScale_le {num den : Nat} (h : gridScale num den ≠ 0) :
    2 ^ 52 * 2 ^ gridScale num den ≤ num / den := by
  have hlog : 52 + gridScale num den = Nat.log2 (num / den) := by
    unfold gridScale at h ⊢
    omega
  have hpos : num / den ≠ 0 := by
    intro hzero
    rw [gridScale, hzero] at h
    exact h rfl
  rw [← Nat.pow_add, hlog]
  exact Nat.log2_self_le hpos

theorem gridPoint_bounds (num den : Nat) :
    (gridScale num den = 0 ∨ 2 ^ 52 ≤ gridPoint num den) ∧ gridPoint num den ≤ 2 ^ 53 := by
  have hpow := Nat.two_pow_pos (gridScale num den)
  obtain ⟨hlower, hupper⟩ := roundHalfEven_bounds num (den * 2 ^ gridScale num den)
  rw [← Nat.div_div_eq_div_mul] at hlower hupper
  have hlt : num / den / 2 ^ gridScale num den < 2 ^ 53 :=
    (Nat.div_lt_iff_lt_mul hpow).mpr (lt_two_pow_gridScale num den)
  refine ⟨?_, Nat.le_trans hupper hlt⟩
  rcases Nat.eq_zero_or_pos (gridScale num den) with hzero | hscaled
  · exact .inl hzero
  · have hle := (Nat.le_div_iff_mul_le hpow).mpr (two_pow_gridScale_le hscaled.ne')
    exact .inr (Nat.le_trans hle hlower)

/-- The pattern of a point of a grid, also where the next grid begins. -/
theorem units_of_magnitude {x : Binary64} {scale point : Nat}
    (h : x.magnitude = scale * 2 ^ 52 + point) (hlower : scale = 0 ∨ 2 ^ 52 ≤ point)
    (hupper : point ≤ 2 ^ 53) : x.units = point * 2 ^ scale := by
  have hfraction := x.fractionField_lt
  rw [magnitude_eq] at h
  rw [units_eq]
  rcases Nat.lt_trichotomy x.exponentField (scale + 1) with hbelow | hon | habove
  · obtain ⟨rfl, hexponent⟩ : scale = 0 ∧ x.exponentField = 0 := by omega
    have hpoint : x.fractionField = point := by omega
    rw [hexponent, if_pos rfl, hpoint, Nat.zero_add]
  · have hpoint : 2 ^ 52 + x.fractionField = point := by omega
    rw [hon, if_neg (Nat.succ_ne_zero scale), hpoint, Nat.add_sub_cancel]
  · obtain ⟨hexponent, hzero, rfl⟩ :
        x.exponentField = scale + 2 ∧ x.fractionField = 0 ∧ point = 2 ^ 53 := by omega
    rw [hexponent, hzero, if_neg (Nat.succ_ne_zero _)]
    calc (2 ^ 52 + 0) * 2 ^ (scale + 1) = 2 ^ 52 * 2 * 2 ^ scale := by
          rw [Nat.add_zero, Nat.mul_assoc, ← Nat.pow_succ']
      _ = 2 ^ 53 * 2 ^ scale := rfl

/-- A number is a point of the grid, or it lies below the grid. -/
theorem exists_units_eq_or_lt (x : Binary64) (scale : Nat) :
    (∃ point, x.units = point * 2 ^ scale) ∨ scale ≠ 0 ∧ x.units < 2 ^ 52 * 2 ^ scale := by
  by_cases hscale : scale ≤ x.scale
  · refine .inl ⟨x.significand * 2 ^ (x.scale - scale), ?_⟩
    rw [Nat.mul_assoc, ← Nat.pow_add, Nat.sub_add_cancel hscale, units, Nat.shiftLeft_eq]
  · have hexponent : x.exponentField ≤ scale := by
      rw [scale_eq] at hscale
      omega
    refine .inr ⟨by omega, Nat.lt_of_lt_of_le x.units_lt ?_⟩
    exact Nat.mul_le_mul_left _ (Nat.pow_le_pow_right two_pos hexponent)

section

variable (hden : 0 < den)
include hden

theorem abs_gridPoint_sub :
    |(gridPoint num den * 2 ^ gridScale num den : ℚ) - num / den| ≤ 2 ^ gridScale num den / 2 ∧
      (|(gridPoint num den * 2 ^ gridScale num den : ℚ) - num / den| =
        2 ^ gridScale num den / 2 → gridPoint num den % 2 = 0) := by
  have hstep : (0 : ℚ) < 2 ^ gridScale num den := pow_pos two_pos _
  have herror : (gridPoint num den * 2 ^ gridScale num den : ℚ) - num / den =
      ((gridPoint num den : ℚ) - num / (den * 2 ^ gridScale num den : Nat)) *
        2 ^ gridScale num den := by
    push_cast
    field_simp
  obtain ⟨hle, heven⟩ :=
    abs_roundHalfEven_sub num (Nat.mul_pos hden (Nat.two_pow_pos (gridScale num den)))
  have hhalf : (2 : ℚ) ^ gridScale num den / 2 = 1 / 2 * 2 ^ gridScale num den := by ring
  rw [herror, hhalf, abs_mul, abs_of_pos hstep, mul_le_mul_iff_left₀ hstep,
    mul_left_inj' hstep.ne']
  exact ⟨hle, heven⟩

theorem gridPoint_nearest (point : Nat) :
    |(gridPoint num den * 2 ^ gridScale num den : ℚ) - num / den| ≤
        |(point * 2 ^ gridScale num den : ℚ) - num / den| ∧
      (point ≠ gridPoint num den →
        |(gridPoint num den * 2 ^ gridScale num den : ℚ) - num / den| =
          |(point * 2 ^ gridScale num den : ℚ) - num / den| → gridPoint num den % 2 = 0) := by
  obtain ⟨hhalf, heven⟩ := abs_gridPoint_sub num hden
  by_cases hsame : point = gridPoint num den
  · rw [hsame]
    exact ⟨le_rfl, fun hne => absurd rfl hne⟩
  · have hstep : (0 : ℚ) < 2 ^ gridScale num den := pow_pos two_pos _
    have hapart : (2 : ℚ) ^ gridScale num den ≤
        |(point * 2 ^ gridScale num den : ℚ) - gridPoint num den * 2 ^ gridScale num den| := by
      have hone : (1 : ℚ) ≤ |(point : ℚ) - gridPoint num den| := by
        exact_mod_cast Int.one_le_abs (sub_ne_zero.mpr (Nat.cast_injective.ne hsame))
      rw [← sub_mul, abs_mul, abs_of_pos hstep]
      exact le_mul_of_one_le_left hstep.le hone
    have hthrough := abs_sub_le (point * 2 ^ gridScale num den : ℚ) (num / den)
      (gridPoint num den * 2 ^ gridScale num den)
    rw [abs_sub_comm (num / den : ℚ)] at hthrough
    exact ⟨by linarith, fun _ htie => heven (by linarith)⟩

end

end

/-! ## Packing -/

theorem magnitude_pack {negative : Bool} {magnitude : Nat} (h : magnitude < 1 <<< 63) :
    (pack negative magnitude).magnitude = magnitude := by
  rw [Nat.shiftLeft_eq] at h
  cases negative <;>
    simp only [pack, Binary64.magnitude, UInt64.toNat_ofNat', Nat.shiftLeft_eq, if_true,
      Bool.false_eq_true, if_false] <;> omega

theorem isNegative_pack {negative : Bool} {magnitude : Nat} (h : magnitude < 1 <<< 63) :
    (pack negative magnitude).isNegative = negative := by
  rw [Nat.shiftLeft_eq] at h
  cases negative <;>
    simp only [pack, isNegative, UInt64.toNat_ofNat', Nat.shiftLeft_eq, if_true,
      Bool.false_eq_true, if_false, decide_eq_true_iff, decide_eq_false_iff_not] <;> omega

theorem magnitudeOfUnits_lt (num den : Nat) : magnitudeOfUnits num den < 1 <<< 63 :=
  Nat.lt_of_le_of_lt (Nat.min_le_right _ _) (by decide)

@[simp] theorem isNegative_ofUnits (negative : Bool) (num den : Nat) :
    (ofUnits negative num den).isNegative = negative :=
  isNegative_pack (magnitudeOfUnits_lt num den)

section

variable {negative : Bool} {num den : Nat}

theorem magnitude_ofUnits (h : (ofUnits negative num den).isFinite = true) :
    (ofUnits negative num den).magnitude =
      gridScale num den * 2 ^ 52 + gridPoint num den := by
  have hmagnitude : (ofUnits negative num den).magnitude = magnitudeOfUnits num den :=
    magnitude_pack (magnitudeOfUnits_lt num den)
  rw [isFinite, decide_eq_true_iff, hmagnitude] at h
  rw [hmagnitude]
  rw [magnitudeOfUnits_eq] at h ⊢
  omega

theorem units_ofUnits (h : (ofUnits negative num den).isFinite = true) :
    (ofUnits negative num den).units = gridPoint num den * 2 ^ gridScale num den := by
  obtain ⟨hlower, hupper⟩ := gridPoint_bounds num den
  exact units_of_magnitude (magnitude_ofUnits h) hlower hupper

theorem isFinite_ofUnits (h : Nat.log2 (num / den) ≤ 2096) :
    (ofUnits negative num den).isFinite = true := by
  have hmagnitude : (ofUnits negative num den).magnitude = magnitudeOfUnits num den :=
    magnitude_pack (magnitudeOfUnits_lt num den)
  have hscale : gridScale num den ≤ 2044 := by
    unfold gridScale
    omega
  obtain ⟨-, hpoint⟩ := gridPoint_bounds num den
  rw [isFinite, decide_eq_true_iff, hmagnitude, magnitudeOfUnits_eq, infiniteMagnitude,
    Nat.shiftLeft_eq]
  omega

theorem units_ofUnits_nearest (hden : 0 < den)
    (hfinite : (ofUnits negative num den).isFinite = true) (y : Binary64) :
    |((ofUnits negative num den).units : ℚ) - num / den| ≤ |(y.units : ℚ) - num / den| ∧
      (y.units ≠ (ofUnits negative num den).units →
        |((ofUnits negative num den).units : ℚ) - num / den| = |(y.units : ℚ) - num / den| →
          (ofUnits negative num den).fractionField % 2 = 0) := by
  have hmagnitude := magnitude_ofUnits hfinite
  rw [magnitude_eq] at hmagnitude
  rw [units_ofUnits hfinite]
  push_cast
  rcases y.exists_units_eq_or_lt (gridScale num den) with ⟨point, hpoint⟩ | ⟨hscale, hbelow⟩
  · obtain ⟨hle, heven⟩ := gridPoint_nearest num hden point
    rw [hpoint]
    push_cast
    refine ⟨hle, fun hne htie => ?_⟩
    have hpointEven := heven (fun hsame => hne (by rw [hsame])) htie
    omega
  · -- The first point of the grid lies between the number and the fraction.
    obtain ⟨hle, -⟩ := gridPoint_nearest num hden (2 ^ 52)
    have hfirst : ((2 ^ 52 : Nat) * 2 ^ gridScale num den : ℚ) ≤ num / den := by
      refine le_trans ?_ Nat.cast_div_le
      exact_mod_cast two_pow_gridScale_le hscale
    have hless : (y.units : ℚ) < (2 ^ 52 : Nat) * 2 ^ gridScale num den := by
      exact_mod_cast hbelow
    generalize ((2 ^ 52 : Nat) * 2 ^ gridScale num den : ℚ) = first at hle hfirst hless
    rw [abs_of_nonpos (sub_nonpos.mpr hfirst)] at hle
    rw [abs_of_neg (sub_neg.mpr (hless.trans_le hfirst))]
    exact ⟨by linarith, fun _ htie => by linarith⟩

end

/-! ## Values -/

def sign (negative : Bool) : ℚ := if negative then -1 else 1

@[simp] theorem abs_sign (negative : Bool) : |sign negative| = 1 := by
  cases negative <;> simp [sign]

theorem sign_bne (first second : Bool) :
    sign (first != second) = sign first * sign second := by
  cases first <;> cases second <;> simp [sign]

theorem sign_mul_natAbs (n : Int) : sign (decide (n < 0)) * n.natAbs = n := by
  rcases lt_or_ge n 0 with hneg | hnonneg
  · rw [decide_eq_true hneg, sign, if_pos rfl, Nat.cast_natAbs, abs_of_neg hneg]
    push_cast
    ring
  · rw [decide_eq_false (not_lt.mpr hnonneg), sign, if_neg Bool.false_ne_true, one_mul,
      Nat.cast_natAbs, abs_of_nonneg hnonneg]

theorem value?_eq_some_iff_units {x : Binary64} {value : ℚ} :
    x.value? = some value ↔
      x.isFinite = true ∧ sign x.isNegative * (x.units / unitsPerOne) = value := by
  rw [value?, sign_eq, size_eq, isFinite_iff, sign]
  by_cases hlast : x.exponentField = 2047
  · rw [if_pos hlast]
    exact iff_of_false (Option.some_ne_none value).symm fun h => h.1 hlast
  · rw [if_neg hlast, Option.some.injEq]
    exact (and_iff_right hlast).symm

theorem abs_of_value? {x : Binary64} {value : ℚ} (h : x.value? = some value) :
    |value| = x.units / unitsPerOne := by
  rw [← (value?_eq_some_iff_units.mp h).2, abs_mul, abs_sign, one_mul, abs_of_nonneg]
  exact div_nonneg (Nat.cast_nonneg _) unitsPerOne_pos.le

theorem abs_div_unitsPerOne_sub (first second : ℚ) :
    |first / unitsPerOne - second / unitsPerOne| = |first - second| / unitsPerOne := by
  rw [← sub_div, abs_div, abs_of_pos unitsPerOne_pos]

theorem abs_value_sub {x : Binary64} {value : ℚ} (h : x.value? = some value) (count : ℚ) :
    |value - sign x.isNegative * (count / unitsPerOne)| = |x.units - count| / unitsPerOne := by
  rw [← (value?_eq_some_iff_units.mp h).2, ← mul_sub, abs_mul, abs_sign, one_mul,
    abs_div_unitsPerOne_sub]

theorem abs_units_sub_le {y : Binary64} {other count : ℚ} (h : y.value? = some other)
    (negative : Bool) (hcount : 0 ≤ count) :
    |(y.units : ℚ) - count| / unitsPerOne ≤
      |other - sign negative * (count / unitsPerOne)| := by
  have hsizes := abs_abs_sub_abs_le other (sign negative * (count / unitsPerOne))
  rwa [abs_of_value? h, abs_mul, abs_sign, one_mul,
    abs_of_nonneg (div_nonneg hcount unitsPerOne_pos.le), abs_div_unitsPerOne_sub] at hsizes

/-- Two numbers of one size are the same if they are equally near to a number to which one of
them is nearest. -/
theorem eq_of_equally_near {value other number : ℚ} (hsize : |other| = |value|)
    (hzero : |value - number| ≤ |0 - number|) (htie : |value - number| = |other - number|) :
    other = value := by
  rcases abs_eq_abs.mp hsize with hsame | hopposite
  · exact hsame
  · rw [hopposite] at htie
    rcases abs_eq_abs.mp htie with hequal | hequal
    · linarith
    · obtain rfl : number = 0 := by linarith
      rw [sub_zero, sub_zero, abs_zero, abs_nonpos_iff] at hzero
      rw [hopposite, hzero, neg_zero]

section

variable {negative : Bool} {num den : Nat} (hden : 0 < den)
  (hfinite : (ofUnits negative num den).isFinite = true)
include hden hfinite

theorem isNearest_ofUnits :
    (ofUnits negative num den).IsNearest (sign negative * (num / den / unitsPerOne)) := by
  have hvalue := value?_eq_some_iff_units.mpr ⟨hfinite, rfl⟩
  refine ⟨_, hvalue, fun y other hother => ?_⟩
  have herror := abs_value_sub hvalue (num / den)
  rw [isNegative_ofUnits] at herror ⊢
  rw [herror]
  have hnearest := (units_ofUnits_nearest hden hfinite y).1
  exact (div_le_div_of_nonneg_right hnearest unitsPerOne_pos.le).trans
    (abs_units_sub_le hother negative (by positivity))

/-- A fraction of units is rounded to the nearest number, a tie going to the even one. -/
theorem isNearestEven_ofUnits :
    (ofUnits negative num den).IsNearestEven (sign negative * (num / den / unitsPerOne)) := by
  have hnearest := isNearest_ofUnits hden hfinite
  refine ⟨hnearest, ?_⟩
  rintro y ⟨other, hother, hotherNearest⟩ hne
  obtain ⟨value, hvalue, hvalueNearest⟩ := hnearest
  rw [hother, hvalue, ne_eq, Option.some.injEq] at hne
  have htie := le_antisymm (hvalueNearest y other hother) (hotherNearest _ value hvalue)
  obtain ⟨hle, heven⟩ := units_ofUnits_nearest hden hfinite y
  have hunits : y.units ≠ (ofUnits negative num den).units := by
    intro hunits
    refine hne (eq_of_equally_near ?_ (hvalueNearest _ 0 (value?_zero false)) htie)
    rw [abs_of_value? hother, abs_of_value? hvalue, hunits]
  have herror := abs_value_sub hvalue (num / den)
  rw [isNegative_ofUnits, htie] at herror
  have hcount : |(y.units : ℚ) - num / den| / unitsPerOne ≤ _ :=
    abs_units_sub_le hother negative (by positivity)
  rw [herror] at hcount
  exact heven hunits (le_antisymm hle ((div_le_div_iff_of_pos_right unitsPerOne_pos).mp hcount))

end

/-! ## Arithmetic -/

theorem log2_le_of_cast_lt {count bound : Nat} (h : (count : ℚ) < 2 ^ (bound + 1)) :
    Nat.log2 count ≤ bound := by
  rcases Nat.eq_zero_or_pos count with rfl | hpos
  · exact Nat.zero_le _
  · exact Nat.le_of_lt_succ ((Nat.log2_lt hpos.ne').mpr (by exact_mod_cast h))

theorem mul_unitsPerOne_lt {number : ℚ} (h : number < 2 ^ (1023 : ℤ)) :
    number * unitsPerOne < 2 ^ (2096 + 1) :=
  calc number * unitsPerOne < 2 ^ (1023 : ℤ) * unitsPerOne :=
        mul_lt_mul_of_pos_right h unitsPerOne_pos
    _ = 2 ^ (2096 + 1) := by
        rw [unitsPerOne_eq, ← zpow_add₀ two_ne_zero, ← zpow_natCast]
        rfl

theorem isFinite_ofQuotient {negative : Bool} {num den : Nat}
    (h : (num / den : ℚ) < 2 ^ (1023 : ℤ)) : (ofQuotient negative num den).isFinite = true := by
  refine isFinite_ofUnits (log2_le_of_cast_lt (lt_of_le_of_lt ?_ (mul_unitsPerOne_lt h)))
  rw [div_mul_eq_mul_div, ← Nat.cast_mul]
  exact Nat.cast_div_le

theorem isNearestEven_ofQuotient {negative : Bool} {num den : Nat} (hden : 0 < den)
    (hfinite : (ofQuotient negative num den).isFinite = true) :
    (ofQuotient negative num den).IsNearestEven (sign negative * (num / den)) := by
  have hnearest := isNearestEven_ofUnits hden hfinite
  have hunits : ((num * unitsPerOne : Nat) : ℚ) / den / unitsPerOne = num / den := by
    rw [Nat.cast_mul, div_right_comm, mul_div_cancel_right₀ _ unitsPerOne_pos.ne']
  rwa [hunits] at hnearest

theorem not_isNaN_of_isFinite {x : Binary64} (h : x.isFinite = true) : x.isNaN = false := by
  rw [isFinite, decide_eq_true_iff] at h
  exact decide_eq_false (Nat.lt_asymm h)

theorem not_isInfinite_of_isFinite {x : Binary64} (h : x.isFinite = true) :
    x.isInfinite = false := by
  rw [isFinite, decide_eq_true_iff] at h
  exact decide_eq_false (Nat.ne_of_lt h)

theorem mul_of_isFinite {x y : Binary64} (hx : x.isFinite = true) (hy : y.isFinite = true) :
    x.mul y = ofUnits (x.isNegative != y.isNegative) (x.units * y.units) unitsPerOne := by
  simp [mul, not_isNaN_of_isFinite, not_isInfinite_of_isFinite, hx, hy]

theorem isFinite_mul {x y : Binary64} {first second : ℚ} (hx : x.value? = some first)
    (hy : y.value? = some second) (h : |first * second| < 2 ^ (1023 : ℤ)) :
    (x.mul y).isFinite = true := by
  rw [mul_of_isFinite (value?_eq_some_iff_units.mp hx).1 (value?_eq_some_iff_units.mp hy).1]
  refine isFinite_ofUnits (log2_le_of_cast_lt (lt_of_le_of_lt ?_ (mul_unitsPerOne_lt h)))
  have hunits : |first * second| * unitsPerOne = (x.units * y.units : Nat) / unitsPerOne := by
    rw [abs_mul, abs_of_value? hx, abs_of_value? hy, Nat.cast_mul]
    field_simp [unitsPerOne_pos.ne']
  exact hunits ▸ Nat.cast_div_le

theorem isNearestEven_mul {x y : Binary64} {first second : ℚ} (hx : x.value? = some first)
    (hy : y.value? = some second) (hfinite : (x.mul y).isFinite = true) :
    (x.mul y).IsNearestEven (first * second) := by
  obtain ⟨hxfinite, rfl⟩ := value?_eq_some_iff_units.mp hx
  obtain ⟨hyfinite, rfl⟩ := value?_eq_some_iff_units.mp hy
  rw [mul_of_isFinite hxfinite hyfinite] at hfinite ⊢
  have hparts : 0 < unitsPerOne := by exact_mod_cast unitsPerOne_pos
  have hnearest := isNearestEven_ofUnits hparts hfinite
  have hproduct : sign (x.isNegative != y.isNegative) *
      (((x.units * y.units : Nat) : ℚ) / unitsPerOne / unitsPerOne) =
        sign x.isNegative * (x.units / unitsPerOne) *
          (sign y.isNegative * (y.units / unitsPerOne)) := by
    rw [sign_bne]
    push_cast
    ring
  rwa [hproduct] at hnearest

/-! ## Numbers that have a pattern -/

section

variable {negative : Bool} {size shift : Nat}

theorem log2_mul_two_pow_le (hsize : size < 2 ^ 53) :
    Nat.log2 (size * 2 ^ shift) ≤ 52 + shift := by
  rcases Nat.eq_zero_or_pos (size * 2 ^ shift) with hzero | hpos
  · rw [hzero]
    exact Nat.zero_le _
  · have hlt : size * 2 ^ shift < 2 ^ (53 + shift) := by
      rw [Nat.pow_add]
      exact Nat.mul_lt_mul_of_pos_right hsize (Nat.two_pow_pos shift)
    have hlog := (Nat.log2_lt hpos.ne').mpr hlt
    omega

theorem isFinite_ofUnits_of_dvd (hsize : size < 2 ^ 53) (hshift : shift ≤ 1074) :
    (ofUnits negative (size * 2 ^ shift) 1).isFinite = true := by
  apply isFinite_ofUnits
  rw [Nat.div_one]
  exact (log2_mul_two_pow_le hsize).trans (by omega)

theorem units_ofUnits_of_dvd (hsize : size < 2 ^ 53)
    (hfinite : (ofUnits negative (size * 2 ^ shift) 1).isFinite = true) :
    (ofUnits negative (size * 2 ^ shift) 1).units = size * 2 ^ shift := by
  have hscale : gridScale (size * 2 ^ shift) 1 ≤ shift := by
    have hlog : Nat.log2 (size * 2 ^ shift) ≤ 52 + shift := log2_mul_two_pow_le hsize
    rw [gridScale, Nat.div_one]
    omega
  have hcount : size * 2 ^ shift =
      size * 2 ^ (shift - gridScale (size * 2 ^ shift) 1) *
        2 ^ gridScale (size * 2 ^ shift) 1 := by
    rw [Nat.mul_assoc, ← Nat.pow_add, Nat.sub_add_cancel hscale]
  have hpoint := (congrArg (roundHalfEven · (2 ^ gridScale (size * 2 ^ shift) 1)) hcount).trans
    (roundHalfEven_mul (Nat.two_pow_pos _) _)
  rw [units_ofUnits hfinite, gridPoint, Nat.one_mul, hpoint]
  exact hcount.symm

end

/-- Whole numbers of 53 bits, and their quotients by powers of two, are numbers of patterns. -/
theorem exists_value {n : Int} (hn : n.natAbs < 2 ^ 53) {shift : Nat} (hshift : shift ≤ 1074) :
    ∃ x : Binary64, x.value? = some ((n : ℚ) / 2 ^ shift) := by
  obtain ⟨scale, hscale⟩ := Nat.exists_eq_add_of_le' hshift
  have hfinite : (ofUnits (decide (n < 0)) (n.natAbs * 2 ^ scale) 1).isFinite = true :=
    isFinite_ofUnits_of_dvd hn (by omega)
  refine ⟨_, value?_eq_some_iff_units.mpr ⟨hfinite, ?_⟩⟩
  have hunits : (unitsPerOne : ℚ) = 2 ^ scale * 2 ^ shift := by
    rw [← pow_add, ← hscale, unitsPerOne_eq]
    exact zpow_natCast 2 1074
  rw [isNegative_ofUnits, units_ofUnits_of_dvd hn hfinite, hunits]
  push_cast
  rw [mul_comm (n.natAbs : ℚ), mul_div_mul_left _ _ (pow_ne_zero _ two_ne_zero), ← mul_div_assoc,
    sign_mul_natAbs]

theorem abs_sub_le_of_isNearest {x : Binary64} {value number : ℚ} {shift : Nat}
    (hnearest : x.IsNearest number) (hvalue : x.value? = some value) (hshift : shift ≤ 1074)
    (hnumber : |number * 2 ^ shift| ≤ 2 ^ 53 - 1) : |value - number| ≤ 1 / 2 / 2 ^ shift := by
  obtain ⟨own, hown, hleast⟩ := hnearest
  obtain rfl : own = value := Option.some.inj (hown.symm.trans hvalue)
  have hstep : (0 : ℚ) < 2 ^ shift := pow_pos two_pos shift
  have hround := abs_sub_round (number * 2 ^ shift)
  rw [abs_sub_comm] at hround
  have hpoint : (round (number * 2 ^ shift)).natAbs < 2 ^ 53 := by
    have hsize := abs_sub_abs_le_abs_sub (round (number * 2 ^ shift) : ℚ) (number * 2 ^ shift)
    have hcast : ((round (number * 2 ^ shift)).natAbs : ℚ) < (2 ^ 53 : Nat) := by
      rw [Nat.cast_natAbs, Int.cast_abs]
      push_cast
      linarith
    exact Nat.cast_lt.mp hcast
  obtain ⟨y, hy⟩ := exists_value hpoint hshift
  refine (hleast y _ hy).trans ?_
  rw [le_div_iff₀ hstep, ← abs_of_pos hstep, ← abs_mul, abs_of_pos hstep, sub_mul,
    div_mul_cancel₀ _ hstep.ne']
  exact hround

end Binary64

end FareGateway
