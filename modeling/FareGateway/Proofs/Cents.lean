import FareGateway.Price
import FareGateway.Proofs.NearestValues
import FareGateway.Proofs.SearchCourse

/-!
# Cents

An amount with two decimals is rounded when it becomes a binary64, and the hundredfold of it
is rounded again.  In the range of these amounts the numbers stand so close that both errors
together are less than a fifth of a cent, and so the last rounding leads back to the cents.
-/

namespace FareGateway

/-- The nearest whole number, a half going away from zero. -/
def RoundsHalfAway (number : ℚ) (n : ℤ) : Prop :=
  |n - number| < 1 / 2 ∨ |n - number| = 1 / 2 ∧ |number| < |(n : ℚ)|

theorem RoundsHalfAway.abs_sub_le {number : ℚ} {n : ℤ} (h : RoundsHalfAway number n) :
    |n - number| ≤ 1 / 2 := by
  rcases h with hnear | ⟨hhalf, -⟩
  · exact hnear.le
  · exact hhalf.le

theorem RoundsHalfAway.le {number : ℚ} {n m : ℤ} (hn : RoundsHalfAway number n)
    (hm : RoundsHalfAway number m) : m ≤ n := by
  by_contra! hlt
  have hgap : (n : ℚ) + 1 ≤ m := by exact_mod_cast hlt
  obtain ⟨hlower, -⟩ := abs_le.mp hn.abs_sub_le
  obtain ⟨-, hupper⟩ := abs_le.mp hm.abs_sub_le
  have hnumber : number = n + 1 / 2 := by linarith
  have hnext : (m : ℚ) = n + 1 := by linarith
  have hbelow : |(n : ℚ) - number| = 1 / 2 := by
    rw [hnumber, sub_add_cancel_left, abs_neg, abs_of_pos one_half_pos]
  have habove : |(m : ℚ) - number| = 1 / 2 := by
    rw [hnumber, hnext, add_sub_add_left_eq_sub, abs_of_pos (by norm_num)]
    norm_num
  have hlarger := (hn.resolve_left hbelow.not_lt).2
  have hnextLarger := (hm.resolve_left habove.not_lt).2
  rw [hnumber] at hlarger hnextLarger
  rw [hnext] at hnextLarger
  rcases lt_or_ge n 0 with hneg | hnonneg
  · have hsize : (n : ℚ) + 1 ≤ 0 := by exact_mod_cast hneg
    rw [abs_of_nonpos hsize, abs_of_nonpos (by linarith)] at hnextLarger
    linarith
  · have hsize : (0 : ℚ) ≤ n := by exact_mod_cast hnonneg
    rw [abs_of_nonneg hsize, abs_of_nonneg (by linarith)] at hlarger
    linarith

theorem RoundsHalfAway.unique {number : ℚ} {n m : ℤ} (hn : RoundsHalfAway number n)
    (hm : RoundsHalfAway number m) : n = m :=
  Int.le_antisymm (hm.le hn) (hn.le hm)

namespace Binary64

theorem halfUp_bounds (count : Nat) {parts : Nat} (hparts : 0 < parts) :
    ((2 * count + parts) / (2 * parts) : Nat) - (count / parts : ℚ) ≤ 1 / 2 ∧
      -(1 / 2) < ((2 * count + parts) / (2 * parts) : Nat) - (count / parts : ℚ) := by
  have hparts' : (0 : ℚ) < parts := Nat.cast_pos.mpr hparts
  have htwice : 0 < 2 * parts := Nat.mul_pos two_pos hparts
  have hlower : (((2 * count + parts) / (2 * parts) : Nat) : ℚ) ≤
      (2 * count + parts : Nat) / (2 * parts : Nat) := Nat.cast_div_le
  have hupper : ((2 * count + parts : Nat) : ℚ) / (2 * parts : Nat) <
      ((2 * count + parts) / (2 * parts) : Nat) + 1 := by
    rw [div_lt_iff₀ (Nat.cast_pos.mpr htwice)]
    exact_mod_cast Nat.lt_mul_of_div_lt (Nat.lt_succ_self _) htwice
  have hsum : ((2 * count + parts : Nat) : ℚ) / (2 * parts : Nat) = count / parts + 1 / 2 := by
    push_cast
    field_simp
  rw [hsum] at hlower hupper
  exact ⟨by linarith, by linarith⟩

theorem cast_roundHalfAway (x : Binary64) :
    (x.roundHalfAway : ℚ) =
      sign x.isNegative * ((2 * x.units + unitsPerOne) / (2 * unitsPerOne) : Nat) := by
  rw [roundHalfAway, sign]
  split
  · rw [Int.cast_neg, Int.cast_natCast, neg_one_mul]
  · rw [Int.cast_natCast, one_mul]

theorem roundsHalfAway_of_value? {x : Binary64} {value : ℚ} (h : x.value? = some value) :
    RoundsHalfAway value x.roundHalfAway := by
  obtain ⟨-, rfl⟩ := value?_eq_some_iff_units.mp h
  have hparts : 0 < unitsPerOne := by exact_mod_cast unitsPerOne_pos
  obtain ⟨hupper, hlower⟩ := halfUp_bounds x.units hparts
  have hsize : (0 : ℚ) ≤ x.units / unitsPerOne :=
    div_nonneg (Nat.cast_nonneg _) unitsPerOne_pos.le
  rw [RoundsHalfAway, cast_roundHalfAway, ← mul_sub, abs_mul, abs_mul, abs_mul, abs_sign, one_mul,
    one_mul, one_mul, Nat.abs_cast, abs_of_nonneg hsize]
  rcases hupper.lt_or_eq with hless | hhalf
  · exact .inl (abs_lt.mpr ⟨hlower, hless⟩)
  · refine .inr ⟨?_, ?_⟩
    · rw [hhalf, abs_of_pos one_half_pos]
    · linarith

end Binary64

theorem Int64.toInt_saturate {n : Int} (hlower : -2 ^ 63 ≤ n) (hupper : n < 2 ^ 63) :
    (Int64.saturate n).toInt = n := by
  have hleast : Int64.minValue.toInt = -2 ^ 63 := by decide
  have hlargest : Int64.maxValue.toInt = 2 ^ 63 - 1 := by decide
  rw [Int64.saturate, hleast, hlargest, if_neg (by omega), if_neg (by omega)]
  exact Int64.toInt_ofInt_of_le hlower hupper

namespace Price

open Binary64 (ofNat ofQuotient)

section

variable {k : ℤ} {amount : Binary64}

theorem lt_two_pow {number : ℚ} (h : number < 2 ^ 50) : number < 2 ^ (1023 : ℤ) :=
  calc number < 2 ^ 50 := h
    _ = 2 ^ (50 : ℤ) := (zpow_natCast 2 50).symm
    _ < 2 ^ (1023 : ℤ) := zpow_lt_zpow_right₀ one_lt_two (by decide)

theorem value?_hundred : (ofNat 100).value? = some 100 := by
  have hvalue : (ofNat 100).value? = some ((100 : ℤ) : ℚ) :=
    Binary64.value?_eq_intCast_iff.mpr ⟨by decide +kernel, by decide +kernel⟩
  simpa using hvalue

variable (hk : |k| ≤ 10 ^ 15)
include hk

theorem abs_cast_le : |(k : ℚ)| ≤ 10 ^ 15 := by
  exact_mod_cast hk

theorem isNearestEven_amount :
    (ofQuotient (decide (k < 0)) k.natAbs 100).IsNearestEven (k / 100) := by
  have hsize : ((k.natAbs : ℚ) / (100 : Nat)) < 2 ^ 50 := by
    have hcents := abs_cast_le hk
    rw [Nat.cast_natAbs, Int.cast_abs]
    push_cast
    linarith
  have hfinite : (ofQuotient (decide (k < 0)) k.natAbs 100).isFinite = true :=
    Binary64.isFinite_ofQuotient (lt_two_pow hsize)
  have hnearest := Binary64.isNearestEven_ofQuotient (by decide) hfinite
  rwa [← mul_div_assoc, Binary64.sign_mul_natAbs, Nat.cast_ofNat] at hnearest

theorem abs_amount_sub_le (hamount : amount.IsNearest (k / 100)) {value : ℚ}
    (hvalue : amount.value? = some value) : |value - k / 100| ≤ 1 / 1024 := by
  have hnumber : |(k / 100 : ℚ) * 2 ^ 9| ≤ 2 ^ 53 - 1 := by
    have hcents := abs_cast_le hk
    rw [div_mul_eq_mul_div, abs_div, abs_mul, abs_of_pos (by norm_num : (0 : ℚ) < 2 ^ 9),
      abs_of_pos (by norm_num : (0 : ℚ) < 100)]
    linarith
  calc |value - k / 100| ≤ 1 / 2 / 2 ^ 9 :=
        Binary64.abs_sub_le_of_isNearest hamount hvalue (by decide) hnumber
    _ = 1 / 1024 := by norm_num

theorem exists_product (hamount : amount.IsNearest (k / 100)) :
    ∃ exact rounded, amount.value? = some exact ∧
      (amount.mul (ofNat 100)).value? = some rounded ∧
      (amount.mul (ofNat 100)).IsNearestEven (exact * 100) ∧ |rounded - k| < 1 / 2 := by
  have ⟨exact, hexact, _⟩ := hamount
  have hcents := abs_cast_le hk
  have herror := abs_amount_sub_le hk hamount hexact
  have hhundredfold : |exact * 100 - k| ≤ 100 / 1024 := by
    have hparts : exact * 100 - k = (exact - k / 100) * 100 := by ring
    rw [hparts, abs_mul, abs_of_pos (by norm_num : (0 : ℚ) < 100)]
    linarith
  have hfinite : (amount.mul (ofNat 100)).isFinite = true := by
    refine Binary64.isFinite_mul hexact value?_hundred (lt_two_pow ?_)
    have hsize := abs_sub_abs_le_abs_sub (exact * 100) k
    linarith
  have hproduct := Binary64.isNearestEven_mul hexact value?_hundred hfinite
  obtain ⟨rounded, hrounded, hleast⟩ := hproduct.1
  refine ⟨exact, rounded, hexact, hrounded, hproduct, ?_⟩
  -- The cents are a number of a pattern themselves, and the product is no further away.
  have hbits : k.natAbs < 2 ^ 53 := by
    rw [Int.abs_eq_natAbs] at hk
    omega
  obtain ⟨whole, hwhole⟩ := Binary64.exists_value hbits (Nat.zero_le 1074)
  rw [pow_zero, div_one] at hwhole
  have hnearer := hleast whole k hwhole
  rw [abs_sub_comm (k : ℚ)] at hnearer
  have hthrough := abs_sub_le rounded (exact * 100) k
  linarith

theorem cents_eq (hamount : amount.IsNearest (k / 100)) (currency : String) :
    (Price.mk amount currency).cents.toInt = k := by
  obtain ⟨exact, rounded, -, hrounded, -, hnear⟩ := exists_product hk hamount
  have hfinite := (Binary64.value?_eq_some_iff_units.mp hrounded).1
  have hrounds : (amount.mul (ofNat 100)).roundHalfAway = k := by
    refine (Binary64.roundsHalfAway_of_value? hrounded).unique (.inl ?_)
    rwa [abs_sub_comm]
  obtain ⟨hlower, hupper⟩ := abs_le.mp hk
  simp only [cents, Binary64.not_isNaN_of_isFinite hfinite,
    Binary64.not_isInfinite_of_isFinite hfinite, hrounds, Bool.false_eq_true, if_false]
  exact Int64.toInt_saturate (by omega) (by omega)

end

/--
An amount with two decimals comes back to its exact cents.  Whatever number nearest to it
stands for the amount, the exact hundredfold of that number is rounded to the nearest one, a
tie going to the even one, and that is rounded to the nearest whole number, a half going away
from zero: to the cents the amount was made of.  So two such amounts in one category and
currency never have one code, whichever book they are added to and whatever it has been given
before and in between, as long as the searches for their slots come to an end; they do in any
book with room left.
-/
theorem two_decimal_amounts_keep_their_cents {k : ℤ} (hk : |k| ≤ 10 ^ 15) {amount : Binary64}
    (hamount : amount.IsNearest (k / 100)) (currency : String) :
    (∃ exact rounded, amount.value? = some exact ∧
      (amount.mul (ofNat 100)).value? = some rounded ∧
      (amount.mul (ofNat 100)).IsNearestEven (exact * 100) ∧
      RoundsHalfAway rounded k) ∧
    (Price.mk amount currency).cents.toInt = k ∧
    (ofQuotient (decide (k < 0)) k.natAbs 100).IsNearestEven (k / 100) ∧
    ∀ (other : Binary64) (j : ℤ), |j| ≤ 10 ^ 15 → other.IsNearest (j / 100) → j ≠ k →
      ∀ (book : CodeBook) (category : String) (between : List (String × Price)),
        let (code, next) := book.add category ⟨amount, currency⟩
        let later := (next.addAll between).2
        (book.Finds (.ofPrice category ⟨amount, currency⟩) →
          later.Finds (.ofPrice category ⟨other, currency⟩) →
            (later.add category ⟨other, currency⟩).1 ≠ code) ∧
        ∀ point, later.size + 1 < 2 ^ 32 → book.Finds point ∧ later.Finds point := by
  refine ⟨?_, cents_eq hk hamount currency, isNearestEven_amount hk, ?_⟩
  · obtain ⟨exact, rounded, hexact, hrounded, hproduct, hnear⟩ := exists_product hk hamount
    rw [abs_sub_comm] at hnear
    exact ⟨exact, rounded, hexact, hrounded, hproduct, .inl hnear⟩
  · intro other j hj hother hne book category between
    refine ⟨fun hfinds hlaterFinds => ?_, fun point hroom => ?_⟩
    · have hpoints : CodeBook.pointOf (category, ⟨amount, currency⟩) ≠
          CodeBook.pointOf (category, ⟨other, currency⟩) := by
        intro hsame
        have hcents := congrArg (fun point => point.cents.toInt) hsame
        exact hne ((cents_eq hj hother currency).symm.trans
          (hcents.symm.trans (cents_eq hk hamount currency)))
      exact (hfinds.codes_ne hpoints hlaterFinds).symm
    · have hgrown : book.size ≤ ((book.add category ⟨amount, currency⟩).2.addAll between).2.size :=
        CodeBook.size_le_addAll book ((category, ⟨amount, currency⟩) :: between)
      exact ⟨CodeBook.finds_of_room point (Nat.lt_of_le_of_lt (Nat.succ_le_succ hgrown) hroom),
        CodeBook.finds_of_room point hroom⟩

/-- The hundredfold of the number nearest to 0.29 is not 29. -/
theorem product_below_its_cents :
    let amount : Binary64 := ⟨0x3FD28F5C28F5C28F⟩
    let other : Binary64 := ⟨0x3FD3333333333333⟩
    let first := CodeBook.empty.add "SEAT" ⟨amount, "EUR"⟩
    let later := (first.2.addAll [("BAG", ⟨ofNat 10, "EUR"⟩)]).2
    |(29 : ℤ)| ≤ 10 ^ 15 ∧ amount.IsNearest ((29 : ℤ) / 100) ∧
      other.IsNearest ((30 : ℤ) / 100) ∧ later.size + 1 < 2 ^ 32 ∧
      amount.mul (ofNat 100) = ⟨0x403CFFFFFFFFFFFF⟩ ∧
      (Price.mk amount "EUR").cents.toInt = 29 ∧
      (later.add "SEAT" ⟨other, "EUR"⟩).1 ≠ first.1 := by
  intro amount other first later
  have hk : |(29 : ℤ)| ≤ 10 ^ 15 := by decide
  have hj : |(30 : ℤ)| ≤ 10 ^ 15 := by decide
  have hamount : amount.IsNearest ((29 : ℤ) / 100) := by
    have hnearest := (isNearestEven_amount hk).1
    have hpattern : ofQuotient (decide ((29 : ℤ) < 0)) (29 : ℤ).natAbs 100 = amount := by
      decide +kernel
    rwa [hpattern] at hnearest
  have hother : other.IsNearest ((30 : ℤ) / 100) := by
    have hnearest := (isNearestEven_amount hj).1
    have hpattern : ofQuotient (decide ((30 : ℤ) < 0)) (30 : ℤ).natAbs 100 = other := by
      decide +kernel
    rwa [hpattern] at hnearest
  have hroom : later.size + 1 < 2 ^ 32 := by decide +kernel
  obtain ⟨-, hcents, -, hcodes⟩ := two_decimal_amounts_keep_their_cents hk hamount "EUR"
  obtain ⟨happart, hfinds⟩ := hcodes other 30 hj hother (by decide) CodeBook.empty "SEAT"
    [("BAG", ⟨ofNat 10, "EUR"⟩)]
  have hproduct : amount.mul (ofNat 100) = ⟨0x403CFFFFFFFFFFFF⟩ := by decide +kernel
  refine ⟨hk, hamount, hother, hroom, hproduct, hcents, happart ?_ ?_⟩
  · exact (hfinds _ hroom).1
  · exact (hfinds _ hroom).2

end Price

end FareGateway
