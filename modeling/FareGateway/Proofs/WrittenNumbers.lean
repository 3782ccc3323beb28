import FareGateway.Proofs.Printing

/-!
# Numbers as they are written

No number is written with a zero before its other digits.  For a binary64 this needs that
its shortest digits are not all zero: zero lies outside the interval of the reals that
round to a number other than zero.
-/

namespace FareGateway

/-- Zero is not said with zeros after it. -/
def Decimal.IsPlain (decimal : Decimal) : Prop := decimal.digits = 0 → decimal.exponent ≤ 0

namespace Json

/-! ## Natural numbers -/

theorem digitsOf_ne_nil (n : Nat) : digitsOf n ≠ [] := by
  rw [digitsOf]
  split
  · exact List.cons_ne_nil _ _
  · exact List.append_ne_nil_of_right_ne_nil _ (List.cons_ne_nil _ _)

theorem natOfDigits_digitsOf (n : Nat) : natOfDigits (digitsOf n) = n := by
  induction n using Nat.strongRecOn with
  | ind n ih =>
      rw [digitsOf]
      split
      · next hlast =>
          simp [natOfDigits, Fin.ofNat, Nat.mod_eq_of_lt hlast]
      · next hmore =>
          have hfront := ih (n / 10) (by omega)
          unfold natOfDigits at hfront ⊢
          rw [List.foldl_append, hfront]
          simp only [List.foldl_cons, List.foldl_nil, Fin.ofNat]
          omega

theorem head?_digitsOf {n : Nat} (h : n ≠ 0) : (digitsOf n).head? ≠ some Digit.zero := by
  induction n using Nat.strongRecOn with
  | ind n ih =>
      rw [digitsOf]
      split
      · next hlast =>
          intro hzero
          have hdigit : Fin.ofNat 10 n = Digit.zero := Option.some.inj hzero
          have hvalue : n % 10 = 0 := congrArg Fin.val hdigit
          omega
      · next hmore =>
          have hfront := ih (n / 10) (by omega) (by omega)
          obtain ⟨first, digits, hdigits⟩ :=
            List.exists_cons_of_ne_nil (digitsOf_ne_nil (n / 10))
          rw [hdigits] at hfront ⊢
          exact hfront

theorem eq_zero_of_head?_digitsOf {n : Nat} (h : (digitsOf n).head? = some Digit.zero) :
    n = 0 :=
  Decidable.byContradiction fun hpositive => head?_digitsOf hpositive h

theorem length_digitsOf_zero : (digitsOf 0).length = 1 := by
  rw [digitsOf]
  rfl

theorem isProper_ofNat (n : Nat) : (Number.ofNat n).IsProper where
  whole_ne_nil := digitsOf_ne_nil n
  length_of_zero hzero := by
    rw [Number.ofNat, eq_zero_of_head?_digitsOf hzero, length_digitsOf_zero]
  not_negative _ := rfl

/-! ## Decimals -/

theorem isProper_ofDecimal (negative : Bool) {decimal : Decimal} (h : decimal.IsPlain) :
    (Number.ofDecimal negative decimal).IsProper := by
  obtain ⟨first, rest, hdigits⟩ := List.exists_cons_of_ne_nil (digitsOf_ne_nil decimal.digits)
  have hvanish (hzero : first = Digit.zero) : decimal.digits = 0 ∧ rest = [] := by
    have hnumber : decimal.digits = 0 :=
      eq_zero_of_head?_digitsOf (by rw [hdigits, hzero, List.head?_cons])
    have hlength := length_digitsOf_zero
    rw [hnumber] at hdigits
    rw [hdigits, List.length_cons] at hlength
    exact ⟨hnumber, List.eq_nil_of_length_eq_zero (Nat.succ.inj hlength)⟩
  unfold Number.ofDecimal
  rw [hdigits]
  dsimp only
  split
  · refine ⟨List.cons_ne_nil _ _, fun hzero => ?_, fun _ => rfl⟩
    obtain ⟨hnumber, hrest⟩ := hvanish (Option.some.inj hzero)
    have hexponent : decimal.exponent.toNat = 0 := Int.toNat_of_nonpos (h hnumber)
    dsimp only
    rw [hrest, hexponent]
    rfl
  split
  · next hpoint =>
      obtain ⟨before, hbefore⟩ := Nat.exists_eq_add_of_lt (Int.lt_toNat.mpr hpoint.1)
      rw [hbefore, Nat.zero_add]
      refine ⟨List.cons_ne_nil _ _, fun hzero => ?_, fun _ => rfl⟩
      obtain ⟨-, hrest⟩ := hvanish (Option.some.inj hzero)
      rw [hrest, List.take_succ_cons, List.take_nil]
      rfl
  split
  · exact ⟨List.cons_ne_nil _ _, fun _ => rfl, fun _ => rfl⟩
  · exact ⟨List.cons_ne_nil _ _, fun _ => rfl, fun hnone => absurd hnone (digitsOf_ne_nil _)⟩

end Json

namespace Binary64

theorem significand_pos {x : Binary64} (h : x.isZero = false) : 0 < x.significand := by
  have hmagnitude : x.magnitude ≠ 0 := by simpa [isZero] using h
  unfold significand scale
  simp only [Nat.shiftRight_eq_div_pow, Nat.shiftLeft_eq]
  omega

theorem lowerEnd_pos {x : Binary64} (h : x.isZero = false) : 0 < x.lowerEnd := by
  have hpos := significand_pos h
  unfold lowerEnd units
  simp only [Nat.shiftLeft_eq, Nat.one_mul, Nat.pow_succ]
  have hscale : 0 < 2 ^ x.scale := Nat.pow_pos (by decide)
  have hle : 2 ^ x.scale ≤ x.significand * 2 ^ x.scale := Nat.le_mul_of_pos_left _ hpos
  split <;> omega

theorem covers_zero {x : Binary64} (h : x.isZero = false) {num den : Nat} (hden : 0 < den) :
    x.covers 0 num den = false := by
  have hpos : 0 < x.lowerEnd * den := Nat.mul_pos (lowerEnd_pos h) hden
  unfold covers
  simp only [Nat.zero_mul]
  split
  · simp only [decide_eq_false_iff_not]
    omega
  · simp only [decide_eq_false_iff_not]
    omega

theorem digits_decimalOfCount? {x : Binary64} (h : x.isZero = false) {count : Nat}
    {decimal : Decimal} (hfound : x.decimalOfCount? count = some decimal) :
    decimal.digits ≠ 0 := by
  unfold decimalOfCount? at hfound
  dsimp only at hfound
  generalize hden : Nat.pow 10 (-(x.decimalPoint - count)).toNat = den at hfound
  have hpositive : 0 < den := by
    rw [← hden]
    exact Nat.pow_pos (by decide)
  generalize quartersPerOne * Nat.pow 10 (x.decimalPoint - count).toNat = num at hfound
  generalize 4 * x.units * den / num = below at hfound
  have hbelow (hcovers : x.covers below num den = true) : below ≠ 0 := by
    rintro rfl
    rw [covers_zero h hpositive] at hcovers
    exact Bool.false_ne_true hcovers
  split at hfound
  · cases hfound
  · next hcovers _ =>
      cases hfound
      exact hbelow hcovers
  · cases hfound
    exact Nat.succ_ne_zero below
  · next hcovers _ =>
      cases hfound
      dsimp only
      split
      · exact hbelow hcovers
      · exact Nat.succ_ne_zero below

theorem isPlain_trim {fuel : Nat} {decimal : Decimal} (h : decimal.IsPlain) :
    (Decimal.trim fuel decimal).IsPlain := by
  induction fuel generalizing decimal with
  | zero => exact h
  | succ fuel ih =>
      unfold Decimal.trim
      split
      · next htens =>
          have hdigits : decimal.digits / 10 ≠ 0 := by omega
          exact ih fun hzero => absurd hzero hdigits
      · exact h

theorem isPlain_shortest (x : Binary64) : x.shortest.IsPlain := by
  unfold shortest
  split
  · exact fun _ => Int.le_refl 0
  · next hzero =>
      dsimp only
      apply isPlain_trim
      cases hfound : (List.range 17).findSome? fun n => x.decimalOfCount? (n + 1) with
      | none => exact fun _ => Int.le_refl 0
      | some decimal =>
          obtain ⟨n, -, hcount⟩ := List.exists_of_findSome?_eq_some hfound
          have hdigits := digits_decimalOfCount? (Bool.eq_false_iff.mpr hzero) hcount
          exact fun hvanish => absurd hvanish hdigits

end Binary64

namespace Json

theorem isProper_ofBinary64 (x : Binary64) : (Value.ofBinary64 x).IsProper := by
  unfold Value.ofBinary64
  split
  · exact isProper_ofDecimal x.isNegative x.isPlain_shortest
  · trivial

end Json

end FareGateway
