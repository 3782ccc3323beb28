import FareGateway.Proofs.CivilDays
import Mathlib.Algebra.Group.Nat.Defs

/-!
# Dates are read as they are written

Each number of a date is read to its last digit, because what follows it is no digit: the
hyphen, or what comes after the date.  A date that is in range is read back; any date that
is read is in range.
-/

namespace FareGateway

theorem isDigit_of_mem_padded {width n : Nat} {c : Char} (h : c ∈ padded width n) :
    c.isDigit = true := by
  rcases List.mem_append.mp h with hzero | hdigit
  · rw [List.eq_of_mem_replicate hzero]
    rfl
  · exact Nat.isDigit_of_mem_toDigits (by decide) (by decide) hdigit

theorem padded_ne_nil (width n : Nat) : padded width n ≠ [] :=
  List.append_ne_nil_of_right_ne_nil _ Nat.toDigits_ne_nil

theorem length_padded {width n : Nat} (hwidth : 0 < width) (h : n < 10 ^ width) :
    (padded width n).length = width := by
  have hdigits := (Nat.length_toDigits_le_iff (by decide) hwidth).mpr h
  unfold padded
  rw [List.length_append, List.length_replicate]
  omega

theorem foldl_padded (width n : Nat) :
    (padded width n).foldl (fun acc c => acc * 10 + (c.toNat - 48)) 0 = n := by
  have hdigits : Nat.ofDigitChars 10 (padded width n) 0 = n := by
    unfold padded
    rw [Nat.ofDigitChars_append, Nat.ofDigitChars_replicate_zero, Nat.mul_zero,
      Nat.ofDigitChars_toDigits (by decide) (by decide)]
  simp only [Nat.ofDigitChars_eq_foldl, Nat.mul_comm 10] at hdigits
  exact hdigits

/-- What does not go on with a digit. -/
def EndsDigits (rest : List Char) : Prop := ∀ c ∈ rest.head?, c.isDigit = false

theorem endsDigits_cons {c : Char} (h : c.isDigit = false) (rest : List Char) :
    EndsDigits (c :: rest) := by
  rintro _ ⟨rfl⟩
  exact h

theorem takeWhile_isDigit_append {digits rest : List Char}
    (hdigits : ∀ c ∈ digits, c.isDigit = true) (hrest : EndsDigits rest) :
    (digits ++ rest).takeWhile Char.isDigit = digits := by
  rw [List.takeWhile_append_of_pos hdigits]
  cases rest with
  | nil => simp
  | cons c rest => simp [hrest c rfl]

theorem readNatural?_padded {width limit n : Nat} {rest : List Char}
    (hlimit : (padded width n).length ≤ limit) (hrest : EndsDigits rest) :
    readNatural? limit (padded width n ++ rest) = some (n, rest) := by
  have htake : ((padded width n ++ rest).takeWhile Char.isDigit).take limit =
      padded width n := by
    rw [takeWhile_isDigit_append (fun _ => isDigit_of_mem_padded) hrest,
      List.take_of_length_le hlimit]
  unfold readNatural?
  rw [htake]
  split
  · next hnil => exact absurd hnil (padded_ne_nil width n)
  · rw [foldl_padded, List.drop_left]

theorem toNat_of_isDigit {c : Char} (h : c.isDigit = true) :
    48 ≤ c.toNat ∧ c.toNat ≤ 57 := by
  unfold Char.isDigit at h
  simp only [Bool.and_eq_true, decide_eq_true_eq, ge_iff_le, UInt32.le_iff_toNat_le] at h
  exact h

theorem isBlank_of_isDigit {c : Char} (h : c.isDigit = true) : isBlank c = false := by
  have hbounds := toNat_of_isDigit h
  unfold isBlank
  simp only [Bool.or_eq_false_iff, Bool.and_eq_false_iff, decide_eq_false_iff_not,
    beq_eq_false_iff_ne]
  omega

/-- What does not begin with a blank. -/
def BeginsShown (text : List Char) : Prop := ∀ c ∈ text.head?, isBlank c = false

theorem beginsShown_cons {c : Char} (h : isBlank c = false) (rest : List Char) :
    BeginsShown (c :: rest) := by
  rintro _ ⟨rfl⟩
  exact h

theorem skipBlanks_of_beginsShown {text : List Char} (h : BeginsShown text) :
    skipBlanks text = text := by
  cases text with
  | nil => rfl
  | cons c text =>
      unfold skipBlanks
      rw [List.dropWhile_cons_of_neg]
      rw [h c rfl]
      exact Bool.false_ne_true

theorem beginsShown_padded (width n : Nat) (rest : List Char) :
    BeginsShown (padded width n ++ rest) := by
  obtain ⟨c, digits, hdigits⟩ := List.exists_cons_of_ne_nil (padded_ne_nil width n)
  have hc : c ∈ padded width n := hdigits ▸ List.mem_cons_self
  rw [hdigits]
  exact beginsShown_cons (isBlank_of_isDigit (isDigit_of_mem_padded hc)) _

/-! ## Years -/

theorem readYear?_printYear (year : Int) {rest : List Char} (hrest : EndsDigits rest) :
    readYear? (printYear year ++ rest) = some (year, rest) := by
  unfold printYear
  by_cases hplain : 0 ≤ year ∧ year ≤ 9999
  · have hlength : (padded 4 year.toNat).length ≤ 4 :=
      Nat.le_of_eq (length_padded (by decide) (by omega))
    have hread := readNatural?_padded hlength hrest
    have hyear : (year.toNat : Int) = year := Int.toNat_of_nonneg hplain.1
    rw [if_pos hplain]
    obtain ⟨c, digits, hdigits⟩ := List.exists_cons_of_ne_nil (padded_ne_nil 4 year.toNat)
    have hc : c.isDigit = true := isDigit_of_mem_padded (hdigits ▸ List.mem_cons_self)
    rw [hdigits] at hread ⊢
    unfold readYear?
    split
    · next heq =>
        cases heq
        exact absurd hc (by decide)
    · next heq =>
        cases heq
        exact absurd hc (by decide)
    · rw [hread, Option.map_some]
      exact congrArg (fun read => some (read, rest)) hyear
  · have hlength : (padded 4 year.natAbs).length ≤ (padded 4 year.natAbs ++ rest).length := by
      rw [List.length_append]
      exact Nat.le_add_right _ _
    have hread := readNatural?_padded hlength hrest
    rw [if_neg hplain]
    by_cases hnegative : year < 0
    · have hyear : -(year.natAbs : Int) = year := by omega
      rw [if_pos hnegative, List.cons_append, readYear?, hread, Option.map_some]
      exact congrArg (fun read => some (read, rest)) hyear
    · have hyear : (year.natAbs : Int) = year := by omega
      rw [if_neg hnegative, List.cons_append, readYear?, hread, Option.map_some]
      exact congrArg (fun read => some (read, rest)) hyear

theorem beginsShown_printYear (year : Int) (rest : List Char) :
    BeginsShown (printYear year ++ rest) := by
  unfold printYear
  split
  · exact beginsShown_padded 4 year.toNat rest
  · apply beginsShown_cons
    split <;> rfl

/-! ## Dates -/

theorem readMark?_mark (mark : Char) (rest : List Char) :
    readMark? mark (mark :: rest) = some rest :=
  if_pos rfl

theorem readDate?_print {date : Date} (hrange : date.inRange = true) {rest : List Char}
    (hrest : EndsDigits rest) :
    readDate? (date.civil.print ++ rest) = some (date, rest) := by
  have hmonth : date.civil.month < 10 ^ 2 :=
    Nat.lt_of_le_of_lt (Civil.month_ofDayNumber date.number).2 (by decide)
  have hday : date.civil.day < 10 ^ 2 :=
    Nat.lt_of_le_of_lt (Civil.day_ofDayNumber date.number).2 (by decide)
  have hback : Date.ofCivil? date.civil = some date := by
    have hnumber : (⟨date.civil.dayNumber⟩ : Date) = date :=
      congrArg Date.mk (Civil.dayNumber_ofDayNumber date.number)
    unfold Date.ofCivil?
    simp only [hnumber]
    exact if_pos ⟨trivial, hrange⟩
  have hends (text : List Char) : EndsDigits ('-' :: text) := endsDigits_cons rfl text
  have hshown (text : List Char) : BeginsShown ('-' :: text) := beginsShown_cons rfl text
  unfold readDate? Civil.print
  simp only [List.append_assoc, List.cons_append, bind, Option.bind_some,
    skipBlanks_of_beginsShown (beginsShown_printYear _ _),
    readYear?_printYear _ (hends _), skipBlanks_of_beginsShown (hshown _),
    readMark?_mark, skipBlanks_of_beginsShown (beginsShown_padded _ _ _),
    readNatural?_padded (Nat.le_of_eq (length_padded (by decide) hmonth)) (hends _),
    readNatural?_padded (Nat.le_of_eq (length_padded (by decide) hday)) hrest, hback]

theorem Date.ofText?_print {date : Date} (hrange : date.inRange = true) :
    Date.ofText? date.print = some date := by
  have hread : readDate? (date.civil.print ++ []) = some (date, []) :=
    readDate?_print hrange fun _ hc => nomatch hc
  rw [List.append_nil] at hread
  unfold Date.ofText? Date.print
  rw [String.toList_ofList, hread]
  rfl

theorem inRange_of_ofCivil? {civil : Civil} {date : Date}
    (h : Date.ofCivil? civil = some date) : date.inRange = true := by
  unfold Date.ofCivil? at h
  dsimp only at h
  split at h
  · next hreading =>
      cases h
      exact hreading.2
  · cases h

theorem inRange_of_readDate? {text rest : List Char} {date : Date}
    (h : readDate? text = some (date, rest)) : date.inRange = true := by
  unfold readDate? at h
  simp only [bind, Option.bind_eq_some_iff, Option.some.injEq, Prod.mk.injEq] at h
  obtain ⟨year, -, afterYear, -, month, -, afterMonth, -, day, -, found, hfound, rfl, -⟩ := h
  exact inRange_of_ofCivil? hfound

theorem Date.inRange_of_ofText? {text : String} {date : Date}
    (h : Date.ofText? text = some date) : date.inRange = true := by
  unfold Date.ofText? at h
  simp only [bind, Option.bind_eq_some_iff] at h
  obtain ⟨⟨found, rest⟩, hread, h⟩ := h
  split at h
  · cases h
    exact inRange_of_readDate? hread
  · cases h

end FareGateway
