import FareGateway.CodeBook
import Mathlib.Algebra.Group.Nat.Defs
import Mathlib.Data.List.Nodup
import Mathlib.Data.List.Perm.Subperm

/-!
# The search for a slot

The attempts at one price point never come back to a slot: beyond the first they
are all the same code plus their number.  So among one attempt more than there
are occupied slots one finds a slot free, and the search ends.
-/

namespace FareGateway

namespace Digest

theorem ofInt64_ofNat {n : Nat} (h : n < 2 ^ 32) : ofInt64 (Int64.ofNat n) = Int32.ofNat n := by
  have hvalue : (Int64.ofNat n).toInt = n := Int64.toInt_ofNat_of_lt (by omega)
  rw [ofInt64, hvalue]
  split
  case isTrue => exact Int32.ofInt_eq_ofNat
  case isFalse =>
    -- The upper half of the word is empty, so folding leaves the lower one.
    have hword : (UInt64.ofNat n).toNat = n :=
      UInt64.toNat_ofNat_of_lt' (Nat.lt_trans h (by decide))
    have hshift : UInt64.ofNat n >>> 32 = 0 := by
      apply UInt64.toNat.inj
      rw [UInt64.toNat_shiftRight, hword]
      exact Nat.shiftRight_eq_zero n 32 h
    rw [foldHalves, Int64.toUInt64_ofNat', hshift, UInt64.xor_zero,
      UInt64.toUInt32_ofNat', UInt32.toInt32_ofNat']

/-- The code of what has been hashed already, taken on with the number of an attempt. -/
def rehash (base : Int32) (attempt : Nat) : Int32 := mix base (ofInt64 (Int64.ofNat attempt))

theorem rehash_inj {base : Int32} {first second : Nat} (hfirst : first < 2 ^ 32)
    (hsecond : second < 2 ^ 32) (h : rehash base first = rehash base second) :
    first = second := by
  rw [rehash, rehash, mix_right_inj, ofInt64_ofNat hfirst,
    ofInt64_ofNat hsecond] at h
  have hwords := congrArg (fun word => word.toUInt32.toNat) h
  simp only [Int32.toUInt32_ofNat', UInt32.toNat_ofNat'] at hwords
  omega

theorem nodup_rehash (base : Int32) {count : Nat} (h : count < 2 ^ 32) :
    ((List.range' 1 count).map (rehash base)).Nodup := by
  refine List.Nodup.map_on (fun first hfirst second hsecond heq => ?_) List.nodup_range'
  rw [List.mem_range'_1] at hfirst hsecond
  exact rehash_inj (by omega) (by omega) heq

end Digest

namespace PricePoint

theorem slot_of_ne_zero (point : PricePoint) {attempt : Nat} (hne : attempt ≠ 0) :
    point.slot attempt = Digest.rehash (point.slot 0) attempt := by
  have hvalues : point.digestValues attempt =
      point.digestValues 0 ++ [.whole (Int64.ofNat attempt)] := by
    simp [digestValues, hne]
  rw [slot, hvalues, Digest.ofValues, Digest.extend_append]
  rfl

theorem nodup_slots (point : PricePoint) {count : Nat} (h : count < 2 ^ 32) :
    ((List.range' 1 count).map point.slot).Nodup := by
  have hslots : (List.range' 1 count).map point.slot =
      (List.range' 1 count).map (Digest.rehash (point.slot 0)) := by
    refine List.map_congr_left fun attempt hattempt => point.slot_of_ne_zero ?_
    rw [List.mem_range'_1] at hattempt
    omega
  rw [hslots]
  exact Digest.nodup_rehash (point.slot 0) h

end PricePoint

namespace CodeBook

variable {book : CodeBook} {point : PricePoint}

theorem settles_iff {attempt : Nat} :
    book.settles point attempt = true ↔
      ∀ entry, book.slots.get? (point.slot attempt) = some entry → entry.point = point := by
  rw [settles]
  cases book.slots.get? (point.slot attempt) <;> simp

theorem settles_eq_false_iff {attempt : Nat} :
    book.settles point attempt = false ↔
      ∃ entry, book.slots.get? (point.slot attempt) = some entry ∧ entry.point ≠ point := by
  rw [settles]
  cases book.slots.get? (point.slot attempt) <;> simp

/-- The attempt is the first one at which the search for the price point ends. -/
structure EndsAt (book : CodeBook) (point : PricePoint) (attempt : Nat) : Prop where
  settles : book.settles point attempt = true
  before : ∀ earlier < attempt, book.settles point earlier = false

theorem EndsAt.unique {first second : Nat} (hfirst : book.EndsAt point first)
    (hsecond : book.EndsAt point second) : first = second := by
  rcases Nat.lt_trichotomy first second with hlt | heq | hgt
  · exact absurd hfirst.settles (by simp [hsecond.before first hlt])
  · exact heq
  · exact absurd hsecond.settles (by simp [hfirst.before second hgt])

theorem attempt?_eq_some_iff {attempt : Nat} :
    book.attempt? point = some attempt ↔
      attempt ≤ book.size + 1 ∧ book.EndsAt point attempt := by
  rw [attempt?, List.find?_range_eq_some]
  constructor
  · rintro ⟨hsettles, hmem, hbefore⟩
    refine ⟨Nat.le_of_lt_succ (List.mem_range.mp hmem), hsettles, fun earlier hlt => ?_⟩
    simpa using hbefore earlier hlt
  · rintro ⟨hle, hends⟩
    refine ⟨hends.settles, List.mem_range.mpr (by omega), fun earlier hlt => ?_⟩
    simp [hends.before earlier hlt]

theorem le_size_of_not_settles {count : Nat} (hcount : count < 2 ^ 32)
    (hothers : ∀ attempt, 1 ≤ attempt → attempt ≤ count →
      book.settles point attempt = false) : count ≤ book.size := by
  have hoccupied : (List.range' 1 count).map point.slot ⊆ book.slots.keys := by
    intro slot hmem
    obtain ⟨attempt, hattempt, rfl⟩ := List.mem_map.mp hmem
    rw [List.mem_range'_1] at hattempt
    obtain ⟨entry, hentry, -⟩ :=
      settles_eq_false_iff.mp (hothers attempt (by omega) (by omega))
    exact Dict.contains_iff.mp (Option.isSome_of_eq_some hentry)
  have hslots := PricePoint.nodup_slots point hcount
  have hlength := (List.subperm_of_subset hslots hoccupied).length_le
  rwa [List.length_map, List.length_range', Dict.keys, List.length_map] at hlength

theorem exists_settles (point : PricePoint) (h : book.size + 1 < 2 ^ 32) :
    ∃ attempt ≤ book.size + 1, book.settles point attempt = true := by
  by_contra! hnone
  have hothers := le_size_of_not_settles h fun attempt _ hle =>
    Bool.eq_false_iff.mpr (hnone attempt hle)
  omega

/-- The search for any price point ends: one attempt more than there are occupied
slots cannot find them all occupied by others. -/
theorem exists_endsAt (point : PricePoint) (h : book.size + 1 < 2 ^ 32) :
    ∃ attempt ≤ book.size + 1, book.EndsAt point attempt := by
  cases hfound : book.attempt? point with
  | some attempt => exact ⟨attempt, attempt?_eq_some_iff.mp hfound⟩
  | none =>
      obtain ⟨attempt, hle, hsettles⟩ := exists_settles point h
      have hnever := List.find?_eq_none.mp hfound attempt (List.mem_range.mpr (by omega))
      exact absurd hsettles hnever

theorem EndsAt.attempt? {attempt : Nat} (hends : book.EndsAt point attempt)
    (h : book.size + 1 < 2 ^ 32) : book.attempt? point = some attempt := by
  obtain ⟨found, hle, hfound⟩ := exists_endsAt point h
  rw [hends.unique hfound]
  exact attempt?_eq_some_iff.mpr ⟨hle, hfound⟩

theorem EndsAt.attempt?_of_lt {attempt : Nat} (hends : book.EndsAt point attempt)
    (h : attempt < 2 ^ 32) : book.attempt? point = some attempt := by
  refine attempt?_eq_some_iff.mpr ⟨?_, hends⟩
  have hbefore : attempt - 1 ≤ book.size :=
    le_size_of_not_settles (by omega) fun earlier hpos hle => hends.before earlier (by omega)
  omega

end CodeBook

end FareGateway
