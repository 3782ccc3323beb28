import FareGateway.Proofs.HashPolynomials

/-!
# Changed fields

Hashing on never brings two different codes together: 31 has an inverse among the words of
32 bits.  So a code shows every change of a single value, also one in a record within a
record.  Two neighbours that change places are hidden only by their last 31 bits, because
what is left of their difference is a multiple of 30.
-/

namespace FareGateway

namespace Digest

theorem mul_31_inj {first second : Int32} (h : first * 31 = second * 31) : first = second := by
  have hinverse : (31 : Int32) * -1108378657 = 1 := by decide
  calc first = first * (31 * -1108378657) := by rw [hinverse, Int32.mul_one]
    _ = second * (31 * -1108378657) := by rw [← Int32.mul_assoc, h, Int32.mul_assoc]
    _ = second := by rw [hinverse, Int32.mul_one]

theorem mix_left_inj {first second code : Int32} :
    mix first code = mix second code ↔ first = second := by
  rw [mix_eq, mix_eq, Int32.add_left_inj]
  exact ⟨mul_31_inj, congrArg (· * 31)⟩

theorem extend_inj {first second : Int32} (values : List Value) :
    extend first values = extend second values ↔ first = second := by
  induction values generalizing first second with
  | nil => rw [extend, extend]
  | cons value values ih => rw [extend, extend, ih, mix_left_inj]

theorem ofValues_append_cons (before : List Value) (value : Value) (after : List Value) :
    ofValues (before ++ value :: after) = extend (mix (ofValues before) value.code) after := by
  rw [ofValues, extend_append, extend, ofValues]

/-! ## One value -/

theorem ofValues_modify_eq_iff {values : List Value} {i : Nat} {old : Value}
    (hold : values[i]? = some old) (change : Value → Value) :
    ofValues (values.modify i change) = ofValues values ↔ (change old).code = old.code := by
  obtain ⟨hlength, rfl⟩ := List.getElem?_eq_some_iff.mp hold
  have hvalues : values = values.take i ++ values[i] :: values.drop (i + 1) := by
    rw [← List.drop_eq_getElem_cons hlength, List.take_append_drop]
  have hbefore : ofValues values =
      extend (mix (ofValues (values.take i)) values[i].code) (values.drop (i + 1)) := by
    rw [← ofValues_append_cons, ← hvalues]
  rw [List.modify_eq_take_cons_drop hlength, ofValues_append_cons, hbefore, extend_inj,
    mix_right_inj]

/-! ## Values in records -/

def Value.fields : Value → List Value
  | .record fields => fields
  | _ => []

/-- The value at a place: each number of the place is a position among the fields of a record,
from the outermost record to the innermost. -/
def Value.at? (value : Value) : List Nat → Option Value
  | [] => some value
  | i :: place => value.fields[i]?.bind fun field => field.at? place

/-- The value with a new one at a place; as it is when it has no such place. -/
def Value.setAt (value : Value) (place : List Nat) (new : Value) : Value :=
  match place, value with
  | [], _ => new
  | i :: place, .record fields => .record (fields.modify i fun field => field.setAt place new)
  | _ :: _, value => value

theorem Value.at?_cons_eq_some {value old : Value} {i : Nat} {place : List Nat}
    (h : value.at? (i :: place) = some old) :
    ∃ fields field, value = .record fields ∧ fields[i]? = some field ∧
      field.at? place = some old := by
  obtain ⟨field, hfield, hold⟩ := Option.bind_eq_some_iff.mp h
  cases value with
  | record fields => exact ⟨fields, field, rfl, hfield, hold⟩
  | _ => cases hfield

theorem code_setAt_eq_iff {value old : Value} {place : List Nat}
    (hold : value.at? place = some old) (new : Value) :
    (value.setAt place new).code = value.code ↔ new.code = old.code := by
  induction place generalizing value with
  | nil =>
      cases hold
      rw [Value.setAt]
  | cons i place ih =>
      obtain ⟨fields, field, rfl, hfield, hold⟩ := Value.at?_cons_eq_some hold
      exact (ofValues_modify_eq_iff hfield fun field => field.setAt place new).trans (ih hold)

/-! ## Two neighbours -/

theorem ofInt_inj {first second : Int} :
    Int32.ofInt first = Int32.ofInt second ↔ first % 2 ^ 32 = second % 2 ^ 32 := by
  rw [← Int32.toInt_inj, Int32.toInt_ofInt, Int32.toInt_ofInt]
  constructor
  · intro h
    have hwords := congrArg (· % (Int32.size : Int)) h
    rwa [Int.bmod_emod, Int.bmod_emod] at hwords
  · intro h
    rw [← Int.emod_bmod first, ← Int.emod_bmod second]
    exact congrArg (Int.bmod · (2 ^ 32)) h

/-- Two codes can be hashed in either order when 30 times their difference is nothing. -/
theorem mix_comm_iff {acc first second : Int32} :
    mix (mix acc first) second = mix (mix acc second) first ↔
      first.toInt % 2 ^ 31 = second.toInt % 2 ^ 31 := by
  have hword (one other : Int32) : mix (mix acc one) other =
      Int32.ofInt ((acc.toInt * 31 + one.toInt) * 31 + other.toInt) := by
    rw [← mix_ofInt, ← mix_ofInt, Int32.ofInt_toInt, Int32.ofInt_toInt, Int32.ofInt_toInt]
  have hdifference : (acc.toInt * 31 + first.toInt) * 31 + second.toInt -
      ((acc.toInt * 31 + second.toInt) * 31 + first.toInt) = 30 * (first.toInt - second.toInt) := by
    ring
  rw [hword, hword, ofInt_inj, Int.emod_eq_emod_iff_emod_sub_eq_zero, hdifference,
    Int.emod_eq_emod_iff_emod_sub_eq_zero]
  generalize first.toInt - second.toInt = difference
  omega

theorem ofValues_swap_eq_iff (before : List Value) (first second : Value)
    (after : List Value) :
    ofValues (before ++ second :: first :: after) =
        ofValues (before ++ first :: second :: after) ↔
      first.code.toInt % 2 ^ 31 = second.code.toInt % 2 ^ 31 := by
  rw [ofValues_append_cons, ofValues_append_cons, extend, extend, extend_inj, eq_comm,
    mix_comm_iff]

/-- The codes of these neighbours differ in their first bit only. -/
example : ofValues [.whole (-2147483648), .whole 0, .flag true] =
    ofValues [.whole 0, .whole (-2147483648), .flag true] := by decide

/--
The code of a list shows every change of one value.  With a new value in one place, be it in
the list itself or at any depth in the records of the list, the code is the same exactly if
the new value has the code of the old one.  Two neighbours can change places without a
change of the code exactly if their codes agree up to a multiple of `2 ^ 31`.
-/
theorem every_single_change_shows :
    (∀ (values : List Value) (i : Fin values.length) (new : Value),
      ofValues (values.set i new) = ofValues values ↔ new.code = values[i].code) ∧
    (∀ (before : List Value) (first second : Value) (after : List Value),
      ofValues (before ++ second :: first :: after) =
          ofValues (before ++ first :: second :: after) ↔
        first.code.toInt % 2 ^ 31 = second.code.toInt % 2 ^ 31) ∧
    ∀ (values : List Value) (i : Nat) (place : List Nat) (old new : Value),
      (values[i]?.bind fun value => value.at? place) = some old →
        (ofValues (values.modify i fun value => value.setAt place new) = ofValues values ↔
          new.code = old.code) := by
  refine ⟨fun values i new => ?_, ofValues_swap_eq_iff, fun values i place old new hold => ?_⟩
  · rw [← List.modify_eq_set (fun _ => new)]
    exact ofValues_modify_eq_iff (List.getElem?_eq_getElem i.isLt) fun _ => new
  · obtain ⟨value, hvalue, hold⟩ := Option.bind_eq_some_iff.mp hold
    exact (ofValues_modify_eq_iff hvalue _).trans (code_setAt_eq_iff hold new)

/-- Seven stands two records deep, and is not told from the real number seven. -/
def nestedValues : List Value :=
  [.text "SEAT", .record [.flag true, .record [.whole 7, .absent]], .whole 12]

theorem nested_change_shows :
    (nestedValues[1]?.bind fun value => value.at? [1, 0]) = some (.whole 7) ∧
      ofValues (nestedValues.modify 1 fun value => value.setAt [1, 0] (.whole 8)) ≠
        ofValues nestedValues ∧
      ofValues (nestedValues.modify 1 fun value => value.setAt [1, 0] (.real (.ofNat 7))) =
        ofValues nestedValues := by
  have hplace : (nestedValues[1]?.bind fun value => value.at? [1, 0]) = some (.whole 7) := rfl
  have hshows := every_single_change_shows.2.2 nestedValues 1 [1, 0] (.whole 7)
  refine ⟨hplace, mt (hshows (.whole 8) hplace).mp ?_, (hshows _ hplace).mpr ?_⟩
  · decide +kernel
  · decide +kernel

end Digest

end FareGateway
