import FareGateway.Digest
import Mathlib.Algebra.BigOperators.Fin
import Mathlib.Tactic.Ring

/-!
# Hash codes as polynomials

Words of 32 bits are added and multiplied as integers are, up to a multiple of `2 ^ 32`.  So
each step of hashing is a step of Horner's rule, and a code is what is left of a polynomial
over the integers, however deep the records are.
-/

namespace FareGateway

namespace Digest

/-- The polynomial in 31 that has the codes for coefficients, the first one highest. -/
def polynomial (codes : List Int) : Int :=
  ∑ i : Fin codes.length, 31 ^ (codes.length - 1 - i) * codes[i]

theorem polynomial_cons (code : Int) (codes : List Int) :
    polynomial (code :: codes) = 31 ^ codes.length * code + polynomial codes := by
  refine (Fin.sum_univ_succ _).trans (congrArg₂ (· + ·) rfl (Finset.sum_congr rfl fun i _ => ?_))
  have hpower : codes.length + 1 - 1 - (i.val + 1) = codes.length - 1 - i := by omega
  simp only [List.length_cons, Fin.val_succ, hpower]
  rfl

theorem polynomial_append (first second : List Int) :
    polynomial (first ++ second) = 31 ^ second.length * polynomial first + polynomial second := by
  induction first with
  | nil => simp [polynomial]
  | cons code codes ih =>
      rw [List.cons_append, polynomial_cons, polynomial_cons, ih, List.length_append, pow_add]
      ring

/-! ## Horner's rule in words -/

theorem shiftLeft_five (word : Int32) : word <<< 5 = word * 31 + word := by
  have hshift : (5 : Int32).toBitVec.smod 32 = 5#32 := by decide
  have hpower : BitVec.twoPow 32 5 = 31#32 + 1#32 := by decide
  rw [← Int32.toBitVec_inj, Int32.toBitVec_shiftLeft, hshift]
  change word.toBitVec <<< 5 = _
  rw [BitVec.shiftLeft_eq_mul_twoPow, hpower, BitVec.mul_add, BitVec.mul_one]
  rfl

theorem mix_eq (acc code : Int32) : mix acc code = acc * 31 + code := by
  rw [mix, shiftLeft_five, Int32.add_sub_cancel]

theorem mix_ofInt (acc code : Int) :
    mix (Int32.ofInt acc) (Int32.ofInt code) = Int32.ofInt (acc * 31 + code) := by
  rw [mix_eq, Int32.ofInt_add, Int32.ofInt_mul]
  rfl

theorem foldl_mix (acc : Int) (codes : List Int) :
    (codes.map Int32.ofInt).foldl mix (Int32.ofInt acc) =
      Int32.ofInt (31 ^ codes.length * acc + polynomial codes) := by
  induction codes generalizing acc with
  | nil => simp [polynomial]
  | cons code codes ih =>
      rw [List.map_cons, List.foldl_cons, mix_ofInt, ih, polynomial_cons, List.length_cons,
        pow_succ]
      congr 1
      ring

theorem extend_eq_foldl (acc : Int32) (values : List Value) :
    extend acc values = (values.map Value.code).foldl mix acc := by
  induction values generalizing acc with
  | nil => simp [extend]
  | cons value values ih => rw [extend, ih, List.map_cons, List.foldl_cons]

theorem extend_of_codes {values : List Value} {codes : List Int}
    (h : values.map Value.code = codes.map Int32.ofInt) (acc : Int) :
    extend (Int32.ofInt acc) values =
      Int32.ofInt (31 ^ codes.length * acc + polynomial codes) := by
  rw [extend_eq_foldl, h, foldl_mix]

theorem map_code_eq (values : List Value) :
    values.map Value.code = (values.map fun value => value.code.toInt).map Int32.ofInt := by
  rw [List.map_map]
  exact List.map_congr_left fun value _ => (Int32.ofInt_toInt value.code).symm

theorem ofValues_eq (values : List Value) :
    ofValues values = Int32.ofInt (polynomial (values.map fun value => value.code.toInt)) := by
  have h := extend_of_codes (map_code_eq values) 0
  rwa [mul_zero, zero_add] at h

theorem ofText_eq (text : String) :
    ofText text = Int32.ofInt (polynomial ((codeUnits text).map Int.ofNat)) := by
  have hunits : ofText text =
      (((codeUnits text).map Int.ofNat).map Int32.ofInt).foldl mix (Int32.ofInt 0) := by
    rw [List.map_map, List.foldl_map]
    simp only [mix_eq, Function.comp_apply, Int.ofNat_eq_natCast, Int32.ofInt_eq_ofNat]
    rfl
  rw [hunits, foldl_mix, mul_zero, zero_add]

/-! ## Two parts -/

theorem ofInt_polynomial_append (first second : List Int) :
    Int32.ofInt (polynomial (first ++ second)) =
      Int32.ofInt (31 ^ second.length * (Int32.ofInt (polynomial first)).toInt +
        (Int32.ofInt (polynomial second)).toInt) := by
  simp only [polynomial_append, Int32.ofInt_add, Int32.ofInt_mul, Int32.ofInt_toInt]

theorem ofValues_append (first second : List Value) :
    ofValues (first ++ second) =
      Int32.ofInt (31 ^ second.length * (ofValues first).toInt + (ofValues second).toInt) := by
  rw [ofValues_eq, List.map_append, ofInt_polynomial_append, List.length_map, ← ofValues_eq,
    ← ofValues_eq]

theorem codeUnits_append (first second : String) :
    codeUnits (first ++ second) = codeUnits first ++ codeUnits second := by
  rw [codeUnits, String.toList_append, List.flatMap_append]
  rfl

theorem ofText_append (first second : String) :
    ofText (first ++ second) =
      Int32.ofInt (31 ^ (codeUnits second).length * (ofText first).toInt +
        (ofText second).toInt) := by
  rw [ofText_eq, codeUnits_append, List.map_append, ofInt_polynomial_append, List.length_map,
    ← ofText_eq, ← ofText_eq]

/-! ## Records to any depth -/

mutual

/-- The code of a value where nothing is cut off to a word, neither in the records in it nor in
its texts. -/
def Value.exactCode : Value → Int
  | .text text => polynomial ((codeUnits text).map Int.ofNat)
  | .record fields => polynomial (exactCodes fields)
  | value => value.code.toInt

def exactCodes : List Value → List Int
  | [] => []
  | value :: values => value.exactCode :: exactCodes values

end

mutual

theorem code_eq_exactCode : (value : Value) → value.code = Int32.ofInt value.exactCode
  | .text text => by
      rw [Value.code, Value.exactCode, ofText_eq]
  | .record fields => by
      have h := extend_of_codes (map_code_eq_exactCodes fields) 0
      rw [mul_zero, zero_add] at h
      rwa [Value.code, Value.exactCode]
  | .absent | .flag _ | .whole _ | .real _ | .instant _ => by
      rw [Value.exactCode, Int32.ofInt_toInt] <;> nofun

theorem map_code_eq_exactCodes :
    (values : List Value) → values.map Value.code = (exactCodes values).map Int32.ofInt
  | [] => by simp [exactCodes]
  | value :: values => by
      rw [List.map_cons, exactCodes, List.map_cons, code_eq_exactCode value,
        map_code_eq_exactCodes values]

end

/-! ## Code units -/

/-- The units of a text in UTF-16: one for a character below `2 ^ 16`, two for any other. -/
inductive IsUtf16 : List Char → List Nat → Prop where
  | nil : IsUtf16 [] []
  | single {c : Char} {text : List Char} {units : List Nat} :
      c.toNat < 0x10000 → IsUtf16 text units → IsUtf16 (c :: text) (c.toNat :: units)
  | pair {c : Char} {text : List Char} {units : List Nat} {high low : Nat} :
      high < 0x400 → low < 0x400 → c.toNat = 0x10000 + high * 0x400 + low →
      IsUtf16 text units →
      IsUtf16 (c :: text) ((0xD800 + high) :: (0xDC00 + low) :: units)

theorem isUtf16_flatMap (text : List Char) : IsUtf16 text (text.flatMap utf16Units) := by
  induction text with
  | nil => exact .nil
  | cons c text ih =>
      rw [List.flatMap_cons, utf16Units]
      by_cases hsmall : c.toNat < 0x10000
      · rw [if_pos hsmall]
        exact .single hsmall ih
      · rw [if_neg hsmall]
        have hlast : c.toNat < 0x110000 := c.valid.elim (Nat.lt_trans · (by decide)) And.right
        exact .pair (by omega) (by omega) (by omega) ih

/-! ## Values that are fed one by one -/

/-- A value that is added to an accumulator, or pushed into it. -/
inductive Feeding where
  | add (value : Value)
  | push (value : Value)

def Feeding.value : Feeding → Value
  | .add value => value
  | .push value => value

namespace Accumulator

def feed (acc : Accumulator) : Feeding → Accumulator
  | .add value => acc.add value
  | .push value => acc.push value

theorem feed_eq (acc : Accumulator) (feeding : Feeding) :
    acc.feed feeding = ⟨mix acc.code feeding.value.code, acc.count + 1⟩ := by
  cases feeding <;> rfl

theorem scanl_feed (acc : Accumulator) (feedings : List Feeding) :
    feedings.scanl feed acc = feedings.inits.map fun fed =>
      ⟨extend acc.code (fed.map Feeding.value), acc.count + fed.length⟩ := by
  induction feedings generalizing acc with
  | nil => simp [extend]
  | cons feeding feedings ih =>
      rw [List.scanl_cons, ih, feed_eq, List.inits_cons, List.map_cons, List.map_map]
      refine congrArg₂ List.cons rfl (List.map_congr_left fun fed _ => ?_)
      simp only [Function.comp_apply, List.map_cons, List.length_cons, extend, Nat.add_right_comm,
        ← Nat.add_assoc]

end Accumulator

/--
A code is the base-31 polynomial of the codes that are hashed, as a signed integer of 32 bits.
That is so for values, for the fields of a record, and for the UTF-16 units of a text, and
remains so if the polynomials of nested records are put in place of their codes.  Hence what
is hashed in two parts is the sum of the second and the first, the first shifted by the
length of the second.  An accumulator that has been fed, in whichever way, always has the
code and the number of what it has been fed so far.
-/
theorem codes_are_polynomials :
    (∀ values : List Value,
      (ofValues values).toInt =
        (polynomial (values.map fun value => value.code.toInt)).bmod (2 ^ 32)) ∧
    (∀ fields : List Value,
      (Value.record fields).code.toInt =
        (polynomial (fields.map fun field => field.code.toInt)).bmod (2 ^ 32)) ∧
    (∀ text : String, IsUtf16 text.toList (codeUnits text) ∧
      (Value.text text).code.toInt =
        (polynomial ((codeUnits text).map Int.ofNat)).bmod (2 ^ 32)) ∧
    (∀ value : Value, value.code.toInt = value.exactCode.bmod (2 ^ 32)) ∧
    (∀ first second : List Value,
      (ofValues (first ++ second)).toInt =
        (31 ^ second.length * (ofValues first).toInt + (ofValues second).toInt).bmod
          (2 ^ 32)) ∧
    (∀ first second : String,
      (ofText (first ++ second)).toInt =
        (31 ^ (codeUnits second).length * (ofText first).toInt + (ofText second).toInt).bmod
          (2 ^ 32)) ∧
    ∀ feedings : List Feeding,
      feedings.scanl Accumulator.feed {} =
        feedings.inits.map fun fed => ⟨ofValues (fed.map Feeding.value), fed.length⟩ := by
  have hcode {word : Int32} {sum : Int} (h : word = Int32.ofInt sum) :
      word.toInt = sum.bmod (2 ^ 32) := h ▸ Int32.toInt_ofInt
  refine ⟨fun values => hcode (ofValues_eq values), fun fields => hcode (ofValues_eq fields),
    fun text => ⟨isUtf16_flatMap text.toList, hcode (ofText_eq text)⟩,
    fun value => hcode (code_eq_exactCode value), fun first second => ?_, fun first second => ?_,
    fun feedings => ?_⟩
  · exact hcode (ofValues_append first second)
  · exact hcode (ofText_append first second)
  · have hstates := Accumulator.scanl_feed {} feedings
    simpa only [Nat.zero_add, ofValues] using hstates

end Digest
end FareGateway
