import FareGateway.Binary64
import FareGateway.Calendar.Instant

/-!
# Composite hash codes

Folds an ordered list of values into one 32-bit code: each value has a code of
its own, and `ofValues` is the base-31 polynomial of the codes, first value
highest, in wrapping arithmetic.  A text is hashed the same way over its UTF-16
code units, and a record over its fields; the names of the fields play no part.

Numbers that are equal have equal codes: an integral binary64 hashes like the
integer, and every pattern that is not a number hashes alike.
-/

namespace FareGateway

namespace Digest

inductive Value where
  | absent
  | flag (value : Bool)
  | whole (value : Int64)
  | real (value : Binary64)
  | text (value : String)
  | instant (value : Instant)
  | record (fields : List Value)
  deriving Inhabited

def yesCode : Int32 := 1231

def noCode : Int32 := 1237

/-- The sum so far times 31, as a shift and a difference, and the next code. -/
def mix (acc code : Int32) : Int32 := (acc <<< 5) - acc + code

def foldHalves (word : UInt64) : Int32 :=
  ((word ^^^ (word >>> 32)).toUInt32).toInt32

/-- An integer of 32 bits is its own code. -/
def ofInt64 (value : Int64) : Int32 :=
  if Int32.minValue.toInt ≤ value.toInt ∧ value.toInt ≤ Int32.maxValue.toInt then
    Int32.ofInt value.toInt
  else foldHalves value.toUInt64

def ofBinary64 (value : Binary64) : Int32 :=
  match value.toWhole? with
  | some n =>
      if n.natAbs < 1 <<< 63 then ofInt64 (Int64.ofInt n) else foldHalves value.bits
  | none => foldHalves (if value.isNaN then Binary64.nan.bits else value.bits)

def utf16Units (c : Char) : List Nat :=
  if c.toNat < 0x10000 then [c.toNat]
  else
    let offset := c.toNat - 0x10000
    [0xD800 + offset / 0x400, 0xDC00 + offset % 0x400]

def codeUnits (text : String) : List Nat := text.toList.flatMap utf16Units

def ofText (text : String) : Int32 :=
  (codeUnits text).foldl (fun acc unit => acc * 31 + Int32.ofNat unit) 0

mutual

def Value.code : Value → Int32
  | .absent => 0
  | .flag true => yesCode
  | .flag false => noCode
  | .whole value => ofInt64 value
  | .real value => ofBinary64 value
  | .text value => ofText value
  | .instant value => ofInt64 (Int64.ofInt value.millis)
  | .record fields => extend 0 fields

def extend (acc : Int32) : List Value → Int32
  | [] => acc
  | value :: values => extend (mix acc value.code) values

end

/-- The code of a list of values; that of the empty list is zero. -/
def ofValues (values : List Value) : Int32 := extend 0 values

theorem mix_right_inj {acc first second : Int32} :
    mix acc first = mix acc second ↔ first = second :=
  Int32.add_right_inj _

@[simp] theorem extend_append (acc : Int32) (first second : List Value) :
    extend acc (first ++ second) = extend (extend acc first) second := by
  induction first generalizing acc with
  | nil => simp [extend]
  | cons value values ih => simp [extend, ih]

/-! ## Hashing one value at a time -/

structure Accumulator where
  code : Int32 := 0
  count : Nat := 0
  deriving DecidableEq, Repr, Inhabited

namespace Accumulator

def push (acc : Accumulator) (value : Value) : Accumulator :=
  ⟨mix acc.code value.code, acc.count + 1⟩

def add (acc : Accumulator) (value : Value) : Accumulator := acc.push value

def isEmpty (acc : Accumulator) : Bool := acc.count == 0

end Accumulator

end Digest

end FareGateway
