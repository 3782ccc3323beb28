import FareGateway.Calendar.Date
import FareGateway.Calendar.Instant

/-!
# The written form of an instant

An instant is written in UTC with the mark `Z`, and with no fraction of a second
or one of three, six or nine digits, the fewest that lose nothing.  It is read
with any offset from UTC.  The second numbered 60 is a leap second.
-/

namespace FareGateway

def secondsPerDay : Nat := 86400

namespace Instant

def date (instant : Instant) : Date := ⟨instant.seconds / secondsPerDay⟩

def secondOfDay (instant : Instant) : Nat := (instant.seconds % secondsPerDay).toNat

def inRange (instant : Instant) : Bool := instant.date.inRange

/-! ## Writing -/

def printFraction (nanos : Nat) : List Char :=
  if nanos = 0 then []
  else if nanos % 1000000 = 0 then '.' :: padded 3 (nanos / 1000000)
  else if nanos % 1000 = 0 then '.' :: padded 6 (nanos / 1000)
  else '.' :: padded 9 nanos

def print (instant : Instant) : String :=
  let second := instant.secondOfDay
  let leap := decide (1000000000 ≤ instant.nanos)
  String.ofList (instant.date.civil.print ++ 'T' :: padded 2 (second / 3600) ++
    ':' :: padded 2 (second / 60 % 60) ++
    ':' :: padded 2 (second % 60 + if leap then 1 else 0) ++
    printFraction (if leap then instant.nanos - 1000000000 else instant.nanos) ++ ['Z'])

/-! ## Reading -/

/-- The nanoseconds of a fraction; digits after the ninth are passed over. -/
def readFraction? : List Char → Option (Nat × List Char)
  | '.' :: text => do
      let (n, rest) ← readNatural? 9 text
      some (n * Nat.pow 10 (9 - (text.length - rest.length)), rest.dropWhile Char.isDigit)
  | text => some (0, text)

def readTime? (text : List Char) : Option (Nat × Nat × List Char) := do
  let (hour, rest) ← readNatural? 2 (skipBlanks text)
  let rest ← readMark? ':' (skipBlanks rest)
  let (minute, rest) ← readNatural? 2 (skipBlanks rest)
  let rest ← readMark? ':' (skipBlanks rest)
  let (second, rest) ← readNatural? 2 (skipBlanks rest)
  let (nanos, rest) ← readFraction? rest
  if 23 < hour ∨ 59 < minute ∨ 60 < second then none
  else if second = 60 then
    some (hour * 3600 + minute * 60 + 59, nanos + 1000000000, rest)
  else some (hour * 3600 + minute * 60 + second, nanos, rest)

def digitValue? (c : Char) : Option Nat :=
  if c.isDigit then some (c.toNat - 48) else none

/-- Hours and minutes of two digits each, with any colons and blanks between
them, in seconds.  An offset is less than a day. -/
def readShift? : List Char → Option (Nat × List Char)
  | a :: b :: rest => do
      let hours := (← digitValue? a) * 10 + (← digitValue? b)
      match rest.dropWhile fun c => c = ':' || isBlank c with
      | c :: d :: rest => do
          let minutes := (← digitValue? c) * 10 + (← digitValue? d)
          if 59 < minutes ∨ 23 < hours then none
          else some (hours * 3600 + minutes * 60, rest)
      | _ => none
  | _ => none

def readOffset? : List Char → Option (Int × List Char)
  | 'Z' :: rest | 'z' :: rest => some (0, rest)
  | '+' :: rest => (readShift? rest).map fun (shift, rest) => ((shift : Int), rest)
  | '-' :: rest | '\u2212' :: rest =>
      (readShift? rest).map fun (shift, rest) => (-(shift : Int), rest)
  | u :: t :: c :: rest =>
      if u.toUpper = 'U' ∧ t.toUpper = 'T' ∧ c.toUpper = 'C' then some (0, rest)
      else none
  | _ => none

def ofText? (text : String) : Option Instant := do
  let (date, rest) ← readDate? text.toList
  let rest ← match rest with
    | 'T' :: rest | 't' :: rest | ' ' :: rest => some rest
    | _ => none
  let (second, nanos, rest) ← readTime? rest
  let (offset, rest) ← readOffset? (skipBlanks rest)
  let instant : Instant := ⟨date.number * secondsPerDay + second - offset, nanos⟩
  if skipBlanks rest = [] ∧ instant.inRange then some instant else none

end Instant

end FareGateway
