import FareGateway.Text.Blank

/-!
# Dates

A `Date` is a day of the Gregorian calendar, counted from 1970-01-01.  Its
year, month and day of the month come from the cycle of 400 years, with years
that begin in March so that the leap day is the last.

A triple of year, month and day is a date just when it is the reading of its own
day number; this one test rejects the thirteenth month, the thirty-first of
April and the leap day of a common year alike.
-/

namespace FareGateway

structure Civil where
  year : Int
  month : Nat
  day : Nat
  deriving DecidableEq, Repr

namespace Civil

def ofDayNumber (number : Int) : Civil :=
  let shifted := number + 719468
  let cycle := shifted / 146097
  let dayOfCycle := (shifted % 146097).toNat
  let yearOfCycle :=
    (dayOfCycle - dayOfCycle / 1460 + dayOfCycle / 36524 - dayOfCycle / 146096) / 365
  let dayOfYear :=
    dayOfCycle - (365 * yearOfCycle + yearOfCycle / 4 - yearOfCycle / 100)
  let monthOfYear := (5 * dayOfYear + 2) / 153
  let month := if monthOfYear < 10 then monthOfYear + 3 else monthOfYear - 9
  { year := yearOfCycle + cycle * 400 + if month ≤ 2 then 1 else 0
    month
    day := dayOfYear - (153 * monthOfYear + 2) / 5 + 1 }

def dayNumber (civil : Civil) : Int :=
  let year := if civil.month ≤ 2 then civil.year - 1 else civil.year
  let yearOfCycle := (year % 400).toNat
  let monthOfYear := if civil.month ≤ 2 then civil.month + 9 else civil.month - 3
  let dayOfYear := (153 * monthOfYear + 2) / 5 + civil.day - 1
  let dayOfCycle := yearOfCycle * 365 + yearOfCycle / 4 - yearOfCycle / 100 + dayOfYear
  year / 400 * 146097 + dayOfCycle - 719468

end Civil

/-- A day, counted from 1970-01-01. -/
structure Date where
  number : Int
  deriving DecidableEq, Repr, Inhabited

namespace Date

def firstYear : Int := -262143

def lastYear : Int := 262142

def civil (date : Date) : Civil := Civil.ofDayNumber date.number

def inRange (date : Date) : Bool :=
  decide (firstYear ≤ date.civil.year ∧ date.civil.year ≤ lastYear)

def ofCivil? (civil : Civil) : Option Date :=
  let date : Date := ⟨civil.dayNumber⟩
  if date.civil = civil ∧ date.inRange then some date else none

end Date

/-! ## Writing -/

def padded (width n : Nat) : List Char :=
  let digits := Nat.toDigits 10 n
  List.replicate (width - digits.length) '0' ++ digits

/-- Years outside the first ten thousand have a sign. -/
def printYear (year : Int) : List Char :=
  if 0 ≤ year ∧ year ≤ 9999 then padded 4 year.toNat
  else (if year < 0 then '-' else '+') :: padded 4 year.natAbs

def Civil.print (civil : Civil) : List Char :=
  printYear civil.year ++ '-' :: padded 2 civil.month ++ '-' :: padded 2 civil.day

def Date.print (date : Date) : String := String.ofList date.civil.print

/-! ## Reading -/

def skipBlanks (text : List Char) : List Char := text.dropWhile isBlank

/-- A natural number of at least one and at most `width` digits. -/
def readNatural? (width : Nat) (text : List Char) : Option (Nat × List Char) :=
  match (text.takeWhile Char.isDigit).take width with
  | [] => none
  | digits =>
      some (digits.foldl (fun acc c => acc * 10 + (c.toNat - 48)) 0,
        text.drop digits.length)

def readMark? (mark : Char) : List Char → Option (List Char)
  | c :: rest => if c = mark then some rest else none
  | [] => none

/-- A year with a sign has any number of digits, one without at most four. -/
def readYear? : List Char → Option (Int × List Char)
  | '-' :: rest => (readNatural? rest.length rest).map fun (n, rest) => (-(n : Int), rest)
  | '+' :: rest => (readNatural? rest.length rest).map fun (n, rest) => ((n : Int), rest)
  | text => (readNatural? 4 text).map fun (n, rest) => ((n : Int), rest)

/-- Year, month and day with hyphens between them, each after any blanks. -/
def readDate? (text : List Char) : Option (Date × List Char) := do
  let (year, rest) ← readYear? (skipBlanks text)
  let rest ← readMark? '-' (skipBlanks rest)
  let (month, rest) ← readNatural? 2 (skipBlanks rest)
  let rest ← readMark? '-' (skipBlanks rest)
  let (day, rest) ← readNatural? 2 (skipBlanks rest)
  let date ← Date.ofCivil? ⟨year, month, day⟩
  some (date, rest)

def Date.ofText? (text : String) : Option Date := do
  let (date, rest) ← readDate? text.toList
  if skipBlanks rest = [] then some date else none

end FareGateway
