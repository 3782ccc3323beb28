/-!
# JSON values

A value keeps what the text says, before any of it is given a meaning: numbers
as their digits, strings as characters and code units, members in the order of
the text with all their repetitions.  What a reader does not need is therefore
only required to be well written; a number too large for any type or half of a
surrogate pair is an error only where the value is used.

`Value.print` writes a value without blanks.
-/

namespace FareGateway.Json

abbrev Digit := Fin 10

def Digit.zero : Digit := ⟨0, by decide⟩

def Digit.char (digit : Digit) : Char := Char.ofNat (48 + digit.val)

/-- The digits of a natural number; zero has one. -/
def digitsOf (n : Nat) : List Digit :=
  if n < 10 then [Fin.ofNat 10 n] else digitsOf (n / 10) ++ [Fin.ofNat 10 (n % 10)]
termination_by n

/-- A number as it is written.  No fraction and no exponent is written for the
empty lists. -/
structure Number where
  negative : Bool := false
  whole : List Digit
  fraction : List Digit := []
  exponentNegative : Bool := false
  exponent : List Digit := []
  deriving DecidableEq, Repr, Inhabited

/-- A part of a string: a character that stands for itself or is escaped by
name, a code unit escaped by number, or a byte that is no part of a
character. -/
inductive StringUnit where
  | char (c : Char)
  | code (unit : Nat)
  | broken
  deriving DecidableEq, Repr, Inhabited

inductive Value where
  | null
  | flag (value : Bool)
  | number (value : Number)
  | string (units : List StringUnit)
  | array (items : List Value)
  | object (members : List (List StringUnit × Value))
  deriving Repr, Inhabited

/-! ## Writing -/

def hexDigit (n : Nat) : Char :=
  if n < 10 then Char.ofNat (48 + n) else Char.ofNat (87 + n)

def hexCode (unit : Nat) : List Char :=
  [hexDigit (unit / 4096 % 16), hexDigit (unit / 256 % 16),
    hexDigit (unit / 16 % 16), hexDigit (unit % 16)]

/-- Only what has to be escaped is: the quote, the backslash and the control
characters, by name where they have one. -/
def escape (c : Char) : List Char :=
  if c = '"' then ['\\', '"']
  else if c = '\\' then ['\\', '\\']
  else if c = '\n' then ['\\', 'n']
  else if c = '\t' then ['\\', 't']
  else if c = '\r' then ['\\', 'r']
  else if c.toNat = 8 then ['\\', 'b']
  else if c.toNat = 12 then ['\\', 'f']
  else if c.toNat < 32 then '\\' :: 'u' :: hexCode c.toNat
  else [c]

def StringUnit.print : StringUnit → List Char
  | .char c => escape c
  | .code unit => '\\' :: 'u' :: hexCode unit
  | .broken => [Char.ofNat 0xFFFD]

def printString (units : List StringUnit) : List Char :=
  '"' :: units.flatMap StringUnit.print ++ ['"']

def Number.print (number : Number) : List Char :=
  (if number.negative then ['-'] else []) ++ number.whole.map Digit.char ++
    (if number.fraction = [] then [] else '.' :: number.fraction.map Digit.char) ++
    if number.exponent = [] then []
    else 'e' :: (if number.exponentNegative then ['-'] else []) ++
      number.exponent.map Digit.char

mutual

def Value.print : Value → List Char
  | .null => ['n', 'u', 'l', 'l']
  | .flag true => ['t', 'r', 'u', 'e']
  | .flag false => ['f', 'a', 'l', 's', 'e']
  | .number value => value.print
  | .string units => printString units
  | .array items => '[' :: printItems items ++ [']']
  | .object members => '\x7b' :: printMembers members ++ ['\x7d']

def printItems : List Value → List Char
  | [] => []
  | [item] => item.print
  | item :: next :: rest => item.print ++ ',' :: printItems (next :: rest)

def printMembers : List (List StringUnit × Value) → List Char
  | [] => []
  | [(key, value)] => printString key ++ ':' :: value.print
  | (key, value) :: next :: rest =>
      printString key ++ ':' :: value.print ++ ',' :: printMembers (next :: rest)

end

end FareGateway.Json
