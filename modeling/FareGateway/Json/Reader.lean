import FareGateway.Json.Value

/-!
# Reading JSON

The grammar of RFC 8259, taken strictly: no comments, no trailing commas, no
leading zeros, no control characters inside strings, and nothing but blanks
after the value.

The text comes as glyphs, so that the same reader serves texts and byte strings
that are not well encoded: a byte that is no part of a character is the glyph
`none`, and may stand only inside a string.
-/

namespace FareGateway.Json

/-- A character, or `none` for a byte that is no part of one. -/
abbrev Glyph := Option Char

def isSpace : Glyph → Bool
  | some c => c = ' ' || c = '\n' || c = '\t' || c = '\r'
  | none => false

def skipSpace (text : List Glyph) : List Glyph := text.dropWhile isSpace

def digit? : Glyph → Option Digit
  | some c =>
      if c.toNat < 48 then none
      else if h : c.toNat - 48 < 10 then some ⟨c.toNat - 48, h⟩ else none
  | none => none

def takeDigits : List Glyph → List Digit × List Glyph
  | [] => ([], [])
  | glyph :: rest =>
      match digit? glyph with
      | some digit =>
          let (digits, rest) := takeDigits rest
          (digit :: digits, rest)
      | none => ([], glyph :: rest)

/-- At least one digit. -/
def readDigits? (text : List Glyph) : Option (List Digit × List Glyph) :=
  match takeDigits text with
  | ([], _) => none
  | found => some found

/-- Zero, or digits that do not begin with zero. -/
def readWhole? (text : List Glyph) : Option (List Digit × List Glyph) := do
  let (digits, rest) ← readDigits? text
  if digits.head? = some Digit.zero ∧ digits.length ≠ 1 then none else some (digits, rest)

def readFraction? : List Glyph → Option (List Digit × List Glyph)
  | some '.' :: rest => readDigits? rest
  | text => some ([], text)

def readExponent? (text : List Glyph) : Option (Bool × List Digit × List Glyph) :=
  match text with
  | some mark :: rest =>
      if mark = 'e' ∨ mark = 'E' then
        match rest with
        | some '-' :: rest => (readDigits? rest).map (true, ·)
        | some '+' :: rest => (readDigits? rest).map (false, ·)
        | _ => (readDigits? rest).map (false, ·)
      else some (false, [], text)
  | _ => some (false, [], text)

def readUnsigned? (negative : Bool) (text : List Glyph) :
    Option (Number × List Glyph) := do
  let (whole, rest) ← readWhole? text
  let (fraction, rest) ← readFraction? rest
  let (exponentNegative, exponent, rest) ← readExponent? rest
  some (⟨negative, whole, fraction, exponentNegative, exponent⟩, rest)

def readNumber? : List Glyph → Option (Number × List Glyph)
  | some '-' :: rest => readUnsigned? true rest
  | text => readUnsigned? false text

def hexValue? : Glyph → Option Nat
  | some c =>
      let n := c.toNat
      if 48 ≤ n ∧ n ≤ 57 then some (n - 48)
      else if 97 ≤ n ∧ n ≤ 102 then some (n - 87)
      else if 65 ≤ n ∧ n ≤ 70 then some (n - 55)
      else none
  | none => none

def namedEscape? : Glyph → Option Char
  | some '"' => some '"'
  | some '\\' => some '\\'
  | some '/' => some '/'
  | some 'b' => some (Char.ofNat 8)
  | some 'f' => some (Char.ofNat 12)
  | some 'n' => some '\n'
  | some 'r' => some '\r'
  | some 't' => some '\t'
  | _ => none

/-- The rest of a string whose opening quote has been read. -/
def readString? : List Glyph → Option (List StringUnit × List Glyph)
  | [] => none
  | some '"' :: rest => some ([], rest)
  | some '\\' :: some 'u' :: a :: b :: c :: d :: rest => do
      let unit := (← hexValue? a) * 4096 + (← hexValue? b) * 256 +
        (← hexValue? c) * 16 + (← hexValue? d)
      let (units, rest) ← readString? rest
      some (.code unit :: units, rest)
  | some '\\' :: glyph :: rest => do
      let c ← namedEscape? glyph
      let (units, rest) ← readString? rest
      some (.char c :: units, rest)
  | some c :: rest =>
      if c.toNat < 32 ∨ c = '\\' then none
      else do
        let (units, rest) ← readString? rest
        some (.char c :: units, rest)
  | none :: rest => do
      let (units, rest) ← readString? rest
      some (.broken :: units, rest)

def expect? (word : List Char) (text : List Glyph) : Option (List Glyph) :=
  match word, text with
  | [], text => some text
  | c :: word, some d :: rest => if c = d then expect? word rest else none
  | _ :: _, _ => none

def readKey? (text : List Glyph) : Option (List StringUnit × List Glyph) := do
  let rest ← expect? ['"'] text
  let (key, rest) ← readString? rest
  let rest ← expect? [':'] (skipSpace rest)
  some (key, skipSpace rest)

mutual

/-- A value that begins at the first glyph.  The first argument bounds the
number of nested calls; twice the length of the text is enough. -/
def readValue? : Nat → List Glyph → Option (Value × List Glyph)
  | 0, _ => none
  | _, [] => none
  | fuel + 1, glyph :: rest =>
      match glyph with
      | some 'n' => (expect? ['u', 'l', 'l'] rest).map (.null, ·)
      | some 't' => (expect? ['r', 'u', 'e'] rest).map (.flag true, ·)
      | some 'f' => (expect? ['a', 'l', 's', 'e'] rest).map (.flag false, ·)
      | some '"' => do
          let (units, rest) ← readString? rest
          some (.string units, rest)
      | some '[' =>
          match skipSpace rest with
          | some ']' :: rest => some (.array [], rest)
          | rest => do
              let (items, rest) ← readItems? fuel rest
              some (.array items, rest)
      | some '\x7b' =>
          match skipSpace rest with
          | some '\x7d' :: rest => some (.object [], rest)
          | rest => do
              let (members, rest) ← readMembers? fuel rest
              some (.object members, rest)
      | glyph => do
          let (number, rest) ← readNumber? (glyph :: rest)
          some (.number number, rest)

/-- At least one value, and the closing bracket. -/
def readItems? : Nat → List Glyph → Option (List Value × List Glyph)
  | 0, _ => none
  | fuel + 1, text => do
      let (item, rest) ← readValue? fuel text
      match skipSpace rest with
      | some ',' :: rest => do
          let (items, rest) ← readItems? fuel (skipSpace rest)
          some (item :: items, rest)
      | some ']' :: rest => some ([item], rest)
      | _ => none

def readMembers? :
    Nat → List Glyph → Option (List (List StringUnit × Value) × List Glyph)
  | 0, _ => none
  | fuel + 1, text => do
      let (key, rest) ← readKey? text
      let (value, rest) ← readValue? fuel rest
      match skipSpace rest with
      | some ',' :: rest => do
          let (members, rest) ← readMembers? fuel (skipSpace rest)
          some ((key, value) :: members, rest)
      | some '\x7d' :: rest => some ([(key, value)], rest)
      | _ => none

end

def parse? (text : List Glyph) : Option Value := do
  let (value, rest) ← readValue? (2 * text.length + 2) (skipSpace text)
  if skipSpace rest = [] then some value else none

def parseText? (text : String) : Option Value := parse? (text.toList.map some)

end FareGateway.Json
