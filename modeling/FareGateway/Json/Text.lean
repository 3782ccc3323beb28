import FareGateway.Json.Value

/-!
# The text of a JSON string

A string that is used must be a text: an upper surrogate is followed by the
lower one that completes it, no surrogate stands alone, and every byte belongs
to a character.
-/

namespace FareGateway.Json

def isUpperSurrogate (unit : Nat) : Bool := 0xD800 ≤ unit && unit < 0xDC00

def isLowerSurrogate (unit : Nat) : Bool := 0xDC00 ≤ unit && unit < 0xE000

def joinSurrogates (upper lower : Nat) : Char :=
  Char.ofNat (0x10000 + (upper - 0xD800) * 0x400 + (lower - 0xDC00))

def decodeUnits : List StringUnit → Option (List Char)
  | [] => some []
  | .char c :: rest => (decodeUnits rest).map (c :: ·)
  | .broken :: _ => none
  | .code upper :: .code lower :: rest =>
      if isUpperSurrogate upper then
        if isLowerSurrogate lower then
          (decodeUnits rest).map (joinSurrogates upper lower :: ·)
        else none
      else if isLowerSurrogate upper then none
      else (decodeUnits (.code lower :: rest)).map (Char.ofNat upper :: ·)
  | .code unit :: rest =>
      if isUpperSurrogate unit || isLowerSurrogate unit then none
      else (decodeUnits rest).map (Char.ofNat unit :: ·)

def textOf? (units : List StringUnit) : Option String :=
  (decodeUnits units).map String.ofList

def unitsOf (text : String) : List StringUnit := text.toList.map .char

theorem decodeUnits_map_char (cs : List Char) :
    decodeUnits (cs.map .char) = some cs := by
  induction cs with
  | nil => rfl
  | cons c cs ih => simp [decodeUnits, ih]

@[simp] theorem textOf?_unitsOf (text : String) : textOf? (unitsOf text) = some text := by
  simp [textOf?, unitsOf, decodeUnits_map_char]

end FareGateway.Json
