import FareGateway.Json.Number
import FareGateway.Json.Text

/-!
# Values that can be kept whole

A value is sound when every string in it is a text and every number is in the
range of a binary64.  Its depth counts the arrays and objects around its
innermost part.
-/

namespace FareGateway.Json

mutual

def Value.isSound : Value → Bool
  | .null | .flag _ => true
  | .number number => number.toBinary64?.isSome
  | .string units => (textOf? units).isSome
  | .array items => areSound items
  | .object members => areSoundMembers members

def areSound : List Value → Bool
  | [] => true
  | item :: rest => item.isSound && areSound rest

def areSoundMembers : List (List StringUnit × Value) → Bool
  | [] => true
  | (key, value) :: rest =>
      (textOf? key).isSome && value.isSound && areSoundMembers rest

end

mutual

def Value.depth : Value → Nat
  | .array items => depthOfItems items + 1
  | .object members => depthOfMembers members + 1
  | _ => 0

def depthOfItems : List Value → Nat
  | [] => 0
  | item :: rest => max item.depth (depthOfItems rest)

def depthOfMembers : List (List StringUnit × Value) → Nat
  | [] => 0
  | (_, value) :: rest => max value.depth (depthOfMembers rest)

end

end FareGateway.Json
