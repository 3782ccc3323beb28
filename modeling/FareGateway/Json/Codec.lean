import FareGateway.Dict
import FareGateway.Json.Number
import FareGateway.Json.Reader
import FareGateway.Json.Text

/-!
# Types with a JSON form

A `Codec` writes the values of a type as JSON and reads them back.  A record is
written as an object with its fields in order.  It is read from an object, in
which unknown members are passed over and a repeated field is an error, or from
the array of its fields.  A field that may be null may be missing from an
object, but not from an array; a field with a default may be missing from
either.
-/

namespace FareGateway.Json

class Codec (α : Type) where
  encode : α → Value
  decode? : Value → Option α

export Codec (encode decode?)

def write {α : Type} [Codec α] (value : α) : String :=
  String.ofList (encode value).print

def read? {α : Type} [Codec α] (text : String) : Option α :=
  (parseText? text).bind decode?

instance : Codec Bool where
  encode := .flag
  decode?
    | .flag value => some value
    | _ => none

instance : Codec String where
  encode text := .string (unitsOf text)
  decode?
    | .string units => textOf? units
    | _ => none

instance : Codec UInt32 where
  encode n := .number (Number.ofNat n.toNat)
  decode?
    | .number number => (number.toNat? UInt32.size).map UInt32.ofNat
    | _ => none

instance : Codec UInt64 where
  encode n := .number (Number.ofNat n.toNat)
  decode?
    | .number number => (number.toNat? UInt64.size).map UInt64.ofNat
    | _ => none

instance : Codec Binary64 where
  encode := Value.ofBinary64
  decode?
    | .number number => number.toBinary64?
    | _ => none

instance {α : Type} [Codec α] : Codec (Option α) where
  encode
    | none => .null
    | some value => encode value
  decode?
    | .null => some none
    | value => (decode? value).map some

instance {α : Type} [Codec α] : Codec (List α) where
  encode values := .array (values.map encode)
  decode?
    | .array items => items.mapM decode?
    | _ => none

def decodeMember? {α : Type} [Codec α] (member : List StringUnit × Value) :
    Option (String × α) := do
  let key ← textOf? member.1
  let value ← decode? member.2
  some (key, value)

/-- A repeated key keeps its last value, at the place of the first. -/
instance {α : Type} [Codec α] : Codec (Dict String α) where
  encode dict := .object (dict.entries.map fun entry => (unitsOf entry.1, encode entry.2))
  decode?
    | .object members => (members.mapM decodeMember?).map Dict.ofList
    | _ => none

/-! ## Records -/

inductive Presence where
  | required
  | nullable
  | defaulted
  deriving DecidableEq, Repr

structure Field where
  name : String
  presence : Presence := .required

abbrev Fields := List (String × Value)

def record (fields : Fields) : Value :=
  .object (fields.map fun field => (unitsOf field.1, field.2))

def gatherItems : List Field → List Value → Option Fields
  | [], [] => some []
  | [], _ :: _ => none
  | field :: shape, [] =>
      if field.presence = .defaulted then gatherItems shape [] else none
  | field :: shape, item :: items =>
      (gatherItems shape items).map ((field.name, item) :: ·)

def gatherMembers : List Field → Fields → Option Fields
  | [], _ => some []
  | field :: shape, members => do
      let fields ← gatherMembers shape members
      match members.filter fun member => member.1 = field.name, field.presence with
      | [], .required => none
      | [], .nullable => some ((field.name, .null) :: fields)
      | [], .defaulted => some fields
      | [member], _ => some (member :: fields)
      | _, _ => none

/-- The fields of a record that are present, in order. -/
def gather (shape : List Field) : Value → Option Fields
  | .array items => gatherItems shape items
  | .object members => do
      let named ← members.mapM fun member => (textOf? member.1).map (·, member.2)
      gatherMembers shape named
  | _ => none

def Fields.read? {α : Type} [Codec α] (fields : Fields) (name : String) : Option α :=
  (Entries.get? name fields).bind decode?

def Fields.readD? {α : Type} [Codec α] (fields : Fields) (name : String)
    (default : α) : Option α :=
  match Entries.get? name fields with
  | some value => decode? value
  | none => some default

/-! ## Names -/

/-- A value of a finite type is written as its name.  It is also read from an
object with the name as its one key, and null. -/
def decodeName? {α : Type} (named? : String → Option α) : Value → Option α
  | .string units => (textOf? units).bind named?
  | .object [(key, .null)] => (textOf? key).bind named?
  | _ => none

end FareGateway.Json
