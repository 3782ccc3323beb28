import FareGateway.Correlation.KeySource
import FareGateway.Json.Codec

/-!
# Correlation tables

A table renames the native keys of the providers to correlation keys and back.
A key that has been given stays; a new one comes from the table's source, and a
key of the source that is already taken is passed over.

A table can be replaced by a stored one as a whole.  Of stored native keys that
share a correlation key, the last in order is the one it reverses to.
-/

namespace FareGateway

namespace Correlation

inductive Error where
  | notFound (key : String)
  deriving DecidableEq, Repr

def Error.message : Error → String
  | .notFound key =>
      "Cannot reverse mapping for key " ++ key ++ ", original key does not exist"

structure Table where
  forward : Dict String String := ∅
  reverse : Dict String String := ∅
  source : KeySource

/-- The pairs in the order of their native keys, each of these once and with the
last of its correlation keys. -/
def listing (pairs : List (String × String)) : List (String × String) :=
  (Dict.ofList pairs).entries.mergeSort fun first second => decide (first.1 ≤ second.1)

namespace Table

def empty (source : KeySource) : Table := { source }

def size (table : Table) : Nat := table.forward.size

def isEmpty (table : Table) : Bool := table.forward.isEmpty

def contains (table : Table) (nativeKey : String) : Bool :=
  table.forward.contains nativeKey

def link (table : Table) (nativeKey key : String) : Table :=
  { table with
    forward := table.forward.insert nativeKey key
    reverse := table.reverse.insert key nativeKey }

/-- The correlation key of a native key, and the table in which it has one. -/
def keyOf (table : Table) (nativeKey : String) : String × Table :=
  match table.forward.get? nativeKey with
  | some key => (key, table)
  | none =>
      let position := table.source.freshPosition table.reverse.keys
      let key := table.source.key position
      (key, { table with source := table.source.after position }.link nativeKey key)

def nameAll (table : Table) (nativeKeys : List String) : Table :=
  nativeKeys.foldl (fun table nativeKey => (table.keyOf nativeKey).2) table

/-! A key that has been given stays. -/

theorem keyOf_of_get? {table : Table} {nativeKey key : String}
    (h : table.forward.get? nativeKey = some key) :
    table.keyOf nativeKey = (key, table) := by
  simp [keyOf, h]

theorem keyOf_of_get?_eq_none {table : Table} {nativeKey : String}
    (h : table.forward.get? nativeKey = none) :
    table.keyOf nativeKey =
      let position := table.source.freshPosition table.reverse.keys
      let key := table.source.key position
      (key, { table with source := table.source.after position }.link nativeKey key) := by
  simp [keyOf, h]

@[simp] theorem get?_keyOf_self (table : Table) (nativeKey : String) :
    (table.keyOf nativeKey).2.forward.get? nativeKey = some (table.keyOf nativeKey).1 := by
  cases h : table.forward.get? nativeKey with
  | none => simp [keyOf_of_get?_eq_none h, link]
  | some key => simp [keyOf_of_get? h, h]

theorem get?_keyOf {table : Table} {other key : String}
    (h : table.forward.get? other = some key) (nativeKey : String) :
    (table.keyOf nativeKey).2.forward.get? other = some key := by
  cases hnative : table.forward.get? nativeKey with
  | some _ => simpa [keyOf_of_get? hnative] using h
  | none =>
      have hne : nativeKey ≠ other := by
        rintro rfl
        simp [h] at hnative
      simp [keyOf_of_get?_eq_none hnative, link, Dict.get?_insert, hne, h]

theorem get?_nameAll {table : Table} {other key : String}
    (h : table.forward.get? other = some key) (nativeKeys : List String) :
    (table.nameAll nativeKeys).forward.get? other = some key := by
  induction nativeKeys generalizing table with
  | nil => exact h
  | cons nativeKey nativeKeys ih => exact ih (get?_keyOf h nativeKey)

def nativeKeyOf (table : Table) (key : String) : Except Error String :=
  match table.reverse.get? key with
  | some nativeKey => .ok nativeKey
  | none => .error (.notFound key)

def pairs (table : Table) : List (String × String) := listing table.forward.entries

def replace (table : Table) (pairs : List (String × String)) : Table :=
  (listing pairs).foldl (fun table pair => table.link pair.1 pair.2)
    (empty table.source)

def ofPairs (source : KeySource) (pairs : List (String × String)) : Table :=
  (empty source).replace pairs

def json (table : Table) : String := Json.write (Dict.ofList table.pairs)

def ofJson? (source : KeySource) (text : String) : Option Table := do
  let stored : Dict String String ← Json.read? text
  some (ofPairs source stored.entries)

/-- A summary that shows no keys. -/
def summary (table : Table) : String :=
  "UuidMapper \x7b entries: " ++ toString table.size ++ " \x7d"

end Table

end Correlation

end FareGateway
