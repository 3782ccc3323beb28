import FareGateway.Dict
import FareGateway.Digest
import FareGateway.Price
import FareGateway.Text.Blank

/-!
# Option codes

Seats that cost the same share one short code, and the price itself is kept
once, in a dictionary of codes.  Prices are the same when category, currency
and whole number of cents agree: they are one price point.

A code is the place of its price point in a table of 32-bit slots, in
hexadecimal, followed by the category.  The slot of a price point is its hash;
when another one sits there, the hash is taken again with the number of the
attempt, until a slot is free.  A price point that had to move is counted as a
collision.
-/

namespace FareGateway

/-- What makes two option prices the same. -/
structure PricePoint where
  category : String
  currency : String
  cents : Int64
  deriving DecidableEq, Repr

namespace PricePoint

def ofPrice (category : String) (price : Price) : PricePoint :=
  ⟨category, price.currency, price.cents⟩

/-- What is hashed to find a slot.  The first attempt has number zero, which is
left out. -/
def digestValues (point : PricePoint) (attempt : Nat) : List Digest.Value :=
  [.text point.category, .text point.currency, .whole point.cents] ++
    if attempt = 0 then [] else [.whole (Int64.ofNat attempt)]

def slot (point : PricePoint) (attempt : Nat) : Int32 :=
  Digest.ofValues (point.digestValues attempt)

end PricePoint

structure CodeBook.Entry where
  point : PricePoint
  price : Price
  deriving DecidableEq, Repr

/-- The occupied slots, in the order in which they were taken. -/
structure CodeBook where
  slots : Dict Int32 CodeBook.Entry := ∅
  collisions : Nat := 0

namespace CodeBook

def hexDigit (n : Nat) : Char :=
  if n < 10 then Char.ofNat (48 + n) else Char.ofNat (55 + n)

def hexDigits : Nat → Nat → List Char
  | 0, _ => []
  | count + 1, n => hexDigits count (n / 16) ++ [hexDigit (n % 16)]

/-- Eight digits, a point, and the category without blanks. -/
def codeText (slot : Int32) (category : String) : String :=
  String.ofList (hexDigits 8 slot.toUInt32.toNat ++
    '.' :: category.toList.filter fun c => !isBlank c)

def empty : CodeBook := {}

def size (book : CodeBook) : Nat := book.slots.size

def isEmpty (book : CodeBook) : Bool := book.slots.isEmpty

def prices (book : CodeBook) : List (String × Price) :=
  book.slots.entries.map fun (slot, entry) =>
    (codeText slot entry.point.category, entry.price)

/-- Whether an attempt ends the search: its slot is free or holds the price
point already. -/
def settles (book : CodeBook) (point : PricePoint) (attempt : Nat) : Bool :=
  match book.slots.get? (point.slot attempt) with
  | none => true
  | some entry => decide (entry.point = point)

/-- The first attempt that ends the search.  Two attempts more than there are
occupied slots are enough. -/
def attempt? (book : CodeBook) (point : PricePoint) : Option Nat :=
  (List.range (book.size + 2)).find? (book.settles point)

def add (book : CodeBook) (category : String) (price : Price) : String × CodeBook :=
  let point := PricePoint.ofPrice category price
  let attempt := (book.attempt? point).getD 0
  let slot := point.slot attempt
  (codeText slot category,
    if book.slots.contains slot then book
    else
      { slots := book.slots.insert slot ⟨point, price⟩
        collisions := book.collisions + if attempt = 0 then 0 else 1 })

def addAll (book : CodeBook) : List (String × Price) → List String × CodeBook
  | [] => ([], book)
  | (category, price) :: rest =>
      let (code, book) := book.add category price
      let (codes, book) := book.addAll rest
      (code :: codes, book)

end CodeBook

end FareGateway
