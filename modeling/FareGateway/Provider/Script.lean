import FareGateway.Itinerary.Types
import FareGateway.Provider.CallError

/-!
# Providers

A provider is described by what it will answer: for each kind of call a script
of replies, each with the time it takes.  A call takes the next reply, and the
last one is given again and again.  A provider without a script for seat maps or
for orders does not support them.
-/

namespace FareGateway

inductive Answer (α : Type) where
  | success (value : α)
  | failure (cause : String)
  | cancelled
  | unsupported (operation : String)
  /-- The provider breaks down and leaves no answer. -/
  | breakdown
  deriving Repr

structure Reply (α : Type) where
  delay : Nat := 0
  /-- Whether a cancellation during the delay goes unnoticed. -/
  ignoresCancel : Bool := false
  answer : Answer α
  deriving Repr

structure Script (α : Type) where
  next : Reply α
  later : List (Reply α) := []
  deriving Repr

structure Provider where
  search : Script SearchResults
  price : Script PricedOffer
  seatMap : Option (Script ProviderSeatMap) := none
  order : Option (Script Order) := none

/-- The text of a breakdown leaves out the cause that the broken task reports.  Only a search
catches a breakdown, since its calls are tasks of their own.  A call on an offer shares the
case although nothing catches it there: the breakdown unwinds to the caller, who is given no
result. -/
def Answer.result {α : Type} (provider : String) :
    Answer α → Except CallError α
  | .success value => .ok value
  | .failure cause => .error (.failed provider cause)
  | .cancelled => .error (.cancelled provider)
  | .unsupported operation => .error (.unsupported provider operation)
  | .breakdown => .error (.failed provider "provider task did not complete")

def Script.take {α : Type} (script : Script α) : Reply α × Script α :=
  match script.later with
  | [] => (script.next, script)
  | reply :: later => (script.next, ⟨reply, later⟩)

def Reply.lacking {α : Type} (operation : String) : Reply α :=
  { answer := .unsupported operation }

namespace Provider

def replySearch (provider : Provider) : Reply SearchResults × Provider :=
  let (reply, search) := provider.search.take
  (reply, { provider with search })

def replyPrice (provider : Provider) : Reply PricedOffer × Provider :=
  let (reply, price) := provider.price.take
  (reply, { provider with price })

def replySeatMap (provider : Provider) : Reply ProviderSeatMap × Provider :=
  match provider.seatMap with
  | none => (.lacking "seatmap", provider)
  | some script =>
      let (reply, script) := script.take
      (reply, { provider with seatMap := some script })

def replyOrder (provider : Provider) : Reply Order × Provider :=
  match provider.order with
  | none => (.lacking "order creation", provider)
  | some script =>
      let (reply, script) := script.take
      (reply, { provider with order := some script })

end Provider

end FareGateway
