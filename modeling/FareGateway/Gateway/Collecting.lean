import FareGateway.Gateway.Basic

/-!
# Waiting for several providers

Providers that are asked at once answer in any order, and each has the same time
to answer.  Whenever one of them answers or has run out of time, everybody is
looked at, until nobody is waited for.  Who is late is told that nobody waits
for the answer any more.

An answer that takes as long as the time allowed is late, so with no time at all
nobody is heard.  Moments are counted from the one at which everybody was asked.
-/

namespace FareGateway

structure Inquiry where
  provider : String
  reply : Reply SearchResults

namespace Inquiry

def isLate (inquiry : Inquiry) (timeout : Nat) : Bool :=
  decide (timeout ≤ inquiry.reply.delay)

def waitMs (inquiry : Inquiry) (timeout : Nat) : Nat :=
  min inquiry.reply.delay timeout

/-- A provider that waits when its time is up notices, unless it does not care. -/
def record (request : SearchRequest) (timeout : Nat) (inquiry : Inquiry) : CallRecord :=
  let late := inquiry.isLate timeout
  { provider := inquiry.provider
    call := .search request
    cancelled := late
    noticed := late && !inquiry.reply.ignoresCancel && decide (0 < inquiry.reply.delay) }

end Inquiry

structure Awaited where
  inquiry : Inquiry
  outcome? : Option (Except Diagnostic.Cause SearchResults) := none

namespace Awaited

def isOpen (awaited : Awaited) : Bool := awaited.outcome?.isNone

/-- Looks at a moment whether the answer has come or the time is up. -/
def poll (timeout moment : Nat) (awaited : Awaited) : Awaited :=
  match awaited.outcome? with
  | some _ => awaited
  | none =>
      let ⟨provider, reply⟩ := awaited.inquiry
      if reply.delay ≤ moment ∧ reply.delay < timeout then
        { awaited with outcome? := some ((reply.answer.result provider).mapError .error) }
      else if timeout ≤ moment then
        { awaited with outcome? := some (.error (.timedOut timeout)) }
      else awaited

end Awaited

def nextMoment? (timeout : Nat) (awaited : List Awaited) : Option Nat :=
  ((awaited.filter Awaited.isOpen).map fun awaited => awaited.inquiry.waitMs timeout).min?

/-- Waits from one such moment to the next, for so many rounds. -/
def collectFrom (timeout : Nat) :
    Nat → Nat → List Awaited → Nat × List Awaited
  | 0, moment, awaited => (moment, awaited)
  | rounds + 1, moment, awaited =>
      match nextMoment? timeout awaited with
      | none => (moment, awaited)
      | some next =>
          collectFrom timeout rounds next (awaited.map (Awaited.poll timeout next))

/-- The moment at which nobody is waited for any more, and what has come of
everybody by then.  Every round settles somebody. -/
def collected (inquiries : List Inquiry) (timeout : Nat) : Nat × List Awaited :=
  collectFrom timeout inquiries.length 0 (inquiries.map fun inquiry => { inquiry })

end FareGateway
