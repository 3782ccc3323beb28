import FareGateway.Gateway.Collecting

/-!
# Searching

Every provider is asked at once.  What arrives in time is merged in the order of
the providers, whenever it arrived; the others appear in the diagnostics.  A
search fails when nobody answers.
-/

namespace FareGateway

/-- A provider in a search: a registered one, or one that takes part only in this
search. -/
inductive Participant where
  | registered (id : String)
  | guest (id : String) (provider : Provider)

inductive SearchStatus where
  | dispatched
  | collecting
  | merged
  | failed
  deriving DecidableEq, Repr

structure SearchReport where
  status : SearchStatus
  results : SearchResults
  origins : Dict String String
  diagnostics : List Diagnostic
  deriving DecidableEq

def firstRepeated? : List String → List String → Option String
  | _, [] => none
  | seen, id :: rest =>
      if id ∈ seen then some id else firstRepeated? (id :: seen) rest

namespace Awaited

def answer? (awaited : Awaited) : Option (String × SearchResults) :=
  match awaited.outcome? with
  | some (.ok results) => some (awaited.inquiry.provider, results)
  | _ => none

def diagnostic? (awaited : Awaited) : Option Diagnostic :=
  match awaited.outcome? with
  | some (.error cause) => some ⟨awaited.inquiry.provider, cause⟩
  | _ => none

end Awaited

def answeredIn (awaited : List Awaited) : List (String × SearchResults) :=
  awaited.filterMap Awaited.answer?

def diagnosticsIn (awaited : List Awaited) : List Diagnostic :=
  awaited.filterMap Awaited.diagnostic?

namespace Gateway

def resolve (gateway : Gateway) (participants : List Participant) :
    List (String × Provider) :=
  participants.filterMap fun
    | .registered id => (gateway.registry.get? id).map (id, ·)
    | .guest id provider => some (id, provider)

/-- The gateway in which the registered participants have given one reply more. -/
def afterReplies (gateway : Gateway) (participants : List Participant) : Gateway :=
  { gateway with
    registry := participants.foldl (fun registry participant =>
      match participant with
      | .registered id =>
          match registry.get? id with
          | some provider => registry.update id provider.replySearch.2
          | none => registry
      | .guest _ _ => registry) gateway.registry }

def mergeAnswers (awaited : List Awaited) (gateway : Gateway) :
    Except GatewayError SearchReport × Gateway :=
  let answered := answeredIn awaited
  let diagnostics := diagnosticsIn awaited
  if answered.isEmpty then (.error (.noResults diagnostics), gateway)
  else
    let (merged, table) := mergeResults gateway.table answered
    (.ok ⟨.merged, merged.results, merged.origins, diagnostics⟩,
      { gateway with table }.putRoutes merged.routes)

/-- Asks everybody, waits, and merges. -/
def collect (gateway : Gateway) (inquiries : List Inquiry) (timeout : Nat) :
    Except GatewayError SearchReport × Gateway :=
  let (ms, awaited) := collected inquiries timeout
  if inquiries.any fun inquiry => inquiry.isLate timeout then
    gateway.waitThen ms (mergeAnswers awaited)
  else mergeAnswers awaited (gateway.wait ms)

/-- Asks the participants, and waits for so many milliseconds.  Any number of them has its
deadline here.  A clock has a last instant, and a duration that leads past it from the start
of the calls ends the search in a panic; such durations are left out. -/
def searchAmong (gateway : Gateway) (request : SearchRequest)
    (participants : List Participant) (timeout : Nat) : Step SearchReport :=
  let providers := gateway.resolve participants
  if providers.isEmpty then { result := .error .noProviders, gateway }
  else match firstRepeated? [] (providers.map Prod.fst) with
    | some id => { result := .error (.registry (.duplicate id)), gateway }
    | none =>
        let inquiries := providers.map fun (id, provider) =>
          ({ provider := id, reply := provider.replySearch.1 } : Inquiry)
        let (result, after) :=
          (gateway.afterReplies participants).collect inquiries timeout
        { result
          calls := inquiries.map (Inquiry.record request timeout)
          gateway := after }

def search (gateway : Gateway) (request : SearchRequest) : Step SearchReport :=
  gateway.searchAmong request (gateway.registry.ids.map .registered)
    gateway.settings.searchTimeoutMs.toNat

end Gateway

end FareGateway
