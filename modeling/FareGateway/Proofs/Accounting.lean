import FareGateway.Proofs.Stages
import Mathlib.Data.List.Nodup
import Mathlib.Logic.Function.Iterate

/-!
# Every provider is accounted for

A search asks each of its providers once, and what it says of each depends on
the reply and the delay of that provider alone.  Who succeeds is merged; all
others are listed in the order of the providers, each with its own cause.
-/

namespace FareGateway

def outcomeOf (timeout : Nat) (entry : String × Provider) :
    Except Diagnostic.Cause SearchResults :=
  Inquiry.outcome ⟨entry.1, entry.2.replySearch.1⟩ timeout

/-- The providers that do not succeed, in order, each with its own cause. -/
def failuresAmong (timeout : Nat) (providers : List (String × Provider)) :
    List Diagnostic :=
  providers.filterMap fun entry => match outcomeOf timeout entry with
    | .ok _ => none
    | .error cause => some ⟨entry.1, cause⟩

namespace Gateway

/-! ## What comes of the participants -/

theorem diagnosticsIn_outcomes (gateway : Gateway) (participants : List Participant)
    (timeout : Nat) :
    diagnosticsIn (gateway.outcomes participants timeout) =
      failuresAmong timeout (gateway.resolve participants) := by
  rw [outcomes, inquiries, diagnosticsIn, failuresAmong, List.map_map,
    List.filterMap_map]
  refine List.filterMap_congr fun entry _ => ?_
  change Awaited.diagnostic? ⟨_, some (outcomeOf timeout entry)⟩ = _
  cases outcomeOf timeout entry <;> rfl

theorem registry_searchAmong {gateway : Gateway} {participants : List Participant}
    (request : SearchRequest) (timeout : Nat) (hsome : gateway.resolve participants ≠ [])
    (hids : ((gateway.resolve participants).map Prod.fst).Nodup) :
    (gateway.searchAmong request participants timeout).gateway.registry =
      (gateway.afterReplies participants).registry := by
  rw [searchAmong_of_distinct request timeout hsome
    (firstRepeated?_nil_eq_none_iff.mpr hids)]
  simp only [(idles_collect _ _ _).registry_eq, registry_mergeAnswers,
    (idles_mergeMoment _ _ _).registry_eq]

end Gateway

end FareGateway
