import FareGateway.Proofs.Accounting
import FareGateway.Proofs.RouteHistory
import Mathlib.Data.List.Forall2

/-!
# What a search hears

A search hears the answers that come in time, and of all others only that they
are late.  Two searches that hear the same from the same table come to the same
report, the same names and the same routes, in whatever order and at whatever
moments the answers arrive.  What a late provider has to say is heard by nobody,
neither while the search waits nor afterwards.
-/

namespace FareGateway

def successesAmong (timeout : Nat) (providers : List (String × Provider)) :
    List (String × SearchResults) :=
  providers.filterMap fun entry => match outcomeOf timeout entry with
    | .ok results => some (entry.1, results)
    | .error _ => none

def outcomesAmong (timeout : Nat) (providers : List (String × Provider)) :
    List (String × Except Diagnostic.Cause SearchResults) :=
  providers.map fun entry => (entry.1, outcomeOf timeout entry)

def successes (found : List (String × Except Diagnostic.Cause SearchResults)) :
    List (String × SearchResults) :=
  found.filterMap fun entry => match entry.2 with
    | .ok results => some (entry.1, results)
    | .error _ => none

def failures (found : List (String × Except Diagnostic.Cause SearchResults)) :
    List Diagnostic :=
  found.filterMap fun entry => match entry.2 with
    | .ok _ => none
    | .error cause => some ⟨entry.1, cause⟩

/-- What a search answers that finds this from a table, and the table after it. -/
def reportOn (table : Correlation.Table)
    (found : List (String × Except Diagnostic.Cause SearchResults)) :
    Except GatewayError SearchReport × Correlation.Table :=
  if found = [] then (.error .noProviders, table)
  else match firstRepeated? [] (found.map Prod.fst) with
    | some id => (.error (.registry (.duplicate id)), table)
    | none =>
        if successes found = [] then (.error (.noResults (failures found)), table)
        else
          let merging := mergeResults table (successes found)
          (.ok ⟨.merged, merging.1.results, merging.1.origins, failures found⟩, merging.2)

section

variable {timeout : Nat} {providers others : List (String × Provider)}

theorem successesAmong_eq_successes (timeout : Nat) (providers : List (String × Provider)) :
    successesAmong timeout providers = successes (outcomesAmong timeout providers) := by
  rw [successes, outcomesAmong, List.filterMap_map]
  rfl

theorem failuresAmong_eq_failures (timeout : Nat) (providers : List (String × Provider)) :
    failuresAmong timeout providers = failures (outcomesAmong timeout providers) := by
  rw [failures, outcomesAmong, List.filterMap_map]
  rfl

end

def Provider.replying (reply : Reply SearchResults) : Provider where
  search := { next := reply }
  price := { next := .lacking "pricing" }

/-- What an event does to routes, whenever it does it. -/
def RouteEvent.change (event : RouteEvent) : String × Option Route :=
  (event.key, event.route)

namespace Gateway

theorem answers_eq_successesAmong (gateway : Gateway) (participants : List Participant)
    (timeout : Nat) :
    gateway.answers participants timeout =
      successesAmong timeout (gateway.resolve participants) := by
  rw [answers, outcomes, inquiries, answeredIn, successesAmong, List.map_map,
    List.filterMap_map]
  refine List.filterMap_congr fun entry _ => ?_
  change Awaited.answer? ⟨_, some (outcomeOf timeout entry)⟩ = _
  cases outcomeOf timeout entry <;> rfl

section

variable {first second : Gateway} {participants others : List Participant}
  {timeout : Nat}

theorem searchAmong_eq_reportOn (gateway : Gateway) (request : SearchRequest)
    (participants : List Participant) (timeout : Nat) :
    let step := gateway.searchAmong request participants timeout
    (step.result, step.gateway.table) =
      reportOn gateway.table (outcomesAmong timeout (gateway.resolve participants)) := by
  intro step
  have hids : (outcomesAmong timeout (gateway.resolve participants)).map Prod.fst =
      (gateway.resolve participants).map Prod.fst := by
    rw [outcomesAmong, List.map_map]
    rfl
  have hsuccesses : successes (outcomesAmong timeout (gateway.resolve participants)) =
      gateway.answers participants timeout := by
    rw [answers_eq_successesAmong, successesAmong_eq_successes]
  have hfailures : failures (outcomesAmong timeout (gateway.resolve participants)) =
      diagnosticsIn (gateway.outcomes participants timeout) := by
    rw [diagnosticsIn_outcomes, failuresAmong_eq_failures]
  by_cases hsome : gateway.resolve participants = []
  · simp only [step, searchAmong_of_resolve_eq_nil request timeout hsome, reportOn, hsome]
    rfl
  have hfound : outcomesAmong timeout (gateway.resolve participants) ≠ [] := by
    simpa [outcomesAmong] using hsome
  simp only [reportOn, hfound, if_false, hids, hsuccesses, hfailures]
  cases hrepeated : firstRepeated? [] ((gateway.resolve participants).map Prod.fst) with
  | some id => simp only [step, searchAmong_of_repeated request timeout hrepeated]
  | none =>
      by_cases hanswered : gateway.answers participants timeout = []
      · have hstep := searchAmong_of_nobody request timeout hsome hrepeated hanswered
        exact (Prod.ext hstep.1 hstep.2).trans (if_pos hanswered).symm
      · have hstep := searchAmong_of_answered request timeout hsome hrepeated hanswered
        exact (Prod.ext hstep.1 hstep.2).trans (if_neg hanswered).symm

end

end Gateway

end FareGateway
