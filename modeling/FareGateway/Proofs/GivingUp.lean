import FareGateway.Proofs.Accounting
import FareGateway.Proofs.CallCourses
import FareGateway.Proofs.Routing

/-!
# Giving up on calls

What is recorded of the calls of an action is what the courses of these calls end in,
in whatever order the parties get their turns.  A token is cancelled just when the
gateway gives up, and then the response says so.  But only a provider that is searched
gets to see its token: of a call on an offer nobody is left to look when the token is
cancelled.
-/

namespace FareGateway

/-- A call that is made, with what is settled about it beforehand. -/
structure MadeCall where
  provider : String
  call : Call
  plan : CallPlan
  deriving DecidableEq, Repr

def Reply.plan {α : Type} (reply : Reply α) (detached : Bool) : CallPlan :=
  ⟨detached, reply.delay, reply.ignoresCancel⟩

def Call.isSearch : Call → Bool
  | .search _ => true
  | _ => false

/-- What one can see of a call afterwards. -/
def MadeCall.observed (made : MadeCall) (state : CallState) : CallRecord where
  provider := made.provider
  call := made.call
  cancelled := state.cancelled
  noticed := decide (state.provider = .noticed)

/-- What is to be expected of a call. -/
def MadeCall.expected (timeout : Nat) (made : MadeCall) : CallRecord where
  provider := made.provider
  call := made.call
  cancelled := !made.plan.isInTime timeout
  noticed := made.plan.detached && !made.plan.isInTime timeout && made.plan.heeds

theorem MadeCall.observed_of_settled {made : MadeCall} {timeout : Nat} {state : CallState}
    (h : made.plan.Settled timeout state) : made.observed state = made.expected timeout := by
  have hnoticed : decide (state.provider = .noticed) =
      (made.plan.detached && !made.plan.isInTime timeout && made.plan.heeds) := by
    rw [Bool.eq_iff_iff, decide_eq_true_iff, h.noticed_iff]
    simp [and_assoc]
  simp only [observed, expected, h.cancelled_eq, hnoticed]

theorem zipWith_observed {timeout : Nat} {made : List MadeCall}
    {calls : List (CallPlan × CallState)}
    (hplans : calls.map Prod.fst = made.map MadeCall.plan)
    (hsettled : ∀ call ∈ calls, call.1.Settled timeout call.2) :
    List.zipWith MadeCall.observed made (calls.map Prod.snd) =
      made.map (MadeCall.expected timeout) := by
  induction made generalizing calls with
  | nil => rfl
  | cons first made ih =>
      cases calls with
      | nil => cases hplans
      | cons call calls =>
          rw [List.map_cons, List.map_cons, List.cons.injEq] at hplans
          rw [List.forall_mem_cons, hplans.1] at hsettled
          rw [List.map_cons, List.zipWith_cons_cons, List.map_cons,
            MadeCall.observed_of_settled hsettled.1, ih hplans.2 hsettled.2]

def timedOutIn (diagnostics : List Diagnostic) : List String :=
  diagnostics.filterMap fun diagnostic => match diagnostic.cause with
    | .timedOut _ => some diagnostic.provider
    | .error _ => none

def GatewayError.gaveUpOn : GatewayError → List String
  | .noResults causes => timedOutIn causes
  | .timedOut id _ => [id]
  | _ => []

/-- The providers on which the gateway gave up, as it says itself. -/
def Response.gaveUpOn : Response → List String
  | .report (.ok found) => timedOutIn found.diagnostics
  | response => (response.failure?.map GatewayError.gaveUpOn).getD []

namespace Gateway

/-! ## The calls of an action -/

def searchCalls (gateway : Gateway) (request : SearchRequest)
    (participants : List Participant) : List MadeCall :=
  match firstRepeated? [] ((gateway.resolve participants).map Prod.fst) with
  | some _ => []
  | none => (gateway.inquiries participants).map fun inquiry =>
      ⟨inquiry.provider, .search request, inquiry.reply.plan true⟩

def offerCalls {α : Type} (gateway : Gateway) (key : String) (call : String → Call)
    (ask : Provider → Reply α × Provider) : List MadeCall :=
  match (gateway.locate key).1 with
  | .error _ => []
  | .ok (route, provider) =>
      [⟨route.provider, call route.nativeOfferId, (ask provider).1.plan false⟩]

def callsMade (gateway : Gateway) : Action → List MadeCall
  | .search request =>
      gateway.searchCalls request (gateway.registry.ids.map .registered)
  | .searchAmong request participants _ => gateway.searchCalls request participants
  | .price key request => gateway.offerCalls key (.price · request) Provider.replyPrice
  | .seatMap key => gateway.offerCalls key .seatMap Provider.replySeatMap
  | .order key request => gateway.offerCalls key (.order · request) Provider.replyOrder
  | _ => []

def timeAllowed (gateway : Gateway) : Action → Nat
  | .search _ => gateway.settings.searchTimeoutMs.toNat
  | .searchAmong _ _ timeout => timeout
  | _ => gateway.settings.followUpTimeoutMs.toNat

/-! ## Searches -/

theorem record_eq_expected (request : SearchRequest) (timeout : Nat) (inquiry : Inquiry) :
    inquiry.record request timeout =
      MadeCall.expected timeout
        ⟨inquiry.provider, .search request, inquiry.reply.plan true⟩ := by
  have hlate : inquiry.isLate timeout =
      !(inquiry.reply.plan true).isInTime timeout := by
    rw [Inquiry.isLate, CallPlan.isInTime, Reply.plan, Bool.eq_iff_iff]
    simp
  rw [Inquiry.record, MadeCall.expected, hlate]
  simp only [Reply.plan, CallPlan.heeds, Bool.true_and, Bool.and_assoc]
  rfl

theorem calls_searchAmong (gateway : Gateway) (request : SearchRequest)
    (participants : List Participant) (timeout : Nat) :
    (gateway.searchAmong request participants timeout).calls =
      (gateway.searchCalls request participants).map (MadeCall.expected timeout) := by
  unfold searchCalls
  cases hrepeated : firstRepeated? [] ((gateway.resolve participants).map Prod.fst) with
  | some id => rw [searchAmong_of_repeated request timeout hrepeated, List.map_nil]
  | none =>
      by_cases hsome : gateway.resolve participants = []
      · rw [searchAmong_of_resolve_eq_nil request timeout hsome]
        simp [inquiries, hsome]
      · rw [searchAmong_of_distinct request timeout hsome hrepeated, List.map_map]
        exact List.map_congr_left fun inquiry _ => record_eq_expected request timeout inquiry

theorem failuresAmong_cons_of_ok {timeout : Nat} {entry : String × Provider}
    {results : SearchResults} (h : outcomeOf timeout entry = .ok results)
    (providers : List (String × Provider)) :
    failuresAmong timeout (entry :: providers) = failuresAmong timeout providers := by
  rw [failuresAmong, List.filterMap_cons_none (by rw [h])]
  rfl

theorem failuresAmong_cons_of_error {timeout : Nat} {entry : String × Provider}
    {cause : Diagnostic.Cause} (h : outcomeOf timeout entry = .error cause)
    (providers : List (String × Provider)) :
    failuresAmong timeout (entry :: providers) =
      ⟨entry.1, cause⟩ :: failuresAmong timeout providers := by
  rw [failuresAmong, List.filterMap_cons_some (by rw [h])]
  rfl

theorem timedOutIn_failuresAmong (request : SearchRequest) (timeout : Nat)
    (providers : List (String × Provider)) :
    timedOutIn (failuresAmong timeout providers) =
      ((providers.map fun entry => Inquiry.record request timeout
        ⟨entry.1, entry.2.replySearch.1⟩).filter CallRecord.cancelled).map
          CallRecord.provider := by
  induction providers with
  | nil => rfl
  | cons entry providers ih =>
      rw [List.map_cons]
      by_cases hlate : timeout ≤ entry.2.replySearch.1.delay
      · have hout : outcomeOf timeout entry = .error (.timedOut timeout) :=
          Inquiry.outcome_of_late hlate
        rw [failuresAmong_cons_of_error hout, List.filter_cons_of_pos (by
          simp [Inquiry.record, Inquiry.isLate, hlate]), List.map_cons, ← ih]
        rfl
      · have hout : outcomeOf timeout entry =
            (entry.2.replySearch.1.answer.result entry.1).mapError .error :=
          Inquiry.outcome_of_in_time (Nat.not_le.mp hlate)
        rw [List.filter_cons_of_neg (by simp [Inquiry.record, Inquiry.isLate, hlate]), ← ih]
        cases hanswer : entry.2.replySearch.1.answer.result entry.1 with
        | ok results =>
            rw [hanswer] at hout
            exact congrArg timedOutIn (failuresAmong_cons_of_ok hout providers)
        | error error =>
            rw [hanswer] at hout
            rw [failuresAmong_cons_of_error hout]
            rfl

theorem gaveUpOn_searchAmong (gateway : Gateway) (request : SearchRequest)
    (participants : List Participant) (timeout : Nat) :
    let step := gateway.searchAmong request participants timeout
    (Response.report step.result).gaveUpOn =
      (step.calls.filter CallRecord.cancelled).map CallRecord.provider := by
  intro step
  by_cases hsome : gateway.resolve participants = []
  · simp only [step, searchAmong_of_resolve_eq_nil request timeout hsome]
    rfl
  cases hrepeated : firstRepeated? [] ((gateway.resolve participants).map Prod.fst) with
  | some id =>
      simp only [step, searchAmong_of_repeated request timeout hrepeated]
      rfl
  | none =>
      have hcalls : step.calls =
          (gateway.resolve participants).map fun entry => Inquiry.record request timeout
            ⟨entry.1, entry.2.replySearch.1⟩ := by
        simp only [step, searchAmong_of_distinct request timeout hsome hrepeated, inquiries,
          List.map_map]
        rfl
      rw [hcalls, ← timedOutIn_failuresAmong, ← diagnosticsIn_outcomes]
      by_cases hanswered : gateway.answers participants timeout = []
      · simp only [step,
          (searchAmong_of_nobody request timeout hsome hrepeated hanswered).1]
        rfl
      · simp only [step,
          (searchAmong_of_answered request timeout hsome hrepeated hanswered).1]
        rfl

/-! ## Calls on an offer -/

section

variable {α β : Type} (gateway : Gateway) (key : String) (call : String → Call)
  (ask : Provider → Reply α × Provider) (accept : Route → α → Gateway → β × Gateway)

theorem calls_consult :
    (gateway.consult key call ask accept).calls =
      (gateway.offerCalls key call ask).map
        (MadeCall.expected gateway.settings.followUpTimeoutMs.toNat) := by
  unfold offerCalls
  cases hroute : gateway.routeAt gateway.now key with
  | none =>
      rw [consult_of_unknown call ask accept hroute, locate_of_unknown hroute]
      rfl
  | some route =>
      cases hprovider : gateway.registry.get? route.provider with
      | none =>
          rw [consult_of_unregistered call ask accept hroute hprovider,
            locate_of_unregistered hroute hprovider]
          rfl
      | some provider =>
          rw [consult_of_located call ask accept hroute hprovider,
            locate_of_located hroute hprovider]
          rfl

theorem gaveUpOn_consult (response : Except GatewayError β → Response)
    (hok : ∀ value, (response (.ok value)).gaveUpOn = [])
    (herror : ∀ error, (response (.error error)).gaveUpOn = error.gaveUpOn) :
    let step := gateway.consult key call ask accept
    (response step.result).gaveUpOn =
      (step.calls.filter CallRecord.cancelled).map CallRecord.provider := by
  intro step
  cases hroute : gateway.routeAt gateway.now key with
  | none =>
      simp only [step, consult_of_unknown call ask accept hroute]
      exact herror _
  | some route =>
  cases hprovider : gateway.registry.get? route.provider with
  | none =>
      simp only [step, consult_of_unregistered call ask accept hroute hprovider]
      exact herror _
  | some provider =>
      simp only [step, consult_of_located call ask accept hroute hprovider, waitThen_fst]
      cases hintime : (ask provider).1.isInTime gateway.settings.followUpTimeoutMs.toNat with
      | false =>
          simp only [Reply.outcome, hintime, receive]
          exact herror _
      | true =>
          simp only [Reply.outcome, hintime, if_true]
          cases (ask provider).1.answer.result route.provider with
          | ok value => exact hok _
          | error error => exact herror _

end

/-! ## All actions -/

variable (gateway : Gateway) (action : Action)

theorem calls_perform :
    (gateway.perform action).calls =
      (gateway.callsMade action).map (MadeCall.expected (gateway.timeAllowed action)) := by
  cases action with
  | search request => exact gateway.calls_searchAmong request _ _
  | searchAmong request participants timeout =>
      exact gateway.calls_searchAmong request participants timeout
  | price key request => exact gateway.calls_consult key _ _ _
  | seatMap key => exact gateway.calls_consult key _ _ _
  | order key request => exact gateway.calls_consult key _ _ _
  | _ => rfl

theorem gaveUpOn_perform :
    (gateway.perform action).response.gaveUpOn =
      ((gateway.perform action).calls.filter CallRecord.cancelled).map
        CallRecord.provider := by
  cases action with
  | search request => exact gateway.gaveUpOn_searchAmong request _ _
  | searchAmong request participants timeout =>
      exact gateway.gaveUpOn_searchAmong request participants timeout
  | price key request =>
      exact gateway.gaveUpOn_consult key _ _ _ .priced (fun _ => rfl) (fun _ => rfl)
  | seatMap key =>
      exact gateway.gaveUpOn_consult key _ _ _ .seats (fun _ => rfl) (fun _ => rfl)
  | order key request =>
      exact gateway.gaveUpOn_consult key _ _ _ .ordered (fun _ => rfl) (fun _ => rfl)
  | _ => rfl

theorem detached_of_mem_searchCalls {request : SearchRequest}
    {participants : List Participant} {made : MadeCall}
    (h : made ∈ gateway.searchCalls request participants) :
    made.plan.detached = made.call.isSearch := by
  unfold searchCalls at h
  split at h
  · cases h
  · obtain ⟨inquiry, -, rfl⟩ := List.mem_map.mp h
    rfl

theorem detached_of_mem_offerCalls {α : Type} (key : String) (call : String → Call)
    (ask : Provider → Reply α × Provider) (hcall : ∀ id, (call id).isSearch = false)
    {made : MadeCall} (h : made ∈ gateway.offerCalls key call ask) :
    made.plan.detached = made.call.isSearch := by
  unfold offerCalls at h
  split at h
  · cases h
  · obtain rfl := List.mem_singleton.mp h
    exact (hcall _).symm

theorem detached_of_mem_callsMade {made : MadeCall} (h : made ∈ gateway.callsMade action) :
    made.plan.detached = made.call.isSearch := by
  cases action with
  | search request => exact gateway.detached_of_mem_searchCalls h
  | searchAmong request participants timeout => exact gateway.detached_of_mem_searchCalls h
  | price key request =>
      exact gateway.detached_of_mem_offerCalls key (.price · request) Provider.replyPrice
        (fun _ => rfl) h
  | seatMap key =>
      exact gateway.detached_of_mem_offerCalls key .seatMap Provider.replySeatMap
        (fun _ => rfl) h
  | order key request =>
      exact gateway.detached_of_mem_offerCalls key (.order · request) Provider.replyOrder
        (fun _ => rfl) h
  | _ => cases h

/-- However the calls of an action go, they end in what is recorded of them.  A token is
cancelled only after the gateway has given up, and whenever it has, and the response
names just the providers on which it has.  A searched provider that looks at its token
notices just when the gateway gives up on it.  The provider of an offer never notices:
just when the gateway gives up on it, its part of the call has been dropped. -/
theorem only_searched_providers_notice :
    let performed := gateway.perform action
    let timeout := gateway.timeAllowed action
    let made := gateway.callsMade action
    let plans := made.map MadeCall.plan
    (∀ call ∈ made, call.plan.detached = call.call.isSearch) ∧
    (∃ final, CallsAt.Run timeout plans final ∧ final.IsOver timeout) ∧
    (∀ current, CallsAt.Run timeout plans current → ∀ call ∈ current.calls,
      call.2.cancelled = true → call.2.gateway = .gaveUp) ∧
    (∀ final, CallsAt.Run timeout plans final → final.IsOver timeout →
      performed.calls = List.zipWith MadeCall.observed made (final.calls.map Prod.snd) ∧
      ∀ call ∈ final.calls,
        (call.2.gateway = .gaveUp ↔ call.1.isInTime timeout = false) ∧
        (call.2.gateway = .gaveUp ↔ call.2.cancelled = true) ∧
        (call.1.detached = true → call.1.heeds = true →
          (call.2.provider = .noticed ↔ call.2.gateway = .gaveUp)) ∧
        (call.1.detached = false → call.2.provider ≠ .noticed ∧
          (call.2.provider = .dropped ↔ call.2.gateway = .gaveUp))) ∧
    performed.response.gaveUpOn =
      (performed.calls.filter CallRecord.cancelled).map CallRecord.provider ∧
    ∀ record ∈ performed.calls, record.call.isSearch = false → record.noticed = false := by
  intro performed timeout made plans
  refine ⟨?_, CallsAt.exists_run_isOver timeout plans, ?_, ?_,
    gateway.gaveUpOn_perform action, ?_⟩
  · intro call hcall
    exact gateway.detached_of_mem_callsMade action hcall
  · intro current hrun call hcall hcancelled
    exact (hrun.standing call hcall).gaveUp_of_cancelled hcancelled
  · intro final hrun hover
    have hsettled := hrun.settled hover
    constructor
    · rw [zipWith_observed hrun.plans_eq hsettled]
      exact gateway.calls_perform action
    · intro call hcall
      have hend := hsettled call hcall
      have hgaveUp : call.2.gateway = .gaveUp ↔ call.1.isInTime timeout = false := by
        rw [hend.gateway_eq]
        cases call.1.isInTime timeout <;> simp
      refine ⟨hgaveUp, ?_, ?_, ?_⟩
      · rw [hgaveUp, hend.cancelled_eq, Bool.not_eq_true']
      · intro hdetached hheeds
        rw [hgaveUp, hend.noticed_iff]
        simp only [hdetached, hheeds, and_true, true_and]
      · intro hown
        rw [hgaveUp, hend.dropped_iff, ne_eq, hend.noticed_iff]
        simp [hown]
  · intro record hrecord hcall
    rw [show performed.calls = _ from gateway.calls_perform action] at hrecord
    obtain ⟨call, hmade, rfl⟩ := List.mem_map.mp hrecord
    have hdetached : call.plan.detached = false :=
      (gateway.detached_of_mem_callsMade action hmade).trans hcall
    rw [MadeCall.expected, hdetached]
    rfl

/-- A provider that would stop if it were told is late with a price and is not told,
although it would be in a search. -/
theorem late_pricing_is_not_noticed :
    let late {α : Type} (answer : Answer α) : Reply α := { delay := 5, answer }
    let provider : Provider := {
      search := { next := late (.failure "closed") }
      price := { next := late (.failure "closed") } }
    let registry := (Registry.empty.registerAll [("a", provider)]).2
    let gateway := (Gateway.new registry { searchTimeoutMs := 3, followUpTimeoutMs := 3 }
      (.empty (.numbered "k"))).putRoute "k0" ⟨"a", "x"⟩
    let price := Action.price "k0" default
    let search := Action.search default
    (gateway.callsMade price).map (fun made => made.plan.heeds) = [true] ∧
      (gateway.perform price).response.gaveUpOn = ["a"] ∧
      (gateway.perform price).calls.map (fun record => (record.cancelled, record.noticed)) =
        [(true, false)] ∧
      (gateway.perform search).calls.map
        (fun record => (record.cancelled, record.noticed)) = [(true, true)] := by
  decide +kernel

end Gateway

end FareGateway
