import FareGateway.Proofs.Idling
import FareGateway.Proofs.Settling

/-!
# The stages of a call

A call on an offer and a search both go through fixed stages: the request is
refused, or providers are asked, the gateway idles until it has what it waits
for, acts once, and idles on.  For each way through the stages there is one
statement here of everything that the call does.
-/

namespace FareGateway

theorem Answer.mapError_result_eq_ok_iff {α ε : Type} {answer : Answer α}
    {provider : String} {wrap : CallError → ε} {value : α} :
    (answer.result provider).mapError wrap = .ok value ↔ answer = .success value := by
  constructor
  · intro h
    cases answer with
    | success other =>
        cases h
        rfl
    | failure cause => cases h
    | cancelled => cases h
    | unsupported operation => cases h
    | breakdown => cases h
  · rintro rfl
    rfl

theorem Reply.outcome_eq_ok_iff {α : Type} {reply : Reply α} {provider : String}
    {timeout : Nat} {value : α} :
    reply.outcome provider timeout = .ok value ↔
      reply.isInTime timeout = true ∧ reply.answer = .success value := by
  unfold Reply.outcome
  by_cases h : reply.isInTime timeout
  · simp [h, Answer.mapError_result_eq_ok_iff]
  · simp [h]

theorem firstRepeated?_eq_none_iff {seen ids : List String} :
    firstRepeated? seen ids = none ↔ ids.Nodup ∧ ∀ id ∈ ids, id ∉ seen := by
  induction ids generalizing seen with
  | nil => simp [firstRepeated?]
  | cons id ids ih =>
      by_cases h : id ∈ seen
      · simp [firstRepeated?, h]
      · simp only [firstRepeated?, h, if_false, ih, List.nodup_cons, List.mem_cons, not_or]
        constructor
        · rintro ⟨hnodup, hseen⟩
          refine ⟨⟨fun hmem => (hseen id hmem).1 rfl, hnodup⟩, ?_⟩
          rintro other (rfl | hother)
          · exact h
          · exact (hseen other hother).2
        · rintro ⟨⟨hnew, hnodup⟩, hseen⟩
          refine ⟨hnodup, fun other hother => ⟨?_, hseen other (.inr hother)⟩⟩
          rintro rfl
          exact hnew hother

theorem firstRepeated?_nil_eq_none_iff {ids : List String} :
    firstRepeated? [] ids = none ↔ ids.Nodup := by
  simp [firstRepeated?_eq_none_iff]

namespace Gateway

/-! ## Calls on an offer -/

section

variable {α β : Type} {gateway : Gateway} {key : String} {route : Route}
  {provider : Provider} (call : String → Call) (ask : Provider → Reply α × Provider)
  (accept : Route → α → Gateway → β × Gateway)

theorem locate_of_unknown (h : gateway.routeAt gateway.now key = none) :
    gateway.locate key = (.error (.unknownOffer key), (gateway.getRoute key).2) := by
  simp [locate, h]

theorem locate_of_unregistered (h : gateway.routeAt gateway.now key = some route)
    (hprovider : gateway.registry.get? route.provider = none) :
    gateway.locate key =
      (.error (.notRegistered route.provider), (gateway.getRoute key).2) := by
  rw [← (gateway.idles_getRoute key).registry_eq] at hprovider
  simp [locate, h, hprovider]

theorem locate_of_located (h : gateway.routeAt gateway.now key = some route)
    (hprovider : gateway.registry.get? route.provider = some provider) :
    gateway.locate key = (.ok (route, provider), (gateway.getRoute key).2) := by
  rw [← (gateway.idles_getRoute key).registry_eq] at hprovider
  simp [locate, h, hprovider]

theorem consult_of_unknown (h : gateway.routeAt gateway.now key = none) :
    gateway.consult key call ask accept =
      { result := .error (.unknownOffer key), gateway := (gateway.getRoute key).2 } := by
  rw [consult, locate_of_unknown h]

theorem consult_of_unregistered (h : gateway.routeAt gateway.now key = some route)
    (hprovider : gateway.registry.get? route.provider = none) :
    gateway.consult key call ask accept =
      { result := .error (.notRegistered route.provider)
        gateway := (gateway.getRoute key).2 } := by
  rw [consult, locate_of_unregistered h hprovider]

def asking (gateway : Gateway) (key id : String) (asked : Provider) : Gateway :=
  { (gateway.getRoute key).2 with
    registry := (gateway.getRoute key).2.registry.update id asked }

theorem consult_of_located (h : gateway.routeAt gateway.now key = some route)
    (hprovider : gateway.registry.get? route.provider = some provider) :
    gateway.consult key call ask accept =
      let timeout := gateway.settings.followUpTimeoutMs.toNat
      let reply := (ask provider).1
      let received := (gateway.asking key route.provider (ask provider).2).waitThen
        (reply.waitMs timeout)
        (receive (reply.outcome route.provider timeout) (accept route))
      { result := received.1
        calls := [{
          provider := route.provider
          call := call route.nativeOfferId
          cancelled := !reply.isInTime timeout
          noticed := false }]
        gateway := received.2 } := by
  rw [consult, locate_of_located h hprovider]
  rfl

def keepPriced (gateway : Gateway) (route : Route) (native : PricedOffer) :
    PricedOffer × Gateway :=
  let (priced, named) := gateway.onTable (native.correlated route.provider)
  (priced, named.putRoute priced.offerId ⟨route.provider, native.offerId⟩)

theorem price_eq_consult (gateway : Gateway) (key : String) (request : PriceRequest) :
    gateway.price key request =
      gateway.consult key (.price · request) Provider.replyPrice
        fun route native gateway => gateway.keepPriced route native :=
  rfl

/-- What no accepted answer changes, an error does not change either. -/
theorem receive_snd_eq {σ : Type} (view : Gateway → σ) {accept : α → Gateway → β × Gateway}
    (haccept : ∀ value gateway, view (accept value gateway).2 = view gateway)
    (outcome : Except GatewayError α) (gateway : Gateway) :
    view (receive outcome accept gateway).2 = view gateway := by
  cases outcome with
  | error error => rfl
  | ok value => exact haccept value gateway

/-- The moment at which a provider has answered or its time is up. -/
def answerMoment (gateway : Gateway) (key id : String) (asked : Reply α × Provider) :
    Gateway :=
  (gateway.asking key id asked.2).momentAfter
    (asked.1.waitMs gateway.settings.followUpTimeoutMs.toNat)

theorem table_answerMoment (gateway : Gateway) (key id : String)
    (asked : Reply α × Provider) : (gateway.answerMoment key id asked).table = gateway.table :=
  (idles_momentAfter _ _).table_eq

/-- What the provider of an offer answers in time, and the route to it. -/
def heard? (gateway : Gateway) (key : String) (ask : Provider → Reply α × Provider) :
    Option (Route × α) :=
  (gateway.routeAt gateway.now key).bind fun route =>
    (gateway.registry.get? route.provider).bind fun provider =>
      match (ask provider).1.outcome route.provider
          gateway.settings.followUpTimeoutMs.toNat with
      | .ok value => some (route, value)
      | .error _ => none

theorem heard?_eq_some_iff {ask : Provider → Reply α × Provider} {value : α} :
    gateway.heard? key ask = some (route, value) ↔
      gateway.routeAt gateway.now key = some route ∧
        ∃ provider, gateway.registry.get? route.provider = some provider ∧
          (ask provider).1.outcome route.provider
            gateway.settings.followUpTimeoutMs.toNat = .ok value := by
  simp only [heard?, Option.bind_eq_some_iff]
  constructor
  · rintro ⟨found, hfound, provider, hprovider, hvalue⟩
    cases houtcome : (ask provider).1.outcome found.provider
        gateway.settings.followUpTimeoutMs.toNat with
    | error error =>
        rw [houtcome] at hvalue
        cases hvalue
    | ok answer =>
        rw [houtcome] at hvalue
        cases hvalue
        exact ⟨hfound, provider, hprovider, houtcome⟩
  · rintro ⟨hroute, provider, hprovider, houtcome⟩
    exact ⟨route, hroute, provider, hprovider, by rw [houtcome]⟩

section

variable {ask}
  (haccept : ∀ route value gateway, (accept route value gateway).2.now = gateway.now)

include haccept

theorem consult_received (h : gateway.routeAt gateway.now key = some route)
    (hprovider : gateway.registry.get? route.provider = some provider) :
    let received := receive
      ((ask provider).1.outcome route.provider gateway.settings.followUpTimeoutMs.toNat)
      (accept route) (gateway.answerMoment key route.provider (ask provider))
    (gateway.consult key call ask accept).result = received.1 ∧
      Idles received.2 (gateway.consult key call ask accept).gateway := by
  rw [consult_of_located call ask accept h hprovider]
  exact ⟨waitThen_fst _ _ _, idles_waitThen _ _ _ (receive_snd_eq Gateway.now (haccept route) _)⟩

theorem consult_of_heard {value : α} (h : gateway.heard? key ask = some (route, value)) :
    ∃ moment, moment.table = gateway.table ∧
      (gateway.consult key call ask accept).result = .ok (accept route value moment).1 ∧
      Idles (accept route value moment).2 (gateway.consult key call ask accept).gateway := by
  obtain ⟨hroute, provider, hprovider, houtcome⟩ := heard?_eq_some_iff.mp h
  obtain ⟨hresult, hidles⟩ := consult_received call accept haccept hroute hprovider
  rw [houtcome] at hresult hidles
  exact ⟨_, table_answerMoment _ _ _ _, hresult, hidles⟩

theorem consult_of_not_heard (h : gateway.heard? key ask = none) :
    (∃ error, (gateway.consult key call ask accept).result = .error error) ∧
      (gateway.consult key call ask accept).gateway.table = gateway.table := by
  cases hroute : gateway.routeAt gateway.now key with
  | none =>
      rw [consult_of_unknown call ask accept hroute]
      exact ⟨⟨_, rfl⟩, (gateway.idles_getRoute key).table_eq⟩
  | some route =>
  cases hprovider : gateway.registry.get? route.provider with
  | none =>
      rw [consult_of_unregistered call ask accept hroute hprovider]
      exact ⟨⟨_, rfl⟩, (gateway.idles_getRoute key).table_eq⟩
  | some provider =>
      obtain ⟨hresult, hidles⟩ := consult_received call accept haccept hroute hprovider
      cases houtcome : (ask provider).1.outcome route.provider
          gateway.settings.followUpTimeoutMs.toNat with
      | error error =>
          rw [houtcome] at hresult hidles
          exact ⟨⟨error, hresult⟩, hidles.table_eq.trans (table_answerMoment _ _ _ _)⟩
      | ok value =>
          rw [heard?_eq_some_iff.mpr ⟨hroute, provider, hprovider, houtcome⟩] at h
          cases h

theorem table_consult_of_error {error : GatewayError}
    (herror : (gateway.consult key call ask accept).result = .error error) :
    (gateway.consult key call ask accept).gateway.table = gateway.table := by
  cases hheard : gateway.heard? key ask with
  | none => exact (consult_of_not_heard call accept haccept hheard).2
  | some heard =>
      obtain ⟨moment, -, hok, -⟩ := consult_of_heard call accept haccept hheard
      rw [hok] at herror
      cases herror

end

end

/-! ## Searches -/

def inquiries (gateway : Gateway) (participants : List Participant) : List Inquiry :=
  (gateway.resolve participants).map fun entry =>
    { provider := entry.1, reply := entry.2.replySearch.1 }

def outcomes (gateway : Gateway) (participants : List Participant) (timeout : Nat) :
    List Awaited :=
  (gateway.inquiries participants).map (Awaited.settled timeout)

/-- The results that a search gets in time, by their providers. -/
def answers (gateway : Gateway) (participants : List Participant) (timeout : Nat) :
    List (String × SearchResults) :=
  answeredIn (gateway.outcomes participants timeout)

theorem provider_inquiries (gateway : Gateway) (participants : List Participant) :
    (gateway.inquiries participants).map Inquiry.provider =
      (gateway.resolve participants).map Prod.fst := by
  rw [inquiries, List.map_map]
  rfl

def mergeMoment (gateway : Gateway) (inquiries : List Inquiry) (timeout : Nat) :
    Gateway :=
  let ms := (inquiries.map fun inquiry => inquiry.waitMs timeout).foldl max 0
  if inquiries.any fun inquiry => inquiry.isLate timeout then gateway.momentAfter ms
  else gateway.wait ms

theorem idles_mergeMoment (gateway : Gateway) (inquiries : List Inquiry)
    (timeout : Nat) : Idles gateway (gateway.mergeMoment inquiries timeout) := by
  unfold mergeMoment
  split
  · exact gateway.idles_momentAfter _
  · exact gateway.idles_wait _

theorem putRoutes_eq (gateway : Gateway) (routes : List (String × Route)) :
    gateway.putRoutes routes = { gateway with routes := (gateway.putRoutes routes).routes } := by
  induction routes generalizing gateway with
  | nil => rfl
  | cons entry routes ih => exact ih (gateway.putRoute entry.1 entry.2)

def keepMerged (gateway : Gateway) (answered : List (String × SearchResults)) : Gateway :=
  let merging := mergeResults gateway.table answered
  { gateway with table := merging.2 }.putRoutes merging.1.routes

theorem table_keepMerged (gateway : Gateway) (answered : List (String × SearchResults)) :
    (gateway.keepMerged answered).table = (mergeResults gateway.table answered).2 := by
  unfold keepMerged
  rw [putRoutes_eq]

theorem mergeAnswers_of_nobody {awaited : List Awaited} (h : answeredIn awaited = [])
    (gateway : Gateway) :
    mergeAnswers awaited gateway =
      (.error (.noResults (diagnosticsIn awaited)), gateway) := by
  simp [mergeAnswers, h]

theorem mergeAnswers_of_answered {awaited : List Awaited} (h : answeredIn awaited ≠ [])
    (gateway : Gateway) :
    mergeAnswers awaited gateway =
      let merged := (mergeResults gateway.table (answeredIn awaited)).1
      (.ok ⟨.merged, merged.results, merged.origins, diagnosticsIn awaited⟩,
        gateway.keepMerged (answeredIn awaited)) := by
  simp [mergeAnswers, keepMerged, h]

theorem mergeAnswers_snd_eq (awaited : List Awaited) (gateway : Gateway) :
    (mergeAnswers awaited gateway).2 =
      { gateway with
        table := (mergeAnswers awaited gateway).2.table
        routes := (mergeAnswers awaited gateway).2.routes } := by
  simp only [mergeAnswers]
  split
  · rfl
  · rw [putRoutes_eq]

theorem now_mergeAnswers (awaited : List Awaited) (gateway : Gateway) :
    (mergeAnswers awaited gateway).2.now = gateway.now := by
  rw [mergeAnswers_snd_eq]

theorem registry_mergeAnswers (awaited : List Awaited) (gateway : Gateway) :
    (mergeAnswers awaited gateway).2.registry = gateway.registry := by
  rw [mergeAnswers_snd_eq]

theorem collect_fst (gateway : Gateway) (inquiries : List Inquiry) (timeout : Nat) :
    (gateway.collect inquiries timeout).1 =
      (mergeAnswers (inquiries.map (Awaited.settled timeout))
        (gateway.mergeMoment inquiries timeout)).1 := by
  unfold collect mergeMoment
  simp only [collected_eq]
  split
  · exact gateway.waitThen_fst _ _
  · rfl

theorem idles_collect (gateway : Gateway) (inquiries : List Inquiry) (timeout : Nat) :
    Idles (mergeAnswers (inquiries.map (Awaited.settled timeout))
        (gateway.mergeMoment inquiries timeout)).2
      (gateway.collect inquiries timeout).2 := by
  unfold collect mergeMoment
  simp only [collected_eq]
  split
  · exact gateway.idles_waitThen _ _ (now_mergeAnswers _)
  · exact Idles.refl _

theorem now_collect (gateway : Gateway) (inquiries : List Inquiry) (timeout : Nat) :
    (gateway.collect inquiries timeout).2.now =
      (gateway.mergeMoment inquiries timeout).now := by
  unfold collect mergeMoment
  simp only [collected_eq]
  split
  · rw [gateway.now_waitThen _ _ (now_mergeAnswers _), now_momentAfter]
  · exact now_mergeAnswers _ _

variable {gateway : Gateway} {participants : List Participant}
  (request : SearchRequest) (timeout : Nat)

theorem searchAmong_of_resolve_eq_nil (h : gateway.resolve participants = []) :
    gateway.searchAmong request participants timeout =
      { result := .error .noProviders, gateway } := by
  simp [searchAmong, h]

theorem searchAmong_of_repeated {id : String}
    (h : firstRepeated? [] ((gateway.resolve participants).map Prod.fst) = some id) :
    gateway.searchAmong request participants timeout =
      { result := .error (.registry (.duplicate id)), gateway } := by
  have hsome : gateway.resolve participants ≠ [] := by
    intro hnil
    simp [hnil, firstRepeated?] at h
  simp [searchAmong, hsome, h]

theorem searchAmong_of_distinct (hsome : gateway.resolve participants ≠ [])
    (h : firstRepeated? [] ((gateway.resolve participants).map Prod.fst) = none) :
    gateway.searchAmong request participants timeout =
      let collected := (gateway.afterReplies participants).collect
        (gateway.inquiries participants) timeout
      { result := collected.1
        calls := (gateway.inquiries participants).map (Inquiry.record request timeout)
        gateway := collected.2 } := by
  simp [searchAmong, hsome, h, inquiries]

theorem table_mergeMoment (gateway : Gateway) (participants : List Participant)
    (timeout : Nat) :
    ((gateway.afterReplies participants).mergeMoment (gateway.inquiries participants)
      timeout).table = gateway.table :=
  (idles_mergeMoment _ _ _).table_eq

theorem searchAmong_of_nobody (hsome : gateway.resolve participants ≠ [])
    (h : firstRepeated? [] ((gateway.resolve participants).map Prod.fst) = none)
    (hnobody : gateway.answers participants timeout = []) :
    let step := gateway.searchAmong request participants timeout
    step.result = .error (.noResults
        (diagnosticsIn (gateway.outcomes participants timeout))) ∧
      step.gateway.table = gateway.table := by
  unfold answers outcomes at hnobody
  rw [searchAmong_of_distinct request timeout hsome h]
  simp only [collect_fst, (idles_collect _ _ _).table_eq, mergeAnswers_of_nobody hnobody,
    table_mergeMoment, and_true]
  rfl

theorem searchAmong_of_answered (hsome : gateway.resolve participants ≠ [])
    (h : firstRepeated? [] ((gateway.resolve participants).map Prod.fst) = none)
    (hanswered : gateway.answers participants timeout ≠ []) :
    let step := gateway.searchAmong request participants timeout
    let merging := mergeResults gateway.table (gateway.answers participants timeout)
    step.result = .ok ⟨.merged, merging.1.results, merging.1.origins,
        diagnosticsIn (gateway.outcomes participants timeout)⟩ ∧
      step.gateway.table = merging.2 := by
  unfold answers outcomes at hanswered
  rw [searchAmong_of_distinct request timeout hsome h]
  simp only [collect_fst, (idles_collect _ _ _).table_eq,
    mergeAnswers_of_answered hanswered, table_keepMerged, table_mergeMoment]
  exact ⟨rfl, rfl⟩

theorem searchAmong_eq_ok {report : SearchReport}
    (hok : (gateway.searchAmong request participants timeout).result = .ok report) :
    let merging := mergeResults gateway.table (gateway.answers participants timeout)
    ((gateway.resolve participants).map Prod.fst).Nodup ∧
      report = ⟨.merged, merging.1.results, merging.1.origins,
        diagnosticsIn (gateway.outcomes participants timeout)⟩ ∧
      (gateway.searchAmong request participants timeout).gateway.table = merging.2 := by
  by_cases hsome : gateway.resolve participants = []
  · rw [searchAmong_of_resolve_eq_nil request timeout hsome] at hok
    cases hok
  cases hrepeated : firstRepeated? [] ((gateway.resolve participants).map Prod.fst) with
  | some id =>
      rw [searchAmong_of_repeated request timeout hrepeated] at hok
      cases hok
  | none =>
      by_cases hanswered : gateway.answers participants timeout = []
      · have hnobody := searchAmong_of_nobody request timeout hsome hrepeated hanswered
        rw [hnobody.1] at hok
        cases hok
      · have hmerged := searchAmong_of_answered request timeout hsome hrepeated hanswered
        rw [hmerged.1, Except.ok.injEq] at hok
        exact ⟨firstRepeated?_nil_eq_none_iff.mp hrepeated, hok.symm, hmerged.2⟩

theorem table_searchAmong_of_error {error : GatewayError}
    (herror : (gateway.searchAmong request participants timeout).result = .error error) :
    (gateway.searchAmong request participants timeout).gateway.table = gateway.table := by
  by_cases hsome : gateway.resolve participants = []
  · rw [searchAmong_of_resolve_eq_nil request timeout hsome]
  cases hrepeated : firstRepeated? [] ((gateway.resolve participants).map Prod.fst) with
  | some id => rw [searchAmong_of_repeated request timeout hrepeated]
  | none =>
      by_cases hanswered : gateway.answers participants timeout = []
      · exact (searchAmong_of_nobody request timeout hsome hrepeated hanswered).2
      · have hmerged := searchAmong_of_answered request timeout hsome hrepeated hanswered
        rw [hmerged.1] at herror
        cases herror

theorem map_fst_answers_sublist (gateway : Gateway) (participants : List Participant)
    (timeout : Nat) :
    ((gateway.answers participants timeout).map Prod.fst).Sublist
      ((gateway.resolve participants).map Prod.fst) := by
  rw [← provider_inquiries, answers, outcomes]
  induction gateway.inquiries participants with
  | nil => exact List.Sublist.slnil
  | cons inquiry inquiries ih =>
      rw [List.map_cons, answeredIn]
      cases houtcome : inquiry.outcome timeout with
      | error cause =>
          have hnone : (Awaited.settled timeout inquiry).answer? = none := by
            simp [Awaited.answer?, Awaited.settled, houtcome]
          rw [List.filterMap_cons_none hnone]
          exact ih.cons inquiry.provider
      | ok results =>
          have hsome : (Awaited.settled timeout inquiry).answer? =
              some (inquiry.provider, results) := by
            simp [Awaited.answer?, Awaited.settled, houtcome]
          rw [List.filterMap_cons_some hsome]
          exact ih.cons_cons inquiry.provider

end Gateway

end FareGateway
