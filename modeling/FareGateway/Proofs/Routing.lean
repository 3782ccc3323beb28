import FareGateway.Proofs.RouteHistory

/-!
# Where a call on an offer goes

A call on an offer goes to the provider of the last route that was written for
the key, provided that this route has not been removed and is still alive, and
it goes nowhere else.  Whatever does not touch a key leaves its last event what
it was.
-/

namespace FareGateway

inductive FollowUp where
  | price (request : PriceRequest)
  | seatMap
  | order (request : OrderRequest)
  deriving DecidableEq, Repr

namespace FollowUp

def action (followUp : FollowUp) (key : String) : Action :=
  match followUp with
  | .price request => .price key request
  | .seatMap => .seatMap key
  | .order request => .order key request

def call (followUp : FollowUp) (nativeOfferId : String) : Call :=
  match followUp with
  | .price request => .price nativeOfferId request
  | .seatMap => .seatMap nativeOfferId
  | .order request => .order nativeOfferId request

def asked (followUp : FollowUp) (provider : Provider) : Provider :=
  match followUp with
  | .price _ => provider.replyPrice.2
  | .seatMap => provider.replySeatMap.2
  | .order _ => provider.replyOrder.2

end FollowUp

def Response.failure? : Response → Option GatewayError
  | .report (.error error) => some error
  | .priced (.error error) => some error
  | .seats (.error error) => some error
  | .ordered (.error error) => some error
  | _ => none

/-- The keys whose routes an action with this response has written or removed. -/
def Action.touched (action : Action) (response : Response) : List String :=
  match action, response with
  | .putRoute key _, _ => [key]
  | .removeRoute key, _ => [key]
  | _, .report (.ok report) => report.results.offers.keys
  | _, .priced (.ok priced) => [priced.offerId]
  | _, _ => []

namespace Performed

/-- A call that ends with an error before anybody is asked. -/
structure IsRefusal (performed : Performed) (before : Gateway) (error : GatewayError) :
    Prop where
  calls_eq : performed.calls = []
  failure_eq : performed.response.failure? = some error
  registry_eq : performed.gateway.registry = before.registry

/-- A call that asks one provider, once, about the offer at the end of a route. -/
structure Asks (performed : Performed) (before : Gateway) (followUp : FollowUp)
    (route : Route) (provider : Provider) : Prop where
  calls_eq : ∃ record, performed.calls = [record] ∧ record.provider = route.provider ∧
    record.call = followUp.call route.nativeOfferId
  registry_eq : performed.gateway.registry =
    before.registry.update route.provider (followUp.asked provider)

end Performed

namespace Gateway

/-! ## One call -/

/-- Calls on an offer differ only in what the provider is asked and in what is
done with its answer, and that leaves time and the registry alone. -/
theorem exists_perform_eq_consult (gateway : Gateway) (followUp : FollowUp)
    (key : String) :
    ∃ (α β : Type) (ask : Provider → Reply α × Provider)
      (accept : Route → α → Gateway → β × Gateway)
      (response : Except GatewayError β → Response),
      gateway.perform (followUp.action key) =
        (gateway.consult key followUp.call ask accept).performed response ∧
      (∀ provider, (ask provider).2 = followUp.asked provider) ∧
      (∀ route value gateway, (accept route value gateway).2.now = gateway.now) ∧
      (∀ route value gateway,
        (accept route value gateway).2.registry = gateway.registry) ∧
      ∀ error, (response (.error error)).failure? = some error := by
  cases followUp with
  | price request =>
      exact ⟨_, _, _, _, _, rfl, fun _ => rfl, fun _ _ _ => rfl, fun _ _ _ => rfl,
        fun _ => rfl⟩
  | seatMap =>
      exact ⟨_, _, _, _, _, rfl, fun _ => rfl, fun _ _ _ => rfl, fun _ _ _ => rfl,
        fun _ => rfl⟩
  | order request =>
      exact ⟨_, _, _, _, _, rfl, fun _ => rfl, fun _ _ _ => rfl, fun _ _ _ => rfl,
        fun _ => rfl⟩

section

variable {gateway : Gateway} {key : String} {route : Route} (followUp : FollowUp)

theorem perform_of_unknown (h : gateway.routeAt gateway.now key = none) :
    (gateway.perform (followUp.action key)).IsRefusal gateway (.unknownOffer key) := by
  obtain ⟨α, β, ask, accept, response, hperform, -, -, -, hfailure⟩ :=
    gateway.exists_perform_eq_consult followUp key
  rw [hperform, consult_of_unknown _ _ _ h]
  exact ⟨rfl, hfailure _, (gateway.idles_getRoute key).registry_eq⟩

theorem perform_of_unregistered (h : gateway.routeAt gateway.now key = some route)
    (hprovider : gateway.registry.get? route.provider = none) :
    (gateway.perform (followUp.action key)).IsRefusal gateway
      (.notRegistered route.provider) := by
  obtain ⟨α, β, ask, accept, response, hperform, -, -, -, hfailure⟩ :=
    gateway.exists_perform_eq_consult followUp key
  rw [hperform, consult_of_unregistered _ _ _ h hprovider]
  exact ⟨rfl, hfailure _, (gateway.idles_getRoute key).registry_eq⟩

theorem perform_of_located {provider : Provider}
    (h : gateway.routeAt gateway.now key = some route)
    (hprovider : gateway.registry.get? route.provider = some provider) :
    (gateway.perform (followUp.action key)).Asks gateway followUp route provider := by
  obtain ⟨α, β, ask, accept, response, hperform, hasked, hnow, hregistry, -⟩ :=
    gateway.exists_perform_eq_consult followUp key
  rw [hperform, consult_of_located _ _ _ h hprovider]
  refine ⟨⟨_, rfl, rfl, rfl⟩, ?_⟩
  have hidles := idles_waitThen (gateway.asking key route.provider (ask provider).2)
    ((ask provider).1.waitMs gateway.settings.followUpTimeoutMs.toNat)
    (receive ((ask provider).1.outcome route.provider
      gateway.settings.followUpTimeoutMs.toNat) (accept route))
    (receive_snd_eq Gateway.now (hnow route) _)
  change (waitThen _ _ _).2.registry = _
  rw [hidles.registry_eq, receive_snd_eq Gateway.registry (hregistry route),
    (idles_momentAfter _ _).registry_eq, ← hasked]
  simp only [asking, (gateway.idles_getRoute key).registry_eq]

end

/-! ## The keys that an action touches -/

theorem key_mem_offerRoutes_iff (table : Correlation.Table)
    (answered : List (String × SearchResults)) (key : String) :
    key ∈ (offerRoutes (mergeResults table answered).2 answered).map Prod.fst ↔
      key ∈ (mergeResults table answered).1.results.offers.keys := by
  have hkeys := idsOf_joined (mergeResults table answered).2 answered .offer
  rw [mergeResults_fst]
  change _ ↔ key ∈ SearchResults.idsOf _ .offer
  rw [hkeys, List.mem_eraseDups, entitiesOf, offerRoutes, List.map_flatMap,
    List.map_flatMap]
  simp only [List.map_map]
  rfl

theorem key_mem_searchEvents_iff (gateway : Gateway) (request : SearchRequest)
    (participants : List Participant) (timeout : Nat) (key : String) :
    key ∈ (searchEvents (gateway.searchAmong request participants timeout)
        (gateway.answers participants timeout)).map RouteEvent.key ↔
      ∃ report, (gateway.searchAmong request participants timeout).result = .ok report ∧
        key ∈ report.results.offers.keys := by
  by_cases hsome : gateway.resolve participants = []
  · simp [searchAmong_of_resolve_eq_nil request timeout hsome, searchEvents]
  cases hrepeated : firstRepeated? [] ((gateway.resolve participants).map Prod.fst) with
  | some id => simp [searchAmong_of_repeated request timeout hrepeated, searchEvents]
  | none =>
      by_cases hanswered : gateway.answers participants timeout = []
      · have hnobody := searchAmong_of_nobody request timeout hsome hrepeated hanswered
        simp [searchEvents, hnobody.1]
      · obtain ⟨hresult, htable⟩ :=
          searchAmong_of_answered request timeout hsome hrepeated hanswered
        have hkeys := key_mem_offerRoutes_iff gateway.table
          (gateway.answers participants timeout) key
        simp only [searchEvents, hresult, htable, List.map_map, Function.comp_def,
          Except.ok.injEq, exists_eq_left', ← hkeys]

theorem key_mem_pricingEvents_iff (gateway : Gateway) (key : String)
    (request : PriceRequest) (other : String) :
    other ∈ (gateway.pricingEvents key (gateway.price key request)).map
        RouteEvent.key ↔
      ∃ priced, (gateway.price key request).result = .ok priced ∧
        other = priced.offerId := by
  rw [price_eq_consult]
  cases hroute : gateway.routeAt gateway.now key with
  | none => simp [consult_of_unknown _ _ _ hroute, pricingEvents]
  | some route =>
  cases hprovider : gateway.registry.get? route.provider with
  | none => simp [consult_of_unregistered _ _ _ hroute hprovider, pricingEvents]
  | some provider =>
      rw [consult_of_located _ _ _ hroute hprovider]
      simp only [pricingEvents, locate_of_located hroute hprovider, waitThen_fst]
      cases houtcome : provider.replyPrice.1.outcome route.provider
          gateway.settings.followUpTimeoutMs.toNat with
      | error error => simp [receive]
      | ok native =>
          have hanswer := (Reply.outcome_eq_ok_iff.mp houtcome).2
          simp [receive, hanswer]

theorem key_mem_routeEvents_iff (gateway : Gateway) (action : Action) (key : String) :
    key ∈ (gateway.routeEvents action).map RouteEvent.key ↔
      key ∈ action.touched (gateway.perform action).response := by
  cases action with
  | search request =>
      refine (key_mem_searchEvents_iff gateway request _ _ key).trans ?_
      simp only [perform, search, Step.performed]
      cases (gateway.searchAmong request (gateway.registry.ids.map .registered)
          gateway.settings.searchTimeoutMs.toNat).result with
      | error error => simp [Action.touched]
      | ok report => simp [Action.touched]
  | searchAmong request participants timeout =>
      refine (key_mem_searchEvents_iff gateway request _ _ key).trans ?_
      simp only [perform, Step.performed]
      cases (gateway.searchAmong request participants timeout).result with
      | error error => simp [Action.touched]
      | ok report => simp [Action.touched]
  | price offer request =>
      refine (key_mem_pricingEvents_iff gateway offer request key).trans ?_
      simp only [perform, Step.performed]
      cases (gateway.price offer request).result with
      | error error => simp [Action.touched]
      | ok priced => simp [Action.touched]
  | seatMap offer =>
      simp only [routeEvents, perform, Step.performed]
      simp [Action.touched]
  | order offer request =>
      simp only [routeEvents, perform, Step.performed]
      simp [Action.touched]
  | putRoute other route => simp [routeEvents, Action.touched]
  | removeRoute other => simp [routeEvents, Action.touched]
  | _ => simp [routeEvents, perform, Action.touched]

/-! ## Runs -/

theorem history_append (gateway : Gateway) (first second : List Action) :
    gateway.history (first ++ second) =
      gateway.history first ++ (gateway.after first).history second := by
  induction first generalizing gateway with
  | nil => rfl
  | cons action first ih =>
      change gateway.routeEvents action ++
        (gateway.perform action).gateway.history (first ++ second) = _
      rw [ih, ← List.append_assoc]
      rfl

def Touches (gateway : Gateway) (actions : List Action) (key : String) : Prop :=
  ∃ entry ∈ actions.zip (gateway.run actions), key ∈ entry.1.touched entry.2.response

theorem key_mem_history_iff (gateway : Gateway) (actions : List Action)
    (key : String) :
    key ∈ (gateway.history actions).map RouteEvent.key ↔ gateway.Touches actions key := by
  induction actions generalizing gateway with
  | nil => simp [history, Touches]
  | cons action actions ih =>
      rw [history, List.map_append, List.mem_append, ih, key_mem_routeEvents_iff]
      simp [Touches, run]

theorem last?_history_eq_none_iff (gateway : Gateway) (actions : List Action)
    (key : String) :
    RouteEvent.last? (gateway.history actions) key = none ↔
      ¬gateway.Touches actions key := by
  rw [← key_mem_history_iff, RouteEvent.last?, List.getLast?_eq_none_iff,
    List.filter_eq_nil_iff]
  simp

def lastRouteEvent? (gateway : Gateway) (actions : List Action) (key : String) :
    Option RouteEvent :=
  RouteEvent.last? (gateway.storedRoutes ++ gateway.history actions) key

theorem lastRouteEvent?_append {gateway : Gateway} {first second : List Action}
    {key : String} (h : ¬(gateway.after first).Touches second key) :
    gateway.lastRouteEvent? (first ++ second) key =
      gateway.lastRouteEvent? first key := by
  rw [← last?_history_eq_none_iff] at h
  rw [lastRouteEvent?, history_append, ← List.append_assoc, RouteEvent.last?_append, h]
  rfl

theorem calls_of_lastRouteEvent?_eq {gateway : Gateway} {actions : List Action}
    {key : String} {time : Nat} {route : Route}
    (h : gateway.lastRouteEvent? actions key = some ⟨time, key, some route⟩)
    (followUp : FollowUp) :
    ∀ record ∈ ((gateway.after actions).perform (followUp.action key)).calls,
      record.provider = route.provider ∧
        record.call = followUp.call route.nativeOfferId := by
  intro record hrecord
  have hroute := gateway.routeAt_after actions (Nat.le_refl _) key
  rw [← lastRouteEvent?, h, Option.bind_some, RouteEvent.liveRoute?] at hroute
  split at hroute
  · cases hprovider : (gateway.after actions).registry.get? route.provider with
    | none =>
        rw [(perform_of_unregistered followUp hroute hprovider).calls_eq] at hrecord
        cases hrecord
    | some provider =>
        obtain ⟨made, hcalls, hasked⟩ :=
          (perform_of_located followUp hroute hprovider).calls_eq
        rw [hcalls, List.mem_singleton] at hrecord
        rw [hrecord]
        exact hasked
  · rw [(perform_of_unknown followUp hroute).calls_eq] at hrecord
    cases hrecord

/-- After any run, a call on an offer goes just where the last event of its key
says, if that was a write and the route still lives.  Actions that do not touch
the key do not change what its last event is. -/
theorem followUp_goes_by_last_event (gateway : Gateway) (actions : List Action)
    (followUp : FollowUp) (key : String) :
    let current := gateway.after actions
    let performed := current.perform (followUp.action key)
    let ttl := gateway.routes.cache.ttl
    (∀ time route, gateway.lastRouteEvent? actions key = some ⟨time, key, some route⟩ →
      current.now - time < ttl →
        (∀ provider, current.registry.get? route.provider = some provider →
          performed.Asks current followUp route provider) ∧
        (current.registry.get? route.provider = none →
          performed.IsRefusal current (.notRegistered route.provider))) ∧
    ((∀ time route, gateway.lastRouteEvent? actions key = some ⟨time, key, some route⟩ →
        ttl ≤ current.now - time) →
      performed.IsRefusal current (.unknownOffer key)) ∧
    (∀ earlier quiet, actions = earlier ++ quiet →
      ¬(gateway.after earlier).Touches quiet key →
        gateway.lastRouteEvent? actions key = gateway.lastRouteEvent? earlier key) := by
  intro current performed ttl
  have hroute := gateway.routeAt_after actions (Nat.le_refl current.now) key
  change current.routeAt current.now key =
    (gateway.lastRouteEvent? actions key).bind (·.liveRoute? ttl current.now) at hroute
  refine ⟨?_, ?_, ?_⟩
  · intro time route hlast hlive
    have hfound : current.routeAt current.now key = some route := by
      simpa [hlast, RouteEvent.liveRoute?, hlive] using hroute
    constructor
    · intro provider hprovider
      exact perform_of_located followUp hfound hprovider
    · intro hnone
      exact perform_of_unregistered followUp hfound hnone
  · intro hdead
    apply perform_of_unknown
    rw [hroute]
    cases hlast : gateway.lastRouteEvent? actions key with
    | none => rfl
    | some event =>
        obtain ⟨time, other, route⟩ := event
        have hkey : other = key := RouteEvent.key_of_last?_eq_some hlast
        subst hkey
        cases route with
        | none => simp [RouteEvent.liveRoute?]
        | some route =>
            have hold := Nat.not_lt.mpr (hdead time route hlast)
            simp [RouteEvent.liveRoute?, hold]
  · rintro earlier quiet rfl hquiet
    exact lastRouteEvent?_append hquiet

end Gateway

end FareGateway
