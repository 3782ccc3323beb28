import FareGateway.Proofs.Merging
import FareGateway.Proofs.Stages

/-!
# The history of routes

A route is written when an offer is merged or priced or when somebody puts it
there by hand, and it is removed only by hand.  The list of these events, each
with its time, is the history of a run.  What a look-up finds is settled by the
last event of its key alone: the route that it wrote, for as long as routes live.
Nothing else that happens in between shortens or prolongs that life.
-/

namespace FareGateway

/-- What was done to the route of a key, and when.  No route stands for a
removal. -/
structure RouteEvent where
  time : Nat
  key : String
  route : Option Route
  deriving DecidableEq, Repr

namespace RouteEvent

def last? (events : List RouteEvent) (key : String) : Option RouteEvent :=
  (events.filter fun event => decide (event.key = key)).getLast?

def liveRoute? (event : RouteEvent) (ttl now : Nat) : Option Route :=
  if now - event.time < ttl then event.route else none

theorem last?_append (first second : List RouteEvent) (key : String) :
    last? (first ++ second) key = (last? second key).or (last? first key) := by
  rw [last?, List.filter_append, List.getLast?_append]
  rfl

theorem last?_map {α : Type} (eventOf : α → RouteEvent) (items : List α) (key : String) :
    last? (items.map eventOf) key =
      (items.reverse.find? fun item => decide ((eventOf item).key = key)).map eventOf := by
  rw [last?, List.filter_map, List.getLast?_map, ← List.head?_reverse,
    ← List.filter_reverse, List.head?_filter]
  rfl

theorem key_of_last?_eq_some {events : List RouteEvent} {key : String}
    {event : RouteEvent} (h : last? events key = some event) : event.key = key := by
  have hmem := List.mem_of_getLast? h
  simpa using (List.mem_filter.mp hmem).2

end RouteEvent

namespace Gateway

/-! ## What every action does to routes -/

/-- The events of a search: every merged offer gets its route when the search
ends. -/
def searchEvents (step : Step SearchReport) (answered : List (String × SearchResults)) :
    List RouteEvent :=
  match step.result with
  | .error _ => []
  | .ok _ => (offerRoutes step.gateway.table answered).map fun entry =>
      ⟨step.gateway.now, entry.1, some entry.2⟩

/-- The event of a pricing: the priced offer gets a route to the provider that
was asked. -/
def pricingEvents (gateway : Gateway) (key : String) (step : Step PricedOffer) :
    List RouteEvent :=
  match step.result, (gateway.locate key).1 with
  | .ok priced, .ok (route, provider) =>
      match provider.replyPrice.1.answer with
      | .success native =>
          [⟨step.gateway.now, priced.offerId, some ⟨route.provider, native.offerId⟩⟩]
      | _ => []
  | _, _ => []

def routeEvents (gateway : Gateway) : Action → List RouteEvent
  | .search request =>
      searchEvents (gateway.search request)
        (gateway.answers (gateway.registry.ids.map .registered)
          gateway.settings.searchTimeoutMs.toNat)
  | .searchAmong request participants timeout =>
      searchEvents (gateway.searchAmong request participants timeout)
        (gateway.answers participants timeout)
  | .price key request => gateway.pricingEvents key (gateway.price key request)
  | .putRoute key route => [⟨gateway.now, key, some route⟩]
  | .removeRoute key => [⟨gateway.now, key, none⟩]
  | _ => []

def after (gateway : Gateway) (actions : List Action) : Gateway :=
  actions.foldl (fun gateway action => (gateway.perform action).gateway) gateway

/-- What every action of a run keeps, the run keeps. -/
theorem after_induction {p : Gateway → Prop} {gateway : Gateway} {actions : List Action}
    (hperform : ∀ current, p current → ∀ action ∈ actions, p (current.perform action).gateway)
    (h : p gateway) : p (gateway.after actions) :=
  List.foldlRecOn actions _ h hperform

def history (gateway : Gateway) : List Action → List RouteEvent
  | [] => []
  | action :: actions =>
      gateway.routeEvents action ++ (gateway.perform action).gateway.history actions

def storedRoutes (gateway : Gateway) : List RouteEvent :=
  gateway.routes.cache.entries.entries.map fun entry =>
    ⟨entry.2.storedAt, entry.1, some entry.2.value⟩

/-! ## Events tell what look-ups find -/

/-- From one state of a gateway to a later one, the events are all that has been
done to routes. -/
structure Writes (before : Gateway) (events : List RouteEvent) (after : Gateway) :
    Prop where
  ttl_eq : after.routes.cache.ttl = before.routes.cache.ttl
  now_le : before.now ≤ after.now
  routeAt_eq : ∀ {now}, after.now ≤ now → ∀ key,
    after.routeAt now key =
      match RouteEvent.last? events key with
      | none => before.routeAt now key
      | some event => event.liveRoute? before.routes.cache.ttl now

namespace Writes

theorem of_idles {before after : Gateway} (h : Idles before after) :
    Writes before [] after where
  ttl_eq := h.ttl_eq
  now_le := h.now_le
  routeAt_eq hnow key := h.routeAt_eq hnow key

theorem of_routes_eq {before after : Gateway} (hroutes : after.routes = before.routes)
    (hnow : after.now = before.now) : Writes before [] after where
  ttl_eq := by rw [hroutes]
  now_le := Nat.le_of_eq hnow.symm
  routeAt_eq _ key := by
    simp only [routeAt, hroutes]
    rfl

theorem trans {first second third : Gateway} {events more : List RouteEvent}
    (h : Writes first events second) (h' : Writes second more third) :
    Writes first (events ++ more) third where
  ttl_eq := h'.ttl_eq.trans h.ttl_eq
  now_le := Nat.le_trans h.now_le h'.now_le
  routeAt_eq hnow key := by
    rw [h'.routeAt_eq hnow key, RouteEvent.last?_append, h.ttl_eq]
    cases RouteEvent.last? more key with
    | none => exact h.routeAt_eq (Nat.le_trans h'.now_le hnow) key
    | some event => rfl

end Writes

theorem writes_putRoute (gateway : Gateway) (key : String) (route : Route) :
    Writes gateway [⟨gateway.now, key, some route⟩] (gateway.putRoute key route) where
  ttl_eq := rfl
  now_le := Nat.le_refl _
  routeAt_eq {now} _ other := by
    change (gateway.routes.cache.put gateway.now key route).peek? now other = _
    rw [TimedCache.peek?_put]
    by_cases h : key = other
    · simp [RouteEvent.last?, RouteEvent.liveRoute?, h]
    · simp [RouteEvent.last?, routeAt, h]

theorem writes_removeRoute (gateway : Gateway) (key : String) :
    Writes gateway [⟨gateway.now, key, none⟩] (gateway.removeRoute key).2 where
  ttl_eq := rfl
  now_le := Nat.le_refl _
  routeAt_eq {now} _ other := by
    change (gateway.routes.cache.remove gateway.now key).2.peek? now other = _
    rw [TimedCache.peek?_remove]
    by_cases h : key = other
    · simp [RouteEvent.last?, RouteEvent.liveRoute?, h]
    · simp [RouteEvent.last?, routeAt, h, Ne.symm h]

theorem writes_putRoutes (gateway : Gateway) (routes : List (String × Route)) :
    Writes gateway (routes.map fun entry => ⟨gateway.now, entry.1, some entry.2⟩)
      (gateway.putRoutes routes) := by
  induction routes generalizing gateway with
  | nil => exact .of_idles (Idles.refl gateway)
  | cons entry routes ih =>
      exact (gateway.writes_putRoute entry.1 entry.2).trans
        (ih (gateway.putRoute entry.1 entry.2))

theorem writes_keepPriced (gateway : Gateway) (route : Route) (native : PricedOffer) :
    Writes gateway
      [⟨gateway.now, (gateway.keepPriced route native).1.offerId,
        some ⟨route.provider, native.offerId⟩⟩]
      (gateway.keepPriced route native).2 := by
  have hnamed : Writes gateway []
      (gateway.onTable (native.correlated route.provider)).2 :=
    .of_routes_eq rfl rfl
  exact hnamed.trans (writes_putRoute _ _ _)

theorem writes_keepMerged (gateway : Gateway)
    (answered : List (String × SearchResults)) :
    Writes gateway
      ((offerRoutes (gateway.keepMerged answered).table answered).map fun entry =>
        ⟨gateway.now, entry.1, some entry.2⟩)
      (gateway.keepMerged answered) := by
  have hnamed : Writes gateway []
      { gateway with table := (mergeResults gateway.table answered).2 } :=
    .of_routes_eq rfl rfl
  have hroutes : (mergeResults gateway.table answered).1.routes =
      offerRoutes (mergeResults gateway.table answered).2 answered := by
    rw [mergeResults_fst]
    rfl
  rw [table_keepMerged, ← hroutes]
  exact hnamed.trans (writes_putRoutes _ _)

theorem writes_waitThen {α : Type} {act : Gateway → α × Gateway}
    (events : Gateway → List RouteEvent)
    (hnow : ∀ gateway, (act gateway).2.now = gateway.now)
    (hact : ∀ gateway, Writes gateway (events gateway) (act gateway).2)
    (gateway : Gateway) (ms : Nat) :
    Writes gateway (events (gateway.momentAfter ms)) (gateway.waitThen ms act).2 := by
  have hbefore := Writes.of_idles (gateway.idles_momentAfter ms)
  have hafter := Writes.of_idles (gateway.idles_waitThen ms act hnow)
  simpa using (hbefore.trans (hact _)).trans hafter

/-! ## Every action does what its events say -/

theorem writes_asking (gateway : Gateway) (key id : String) (asked : Provider) :
    Writes gateway [] (gateway.asking key id asked) := by
  have hasked : Writes (gateway.getRoute key).2 [] (gateway.asking key id asked) :=
    .of_routes_eq rfl rfl
  exact (Writes.of_idles (gateway.idles_getRoute key)).trans hasked

theorem writes_receive {α β : Type} {accept : α → Gateway → β × Gateway}
    {events : Gateway → List RouteEvent} {outcome : Except GatewayError α}
    (hok : ∀ value, outcome = .ok value → ∀ gateway,
      Writes gateway (events gateway) (accept value gateway).2)
    (herror : ∀ error, outcome = .error error → ∀ gateway, events gateway = [])
    (gateway : Gateway) : Writes gateway (events gateway) (receive outcome accept gateway).2 := by
  cases h : outcome with
  | error error =>
      rw [herror error h gateway]
      exact .of_idles (Idles.refl gateway)
  | ok value => exact hok value h gateway

/-- A call whose answer is only handed on leaves routes alone. -/
theorem writes_consult {α β : Type} {call : String → Call}
    {ask : Provider → Reply α × Provider} {accept : Route → α → Gateway → β × Gateway}
    (hnow : ∀ route value gateway, (accept route value gateway).2.now = gateway.now)
    (hroutes : ∀ route value gateway,
      (accept route value gateway).2.routes = gateway.routes)
    (gateway : Gateway) (key : String) :
    Writes gateway [] (gateway.consult key call ask accept).gateway := by
  cases hroute : gateway.routeAt gateway.now key with
  | none =>
      rw [consult_of_unknown call ask accept hroute]
      exact .of_idles (gateway.idles_getRoute key)
  | some route =>
      cases hprovider : gateway.registry.get? route.provider with
      | none =>
          rw [consult_of_unregistered call ask accept hroute hprovider]
          exact .of_idles (gateway.idles_getRoute key)
      | some provider =>
          rw [consult_of_located call ask accept hroute hprovider]
          refine (gateway.writes_asking key route.provider (ask provider).2).trans ?_
          refine writes_waitThen (fun _ => []) ?_ ?_ _ _
          · exact receive_snd_eq Gateway.now (hnow route) _
          · refine writes_receive ?_ ?_
            · intro value _ gateway
              exact .of_routes_eq (hroutes route value gateway) (hnow route value gateway)
            · intro _ _ _
              rfl

theorem writes_price (gateway : Gateway) (key : String) (request : PriceRequest) :
    Writes gateway (gateway.pricingEvents key (gateway.price key request))
      (gateway.price key request).gateway := by
  rw [price_eq_consult]
  cases hroute : gateway.routeAt gateway.now key with
  | none =>
      rw [consult_of_unknown _ _ _ hroute]
      exact .of_idles (gateway.idles_getRoute key)
  | some route =>
  cases hprovider : gateway.registry.get? route.provider with
  | none =>
      rw [consult_of_unregistered _ _ _ hroute hprovider]
      exact .of_idles (gateway.idles_getRoute key)
  | some provider =>
      have hasked := gateway.writes_asking key route.provider provider.replyPrice.2
      rw [consult_of_located _ _ _ hroute hprovider]
      simp only [pricingEvents, locate_of_located hroute hprovider]
      cases houtcome : provider.replyPrice.1.outcome route.provider
          gateway.settings.followUpTimeoutMs.toNat with
      | error error =>
          simp only [waitThen_fst, receive]
          refine hasked.trans (writes_waitThen (fun _ => []) ?_ ?_ _ _)
          · intro _
            rfl
          · intro gateway
            exact .of_idles (Idles.refl gateway)
      | ok native =>
          have hanswer := (Reply.outcome_eq_ok_iff.mp houtcome).2
          simp only [waitThen_fst, receive, hanswer]
          rw [now_waitThen _ _ _ (fun _ => rfl), ← now_momentAfter]
          refine hasked.trans (writes_waitThen (fun gateway =>
            [⟨gateway.now, (gateway.keepPriced route native).1.offerId,
              some ⟨route.provider, native.offerId⟩⟩]) ?_ ?_ _ _)
          · intro _
            rfl
          · intro gateway
            exact gateway.writes_keepPriced route native

theorem writes_searchAmong (gateway : Gateway) (request : SearchRequest)
    (participants : List Participant) (timeout : Nat) :
    Writes gateway
      (searchEvents (gateway.searchAmong request participants timeout)
        (gateway.answers participants timeout))
      (gateway.searchAmong request participants timeout).gateway := by
  by_cases hsome : gateway.resolve participants = []
  · rw [searchAmong_of_resolve_eq_nil request timeout hsome]
    exact .of_idles (Idles.refl gateway)
  cases hrepeated : firstRepeated? [] ((gateway.resolve participants).map Prod.fst) with
  | some id =>
      rw [searchAmong_of_repeated request timeout hrepeated]
      exact .of_idles (Idles.refl gateway)
  | none =>
      have hreplied : Writes gateway [] (gateway.afterReplies participants) :=
        .of_routes_eq rfl rfl
      have hwaited := hreplied.trans (.of_idles (idles_mergeMoment _
        (gateway.inquiries participants) timeout))
      have hidles := idles_collect (gateway.afterReplies participants)
        (gateway.inquiries participants) timeout
      have hended := Writes.of_idles hidles
      rw [searchAmong_of_distinct request timeout hsome hrepeated]
      simp only [searchEvents, collect_fst, now_collect, hidles.table_eq]
      by_cases hanswered : answeredIn ((gateway.inquiries participants).map
          (Awaited.settled timeout)) = []
      · rw [mergeAnswers_of_nobody hanswered] at hended ⊢
        exact hwaited.trans hended
      · rw [mergeAnswers_of_answered hanswered] at hended ⊢
        simpa [answers, outcomes] using (hwaited.trans (writes_keepMerged _ _)).trans hended

theorem writes_perform (gateway : Gateway) (action : Action) :
    Writes gateway (gateway.routeEvents action) (gateway.perform action).gateway := by
  cases action with
  | search request => exact gateway.writes_searchAmong request _ _
  | searchAmong request participants timeout =>
      exact gateway.writes_searchAmong request participants timeout
  | price key request => exact gateway.writes_price key request
  | seatMap key =>
      exact gateway.writes_consult (fun _ _ _ => rfl) (fun _ _ _ => rfl) key
  | order key request =>
      exact gateway.writes_consult (fun _ _ _ => rfl) (fun _ _ _ => rfl) key
  | originOf key => exact .of_idles (Idles.refl gateway)
  | keyOf nativeKey => exact .of_routes_eq rfl rfl
  | resetNames => exact .of_routes_eq rfl rfl
  | replaceNames pairs => exact .of_routes_eq rfl rfl
  | putRoute key route => exact gateway.writes_putRoute key route
  | getRoute key => exact .of_idles (gateway.idles_getRoute key)
  | removeRoute key => exact gateway.writes_removeRoute key
  | routeCount => exact .of_idles gateway.idles_routeCount
  | startSweeping => exact .of_idles gateway.idles_startSweeping
  | wait ms => exact .of_idles (gateway.idles_wait ms)
  | rebuild providers settings => exact .of_routes_eq rfl rfl

theorem writes_after (gateway : Gateway) (actions : List Action) :
    Writes gateway (gateway.history actions) (gateway.after actions) := by
  induction actions generalizing gateway with
  | nil => exact .of_idles (Idles.refl gateway)
  | cons action actions ih =>
      exact (gateway.writes_perform action).trans (ih (gateway.perform action).gateway)

/-! ## The routes that are there at the start -/

private theorem last?_stored {entries : List (String × Stamped Route)}
    (h : (entries.map Prod.fst).Nodup) (key : String) :
    RouteEvent.last? (entries.map fun entry =>
        ⟨entry.2.storedAt, entry.1, some entry.2.value⟩) key =
      (Entries.get? key entries).map fun stored =>
        ⟨stored.storedAt, key, some stored.value⟩ := by
  induction entries with
  | nil => rfl
  | cons entry entries ih =>
      rw [List.map_cons, List.nodup_cons] at h
      have hcons := RouteEvent.last?_append
        [⟨entry.2.storedAt, entry.1, some entry.2.value⟩]
        (entries.map fun entry => ⟨entry.2.storedAt, entry.1, some entry.2.value⟩) key
      rw [List.singleton_append, ih h.2] at hcons
      rw [List.map_cons, hcons]
      by_cases hkey : entry.1 = key
      · have hnone : Entries.get? key entries = none :=
          Entries.get?_eq_none_iff.mpr (hkey ▸ h.1)
        simp [RouteEvent.last?, Entries.get?, hkey, hnone]
      · simp [RouteEvent.last?, Entries.get?, hkey]

/-- What a look-up finds after a run is settled by the last event of the key. -/
theorem routeAt_after (gateway : Gateway) (actions : List Action) {now : Nat}
    (hnow : (gateway.after actions).now ≤ now) (key : String) :
    (gateway.after actions).routeAt now key =
      (RouteEvent.last? (gateway.storedRoutes ++ gateway.history actions) key).bind
        fun event => event.liveRoute? gateway.routes.cache.ttl now := by
  rw [(gateway.writes_after actions).routeAt_eq hnow key, RouteEvent.last?_append]
  cases RouteEvent.last? (gateway.history actions) key with
  | some event => rfl
  | none =>
      rw [storedRoutes, last?_stored gateway.routes.cache.entries.nodup_keys]
      change TimedCache.peek? _ now key = _
      rw [TimedCache.peek?, Dict.get?]
      cases Entries.get? key gateway.routes.cache.entries.entries with
      | none => rfl
      | some stored =>
          by_cases hlive : now - stored.storedAt < gateway.routes.cache.ttl
          · simp [RouteEvent.liveRoute?, TimedCache.isExpired, hlive, Nat.not_le.mpr hlive]
          · simp [RouteEvent.liveRoute?, TimedCache.isExpired, hlive, Nat.not_lt.mp hlive]

end Gateway

end FareGateway
