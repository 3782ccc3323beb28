import FareGateway.Proofs.Origins

/-!
# Handed-out keys

Keys of offers are handed out in responses, and what is handed out is what routes are
written for.  Forgetting all names leaves the routes, so an offer can still be called
by the key that it had.  But from then on the table no longer knows which keys have
been handed out: a source that repeats itself can give such a key to another offer,
and the route of that offer takes the place of the old one.
-/

namespace FareGateway

/-! ## Drawing keys -/

def KeySource.Yields (source : KeySource) (start stop : Nat) (key : String) : Prop :=
  ∃ n, start ≤ n ∧ n < stop ∧ source.key n = key

theorem KeySource.Yields.widen {source other : KeySource} {start first stop last : Nat}
    {key : String} (h : other.Yields start stop key) (hkey : other.key = source.key)
    (hstart : first ≤ start) (hstop : stop ≤ last) : source.Yields first last key := by
  obtain ⟨n, hle, hlt, hn⟩ := h
  rw [hkey] at hn
  exact ⟨n, Nat.le_trans hstart hle, Nat.lt_of_lt_of_le hlt hstop, hn⟩

namespace Correlation.Table

theorem replace_nil (table : Table) : table.replace [] = empty table.source := by
  have hlisting : listing [] = [] := List.mergeSort_nil
  rw [replace, hlisting]
  rfl

/-- Whatever key the later table has, the earlier one has or has drawn since. -/
structure DrawsOn (before after : Table) : Prop where
  key_eq : after.source.key = before.source.key
  position_le : before.source.position ≤ after.source.position
  drawn : ∀ key ∈ after.reverse.keys, key ∈ before.reverse.keys ∨
    before.source.Yields before.source.position after.source.position key

namespace DrawsOn

theorem refl (table : Table) : table.DrawsOn table where
  key_eq := rfl
  position_le := Nat.le_refl _
  drawn _ hkey := .inl hkey

theorem trans {first second third : Table} (h : first.DrawsOn second)
    (h' : second.DrawsOn third) : first.DrawsOn third where
  key_eq := h'.key_eq.trans h.key_eq
  position_le := Nat.le_trans h.position_le h'.position_le
  drawn key hkey := by
    rcases h'.drawn key hkey with hsecond | hyields
    · rcases h.drawn key hsecond with hfirst | hyields
      · exact .inl hfirst
      · exact .inr (hyields.widen rfl (Nat.le_refl _) h'.position_le)
    · exact .inr (hyields.widen h.key_eq h.position_le (Nat.le_refl _))

theorem keyOf (table : Table) (nativeKey : String) :
    table.DrawsOn (table.keyOf nativeKey).2 := by
  cases hforward : table.forward.get? nativeKey with
  | some key =>
      rw [keyOf_of_get? hforward]
      exact .refl table
  | none =>
      have hle := table.source.position_le_freshPosition table.reverse.keys
      rw [keyOf_of_get?_eq_none hforward]
      refine ⟨rfl, Nat.le_succ_of_le hle, ?_⟩
      intro key hkey
      simp only [link, Dict.keys_insert] at hkey
      split at hkey
      · exact .inl hkey
      · rcases List.mem_append.mp hkey with hold | hnew
        · exact .inl hold
        · exact .inr ⟨_, hle, Nat.lt_succ_self _, (List.mem_singleton.mp hnew).symm⟩

theorem nameAll (table : Table) (nativeKeys : List String) :
    table.DrawsOn (table.nameAll nativeKeys) := by
  induction nativeKeys generalizing table with
  | nil => exact .refl table
  | cons nativeKey nativeKeys ih => exact (keyOf table nativeKey).trans (ih _)

theorem empty (table : Table) : table.DrawsOn (.empty table.source) where
  key_eq := rfl
  position_le := Nat.le_refl _
  drawn _ hkey := nomatch hkey

end DrawsOn

/-- The source neither repeats itself from now on nor has a key of the table. -/
structure NeverRepeats (table : Table) : Prop where
  injective : ∀ m n, table.source.position ≤ m → table.source.position ≤ n →
    table.source.key m = table.source.key n → m = n
  avoids : ∀ n, table.source.position ≤ n → table.source.key n ∉ table.reverse.keys

theorem NeverRepeats.mono {before after : Table} (h : before.NeverRepeats)
    (hdraws : before.DrawsOn after) : after.NeverRepeats where
  injective m n hm hn hsame := by
    rw [hdraws.key_eq] at hsame
    exact h.injective m n (Nat.le_trans hdraws.position_le hm)
      (Nat.le_trans hdraws.position_le hn) hsame
  avoids n hn hmem := by
    have hbefore := Nat.le_trans hdraws.position_le hn
    rw [hdraws.key_eq] at hmem
    rcases hdraws.drawn _ hmem with hold | ⟨m, hm, hlt, hsame⟩
    · exact h.avoids n hbefore hold
    · have hmn := h.injective m n hm hbefore hsame
      omega

end Correlation.Table

/-- An action that changes names and routes only by the way, or that forgets all
names at once. -/
def Action.Deals : Action → Prop
  | .resetNames => True
  | .removeRoute _ => False
  | action => action.Ordinary

theorem Action.Deals.eq_or_ordinary {action : Action} (h : action.Deals) :
    action = .resetNames ∨ action.Ordinary := by
  cases action with
  | resetNames => exact .inl rfl
  | removeRoute key => exact absurd h id
  | _ => exact .inr h

namespace Gateway

variable {gateway : Gateway} {action : Action}

theorem table_resetNames (gateway : Gateway) :
    (gateway.perform .resetNames).gateway.table = .empty gateway.table.source :=
  gateway.table.replace_nil

theorem drawsOn_perform (gateway : Gateway) (h : action.Deals) :
    gateway.table.DrawsOn (gateway.perform action).gateway.table := by
  rcases h.eq_or_ordinary with rfl | hordinary
  · rw [table_resetNames]
    exact .empty gateway.table
  · obtain ⟨nativeKeys, htable⟩ := gateway.exists_nameAll_perform hordinary.keepsNames
    rw [htable]
    exact .nameAll gateway.table nativeKeys

theorem drawsOn_after (gateway : Gateway) {actions : List Action}
    (h : ∀ action ∈ actions, action.Deals) :
    gateway.table.DrawsOn (gateway.after actions).table :=
  after_induction (p := fun current => gateway.table.DrawsOn current.table)
    (fun current hdraws action hmem =>
      hdraws.trans (current.drawsOn_perform (h action hmem))) (.refl _)

/-- What a gateway keeps up, whatever it deals in and however often it forgets. -/
structure Dealing (gateway : Gateway) : Prop where
  oneToOne : gateway.table.OneToOne
  plain : gateway.HasPlainIds

theorem Dealing.perform (h : gateway.Dealing) (hdeals : action.Deals) :
    (gateway.perform action).gateway.Dealing := by
  rcases hdeals.eq_or_ordinary with rfl | hordinary
  · refine ⟨?_, h.plain⟩
    rw [table_resetNames]
    exact Correlation.Table.oneToOne_empty _
  · exact ⟨oneToOne_perform h.oneToOne hordinary.keepsNames, h.plain.perform hordinary⟩

theorem Dealing.after (h : gateway.Dealing) {actions : List Action}
    (hdeals : ∀ action ∈ actions, action.Deals) : (gateway.after actions).Dealing :=
  after_induction (fun _ h action hmem => h.perform (hdeals action hmem)) h

/-! ## Handing out keys -/

/-- The keys at which a response shows offers, each with the offer that a provider told
of in that place. -/
def handOuts (gateway : Gateway) (action : Action) : List (String × Route) :=
  ((gateway.perform action).response.shown.zip (gateway.sources action)).filterMap
    fun place =>
      if place.1.1 = .offer then some (place.1.2, ⟨place.2.provider, place.2.nativeId⟩)
      else none

/-- What a run hands out, each time at the end of the action. -/
def handedOut (gateway : Gateway) : List Action → List RouteEvent
  | [] => []
  | action :: actions =>
      let next := (gateway.perform action).gateway
      (gateway.handOuts action).map (fun handOut =>
        ⟨next.now, handOut.1, some handOut.2⟩) ++ next.handedOut actions

def offerIn? (table : Correlation.Table) (origin : Origin) : Option (String × Route) :=
  if origin.kind = .offer then
    some (table.nameOf origin, ⟨origin.provider, origin.nativeId⟩)
  else none

theorem handOuts_eq (h : gateway.Dealing) (hordinary : action.Ordinary) :
    gateway.handOuts action =
      (gateway.sources action).filterMap
        (offerIn? (gateway.perform action).gateway.table) := by
  let table := (gateway.perform action).gateway.table
  have hzip : ((gateway.sources action).map (Origin.shownIn table)).zip
      ((gateway.sources action).map id) =
        (gateway.sources action).map fun origin => (origin.shownIn table, origin) :=
    List.zip_map'
  rw [List.map_id] at hzip
  rw [handOuts, shown_perform h.oneToOne h.plain hordinary, hzip, List.filterMap_map]
  rfl

theorem filterMap_offerIn?_mentions (table : Correlation.Table) (provider : String)
    (offer : Offer) : (offer.mentions provider).filterMap (offerIn? table) = [] := by
  simp [Offer.mentions, offerIn?, List.filterMap_append, List.filterMap_map,
    Function.comp_def]

theorem filterMap_offerIn?_toldAs (table : Correlation.Table)
    (answered : List (String × SearchResults)) (kind : EntityKind) :
    (toldAs answered kind).filterMap (offerIn? table) =
      if kind = .offer then offerRoutes table answered else [] := by
  rw [toldAs, List.filterMap_flatMap]
  cases kind with
  | segment | pricePlan | itinerary =>
      simp [SearchResults.shownAs, offerIn?, List.filterMap_map, List.filterMap_flatMap,
        Function.comp_def]
  | offer =>
      rw [if_pos rfl, offerRoutes]
      refine List.flatMap_congr fun entry _ => ?_
      rw [SearchResults.shownAs, List.map_flatMap, List.filterMap_flatMap,
        SearchResults.idsOf, Dict.keys, List.map_map, List.map_eq_flatMap]
      refine List.flatMap_congr fun offer _ => ?_
      rw [List.map_cons, ← Offer.mentions_eq, List.filterMap_cons,
        filterMap_offerIn?_mentions]
      rfl

theorem searchEvents_eq (step : Step SearchReport)
    (answered : List (String × SearchResults)) :
    searchEvents step answered =
      ((searchSources step answered).filterMap (offerIn? step.gateway.table)).map
        fun handOut => ⟨step.gateway.now, handOut.1, some handOut.2⟩ := by
  cases hresult : step.result with
  | error error => simp [searchEvents, searchSources, hresult]
  | ok report =>
      simp only [searchEvents, searchSources, hresult, List.filterMap_flatMap,
        filterMap_offerIn?_toldAs]
      simp [shownKinds]

theorem routeEvents_eq_handOuts (h : gateway.Dealing) (hdeals : action.Deals) :
    gateway.routeEvents action = (gateway.handOuts action).map fun handOut =>
      ⟨(gateway.perform action).gateway.now, handOut.1, some handOut.2⟩ := by
  rcases hdeals.eq_or_ordinary with rfl | hordinary
  · rfl
  rw [handOuts_eq h hordinary]
  cases action with
  | search request => exact searchEvents_eq _ _
  | searchAmong request participants timeout => exact searchEvents_eq _ _
  | price key request =>
      cases hheard : gateway.heard? key Provider.replyPrice with
      | none =>
          obtain ⟨⟨error, hresult⟩, -⟩ := price_of_not_heard request hheard
          simp [routeEvents, pricingEvents, hresult, sources, hheard]
      | some heard =>
          rw [routeEvents, pricingEvents_of_heard request hheard]
          simp only [sources, hheard, PricedOffer.mentions, List.filterMap_cons,
            filterMap_offerIn?_mentions]
          rfl
  | seatMap key =>
      cases hheard : gateway.heard? key Provider.replySeatMap with
      | none => simp [routeEvents, sources, hheard]
      | some heard =>
          simp [routeEvents, sources, hheard, ProviderSeatMap.mentions, offerIn?,
            List.filterMap_map, Function.comp_def]
  | removeRoute key => exact absurd hdeals id
  | putRoute key route => exact absurd hordinary id
  | _ => rfl

theorem history_eq_handedOut (h : gateway.Dealing) {actions : List Action}
    (hdeals : ∀ action ∈ actions, action.Deals) :
    gateway.history actions = gateway.handedOut actions := by
  induction actions generalizing gateway with
  | nil => rfl
  | cons action actions ih =>
      rw [List.forall_mem_cons] at hdeals
      rw [history, handedOut, routeEvents_eq_handOuts h hdeals.1,
        ih (h.perform hdeals.1) hdeals.2]

theorem known_of_mem_handOuts (h : gateway.Dealing) (hdeals : action.Deals) {key : String}
    {route : Route} (hmem : (key, route) ∈ gateway.handOuts action) :
    route.origin.KnownTo (gateway.perform action).gateway.table ∧
      (gateway.perform action).gateway.table.nameOf route.origin = key := by
  rcases hdeals.eq_or_ordinary with rfl | hordinary
  · cases hmem
  have hevent : ⟨(gateway.perform action).gateway.now, key, some route⟩ ∈
      gateway.routeEvents action := by
    rw [routeEvents_eq_handOuts h hdeals]
    exact List.mem_map_of_mem hmem
  obtain ⟨hsource, hname⟩ := source_of_mem_routeEvents hordinary hevent rfl
  exact ⟨known_of_mem_sources h.plain hordinary hsource, hname.symm⟩

theorem key_mem_of_mem_handOuts (h : gateway.Dealing) (hdeals : action.Deals) {key : String}
    {route : Route} (hmem : (key, route) ∈ gateway.handOuts action) :
    key ∈ (gateway.perform action).gateway.table.reverse.keys := by
  obtain ⟨hknown, rfl⟩ := known_of_mem_handOuts h hdeals hmem
  have hreverse := ((h.perform hdeals).oneToOne _ _).mp
    (Correlation.Table.get?_nameOf hknown.contains)
  exact List.mem_map_of_mem (Dict.get?_eq_some_iff.mp hreverse)

theorem route_eq_of_known {table : Correlation.Table} (htable : table.OneToOne)
    {route other : Route} (hroute : route.origin.KnownTo table)
    (hother : other.origin.KnownTo table)
    (hname : table.nameOf other.origin = table.nameOf route.origin) : other = route := by
  have hread := hother.ofKey_nameOf htable
  rw [hname, hroute.ofKey_nameOf htable, Except.ok.injEq] at hread
  obtain ⟨provider, nativeOfferId⟩ := route
  obtain ⟨otherProvider, otherId⟩ := other
  simp only [Route.origin, Origin.mk.injEq, true_and] at hread
  rw [hread.1, hread.2]

theorem route_eq_of_mem_handOuts (h : gateway.Dealing) (hdeals : action.Deals)
    {key : String} {route other : Route} (hroute : (key, route) ∈ gateway.handOuts action)
    (hother : (key, other) ∈ gateway.handOuts action) : other = route := by
  obtain ⟨hknown, hname⟩ := known_of_mem_handOuts h hdeals hroute
  obtain ⟨hknownOther, hsame⟩ := known_of_mem_handOuts h hdeals hother
  exact route_eq_of_known (h.perform hdeals).oneToOne hknown hknownOther
    (hsame.trans hname.symm)

theorem after_append (gateway : Gateway) (first second : List Action) :
    gateway.after (first ++ second) = (gateway.after first).after second :=
  List.foldl_append

/-! ## Handing out a key again -/

section

variable {middle : List Action} {again : Action} {key : String} {route other : Route}

theorem yields_of_resetNames (h : gateway.Dealing) {later : List Action}
    (hlater : ∀ next ∈ later, next.Deals) (hdeals : again.Deals)
    (hagain : (key, other) ∈
      ((gateway.perform .resetNames).gateway.after later).handOuts again) :
    gateway.table.source.Yields gateway.table.source.position
      (gateway.after (.resetNames :: later ++ [again])).table.source.position key := by
  have hforgotten : (gateway.perform .resetNames).gateway.Dealing := h.perform trivial
  have hdraws := (gateway.perform .resetNames).gateway.drawsOn_after
    (List.forall_mem_append.mpr ⟨hlater, List.forall_mem_singleton.mpr hdeals⟩)
  have hkey := key_mem_of_mem_handOuts (hforgotten.after hlater) hdeals hagain
  have hafter : ((((gateway.perform .resetNames).gateway.after later).perform
      again).gateway) = (gateway.perform .resetNames).gateway.after (later ++ [again]) :=
    (after_append _ later [again]).symm
  rw [hafter] at hkey
  rcases hdraws.drawn key hkey with hold | hyields
  · rw [table_resetNames] at hold
    cases hold
  · rw [table_resetNames] at hyields
    exact hyields

theorem yields_of_forgotten (h : gateway.Dealing)
    (hmiddle : ∀ next ∈ middle, next.Deals) (hdeals : again.Deals)
    (hreset : .resetNames ∈ middle)
    (hagain : (key, other) ∈ (gateway.after middle).handOuts again) :
    gateway.table.source.Yields gateway.table.source.position
      (gateway.after (middle ++ [again])).table.source.position key := by
  obtain ⟨earlier, later, rfl⟩ := List.append_of_mem hreset
  rw [List.forall_mem_append, List.forall_mem_cons] at hmiddle
  rw [after_append] at hagain
  have hyields := yields_of_resetNames (h.after hmiddle.1) hmiddle.2.2 hdeals hagain
  have hearlier := gateway.drawsOn_after hmiddle.1
  rw [List.append_assoc, after_append]
  exact hyields.widen hearlier.key_eq hearlier.position_le (Nat.le_refl _)

theorem forgotten_of_other_route (h : gateway.Dealing) (hdeals : action.Deals)
    (hmiddle : ∀ next ∈ middle, next.Deals) (hagain : again.Deals)
    (hroute : (key, route) ∈ gateway.handOuts action)
    (hother : (key, other) ∈
      ((gateway.perform action).gateway.after middle).handOuts again)
    (hne : other ≠ route) : .resetNames ∈ middle := by
  by_contra hkept
  have hkeeps : ∀ next ∈ middle ++ [again], next.KeepsNames := by
    intro next hnext
    rcases List.mem_append.mp hnext with hmem | hlast
    · rcases (hmiddle next hmem).eq_or_ordinary with rfl | hordinary
      · exact absurd hmem hkept
      · exact hordinary.keepsNames
    · obtain rfl := List.mem_singleton.mp hlast
      rcases hagain.eq_or_ordinary with rfl | hordinary
      · cases hother
      · exact hordinary.keepsNames
  have hnext := h.perform hdeals
  have hextends := extends_after (gateway.perform action).gateway hkeeps
  rw [after_append] at hextends
  obtain ⟨hknown, hname⟩ := known_of_mem_handOuts h hdeals hroute
  obtain ⟨hknownOther, hsame⟩ := known_of_mem_handOuts (hnext.after hmiddle) hagain hother
  rw [← hknown.nameOf_eq hextends] at hname
  exact hne (route_eq_of_known ((hnext.after hmiddle).perform hagain).oneToOne
    (hknown.mono hextends) hknownOther (hsame.trans hname.symm))

end

/-! ## Runs -/

theorem mem_handedOut {event : RouteEvent} {actions : List Action}
    (hevent : event ∈ gateway.handedOut actions) :
    ∃ earlier action later route, actions = earlier ++ action :: later ∧
      (event.key, route) ∈ (gateway.after earlier).handOuts action ∧
      event.route = some route := by
  induction actions generalizing gateway with
  | nil => cases hevent
  | cons action actions ih =>
      rcases List.mem_append.mp hevent with hnow | hlater
      · obtain ⟨handOut, hmem, rfl⟩ := List.mem_map.mp hnow
        exact ⟨[], action, actions, handOut.2, rfl, hmem, rfl⟩
      · obtain ⟨earlier, next, later, route, rfl, hmem, hroute⟩ := ih hlater
        exact ⟨action :: earlier, next, later, route, rfl, hmem, hroute⟩

theorem mem_handedOut_of_mem_handOuts {earlier : List Action} (later : List Action)
    {key : String} {route : Route}
    (hmem : (key, route) ∈ (gateway.after earlier).handOuts action) :
    ∃ time, ⟨time, key, some route⟩ ∈
      gateway.handedOut (earlier ++ action :: later) := by
  induction earlier generalizing gateway with
  | nil =>
      exact ⟨_, List.mem_append_left _ (List.mem_map.mpr ⟨(key, route), hmem, rfl⟩)⟩
  | cons first earlier ih =>
      obtain ⟨time, hevent⟩ := ih hmem
      exact ⟨time, List.mem_append_right _ hevent⟩

theorem routeAt_of_mem_calls {key : String} {followUp : FollowUp} {record : CallRecord}
    (hrecord : record ∈ (gateway.perform (followUp.action key)).calls) :
    ∃ route, gateway.routeAt gateway.now key = some route ∧
      record.provider = route.provider ∧
      record.call = followUp.call route.nativeOfferId := by
  cases hroute : gateway.routeAt gateway.now key with
  | none =>
      rw [(perform_of_unknown followUp hroute).calls_eq] at hrecord
      cases hrecord
  | some route =>
      cases hprovider : gateway.registry.get? route.provider with
      | none =>
          rw [(perform_of_unregistered followUp hroute hprovider).calls_eq] at hrecord
          cases hrecord
      | some provider =>
          obtain ⟨made, hcalls, hasked⟩ :=
            (perform_of_located followUp hroute hprovider).calls_eq
          rw [hcalls, List.mem_singleton] at hrecord
          rw [hrecord]
          exact ⟨route, rfl, hasked⟩

theorem routeAt_of_handedOut (h : gateway.Dealing) {actions : List Action}
    (hdeals : ∀ action ∈ actions, action.Deals)
    (hroutes : gateway.routes.cache.entries = ∅) (key : String) :
    (gateway.after actions).routeAt (gateway.after actions).now key =
      (RouteEvent.last? (gateway.handedOut actions) key).bind fun event =>
        event.liveRoute? gateway.routes.cache.ttl (gateway.after actions).now := by
  have hstored : gateway.storedRoutes = [] := by
    rw [storedRoutes, hroutes]
    rfl
  rw [gateway.routeAt_after actions (Nat.le_refl _) key, hstored, List.nil_append,
    history_eq_handedOut h hdeals]

theorem route_eq_of_handed_out_later (h : gateway.Dealing)
    (hfresh : gateway.table.NeverRepeats) (hdeals : action.Deals) {actions : List Action}
    (hactions : ∀ next ∈ actions, next.Deals) {key : String} {route : Route}
    (hroute : (key, route) ∈ gateway.handOuts action) {event : RouteEvent}
    (hevent : event ∈ (gateway.perform action).gateway.handedOut actions)
    (hkey : event.key = key) : event.route = some route := by
  obtain ⟨middle, again, later, other, rfl, hother, hwritten⟩ := mem_handedOut hevent
  rw [List.forall_mem_append, List.forall_mem_cons] at hactions
  rw [hkey] at hother
  rw [hwritten]
  by_contra hne
  have hforgotten := forgotten_of_other_route h hdeals hactions.1 hactions.2.1 hroute hother
    fun hsame => hne (congrArg some hsame)
  obtain ⟨n, hn, -, hdrawn⟩ :=
    yields_of_forgotten (h.perform hdeals) hactions.1 hactions.2.1 hforgotten hother
  apply (hfresh.mono (gateway.drawsOn_perform hdeals)).avoids n hn
  rw [hdrawn]
  exact key_mem_of_mem_handOuts h hdeals hroute

/-- If the source never repeats itself, a key is only ever handed out for one offer. -/
theorem route_eq_of_neverRepeats (h : gateway.Dealing) (hfresh : gateway.table.NeverRepeats)
    {actions : List Action} (hdeals : ∀ action ∈ actions, action.Deals)
    {event other : RouteEvent} (hevent : event ∈ gateway.handedOut actions)
    (hother : other ∈ gateway.handedOut actions) (hkey : other.key = event.key) :
    other.route = event.route := by
  induction actions generalizing gateway event other with
  | nil => cases hevent
  | cons action actions ih =>
      rw [List.forall_mem_cons] at hdeals
      rcases List.mem_append.mp hevent with hnow | hlater
      · obtain ⟨handOut, hmem, rfl⟩ := List.mem_map.mp hnow
        rcases List.mem_append.mp hother with hagain | hagain
        · obtain ⟨second, hsecond, rfl⟩ := List.mem_map.mp hagain
          obtain ⟨key, route⟩ := second
          subst hkey
          exact congrArg some (route_eq_of_mem_handOuts h hdeals.1 hmem hsecond)
        · exact route_eq_of_handed_out_later h hfresh hdeals.1 hdeals.2 hmem hagain hkey
      · rcases List.mem_append.mp hother with hagain | hagain
        · obtain ⟨second, hsecond, rfl⟩ := List.mem_map.mp hagain
          exact (route_eq_of_handed_out_later h hfresh hdeals.1 hdeals.2 hsecond hlater
            hkey.symm).symm
        · exact ih (h.perform hdeals.1) (hfresh.mono (gateway.drawsOn_perform hdeals.1))
            hdeals.2 hlater hagain hkey

/-- In a run of searches, calls on offers and resets, a call on a key goes to the offer
for which the key was handed out last, and it does so until the route expires, whatever
has been forgotten meanwhile.  A key can only be handed out for another offer if all
names are forgotten in between and the source then yields the key again.  With a source
that never does, a call goes to the offer for which the key was handed out, whenever
that was. -/
theorem handed_out_key_leads_to_latest_offer {actions : List Action}
    (htable : gateway.table.OneToOne) (hplain : gateway.HasPlainIds)
    (hroutes : gateway.routes.cache.entries = ∅)
    (hdeals : ∀ action ∈ actions, action.Deals) :
    let final := gateway.after actions
    let ttl := gateway.routes.cache.ttl
    (∀ key (followUp : FollowUp), ∀ record ∈ (final.perform (followUp.action key)).calls,
      ∃ time route,
        RouteEvent.last? (gateway.handedOut actions) key = some ⟨time, key, some route⟩ ∧
        final.now - time < ttl ∧ record.provider = route.provider ∧
        record.call = followUp.call route.nativeOfferId) ∧
    (∀ key (followUp : FollowUp) time route provider,
      RouteEvent.last? (gateway.handedOut actions) key = some ⟨time, key, some route⟩ →
      final.now - time < ttl → final.registry.get? route.provider = some provider →
        (final.perform (followUp.action key)).Asks final followUp route provider) ∧
    (∀ earlier action middle again later,
      actions = earlier ++ action :: middle ++ again :: later →
      let current := gateway.after earlier
      let next := (current.perform action).gateway
      ∀ key route other, (key, route) ∈ current.handOuts action →
        (key, other) ∈ (next.after middle).handOuts again → other ≠ route →
          .resetNames ∈ middle ∧
            gateway.table.source.Yields next.table.source.position
              (next.after (middle ++ [again])).table.source.position key) ∧
    (gateway.table.NeverRepeats →
      ∀ earlier action later, actions = earlier ++ action :: later →
      ∀ key route, (key, route) ∈ (gateway.after earlier).handOuts action →
      ∀ followUp : FollowUp, ∀ record ∈ (final.perform (followUp.action key)).calls,
        record.provider = route.provider ∧
          record.call = followUp.call route.nativeOfferId) := by
  intro final ttl
  have hstart : gateway.Dealing := ⟨htable, hplain⟩
  have hfound := routeAt_of_handedOut hstart hdeals hroutes
  have hcalls : ∀ key (followUp : FollowUp),
      ∀ record ∈ (final.perform (followUp.action key)).calls, ∃ time route,
        RouteEvent.last? (gateway.handedOut actions) key = some ⟨time, key, some route⟩ ∧
        final.now - time < ttl ∧ record.provider = route.provider ∧
        record.call = followUp.call route.nativeOfferId := by
    intro key followUp record hrecord
    obtain ⟨route, hroute, hasked⟩ := routeAt_of_mem_calls hrecord
    rw [hfound key, Option.bind_eq_some_iff] at hroute
    obtain ⟨⟨time, other, written⟩, hlast, hlive⟩ := hroute
    obtain rfl : other = key := RouteEvent.key_of_last?_eq_some hlast
    simp only [RouteEvent.liveRoute?, Option.ite_none_right_eq_some] at hlive
    obtain ⟨hyoung, rfl⟩ := hlive
    exact ⟨time, route, hlast, hyoung, hasked⟩
  refine ⟨hcalls, ?_, ?_, ?_⟩
  · intro key followUp time route provider hlast hlive hprovider
    apply perform_of_located followUp _ hprovider
    rw [hfound key, hlast, Option.bind_some, RouteEvent.liveRoute?]
    exact if_pos hlive
  · rintro earlier action middle again later rfl current next key route other hroute
      hother hne
    simp only [List.forall_mem_append, List.forall_mem_cons] at hdeals
    obtain ⟨⟨hearlier, haction, hmiddle⟩, hagain, -⟩ := hdeals
    have hcurrent : current.Dealing := hstart.after hearlier
    have hforgotten := forgotten_of_other_route hcurrent haction hmiddle hagain hroute
      hother hne
    have hyields := yields_of_forgotten (hcurrent.perform haction) hmiddle hagain hforgotten
      hother
    have hkeys : next.table.source.key = gateway.table.source.key :=
      ((gateway.drawsOn_after hearlier).trans (current.drawsOn_perform haction)).key_eq
    exact ⟨hforgotten, hyields.widen hkeys (Nat.le_refl _) (Nat.le_refl _)⟩
  · rintro hfresh earlier action later rfl key route hroute followUp record hrecord
    obtain ⟨time, last, hlast, -, hprovider, hcall⟩ := hcalls key followUp record hrecord
    obtain ⟨moment, hevent⟩ := mem_handedOut_of_mem_handOuts later hroute
    have hlastMem := (List.mem_filter.mp (List.mem_of_getLast? hlast)).1
    have hsame := route_eq_of_neverRepeats hstart hfresh hdeals hevent hlastMem rfl
    rw [Option.some.injEq] at hsame
    rw [hsame] at hprovider hcall
    exact ⟨hprovider, hcall⟩

/-- An offer from before a reset can still be called, next to one from after it. -/
theorem offer_outlives_reset :
    let registry := (Registry.empty.registerAll [("a", Provider.offering "x")]).2
    let gateway := Gateway.new registry {} (.empty (.numbered "k"))
    let actions := [Action.search default, .resetNames, .search default]
    let final := gateway.after actions
    gateway.table.OneToOne ∧ gateway.HasPlainIds ∧
      gateway.routes.cache.entries = ∅ ∧ (∀ action ∈ actions, action.Deals) ∧
      gateway.table.NeverRepeats ∧
      gateway.handOuts (.search default) = [("k0", ⟨"a", "x"⟩)] ∧
      final.originOf "k0" = .error (.notFound "k0") ∧
      (final.perform (.price "k0" default)).calls.length = 1 ∧
      ∀ record ∈ (final.perform (.price "k0" default)).calls,
        record.provider = "a" ∧ record.call = .price "x" default := by
  intro registry gateway actions final
  have htable : gateway.table.OneToOne := Correlation.Table.oneToOne_empty _
  have hplain : gateway.HasPlainIds := by
    unfold HasPlainIds
    decide +kernel
  have hdeals : ∀ action ∈ actions, action.Deals := by
    simp only [actions, List.forall_mem_cons]
    exact ⟨trivial, trivial, trivial, nofun⟩
  have hfresh : gateway.table.NeverRepeats := {
    injective := fun _ _ _ _ hsame => KeySource.numberedKey_injective hsame
    avoids := nofun }
  have hhandOuts : gateway.handOuts (.search default) = [("k0", ⟨"a", "x"⟩)] := by
    decide +kernel
  have hroute : ("k0", (⟨"a", "x"⟩ : Route)) ∈ gateway.handOuts (.search default) := by
    rw [hhandOuts]
    exact List.mem_cons_self
  obtain ⟨-, -, -, hcalls⟩ :=
    handed_out_key_leads_to_latest_offer htable hplain rfl hdeals
  exact ⟨htable, hplain, rfl, hdeals, hfresh, hhandOuts, by decide +kernel,
    by decide +kernel, hcalls hfresh [] _ _ rfl "k0" _ hroute (.price default)⟩

/-- The source yields the same key before and after the reset.  The offer that gets it
last is called by it, although the first could have been called for a long time. -/
theorem key_repeated_after_reset :
    let offering (id : String) : Reply SearchResults :=
      { answer := .success { offers := Dict.ofList [(id, default)] } }
    let provider : Provider := {
      search := { next := offering "x", later := [offering "y"] }
      price := { next := .lacking "pricing" } }
    let registry := (Registry.empty.registerAll [("a", provider)]).2
    let gateway := Gateway.new registry {} (.empty (.listed "k" ["k", "k"]))
    let forgotten := gateway.after [.search default, .resetNames]
    let final := forgotten.after [.search default]
    gateway.handOuts (.search default) = [("k", ⟨"a", "x"⟩)] ∧
      (forgotten.perform (.price "k" default)).calls.map CallRecord.call =
        [.price "x" default] ∧
      final.now = gateway.now ∧
      (final.perform (.price "k" default)).calls.map CallRecord.call =
        [.price "y" default] := by
  decide +kernel

end Gateway

end FareGateway
