import FareGateway.Proofs.PlainIds
import FareGateway.Proofs.Showing

/-!
# Where keys come from

Of a key that has been shown one can always ask for whom it stands: names are kept
when routes expire, and as long as no provider has a bar in its id, the native key
tells the provider, the kind and the id apart.  The routes of offers are kept beside
the names, but whatever writes a route shows the offer, so both tell the same.
-/

namespace FareGateway

/-! ## Reading keys -/

namespace Origin

theorem ofKey_eq (table : Correlation.Table) (key : String) :
    ofKey table key =
      match (table.reverse.get? key).bind ofText? with
      | some origin => .ok origin
      | none => .error (.notFound key) := by
  unfold ofKey Correlation.Table.nativeKeyOf
  cases table.reverse.get? key with
  | none => rfl
  | some nativeKey =>
      cases hread : ofText? nativeKey <;>
        simp only [bind, Except.bind, Option.bind_some, hread] <;> rfl

theorem ofKey_eq_ok_iff {table : Correlation.Table} {key : String} {origin : Origin} :
    ofKey table key = .ok origin ↔
      table.nativeKeyOf key = .ok origin.text ∧ '|' ∉ origin.provider.toList := by
  have hread : ofKey table key = .ok origin ↔
      (table.reverse.get? key).bind ofText? = some origin := by
    rw [ofKey_eq]
    cases (table.reverse.get? key).bind ofText? <;> simp
  rw [hread, Correlation.Table.nativeKeyOf_eq_ok_iff, Option.bind_eq_some_iff]
  constructor
  · rintro ⟨nativeKey, hreverse, htext⟩
    obtain ⟨hplain, rfl⟩ := ofText?_eq_some_iff.mp htext
    exact ⟨hreverse, hplain⟩
  · rintro ⟨hreverse, hplain⟩
    exact ⟨_, hreverse, ofText?_eq_some_iff.mpr ⟨hplain, rfl⟩⟩

theorem ofKey_eq_error {table : Correlation.Table} {key : String}
    (h : ∀ origin, ofKey table key ≠ .ok origin) :
    ofKey table key = .error (.notFound key) := by
  rw [ofKey_eq] at h ⊢
  cases hread : (table.reverse.get? key).bind ofText? with
  | none => rfl
  | some origin => exact absurd (by rw [hread]) (h origin)

/-- The origin has a name in the table, and its native key is read as this origin. -/
structure KnownTo (table : Correlation.Table) (origin : Origin) : Prop where
  contains : table.contains origin.text
  plain : '|' ∉ origin.provider.toList

namespace KnownTo

variable {table before after : Correlation.Table} {origin : Origin}

theorem mono (h : origin.KnownTo before) (hextends : before.Extends after) :
    origin.KnownTo after where
  contains := hextends.contains h.contains
  plain := h.plain

theorem nameOf_eq (h : origin.KnownTo before) (hextends : before.Extends after) :
    after.nameOf origin = before.nameOf origin :=
  hextends.nameOf_eq h.contains

theorem ofKey_nameOf (h : origin.KnownTo table) (htable : table.OneToOne) :
    ofKey table (table.nameOf origin) = .ok origin := by
  have hreverse := (htable _ _).mp (Correlation.Table.get?_nameOf h.contains)
  rw [ofKey_eq_ok_iff, Correlation.Table.nativeKeyOf_eq_ok_iff]
  exact ⟨hreverse, h.plain⟩

end KnownTo

end Origin

def Route.origin (route : Route) : Origin := ⟨route.provider, .offer, route.nativeOfferId⟩

/-! ## What is shown is known -/

namespace Gateway

variable {gateway : Gateway}

theorem shown_perform (htable : gateway.table.OneToOne) (hplain : gateway.HasPlainIds)
    {action : Action} (hordinary : action.Ordinary) :
    (gateway.perform action).response.shown =
      (gateway.sources action).map
        (Origin.shownIn (gateway.perform action).gateway.table) := by
  cases action with
  | search request =>
      exact shown_searchAmong request _ htable (hplain.resolve (isPlain_registered _))
  | searchAmong request participants timeout =>
      exact shown_searchAmong request timeout htable (hplain.resolve hordinary)
  | price key request =>
      change (Response.priced (gateway.price key request).result).shown = _
      cases hheard : gateway.heard? key Provider.replyPrice with
      | none =>
          obtain ⟨⟨error, hresult⟩, -⟩ := price_of_not_heard request hheard
          simp [hresult, Response.shown, sources, hheard]
      | some heard =>
          obtain ⟨hresult, hnamed⟩ := price_of_heard request hheard
          simp only [hresult, ← hnamed, PricedOffer.shown_rename, sources, hheard]
          rfl
  | seatMap key =>
      change (Response.seats (gateway.seatMap key).result).shown = _
      cases hheard : gateway.heard? key Provider.replySeatMap with
      | none =>
          obtain ⟨⟨error, hresult⟩, -⟩ := seatMap_of_not_heard hheard
          simp [hresult, Response.shown, sources, hheard]
      | some heard =>
          obtain ⟨hresult, hnamed⟩ := seatMap_of_heard hheard
          simp only [hresult, ← hnamed, ProviderSeatMap.shown_rename, sources, hheard]
          rfl
  | resetNames => exact absurd hordinary id
  | replaceNames pairs => exact absurd hordinary id
  | putRoute key route => exact absurd hordinary id
  | _ => rfl

theorem plain_of_mem_searchSources (request : SearchRequest)
    {participants : List Participant} (timeout : Nat)
    (hplain : ∀ id ∈ (gateway.resolve participants).map Prod.fst, '|' ∉ id.toList)
    {origin : Origin}
    (h : origin ∈ searchSources (gateway.searchAmong request participants timeout)
      (gateway.answers participants timeout)) : '|' ∉ origin.provider.toList := by
  have hmentioned := (contains_of_mem_searchSources request participants timeout h).1
  exact hplain _ ((map_fst_answers_sublist gateway participants timeout).subset
    (provider_mem_of_mem_mentionedIn hmentioned))

theorem known_of_mem_sources (hplain : gateway.HasPlainIds) {action : Action}
    (hordinary : action.Ordinary) {origin : Origin} (h : origin ∈ gateway.sources action) :
    origin.KnownTo (gateway.perform action).gateway.table := by
  refine ⟨contains_of_mem_sources h, ?_⟩
  cases action with
  | search request =>
      exact plain_of_mem_searchSources request _ (hplain.resolve (isPlain_registered _)) h
  | searchAmong request participants timeout =>
      exact plain_of_mem_searchSources request timeout (hplain.resolve hordinary) h
  | price key request =>
      cases hheard : gateway.heard? key Provider.replyPrice with
      | none => simp [sources, hheard] at h
      | some heard =>
          simp only [sources, hheard] at h
          rw [PricedOffer.provider_of_mem_mentions h]
          exact plain_of_heard hplain hheard
  | seatMap key =>
      cases hheard : gateway.heard? key Provider.replySeatMap with
      | none => simp [sources, hheard] at h
      | some heard =>
          simp only [sources, hheard] at h
          rw [ProviderSeatMap.provider_of_mem_mentions h]
          exact plain_of_heard hplain hheard
  | _ => cases h

/-! ## Routes are written for what is shown -/

theorem source_of_mem_searchEvents {request : SearchRequest}
    {participants : List Participant} {timeout : Nat} {event : RouteEvent} {route : Route}
    (hroute : event.route = some route) :
    let step := gateway.searchAmong request participants timeout
    let answered := gateway.answers participants timeout
    event ∈ searchEvents step answered →
      route.origin ∈ searchSources step answered ∧
        event.key = step.gateway.table.nameOf route.origin := by
  intro step answered hevent
  cases hresult : step.result with
  | error error => simp [searchEvents, hresult] at hevent
  | ok report =>
      simp only [searchEvents, searchSources, hresult] at hevent ⊢
      obtain ⟨⟨key, written⟩, hwritten, rfl⟩ := List.mem_map.mp hevent
      obtain ⟨entry, hentry, hoffer⟩ := List.mem_flatMap.mp hwritten
      obtain ⟨id, hid, hpair⟩ := List.mem_map.mp hoffer
      cases hpair
      cases hroute
      refine ⟨List.mem_flatMap.mpr ⟨.offer, by decide, ?_⟩, rfl⟩
      refine List.mem_flatMap.mpr ⟨entry, hentry, ?_⟩
      obtain ⟨offer, hfound, rfl⟩ := List.mem_map.mp hid
      have hshown : (EntityKind.offer, offer.1) ∈ entry.2.shownAs .offer :=
        List.mem_flatMap.mpr ⟨offer, hfound, List.mem_cons_self⟩
      exact List.mem_map.mpr ⟨_, hshown, rfl⟩

theorem pricingEvents_of_heard (request : PriceRequest) {key : String} {route : Route}
    {native : PricedOffer}
    (h : gateway.heard? key Provider.replyPrice = some (route, native)) :
    let step := gateway.price key request
    let priced : Route := ⟨route.provider, native.offerId⟩
    gateway.pricingEvents key step =
      [⟨step.gateway.now, step.gateway.table.nameOf priced.origin, some priced⟩] := by
  obtain ⟨hroute, provider, hprovider, houtcome⟩ := heard?_eq_some_iff.mp h
  have hanswer := (Reply.outcome_eq_ok_iff.mp houtcome).2
  obtain ⟨hresult, hnamed⟩ := price_of_heard request h
  simp only [pricingEvents, hresult, locate_of_located hroute hprovider, hanswer, hnamed]
  rfl

theorem source_of_mem_routeEvents {action : Action} (hordinary : action.Ordinary)
    {event : RouteEvent} (hevent : event ∈ gateway.routeEvents action) {route : Route}
    (hroute : event.route = some route) :
    route.origin ∈ gateway.sources action ∧
      event.key = (gateway.perform action).gateway.table.nameOf route.origin := by
  cases action with
  | search request => exact source_of_mem_searchEvents hroute hevent
  | searchAmong request participants timeout =>
      exact source_of_mem_searchEvents hroute hevent
  | price key request =>
      cases hheard : gateway.heard? key Provider.replyPrice with
      | none =>
          obtain ⟨⟨error, hresult⟩, -⟩ := price_of_not_heard request hheard
          simp [routeEvents, pricingEvents, hresult] at hevent
      | some heard =>
          rw [routeEvents, pricingEvents_of_heard request hheard] at hevent
          obtain rfl := List.mem_singleton.mp hevent
          cases hroute
          simp only [sources, hheard]
          exact ⟨List.mem_cons_self, rfl⟩
  | removeRoute key =>
      obtain rfl := List.mem_singleton.mp hevent
      cases hroute
  | putRoute key route => exact absurd hordinary id
  | _ => cases hevent

/-! ## Runs -/

/-- A gateway of which one can learn whose every key is, and in which routes and names
agree about it. -/
structure Traceable (gateway : Gateway) : Prop where
  oneToOne : gateway.table.OneToOne
  plain : gateway.HasPlainIds
  known : ∀ {now key route}, gateway.now ≤ now → gateway.routeAt now key = some route →
    route.origin.KnownTo gateway.table ∧ gateway.table.nameOf route.origin = key

theorem Traceable.of_no_routes (htable : gateway.table.OneToOne)
    (hplain : gateway.HasPlainIds) (hroutes : gateway.routes.cache.entries = ∅) :
    gateway.Traceable where
  oneToOne := htable
  plain := hplain
  known _ hroute := by
    rw [routeAt, TimedCache.peek?, hroutes] at hroute
    cases hroute

theorem Traceable.perform (h : gateway.Traceable) {action : Action}
    (hordinary : action.Ordinary) : (gateway.perform action).gateway.Traceable where
  oneToOne := oneToOne_perform h.oneToOne hordinary.keepsNames
  plain := h.plain.perform hordinary
  known {now key route} hnow hroute := by
    have hwrites := gateway.writes_perform action
    rw [hwrites.routeAt_eq hnow] at hroute
    -- Either the route is older than the action, or it is there for what the action shows.
    cases hlast : RouteEvent.last? (gateway.routeEvents action) key with
    | none =>
        rw [hlast] at hroute
        obtain ⟨hknown, hname⟩ := h.known (Nat.le_trans hwrites.now_le hnow) hroute
        have hextends := gateway.extends_perform hordinary.keepsNames
        exact ⟨hknown.mono hextends, (hknown.nameOf_eq hextends).trans hname⟩
    | some event =>
        rw [hlast] at hroute
        have hevent : event.route = some route := by
          simp only [RouteEvent.liveRoute?] at hroute
          split at hroute
          · exact hroute
          · cases hroute
        have hmem := (List.mem_filter.mp (List.mem_of_getLast? hlast)).1
        obtain ⟨hsource, hname⟩ := source_of_mem_routeEvents hordinary hmem hevent
        refine ⟨known_of_mem_sources h.plain hordinary hsource, ?_⟩
        rw [← hname]
        exact RouteEvent.key_of_last?_eq_some hlast

theorem Traceable.after (h : gateway.Traceable) {actions : List Action}
    (hordinary : ∀ action ∈ actions, action.Ordinary) :
    (gateway.after actions).Traceable :=
  after_induction (fun _ h action hmem => h.perform (hordinary action hmem)) h

theorem extends_after (gateway : Gateway) {actions : List Action}
    (h : ∀ action ∈ actions, action.KeepsNames) :
    gateway.table.Extends (gateway.after actions).table :=
  after_induction (p := fun current => gateway.table.Extends current.table)
    (fun current hextends action hmem =>
      hextends.trans (current.extends_perform (h action hmem))) (.refl _)

theorem originOf_shown_after {gateway : Gateway} (h : gateway.Traceable)
    {action : Action} {later : List Action}
    (hordinary : ∀ next ∈ action :: later, next.Ordinary) :
    let final := gateway.after (action :: later)
    ((gateway.perform action).response.shown.map fun shown =>
        (shown.1, final.originOf shown.2)) =
      (gateway.sources action).map fun origin => (origin.kind, .ok origin) := by
  intro final
  have hfinal : final.Traceable := h.after hordinary
  rw [List.forall_mem_cons] at hordinary
  have hextends : (gateway.perform action).gateway.table.Extends final.table :=
    extends_after _ fun next hnext => (hordinary.2 next hnext).keepsNames
  rw [shown_perform h.oneToOne h.plain hordinary.1, List.map_map]
  refine List.map_congr_left fun origin horigin => ?_
  have hknown := known_of_mem_sources h.plain hordinary.1 horigin
  change (origin.kind, Origin.ofKey final.table
    ((gateway.perform action).gateway.table.nameOf origin)) = _
  rw [← hknown.nameOf_eq hextends, (hknown.mono hextends).ofKey_nameOf hfinal.oneToOne]

/-- After any ordinary run, whatever key an action has shown in whatever place is known
to stand for what a provider told of there, and every route leads to the provider and
the offer of its key.  In any table a key stands for an origin just when it is that of
the native key, and the provider has no bar in its id. -/
theorem shown_keys_stay_traceable {gateway : Gateway} {actions : List Action}
    (htable : gateway.table.OneToOne) (hplain : gateway.HasPlainIds)
    (hroutes : gateway.routes.cache.entries = ∅)
    (hordinary : ∀ action ∈ actions, action.Ordinary) :
    let final := gateway.after actions
    (∀ earlier action later, actions = earlier ++ action :: later →
      let current := gateway.after earlier
      ((current.perform action).response.shown.map fun shown =>
          (shown.1, final.originOf shown.2)) =
        (current.sources action).map fun origin => (origin.kind, .ok origin)) ∧
    (∀ now key route, final.now ≤ now → final.routeAt now key = some route →
      final.originOf key = .ok route.origin) ∧
    ∀ table key,
      (∀ origin, Origin.ofKey table key = .ok origin ↔
        table.nativeKeyOf key = .ok origin.text ∧ '|' ∉ origin.provider.toList) ∧
      ((∀ origin, Origin.ofKey table key ≠ .ok origin) →
        Origin.ofKey table key = .error (.notFound key)) := by
  intro final
  have hstart : gateway.Traceable := .of_no_routes htable hplain hroutes
  refine ⟨?_, ?_, ?_⟩
  · rintro earlier action later rfl
    rw [List.forall_mem_append] at hordinary
    have hshown := originOf_shown_after (hstart.after hordinary.1) hordinary.2
    have hfinal : final = (gateway.after earlier).after (action :: later) :=
      List.foldl_append
    rw [hfinal]
    exact hshown
  · intro now key route hnow hroute
    have hfinal : final.Traceable := hstart.after hordinary
    obtain ⟨hknown, rfl⟩ := hfinal.known hnow hroute
    exact hknown.ofKey_nameOf hfinal.oneToOne
  · intro table key
    exact ⟨fun origin => Origin.ofKey_eq_ok_iff, Origin.ofKey_eq_error⟩

theorem origin_outlives_route :
    let gateway := Gateway.new .empty {} (.empty (.numbered "k"))
    let search := Action.searchAmong default [.guest "a" (.offering "x|y")] 1
    let actions := [search, .wait gateway.settings.routeTtlMs]
    let final := gateway.after actions
    gateway.table.OneToOne ∧ gateway.HasPlainIds ∧
      gateway.routes.cache.entries = ∅ ∧ (∀ action ∈ actions, action.Ordinary) ∧
      (gateway.perform search).response.shown = [(.offer, "k0")] ∧
      final.routeAt final.now "k0" = none ∧
      final.originOf "k0" = .ok ⟨"a", .offer, "x|y"⟩ := by
  intro gateway search actions final
  have htable : gateway.table.OneToOne := Correlation.Table.oneToOne_empty _
  have hplain : gateway.HasPlainIds := by
    intro id hid
    cases hid
  have hordinary : ∀ action ∈ actions, action.Ordinary := by
    intro action haction
    rcases List.mem_cons.mp haction with rfl | haction
    · intro participant hparticipant
      obtain rfl := List.mem_singleton.mp hparticipant
      change '|' ∉ "a".toList
      decide
    · obtain rfl := List.mem_singleton.mp haction
      trivial
  obtain ⟨htraced, -, -⟩ := shown_keys_stay_traceable htable hplain rfl hordinary
  have hshown : (gateway.perform search).response.shown = [(.offer, "k0")] := by
    decide +kernel
  have hsources : gateway.sources search = [⟨"a", .offer, "x|y"⟩] := by decide +kernel
  have hfound : ((gateway.perform search).response.shown.map fun shown =>
      (shown.1, final.originOf shown.2)) =
      (gateway.sources search).map fun origin => (origin.kind, .ok origin) :=
    htraced [] search [.wait gateway.settings.routeTtlMs] rfl
  rw [hshown, hsources] at hfound
  refine ⟨htable, hplain, rfl, hordinary, hshown, by decide +kernel, ?_⟩
  simpa using hfound

end Gateway

end FareGateway
