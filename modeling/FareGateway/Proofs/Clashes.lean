import FareGateway.Proofs.Routing

/-!
# Entities that share a key

Two different entities of a merge get one key just when their origins overlap,
and then of two entities of one kind only the later one is kept.  Whatever is
kept, a call on an offer goes to the provider whose offer is shown.
-/

namespace FareGateway

variable {table : Correlation.Table} {answered : List (String × SearchResults)}

/-! ## Keys -/

theorem nameOf_mergeResults_eq_iff (htable : table.OneToOne) {first second : Origin}
    (hfirst : first ∈ mentionedIn answered) (hsecond : second ∈ mentionedIn answered) :
    (mergeResults table answered).2.nameOf first =
        (mergeResults table answered).2.nameOf second ↔
      first = second ∨ first.Overlaps second ∨ second.Overlaps first := by
  rw [← Origin.text_eq_text_iff]
  apply (oneToOne_mergeResults htable answered).nameOf_eq_iff
  · exact contains_mergeResults table hfirst
  · exact contains_mergeResults table hsecond

theorem mentioned_of_mem_entitiesOf {kind : EntityKind} {origin : Origin}
    (h : origin ∈ entitiesOf kind answered) : origin ∈ mentionedIn answered :=
  entitiesIn_subset_mentionedIn answered (mem_entitiesOf.mp h).1

/-! ## Sizes -/

theorem length_idsOf_mergeResults_iff (htable : table.OneToOne)
    (hids : (answered.map Prod.fst).Nodup) (kind : EntityKind) :
    ((mergeResults table answered).1.results.idsOf kind).length =
        (answered.flatMap fun entry => entry.2.idsOf kind).length ↔
      ∀ first ∈ entitiesOf kind answered, ∀ second ∈ entitiesOf kind answered,
        ¬first.Overlaps second := by
  rw [mergeResults_fst, idsOf_joined, ← length_entitiesOf,
    ← List.length_map (mergeResults table answered).2.nameOf,
    Dict.length_eraseDups_eq_iff, List.nodup_map_iff_inj_on (nodup_entitiesOf kind hids)]
  constructor
  · intro hinj first hfirst second hsecond hoverlaps
    have hname := (nameOf_mergeResults_eq_iff htable (mentioned_of_mem_entitiesOf hfirst)
      (mentioned_of_mem_entitiesOf hsecond)).mpr (.inr (.inl hoverlaps))
    obtain rfl := hinj first hfirst second hsecond hname
    exact first.not_overlaps_self hoverlaps
  · intro hfree first hfirst second hsecond hname
    rw [nameOf_mergeResults_eq_iff htable (mentioned_of_mem_entitiesOf hfirst)
      (mentioned_of_mem_entitiesOf hsecond)] at hname
    rcases hname with hsame | hoverlaps | hoverlaps
    · exact hsame
    · exact absurd hoverlaps (hfree first hfirst second hsecond)
    · exact absurd hoverlaps (hfree second hsecond first hfirst)

/-! ## Calls on the offers that are shown -/

def offersIn (answered : List (String × SearchResults)) :
    List (Route × Offer) :=
  answered.flatMap fun entry =>
    entry.2.offers.entries.map fun offer => (⟨entry.1, offer.1⟩, offer.2)

theorem flatMap_namedOffers (table : Correlation.Table) :
    (answered.flatMap fun entry => entry.2.namedOffers (table.name entry.1)) =
      (offersIn answered).map fun shown =>
        (table.name shown.1.provider .offer shown.1.nativeOfferId,
          shown.2.rename (table.name shown.1.provider)) := by
  simp [offersIn, SearchResults.namedOffers, List.map_flatMap, Function.comp_def]

theorem offerRoutes_eq (table : Correlation.Table) :
    offerRoutes table answered = (offersIn answered).map fun shown =>
      (table.name shown.1.provider .offer shown.1.nativeOfferId, shown.1) := by
  simp [offersIn, offerRoutes, SearchResults.idsOf, List.map_flatMap, Dict.keys,
    Function.comp_def]

/-- The offer that is shown under a key is the one that its route leads to. -/
theorem exists_shown_of_get?_mergeResults {key : String} {offer : Offer}
    (h : (mergeResults table answered).1.results.offers.get? key = some offer)
    (time : Nat) :
    ∃ route native, (route, native) ∈ offersIn answered ∧
      key = (mergeResults table answered).2.name route.provider .offer
        route.nativeOfferId ∧
      offer = native.rename ((mergeResults table answered).2.name route.provider) ∧
      RouteEvent.last? ((offerRoutes (mergeResults table answered).2 answered).map
        fun entry => ⟨time, entry.1, some entry.2⟩) key =
          some ⟨time, key, some route⟩ := by
  rw [mergeResults_fst, joined, Dict.ofList, Dict.get?_insertAll, Dict.get?_empty,
    Option.or_none, flatMap_namedOffers, ← List.map_reverse, Entries.get?_map,
    Option.map_eq_some_iff] at h
  obtain ⟨⟨route, native⟩, hfound, hoffer⟩ := h
  have hmem := List.mem_reverse.mp (List.mem_of_find?_eq_some hfound)
  have hkey : (mergeResults table answered).2.name route.provider .offer
      route.nativeOfferId = key := by
    simpa using List.find?_some hfound
  refine ⟨route, native, hmem, hkey.symm, hoffer.symm, ?_⟩
  rw [offerRoutes_eq, List.map_map, RouteEvent.last?_map]
  simp only [Function.comp_def, hfound, Option.map_some, hkey]

def Provider.offering (offerId : String) : Provider where
  search := { next := {
    answer := .success { offers := Dict.ofList [(offerId, default)] } } }
  price := { next := .lacking "pricing" }

namespace Gateway

variable {gateway : Gateway} {request : SearchRequest} {participants : List Participant}
  {timeout : Nat} {report : SearchReport}

theorem lastRouteEvent?_searchAmong
    (hok : (gateway.searchAmong request participants timeout).result = .ok report)
    {key : String} {offer : Offer} (hshown : report.results.offers.get? key = some offer) :
    let step := gateway.searchAmong request participants timeout
    ∃ route native, (route, native) ∈ offersIn (gateway.answers participants timeout) ∧
      key = step.gateway.table.name route.provider .offer route.nativeOfferId ∧
      offer = native.rename (step.gateway.table.name route.provider) ∧
      gateway.lastRouteEvent? [.searchAmong request participants timeout] key =
        some ⟨step.gateway.now, key, some route⟩ := by
  intro step
  obtain ⟨-, rfl, htable⟩ := searchAmong_eq_ok request timeout hok
  obtain ⟨route, native, hmem, hkey, hoffer, hlast⟩ :=
    exists_shown_of_get?_mergeResults hshown step.gateway.now
  have hhistory : gateway.history [.searchAmong request participants timeout] =
      (offerRoutes step.gateway.table (gateway.answers participants timeout)).map
        fun entry => ⟨step.gateway.now, entry.1, some entry.2⟩ := by
    simp only [history, routeEvents, searchEvents, hok, List.append_nil]
    rfl
  refine ⟨route, native, hmem, ?_, ?_, ?_⟩
  · rw [htable]
    exact hkey
  · rw [htable]
    exact hoffer
  · rw [lastRouteEvent?, RouteEvent.last?_append, hhistory, htable, hlast]
    rfl

/-- In a merge, entities of different origins get one key just when their origins
overlap, and as many entities of a kind are left as came in just when no two of
them overlap.  A call on an offer that is shown still goes to its provider. -/
theorem merged_keys_clash_iff_overlap (htable : gateway.table.OneToOne)
    (hok : (gateway.searchAmong request participants timeout).result = .ok report) :
    let answered := gateway.answers participants timeout
    let after := (gateway.searchAmong request participants timeout).gateway
    (∀ first ∈ mentionedIn answered, ∀ second ∈ mentionedIn answered,
      after.table.nameOf first = after.table.nameOf second ↔
        first = second ∨ first.Overlaps second ∨ second.Overlaps first) ∧
    (∀ kind, (report.results.idsOf kind).length =
        (answered.flatMap fun entry => entry.2.idsOf kind).length ↔
      ∀ first ∈ entitiesOf kind answered, ∀ second ∈ entitiesOf kind answered,
        ¬first.Overlaps second) ∧
    (∀ first ∈ mentionedIn answered, ∀ second ∈ mentionedIn answered,
      first.Overlaps second → '|' ∈ second.provider.toList) ∧
    (∀ key offer, report.results.offers.get? key = some offer →
      ∃ route native, (route, native) ∈ offersIn answered ∧
        key = after.table.name route.provider .offer route.nativeOfferId ∧
        offer = native.rename (after.table.name route.provider) ∧
        ∀ quiet (followUp : FollowUp), ¬after.Touches quiet key →
          ∀ record ∈ ((after.after quiet).perform (followUp.action key)).calls,
            record.provider = route.provider ∧
              record.call = followUp.call route.nativeOfferId) := by
  intro answered after
  obtain ⟨hids, hreport, hnamed⟩ := searchAmong_eq_ok request timeout hok
  have hanswered : (answered.map Prod.fst).Nodup :=
    (map_fst_answers_sublist gateway participants timeout).nodup hids
  refine ⟨?_, ?_, ?_, ?_⟩
  · intro first hfirst second hsecond
    change (gateway.searchAmong request participants timeout).gateway.table.nameOf _ =
      (gateway.searchAmong request participants timeout).gateway.table.nameOf _ ↔ _
    rw [hnamed]
    exact nameOf_mergeResults_eq_iff htable hfirst hsecond
  · intro kind
    rw [hreport]
    exact length_idsOf_mergeResults_iff htable hanswered kind
  · intro first _ second _ hoverlaps
    exact Origin.bar_mem_of_overlaps hoverlaps
  · intro key offer hshown
    obtain ⟨route, native, hmem, hkey, hoffer, hlast⟩ :=
      lastRouteEvent?_searchAmong hok hshown
    refine ⟨route, native, hmem, hkey, hoffer, ?_⟩
    intro quiet followUp hquiet
    have hquiet : ¬(gateway.after [.searchAmong request participants timeout]).Touches
        quiet key := hquiet
    have hlater := (lastRouteEvent?_append hquiet).trans hlast
    exact calls_of_lastRouteEvent?_eq hlater followUp

theorem merged_keys_of_two_offerings :
    let gateway := Gateway.new .empty {} (.empty (.numbered "k"))
    let participants : List Participant :=
      [.guest "a" (.offering "x"), .guest "b" (.offering "x")]
    gateway.table.OneToOne ∧
      ∃ report, (gateway.searchAmong default participants 1).result = .ok report ∧
        (report.results.idsOf .offer).length = 2 := by
  intro gateway participants
  have htable : gateway.table.OneToOne := Correlation.Table.oneToOne_empty _
  have hanswered : gateway.answers participants 1 ≠ [] := by decide +kernel
  have hmerged := searchAmong_of_answered default 1 (by decide +kernel)
    (by decide +kernel) hanswered
  obtain ⟨-, hsizes, hbars, -⟩ := merged_keys_clash_iff_overlap htable hmerged.1
  refine ⟨htable, _, hmerged.1, (hsizes .offer).mpr ?_⟩
  intro first hfirst second hsecond hoverlaps
  have hbar := hbars first (mentioned_of_mem_entitiesOf hfirst) second
    (mentioned_of_mem_entitiesOf hsecond) hoverlaps
  have hnone : ∀ origin ∈ entitiesOf .offer (gateway.answers participants 1),
      '|' ∉ origin.provider.toList := by
    decide +kernel
  exact hnone second hsecond hbar

end Gateway

/-- Of two offers one is lost, although the ids of their providers differ. -/
theorem offer_lost_to_overlap :
    let gateway := Gateway.new .empty {} (.empty (.numbered "k"))
    let participants : List Participant :=
      [.guest "a" (.offering "x|offer|y"), .guest "a|offer|x" (.offering "y")]
    ((gateway.resolve participants).map Prod.fst).Nodup ∧
      ((gateway.answers participants 1).flatMap fun entry =>
        entry.2.idsOf .offer).length = 2 ∧
      ((gateway.searchAmong default participants 1).result.map fun report =>
        (report.results.idsOf .offer).length) = .ok 1 := by
  decide +kernel

end FareGateway
