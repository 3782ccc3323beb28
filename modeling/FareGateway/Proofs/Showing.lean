import FareGateway.Proofs.Concatenation
import FareGateway.Proofs.Growth

/-!
# What responses show

A response shows entities by their correlation keys, as keys of its dictionaries
and as references within their entries.  Every such place is there because a
provider told of an entity in it.  Place by place, what an action shows is what
providers told of, under the keys of the table that the action leaves.
-/

namespace FareGateway

/-! ## The places of a response -/

def Offer.shown (offer : Offer) : List (EntityKind × String) :=
  offer.segmentRefs.map (EntityKind.segment, ·) ++
    offer.pricePlanRefs.map (EntityKind.pricePlan, ·)

/-- The ids in the dictionary of a kind, each with the references in its entry. -/
def SearchResults.shownAs (results : SearchResults) :
    EntityKind → List (EntityKind × String)
  | .segment => results.segments.keys.map (EntityKind.segment, ·)
  | .pricePlan => results.pricePlans.keys.map (EntityKind.pricePlan, ·)
  | .itinerary => results.combinations.entries.flatMap fun entry =>
      (.itinerary, entry.1) :: entry.2.map (EntityKind.segment, ·)
  | .offer => results.offers.entries.flatMap fun entry =>
      (.offer, entry.1) :: entry.2.shown

def shownKinds : List EntityKind := [.segment, .pricePlan, .itinerary, .offer]

/-- The keys that a response shows, each with the kind of its place. -/
def Response.shown : Response → List (EntityKind × String)
  | .report (.ok found) => shownKinds.flatMap found.results.shownAs
  | .priced (.ok repriced) => (.offer, repriced.offerId) :: repriced.offer.shown
  | .seats (.ok seatMap) => seatMap.seats.map fun seat => (.segment, seat.segmentRef)
  | _ => []

def Origin.shownIn (table : Correlation.Table) (origin : Origin) : EntityKind × String :=
  (origin.kind, table.nameOf origin)

theorem Offer.mentions_eq (provider : String) (offer : Offer) :
    offer.mentions provider =
      offer.shown.map fun told => ⟨provider, told.1, told.2⟩ := by
  simp only [mentions, shown, List.map_append, List.map_map]
  rfl

theorem Offer.shown_rename (table : Correlation.Table) (provider : String)
    (offer : Offer) :
    (offer.rename (table.name provider)).shown =
      (offer.mentions provider).map (Origin.shownIn table) := by
  simp only [shown, rename, mentions, List.map_append, List.map_map]
  rfl

theorem PricedOffer.shown_rename (table : Correlation.Table) (provider : String)
    (native : PricedOffer) :
    (Response.priced (.ok (native.rename (table.name provider)))).shown =
      (native.mentions provider).map (Origin.shownIn table) := by
  simp only [Response.shown, rename, mentions, List.map_cons, Offer.shown_rename]
  rfl

theorem ProviderSeatMap.shown_rename (table : Correlation.Table) (provider : String)
    (native : ProviderSeatMap) :
    (Response.seats (.ok (native.rename (table.name provider)))).shown =
      (native.mentions provider).map (Origin.shownIn table) := by
  simp only [Response.shown, rename, mentions, List.map_map]
  rfl

theorem PricedOffer.provider_of_mem_mentions {provider : String} {native : PricedOffer}
    {origin : Origin} (h : origin ∈ native.mentions provider) :
    origin.provider = provider := by
  rcases List.mem_cons.mp h with rfl | h
  · rfl
  · rw [Offer.mentions_eq] at h
    obtain ⟨told, -, rfl⟩ := List.mem_map.mp h
    rfl

theorem ProviderSeatMap.provider_of_mem_mentions {provider : String}
    {native : ProviderSeatMap} {origin : Origin} (h : origin ∈ native.mentions provider) :
    origin.provider = provider := by
  obtain ⟨seat, -, rfl⟩ := List.mem_map.mp h
  rfl

/-! ## Merged results -/

/-- What the providers told of in their dictionaries of a kind. -/
def toldAs (answered : List (String × SearchResults)) (kind : EntityKind) : List Origin :=
  answered.flatMap fun entry =>
    (entry.2.shownAs kind).map fun told => ⟨entry.1, told.1, told.2⟩

theorem SearchResults.mentions_eq (provider : String) (results : SearchResults) :
    results.mentions provider =
      (shownKinds.flatMap results.shownAs).map fun told => ⟨provider, told.1, told.2⟩ := by
  simp [mentions, shownKinds, shownAs, Offer.mentions_eq, Function.comp_def,
    List.map_flatMap]

section

variable {table : Correlation.Table} {answered : List (String × SearchResults)}

theorem toldAs_subset_mentionedIn (kind : EntityKind) :
    toldAs answered kind ⊆ mentionedIn answered := by
  intro origin h
  obtain ⟨entry, hentry, horigin⟩ := List.mem_flatMap.mp h
  obtain ⟨told, htold, rfl⟩ := List.mem_map.mp horigin
  refine List.mem_flatMap.mpr ⟨entry, hentry, ?_⟩
  rw [SearchResults.mentions_eq]
  refine List.mem_map_of_mem (List.mem_flatMap.mpr ⟨kind, ?_, htold⟩)
  cases kind <;> decide

variable (hids : (answered.map Prod.fst).Nodup)
  (hinj : ∀ first ∈ entitiesIn answered, ∀ second ∈ entitiesIn answered,
    table.nameOf first = table.nameOf second → first = second)

include hids hinj

private theorem flatMap_ofList_named {ν : Type} (kind : EntityKind)
    {named : SearchResults → (EntityKind → String → String) → List (String × ν)}
    (hnamed : ∀ results name,
      (named results name).map Prod.fst = (results.idsOf kind).map (name kind))
    {places : String × ν → List (EntityKind × String)}
    (hplaces : ∀ provider results,
      (named results (table.name provider)).flatMap places =
        (results.shownAs kind).map fun told =>
          Origin.shownIn table ⟨provider, told.1, told.2⟩) :
    (Dict.ofList (answered.flatMap fun entry =>
        named entry.2 (table.name entry.1))).entries.flatMap places =
      (toldAs answered kind).map (Origin.shownIn table) := by
  rw [entries_ofList_named hids hinj kind hnamed, toldAs, List.flatMap_assoc,
    List.map_flatMap]
  simp only [hplaces, List.map_map]
  rfl

theorem shownAs_joined (kind : EntityKind) :
    (joined table answered).results.shownAs kind =
      (toldAs answered kind).map (Origin.shownIn table) := by
  cases kind with
  | segment =>
      rw [SearchResults.shownAs, Dict.keys, List.map_map, List.map_eq_flatMap]
      refine flatMap_ofList_named hids hinj _ SearchResults.map_fst_namedSegments ?_
      intro provider results
      simp only [SearchResults.namedSegments, SearchResults.shownAs, Dict.keys,
        ← List.map_eq_flatMap, List.map_map]
      rfl
  | pricePlan =>
      rw [SearchResults.shownAs, Dict.keys, List.map_map, List.map_eq_flatMap]
      refine flatMap_ofList_named hids hinj _ SearchResults.map_fst_namedPricePlans ?_
      intro provider results
      simp only [SearchResults.namedPricePlans, SearchResults.shownAs, Dict.keys,
        ← List.map_eq_flatMap, List.map_map]
      rfl
  | itinerary =>
      refine flatMap_ofList_named hids hinj _ SearchResults.map_fst_namedCombinations ?_
      intro provider results
      simp only [SearchResults.namedCombinations, SearchResults.shownAs,
        List.flatMap_map, List.map_flatMap, List.map_cons, List.map_map]
      rfl
  | offer =>
      refine flatMap_ofList_named hids hinj _ SearchResults.map_fst_namedOffers ?_
      intro provider results
      simp only [SearchResults.namedOffers, SearchResults.shownAs, List.flatMap_map,
        List.map_flatMap, List.map_cons, Offer.shown_rename, Offer.mentions_eq,
        List.map_map]
      rfl

end

/-! ## Actions -/

namespace Gateway

def searchSources (step : Step SearchReport) (answered : List (String × SearchResults)) :
    List Origin :=
  match step.result with
  | .error _ => []
  | .ok _ => shownKinds.flatMap (toldAs answered)

/-- What providers told of in the answers that the response to an action is made of. -/
def sources (gateway : Gateway) : Action → List Origin
  | .search request =>
      searchSources (gateway.search request)
        (gateway.answers (gateway.registry.ids.map .registered)
          gateway.settings.searchTimeoutMs.toNat)
  | .searchAmong request participants timeout =>
      searchSources (gateway.searchAmong request participants timeout)
        (gateway.answers participants timeout)
  | .price key _ =>
      match gateway.heard? key Provider.replyPrice with
      | some (route, native) => native.mentions route.provider
      | none => []
  | .seatMap key =>
      match gateway.heard? key Provider.replySeatMap with
      | some (route, native) => native.mentions route.provider
      | none => []
  | _ => []

variable {gateway : Gateway}

theorem contains_of_mem_searchSources (request : SearchRequest)
    (participants : List Participant) (timeout : Nat) {origin : Origin} :
    let step := gateway.searchAmong request participants timeout
    origin ∈ searchSources step (gateway.answers participants timeout) →
      origin ∈ mentionedIn (gateway.answers participants timeout) ∧
        step.gateway.table.contains origin.text := by
  intro step horigin
  cases hresult : step.result with
  | error error => simp [searchSources, hresult] at horigin
  | ok report =>
      obtain ⟨-, -, hnamed⟩ := searchAmong_eq_ok request timeout hresult
      simp only [searchSources, hresult] at horigin
      obtain ⟨kind, -, htold⟩ := List.mem_flatMap.mp horigin
      have hmentioned := toldAs_subset_mentionedIn kind htold
      refine ⟨hmentioned, ?_⟩
      change (gateway.searchAmong request participants timeout).gateway.table.contains _
      rw [hnamed]
      exact contains_mergeResults _ hmentioned

theorem contains_of_mem_sources {action : Action} {origin : Origin}
    (h : origin ∈ gateway.sources action) :
    (gateway.perform action).gateway.table.contains origin.text := by
  cases action with
  | search request => exact (contains_of_mem_searchSources request _ _ h).2
  | searchAmong request participants timeout =>
      exact (contains_of_mem_searchSources request participants timeout h).2
  | price key request =>
      cases hheard : gateway.heard? key Provider.replyPrice with
      | none => simp [sources, hheard] at h
      | some heard =>
          simp only [sources, hheard] at h
          change (gateway.price key request).gateway.table.contains _
          rw [(price_of_heard request hheard).2]
          exact Correlation.Table.contains_nameAll (List.mem_map_of_mem h)
  | seatMap key =>
      cases hheard : gateway.heard? key Provider.replySeatMap with
      | none => simp [sources, hheard] at h
      | some heard =>
          simp only [sources, hheard] at h
          change (gateway.seatMap key).gateway.table.contains _
          rw [(seatMap_of_heard hheard).2]
          exact Correlation.Table.contains_nameAll (List.mem_map_of_mem h)
  | _ => cases h

theorem shown_searchAmong (request : SearchRequest) {participants : List Participant}
    (timeout : Nat) (htable : gateway.table.OneToOne)
    (hplain : ∀ id ∈ (gateway.resolve participants).map Prod.fst, '|' ∉ id.toList) :
    let step := gateway.searchAmong request participants timeout
    (Response.report step.result).shown =
      (searchSources step (gateway.answers participants timeout)).map
        (Origin.shownIn step.gateway.table) := by
  intro step
  cases hresult : step.result with
  | error error => simp [searchSources, hresult, Response.shown]
  | ok report =>
      obtain ⟨hids, rfl, hnamed⟩ := searchAmong_eq_ok request timeout hresult
      have hsublist := map_fst_answers_sublist gateway participants timeout
      have hinj : ∀ first ∈ entitiesIn (gateway.answers participants timeout),
          ∀ second ∈ entitiesIn (gateway.answers participants timeout),
          step.gateway.table.nameOf first = step.gateway.table.nameOf second →
            first = second := by
        intro first hfirst second hsecond hname
        rw [hnamed] at hname
        exact nameOf_mergeResults_inj htable (fun id hid => hplain id (hsublist.subset hid))
          (entitiesIn_subset_mentionedIn _ hfirst)
          (entitiesIn_subset_mentionedIn _ hsecond) hname
      simp only [searchSources, hresult, Response.shown, List.map_flatMap]
      rw [mergeResults_fst, ← hnamed]
      refine congrArg (List.flatMap · shownKinds) (funext fun kind => ?_)
      exact shownAs_joined (hsublist.nodup hids) hinj kind

end Gateway

end FareGateway
