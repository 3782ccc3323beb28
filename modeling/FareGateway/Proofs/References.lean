import FareGateway.Proofs.Permanence

/-!
# References that can be resolved

Results are closed when every reference in them leads to an entry.  Merging keeps them
closed, for the key of an entry and the references to it are renamed alike, whatever has
been named in between.  The same holds of later calls on offers: a reference to what a
provider told of in a search is the key under which the search has merged it.
-/

namespace FareGateway

open Correlation

/-- Every reference to a segment or a price plan is a key of its dictionary. -/
structure SearchResults.IsClosed (results : SearchResults) : Prop where
  offerSegments : ∀ entry ∈ results.offers.entries, ∀ ref ∈ entry.2.segmentRefs,
    ref ∈ results.segments.keys
  offerPricePlans : ∀ entry ∈ results.offers.entries, ∀ ref ∈ entry.2.pricePlanRefs,
    ref ∈ results.pricePlans.keys
  combinations : ∀ entry ∈ results.combinations.entries, ∀ ref ∈ entry.2,
    ref ∈ results.segments.keys

/-! ## Merged results -/

section

variable {table : Table} {answered : List (String × SearchResults)} {provider : String}
  {results : SearchResults}

theorem name_mem_idsOf_joined (h : (provider, results) ∈ answered) (kind : EntityKind)
    {nativeId : String} (hid : nativeId ∈ results.idsOf kind) :
    table.name provider kind nativeId ∈ (joined table answered).results.idsOf kind := by
  rw [idsOf_joined, List.mem_eraseDups]
  have hentity : (⟨provider, kind, nativeId⟩ : Origin) ∈ entitiesOf kind answered :=
    List.mem_flatMap.mpr ⟨_, h, List.mem_map_of_mem hid⟩
  exact List.mem_map_of_mem hentity

theorem isClosed_joined (h : ∀ entry ∈ answered, entry.2.IsClosed) :
    (joined table answered).results.IsClosed where
  offerSegments entry hentry ref href := by
    obtain ⟨answer, hanswer, hoffer⟩ :=
      List.mem_flatMap.mp (Dict.mem_of_mem_entries_ofList hentry)
    obtain ⟨native, hnative, rfl⟩ := List.mem_map.mp hoffer
    obtain ⟨id, hid, rfl⟩ := List.mem_map.mp href
    exact name_mem_idsOf_joined hanswer .segment
      ((h answer hanswer).offerSegments native hnative id hid)
  offerPricePlans entry hentry ref href := by
    obtain ⟨answer, hanswer, hoffer⟩ :=
      List.mem_flatMap.mp (Dict.mem_of_mem_entries_ofList hentry)
    obtain ⟨native, hnative, rfl⟩ := List.mem_map.mp hoffer
    obtain ⟨id, hid, rfl⟩ := List.mem_map.mp href
    exact name_mem_idsOf_joined hanswer .pricePlan
      ((h answer hanswer).offerPricePlans native hnative id hid)
  combinations entry hentry ref href := by
    obtain ⟨answer, hanswer, hcombination⟩ :=
      List.mem_flatMap.mp (Dict.mem_of_mem_entries_ofList hentry)
    obtain ⟨native, hnative, rfl⟩ := List.mem_map.mp hcombination
    obtain ⟨id, hid, rfl⟩ := List.mem_map.mp href
    exact name_mem_idsOf_joined hanswer .segment
      ((h answer hanswer).combinations native hnative id hid)

/-! ## References of later calls -/

/-- If the provider told of the native id in its results, then the reference is the key
of that id in the table, and leads to an entry of the merged results. -/
def ResolvesIn (merged : SearchResults) (table : Table)
    (answered : List (String × SearchResults)) (provider : String) (kind : EntityKind)
    (nativeId ref : String) : Prop :=
  ∀ results, (provider, results) ∈ answered → nativeId ∈ results.idsOf kind →
    ref = table.name provider kind nativeId ∧ ref ∈ merged.idsOf kind

theorem contains_of_mem_idsOf (hanswered : (provider, results) ∈ answered)
    {kind : EntityKind} {nativeId : String} (hid : nativeId ∈ results.idsOf kind) :
    (mergeResults table answered).2.contains (Origin.text ⟨provider, kind, nativeId⟩) := by
  have hentity : (⟨provider, kind, nativeId⟩ : Origin) ∈ entitiesIn answered :=
    List.mem_flatMap.mpr ⟨_, hanswered, SearchResults.mem_entities.mpr ⟨rfl, hid⟩⟩
  exact contains_mergeResults table (entitiesIn_subset_mentionedIn _ hentity)

theorem resolvesIn_name {later : Table} (h : (mergeResults table answered).2.Extends later)
    (provider : String) (kind : EntityKind) (nativeId : String) :
    ResolvesIn (mergeResults table answered).1.results (mergeResults table answered).2
      answered provider kind nativeId (later.name provider kind nativeId) := by
  intro results hanswered hid
  -- What has been named in between, and by whom, plays no part: the id had its key already.
  have hsame : later.name provider kind nativeId =
      (mergeResults table answered).2.name provider kind nativeId :=
    h.nameOf_eq (contains_of_mem_idsOf hanswered hid)
  rw [hsame, mergeResults_fst]
  exact ⟨rfl, name_mem_idsOf_joined hanswered kind hid⟩

theorem forall₂_resolvesIn {later : Table}
    (h : (mergeResults table answered).2.Extends later) (provider : String)
    (kind : EntityKind) (nativeIds : List String) :
    List.Forall₂ (ResolvesIn (mergeResults table answered).1.results
        (mergeResults table answered).2 answered provider kind)
      nativeIds (nativeIds.map (later.name provider kind)) := by
  rw [List.forall₂_map_right_iff, List.forall₂_same]
  exact fun nativeId _ => resolvesIn_name h provider kind nativeId

end

namespace Gateway

variable {gateway : Gateway} {key : String}

theorem exists_heard_of_ok {α β : Type} {ask : Provider → Reply α × Provider}
    {result : Except GatewayError β} {value : β} (hok : result = .ok value)
    (hrefused : gateway.heard? key ask = none → ∃ error, result = .error error) :
    ∃ route native, gateway.heard? key ask = some (route, native) := by
  cases hheard : gateway.heard? key ask with
  | none =>
      obtain ⟨error, herror⟩ := hrefused hheard
      rw [hok] at herror
      cases herror
  | some heard => exact ⟨heard.1, heard.2, rfl⟩

theorem exists_heard_of_price_ok {request : PriceRequest} {priced : PricedOffer}
    (h : (gateway.price key request).result = .ok priced) :
    ∃ route native, gateway.heard? key Provider.replyPrice = some (route, native) ∧
      gateway.table.Extends (gateway.price key request).gateway.table ∧
      priced = native.rename ((gateway.price key request).gateway.table.name route.provider) := by
  obtain ⟨route, native, hheard⟩ :=
    exists_heard_of_ok h fun hnone => (price_of_not_heard request hnone).1
  obtain ⟨hresult, hnamed⟩ := price_of_heard request hheard
  rw [h, Except.ok.injEq, ← hnamed] at hresult
  refine ⟨route, native, hheard, ?_, hresult⟩
  have hkeeps : (Action.price key request).KeepsNames := trivial
  exact gateway.extends_perform hkeeps

theorem exists_heard_of_seatMap_ok {seatMap : SeatMap}
    (h : (gateway.seatMap key).result = .ok seatMap) :
    ∃ route native, gateway.heard? key Provider.replySeatMap = some (route, native) ∧
      gateway.table.Extends (gateway.seatMap key).gateway.table ∧
      seatMap = native.rename ((gateway.seatMap key).gateway.table.name route.provider) := by
  obtain ⟨route, native, hheard⟩ :=
    exists_heard_of_ok h fun hnone => (seatMap_of_not_heard hnone).1
  obtain ⟨hresult, hnamed⟩ := seatMap_of_heard hheard
  rw [h, Except.ok.injEq, ← hnamed] at hresult
  refine ⟨route, native, hheard, ?_, hresult⟩
  have hkeeps : (Action.seatMap key).KeepsNames := trivial
  exact gateway.extends_perform hkeeps

/--
References stay resolvable.  The results of a search are closed if those of all providers
that it heard are.  However long afterwards, as long as no names are forgotten, a priced
offer or a seat map of a provider refers to each segment and each price plan that the
provider told of in the search by the key under which the search has merged it.
-/
theorem references_stay_resolvable (request : SearchRequest)
    {participants : List Participant} {timeout : Nat} {report : SearchReport}
    (hok : (gateway.searchAmong request participants timeout).result = .ok report)
    {passages : List Passage} (hkeeps : ∀ passage ∈ passages, passage.KeepsNames) :
    let step := gateway.searchAmong request participants timeout
    let answered := gateway.answers participants timeout
    let later := step.gateway.passAll passages
    let resolves := ResolvesIn report.results step.gateway.table answered
    report.results = (joined step.gateway.table answered).results ∧
    ((∀ entry ∈ answered, entry.2.IsClosed) → report.results.IsClosed) ∧
    (∀ key request priced, (later.price key request).result = .ok priced →
      ∃ route native, later.heard? key Provider.replyPrice = some (route, native) ∧
        List.Forall₂ (resolves route.provider .segment)
          native.offer.segmentRefs priced.offer.segmentRefs ∧
        List.Forall₂ (resolves route.provider .pricePlan)
          native.offer.pricePlanRefs priced.offer.pricePlanRefs) ∧
    ∀ key seatMap, (later.seatMap key).result = .ok seatMap →
      ∃ route native, later.heard? key Provider.replySeatMap = some (route, native) ∧
        List.Forall₂ (resolves route.provider .segment)
          (native.seats.map ProviderSeat.segmentRef) (seatMap.seats.map Seat.segmentRef) := by
  intro step answered later resolves
  obtain ⟨-, rfl, hnamed⟩ := searchAmong_eq_ok request timeout hok
  have hstep : step.gateway.table = (mergeResults gateway.table answered).2 := hnamed
  have hlater : (mergeResults gateway.table answered).2.Extends later.table := by
    rw [← hstep]
    exact step.gateway.extends_passAll hkeeps
  simp only [resolves, hstep]
  refine ⟨?_, ?_, ?_, ?_⟩
  · rw [mergeResults_fst]
  · intro hclosed
    rw [mergeResults_fst]
    exact isClosed_joined hclosed
  · intro key request priced hpriced
    obtain ⟨route, native, hheard, hextends, rfl⟩ := exists_heard_of_price_ok hpriced
    have hfinal := hlater.trans hextends
    exact ⟨route, native, hheard, forall₂_resolvesIn hfinal _ _ _,
      forall₂_resolvesIn hfinal _ _ _⟩
  · intro key seatMap hseatMap
    obtain ⟨route, native, hheard, hextends, rfl⟩ := exists_heard_of_seatMap_ok hseatMap
    have hresolved := forall₂_resolvesIn (hlater.trans hextends) route.provider .segment
      (native.seats.map ProviderSeat.segmentRef)
    refine ⟨route, native, hheard, ?_⟩
    simpa only [ProviderSeatMap.rename, List.map_map, Function.comp_def] using hresolved

def quotedOffer : Offer := { (default : Offer) with segmentRefs := ["s"] }

def quotedResults : SearchResults where
  offers := Dict.ofList [("x", quotedOffer)]
  segments := Dict.ofList [("s", default)]

def quotingProvider : Provider where
  search := { next := { answer := .success quotedResults } }
  price := { next := { answer := .success ⟨"x", quotedOffer⟩ } }

theorem priced_segment_is_merged :
    let gateway := Gateway.new (Registry.empty.registerAll [("a", quotingProvider)]).2 {}
      (.empty (.numbered "k"))
    let step := gateway.searchAmong default [.registered "a"] 1
    let passages : List Passage := [.act (.keyOf "b"), .act (.wait 1)]
    let later := step.gateway.passAll passages
    (∀ passage ∈ passages, passage.KeepsNames) ∧
      ∃ report priced, step.result = .ok report ∧ report.results.IsClosed ∧
        (later.price "k1" default).result = .ok priced ∧ priced.offer.segmentRefs = ["k0"] ∧
        "k0" ∈ report.results.segments.keys := by
  intro gateway step passages later
  have hkeeps : ∀ passage ∈ passages, passage.KeepsNames := by
    simp [passages, Passage.KeepsNames, Action.KeepsNames]
  have hfound : step.result.map (fun report => report.results.segments.keys) = .ok ["k0"] := by
    decide +kernel
  have hrefs : (later.price "k1" default).result.map (fun priced => priced.offer.segmentRefs) =
      .ok ["k0"] := by
    decide +kernel
  cases hok : step.result with
  | error error =>
      rw [hok] at hfound
      cases hfound
  | ok report =>
  cases hpriced : (later.price "k1" default).result with
  | error error =>
      rw [hpriced] at hrefs
      cases hrefs
  | ok priced =>
  obtain ⟨-, hclosed, hprices, -⟩ := references_stay_resolvable default hok hkeeps
  have hanswers : gateway.answers [.registered "a"] 1 = [("a", quotedResults)] := by
    decide +kernel
  have hheard : later.heard? "k1" Provider.replyPrice =
      some (⟨"a", "x"⟩, ⟨"x", quotedOffer⟩) := by
    decide +kernel
  obtain ⟨route, native, hnative, hsegments, -⟩ := hprices "k1" default priced hpriced
  rw [hheard, Option.some.injEq, Prod.mk.injEq] at hnative
  obtain ⟨rfl, rfl⟩ := hnative
  rw [hpriced] at hrefs
  have hrefs : priced.offer.segmentRefs = ["k0"] := by simpa [Except.map] using hrefs
  rw [hrefs] at hsegments
  obtain ⟨hresolved, -⟩ := List.forall₂_cons.mp hsegments
  have hmerged := hresolved quotedResults (by simp [hanswers]) (by decide)
  have hquoted : quotedResults.IsClosed := ⟨by decide, by decide, by decide⟩
  refine ⟨hkeeps, report, priced, rfl, hclosed ?_, rfl, hrefs, hmerged.2⟩
  simpa [hanswers] using hquoted

end Gateway

end FareGateway
