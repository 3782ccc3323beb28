import FareGateway.Proofs.Insertion
import FareGateway.Proofs.Renaming
import Mathlib.Data.List.Nodup

/-!
# What a merge comes to

Providers are merged one after the other and entry by entry, but the merged
dictionaries and the table can be said without any order of steps: the table is
the old one in which everything mentioned has been named, and each dictionary is
what one writes who has all entries of all providers, renamed, in one list.
-/

namespace FareGateway

namespace SearchResults

/-- What the results mention, in the order of naming. -/
def mentions (provider : String) (results : SearchResults) : List Origin :=
  results.segments.keys.map (⟨provider, .segment, ·⟩) ++
    results.pricePlans.keys.map (⟨provider, .pricePlan, ·⟩) ++
    results.combinations.entries.flatMap (fun entry =>
      ⟨provider, .itinerary, entry.1⟩ :: entry.2.map (⟨provider, .segment, ·⟩)) ++
    results.offers.entries.flatMap fun entry =>
      ⟨provider, .offer, entry.1⟩ :: entry.2.mentions provider

def idsOf (results : SearchResults) : EntityKind → List String
  | .offer => results.offers.keys
  | .segment => results.segments.keys
  | .pricePlan => results.pricePlans.keys
  | .itinerary => results.combinations.keys

def entities (provider : String) (results : SearchResults) : List Origin :=
  [EntityKind.segment, .pricePlan, .itinerary, .offer].flatMap fun kind =>
    (results.idsOf kind).map (⟨provider, kind, ·⟩)

theorem mem_entities {provider : String} {results : SearchResults} {origin : Origin} :
    origin ∈ results.entities provider ↔
      origin.provider = provider ∧ origin.nativeId ∈ results.idsOf origin.kind := by
  obtain ⟨other, kind, id⟩ := origin
  cases kind <;> simp [entities, and_comm, eq_comm]

theorem nodup_idsOf (results : SearchResults) (kind : EntityKind) :
    (results.idsOf kind).Nodup := by
  cases kind with
  | offer => exact results.offers.nodup_keys
  | segment => exact results.segments.nodup_keys
  | pricePlan => exact results.pricePlans.nodup_keys
  | itinerary => exact results.combinations.nodup_keys

theorem entities_subset_mentions (provider : String) (results : SearchResults) :
    results.entities provider ⊆ results.mentions provider := by
  rintro ⟨_, kind, id⟩ h
  obtain ⟨rfl, hid⟩ := mem_entities.mp h
  simp only [mentions, List.mem_append, List.mem_map, List.mem_flatMap]
  cases kind with
  | segment => exact .inl (.inl (.inl ⟨id, hid, rfl⟩))
  | pricePlan => exact .inl (.inl (.inr ⟨id, hid, rfl⟩))
  | itinerary =>
      obtain ⟨entry, hentry, rfl⟩ := List.mem_map.mp hid
      exact .inl (.inr ⟨entry, hentry, List.mem_cons_self⟩)
  | offer =>
      obtain ⟨entry, hentry, rfl⟩ := List.mem_map.mp hid
      exact .inr ⟨entry, hentry, List.mem_cons_self⟩

variable (results : SearchResults) (name : EntityKind → String → String)

def namedOffers : List (String × Offer) :=
  results.offers.entries.map fun entry => (name .offer entry.1, entry.2.rename name)

def namedSegments : List (String × Segment) :=
  results.segments.entries.map fun entry => (name .segment entry.1, entry.2)

def namedPricePlans : List (String × PricePlan) :=
  results.pricePlans.entries.map fun entry => (name .pricePlan entry.1, entry.2)

def namedCombinations : List (String × List String) :=
  results.combinations.entries.map fun entry =>
    (name .itinerary entry.1, entry.2.map (name .segment))

theorem map_fst_namedOffers :
    (results.namedOffers name).map Prod.fst = (results.idsOf .offer).map (name .offer) := by
  simp [namedOffers, idsOf, Dict.keys]

theorem map_fst_namedSegments :
    (results.namedSegments name).map Prod.fst =
      (results.idsOf .segment).map (name .segment) := by
  simp [namedSegments, idsOf, Dict.keys]

theorem map_fst_namedPricePlans :
    (results.namedPricePlans name).map Prod.fst =
      (results.idsOf .pricePlan).map (name .pricePlan) := by
  simp [namedPricePlans, idsOf, Dict.keys]

theorem map_fst_namedCombinations :
    (results.namedCombinations name).map Prod.fst =
      (results.idsOf .itinerary).map (name .itinerary) := by
  simp [namedCombinations, idsOf, Dict.keys]

end SearchResults

/-! ## Adding the results of one provider -/

namespace Merged

section

variable {α ν : Type} (get : SearchResults → Dict String ν)
  (set : SearchResults → Dict String ν → SearchResults)
  (hget : ∀ results dict, get (set results dict) = dict)
  (hset : ∀ results dict dict', set (set results dict) dict' = set results dict')
  (hsame : ∀ results, set results (get results) = results)
include hget hset hsame

/-- Entries that go to one of the dictionaries, whichever it is, are put there together. -/
theorem foldl_put (provider : String) (key : α → String) (value : α → ν) (entries : List α)
    (merged : Merged) :
    entries.foldl (fun merged entry =>
        { merged with
          results := set merged.results ((get merged.results).insert (key entry) (value entry))
          origins := merged.origins.insert (key entry) provider }) merged =
      { merged with
        results := set merged.results
          ((get merged.results).insertAll (entries.map fun entry => (key entry, value entry)))
        origins := merged.origins.insertAll (entries.map fun entry => (key entry, provider)) } := by
  induction entries generalizing merged with
  | nil =>
      have hnone : set merged.results (get merged.results) = merged.results :=
        hsame merged.results
      simp [Dict.insertAll, hnone]
  | cons entry entries ih =>
      rw [List.foldl_cons, ih, hget, hset]
      rfl

end

section

variable (provider : String) (name : EntityKind → String → String) (merged : Merged)

theorem foldl_putSegment (entries : List (String × Segment)) :
    entries.foldl (fun merged entry =>
        merged.putSegment provider (name .segment entry.1) entry.2) merged =
      { merged with
        results.segments := merged.results.segments.insertAll
          (entries.map fun entry => (name .segment entry.1, entry.2))
        origins := merged.origins.insertAll
          (entries.map fun entry => (name .segment entry.1, provider)) } :=
  foldl_put SearchResults.segments (fun results segments => { results with segments })
    (fun _ _ => rfl) (fun _ _ _ => rfl) (fun _ => rfl) provider
    (fun entry : String × Segment => name .segment entry.1) Prod.snd entries merged

theorem foldl_putPricePlan (entries : List (String × PricePlan)) :
    entries.foldl (fun merged entry =>
        merged.putPricePlan provider (name .pricePlan entry.1) entry.2) merged =
      { merged with
        results.pricePlans := merged.results.pricePlans.insertAll
          (entries.map fun entry => (name .pricePlan entry.1, entry.2))
        origins := merged.origins.insertAll
          (entries.map fun entry => (name .pricePlan entry.1, provider)) } :=
  foldl_put SearchResults.pricePlans (fun results pricePlans => { results with pricePlans })
    (fun _ _ => rfl) (fun _ _ _ => rfl) (fun _ => rfl) provider
    (fun entry : String × PricePlan => name .pricePlan entry.1) Prod.snd entries merged

theorem foldl_putCombination (entries : List (String × List String)) :
    entries.foldl (fun merged entry =>
        merged.putCombination provider (name .itinerary entry.1)
          (entry.2.map (name .segment))) merged =
      { merged with
        results.combinations := merged.results.combinations.insertAll
          (entries.map fun entry =>
            (name .itinerary entry.1, entry.2.map (name .segment)))
        origins := merged.origins.insertAll
          (entries.map fun entry => (name .itinerary entry.1, provider)) } :=
  foldl_put SearchResults.combinations
    (fun results combinations => { results with combinations })
    (fun _ _ => rfl) (fun _ _ _ => rfl) (fun _ => rfl) provider
    (fun entry : String × List String => name .itinerary entry.1)
    (fun entry => entry.2.map (name .segment)) entries merged

theorem foldl_putOffer (entries : List (String × Offer)) :
    entries.foldl (fun merged entry =>
        merged.putOffer provider (name .offer entry.1) entry.1 (entry.2.rename name))
        merged =
      { results := { merged.results with
          offers := merged.results.offers.insertAll
            (entries.map fun entry => (name .offer entry.1, entry.2.rename name)) }
        origins := merged.origins.insertAll
          (entries.map fun entry => (name .offer entry.1, provider))
        routes := merged.routes ++
          entries.map fun entry => (name .offer entry.1, ⟨provider, entry.1⟩) } := by
  induction entries generalizing merged with
  | nil => simp [Dict.insertAll]
  | cons entry entries ih =>
      rw [List.foldl_cons, ih]
      simp [putOffer, Dict.insertAll]

def added (results : SearchResults) : Merged where
  results := {
    offers := merged.results.offers.insertAll (results.namedOffers name)
    segments := merged.results.segments.insertAll (results.namedSegments name)
    pricePlans := merged.results.pricePlans.insertAll (results.namedPricePlans name)
    passengers := merged.results.passengers.insertNew results.passengers.entries
    combinations := merged.results.combinations.insertAll (results.namedCombinations name) }
  origins := merged.origins.insertAll ((results.entities provider).map fun origin =>
    (name origin.kind origin.nativeId, provider))
  routes := merged.routes ++
    (results.idsOf .offer).map fun id => (name .offer id, ⟨provider, id⟩)

end

theorem names_addSegment (provider : String) (merged : Merged)
    (entry : String × Segment) :
    Names (addSegment provider merged entry) [⟨provider, .segment, entry.1⟩]
      (fun table =>
        merged.putSegment provider (table.name provider .segment entry.1) entry.2) :=
  (names_correlationKey provider .segment entry.1).bind fun key =>
    Names.pure (merged.putSegment provider key entry.2)

theorem names_addPricePlan (provider : String) (merged : Merged)
    (entry : String × PricePlan) :
    Names (addPricePlan provider merged entry) [⟨provider, .pricePlan, entry.1⟩]
      (fun table =>
        merged.putPricePlan provider (table.name provider .pricePlan entry.1) entry.2) :=
  (names_correlationKey provider .pricePlan entry.1).bind fun key =>
    Names.pure (merged.putPricePlan provider key entry.2)

theorem names_addCombination (provider : String) (merged : Merged)
    (entry : String × List String) :
    Names (addCombination provider merged entry)
      (⟨provider, .itinerary, entry.1⟩ :: entry.2.map (⟨provider, .segment, ·⟩))
      (fun table =>
        merged.putCombination provider (table.name provider .itinerary entry.1)
          (entry.2.map (table.name provider .segment))) := by
  have h := (names_correlationKey provider .itinerary entry.1).bind fun key =>
    (names_correlationKeys provider .segment entry.2).bind fun segmentRefs =>
      Names.pure (merged.putCombination provider key segmentRefs)
  exact h.congr (by simp) fun _ => rfl

theorem names_addOffer (provider : String) (merged : Merged) (entry : String × Offer) :
    Names (addOffer provider merged entry)
      (⟨provider, .offer, entry.1⟩ :: entry.2.mentions provider)
      (fun table =>
        merged.putOffer provider (table.name provider .offer entry.1) entry.1
          (entry.2.rename (table.name provider))) := by
  have h := (names_correlationKey provider .offer entry.1).bind fun key =>
    (entry.2.names_correlated provider).bind fun offer =>
      Names.pure (merged.putOffer provider key entry.1 offer)
  exact h.congr (by simp) fun _ => rfl

theorem names_add (merged : Merged) (provider : String) (results : SearchResults) :
    Names (merged.add provider results) (results.mentions provider)
      (fun table => merged.added provider (table.name provider) results) := by
  have h := (Names.foldlM (names_addSegment provider) results.segments.entries
      merged).bind fun merged =>
    (Names.foldlM (names_addPricePlan provider) results.pricePlans.entries
      merged).bind fun merged =>
    (Names.foldlM (names_addCombination provider) results.combinations.entries
      merged).bind fun merged =>
    Names.foldlM (names_addOffer provider) results.offers.entries
      (merged.putPassengers results.passengers)
  refine h.congr ?_ ?_
  · simp [SearchResults.mentions, Dict.keys, ← List.map_eq_flatMap, Function.comp_def]
  · intro table
    simp only [foldl_putSegment, foldl_putPricePlan, foldl_putCombination, foldl_putOffer]
    simp [added, putPassengers, SearchResults.namedOffers, SearchResults.namedSegments,
      SearchResults.namedPricePlans, SearchResults.namedCombinations,
      SearchResults.entities, SearchResults.idsOf, Dict.keys, Dict.insertAll_append,
      Function.comp_def]

end Merged

/-! ## Adding them all -/

def mentionedIn (answered : List (String × SearchResults)) : List Origin :=
  answered.flatMap fun entry => entry.2.mentions entry.1

def entitiesIn (answered : List (String × SearchResults)) : List Origin :=
  answered.flatMap fun entry => entry.2.entities entry.1

def entitiesOf (kind : EntityKind) (answered : List (String × SearchResults)) :
    List Origin :=
  answered.flatMap fun entry => (entry.2.idsOf kind).map (⟨entry.1, kind, ·⟩)

def offerRoutes (table : Correlation.Table)
    (answered : List (String × SearchResults)) : List (String × Route) :=
  answered.flatMap fun entry => (entry.2.idsOf .offer).map fun id =>
    (table.name entry.1 .offer id, ⟨entry.1, id⟩)

/-- What all the results make together under their keys in a table. -/
def joined (table : Correlation.Table) (answered : List (String × SearchResults)) :
    Merged where
  results := {
    offers := Dict.ofList (answered.flatMap fun entry =>
      entry.2.namedOffers (table.name entry.1))
    segments := Dict.ofList (answered.flatMap fun entry =>
      entry.2.namedSegments (table.name entry.1))
    pricePlans := Dict.ofList (answered.flatMap fun entry =>
      entry.2.namedPricePlans (table.name entry.1))
    passengers := Dict.empty.insertNew (answered.flatMap fun entry =>
      entry.2.passengers.entries)
    combinations := Dict.ofList (answered.flatMap fun entry =>
      entry.2.namedCombinations (table.name entry.1)) }
  origins := Dict.ofList ((entitiesIn answered).map fun origin =>
    (table.nameOf origin, origin.provider))
  routes := offerRoutes table answered

private theorem foldl_added (table : Correlation.Table)
    (answered : List (String × SearchResults)) (merged : Merged) :
    answered.foldl (fun merged entry =>
        merged.added entry.1 (table.name entry.1) entry.2) merged =
      { results := {
          offers := merged.results.offers.insertAll (answered.flatMap fun entry =>
            entry.2.namedOffers (table.name entry.1))
          segments := merged.results.segments.insertAll (answered.flatMap fun entry =>
            entry.2.namedSegments (table.name entry.1))
          pricePlans := merged.results.pricePlans.insertAll
            (answered.flatMap fun entry => entry.2.namedPricePlans (table.name entry.1))
          passengers := merged.results.passengers.insertNew
            (answered.flatMap fun entry => entry.2.passengers.entries)
          combinations := merged.results.combinations.insertAll
            (answered.flatMap fun entry =>
              entry.2.namedCombinations (table.name entry.1)) }
        origins := merged.origins.insertAll ((entitiesIn answered).map fun origin =>
          (table.nameOf origin, origin.provider))
        routes := merged.routes ++ offerRoutes table answered } := by
  induction answered generalizing merged with
  | nil => simp [Dict.insertAll, Dict.insertNew, offerRoutes, entitiesIn]
  | cons entry answered ih =>
      have horigins :
          (entry.2.entities entry.1).map (fun origin =>
            (table.nameOf origin, origin.provider)) =
          (entry.2.entities entry.1).map fun origin =>
            (table.name entry.1 origin.kind origin.nativeId, entry.1) := by
        refine List.map_congr_left fun origin horigin => ?_
        rw [← (SearchResults.mem_entities.mp horigin).1]
        rfl
      rw [List.foldl_cons, ih]
      simp only [entitiesIn, List.flatMap_cons, List.map_append, Dict.insertAll_append,
        Dict.insertNew_append, horigins]
      simp [Merged.added, offerRoutes]

theorem names_mergeAll (answered : List (String × SearchResults)) :
    Names (answered.foldlM (fun (merged : Merged) entry => merged.add entry.1 entry.2) {})
      (mentionedIn answered) (fun table => joined table answered) := by
  have h := Names.foldlM (fun (merged : Merged) entry =>
    merged.names_add entry.1 entry.2) answered {}
  refine h.congr rfl fun table => ?_
  rw [foldl_added]
  rfl

theorem mergeResults_eq (table : Correlation.Table)
    (answered : List (String × SearchResults)) :
    mergeResults table answered =
      let named := table.nameAll ((mentionedIn answered).map Origin.text)
      (joined named answered, named) :=
  (names_mergeAll answered).run_eq table

theorem mergeResults_fst (table : Correlation.Table)
    (answered : List (String × SearchResults)) :
    (mergeResults table answered).1 = joined (mergeResults table answered).2 answered := by
  rw [mergeResults_eq]

theorem mergeResults_fst_of_extends {table later : Correlation.Table}
    {answered : List (String × SearchResults)}
    (h : (mergeResults table answered).2.Extends later) :
    (mergeResults table answered).1 = joined later answered :=
  (names_mergeAll answered).value_eq h

theorem contains_mergeResults (table : Correlation.Table)
    {answered : List (String × SearchResults)} {origin : Origin}
    (h : origin ∈ mentionedIn answered) :
    (mergeResults table answered).2.contains origin.text := by
  rw [mergeResults_eq]
  exact Correlation.Table.contains_nameAll (List.mem_map_of_mem h)

/-- A merge that is repeated later comes to the same and names nothing. -/
theorem mergeResults_of_extends {table later : Correlation.Table}
    {answered : List (String × SearchResults)}
    (h : (mergeResults table answered).2.Extends later) :
    mergeResults later answered = ((mergeResults table answered).1, later) := by
  have hnamed : later.nameAll ((mentionedIn answered).map Origin.text) = later := by
    refine Correlation.Table.nameAll_of_contains fun nativeKey hmem => ?_
    obtain ⟨origin, horigin, rfl⟩ := List.mem_map.mp hmem
    exact h.contains (contains_mergeResults table horigin)
  rw [mergeResults_eq later, hnamed, mergeResults_fst_of_extends h]

theorem oneToOne_mergeResults {table : Correlation.Table} (htable : table.OneToOne)
    (answered : List (String × SearchResults)) :
    (mergeResults table answered).2.OneToOne := by
  rw [mergeResults_eq]
  exact htable.nameAll _

/-! ## The entities -/

theorem entitiesIn_subset_mentionedIn (answered : List (String × SearchResults)) :
    entitiesIn answered ⊆ mentionedIn answered := by
  intro origin h
  obtain ⟨entry, hentry, horigin⟩ := List.mem_flatMap.mp h
  exact List.mem_flatMap.mpr
    ⟨entry, hentry, SearchResults.entities_subset_mentions _ _ horigin⟩

theorem mem_entitiesOf {kind : EntityKind} {answered : List (String × SearchResults)}
    {origin : Origin} :
    origin ∈ entitiesOf kind answered ↔
      origin ∈ entitiesIn answered ∧ origin.kind = kind := by
  obtain ⟨provider, other, nativeId⟩ := origin
  simp only [entitiesIn, entitiesOf, List.mem_flatMap, SearchResults.mem_entities,
    List.mem_map, Origin.mk.injEq]
  constructor
  · rintro ⟨entry, hentry, id, hid, rfl, rfl, rfl⟩
    exact ⟨⟨entry, hentry, rfl, hid⟩, rfl⟩
  · rintro ⟨⟨entry, hentry, rfl, hid⟩, rfl⟩
    exact ⟨entry, hentry, nativeId, hid, rfl, rfl, rfl⟩

theorem length_entitiesOf (kind : EntityKind)
    (answered : List (String × SearchResults)) :
    (entitiesOf kind answered).length =
      (answered.flatMap fun entry => entry.2.idsOf kind).length := by
  simp [entitiesOf, List.length_flatMap]

theorem nodup_entitiesOf (kind : EntityKind) {answered : List (String × SearchResults)}
    (h : (answered.map Prod.fst).Nodup) : (entitiesOf kind answered).Nodup := by
  rw [entitiesOf, List.nodup_flatMap]
  constructor
  · intro entry _
    refine (entry.2.nodup_idsOf kind).map ?_
    intro id other hid
    exact congrArg Origin.nativeId hid
  · refine (List.pairwise_map.mp h).imp ?_
    intro first second hne origin hfirst hsecond
    obtain ⟨id, -, rfl⟩ := List.mem_map.mp hfirst
    obtain ⟨other, -, hsame⟩ := List.mem_map.mp hsecond
    exact hne (congrArg Origin.provider hsame).symm

section

variable (table : Correlation.Table) (answered : List (String × SearchResults))

theorem map_fst_flatMap_named {ν : Type} (kind : EntityKind)
    {named : SearchResults → (EntityKind → String → String) → List (String × ν)}
    (hnamed : ∀ results name,
      (named results name).map Prod.fst = (results.idsOf kind).map (name kind)) :
    (answered.flatMap fun entry => named entry.2 (table.name entry.1)).map Prod.fst =
      (entitiesOf kind answered).map table.nameOf := by
  rw [List.map_flatMap, entitiesOf, List.map_flatMap]
  simp only [hnamed, List.map_map]
  rfl

private theorem keys_ofList_named {ν : Type} (kind : EntityKind)
    {named : SearchResults → (EntityKind → String → String) → List (String × ν)}
    (hnamed : ∀ results name,
      (named results name).map Prod.fst = (results.idsOf kind).map (name kind)) :
    (Dict.ofList (answered.flatMap fun entry =>
        named entry.2 (table.name entry.1))).keys =
      ((entitiesOf kind answered).map table.nameOf).eraseDups := by
  rw [Dict.keys_ofList, map_fst_flatMap_named table answered kind hnamed]

theorem idsOf_joined (kind : EntityKind) :
    (joined table answered).results.idsOf kind =
      ((entitiesOf kind answered).map table.nameOf).eraseDups := by
  cases kind with
  | offer => exact keys_ofList_named _ _ _ SearchResults.map_fst_namedOffers
  | segment => exact keys_ofList_named _ _ _ SearchResults.map_fst_namedSegments
  | pricePlan => exact keys_ofList_named _ _ _ SearchResults.map_fst_namedPricePlans
  | itinerary => exact keys_ofList_named _ _ _ SearchResults.map_fst_namedCombinations

end

end FareGateway
