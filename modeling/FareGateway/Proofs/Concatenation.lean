import FareGateway.Proofs.Clashes

/-!
# A merge without clashes

When no provider has a bar in its id, all entities have keys of their own, and
merging is renaming and concatenation: the entries of one provider after the
other, each under its key.  Of passengers the first entry stays.
-/

namespace FareGateway

theorem Entries.get?_flatMap {ι κ ν : Type} [DecidableEq κ] (entriesOf : ι → List (κ × ν))
    (key : κ) (items : List ι) :
    Entries.get? key (items.flatMap entriesOf) =
      items.findSome? fun item => Entries.get? key (entriesOf item) := by
  induction items with
  | nil => rfl
  | cons item items ih =>
      rw [List.flatMap_cons, Entries.get?_append, ih, List.findSome?_cons]
      cases Entries.get? key (entriesOf item) <;> rfl

namespace SearchResults

theorem nodup_entities (provider : String) (results : SearchResults) :
    (results.entities provider).Nodup := by
  rw [entities, List.nodup_flatMap]
  constructor
  · intro kind _
    refine (results.nodup_idsOf kind).map ?_
    intro id other hid
    exact congrArg Origin.nativeId hid
  · have hkinds : [EntityKind.segment, .pricePlan, .itinerary, .offer].Nodup := by decide
    refine List.Pairwise.imp ?_ hkinds
    intro first second hne origin hfirst hsecond
    obtain ⟨id, -, rfl⟩ := List.mem_map.mp hfirst
    obtain ⟨other, -, hsame⟩ := List.mem_map.mp hsecond
    exact hne (congrArg Origin.kind hsame).symm

end SearchResults

variable {table : Correlation.Table} {answered : List (String × SearchResults)}

theorem nodup_entitiesIn (h : (answered.map Prod.fst).Nodup) :
    (entitiesIn answered).Nodup := by
  rw [entitiesIn, List.nodup_flatMap]
  constructor
  · intro entry _
    exact entry.2.nodup_entities entry.1
  · refine (List.pairwise_map.mp h).imp ?_
    intro first second hne origin hfirst hsecond
    have hfirst := (SearchResults.mem_entities.mp hfirst).1
    have hsecond := (SearchResults.mem_entities.mp hsecond).1
    exact hne (hfirst.symm.trans hsecond)

theorem provider_mem_of_mem_mentionedIn {origin : Origin}
    (h : origin ∈ mentionedIn answered) : origin.provider ∈ answered.map Prod.fst := by
  obtain ⟨entry, hentry, horigin⟩ := List.mem_flatMap.mp h
  have hprovider : origin.provider = entry.1 := by
    simp only [SearchResults.mentions, Offer.mentions, List.mem_append, List.mem_map,
      List.mem_flatMap, List.mem_cons] at horigin
    rcases horigin with ((⟨_, _, rfl⟩ | ⟨_, _, rfl⟩) | ⟨_, _, rfl | ⟨_, _, rfl⟩⟩) |
      ⟨_, _, rfl | ⟨_, _, rfl⟩ | ⟨_, _, rfl⟩⟩ <;> rfl
  rw [hprovider]
  exact List.mem_map_of_mem hentry

theorem nameOf_mergeResults_inj (htable : table.OneToOne)
    (hbars : ∀ id ∈ answered.map Prod.fst, '|' ∉ id.toList) {first second : Origin}
    (hfirst : first ∈ mentionedIn answered) (hsecond : second ∈ mentionedIn answered)
    (hname : (mergeResults table answered).2.nameOf first =
      (mergeResults table answered).2.nameOf second) : first = second := by
  rw [nameOf_mergeResults_eq_iff htable hfirst hsecond] at hname
  rcases hname with hsame | hoverlaps | hoverlaps
  · exact hsame
  · exact absurd (Origin.bar_mem_of_overlaps hoverlaps)
      (hbars _ (provider_mem_of_mem_mentionedIn hsecond))
  · exact absurd (Origin.bar_mem_of_overlaps hoverlaps)
      (hbars _ (provider_mem_of_mem_mentionedIn hfirst))

/-! ## The dictionaries -/

section

variable (hids : (answered.map Prod.fst).Nodup)
  (hinj : ∀ first ∈ entitiesIn answered, ∀ second ∈ entitiesIn answered,
    table.nameOf first = table.nameOf second → first = second)

include hids hinj

theorem entries_ofList_named {ν : Type} (kind : EntityKind)
    {named : SearchResults → (EntityKind → String → String) → List (String × ν)}
    (hnamed : ∀ results name,
      (named results name).map Prod.fst = (results.idsOf kind).map (name kind)) :
    (Dict.ofList (answered.flatMap fun entry =>
        named entry.2 (table.name entry.1))).entries =
      answered.flatMap fun entry => named entry.2 (table.name entry.1) := by
  apply Dict.entries_ofList
  rw [map_fst_flatMap_named table answered kind hnamed,
    List.nodup_map_iff_inj_on (nodup_entitiesOf kind hids)]
  intro first hfirst second hsecond
  exact hinj first (mem_entitiesOf.mp hfirst).1 second (mem_entitiesOf.mp hsecond).1

theorem get?_origins_joined {key provider : String} :
    (joined table answered).origins.get? key = some provider ↔
      ∃ origin ∈ entitiesIn answered,
        origin.provider = provider ∧ table.nameOf origin = key := by
  have hnodup : (((entitiesIn answered).map fun origin =>
      (table.nameOf origin, origin.provider)).map Prod.fst).Nodup := by
    rw [List.map_map]
    exact (List.nodup_map_iff_inj_on (nodup_entitiesIn hids)).mpr hinj
  rw [joined, Dict.get?_eq_some_iff, Dict.entries_ofList hnodup, List.mem_map]
  simp only [Prod.mk.injEq, and_comm]

end

theorem mem_keys_origins_joined {key : String} :
    key ∈ (joined table answered).origins.keys ↔
      ∃ kind, key ∈ (joined table answered).results.idsOf kind := by
  simp only [idsOf_joined, List.mem_eraseDups, List.mem_map, mem_entitiesOf]
  rw [joined, Dict.keys_ofList, List.mem_eraseDups, List.map_map, List.mem_map]
  constructor
  · rintro ⟨origin, horigin, hkey⟩
    exact ⟨origin.kind, origin, ⟨horigin, rfl⟩, hkey⟩
  · rintro ⟨kind, origin, ⟨horigin, -⟩, hkey⟩
    exact ⟨origin, horigin, hkey⟩

theorem keys_passengers_joined :
    (joined table answered).results.passengers.keys =
      (answered.flatMap fun entry => entry.2.passengers.keys).eraseDups := by
  rw [joined, Dict.keys_insertNew_empty, List.map_flatMap]
  rfl

theorem get?_passengers_joined (id : String) :
    (joined table answered).results.passengers.get? id =
      answered.findSome? fun entry => entry.2.passengers.get? id := by
  rw [joined, Dict.get?_insertNew, Dict.get?_empty, Option.none_or, Entries.get?_flatMap]
  rfl

namespace Gateway

variable {gateway : Gateway} {participants : List Participant} {timeout : Nat}

/-- Of providers without bars in their ids, a search shows all that they found, one
provider after the other, under the keys of the table that it leaves. -/
theorem merged_is_renamed_concatenation (request : SearchRequest)
    (htable : gateway.table.OneToOne)
    (hids : ((gateway.resolve participants).map Prod.fst).Nodup)
    (hbars : ∀ id ∈ (gateway.resolve participants).map Prod.fst, '|' ∉ id.toList)
    (hanswered : gateway.answers participants timeout ≠ []) :
    let answered := gateway.answers participants timeout
    let step := gateway.searchAmong request participants timeout
    let table := step.gateway.table
    ∃ report, step.result = .ok report ∧
      (∀ origin ∈ mentionedIn answered,
        table.forward.get? origin.text = some (table.nameOf origin)) ∧
      report.results.offers.entries =
        answered.flatMap (fun entry => entry.2.namedOffers (table.name entry.1)) ∧
      report.results.segments.entries =
        answered.flatMap (fun entry => entry.2.namedSegments (table.name entry.1)) ∧
      report.results.pricePlans.entries =
        answered.flatMap (fun entry => entry.2.namedPricePlans (table.name entry.1)) ∧
      report.results.combinations.entries =
        answered.flatMap (fun entry => entry.2.namedCombinations (table.name entry.1)) ∧
      report.results.passengers.keys =
        (answered.flatMap fun entry => entry.2.passengers.keys).eraseDups ∧
      (∀ id, report.results.passengers.get? id =
        answered.findSome? fun entry => entry.2.passengers.get? id) ∧
      (∀ key provider, report.origins.get? key = some provider ↔
        ∃ origin ∈ entitiesIn answered,
          origin.provider = provider ∧ table.nameOf origin = key) ∧
      ∀ key, key ∈ report.origins.keys ↔ ∃ kind, key ∈ report.results.idsOf kind := by
  intro answered step table
  have hsublist := map_fst_answers_sublist gateway participants timeout
  have hprovider : (answered.map Prod.fst).Nodup := hsublist.nodup hids
  have hsome : gateway.resolve participants ≠ [] := by
    intro hnil
    rw [hnil, List.map_nil] at hsublist
    exact hanswered (List.map_eq_nil_iff.mp (List.sublist_nil.mp hsublist))
  obtain ⟨hresult, hnamed⟩ := searchAmong_of_answered request timeout hsome
    (firstRepeated?_nil_eq_none_iff.mpr hids) hanswered
  have hinj : ∀ first ∈ entitiesIn answered, ∀ second ∈ entitiesIn answered,
      table.nameOf first = table.nameOf second → first = second := by
    intro first hfirst second hsecond hname
    refine nameOf_mergeResults_inj htable (fun id hid => hbars id (hsublist.subset hid))
      (entitiesIn_subset_mentionedIn _ hfirst) (entitiesIn_subset_mentionedIn _ hsecond) ?_
    rw [← hnamed]
    exact hname
  rw [mergeResults_fst, ← hnamed] at hresult
  refine ⟨_, hresult, ?_, ?_, ?_, ?_, ?_, ?_, ?_, ?_, ?_⟩
  · intro origin horigin
    apply Correlation.Table.get?_nameOf
    change (gateway.searchAmong request participants timeout).gateway.table.contains _
    rw [hnamed]
    exact contains_mergeResults _ horigin
  · exact entries_ofList_named hprovider hinj _ SearchResults.map_fst_namedOffers
  · exact entries_ofList_named hprovider hinj _ SearchResults.map_fst_namedSegments
  · exact entries_ofList_named hprovider hinj _ SearchResults.map_fst_namedPricePlans
  · exact entries_ofList_named hprovider hinj _ SearchResults.map_fst_namedCombinations
  · exact keys_passengers_joined
  · exact get?_passengers_joined
  · intro key provider
    exact get?_origins_joined hprovider hinj
  · intro key
    exact mem_keys_origins_joined

theorem merged_offers_of_two_offerings :
    let gateway := Gateway.new .empty {} (.empty (.numbered "k"))
    let participants : List Participant :=
      [.guest "a" (.offering "x"), .guest "b" (.offering "x")]
    gateway.table.OneToOne ∧
      ((gateway.resolve participants).map Prod.fst).Nodup ∧
      (∀ id ∈ (gateway.resolve participants).map Prod.fst, '|' ∉ id.toList) ∧
      gateway.answers participants 1 ≠ [] ∧
      ∃ report, (gateway.searchAmong default participants 1).result = .ok report ∧
        report.results.offers.entries = [("k0", default), ("k1", default)] := by
  intro gateway participants
  have htable : gateway.table.OneToOne := Correlation.Table.oneToOne_empty _
  have hids : ((gateway.resolve participants).map Prod.fst).Nodup := by decide +kernel
  have hbars : ∀ id ∈ (gateway.resolve participants).map Prod.fst, '|' ∉ id.toList := by
    decide +kernel
  have hanswered : gateway.answers participants 1 ≠ [] := by decide +kernel
  obtain ⟨report, hok, -, hoffers, -⟩ :=
    merged_is_renamed_concatenation default htable hids hbars hanswered
  exact ⟨htable, hids, hbars, hanswered, report, hok, hoffers.trans (by decide +kernel)⟩

end Gateway

end FareGateway
