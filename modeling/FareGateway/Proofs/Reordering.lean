import FareGateway.Proofs.Hearing
import FareGateway.Proofs.Origins

/-!
# Searches in another order

The order of the providers decides which keys are given and in what order the
merged dictionaries stand.  Read back through the table that a search leaves, every
entity is again what its provider told of, and in every order these are the same.
Only where providers disagree about a passenger does it matter who comes first.
-/

namespace FareGateway

/-! ## Entities -/

/-- What an entity tells of itself, apart from its id and its references. -/
inductive Content where
  | offer (price : Price) (passengerRefs : List String) (expiration : Option Instant)
  | segment (segment : Segment)
  | pricePlan (plan : PricePlan)
  | itinerary
  deriving DecidableEq

/-- An entity whose id and references are keys of any sort. -/
structure Entity (κ : Type) where
  id : κ
  refs : List κ
  content : Content
  deriving DecidableEq

namespace Entity

variable {κ μ ν : Type}

def map (f : κ → μ) (entity : Entity κ) : Entity μ where
  id := f entity.id
  refs := entity.refs.map f
  content := entity.content

def places (entity : Entity κ) : List κ := entity.id :: entity.refs

theorem map_map (f : κ → μ) (g : μ → ν) (entity : Entity κ) :
    (entity.map f).map g = entity.map (g ∘ f) := by
  simp only [map, List.map_map, Function.comp_apply]

theorem map_congr {f g : κ → μ} {entity : Entity κ}
    (h : ∀ place ∈ entity.places, f place = g place) : entity.map f = entity.map g := by
  have hid : f entity.id = g entity.id := h _ List.mem_cons_self
  have hrefs : entity.refs.map f = entity.refs.map g :=
    List.map_congr_left fun place hplace => h place (List.mem_cons_of_mem _ hplace)
  rw [map, map, hid, hrefs]

end Entity

namespace SearchResults

/-- The entities in the dictionary of a kind, each place with its own kind. -/
def entitiesAs (results : SearchResults) :
    EntityKind → List (Entity (EntityKind × String))
  | .segment => results.segments.entries.map fun entry =>
      ⟨(.segment, entry.1), [], .segment entry.2⟩
  | .pricePlan => results.pricePlans.entries.map fun entry =>
      ⟨(.pricePlan, entry.1), [], .pricePlan entry.2⟩
  | .itinerary => results.combinations.entries.map fun entry =>
      ⟨(.itinerary, entry.1), entry.2.map (EntityKind.segment, ·), .itinerary⟩
  | .offer => results.offers.entries.map fun entry =>
      ⟨(.offer, entry.1), entry.2.shown,
        .offer entry.2.price entry.2.passengerRefs entry.2.expiration⟩

theorem shownAs_eq_flatMap (results : SearchResults) (kind : EntityKind) :
    results.shownAs kind = (results.entitiesAs kind).flatMap Entity.places := by
  cases kind <;>
    simp [shownAs, entitiesAs, Entity.places, Dict.keys, List.flatMap_map,
      ← List.map_eq_flatMap, Function.comp_def]

/-- The entities of a kind as the table knows them. -/
def readBack (results : SearchResults) (table : Correlation.Table) (kind : EntityKind) :
    List (Entity (EntityKind × Except Correlation.Error Origin)) :=
  (results.entitiesAs kind).map
    (Entity.map fun place => (place.1, Origin.ofKey table place.2))

end SearchResults

/-- The entities of a kind as the providers know them. -/
def toldEntities (told : List (String × SearchResults)) (kind : EntityKind) :
    List (Entity (EntityKind × Except Correlation.Error Origin)) :=
  told.flatMap fun entry => (entry.2.entitiesAs kind).map
    (Entity.map fun place => (place.1, .ok ⟨entry.1, place.1, place.2⟩))

def originsReadBack (origins : Dict String String) (table : Correlation.Table) :
    List (Except Correlation.Error Origin × String) :=
  origins.entries.map fun entry => (Origin.ofKey table entry.1, entry.2)

def toldOrigins (told : List (String × SearchResults)) :
    List (Except Correlation.Error Origin × String) :=
  (entitiesIn told).map fun origin => (.ok origin, origin.provider)

/-- The entries that the providers have for a passenger. -/
def toldGroups (told : List (String × SearchResults)) (id : String) :
    List PassengerGroup :=
  told.filterMap fun entry => entry.2.passengers.get? id

section

variable {table : Correlation.Table} {told : List (String × SearchResults)}

theorem places_subset_mentionedIn {entry : String × SearchResults} (hentry : entry ∈ told)
    {kind : EntityKind} {entity : Entity (EntityKind × String)}
    (hentity : entity ∈ entry.2.entitiesAs kind) {place : EntityKind × String}
    (hplace : place ∈ entity.places) :
    (⟨entry.1, place.1, place.2⟩ : Origin) ∈ mentionedIn told := by
  apply toldAs_subset_mentionedIn kind
  have hshown : place ∈ entry.2.shownAs kind := by
    rw [SearchResults.shownAs_eq_flatMap]
    exact List.mem_flatMap.mpr ⟨entity, hentity, hplace⟩
  exact List.mem_flatMap.mpr ⟨entry, hentry, List.mem_map_of_mem hshown⟩

section

variable (hids : (told.map Prod.fst).Nodup)
  (hinj : ∀ first ∈ entitiesIn told, ∀ second ∈ entitiesIn told,
    table.nameOf first = table.nameOf second → first = second)

include hids hinj

private theorem map_ofList_named {ν : Type} (kind : EntityKind)
    {named : SearchResults → (EntityKind → String → String) → List (String × ν)}
    (hnamed : ∀ results name,
      (named results name).map Prod.fst = (results.idsOf kind).map (name kind))
    (entityOf : String × ν → Entity (EntityKind × String))
    (hentities : ∀ provider results,
      (named results (table.name provider)).map entityOf =
        (results.entitiesAs kind).map
          (Entity.map fun place => Origin.shownIn table ⟨provider, place.1, place.2⟩)) :
    (Dict.ofList (told.flatMap fun entry =>
        named entry.2 (table.name entry.1))).entries.map entityOf =
      told.flatMap fun entry => (entry.2.entitiesAs kind).map
        (Entity.map fun place => Origin.shownIn table ⟨entry.1, place.1, place.2⟩) := by
  rw [entries_ofList_named hids hinj kind hnamed, List.map_flatMap]
  simp only [hentities]

theorem entitiesAs_joined (kind : EntityKind) :
    (joined table told).results.entitiesAs kind =
      told.flatMap fun entry => (entry.2.entitiesAs kind).map
        (Entity.map fun place => Origin.shownIn table ⟨entry.1, place.1, place.2⟩) := by
  cases kind with
  | segment =>
      apply map_ofList_named hids hinj _ SearchResults.map_fst_namedSegments
      intro provider results
      simp only [SearchResults.namedSegments, SearchResults.entitiesAs, List.map_map]
      rfl
  | pricePlan =>
      apply map_ofList_named hids hinj _ SearchResults.map_fst_namedPricePlans
      intro provider results
      simp only [SearchResults.namedPricePlans, SearchResults.entitiesAs, List.map_map]
      rfl
  | itinerary =>
      apply map_ofList_named hids hinj _ SearchResults.map_fst_namedCombinations
      intro provider results
      simp only [SearchResults.namedCombinations, SearchResults.entitiesAs,
        List.map_map]
      refine List.map_congr_left fun entry _ => ?_
      simp only [Function.comp_apply, Entity.map, List.map_map]
      rfl
  | offer =>
      apply map_ofList_named hids hinj _ SearchResults.map_fst_namedOffers
      intro provider results
      simp only [SearchResults.namedOffers, SearchResults.entitiesAs, List.map_map]
      refine List.map_congr_left fun entry _ => ?_
      simp only [Function.comp_apply, Entity.map, Offer.shown_rename, Offer.mentions_eq,
        List.map_map]
      rfl

theorem readBack_joined (htable : table.OneToOne)
    (hknown : ∀ origin ∈ mentionedIn told, origin.KnownTo table) (kind : EntityKind) :
    (joined table told).results.readBack table kind = toldEntities told kind := by
  rw [SearchResults.readBack, entitiesAs_joined hids hinj, List.map_flatMap, toldEntities]
  refine List.flatMap_congr fun entry hentry => ?_
  rw [List.map_map]
  refine List.map_congr_left fun entity hentity => ?_
  rw [Function.comp_apply, Entity.map_map]
  apply Entity.map_congr
  intro place hplace
  have horigin := hknown _ (places_subset_mentionedIn hentry hentity hplace)
  rw [Function.comp_apply, Origin.shownIn, horigin.ofKey_nameOf htable]

theorem originsReadBack_joined (htable : table.OneToOne)
    (hknown : ∀ origin ∈ mentionedIn told, origin.KnownTo table) :
    originsReadBack (joined table told).origins table = toldOrigins told := by
  have hnodup : (((entitiesIn told).map fun origin =>
      (table.nameOf origin, origin.provider)).map Prod.fst).Nodup := by
    rw [List.map_map]
    exact (List.nodup_map_iff_inj_on (nodup_entitiesIn hids)).mpr hinj
  rw [originsReadBack, joined, Dict.entries_ofList hnodup, List.map_map, toldOrigins]
  refine List.map_congr_left fun origin horigin => ?_
  have hname := hknown _ (entitiesIn_subset_mentionedIn told horigin)
  rw [Function.comp_apply, hname.ofKey_nameOf htable]

end

end

/-! ## Reports -/

abbrev Found := List (String × Except Diagnostic.Cause SearchResults)

/-- A search that found this from one table tells all of it again, and only that, if
one reads its report through the other. -/
structure Recounts (found : Found) (before : Correlation.Table) (report : SearchReport)
    (after : Correlation.Table) : Prop where
  entities : ∀ kind,
    report.results.readBack after kind = toldEntities (successes found) kind
  origins : originsReadBack report.origins after = toldOrigins (successes found)
  diagnostics : report.diagnostics = failures found
  names : ∀ nativeKey, after.contains nativeKey ↔
    before.contains nativeKey ∨
      nativeKey ∈ (mentionedIn (successes found)).map Origin.text
  passengerIds : ∀ id, id ∈ report.results.passengers.keys ↔
    id ∈ (successes found).flatMap fun entry => entry.2.passengers.keys
  passengers : ∀ id,
    report.results.passengers.get? id = (toldGroups (successes found) id).head?

namespace Correlation.Table

theorem contains_keyOf_iff {table : Table} {nativeKey other : String} :
    (table.keyOf other).2.contains nativeKey ↔
      table.contains nativeKey ∨ nativeKey = other := by
  cases hforward : table.forward.get? other with
  | some key =>
      have hcontains : table.contains other := by
        rw [contains, Dict.contains, hforward]
        rfl
      rw [keyOf_of_get? hforward]
      constructor
      · exact .inl
      · rintro (hold | rfl)
        · exact hold
        · exact hcontains
  | none =>
      have hother : other ∉ table.forward.keys := Dict.get?_eq_none_iff.mp hforward
      rw [keyOf_of_get?_eq_none hforward]
      simp only [contains, link, Dict.contains_iff, Dict.keys_insert, hother, if_false,
        List.mem_append, List.mem_singleton]

theorem contains_nameAll_iff {table : Table} {nativeKey : String}
    {nativeKeys : List String} :
    (table.nameAll nativeKeys).contains nativeKey ↔
      table.contains nativeKey ∨ nativeKey ∈ nativeKeys := by
  induction nativeKeys generalizing table with
  | nil => simp [nameAll]
  | cons first rest ih =>
      have hcons : table.nameAll (first :: rest) = (table.keyOf first).2.nameAll rest :=
        rfl
      rw [hcons, ih, contains_keyOf_iff, List.mem_cons, or_assoc]

end Correlation.Table

theorem map_fst_successes_sublist (found : Found) :
    ((successes found).map Prod.fst).Sublist (found.map Prod.fst) := by
  induction found with
  | nil => exact List.Sublist.refl _
  | cons entry found ih =>
      obtain ⟨id, outcome⟩ := entry
      cases outcome with
      | ok results => exact ih.cons_cons id
      | error cause => exact ih.cons id

theorem recounts_reportOn {table : Correlation.Table} {found : Found}
    (htable : table.OneToOne) (hids : (found.map Prod.fst).Nodup)
    (hbars : ∀ id ∈ found.map Prod.fst, '|' ∉ id.toList) (hsome : successes found ≠ []) :
    ∃ report, (reportOn table found).1 = .ok report ∧
      Recounts found table report (reportOn table found).2 := by
  have hfound : found ≠ [] := by
    rintro rfl
    exact hsome rfl
  have hreport : reportOn table found =
      let merging := mergeResults table (successes found)
      (.ok ⟨.merged, merging.1.results, merging.1.origins, failures found⟩,
        merging.2) := by
    simp only [reportOn, hfound, hsome, if_false, firstRepeated?_nil_eq_none_iff.mpr hids]
  have hsublist := map_fst_successes_sublist found
  have hplain : ∀ id ∈ (successes found).map Prod.fst, '|' ∉ id.toList :=
    fun id hid => hbars id (hsublist.subset hid)
  have hnamed : (mergeResults table (successes found)).2.OneToOne :=
    oneToOne_mergeResults htable _
  have hinj : ∀ first ∈ entitiesIn (successes found),
      ∀ second ∈ entitiesIn (successes found),
      (mergeResults table (successes found)).2.nameOf first =
        (mergeResults table (successes found)).2.nameOf second → first = second := by
    intro first hfirst second hsecond
    exact nameOf_mergeResults_inj htable hplain
      (entitiesIn_subset_mentionedIn _ hfirst) (entitiesIn_subset_mentionedIn _ hsecond)
  have hknown : ∀ origin ∈ mentionedIn (successes found),
      origin.KnownTo (mergeResults table (successes found)).2 := by
    intro origin horigin
    exact ⟨contains_mergeResults table horigin,
      hplain _ (provider_mem_of_mem_mentionedIn horigin)⟩
  rw [hreport]
  refine ⟨_, rfl, ?_, ?_, rfl, ?_, ?_, ?_⟩
  · intro kind
    simp only [mergeResults_fst table]
    exact readBack_joined (hsublist.nodup hids) hinj hnamed hknown kind
  · simp only [mergeResults_fst table]
    exact originsReadBack_joined (hsublist.nodup hids) hinj hnamed hknown
  · intro nativeKey
    rw [mergeResults_eq]
    exact Correlation.Table.contains_nameAll_iff
  · intro id
    simp only [mergeResults_fst table, keys_passengers_joined, List.mem_eraseDups]
  · intro id
    simp only [mergeResults_fst table, get?_passengers_joined, toldGroups,
      List.head?_filterMap]

/-! ## Another order -/

theorem successes_perm {found other : Found} (h : found.Perm other) :
    (successes found).Perm (successes other) :=
  h.filterMap _

theorem failures_perm {found other : Found} (h : found.Perm other) :
    (failures found).Perm (failures other) :=
  h.filterMap _

section

variable {told other : List (String × SearchResults)}

theorem toldEntities_perm (h : told.Perm other) (kind : EntityKind) :
    (toldEntities told kind).Perm (toldEntities other kind) :=
  h.flatMap_right _

theorem toldOrigins_perm (h : told.Perm other) :
    (toldOrigins told).Perm (toldOrigins other) :=
  (h.flatMap_right _).map _

theorem mem_mentionedIn_iff_of_perm (h : told.Perm other) (nativeKey : String) :
    nativeKey ∈ (mentionedIn told).map Origin.text ↔
      nativeKey ∈ (mentionedIn other).map Origin.text :=
  ((h.flatMap_right _).map _).mem_iff

theorem head?_toldGroups_of_perm (h : told.Perm other) {id : String}
    (hagree : ∀ group ∈ toldGroups told id, ∀ second ∈ toldGroups told id,
      group = second) :
    (toldGroups told id).head? = (toldGroups other id).head? := by
  have hgroups : (toldGroups told id).Perm (toldGroups other id) := h.filterMap _
  cases htold : toldGroups told id with
  | nil =>
      rw [htold] at hgroups
      rw [hgroups.nil_eq]
  | cons group rest =>
      cases hother : toldGroups other id with
      | nil =>
          rw [htold, hother] at hgroups
          exact absurd hgroups.eq_nil (List.cons_ne_nil _ _)
      | cons second others =>
          have hsecond : second ∈ toldGroups told id := by
            rw [hgroups.mem_iff, hother]
            exact List.mem_cons_self
          have hgroup : group ∈ toldGroups told id := by
            rw [htold]
            exact List.mem_cons_self
          rw [List.head?_cons, List.head?_cons, hagree group hgroup second hsecond]

end

namespace Gateway

variable {first second : Gateway} {participants others : List Participant}
  {timeout deadline : Nat}

theorem recounts_searchAmong (request : SearchRequest) (htable : first.table.OneToOne)
    (hids : ((outcomesAmong timeout (first.resolve participants)).map Prod.fst).Nodup)
    (hbars : ∀ id ∈ (outcomesAmong timeout (first.resolve participants)).map Prod.fst,
      '|' ∉ id.toList)
    (hsome : successes (outcomesAmong timeout (first.resolve participants)) ≠ []) :
    let step := first.searchAmong request participants timeout
    ∃ report, step.result = .ok report ∧
      Recounts (outcomesAmong timeout (first.resolve participants)) first.table report
        step.gateway.table := by
  intro step
  obtain ⟨report, hreport, hrecounts⟩ := recounts_reportOn htable hids hbars hsome
  have hstep := first.searchAmong_eq_reportOn request participants timeout
  rw [← hstep] at hreport hrecounts
  exact ⟨report, hreport, hrecounts⟩

/-- Two searches of which each provider comes to the same, in whatever order, show the
same entities with the same references and origins, have the same to say of failures,
and name the same.  They have the same passengers, and the same entry for each about
whom the providers agree. -/
theorem entities_do_not_depend_on_order (request again : SearchRequest)
    (htable : first.table.OneToOne) (hother : second.table.OneToOne)
    (hnames : ∀ nativeKey,
      first.table.contains nativeKey ↔ second.table.contains nativeKey)
    (hids : ((first.resolve participants).map Prod.fst).Nodup)
    (hbars : ∀ id ∈ (first.resolve participants).map Prod.fst, '|' ∉ id.toList)
    (hperm : (outcomesAmong timeout (first.resolve participants)).Perm
      (outcomesAmong deadline (second.resolve others)))
    (hsome : successes (outcomesAmong timeout (first.resolve participants)) ≠ []) :
    let told := successes (outcomesAmong timeout (first.resolve participants))
    let step := first.searchAmong request participants timeout
    let reordered := second.searchAmong again others deadline
    ∃ report other, step.result = .ok report ∧ reordered.result = .ok other ∧
      (∀ kind, (report.results.readBack step.gateway.table kind).Perm
        (other.results.readBack reordered.gateway.table kind)) ∧
      (∀ kind, report.results.readBack step.gateway.table kind = toldEntities told kind) ∧
      (originsReadBack report.origins step.gateway.table).Perm
        (originsReadBack other.origins reordered.gateway.table) ∧
      originsReadBack report.origins step.gateway.table = toldOrigins told ∧
      report.diagnostics.Perm other.diagnostics ∧
      (∀ nativeKey, step.gateway.table.contains nativeKey ↔
        reordered.gateway.table.contains nativeKey) ∧
      (∀ id, id ∈ report.results.passengers.keys ↔ id ∈ other.results.passengers.keys) ∧
      ∀ id, (∀ group ∈ toldGroups told id, ∀ second ∈ toldGroups told id,
          group = second) →
        report.results.passengers.get? id = other.results.passengers.get? id := by
  intro told step reordered
  have hlisted : (outcomesAmong timeout (first.resolve participants)).map Prod.fst =
      (first.resolve participants).map Prod.fst := by
    rw [outcomesAmong, List.map_map]
    rfl
  rw [← hlisted] at hids hbars
  have hlistedOther := hperm.map Prod.fst
  have hsuccesses : told.Perm _ := successes_perm hperm
  have hsomeOther : successes (outcomesAmong deadline (second.resolve others)) ≠ [] := by
    intro hnil
    rw [hnil] at hsuccesses
    exact hsome hsuccesses.eq_nil
  obtain ⟨report, hreport, hrecounts⟩ :=
    recounts_searchAmong request htable hids hbars hsome
  obtain ⟨other, hresult, hagain⟩ :=
    recounts_searchAmong again hother (hlistedOther.nodup_iff.mp hids)
      (fun id hid => hbars id (hlistedOther.mem_iff.mpr hid)) hsomeOther
  refine ⟨report, other, hreport, hresult, ?_, hrecounts.entities, ?_, hrecounts.origins,
    ?_, ?_, ?_, ?_⟩
  · intro kind
    rw [hrecounts.entities, hagain.entities]
    exact toldEntities_perm hsuccesses kind
  · rw [hrecounts.origins, hagain.origins]
    exact toldOrigins_perm hsuccesses
  · rw [hrecounts.diagnostics, hagain.diagnostics]
    exact failures_perm hperm
  · intro nativeKey
    rw [hrecounts.names, hagain.names, hnames, mem_mentionedIn_iff_of_perm hsuccesses]
  · intro id
    rw [hrecounts.passengerIds, hagain.passengerIds]
    exact (hsuccesses.flatMap_right _).mem_iff
  · intro id hagree
    rw [hrecounts.passengers, hagain.passengers]
    exact head?_toldGroups_of_perm hsuccesses hagree

theorem resolve_perm (gateway : Gateway) (h : participants.Perm others) :
    (gateway.resolve participants).Perm (gateway.resolve others) :=
  h.filterMap _

/-- Two providers in either order.  The same key stands for another offer, and the
passenger on whom they disagree is another; all the rest is the same. -/
theorem two_providers_in_either_order :
    let gateway := Gateway.new .empty {} (.empty (.numbered "k"))
    let finding (count : UInt32) : Provider := .replying {
      answer := .success {
        offers := Dict.ofList [("x", { (default : Offer) with segmentRefs := ["s"] })]
        segments := Dict.ofList [("s", default)]
        passengers := Dict.ofList [("p", ⟨.adult, 1⟩), ("q", ⟨.child, count⟩)] } }
    let participants : List Participant := [.guest "a" (finding 1), .guest "b" (finding 2)]
    ∃ report other,
      (gateway.searchAmong default participants 1).result = .ok report ∧
      (gateway.searchAmong default participants.reverse 1).result = .ok other ∧
      (∀ kind, (report.results.readBack
          (gateway.searchAmong default participants 1).gateway.table kind).Perm
        (other.results.readBack
          (gateway.searchAmong default participants.reverse 1).gateway.table kind)) ∧
      Origin.ofKey (gateway.searchAmong default participants 1).gateway.table "k1" =
        .ok ⟨"a", .offer, "x"⟩ ∧
      Origin.ofKey (gateway.searchAmong default participants.reverse 1).gateway.table "k1" =
        .ok ⟨"b", .offer, "x"⟩ ∧
      report.results.passengers.get? "p" = other.results.passengers.get? "p" ∧
      (gateway.searchAmong default participants 1).result.map
          (fun found => found.results.passengers.get? "q") ≠
        (gateway.searchAmong default participants.reverse 1).result.map
          (fun found => found.results.passengers.get? "q") := by
  intro gateway finding participants
  have hids : ((gateway.resolve participants).map Prod.fst).Nodup := by decide +kernel
  have hbars : ∀ id ∈ (gateway.resolve participants).map Prod.fst, '|' ∉ id.toList := by
    decide +kernel
  have hperm : (outcomesAmong 1 (gateway.resolve participants)).Perm
      (outcomesAmong 1 (gateway.resolve participants.reverse)) :=
    (gateway.resolve_perm participants.reverse_perm.symm).map _
  have hsome : successes (outcomesAmong 1 (gateway.resolve participants)) ≠ [] := by
    decide +kernel
  obtain ⟨report, other, hreport, hother, hentities, -, -, -, -, -, -, hpassengers⟩ :=
    entities_do_not_depend_on_order default default
      (Correlation.Table.oneToOne_empty _) (Correlation.Table.oneToOne_empty _)
      (fun _ => Iff.rfl) hids hbars hperm hsome
  exact ⟨report, other, hreport, hother, hentities, by decide +kernel, by decide +kernel,
    hpassengers "p" (by decide +kernel), by decide +kernel⟩

end Gateway

end FareGateway
