import FareGateway.Proofs.Naming

/-!
# Tables that have been loaded

A table is begun empty or loaded with stored pairs, and from then on it gives keys one
by one, until it is loaded again.  Giving passes over keys that are taken; loading takes
the pairs as they are.  So native keys that share a correlation key have shared it since
the table was last loaded, and that key stands for the last of them.
-/

namespace FareGateway

namespace Correlation

/-- What can be done to a table.  Making a new one is loading no pairs. -/
inductive Table.Change where
  | name (nativeKey : String)
  | replace (pairs : List (String × String))
  | load (source : KeySource) (pairs : List (String × String))
  | read (source : KeySource) (text : String)

namespace Table

def change (table : Table) : Change → Table
  | .name nativeKey => (table.keyOf nativeKey).2
  | .replace pairs => table.replace pairs
  | .load source pairs => ofPairs source pairs
  | .read source text => (ofJson? source text).getD table

def afterChanges (table : Table) (changes : List Change) : Table :=
  changes.foldl change table

/-- The pairs that were loaded last, those of a text only if it can be read. -/
def Change.loaded (loaded : List (String × String)) : Change → List (String × String)
  | .name _ => loaded
  | .replace pairs => listing pairs
  | .load _ pairs => listing pairs
  | .read _ text =>
      ((Json.read? text : Option (Dict String String)).map fun stored =>
        listing stored.entries).getD loaded

def lastLoaded (changes : List Change) : List (String × String) :=
  changes.foldl Change.loaded []

/-! ## What is loaded -/

theorem pairwise_listing (pairs : List (String × String)) :
    (listing pairs).Pairwise fun first second => first.1 ≤ second.1 := by
  refine (List.pairwise_mergeSort ?_ ?_ (Dict.ofList pairs).entries).imp of_decide_eq_true
  · intro first second third h h'
    exact decide_eq_true (String.le_trans (of_decide_eq_true h) (of_decide_eq_true h'))
  · intro first second
    simpa using String.le_total first.1 second.1

/-- The native key that is loaded last with a correlation key. -/
def IsLast (loaded : List (String × String)) (nativeKey key : String) : Prop :=
  (nativeKey, key) ∈ loaded ∧ ∀ other, (other, key) ∈ loaded → other ≤ nativeKey

theorem exists_isLast_of_mem {loaded : List (String × String)}
    (hsorted : loaded.Pairwise fun first second => first.1 ≤ second.1) {key : String}
    (hkey : key ∈ loaded.map Prod.snd) :
    ∃ nativeKey, (Dict.ofList (loaded.map Prod.swap)).get? key = some nativeKey ∧
      IsLast loaded nativeKey key := by
  induction loaded using List.reverseRecOn with
  | nil => cases hkey
  | append_singleton loaded pair ih =>
      have hstep : Dict.ofList ((loaded ++ [pair]).map Prod.swap) =
          (Dict.ofList (loaded.map Prod.swap)).insert pair.2 pair.1 := by
        rw [List.map_append]
        exact Dict.insertAll_append .empty _ _
      obtain ⟨hbefore, -, hpair⟩ := List.pairwise_append.mp hsorted
      rw [hstep, Dict.get?_insert]
      by_cases hlast : pair.2 = key
      · subst hlast
        refine ⟨pair.1, if_pos rfl, List.mem_append_right _ (List.mem_singleton_self pair), ?_⟩
        intro other hother
        rcases List.mem_append.mp hother with hother | hother
        · exact hpair _ hother _ (List.mem_singleton_self pair)
        · obtain rfl : other = pair.1 := congrArg Prod.fst (List.mem_singleton.mp hother)
          exact String.le_refl _
      · rw [List.map_append, List.mem_append] at hkey
        have hkey := hkey.resolve_right fun h => hlast (List.mem_singleton.mp h).symm
        obtain ⟨nativeKey, hget, hmem, hmax⟩ := ih hbefore hkey
        refine ⟨nativeKey, (if_neg hlast).trans hget, List.mem_append_left _ hmem, ?_⟩
        intro other hother
        rcases List.mem_append.mp hother with hother | hother
        · exact hmax other hother
        · exact absurd (congrArg Prod.snd (List.mem_singleton.mp hother)).symm hlast

/-- A table that has only given keys since these pairs were loaded. -/
structure LoadedFrom (table : Table) (loaded : List (String × String)) : Prop where
  nodup : (loaded.map Prod.fst).Nodup
  forward_of_mem : ∀ {nativeKey key}, (nativeKey, key) ∈ loaded →
    table.forward.get? nativeKey = some key
  reverse_of_mem : ∀ {key}, key ∈ loaded.map Prod.snd →
    ∃ nativeKey, table.reverse.get? key = some nativeKey ∧ IsLast loaded nativeKey key
  forward_of_reverse : ∀ {nativeKey key}, table.reverse.get? key = some nativeKey →
    table.forward.get? nativeKey = some key
  reverse_of_forward : ∀ {nativeKey key}, table.forward.get? nativeKey = some key →
    (nativeKey, key) ∉ loaded →
      table.reverse.get? key = some nativeKey ∧ key ∉ loaded.map Prod.snd

theorem loadedFrom_empty (source : KeySource) : (empty source).LoadedFrom [] where
  nodup := List.nodup_nil
  forward_of_mem h := by cases h
  reverse_of_mem h := by cases h
  forward_of_reverse h := by cases h
  reverse_of_forward h := by cases h

theorem loadedFrom_replace (table : Table) (pairs : List (String × String)) :
    (table.replace pairs).LoadedFrom (listing pairs) where
  nodup := nodup_listing pairs
  forward_of_mem h := get?_forward_replace.mpr h
  reverse_of_mem h := by
    rw [reverse_replace]
    exact exists_isLast_of_mem (pairwise_listing pairs) h
  forward_of_reverse {nativeKey key} h := by
    have hkey : key ∈ (listing pairs).map Prod.snd := by
      have hmem : key ∈ (table.replace pairs).reverse.keys :=
        List.mem_map_of_mem (Dict.get?_eq_some_iff.mp h)
      rw [reverse_replace, Dict.keys_ofList, List.mem_eraseDups, List.map_map] at hmem
      exact hmem
    obtain ⟨last, hlast, hmem, -⟩ := exists_isLast_of_mem (pairwise_listing pairs) hkey
    rw [← reverse_replace table, h, Option.some.injEq] at hlast
    rw [hlast]
    exact get?_forward_replace.mpr hmem
  reverse_of_forward h hnot := absurd (get?_forward_replace.mp h) hnot

namespace LoadedFrom

variable {table : Table} {loaded : List (String × String)}

theorem of_source (h : table.LoadedFrom loaded) (source : KeySource) :
    ({ table with source } : Table).LoadedFrom loaded where
  nodup := h.nodup
  forward_of_mem := h.forward_of_mem
  reverse_of_mem := h.reverse_of_mem
  forward_of_reverse := h.forward_of_reverse
  reverse_of_forward := h.reverse_of_forward

theorem link (h : table.LoadedFrom loaded) {nativeKey key : String}
    (hnative : table.forward.get? nativeKey = none)
    (hkey : table.reverse.get? key = none) :
    (table.link nativeKey key).LoadedFrom loaded := by
  -- Every loaded key is read back as something, so one that is not taken is not loaded.
  have hfresh : key ∉ loaded.map Prod.snd := by
    intro hmem
    obtain ⟨last, hlast, -⟩ := h.reverse_of_mem hmem
    rw [hkey] at hlast
    cases hlast
  have hforward {other : String} (hother : nativeKey ≠ other) :
      (table.link nativeKey key).forward.get? other = table.forward.get? other :=
    Dict.get?_insert_of_ne _ _ hother
  have hreverse {given : String} (hgiven : key ≠ given) :
      (table.link nativeKey key).reverse.get? given = table.reverse.get? given :=
    Dict.get?_insert_of_ne _ _ hgiven
  have hnative_ne {other given : String} (hother : table.forward.get? other = some given) :
      nativeKey ≠ other := by
    rintro rfl
    rw [hnative] at hother
    cases hother
  have hkey_ne {given other : String} (hgiven : table.reverse.get? given = some other) :
      key ≠ given := by
    rintro rfl
    rw [hkey] at hgiven
    cases hgiven
  refine ⟨h.nodup, ?_, ?_, ?_, ?_⟩
  · intro other given hmem
    have hother := h.forward_of_mem hmem
    rw [hforward (hnative_ne hother), hother]
  · intro given hmem
    obtain ⟨last, hlast, hisLast⟩ := h.reverse_of_mem hmem
    exact ⟨last, (hreverse (hkey_ne hlast)).trans hlast, hisLast⟩
  · intro other given hother
    by_cases hgiven : key = given
    · subst hgiven
      rw [Table.link, Dict.get?_insert_self, Option.some.injEq] at hother
      subst hother
      exact Dict.get?_insert_self _ _ _
    · rw [hreverse hgiven] at hother
      have hback := h.forward_of_reverse hother
      rw [hforward (hnative_ne hback), hback]
  · intro other given hother hnot
    by_cases hsame : nativeKey = other
    · subst hsame
      rw [Table.link, Dict.get?_insert_self, Option.some.injEq] at hother
      subst hother
      exact ⟨Dict.get?_insert_self _ _ _, hfresh⟩
    · rw [hforward hsame] at hother
      obtain ⟨hback, hnew⟩ := h.reverse_of_forward hother hnot
      exact ⟨(hreverse (hkey_ne hback)).trans hback, hnew⟩

theorem keyOf (h : table.LoadedFrom loaded) (nativeKey : String) :
    (table.keyOf nativeKey).2.LoadedFrom loaded := by
  cases hnative : table.forward.get? nativeKey with
  | some key => simpa [keyOf_of_get? hnative] using h
  | none =>
      rw [keyOf_of_get?_eq_none hnative]
      refine (h.of_source _).link hnative ?_
      rw [Dict.get?_eq_none_iff]
      exact table.source.key_freshPosition_not_mem table.reverse.keys

theorem change (h : table.LoadedFrom loaded) (change : Change) :
    (table.change change).LoadedFrom (change.loaded loaded) := by
  cases change with
  | name nativeKey => exact h.keyOf nativeKey
  | replace pairs => exact loadedFrom_replace table pairs
  | load source pairs => exact loadedFrom_replace _ pairs
  | read source text =>
      simp only [Table.change, Change.loaded, ofJson?]
      cases (Json.read? text : Option (Dict String String)) with
      | none => exact h
      | some stored => exact loadedFrom_replace _ stored.entries

theorem afterChanges (h : table.LoadedFrom loaded) (changes : List Change) :
    (table.afterChanges changes).LoadedFrom (changes.foldl Change.loaded loaded) := by
  induction changes generalizing table loaded with
  | nil => exact h
  | cons change changes ih => exact ih (h.change change)

/-! ## What keys stand for -/

theorem shared_iff (h : table.LoadedFrom loaded) {first second key : String}
    (hne : first ≠ second) :
    table.forward.get? first = some key ∧ table.forward.get? second = some key ↔
      (first, key) ∈ loaded ∧ (second, key) ∈ loaded := by
  constructor
  · rintro ⟨hfirst, hsecond⟩
    by_cases hloaded : key ∈ loaded.map Prod.snd
    · constructor
      · exact Classical.byContradiction fun hnot => (h.reverse_of_forward hfirst hnot).2 hloaded
      · exact Classical.byContradiction fun hnot => (h.reverse_of_forward hsecond hnot).2 hloaded
    · have hback := (h.reverse_of_forward hfirst fun hmem =>
        hloaded (List.mem_map_of_mem hmem)).1
      rw [(h.reverse_of_forward hsecond fun hmem => hloaded (List.mem_map_of_mem hmem)).1,
        Option.some.injEq] at hback
      exact absurd hback.symm hne
  · rintro ⟨hfirst, hsecond⟩
    exact ⟨h.forward_of_mem hfirst, h.forward_of_mem hsecond⟩

theorem oneToOne_iff (h : table.LoadedFrom loaded) :
    table.OneToOne ↔ (loaded.map Prod.snd).Nodup := by
  rw [List.nodup_map_iff_inj_on h.nodup.of_map]
  constructor
  · rintro htable ⟨first, key⟩ hfirst ⟨second, other⟩ hsecond rfl
    rw [htable.eq_of_get?_eq (h.forward_of_mem hfirst) (h.forward_of_mem hsecond)]
  · intro hinj nativeKey key
    refine ⟨fun hforward => ?_, h.forward_of_reverse⟩
    by_cases hmem : (nativeKey, key) ∈ loaded
    · obtain ⟨last, hback, hlast, -⟩ := h.reverse_of_mem (List.mem_map_of_mem hmem)
      cases hinj _ hlast _ hmem rfl
      exact hback
    · exact (h.reverse_of_forward hforward hmem).1

end LoadedFrom

/-- Whatever is done to a table, it is one-to-one just when no correlation key comes
twice among the pairs that were loaded last.  Native keys that share one have it from
there, and it is read as the last of them; all others are read back as themselves. -/
theorem keys_are_shared_only_by_loading (source : KeySource) (changes : List Change) :
    let table := (empty source).afterChanges changes
    let loaded := lastLoaded changes
    ((loaded.map Prod.snd).Nodup ↔
      (∀ first second key, table.forward.get? first = some key →
        table.forward.get? second = some key → first = second) ∧
      ∀ nativeKey, (table.keyOf nativeKey).2.nativeKeyOf (table.keyOf nativeKey).1 =
        .ok nativeKey) ∧
    (∀ first second key, first ≠ second →
      (table.forward.get? first = some key ∧ table.forward.get? second = some key ↔
        (first, key) ∈ loaded ∧ (second, key) ∈ loaded)) ∧
    (∀ nativeKey key, (nativeKey, key) ∈ loaded →
      table.keyOf nativeKey = (key, table) ∧
        ∃ last, IsLast loaded last key ∧ table.nativeKeyOf key = .ok last) ∧
    ∀ nativeKey, (nativeKey, (table.keyOf nativeKey).1) ∉ loaded →
      (table.keyOf nativeKey).2.nativeKeyOf (table.keyOf nativeKey).1 = .ok nativeKey := by
  intro table loaded
  have h : table.LoadedFrom loaded := (loadedFrom_empty source).afterChanges changes
  refine ⟨?_, ?_, ?_, ?_⟩
  · rw [← h.oneToOne_iff]
    constructor
    · intro htable
      exact ⟨fun _ _ _ => htable.eq_of_get?_eq, htable.nativeKeyOf_keyOf⟩
    · rintro ⟨hunique, -⟩
      rw [h.oneToOne_iff, List.nodup_map_iff_inj_on h.nodup.of_map]
      rintro ⟨first, key⟩ hfirst ⟨second, other⟩ hsecond rfl
      rw [hunique _ _ _ (h.forward_of_mem hfirst) (h.forward_of_mem hsecond)]
  · intro first second key hne
    exact h.shared_iff hne
  · intro nativeKey key hmem
    obtain ⟨last, hback, hlast⟩ := h.reverse_of_mem (List.mem_map_of_mem hmem)
    exact ⟨keyOf_of_get? (h.forward_of_mem hmem), last, hlast,
      nativeKeyOf_eq_ok_iff.mpr hback⟩
  · intro nativeKey hnot
    have hforward := table.get?_keyOf_self nativeKey
    rw [nativeKeyOf_eq_ok_iff]
    exact ((h.keyOf nativeKey).reverse_of_forward hforward hnot).1

/-- Two native keys share a loaded key, which is read as the second of them. -/
theorem loaded_key_is_shared :
    let table := (empty (.numbered "k")).afterChanges
      [.load (.numbered "k") [("a", "x"), ("b", "x")]]
    (table.keyOf "a").1 = "x" ∧ (table.keyOf "b").1 = "x" ∧
      (table.keyOf "a").2.nativeKeyOf "x" = .ok "b" := by
  have hlisting : listing [("a", "x"), ("b", "x")] = [("a", "x"), ("b", "x")] :=
    List.mergeSort_of_pairwise (by decide +kernel)
  simp only [afterChanges, List.foldl_cons, List.foldl_nil, change, ofPairs, replace, hlisting]
  decide +kernel

end Table

end Correlation

end FareGateway
