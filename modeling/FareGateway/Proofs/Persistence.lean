import FareGateway.Proofs.Loading
import FareGateway.Proofs.Printing

/-!
# Tables that are stored and loaded again

Only the forward dictionary of a table is stored.  It determines the other one: in every
table that can be reached, a correlation key stands for the last of the native keys that
have it.  A table that is loaded from what was stored, as pairs or as JSON, therefore
finds the same in both directions.
-/

namespace FareGateway

theorem Dict.perm_entries_of_get?_eq {κ ν : Type} [DecidableEq κ] {first second : Dict κ ν}
    (h : ∀ key, first.get? key = second.get? key) :
    first.entries.Perm second.entries := by
  rw [List.perm_ext_iff_of_nodup first.nodup_keys.of_map second.nodup_keys.of_map]
  rintro ⟨key, value⟩
  rw [← get?_eq_some_iff, ← get?_eq_some_iff, h]

namespace Correlation

theorem mem_listing {dict : Dict String String} {pair : String × String} :
    pair ∈ listing dict.entries ↔ pair ∈ dict.entries := by
  rw [listing, List.mem_mergeSort, Dict.ofList_entries]

namespace Table

/-! ## The forward dictionary determines the other one -/

theorem LoadedFrom.exists_reverse {table : Table} {loaded : List (String × String)}
    (h : table.LoadedFrom loaded) {nativeKey key : String}
    (hforward : table.forward.get? nativeKey = some key) :
    ∃ last, table.reverse.get? key = some last := by
  by_cases hmem : (nativeKey, key) ∈ loaded
  · obtain ⟨last, hback, -⟩ := h.reverse_of_mem (List.mem_map_of_mem hmem)
    exact ⟨last, hback⟩
  · exact ⟨nativeKey, (h.reverse_of_forward hforward hmem).1⟩

theorem LoadedFrom.get?_reverse_eq_some_iff {table : Table}
    {loaded : List (String × String)} (h : table.LoadedFrom loaded)
    {nativeKey key : String} :
    table.reverse.get? key = some nativeKey ↔
      table.forward.get? nativeKey = some key ∧
        ∀ other, table.forward.get? other = some key → other ≤ nativeKey := by
  have hlast {last : String} (hback : table.reverse.get? key = some last) {other : String}
      (hother : table.forward.get? other = some key) : other ≤ last := by
    by_cases hmem : (other, key) ∈ loaded
    · obtain ⟨found, hfound, -, hmax⟩ := h.reverse_of_mem (List.mem_map_of_mem hmem)
      rw [hback, Option.some.injEq] at hfound
      exact hfound ▸ hmax other hmem
    · rw [(h.reverse_of_forward hother hmem).1, Option.some.injEq] at hback
      exact hback ▸ String.le_refl _
  constructor
  · intro hback
    exact ⟨h.forward_of_reverse hback, fun _ => hlast hback⟩
  · rintro ⟨hforward, hmax⟩
    obtain ⟨last, hback⟩ := h.exists_reverse hforward
    rw [hback, Option.some.injEq]
    exact String.le_antisymm (hmax last (h.forward_of_reverse hback)) (hlast hback hforward)

theorem LoadedFrom.get?_reverse_eq {first second : Table}
    {firstLoaded secondLoaded : List (String × String)}
    (hfirst : first.LoadedFrom firstLoaded) (hsecond : second.LoadedFrom secondLoaded)
    (hforward : ∀ nativeKey, first.forward.get? nativeKey = second.forward.get? nativeKey)
    (key : String) : first.reverse.get? key = second.reverse.get? key := by
  apply Option.ext
  intro nativeKey
  rw [hfirst.get?_reverse_eq_some_iff, hsecond.get?_reverse_eq_some_iff]
  simp only [hforward]

/-! ## Keys that have been given since -/

/-- The native keys that have been named since pairs were loaded last. -/
def Change.named (named : List String) : Change → List String
  | .name nativeKey => named ++ [nativeKey]
  | .replace _ | .load _ _ => []
  | .read _ text =>
      if (Json.read? text : Option (Dict String String)).isSome then [] else named

def namedSinceLoading (changes : List Change) : List String :=
  changes.foldl Change.named []

theorem contains_change {table : Table} {named : List String}
    (h : ∀ nativeKey ∈ named, table.contains nativeKey) (change : Change) :
    ∀ nativeKey ∈ change.named named, (table.change change).contains nativeKey := by
  intro nativeKey hmem
  cases change with
  | name given =>
      rcases List.mem_append.mp hmem with hmem | hmem
      · obtain ⟨key, hkey⟩ := Option.isSome_iff_exists.mp (h nativeKey hmem)
        exact Option.isSome_iff_exists.mpr ⟨key, get?_keyOf hkey given⟩
      · obtain rfl := List.mem_singleton.mp hmem
        exact Option.isSome_iff_exists.mpr ⟨_, table.get?_keyOf_self nativeKey⟩
  | replace pairs => cases hmem
  | load source pairs => cases hmem
  | read source text =>
      cases hread : (Json.read? text : Option (Dict String String)) with
      | some stored => simp [Change.named, hread] at hmem
      | none =>
          simp only [Change.named, hread, Option.isSome_none, Bool.false_eq_true, if_false]
            at hmem
          simpa [Table.change, ofJson?, hread] using h nativeKey hmem

theorem contains_afterChanges {table : Table} {named : List String}
    (h : ∀ nativeKey ∈ named, table.contains nativeKey) (changes : List Change) :
    ∀ nativeKey ∈ changes.foldl Change.named named,
      (table.afterChanges changes).contains nativeKey := by
  induction changes generalizing table named with
  | nil => exact h
  | cons change changes ih => exact ih (contains_change h change)

/-! ## Storing and loading -/

theorem entries_ofList_pairs (table : Table) :
    (Dict.ofList table.pairs).entries = table.pairs :=
  Dict.entries_ofList (nodup_listing _)

theorem get?_forward_ofPairs_pairs (table : Table) (source : KeySource)
    (nativeKey : String) :
    (ofPairs source table.pairs).forward.get? nativeKey = table.forward.get? nativeKey := by
  apply Option.ext
  intro key
  rw [ofPairs, get?_forward_replace, ← entries_ofList_pairs, mem_listing,
    entries_ofList_pairs, pairs, mem_listing, Dict.get?_eq_some_iff]

theorem ofJson?_json (table : Table) (source : KeySource) :
    ofJson? source table.json = some (ofPairs source table.pairs) := by
  rw [ofJson?, json, Json.read?_write_texts]
  exact congrArg (fun pairs => some (ofPairs source pairs)) table.entries_ofList_pairs

/-- In every table that can be reached, the correlation keys that are read back are those
that have been given, and each is read as a native key that has it.  What has been named
since pairs were loaded last is read as itself and shares its key with nothing.  A table
that is loaded from the stored pairs or from their JSON has the same two dictionaries. -/
theorem stored_table_loads_back (source fresh : KeySource) (changes : List Change) :
    let table := (empty source).afterChanges changes
    (∀ key, (∃ nativeKey, table.nativeKeyOf key = .ok nativeKey) ↔
      ∃ nativeKey, table.forward.get? nativeKey = some key) ∧
    (∀ key nativeKey, table.nativeKeyOf key = .ok nativeKey →
      table.forward.get? nativeKey = some key) ∧
    (∀ nativeKey ∈ namedSinceLoading changes,
      nativeKey ∉ (lastLoaded changes).map Prod.fst →
        ∃ key, table.keyOf nativeKey = (key, table) ∧
          table.nativeKeyOf key = .ok nativeKey ∧
          ∀ other, table.forward.get? other = some key → other = nativeKey) ∧
    ∃ restored, ofPairs fresh table.pairs = restored ∧
      ofJson? fresh table.json = some restored ∧
      (∀ nativeKey, restored.forward.get? nativeKey = table.forward.get? nativeKey) ∧
      (∀ key, restored.reverse.get? key = table.reverse.get? key) ∧
      (∀ key, restored.nativeKeyOf key = table.nativeKeyOf key) ∧
      (∀ nativeKey, restored.contains nativeKey = table.contains nativeKey) ∧
      restored.size = table.size ∧
      ∀ nativeKey, table.contains nativeKey → ∃ key,
        table.keyOf nativeKey = (key, table) ∧ restored.keyOf nativeKey = (key, restored) := by
  intro table
  have h : table.LoadedFrom (lastLoaded changes) :=
    (loadedFrom_empty source).afterChanges changes
  have hforward := table.get?_forward_ofPairs_pairs fresh
  have hreverse (key : String) :
      (ofPairs fresh table.pairs).reverse.get? key = table.reverse.get? key :=
    (loadedFrom_replace (empty fresh) table.pairs).get?_reverse_eq h hforward key
  refine ⟨?_, ?_, ?_, ofPairs fresh table.pairs, rfl, table.ofJson?_json fresh, hforward,
    hreverse, ?_, ?_, ?_, ?_⟩
  · intro key
    simp only [nativeKeyOf_eq_ok_iff]
    constructor
    · rintro ⟨nativeKey, hback⟩
      exact ⟨nativeKey, h.forward_of_reverse hback⟩
    · rintro ⟨nativeKey, hgiven⟩
      exact h.exists_reverse hgiven
  · intro key nativeKey hback
    exact h.forward_of_reverse (nativeKeyOf_eq_ok_iff.mp hback)
  · intro nativeKey hnamed hnew
    have hcontains : table.contains nativeKey :=
      contains_afterChanges (fun _ hmem => by cases hmem) changes nativeKey hnamed
    obtain ⟨key, hkey⟩ := Option.isSome_iff_exists.mp hcontains
    have hnot : (nativeKey, key) ∉ lastLoaded changes :=
      fun hmem => hnew (List.mem_map_of_mem hmem)
    refine ⟨key, keyOf_of_get? hkey,
      nativeKeyOf_eq_ok_iff.mpr (h.reverse_of_forward hkey hnot).1, fun other hother => ?_⟩
    refine Classical.byContradiction fun hne => hnot ?_
    exact ((h.shared_iff hne).mp ⟨hother, hkey⟩).2
  · intro key
    rw [nativeKeyOf, hreverse, nativeKeyOf]
  · intro nativeKey
    exact congrArg Option.isSome (hforward nativeKey)
  · exact (Dict.perm_entries_of_get?_eq hforward).length_eq
  · intro nativeKey hcontains
    obtain ⟨key, hkey⟩ := Option.isSome_iff_exists.mp hcontains
    exact ⟨key, keyOf_of_get? hkey, keyOf_of_get? ((hforward nativeKey).trans hkey)⟩

end Table

end Correlation

end FareGateway
