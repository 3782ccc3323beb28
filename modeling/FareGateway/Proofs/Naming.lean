import FareGateway.Gateway.Merge
import FareGateway.Proofs.Insertion
import Mathlib.Data.List.Nodup

/-!
# Names of entities

A table is one-to-one when its two dictionaries are inverse to one another.
Naming keeps it so, whatever the source hands out, and in a one-to-one table two
native keys share a correlation key only if they are equal.

Two entities can be equal as native keys without being the same: the native id
of the one may begin with what ends the id of the other's provider.  That is the
only way, and it takes a bar in the id of a provider.
-/

namespace FareGateway

namespace Correlation.Table

def nameOf (table : Table) (origin : Origin) : String :=
  (table.keyOf origin.text).1

def name (table : Table) (provider : String) (kind : EntityKind) (nativeId : String) :
    String :=
  table.nameOf ⟨provider, kind, nativeId⟩

theorem nativeKeyOf_eq_ok_iff {table : Table} {key nativeKey : String} :
    table.nativeKeyOf key = .ok nativeKey ↔ table.reverse.get? key = some nativeKey := by
  unfold nativeKeyOf
  cases table.reverse.get? key <;> simp

def OneToOne (table : Table) : Prop :=
  ∀ nativeKey key, table.forward.get? nativeKey = some key ↔
    table.reverse.get? key = some nativeKey

theorem oneToOne_empty (source : KeySource) : (empty source).OneToOne := by
  intro nativeKey key
  constructor
  · intro h
    cases h
  · intro h
    cases h

theorem OneToOne.eq_of_get?_eq {table : Table} (htable : table.OneToOne)
    {first second key : String} (hfirst : table.forward.get? first = some key)
    (hsecond : table.forward.get? second = some key) : first = second := by
  have hreverse := (htable first key).mp hfirst
  rw [(htable second key).mp hsecond, Option.some.injEq] at hreverse
  exact hreverse.symm

theorem OneToOne.link {table : Table} (htable : table.OneToOne)
    {nativeKey key : String} (hnative : table.forward.get? nativeKey = none)
    (hkey : table.reverse.get? key = none) : (table.link nativeKey key).OneToOne := by
  intro other given
  simp only [Table.link, Dict.get?_insert]
  by_cases hother : nativeKey = other
  · by_cases hgiven : key = given
    · simp [hother, hgiven]
    · have hnone : table.reverse.get? given ≠ some other := by
        intro h
        rw [← htable, ← hother, hnative] at h
        cases h
      simp [hother, hgiven, hnone]
  · by_cases hgiven : key = given
    · have hnone : table.forward.get? other ≠ some given := by
        intro h
        rw [htable, ← hgiven, hkey] at h
        cases h
      simp [hother, hgiven, hnone]
    · simp [hother, hgiven, htable other given]

theorem OneToOne.keyOf {table : Table} (htable : table.OneToOne) (nativeKey : String) :
    (table.keyOf nativeKey).2.OneToOne := by
  cases h : table.forward.get? nativeKey with
  | some key => simpa [keyOf_of_get? h] using htable
  | none =>
      rw [keyOf_of_get?_eq_none h]
      refine OneToOne.link htable h ?_
      rw [Dict.get?_eq_none_iff]
      exact table.source.key_freshPosition_not_mem table.reverse.keys

theorem OneToOne.nativeKeyOf_keyOf {table : Table} (htable : table.OneToOne)
    (nativeKey : String) :
    (table.keyOf nativeKey).2.nativeKeyOf (table.keyOf nativeKey).1 = .ok nativeKey := by
  rw [nativeKeyOf_eq_ok_iff, ← htable.keyOf nativeKey]
  exact table.get?_keyOf_self nativeKey

theorem OneToOne.nameAll {table : Table} (htable : table.OneToOne)
    (nativeKeys : List String) : (table.nameAll nativeKeys).OneToOne := by
  induction nativeKeys generalizing table with
  | nil => exact htable
  | cons nativeKey nativeKeys ih => exact ih (htable.keyOf nativeKey)

theorem foldl_link (table : Table) (pairs : List (String × String)) :
    let linked := pairs.foldl (fun table pair => table.link pair.1 pair.2) table
    linked.forward = table.forward.insertAll pairs ∧
      linked.reverse = table.reverse.insertAll (pairs.map Prod.swap) := by
  induction pairs generalizing table with
  | nil => exact ⟨rfl, rfl⟩
  | cons pair pairs ih => exact ih (table.link pair.1 pair.2)

theorem nodup_listing (pairs : List (String × String)) :
    ((listing pairs).map Prod.fst).Nodup := by
  have hperm := (List.mergeSort_perm (Dict.ofList pairs).entries
    fun first second => decide (first.1 ≤ second.1)).map Prod.fst
  exact hperm.nodup_iff.mpr (Dict.ofList pairs).nodup_keys

theorem get?_forward_replace {table : Table} {pairs : List (String × String)}
    {nativeKey key : String} :
    (table.replace pairs).forward.get? nativeKey = some key ↔
      (nativeKey, key) ∈ listing pairs := by
  rw [replace, (foldl_link _ _).1, Dict.get?_eq_some_iff]
  exact iff_of_eq (congrArg _ (Dict.entries_ofList (nodup_listing pairs)))

theorem reverse_replace (table : Table) (pairs : List (String × String)) :
    (table.replace pairs).reverse = Dict.ofList ((listing pairs).map Prod.swap) :=
  (foldl_link _ _).2

theorem nameAll_append (table : Table) (first second : List String) :
    table.nameAll (first ++ second) = (table.nameAll first).nameAll second :=
  List.foldl_append

theorem contains_nameAll {table : Table} {nativeKey : String} {nativeKeys : List String}
    (h : nativeKey ∈ nativeKeys) : (table.nameAll nativeKeys).contains nativeKey := by
  induction nativeKeys generalizing table with
  | nil => cases h
  | cons first nativeKeys ih =>
      rcases List.mem_cons.mp h with rfl | h
      · have hself := get?_nameAll (table.get?_keyOf_self nativeKey) nativeKeys
        exact Option.isSome_iff_exists.mpr ⟨_, hself⟩
      · exact ih h

theorem nameAll_of_contains {table : Table} {nativeKeys : List String}
    (h : ∀ nativeKey ∈ nativeKeys, table.contains nativeKey) :
    table.nameAll nativeKeys = table := by
  induction nativeKeys with
  | nil => rfl
  | cons nativeKey nativeKeys ih =>
      rw [List.forall_mem_cons] at h
      obtain ⟨key, hkey⟩ := Option.isSome_iff_exists.mp h.1
      rw [nameAll, List.foldl_cons, keyOf_of_get? hkey]
      exact ih h.2

theorem get?_nameOf {table : Table} {origin : Origin} (h : table.contains origin.text) :
    table.forward.get? origin.text = some (table.nameOf origin) := by
  obtain ⟨key, hkey⟩ := Option.isSome_iff_exists.mp h
  rw [nameOf, keyOf_of_get? hkey]
  exact hkey

theorem OneToOne.nameOf_eq_iff {table : Table} (htable : table.OneToOne)
    {first second : Origin} (hfirst : table.contains first.text)
    (hsecond : table.contains second.text) :
    table.nameOf first = table.nameOf second ↔ first.text = second.text := by
  have hfirst := get?_nameOf hfirst
  have hsecond := get?_nameOf hsecond
  constructor
  · intro h
    rw [← h] at hsecond
    exact htable.eq_of_get?_eq hfirst hsecond
  · intro h
    rw [h, hsecond, Option.some.injEq] at hfirst
    exact hfirst.symm

end Correlation.Table

namespace Origin

/-- The provider of the second entity goes on, after a bar, where that of the
first ends, with what the first entity has as its kind and the beginning of its
native id. -/
def Overlaps (first second : Origin) : Prop :=
  ∃ shared, second.provider ++ "|" =
      first.provider ++ "|" ++ first.kind.tag ++ "|" ++ shared ∧
    first.nativeId = shared ++ second.kind.tag ++ "|" ++ second.nativeId

theorem text_eq_of_overlaps {first second : Origin} (h : first.Overlaps second) :
    first.text = second.text := by
  obtain ⟨shared, hprovider, hnative⟩ := h
  have hprovider := congrArg String.toList hprovider
  apply String.toList_injective
  simp only [text, hnative, String.toList_append] at hprovider ⊢
  rw [hprovider]
  simp

theorem bar_mem_of_overlaps {first second : Origin} (h : first.Overlaps second) :
    '|' ∈ second.provider.toList := by
  obtain ⟨shared, hprovider, -⟩ := h
  have hcount := congrArg (fun id : String => id.toList.count '|') hprovider
  have hbar : "|".toList = ['|'] := rfl
  simp only [String.toList_append, List.count_append, hbar, List.count_singleton_self]
    at hcount
  refine Classical.byContradiction fun hnone => ?_
  rw [List.count_eq_zero.mpr hnone] at hcount
  omega

theorem not_overlaps_self (origin : Origin) : ¬origin.Overlaps origin := by
  rintro ⟨shared, hprovider, -⟩
  have hlength := congrArg String.length hprovider
  have hbar : "|".length = 1 := rfl
  simp only [String.length_append, hbar] at hlength
  omega

private theorem append_bar_eq {first second before after : List Char}
    (h : first ++ '|' :: before = second ++ '|' :: after) :
    first = second ∧ before = after ∨
      (∃ rest, second = first ++ '|' :: rest ∧ before = rest ++ '|' :: after) ∨
      ∃ rest, first = second ++ '|' :: rest ∧ after = rest ++ '|' :: before := by
  rcases List.append_eq_append_iff.mp h with ⟨more, hsecond, hbefore⟩ | ⟨more, hfirst, hafter⟩
  · cases more with
    | nil => simp_all
    | cons c rest =>
        simp only [List.cons_append, List.cons.injEq] at hbefore
        obtain ⟨rfl, hbefore⟩ := hbefore
        exact .inr (.inl ⟨rest, hsecond, hbefore⟩)
  · cases more with
    | nil => simp_all
    | cons c rest =>
        simp only [List.cons_append, List.cons.injEq] at hafter
        obtain ⟨rfl, hafter⟩ := hafter
        exact .inr (.inr ⟨rest, hfirst, hafter⟩)

private theorem append_bar_eq_of_not_mem {tag other before after : List Char}
    (htag : '|' ∉ tag) (h : tag ++ '|' :: before = other ++ '|' :: after) :
    tag = other ∧ before = after ∨
      ∃ rest, other = tag ++ '|' :: rest ∧ before = rest ++ '|' :: after := by
  rcases append_bar_eq h with hsame | hlonger | ⟨rest, hshorter, -⟩
  · exact .inl hsame
  · exact .inr hlonger
  · exact absurd (by simp [hshorter]) htag

private theorem overlaps_of_longer {first second : Origin} {rest : List Char}
    (hprovider : second.provider.toList = first.provider.toList ++ '|' :: rest)
    (htail : first.kind.tag.toList ++ '|' :: first.nativeId.toList =
      rest ++ '|' :: (second.kind.tag.toList ++ '|' :: second.nativeId.toList)) :
    first.Overlaps second := by
  rcases append_bar_eq_of_not_mem first.kind.bar_not_mem_tag htail with
    ⟨hrest, hnative⟩ | ⟨shared, hrest, hnative⟩
  · refine ⟨"", ?_, ?_⟩
    · apply String.toList_injective
      simp [hprovider, ← hrest]
    · apply String.toList_injective
      simp [hnative]
  · refine ⟨String.ofList shared ++ "|", ?_, ?_⟩
    · apply String.toList_injective
      simp [hprovider, hrest]
    · apply String.toList_injective
      simp [hnative]

/-- Two entities are equal as native keys just when they are the same or one
overlaps the other. -/
theorem text_eq_text_iff {first second : Origin} :
    first.text = second.text ↔
      first = second ∨ first.Overlaps second ∨ second.Overlaps first := by
  constructor
  · intro h
    have h := congrArg String.toList h
    obtain ⟨provider, kind, nativeId⟩ := first
    obtain ⟨other, otherKind, otherId⟩ := second
    simp only [text, String.toList_append, List.append_assoc] at h
    have hbar : "|".toList = ['|'] := rfl
    simp only [hbar, List.singleton_append] at h
    rcases append_bar_eq h with ⟨hprovider, htail⟩ | ⟨rest, hlonger, htail⟩ |
      ⟨rest, hlonger, htail⟩
    · rcases append_bar_eq_of_not_mem kind.bar_not_mem_tag htail with
        ⟨htag, hnative⟩ | ⟨rest, hother, -⟩
      · have htag := String.toList_injective htag
        have hkind : kind = otherKind := by
          have hread := EntityKind.ofTag?_eq_some_iff.mpr htag
          rw [EntityKind.ofTag?_eq_some_iff.mpr rfl, Option.some.injEq] at hread
          exact hread
        rw [String.toList_injective hprovider, hkind, String.toList_injective hnative]
        exact .inl rfl
      · exact absurd (by simp [hother]) otherKind.bar_not_mem_tag
    · exact .inr (.inl (overlaps_of_longer hlonger htail))
    · exact .inr (.inr (overlaps_of_longer hlonger htail))
  · rintro (rfl | h | h)
    · rfl
    · exact text_eq_of_overlaps h
    · exact (text_eq_of_overlaps h).symm

end Origin

end FareGateway
