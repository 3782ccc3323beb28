import FareGateway.Dict
import Mathlib.Data.List.Induction
import Mathlib.Data.List.Perm.Subperm

/-!
# Writing many entries at once

What a dictionary holds after a list of pairs has been written to it: the last
pair of every key, or the first one where only new keys are taken, with the keys
in order of first appearance.  Nothing is lost just when no key comes twice.
-/

namespace FareGateway

namespace Entries

variable {κ ν : Type} [DecidableEq κ]

theorem get?_append (key : κ) (first second : List (κ × ν)) :
    get? key (first ++ second) = (get? key first).or (get? key second) := by
  induction first with
  | nil => rfl
  | cons entry rest ih =>
      by_cases h : entry.1 = key
      · simp [get?, h]
      · simp [get?, h, ih]

theorem get?_map {α : Type} (keyOf : α → κ) (valueOf : α → ν) (key : κ) (items : List α) :
    get? key (items.map fun item => (keyOf item, valueOf item)) =
      (items.find? fun item => decide (keyOf item = key)).map valueOf := by
  induction items with
  | nil => rfl
  | cons item items ih =>
      by_cases h : keyOf item = key
      · simp [get?, h]
      · simp [get?, h, ih]

theorem get?_filter_key (key other : κ) (entries : List (κ × ν)) :
    get? key (entries.filter fun entry => decide (entry.1 = other)) =
      if other = key then get? key entries else none := by
  induction entries with
  | nil => simp [get?]
  | cons entry entries ih =>
      by_cases hother : entry.1 = other
      · rw [List.filter_cons_of_pos (by simpa using hother)]
        by_cases hkey : entry.1 = key
        · simp [get?, hkey, hother.symm.trans hkey]
        · have hdifferent : other ≠ key := hother ▸ hkey
          simpa [get?, hkey, hdifferent] using ih
      · rw [List.filter_cons_of_neg (by simpa using hother), ih]
        by_cases hsame : other = key
        · have hkey : entry.1 ≠ key := hsame ▸ hother
          simp [get?, hsame, hkey]
        · simp [hsame]

theorem mem_of_get?_eq_some {key : κ} {value : ν} {entries : List (κ × ν)}
    (h : get? key entries = some value) : (key, value) ∈ entries := by
  induction entries with
  | nil => cases h
  | cons entry rest ih =>
      by_cases hkey : entry.1 = key
      · simp only [get?, hkey, if_true, Option.some.injEq] at h
        rw [← hkey, ← h]
        exact List.mem_cons_self
      · simp only [get?, hkey, if_false] at h
        exact List.mem_cons_of_mem _ (ih h)

end Entries

namespace Dict

variable {κ ν : Type} [DecidableEq κ]

theorem insertAll_append (dict : Dict κ ν) (first second : List (κ × ν)) :
    dict.insertAll (first ++ second) = (dict.insertAll first).insertAll second :=
  List.foldl_append

theorem insertNew_append (dict : Dict κ ν) (first second : List (κ × ν)) :
    dict.insertNew (first ++ second) = (dict.insertNew first).insertNew second :=
  List.foldl_append

theorem get?_insertAll (dict : Dict κ ν) (pairs : List (κ × ν)) (key : κ) :
    (dict.insertAll pairs).get? key =
      (Entries.get? key pairs.reverse).or (dict.get? key) := by
  induction pairs generalizing dict with
  | nil => rfl
  | cons pair pairs ih =>
      change ((dict.insert pair.1 pair.2).insertAll pairs).get? key = _
      rw [ih, get?_insert, List.reverse_cons, Entries.get?_append, Option.or_assoc]
      by_cases h : pair.1 = key <;> simp [Entries.get?, h]

theorem get?_insertNew (dict : Dict κ ν) (pairs : List (κ × ν)) (key : κ) :
    (dict.insertNew pairs).get? key =
      (dict.get? key).or (Entries.get? key pairs) := by
  induction pairs generalizing dict with
  | nil => simp [insertNew, Entries.get?]
  | cons pair pairs ih =>
      by_cases hmem : dict.contains pair.1
      · have hstep : dict.insertNew (pair :: pairs) = dict.insertNew pairs := by
          simp [insertNew, hmem]
        rw [hstep, ih]
        by_cases h : pair.1 = key
        · subst h
          obtain ⟨value, hvalue⟩ := Option.isSome_iff_exists.mp hmem
          simp [hvalue]
        · simp [Entries.get?, h]
      · have hstep : dict.insertNew (pair :: pairs) =
            (dict.insert pair.1 pair.2).insertNew pairs := by
          simp [insertNew, hmem]
        rw [hstep, ih, get?_insert]
        by_cases h : pair.1 = key
        · subst h
          have hnone : dict.get? pair.1 = none := by
            simpa [contains] using hmem
          simp [Entries.get?, hnone]
        · simp [Entries.get?, h]

theorem keys_insert (dict : Dict κ ν) (key : κ) (value : ν) :
    (dict.insert key value).keys =
      if key ∈ dict.keys then dict.keys else dict.keys ++ [key] := by
  by_cases h : key ∈ dict.keys
  · rw [if_pos h, keys_insert_of_mem value h]
  · rw [if_neg h, keys, entries_insert_of_not_mem value h, List.map_append]
    rfl

theorem eraseDups_concat {κ : Type} [BEq κ] [LawfulBEq κ] (keys : List κ) (key : κ) :
    (keys ++ [key]).eraseDups =
      if key ∈ keys then keys.eraseDups else keys.eraseDups ++ [key] := by
  rw [List.eraseDups_append]
  by_cases h : key ∈ keys <;> simp [h, List.removeAll, List.eraseDups_cons]

theorem nodup_eraseDups (keys : List κ) : keys.eraseDups.Nodup := by
  induction keys using List.reverseRecOn with
  | nil => exact List.nodup_nil
  | append_singleton keys key ih =>
      rw [eraseDups_concat]
      by_cases h : key ∈ keys
      · rw [if_pos h]
        exact ih
      · rw [if_neg h]
        refine List.nodup_append.mpr ⟨ih, by simp, ?_⟩
        rintro other hother _ hkey rfl
        rw [List.mem_singleton] at hkey
        exact h (hkey ▸ List.mem_eraseDups.mp hother)

theorem eraseDups_map {α : Type} [BEq α] [LawfulBEq α] {keys : List κ} {f : κ → α}
    (hinj : ∀ first ∈ keys, ∀ second ∈ keys, f first = f second → first = second) :
    (keys.map f).eraseDups = keys.eraseDups.map f := by
  induction keys using List.reverseRecOn with
  | nil => rfl
  | append_singleton keys key ih =>
      have hearlier := ih fun first hfirst second hsecond =>
        hinj first (List.mem_append_left _ hfirst) second (List.mem_append_left _ hsecond)
      have hmem : f key ∈ keys.map f ↔ key ∈ keys := by
        constructor
        · intro h
          obtain ⟨other, hother, hsame⟩ := List.mem_map.mp h
          have hkey := hinj other (List.mem_append_left _ hother) key (by simp) hsame
          exact hkey ▸ hother
        · exact List.mem_map_of_mem
      rw [List.map_append, List.map_singleton, eraseDups_concat, eraseDups_concat, hearlier]
      by_cases h : key ∈ keys
      · rw [if_pos h, if_pos (hmem.mpr h)]
      · rw [if_neg h, if_neg (mt hmem.mp h), List.map_append, List.map_singleton]

theorem length_eraseDups_eq_iff {keys : List κ} :
    keys.eraseDups.length = keys.length ↔ keys.Nodup := by
  have hkept : keys.eraseDups.Subperm keys :=
    List.subperm_of_subset (nodup_eraseDups keys) fun _ => List.mem_eraseDups.mp
  constructor
  · intro h
    have hperm := hkept.perm_of_length_le (Nat.le_of_eq h.symm)
    exact hperm.nodup_iff.mp (nodup_eraseDups keys)
  · intro h
    have hall : keys.Subperm keys.eraseDups :=
      List.subperm_of_subset h fun _ => List.mem_eraseDups.mpr
    exact Nat.le_antisymm hkept.length_le hall.length_le

theorem keys_ofList (pairs : List (κ × ν)) :
    (ofList pairs).keys = (pairs.map Prod.fst).eraseDups := by
  induction pairs using List.reverseRecOn with
  | nil => rfl
  | append_singleton pairs pair ih =>
      have hstep : ofList (pairs ++ [pair]) = (ofList pairs).insert pair.1 pair.2 :=
        insertAll_append empty pairs [pair]
      rw [hstep, keys_insert, ih, List.map_append, List.map_singleton, eraseDups_concat]
      simp only [List.mem_eraseDups]

theorem keys_insertNew_empty (pairs : List (κ × ν)) :
    ((empty : Dict κ ν).insertNew pairs).keys = (pairs.map Prod.fst).eraseDups := by
  induction pairs using List.reverseRecOn with
  | nil => rfl
  | append_singleton pairs pair ih =>
      have hstep : (empty : Dict κ ν).insertNew (pairs ++ [pair]) =
          if (empty.insertNew pairs).contains pair.1 then empty.insertNew pairs
          else (empty.insertNew pairs).insert pair.1 pair.2 :=
        insertNew_append empty pairs [pair]
      rw [hstep, List.map_append, List.map_singleton, eraseDups_concat, ← ih]
      by_cases h : pair.1 ∈ ((empty : Dict κ ν).insertNew pairs).keys
      · have hmem : pair.1 ∈ pairs.map Prod.fst := by simpa [ih] using h
        rw [if_pos (contains_iff.mpr h), if_pos hmem]
      · have hmem : pair.1 ∉ pairs.map Prod.fst := by simpa [ih] using h
        have hcontains : ¬((empty : Dict κ ν).insertNew pairs).contains pair.1 = true :=
          fun hcontains => h (contains_iff.mp hcontains)
        rw [if_neg hcontains, if_neg hmem, keys_insert, if_neg h]

theorem contains_insertNew_self (dict : Dict κ ν) (key : κ) (value : ν) :
    (dict.insertNew [(key, value)]).contains key := by
  simp [contains, get?_insertNew, Entries.get?]

theorem entries_prefix_insertNew (dict : Dict κ ν) (pairs : List (κ × ν)) :
    dict.entries <+: (dict.insertNew pairs).entries := by
  induction pairs generalizing dict with
  | nil => exact List.prefix_rfl
  | cons pair pairs ih =>
      refine List.IsPrefix.trans ?_ (ih _)
      beta_reduce
      split
      · exact List.prefix_rfl
      · next hnew =>
          rw [entries_insert_of_not_mem _ (mt contains_iff.mpr hnew)]
          exact List.prefix_append _ _

theorem size_le_insertNew (dict : Dict κ ν) (pairs : List (κ × ν)) :
    dict.size ≤ (dict.insertNew pairs).size :=
  (entries_prefix_insertNew dict pairs).length_le

theorem entries_insertAll {dict : Dict κ ν} {pairs : List (κ × ν)}
    (h : (dict.keys ++ pairs.map Prod.fst).Nodup) :
    (dict.insertAll pairs).entries = dict.entries ++ pairs := by
  induction pairs generalizing dict with
  | nil => exact (List.append_nil _).symm
  | cons pair pairs ih =>
      have hnew : pair.1 ∉ dict.keys := by
        intro hmem
        rw [List.nodup_append] at h
        exact h.2.2 _ hmem _ List.mem_cons_self rfl
      have hkeys : (dict.insert pair.1 pair.2).keys = dict.keys ++ [pair.1] := by
        rw [keys_insert, if_neg hnew]
      have hrest :
          ((dict.insert pair.1 pair.2).keys ++ pairs.map Prod.fst).Nodup := by
        simpa [hkeys] using h
      change ((dict.insert pair.1 pair.2).insertAll pairs).entries = _
      rw [ih hrest, entries_insert_of_not_mem pair.2 hnew, List.append_assoc]
      rfl

theorem entries_ofList {pairs : List (κ × ν)} (h : (pairs.map Prod.fst).Nodup) :
    (ofList pairs).entries = pairs := by
  have hkeys : ((empty : Dict κ ν).keys ++ pairs.map Prod.fst).Nodup := by
    simpa [keys, empty] using h
  exact entries_insertAll hkeys

theorem mem_of_mem_entries_ofList {entry : κ × ν} {pairs : List (κ × ν)}
    (h : entry ∈ (ofList pairs).entries) : entry ∈ pairs := by
  have hget : (empty.insertAll pairs).get? entry.1 = some entry.2 := get?_eq_some_iff.mpr h
  rw [get?_insertAll, get?_empty, Option.or_none] at hget
  exact List.mem_reverse.mp (Entries.mem_of_get?_eq_some hget)

@[simp] theorem ofList_entries (dict : Dict κ ν) : ofList dict.entries = dict :=
  Dict.ext (entries_ofList dict.nodup_keys)

end Dict

end FareGateway
