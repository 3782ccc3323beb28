/-!
# Insertion-ordered dictionaries

A `Dict` is a list of keyed entries in which no key occurs twice.  Writing a
key that is already there replaces its value and keeps its place; a new key
goes to the end.  Everything a dictionary shows is its `entries`, and the
lemmas below say what each operation does to `keys` and to `get?`.
-/

namespace FareGateway

namespace Entries

variable {κ ν : Type} [DecidableEq κ]

def get? (key : κ) : List (κ × ν) → Option ν
  | [] => none
  | entry :: rest => if entry.1 = key then some entry.2 else get? key rest

def insert (key : κ) (value : ν) : List (κ × ν) → List (κ × ν)
  | [] => [(key, value)]
  | entry :: rest =>
      if entry.1 = key then (key, value) :: rest
      else entry :: insert key value rest

theorem keys_insert_of_mem {key : κ} {value : ν} {entries : List (κ × ν)}
    (h : key ∈ entries.map Prod.fst) :
    (insert key value entries).map Prod.fst = entries.map Prod.fst := by
  induction entries with
  | nil => simp at h
  | cons entry rest ih =>
      by_cases heq : entry.1 = key
      · simp [insert, heq]
      · have hrest : key ∈ rest.map Prod.fst := by
          simpa [Ne.symm heq] using h
        simp only [insert, heq, if_false, List.map_cons, ih hrest]

theorem insert_of_not_mem {key : κ} {value : ν} {entries : List (κ × ν)}
    (h : key ∉ entries.map Prod.fst) :
    insert key value entries = entries ++ [(key, value)] := by
  induction entries with
  | nil => rfl
  | cons entry rest ih =>
      simp only [List.map_cons, List.mem_cons, not_or] at h
      simp [insert, Ne.symm h.1, ih h.2]

theorem nodup_insert {key : κ} {value : ν} {entries : List (κ × ν)}
    (h : (entries.map Prod.fst).Nodup) :
    ((insert key value entries).map Prod.fst).Nodup := by
  by_cases hmem : key ∈ entries.map Prod.fst
  · rwa [keys_insert_of_mem hmem]
  · rw [insert_of_not_mem hmem, List.map_append, List.map_singleton,
      List.nodup_append]
    refine ⟨h, by simp, ?_⟩
    intro a ha b hb
    simp only [List.mem_singleton] at hb
    subst hb
    exact fun heq => hmem (heq ▸ ha)

theorem get?_insert (key other : κ) (value : ν) (entries : List (κ × ν)) :
    get? other (insert key value entries) =
      if key = other then some value else get? other entries := by
  induction entries with
  | nil => simp [insert, get?]
  | cons entry rest ih =>
      obtain ⟨k, v⟩ := entry
      by_cases heq : k = key
      · subst heq
        by_cases hother : k = other <;> simp [insert, get?, hother]
      · by_cases hentry : k = other
        · subst hentry
          simp [insert, get?, heq, Ne.symm heq]
        · simp [insert, get?, heq, hentry, ih]

theorem get?_eq_none_iff {key : κ} {entries : List (κ × ν)} :
    get? key entries = none ↔ key ∉ entries.map Prod.fst := by
  induction entries with
  | nil => simp [get?]
  | cons entry rest ih =>
      by_cases heq : entry.1 = key
      · simp [get?, heq]
      · simp [get?, heq, ih, Ne.symm heq]

theorem get?_eq_some_iff_mem {key : κ} {value : ν} {entries : List (κ × ν)}
    (h : (entries.map Prod.fst).Nodup) :
    get? key entries = some value ↔ (key, value) ∈ entries := by
  induction entries with
  | nil => simp [get?]
  | cons entry rest ih =>
      obtain ⟨k, v⟩ := entry
      simp only [List.map_cons, List.nodup_cons] at h
      by_cases heq : k = key
      · subst heq
        have hrest : (k, value) ∉ rest :=
          fun hmem => h.1 (List.mem_map.mpr ⟨_, hmem, rfl⟩)
        simp [get?, hrest, eq_comm]
      · simp [get?, heq, ih h.2, Ne.symm heq]

end Entries

/-- Keyed entries in order of first insertion. -/
structure Dict (κ ν : Type) where
  entries : List (κ × ν)
  nodup_keys : (entries.map Prod.fst).Nodup

namespace Dict

variable {κ ν : Type}

instance [DecidableEq κ] [DecidableEq ν] : DecidableEq (Dict κ ν) :=
  fun first second =>
    decidable_of_iff (first.entries = second.entries) (by
      cases first
      cases second
      simp)

@[ext] theorem ext {first second : Dict κ ν}
    (h : first.entries = second.entries) : first = second := by
  cases first
  cases second
  simpa using h

def empty : Dict κ ν := ⟨[], List.nodup_nil⟩

instance : EmptyCollection (Dict κ ν) := ⟨empty⟩

instance : Inhabited (Dict κ ν) := ⟨empty⟩

def keys (dict : Dict κ ν) : List κ := dict.entries.map Prod.fst

def size (dict : Dict κ ν) : Nat := dict.entries.length

def isEmpty (dict : Dict κ ν) : Bool := dict.entries.isEmpty

def filter (keep : κ → ν → Bool) (dict : Dict κ ν) : Dict κ ν :=
  ⟨dict.entries.filter fun entry => keep entry.1 entry.2,
    (List.filter_sublist.map Prod.fst).nodup dict.nodup_keys⟩

variable [DecidableEq κ]

def get? (dict : Dict κ ν) (key : κ) : Option ν := Entries.get? key dict.entries

def contains (dict : Dict κ ν) (key : κ) : Bool := (dict.get? key).isSome

def insert (dict : Dict κ ν) (key : κ) (value : ν) : Dict κ ν :=
  ⟨Entries.insert key value dict.entries, Entries.nodup_insert dict.nodup_keys⟩

def erase (dict : Dict κ ν) (key : κ) : Dict κ ν :=
  dict.filter fun other _ => decide (other ≠ key)

def insertAll (dict : Dict κ ν) (pairs : List (κ × ν)) : Dict κ ν :=
  pairs.foldl (fun dict pair => dict.insert pair.1 pair.2) dict

def insertNew (dict : Dict κ ν) (pairs : List (κ × ν)) : Dict κ ν :=
  pairs.foldl (fun dict pair =>
    if dict.contains pair.1 then dict else dict.insert pair.1 pair.2) dict

/-- A later pair with the key of an earlier one replaces its value. -/
def ofList (pairs : List (κ × ν)) : Dict κ ν := empty.insertAll pairs

@[simp] theorem get?_empty (key : κ) : (empty : Dict κ ν).get? key = none := rfl

theorem get?_insert (dict : Dict κ ν) (key other : κ) (value : ν) :
    (dict.insert key value).get? other =
      if key = other then some value else dict.get? other :=
  Entries.get?_insert key other value dict.entries

@[simp] theorem get?_insert_self (dict : Dict κ ν) (key : κ) (value : ν) :
    (dict.insert key value).get? key = some value := by
  simp [get?_insert]

theorem get?_insert_of_ne (dict : Dict κ ν) {key other : κ} (value : ν)
    (h : key ≠ other) : (dict.insert key value).get? other = dict.get? other := by
  simp [get?_insert, h]

theorem get?_eq_none_iff {dict : Dict κ ν} {key : κ} :
    dict.get? key = none ↔ key ∉ dict.keys :=
  Entries.get?_eq_none_iff

theorem get?_eq_some_iff {dict : Dict κ ν} {key : κ} {value : ν} :
    dict.get? key = some value ↔ (key, value) ∈ dict.entries :=
  Entries.get?_eq_some_iff_mem dict.nodup_keys

theorem contains_iff {dict : Dict κ ν} {key : κ} :
    dict.contains key = true ↔ key ∈ dict.keys := by
  rw [contains, Option.isSome_iff_ne_none, ne_eq, get?_eq_none_iff,
    Classical.not_not]

theorem keys_insert_of_mem {dict : Dict κ ν} {key : κ} (value : ν)
    (h : key ∈ dict.keys) : (dict.insert key value).keys = dict.keys :=
  Entries.keys_insert_of_mem h

theorem entries_insert_of_not_mem {dict : Dict κ ν} {key : κ} (value : ν)
    (h : key ∉ dict.keys) :
    (dict.insert key value).entries = dict.entries ++ [(key, value)] :=
  Entries.insert_of_not_mem h

theorem get?_filter (dict : Dict κ ν) (keep : κ → ν → Bool) (key : κ) :
    (dict.filter keep).get? key = (dict.get? key).filter (keep key) := by
  apply Option.ext
  intro value
  rw [get?_eq_some_iff, Option.filter_eq_some_iff, get?_eq_some_iff]
  simp [filter]

theorem get?_erase (dict : Dict κ ν) (key other : κ) :
    (dict.erase key).get? other = if other = key then none else dict.get? other := by
  rw [erase, get?_filter]
  by_cases h : other = key <;> cases dict.get? other <;> simp [h, Option.filter]

end Dict

end FareGateway
