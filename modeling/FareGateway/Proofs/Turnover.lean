import FareGateway.Proofs.TimedContent

/-!
# What becomes of the entries of a cache

Every put brings an entry in, and an entry leaves in one of four ways: it is dropped
once it has expired, overwritten by a later put, taken out, or cleared away with all
others.  The counts of a cache balance these movements against what it still holds;
the law is kept by every action, and so by every run.
-/

namespace FareGateway

namespace Dict

variable {κ ν : Type}

theorem length_keys (dict : Dict κ ν) : dict.keys.length = dict.size := List.length_map ..

theorem size_filter_add (dict : Dict κ ν) (keep : κ → ν → Bool) :
    (dict.filter keep).size +
        (dict.entries.filter fun entry => !keep entry.1 entry.2).length = dict.size := by
  simpa [size, filter] using
    (dict.entries.length_eq_length_filter_add fun entry => keep entry.1 entry.2).symm

theorem filter_true (dict : Dict κ ν) : dict.filter (fun _ _ => true) = dict :=
  ext (List.filter_true _)

theorem filter_filter (dict : Dict κ ν) (first second : κ → ν → Bool) :
    (dict.filter first).filter second =
      dict.filter fun key value => first key value && second key value := by
  apply ext
  simp only [filter, List.filter_filter, Bool.and_comm]

variable [DecidableEq κ]

theorem contains_filter {dict : Dict κ ν} (keep : κ → ν → Bool) {entry : κ × ν}
    (h : entry ∈ dict.entries) : (dict.filter keep).contains entry.1 = keep entry.1 entry.2 := by
  rw [contains, get?_filter, get?_eq_some_iff.mpr h]
  cases hkeep : keep entry.1 entry.2 <;> simp [Option.filter, hkeep]

theorem contains_of_mem {dict : Dict κ ν} {entry : κ × ν} (h : entry ∈ dict.entries) :
    dict.contains entry.1 = true :=
  contains_iff.mpr (List.mem_map_of_mem h)

theorem keys_erase (dict : Dict κ ν) (key : κ) :
    (dict.erase key).keys = dict.keys.erase key := by
  have hnodup : dict.keys.Nodup := dict.nodup_keys
  rw [hnodup.erase_eq_filter]
  simp only [keys, erase, filter, List.filter_map, Function.comp_def, bne, Bool.beq_eq_decide_eq,
    decide_not, ne_eq]

theorem size_erase_add (dict : Dict κ ν) (key : κ) :
    (dict.erase key).size + (dict.get? key).toList.length = dict.size := by
  rw [← length_keys, ← length_keys, keys_erase]
  cases hvalue : dict.get? key with
  | none =>
      rw [List.erase_of_not_mem (get?_eq_none_iff.mp hvalue), Option.toList_none,
        List.length_nil, Nat.add_zero]
  | some value =>
      have hmem : key ∈ dict.keys := contains_iff.mp (Option.isSome_of_eq_some hvalue)
      rw [Option.toList_some, List.length_singleton, List.length_erase_add_one hmem]

theorem size_insert (dict : Dict κ ν) (key : κ) (value : ν) :
    (dict.insert key value).size = (dict.erase key).size + 1 := by
  rw [← length_keys, ← length_keys, keys_insert, keys_erase]
  by_cases h : key ∈ dict.keys
  · rw [if_pos h, List.length_erase_add_one h]
  · rw [if_neg h, List.erase_of_not_mem h, List.length_append, List.length_singleton]

end Dict

/-! ## Dropping what has expired -/

namespace TimedCache

variable {κ ν : Type} {now later : Nat} {first second third : TimedCache κ ν}

/-- The second cache is the first after some of its expired entries were dropped, each
of which was counted. -/
structure Sheds (now : Nat) (first second : TimedCache κ ν) : Prop where
  ttl_eq : second.ttl = first.ttl
  dropped : ∃ keep, second.entries = first.entries.filter keep ∧
    ∀ entry ∈ first.entries.entries,
      keep entry.1 entry.2 = false → first.isExpired now entry.2
  counted : second.counts.expired + second.itemCount = first.counts.expired + first.itemCount

namespace Sheds

theorem of_entries_eq (httl : second.ttl = first.ttl) (hentries : second.entries = first.entries)
    (hcounts : second.counts.expired = first.counts.expired) : Sheds now first second where
  ttl_eq := httl
  dropped := ⟨fun _ _ => true, by rw [hentries, Dict.filter_true], by simp⟩
  counted := by simp only [itemCount, hentries, hcounts]

theorem trans (h : Sheds now first second) (h' : Sheds now second third) :
    Sheds now first third where
  ttl_eq := h'.ttl_eq.trans h.ttl_eq
  dropped := by
    obtain ⟨keep, hkeep, hexpired⟩ := h.dropped
    obtain ⟨keep', hkeep', hexpired'⟩ := h'.dropped
    refine ⟨_, by rw [hkeep', hkeep, Dict.filter_filter], fun entry hentry hdropped => ?_⟩
    -- An entry that survives the first step goes at the second, by the same lifetime.
    by_cases hfirst : keep entry.1 entry.2
    · have hstill : entry ∈ second.entries.entries := by
        rw [hkeep]
        exact List.mem_filter.mpr ⟨hentry, hfirst⟩
      have hsecond := hexpired' entry hstill (by simpa [hfirst] using hdropped)
      simpa [isExpired, h.ttl_eq] using hsecond
    · exact hexpired entry hentry (by simpa using hfirst)
  counted := h'.counted.trans h.counted

end Sheds

theorem isExpired_mono {cache : TimedCache κ ν} {entry : Stamped ν} (hlater : now ≤ later)
    (h : cache.isExpired now entry) : cache.isExpired later entry := by
  simp only [isExpired, decide_eq_true_eq] at h ⊢
  omega

theorem sheds_evict (cache : TimedCache κ ν) (hlater : now ≤ later) :
    Sheds later cache (cache.evict now).2 where
  ttl_eq := rfl
  dropped := ⟨fun _ entry => !cache.isExpired now entry, rfl, fun entry _ hdropped =>
    isExpired_mono hlater (by simpa using hdropped)⟩
  counted := by
    have hsize := cache.entries.size_filter_add fun _ entry => !cache.isExpired now entry
    simp only [evict, itemCount]
    omega

theorem sheds_sweep (swept : SweptCache κ ν) (after upTo : Nat) :
    Sheds upTo swept.cache (swept.sweep after upTo).cache :=
  SweptCache.sweep_induction (p := Sheds upTo swept.cache)
    (fun cache _ _ htick h => h.trans (cache.sheds_evict htick)) (.of_entries_eq rfl rfl rfl)

variable [DecidableEq κ]

theorem sheds_get (cache : TimedCache κ ν) (now : Nat) (key : κ) :
    Sheds now cache (cache.get now key).2 := by
  unfold get
  cases hentry : cache.entries.get? key with
  | none => exact .of_entries_eq rfl rfl rfl
  | some entry =>
      by_cases hexpired : cache.isExpired now entry
      · simp only [hexpired, if_true]
        refine ⟨rfl, ⟨fun other _ => decide (other ≠ key), rfl, fun other hother hdropped => ?_⟩, ?_⟩
        · obtain rfl : other.1 = key := by simpa using hdropped
          rw [Dict.get?_eq_some_iff.mpr hother] at hentry
          cases hentry
          exact hexpired
        · have hsize := cache.entries.size_erase_add key
          rw [hentry, Option.toList_some, List.length_singleton] at hsize
          simp only [itemCount]
          omega
      · simp only [hexpired, Bool.false_eq_true, if_false]
        exact .of_entries_eq rfl rfl rfl

end TimedCache

/-! ## How entries leave -/

/-- The ways in which an entry can leave a cache. -/
inductive Departure where
  | expired
  | overwritten
  | removed
  | cleared
  deriving DecidableEq, Repr

namespace CacheAction

variable {κ ν : Type}

def departure? : CacheAction κ ν → Option Departure
  | .put _ _ => some .overwritten
  | .remove _ => some .removed
  | .clear => some .cleared
  | .get _ | .size | .evict | .wait _ => some .expired
  | _ => none

def isGet : CacheAction κ ν → Bool
  | .get _ => true
  | _ => false

def isPut : CacheAction κ ν → Bool
  | .put _ _ => true
  | _ => false

end CacheAction

namespace CacheSession

variable {κ ν : Type} [DecidableEq κ]

/-- The entries that an action puts an end to: what it overwrites, what it takes out,
all of them, or else those that are no longer there afterwards. -/
def leaving (session : CacheSession κ ν) (action : CacheAction κ ν) : List (κ × Stamped ν) :=
  let entries := session.swept.cache.entries
  match action with
  | .put key _ | .remove key => (entries.get? key).toList.map (key, ·)
  | .clear => entries.entries
  | action => entries.entries.filter fun entry =>
      !(session.perform action).2.swept.cache.entries.contains entry.1

def departed (session : CacheSession κ ν) (departure : Departure) :
    List (CacheAction κ ν) → List (κ × Stamped ν)
  | [] => []
  | action :: actions =>
      (if action.departure? = some departure then session.leaving action else []) ++
        (session.perform action).2.departed departure actions

def reading? (session : CacheSession κ ν) (action : CacheAction κ ν) : Option (Option ν) :=
  match action, (session.perform action).1 with
  | .get _, .value found => some found
  | _, _ => none

def readings (session : CacheSession κ ν) : List (CacheAction κ ν) → List (Option ν)
  | [] => []
  | action :: actions =>
      (session.reading? action).toList ++ (session.perform action).2.readings actions

/-! ## What one action does -/

section

variable {session : CacheSession κ ν} {action : CacheAction κ ν}
  (halive : session.droppedAt = none)

include halive

theorem sheds_perform (h : action.departure? = some .expired) :
    TimedCache.Sheds (session.perform action).2.now session.swept.cache
      (session.perform action).2.swept.cache := by
  cases action with
  | get key =>
      simpa [perform, onCache, halive, SweptCache.update] using
        session.swept.cache.sheds_get session.now key
  | size =>
      simpa [perform, onCache, halive, SweptCache.update, TimedCache.size] using
        session.swept.cache.sheds_evict (Nat.le_refl session.now)
  | evict =>
      simpa [perform, onCache, halive, SweptCache.update] using
        session.swept.cache.sheds_evict (Nat.le_refl session.now)
  | wait ms => exact TimedCache.sheds_sweep session.swept session.now (session.now + ms)
  | _ => simp [CacheAction.departure?] at h

theorem cache_perform_of_departure?_eq_none (h : action.departure? = none) :
    (session.perform action).2.swept.cache = session.swept.cache := by
  cases action with
  | ttl | startSweeper interval | drop | finished =>
      simp [perform, onCache, halive, SweptCache.update, SweptCache.startSweeper]
  | _ => simp [CacheAction.departure?] at h

theorem leaving_eq_nil (h : action.departure? = none) : session.leaving action = [] := by
  have hnothing : (session.swept.cache.entries.entries.filter fun entry =>
      !(session.perform action).2.swept.cache.entries.contains entry.1) = [] := by
    refine List.filter_eq_nil_iff.mpr fun entry hentry => ?_
    rw [cache_perform_of_departure?_eq_none halive h, Dict.contains_of_mem hentry]
    decide
  cases action with
  | ttl | startSweeper | drop | finished => exact hnothing
  | _ => cases h

theorem exists_leaving_eq (h : action.departure? = some .expired) :
    ∃ keep, (session.perform action).2.swept.cache.entries =
        session.swept.cache.entries.filter keep ∧
      (session.leaving action =
        session.swept.cache.entries.entries.filter fun entry => !keep entry.1 entry.2) ∧
      ∀ entry ∈ session.leaving action,
        session.swept.cache.isExpired (session.perform action).2.now entry.2 := by
  obtain ⟨keep, hkeep, hexpired⟩ := (sheds_perform halive h).dropped
  have hgone : (session.swept.cache.entries.entries.filter fun entry =>
      !(session.perform action).2.swept.cache.entries.contains entry.1) =
        session.swept.cache.entries.entries.filter fun entry => !keep entry.1 entry.2 := by
    refine List.filter_congr fun entry hentry => ?_
    rw [hkeep, Dict.contains_filter keep hentry]
  have hleaving : session.leaving action =
      session.swept.cache.entries.entries.filter fun entry => !keep entry.1 entry.2 := by
    cases action with
    | get | size | evict | wait => exact hgone
    | _ => simp [CacheAction.departure?] at h
  refine ⟨keep, hkeep, hleaving, fun entry hentry => ?_⟩
  rw [hleaving] at hentry
  obtain ⟨hmem, hstopped⟩ := List.mem_filter.mp hentry
  exact hexpired entry hmem (by simpa using hstopped)

theorem itemCount_of_expired (h : action.departure? = some .expired) :
    (session.perform action).2.swept.cache.itemCount + (session.leaving action).length =
      session.swept.cache.itemCount := by
  obtain ⟨keep, hkeep, hleaving, -⟩ := exists_leaving_eq halive h
  rw [hleaving, TimedCache.itemCount, hkeep]
  exact session.swept.cache.entries.size_filter_add keep

theorem itemCount_perform (action : CacheAction κ ν) :
    (session.perform action).2.swept.cache.itemCount + (session.leaving action).length =
      session.swept.cache.itemCount + if action.isPut then 1 else 0 := by
  cases action with
  | put key value =>
      have hinsert := session.swept.cache.entries.size_insert key ⟨value, session.now⟩
      have herase := session.swept.cache.entries.size_erase_add key
      have hitems : (session.perform (.put key value)).2.swept.cache.itemCount =
          (session.swept.cache.entries.insert key ⟨value, session.now⟩).size := by
        simp [perform, onCache, halive, SweptCache.update, TimedCache.put, TimedCache.itemCount]
      rw [hitems, leaving, List.length_map, TimedCache.itemCount, CacheAction.isPut, if_pos rfl]
      omega
  | remove key =>
      have hitems : (session.perform (.remove key)).2.swept.cache.itemCount =
          (session.swept.cache.entries.erase key).size := by
        simp [perform, onCache, halive, SweptCache.update, TimedCache.remove,
          TimedCache.itemCount]
      rw [hitems, leaving, List.length_map]
      exact session.swept.cache.entries.size_erase_add key
  | clear =>
      have hcleared : (session.perform .clear).2.swept.cache = session.swept.cache.clear := by
        simp [perform, onCache, halive, SweptCache.update]
      rw [hcleared]
      exact Nat.zero_add _
  | get | size | evict | wait => exact itemCount_of_expired halive rfl
  | _ =>
      rw [leaving_eq_nil halive rfl, cache_perform_of_departure?_eq_none halive rfl]
      rfl

theorem expired_perform (action : CacheAction κ ν) :
    (session.perform action).2.swept.cache.counts.expired =
      session.swept.cache.counts.expired +
        if action.departure? = some .expired then (session.leaving action).length else 0 := by
  by_cases h : action.departure? = some .expired
  · have hcounted := (sheds_perform halive h).counted
    have hitems := itemCount_of_expired halive h
    rw [if_pos h]
    omega
  · rw [if_neg h]
    cases action with
    | get | size | evict | wait => exact absurd rfl h
    | _ =>
        simp [perform, onCache, halive, SweptCache.update, SweptCache.startSweeper,
          TimedCache.put, TimedCache.remove, TimedCache.clear]

theorem counts_perform (action : CacheAction κ ν) :
    (session.perform action).2.swept.cache.counts.hits =
        session.swept.cache.counts.hits +
          (session.reading? action).toList.countP Option.isSome ∧
      (session.perform action).2.swept.cache.counts.misses =
        session.swept.cache.counts.misses +
          (session.reading? action).toList.countP Option.isNone ∧
      (session.perform action).2.swept.cache.counts.inserts =
        session.swept.cache.counts.inserts + if action.isPut then 1 else 0 := by
  have hcounts := lookups_perform halive action
  refine ⟨(congrArg CacheCounts.hits hcounts).trans ?_,
    (congrArg CacheCounts.misses hcounts).trans ?_,
    (congrArg CacheCounts.inserts hcounts).trans ?_⟩
  all_goals
    cases action with
    | get key =>
        simp only [reading?, perform_get halive]
        cases session.swept.cache.peek? session.now key <;> rfl
    | _ => rfl

end

/-! ## A whole run -/

theorem run_cons (session : CacheSession κ ν) (action : CacheAction κ ν)
    (actions : List (CacheAction κ ν)) :
    session.run (action :: actions) = (session.perform action).2.run actions := rfl

/-- The counts of the run, set against what happened in it. -/
structure Balanced (session : CacheSession κ ν) (actions : List (CacheAction κ ν)) : Prop where
  hits : (session.run actions).swept.cache.counts.hits =
    session.swept.cache.counts.hits + (session.readings actions).countP Option.isSome
  misses : (session.run actions).swept.cache.counts.misses =
    session.swept.cache.counts.misses + (session.readings actions).countP Option.isNone
  inserts : (session.run actions).swept.cache.counts.inserts =
    session.swept.cache.counts.inserts + actions.countP CacheAction.isPut
  expired : (session.run actions).swept.cache.counts.expired =
    session.swept.cache.counts.expired + (session.departed .expired actions).length
  itemCount : (session.run actions).swept.cache.itemCount +
      ((session.departed .expired actions).length +
        (session.departed .overwritten actions).length +
        (session.departed .removed actions).length +
        (session.departed .cleared actions).length) =
    session.swept.cache.itemCount + actions.countP CacheAction.isPut

theorem length_departed_cons (session : CacheSession κ ν) (departure : Departure)
    (action : CacheAction κ ν) (actions : List (CacheAction κ ν)) :
    (session.departed departure (action :: actions)).length =
      (if action.departure? = some departure then (session.leaving action).length else 0) +
        ((session.perform action).2.departed departure actions).length := by
  rw [departed, List.length_append, apply_ite List.length, List.length_nil]

theorem balanced_run {session : CacheSession κ ν} (halive : session.droppedAt = none)
    {actions : List (CacheAction κ ν)} (hdrop : .drop ∉ actions) : session.Balanced actions := by
  induction actions generalizing session with
  | nil => exact ⟨rfl, rfl, rfl, rfl, rfl⟩
  | cons action actions ih =>
      rw [List.mem_cons, not_or] at hdrop
      have hlater := ih (droppedAt_perform halive (Ne.symm hdrop.1)) hdrop.2
      obtain ⟨hhits, hmisses, hinserts⟩ := counts_perform halive action
      constructor
      · rw [run_cons, hlater.hits, hhits, readings, List.countP_append, Nat.add_assoc]
      · rw [run_cons, hlater.misses, hmisses, readings, List.countP_append, Nat.add_assoc]
      · rw [run_cons, hlater.inserts, hinserts, List.countP_cons]
        omega
      · rw [run_cons, hlater.expired, expired_perform halive, length_departed_cons,
          Nat.add_assoc]
      · -- What leaves at this step is on exactly one of the four lists.
        have hitems := hlater.itemCount
        have hstep := itemCount_perform halive action
        simp only [run_cons, length_departed_cons, List.countP_cons]
        cases h : action.departure? with
        | none =>
            rw [leaving_eq_nil halive h, List.length_nil] at hstep
            simp only [reduceCtorEq, if_false]
            omega
        | some departure =>
            cases departure <;> simp only [Option.some.injEq, reduceCtorEq, if_true, if_false] <;>
              omega

theorem length_readings {session : CacheSession κ ν} (halive : session.droppedAt = none)
    {actions : List (CacheAction κ ν)} (hdrop : .drop ∉ actions) :
    (session.readings actions).length = actions.countP CacheAction.isGet := by
  induction actions generalizing session with
  | nil => rfl
  | cons action actions ih =>
      rw [List.mem_cons, not_or] at hdrop
      have hstep : (session.reading? action).toList.length = if action.isGet then 1 else 0 := by
        cases action with
        | get key => simp [reading?, perform_get halive, CacheAction.isGet]
        | _ => rfl
      rw [readings, List.length_append, hstep,
        ih (droppedAt_perform halive (Ne.symm hdrop.1)) hdrop.2, List.countP_cons, Nat.add_comm]

/--
The counts of a cache balance at every point.  Every get is a hit or a miss, and the
hits are those that returned a value; every put is counted, and so is, once, every entry
that is dropped for having expired, whoever comes across it.  What was put is still
stored, or has expired, or was overwritten, taken out or cleared.
-/
theorem cache_counts_balance (ttl : Nat) (actions : List (CacheAction κ ν))
    (halive : .drop ∉ actions) :
    let cache := ((new ttl).run actions).swept.cache
    cache.counts.hits + cache.counts.misses = actions.countP CacheAction.isGet ∧
      cache.counts.hits = ((new ttl).readings actions).countP Option.isSome ∧
      cache.counts.inserts = actions.countP CacheAction.isPut ∧
      cache.counts.expired = ((new ttl).departed .expired actions).length ∧
      (∀ before action after, actions = before ++ action :: after →
        action.departure? = some .expired →
          ∀ entry ∈ ((new ttl).run before).leaving action,
            ttl ≤ ((new ttl).run (before ++ [action])).now - entry.2.storedAt) ∧
      cache.counts.inserts =
        cache.itemCount + cache.counts.expired +
          ((new ttl).departed .overwritten actions).length +
          ((new ttl).departed .removed actions).length +
          ((new ttl).departed .cleared actions).length := by
  intro cache
  have hbalanced : (new ttl).Balanced actions := balanced_run rfl halive
  have hhits : cache.counts.hits = _ := hbalanced.hits.trans (Nat.zero_add _)
  have hmisses : cache.counts.misses = _ := hbalanced.misses.trans (Nat.zero_add _)
  have hinserts : cache.counts.inserts = _ := hbalanced.inserts.trans (Nat.zero_add _)
  have hexpired : cache.counts.expired = _ := hbalanced.expired.trans (Nat.zero_add _)
  have hitems : cache.itemCount + _ = _ := hbalanced.itemCount.trans (Nat.zero_add _)
  refine ⟨?_, hhits, hinserts, hexpired, ?_, by omega⟩
  · have hnone : (fun found : Option ν => decide ¬found.isSome = true) = Option.isNone := by
      funext found
      cases found <;> rfl
    have hgets : ((new ttl).readings actions).length = _ := length_readings rfl halive
    rw [hhits, hmisses, ← hgets, List.length_eq_countP_add_countP Option.isSome, hnone]
  · rintro before action after rfl hdeparture entry hentry
    have hbefore : .drop ∉ before := by
      simp only [List.mem_append, not_or] at halive
      exact halive.1
    obtain ⟨-, -, -, hold⟩ := exists_leaving_eq (droppedAt_run ttl hbefore) hdeparture
    have hlate := hold entry hentry
    rw [TimedCache.isExpired, decide_eq_true_eq, ttl_run ttl hbefore, ← run_concat] at hlate
    exact hlate

/-- Key 1 is overwritten, then swept at the tick of the twelfth millisecond; key 2 is
found, and later dropped by the get that comes too late for it; key 3 is taken out after
it has expired but before the next tick, and key 4 is cleared. -/
theorem entries_leave_in_every_way :
    let actions : List (CacheAction Nat Nat) :=
      [.put 1 7, .put 1 8, .startSweeper 6, .wait 1, .put 2 9, .wait 4, .get 2, .wait 6,
        .get 2, .wait 4, .put 3 5, .wait 10, .remove 3, .put 4 6, .clear, .put 5 1]
    let cache := ((new 10).run actions).swept.cache
    .drop ∉ actions ∧
      cache.counts = { hits := 1, misses := 1, expired := 2, inserts := 6 } ∧
      cache.itemCount = 1 ∧
      (new 10).departed .removed actions = [(3, ⟨5, 15⟩)] ∧
      cache.counts.inserts =
        cache.itemCount + cache.counts.expired +
          ((new 10).departed .overwritten actions).length +
          ((new 10).departed .removed actions).length +
          ((new 10).departed .cleared actions).length := by
  intro actions cache
  have halive : .drop ∉ actions := by decide
  obtain ⟨-, -, -, -, -, hbalance⟩ := cache_counts_balance 10 actions halive
  exact ⟨halive, by decide +kernel, by decide +kernel, by decide +kernel, hbalance⟩

end CacheSession

end FareGateway
