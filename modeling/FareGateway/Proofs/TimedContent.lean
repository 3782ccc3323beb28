import FareGateway.Proofs.Insertion
import FareGateway.TimedCache.Session

/-!
# The content of a cache in time

What a cache holds under a key is told by what was done to that key: the value of
the last put, unless the key was removed or everything was cleared since, and for
one lifetime.  Expired entries may linger in the cache or may have been dropped,
by whatever came across them; no look-up can tell.
-/

namespace FareGateway

/-- The counts but for that of the expired entries that have been dropped. -/
def CacheCounts.lookups (counts : CacheCounts) : CacheCounts := { counts with expired := 0 }

namespace TimedCache

variable {κ ν : Type}

/-- The keys that are left when every expired entry has been dropped. -/
def liveKeys (cache : TimedCache κ ν) (now : Nat) : List κ := (cache.evict now).2.entries.keys

theorem size_fst (cache : TimedCache κ ν) (now : Nat) :
    (cache.size now).1 = (cache.liveKeys now).length := by
  simp [size, itemCount, liveKeys, Dict.size, Dict.keys]

theorem nodup_liveKeys (cache : TimedCache κ ν) (now : Nat) : (cache.liveKeys now).Nodup :=
  (cache.evict now).2.entries.nodup_keys

variable [DecidableEq κ]

theorem mem_liveKeys_iff {cache : TimedCache κ ν} {now : Nat} {key : κ} :
    key ∈ cache.liveKeys now ↔ (cache.peek? now key).isSome := by
  rw [liveKeys, ← Dict.contains_iff, Dict.contains, evict, Dict.get?_filter, peek?]
  cases cache.entries.get? key with
  | none => simp
  | some entry => by_cases h : cache.isExpired now entry <;> simp [h, Option.filter]

theorem length_liveKeys_congr {first second : TimedCache κ ν} {now later : Nat}
    (h : ∀ key, first.peek? now key = second.peek? later key) :
    (first.liveKeys now).length = (second.liveKeys later).length := by
  have hsame : ∀ key, key ∈ first.liveKeys now ↔ key ∈ second.liveKeys later := fun key => by
    rw [mem_liveKeys_iff, mem_liveKeys_iff, h key]
  exact ((List.perm_ext_iff_of_nodup (nodup_liveKeys ..) (nodup_liveKeys ..)).mpr hsame).length_eq

theorem lookups_get (cache : TimedCache κ ν) (now : Nat) (key : κ) :
    (cache.get now key).2.counts.lookups =
      if (cache.peek? now key).isSome then
        { cache.counts.lookups with hits := cache.counts.lookups.hits + 1 }
      else { cache.counts.lookups with misses := cache.counts.lookups.misses + 1 } := by
  unfold get peek?
  cases cache.entries.get? key with
  | none => rfl
  | some entry => by_cases h : cache.isExpired now entry <;> simp [h, CacheCounts.lookups]

end TimedCache

/-! ## What the actions say of a key -/

namespace CacheAction

variable {κ ν : Type}

def duration : CacheAction κ ν → Nat
  | .wait ms => ms
  | _ => 0

/-- Whether the action settles what the key holds. -/
def touches [DecidableEq κ] (key : κ) : CacheAction κ ν → Bool
  | .put other _ => other = key
  | .remove other => other = key
  | .clear => true
  | _ => false

/-- The actions that are more than a sweep or a question about the cache. -/
def isVisible : CacheAction κ ν → Bool
  | .put _ _ | .get _ | .remove _ | .clear | .wait _ | .drop => true
  | _ => false

def isQuery : CacheAction κ ν → Bool
  | .get _ | .remove _ | .size => true
  | _ => false

end CacheAction

namespace CacheSession

variable {κ ν : Type}

def elapsed : List (CacheAction κ ν) → Nat
  | [] => 0
  | action :: actions => action.duration + elapsed actions

theorem elapsed_concat (actions : List (CacheAction κ ν)) (action : CacheAction κ ν) :
    elapsed (actions ++ [action]) = elapsed actions + action.duration := by
  induction actions with
  | nil => simp [elapsed]
  | cons first actions ih => simp [elapsed, ih, Nat.add_assoc]

variable [DecidableEq κ]

/-- The value was put under the key so long ago, and since then nothing else was
put there, nor was the key removed or the cache cleared. -/
def HeldFor (actions : List (CacheAction κ ν)) (key : κ) (value : ν) (age : Nat) : Prop :=
  ∃ before after, actions = before ++ .put key value :: after ∧
    (∀ action ∈ after, action.touches key = false) ∧ age = elapsed after

theorem not_heldFor_nil {key : κ} {value : ν} {age : Nat} : ¬HeldFor [] key value age := by
  rintro ⟨before, after, hactions, -⟩
  simp at hactions

theorem heldFor_concat_iff {actions : List (CacheAction κ ν)} {action : CacheAction κ ν}
    {key : κ} {value : ν} {age : Nat} :
    HeldFor (actions ++ [action]) key value age ↔
      (action = .put key value ∧ age = 0) ∨
        (action.touches key = false ∧
          ∃ earlier, HeldFor actions key value earlier ∧ age = earlier + action.duration) := by
  constructor
  · rintro ⟨before, after, hactions, hafter, rfl⟩
    cases after using List.reverseRecOn with
    | nil =>
        obtain ⟨-, haction⟩ := List.append_inj' hactions rfl
        cases haction
        exact .inl ⟨rfl, rfl⟩
    | append_singleton after last =>
        rw [← List.cons_append, ← List.append_assoc] at hactions
        obtain ⟨rfl, hlast⟩ := List.append_inj' hactions rfl
        cases hlast
        refine .inr ⟨hafter action (by simp), elapsed after,
          ⟨before, after, rfl, fun other hother => hafter other (by simp [hother]), rfl⟩, ?_⟩
        exact elapsed_concat after action
  · rintro (⟨rfl, rfl⟩ | ⟨htouches, earlier, ⟨before, after, rfl, hafter, rfl⟩, rfl⟩)
    · exact ⟨actions, [], rfl, by simp, rfl⟩
    · refine ⟨before, after ++ [action], by simp, ?_, (elapsed_concat after action).symm⟩
      intro other hother
      rcases List.mem_append.mp hother with hother | hother
      · exact hafter other hother
      · rwa [List.mem_singleton.mp hother]

theorem heldFor_append_congr {first second : List (CacheAction κ ν)} {key : κ} {value : ν}
    (h : ∀ age, HeldFor first key value age ↔ HeldFor second key value age)
    (more : List (CacheAction κ ν)) (age : Nat) :
    HeldFor (first ++ more) key value age ↔ HeldFor (second ++ more) key value age := by
  induction more using List.reverseRecOn generalizing age with
  | nil => simpa using h age
  | append_singleton more action ih =>
      simp only [← List.append_assoc, heldFor_concat_iff, ih]

theorem heldFor_get_iff (before after : List (CacheAction κ ν)) (read key : κ) (value : ν)
    (age : Nat) :
    HeldFor (before ++ .get read :: after) key value age ↔
      HeldFor (before ++ after) key value age := by
  have hread : ∀ age, HeldFor (before ++ [.get read]) key value age ↔
      HeldFor before key value age := by
    simp [heldFor_concat_iff, CacheAction.touches, CacheAction.duration]
  simpa using heldFor_append_congr hread after age

/-! ## What the cache answers -/

/-- Time passes by waiting, and also when the cache has been dropped. -/
theorem now_perform (session : CacheSession κ ν) (action : CacheAction κ ν) :
    (session.perform action).2.now = session.now + action.duration := by
  cases action with
  | startSweeper | wait | drop | finished => rfl
  | _ => cases hdropped : session.droppedAt <;> simp [perform, onCache, hdropped, CacheAction.duration]

section

variable {session : CacheSession κ ν} (halive : session.droppedAt = none)

include halive

theorem perform_get (key : κ) :
    (session.perform (.get key)).1 =
      .value (session.swept.cache.peek? session.now key) := by
  simp [perform, onCache, halive, SweptCache.update]

theorem perform_remove (key : κ) :
    (session.perform (.remove key)).1 =
      .value (session.swept.cache.peek? session.now key) := by
  simp [perform, onCache, halive, SweptCache.update, TimedCache.remove]

theorem perform_size :
    (session.perform .size).1 =
      .count (session.swept.cache.liveKeys session.now).length := by
  simp [perform, onCache, halive, SweptCache.update, TimedCache.size_fst]

theorem droppedAt_perform {action : CacheAction κ ν} (h : action ≠ .drop) :
    (session.perform action).2.droppedAt = none := by
  cases action with
  | drop => exact absurd rfl h
  | _ => simp [perform, onCache, halive]

theorem ttl_perform (action : CacheAction κ ν) :
    (session.perform action).2.swept.cache.ttl = session.swept.cache.ttl := by
  cases action <;>
    simp [perform, onCache, halive, SweptCache.update, SweptCache.startSweeper,
      TimedCache.put, TimedCache.ttl_get, TimedCache.remove, TimedCache.size,
      TimedCache.evict, TimedCache.clear]

theorem peek?_perform_put (key other : κ) (value : ν) (later : Nat) :
    (session.perform (.put key value)).2.swept.cache.peek? later other =
      if key = other then
        if later - session.now < session.swept.cache.ttl then some value else none
      else session.swept.cache.peek? later other := by
  simpa [perform, onCache, halive, SweptCache.update] using
    session.swept.cache.peek?_put session.now later key other value

theorem peek?_perform_of_touches_eq_false {action : CacheAction κ ν} {key : κ}
    (htouches : action.touches key = false) {later : Nat}
    (hlater : session.now + action.duration ≤ later) :
    (session.perform action).2.swept.cache.peek? later key =
      session.swept.cache.peek? later key := by
  have hnow : session.now ≤ later := by omega
  cases action with
  | put other value =>
      have hother : other ≠ key := by simpa [CacheAction.touches] using htouches
      rw [peek?_perform_put halive, if_neg hother]
  | get other =>
      simpa [perform, onCache, halive, SweptCache.update] using
        session.swept.cache.peek?_get hnow other key
  | remove other =>
      have hother : key ≠ other := by
        rintro rfl
        simp [CacheAction.touches] at htouches
      simpa [perform, onCache, halive, SweptCache.update, hother] using
        session.swept.cache.peek?_remove session.now later other key
  | size =>
      simpa [perform, onCache, halive, SweptCache.update, TimedCache.size] using
        session.swept.cache.peek?_evict hnow key
  | evict =>
      simpa [perform, onCache, halive, SweptCache.update] using
        session.swept.cache.peek?_evict hnow key
  | clear => simp [CacheAction.touches] at htouches
  | wait ms => exact session.swept.peek?_sweep session.now hlater key
  | _ => simp [perform, onCache, halive, SweptCache.update, SweptCache.startSweeper]

theorem peek?_perform_of_touches {action : CacheAction κ ν} {key : κ}
    (htouches : action.touches key = true) {later : Nat} {value : ν} :
    (session.perform action).2.swept.cache.peek? later key = some value ↔
      action = .put key value ∧ later - session.now < session.swept.cache.ttl := by
  cases action with
  | put other stored =>
      obtain rfl : other = key := by simpa [CacheAction.touches] using htouches
      rw [peek?_perform_put halive, if_pos rfl]
      by_cases hlive : later - session.now < session.swept.cache.ttl <;> simp [hlive]
  | remove other =>
      obtain rfl : other = key := by simpa [CacheAction.touches] using htouches
      simp [perform, onCache, halive, SweptCache.update, TimedCache.peek?_remove]
  | clear => simp [perform, onCache, halive, SweptCache.update, TimedCache.peek?_clear]
  | _ => simp [CacheAction.touches] at htouches

theorem lookups_perform (action : CacheAction κ ν) :
    (session.perform action).2.swept.cache.counts.lookups =
      let counts := session.swept.cache.counts.lookups
      match action with
      | .put _ _ => { counts with inserts := counts.inserts + 1 }
      | .get key =>
          if (session.swept.cache.peek? session.now key).isSome then
            { counts with hits := counts.hits + 1 }
          else { counts with misses := counts.misses + 1 }
      | _ => counts := by
  cases action with
  | get key =>
      simpa [perform, onCache, halive, SweptCache.update] using
        session.swept.cache.lookups_get session.now key
  | wait ms =>
      exact SweptCache.sweep_induction
        (p := fun cache => cache.counts.lookups = session.swept.cache.counts.lookups)
        (fun _ _ _ _ h => h) rfl
  | _ =>
      simp [perform, onCache, halive, SweptCache.update, SweptCache.startSweeper,
        TimedCache.put, TimedCache.remove, TimedCache.size, TimedCache.evict,
        TimedCache.clear, CacheCounts.lookups]

end

theorem perform_query_congr {first second : CacheSession κ ν}
    (hfirst : first.droppedAt = none) (hsecond : second.droppedAt = none)
    (hfound : ∀ key, first.swept.cache.peek? first.now key =
      second.swept.cache.peek? second.now key)
    {query : CacheAction κ ν} (hquery : query.isQuery) :
    (first.perform query).1 = (second.perform query).1 := by
  cases query with
  | get key => rw [perform_get hfirst, perform_get hsecond, hfound]
  | remove key => rw [perform_remove hfirst, perform_remove hsecond, hfound]
  | size =>
      rw [perform_size hfirst, perform_size hsecond,
        TimedCache.length_liveKeys_congr hfound]
  | _ => simp [CacheAction.isQuery] at hquery

/-! ## A whole run -/

theorem run_concat (session : CacheSession κ ν) (actions : List (CacheAction κ ν))
    (action : CacheAction κ ν) :
    session.run (actions ++ [action]) = ((session.run actions).perform action).2 :=
  List.foldl_concat ..

theorem droppedAt_run (ttl : Nat) {actions : List (CacheAction κ ν)}
    (h : .drop ∉ actions) : ((new ttl).run actions).droppedAt = none := by
  induction actions using List.reverseRecOn with
  | nil => rfl
  | append_singleton actions action ih =>
      rw [List.mem_append, List.mem_singleton, not_or] at h
      rw [run_concat]
      exact droppedAt_perform (ih h.1) (Ne.symm h.2)

theorem ttl_run (ttl : Nat) {actions : List (CacheAction κ ν)} (h : .drop ∉ actions) :
    ((new ttl).run actions).swept.cache.ttl = ttl := by
  induction actions using List.reverseRecOn with
  | nil => rfl
  | append_singleton actions action ih =>
      rw [List.mem_append, List.mem_singleton, not_or] at h
      rw [run_concat, ttl_perform (droppedAt_run ttl h.1), ih h.1]

/-- What is found under a key, now or later, is what has been put there for less
than a lifetime. -/
theorem peek?_run_iff (ttl : Nat) {actions : List (CacheAction κ ν)}
    (h : .drop ∉ actions) {later : Nat} (hlater : ((new ttl).run actions).now ≤ later)
    {key : κ} {value : ν} :
    ((new ttl).run actions).swept.cache.peek? later key = some value ↔
      ∃ age, HeldFor actions key value age ∧
        age + (later - ((new ttl).run actions).now) < ttl := by
  induction actions using List.reverseRecOn generalizing later with
  | nil =>
      have hempty : ((new ttl : CacheSession κ ν).run []).swept.cache.peek? later key = none :=
        rfl
      simp [hempty, not_heldFor_nil]
  | append_singleton actions action ih =>
      rw [List.mem_append, List.mem_singleton, not_or] at h
      have halive := droppedAt_run ttl h.1
      rw [run_concat, now_perform] at hlater
      simp only [run_concat, now_perform, heldFor_concat_iff]
      cases htouches : action.touches key with
      | true =>
          rw [peek?_perform_of_touches halive htouches, ttl_run ttl h.1]
          constructor
          · rintro ⟨rfl, hlive⟩
            exact ⟨0, .inl ⟨rfl, rfl⟩, by simpa [CacheAction.duration] using hlive⟩
          · rintro ⟨age, ⟨rfl, rfl⟩ | ⟨hfalse, -⟩, hlive⟩
            · exact ⟨rfl, by simpa [CacheAction.duration] using hlive⟩
            · cases hfalse
      | false =>
          rw [peek?_perform_of_touches_eq_false halive htouches hlater,
            ih h.1 (by omega)]
          constructor
          · rintro ⟨age, hheld, hlive⟩
            exact ⟨age + action.duration, .inr ⟨rfl, age, hheld, rfl⟩, by omega⟩
          · rintro ⟨_, ⟨rfl, -⟩ | ⟨-, age, hheld, rfl⟩, hlive⟩
            · simp [CacheAction.touches] at htouches
            · exact ⟨age, hheld, by omega⟩

theorem peek?_run_now_iff (ttl : Nat) {actions : List (CacheAction κ ν)}
    (h : .drop ∉ actions) {key : κ} {value : ν} :
    ((new ttl).run actions).swept.cache.peek? ((new ttl).run actions).now key = some value ↔
      ∃ age < ttl, HeldFor actions key value age := by
  rw [peek?_run_iff ttl h (Nat.le_refl _), Nat.sub_self]
  simp only [Nat.add_zero, and_comm]

end CacheSession

end FareGateway
