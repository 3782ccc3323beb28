import FareGateway.Proofs.TimedContent

/-!
# Sweeps that nobody sees

Two runs of a cache that differ in their sweepers, and in when the cache was
evicted or asked for its size, keep different expired entries.  Nothing else tells
them apart: whatever is done to both, they answer alike and count the same hits
and misses.
-/

namespace FareGateway

namespace CacheSession

variable {κ ν : Type} [DecidableEq κ]

/-! ## Runs that differ in sweeps and questions only -/

/-- Nothing that happens to both sessions from now on tells them apart, but for
the number of entries that they keep and have dropped. -/
structure Alike (first second : CacheSession κ ν) : Prop where
  first_alive : first.droppedAt = none
  second_alive : second.droppedAt = none
  now_eq : first.now = second.now
  ttl_eq : first.swept.cache.ttl = second.swept.cache.ttl
  peek?_eq : ∀ {later}, first.now ≤ later → ∀ key,
    first.swept.cache.peek? later key = second.swept.cache.peek? later key
  lookups_eq : first.swept.cache.counts.lookups = second.swept.cache.counts.lookups

namespace Alike

variable {first second third : CacheSession κ ν}

theorem symm (h : Alike first second) : Alike second first where
  first_alive := h.second_alive
  second_alive := h.first_alive
  now_eq := h.now_eq.symm
  ttl_eq := h.ttl_eq.symm
  peek?_eq hlater key := (h.peek?_eq (h.now_eq ▸ hlater) key).symm
  lookups_eq := h.lookups_eq.symm

theorem trans (h : Alike first second) (h' : Alike second third) : Alike first third where
  first_alive := h.first_alive
  second_alive := h'.second_alive
  now_eq := h.now_eq.trans h'.now_eq
  ttl_eq := h.ttl_eq.trans h'.ttl_eq
  peek?_eq hlater key := (h.peek?_eq hlater key).trans (h'.peek?_eq (h.now_eq ▸ hlater) key)
  lookups_eq := h.lookups_eq.trans h'.lookups_eq

theorem perform_query (h : Alike first second) {query : CacheAction κ ν}
    (hquery : query.isQuery) : (first.perform query).1 = (second.perform query).1 := by
  refine perform_query_congr h.first_alive h.second_alive (fun key => ?_) hquery
  rw [h.peek?_eq (Nat.le_refl _), h.now_eq]

theorem perform_fst (h : Alike first second) {action : CacheAction κ ν}
    (hvisible : action.isVisible) : (first.perform action).1 = (second.perform action).1 := by
  cases action with
  | get key => exact h.perform_query rfl
  | remove key => exact h.perform_query rfl
  | put key value => simp [perform, onCache, h.first_alive, h.second_alive, SweptCache.update]
  | clear => simp [perform, onCache, h.first_alive, h.second_alive, SweptCache.update]
  | wait ms => rfl
  | drop => rfl
  | _ => simp [CacheAction.isVisible] at hvisible

theorem perform_snd (h : Alike first second) {action : CacheAction κ ν}
    (hvisible : action.isVisible) (hdrop : action ≠ .drop) :
    Alike (first.perform action).2 (second.perform action).2 where
  first_alive := droppedAt_perform h.first_alive hdrop
  second_alive := droppedAt_perform h.second_alive hdrop
  now_eq := by rw [now_perform, now_perform, h.now_eq]
  ttl_eq := by rw [ttl_perform h.first_alive, ttl_perform h.second_alive, h.ttl_eq]
  peek?_eq {later} hlater key := by
    rw [now_perform] at hlater
    cases htouches : action.touches key with
    | true =>
        apply Option.ext
        intro value
        rw [peek?_perform_of_touches h.first_alive htouches,
          peek?_perform_of_touches h.second_alive htouches, h.now_eq, h.ttl_eq]
    | false =>
        rw [peek?_perform_of_touches_eq_false h.first_alive htouches hlater,
          peek?_perform_of_touches_eq_false h.second_alive htouches (h.now_eq ▸ hlater),
          h.peek?_eq (by omega)]
  lookups_eq := by
    rw [lookups_perform h.first_alive, lookups_perform h.second_alive, h.lookups_eq]
    cases action with
    | get key =>
        have hfound := h.peek?_eq (Nat.le_refl _) key
        simp only [hfound, ← h.now_eq]
    | _ => rfl

end Alike

theorem alike_of_not_isVisible {session : CacheSession κ ν} (halive : session.droppedAt = none)
    {action : CacheAction κ ν} (h : action.isVisible = false) :
    Alike (session.perform action).2 session where
  first_alive := droppedAt_perform halive (by rintro rfl; cases h)
  second_alive := halive
  now_eq := by
    rw [now_perform]
    cases action <;> first | rfl | cases h
  ttl_eq := ttl_perform halive action
  peek?_eq {later} hlater key := by
    refine peek?_perform_of_touches_eq_false halive ?_ (by rwa [now_perform] at hlater)
    cases action <;> first | rfl | cases h
  lookups_eq := by
    rw [lookups_perform halive]
    cases action <;> first | rfl | cases h

/-! ## Two runs -/

theorem alike_new (ttl : Nat) : Alike (new ttl : CacheSession κ ν) (new ttl) :=
  ⟨rfl, rfl, rfl, rfl, fun _ _ => rfl, rfl⟩

def answers (session : CacheSession κ ν) : List (CacheAction κ ν) → List (CacheResponse ν)
  | [] => []
  | action :: actions =>
      let (response, session) := session.perform action
      if action.isVisible then response :: session.answers actions
      else session.answers actions

theorem alike_run {first second : CacheSession κ ν} (h : Alike first second)
    {actions : List (CacheAction κ ν)} (hdrop : .drop ∉ actions) :
    first.answers actions = second.answers (actions.filter CacheAction.isVisible) ∧
      Alike (first.run actions) (second.run (actions.filter CacheAction.isVisible)) := by
  induction actions generalizing first second with
  | nil => exact ⟨rfl, h⟩
  | cons action actions ih =>
      rw [List.mem_cons, not_or] at hdrop
      by_cases hvisible : action.isVisible
      · obtain ⟨hanswers, halike⟩ := ih (h.perform_snd hvisible (Ne.symm hdrop.1)) hdrop.2
        rw [List.filter_cons_of_pos hvisible]
        refine ⟨?_, halike⟩
        simp [answers, hvisible, h.perform_fst hvisible, hanswers]
      · have hinvisible := Bool.eq_false_iff.mpr hvisible
        obtain ⟨hanswers, halike⟩ :=
          ih ((alike_of_not_isVisible h.first_alive hinvisible).trans h) hdrop.2
        rw [List.filter_cons_of_neg hvisible]
        refine ⟨?_, halike⟩
        simp [answers, hvisible, hanswers]

/--
A cache is a timed map.  It gives out the value of the last put of a key, for less
than a lifetime and unless the key was removed or the cache cleared since; its size
is the number of keys of which that holds.  Reading prolongs nothing, and no
sweeper, eviction or question about the size changes what is answered or which
look-ups are counted as hits.
-/
theorem cache_is_a_timed_map (ttl : Nat) (actions : List (CacheAction κ ν))
    (halive : .drop ∉ actions) :
    (∀ key, ∃ found,
      (((new ttl).run actions).perform (.get key)).1 = .value found ∧
        (((new ttl).run actions).perform (.remove key)).1 = .value found ∧
        ∀ value, found = some value ↔ ∃ age < ttl, HeldFor actions key value age) ∧
      (∀ key, (((new ttl).run (actions ++ [.remove key])).perform (.get key)).1 =
        .value none) ∧
      (∃ keys : List κ, keys.Nodup ∧
        (∀ key, key ∈ keys ↔ ∃ value, ∃ age < ttl, HeldFor actions key value age) ∧
        (((new ttl).run actions).perform .size).1 = .count keys.length) ∧
      (∀ before key after, actions = before ++ .get key :: after →
        ∀ query : CacheAction κ ν, query.isQuery →
          (((new ttl).run (before ++ after)).perform query).1 =
            (((new ttl).run actions).perform query).1) ∧
      ∀ other : List (CacheAction κ ν),
        other.filter CacheAction.isVisible = actions.filter CacheAction.isVisible →
          (new ttl).answers other = (new ttl).answers actions ∧
            (∀ query : CacheAction κ ν, query.isQuery →
              (((new ttl).run other).perform query).1 =
                (((new ttl).run actions).perform query).1) ∧
            ((new ttl).run other).swept.cache.counts.lookups =
              ((new ttl).run actions).swept.cache.counts.lookups := by
  have hdropped := droppedAt_run ttl halive
  refine ⟨fun key => ?_, fun key => ?_, ?_, ?_, ?_⟩
  · exact ⟨_, perform_get hdropped key, perform_remove hdropped key,
      fun value => peek?_run_now_iff ttl halive⟩
  · have hremoved : .remove key ≠ (.drop : CacheAction κ ν) := nofun
    rw [run_concat, perform_get (droppedAt_perform hdropped hremoved)]
    refine congrArg CacheResponse.value (Option.eq_none_iff_forall_ne_some.mpr ?_)
    intro value hvalue
    obtain ⟨hput, -⟩ := (peek?_perform_of_touches hdropped
      (by simp [CacheAction.touches])).mp hvalue
    cases hput
  · refine ⟨_, TimedCache.nodup_liveKeys _ _, fun key => ?_, perform_size hdropped⟩
    rw [TimedCache.mem_liveKeys_iff, Option.isSome_iff_exists]
    exact exists_congr fun value => peek?_run_now_iff ttl halive
  · rintro before read after rfl query hquery
    have hother : .drop ∉ before ++ after := by
      simpa using halive
    refine perform_query_congr (droppedAt_run ttl hother) hdropped (fun key => ?_) hquery
    apply Option.ext
    intro value
    rw [peek?_run_now_iff ttl hother, peek?_run_now_iff ttl halive]
    simp only [heldFor_get_iff]
  · intro other hvisible
    have hother : .drop ∉ other := by
      intro hdrop
      have hmem : .drop ∈ other.filter CacheAction.isVisible :=
        List.mem_filter.mpr ⟨hdrop, rfl⟩
      rw [hvisible] at hmem
      exact halive (List.mem_of_mem_filter hmem)
    obtain ⟨hanswers, halike⟩ := alike_run (alike_new (κ := κ) (ν := ν) ttl) halive
    obtain ⟨hotherAnswers, hotherAlike⟩ := alike_run (alike_new ttl) hother
    rw [hvisible] at hotherAnswers hotherAlike
    have hboth := hotherAlike.trans halike.symm
    exact ⟨hotherAnswers.trans hanswers.symm, fun query hquery => hboth.perform_query hquery,
      hboth.lookups_eq⟩

/-- The sweeper's ticks drop nothing yet; ten milliseconds after it was put, the
value is gone. -/
theorem value_lives_until_its_horizon :
    let actions : List (CacheAction Nat Nat) :=
      [.put 1 7, .startSweeper 3, .wait 9, .get 1, .size]
    let unswept : List (CacheAction Nat Nat) := [.put 1 7, .wait 9, .evict, .get 1]
    .drop ∉ actions ∧
      (((new 10).run actions).perform (.get 1)).1 = .value (some 7) ∧
      (((new 10).run (actions ++ [.wait 1])).perform (.get 1)).1 = .value none ∧
      (new 10).answers unswept = (new 10).answers actions := by
  intro actions unswept
  have halive : .drop ∉ actions := by decide
  obtain ⟨hfound, -, -, -, hunseen⟩ := cache_is_a_timed_map 10 actions halive
  obtain ⟨found, hget, -, hheld⟩ := hfound 1
  have hput : HeldFor actions 1 7 9 :=
    ⟨[], [.startSweeper 3, .wait 9, .get 1, .size], rfl, by decide, rfl⟩
  have hlive : (((new 10).run actions).perform (.get 1)).1 = .value (some 7) := by
    rw [hget, (hheld 7).mpr ⟨9, by decide, hput⟩]
  exact ⟨halive, hlive, by decide +kernel, (hunseen unswept (by decide)).1⟩

end CacheSession

end FareGateway
