import FareGateway.Proofs.Turnover
import Mathlib.Data.List.Infix

/-!
# How stale a swept cache can get

A tick leaves nothing stored that is older than a lifetime, and the next tick is one
interval away.  So from its first tick on a sweeper bounds the age of whatever is stored,
expired or not, by a lifetime and an interval.  The sweeper itself goes on until the first
tick that finds the cache gone.
-/

namespace FareGateway

/-! ## Ticks -/

namespace Sweeper

variable {sweeper : Sweeper} {now tick : Nat}

theorem lastTick?_eq_some_iff :
    sweeper.lastTick? now = some tick ↔
      ∃ n, 1 ≤ n ∧ tick = sweeper.start + n * sweeper.interval ∧ tick ≤ now ∧
        now < tick + sweeper.interval := by
  constructor
  · intro h
    have hle := lastTick?_le h
    unfold lastTick? at h
    split at h
    · cases h
    · next hticks =>
        obtain ⟨hinterval, hstarted⟩ := not_or.mp hticks
        have hpositive : 0 < sweeper.interval := Nat.pos_of_ne_zero hinterval
        cases h
        refine ⟨(now - sweeper.start) / sweeper.interval, ?_, rfl, hle, ?_⟩
        · exact Nat.div_pos (by omega) hpositive
        · have hnext := Nat.lt_div_mul_add hpositive (a := now - sweeper.start)
          omega
  · rintro ⟨n, hn, rfl, hle, hnext⟩
    have hfirst : sweeper.interval ≤ n * sweeper.interval := Nat.le_mul_of_pos_left _ hn
    have hticks : ¬(sweeper.interval = 0 ∨ now < sweeper.start + sweeper.interval) := by omega
    have hcount : (now - sweeper.start) / sweeper.interval = n := by
      refine Nat.div_eq_of_lt_le (by omega) ?_
      rw [Nat.succ_mul]
      omega
    rw [lastTick?, if_neg hticks, hcount]

theorem exists_lastTick? {n : Nat} (hn : 1 ≤ n) (hinterval : 0 < sweeper.interval)
    (hover : sweeper.start + n * sweeper.interval ≤ now) :
    ∃ last, sweeper.lastTick? now = some last ∧ sweeper.start + n * sweeper.interval ≤ last := by
  let count := (now - sweeper.start) / sweeper.interval
  have hcount : n ≤ count := (Nat.le_div_iff_mul_le hinterval).mpr (by omega)
  have hlate := Nat.mul_le_mul_right sweeper.interval hcount
  have hle := Nat.div_mul_le_self (now - sweeper.start) sweeper.interval
  have hnext := Nat.lt_div_mul_add hinterval (a := now - sweeper.start)
  refine ⟨sweeper.start + count * sweeper.interval, lastTick?_eq_some_iff.mpr
    ⟨count, by omega, rfl, ?_, ?_⟩, by omega⟩
  · change sweeper.start + (now - sweeper.start) / sweeper.interval * sweeper.interval ≤ now
    omega
  · change now < sweeper.start + (now - sweeper.start) / sweeper.interval * sweeper.interval +
      sweeper.interval
    omega

theorem start_lt_lastTick? (h : sweeper.lastTick? now = some tick) : sweeper.start < tick := by
  obtain ⟨n, hn, rfl, hle, hnext⟩ := lastTick?_eq_some_iff.mp h
  have hfirst : sweeper.interval ≤ n * sweeper.interval := Nat.le_mul_of_pos_left _ hn
  omega

theorem lastTick?_of_le {later : Nat} (h : sweeper.lastTick? later = some tick)
    (htick : tick ≤ now) (hlater : now ≤ later) : sweeper.lastTick? now = some tick := by
  obtain ⟨n, hn, hstart, -, hnext⟩ := lastTick?_eq_some_iff.mp h
  exact lastTick?_eq_some_iff.mpr ⟨n, hn, hstart, htick, by omega⟩

theorem isFinished_iff (hinterval : 0 < sweeper.interval) {dropped : Nat} :
    sweeper.isFinished (some dropped) now = true ↔
      ∃ n, 1 ≤ n ∧ dropped < sweeper.start + n * sweeper.interval ∧
        sweeper.start + n * sweeper.interval ≤ now := by
  have hticks : (sweeper.interval = 0) = False := eq_false (Nat.ne_of_gt hinterval)
  constructor
  · intro h
    cases hlast : sweeper.lastTick? now with
    | none => simp [isFinished, hticks, hlast] at h
    | some last =>
        obtain ⟨n, hn, rfl, hle, -⟩ := lastTick?_eq_some_iff.mp hlast
        exact ⟨n, hn, by simpa [isFinished, hticks, hlast] using h, hle⟩
  · rintro ⟨n, hn, hdropped, hover⟩
    obtain ⟨last, hlast, hle⟩ := exists_lastTick? hn hinterval hover
    simpa [isFinished, hticks, hlast] using Nat.lt_of_lt_of_le hdropped hle

theorem exists_isFinished_eq (hinterval : 0 < sweeper.interval) {dropped : Nat}
    (hstarted : sweeper.start ≤ dropped) :
    ∃ n, 1 ≤ n ∧ dropped < sweeper.start + n * sweeper.interval ∧
      (∀ earlier, earlier < n → sweeper.start + earlier * sweeper.interval ≤ dropped) ∧
      ∀ now, sweeper.isFinished (some dropped) now =
        decide (sweeper.start + n * sweeper.interval ≤ now) := by
  let n := (dropped - sweeper.start) / sweeper.interval + 1
  have hnext := Nat.lt_div_mul_add hinterval (a := dropped - sweeper.start)
  have hlate : dropped < sweeper.start + n * sweeper.interval := by
    rw [Nat.succ_mul]
    omega
  have hearly : ∀ earlier, earlier < n →
      sweeper.start + earlier * sweeper.interval ≤ dropped := by
    intro earlier hearlier
    have hcount := (Nat.le_div_iff_mul_le hinterval).mp (Nat.le_of_lt_succ hearlier)
    omega
  refine ⟨n, Nat.succ_pos _, hlate, hearly, fun now => ?_⟩
  rw [Bool.eq_iff_iff, decide_eq_true_iff, isFinished_iff hinterval]
  constructor
  · rintro ⟨other, -, hdropped, hover⟩
    have hother : n ≤ other := by
      refine Nat.le_of_not_lt fun hlt => ?_
      have := hearly other hlt
      omega
    have := Nat.mul_le_mul_right sweeper.interval hother
    omega
  · intro hover
    exact ⟨n, Nat.succ_pos _, hlate, hover⟩

end Sweeper

/-! ## What a tick leaves -/

namespace SweptCache

variable {κ ν : Type}

theorem mem_of_mem_sweep {swept : SweptCache κ ν} {after upTo : Nat} {entry : κ × Stamped ν}
    (h : entry ∈ (swept.sweep after upTo).cache.entries.entries) :
    entry ∈ swept.cache.entries.entries := by
  obtain ⟨keep, hkeep, -⟩ := (TimedCache.sheds_sweep swept after upTo).dropped
  rw [hkeep] at h
  exact List.mem_of_mem_filter h

theorem sweep_append (cache : TimedCache κ ν) (first rest : List Sweeper) (after upTo : Nat) :
    (SweptCache.mk cache (first ++ rest)).sweep after upTo =
      { (SweptCache.mk ((SweptCache.mk cache first).sweep after upTo).cache rest).sweep
          after upTo with sweepers := first ++ rest } := by
  simp only [sweep, List.foldl_append]

theorem young_of_mem_sweep {swept : SweptCache κ ν} {after upTo tick : Nat}
    {sweeper : Sweeper} (hsweeper : sweeper ∈ swept.sweepers)
    (htick : sweeper.lastTick? upTo = some tick) (hafter : after < tick)
    {entry : κ × Stamped ν} (h : entry ∈ (swept.sweep after upTo).cache.entries.entries) :
    tick < entry.2.storedAt + swept.cache.ttl := by
  obtain ⟨cache, sweepers⟩ := swept
  obtain ⟨first, rest, rfl⟩ := List.append_of_mem hsweeper
  rw [sweep_append] at h
  -- The other sweepers, before and after this one, only drop more.
  have hcons := sweep_append ((SweptCache.mk cache first).sweep after upTo).cache [sweeper] rest
    after upTo
  rw [List.singleton_append] at hcons
  rw [hcons] at h
  have hticked := mem_of_mem_sweep h
  simp only [sweep, List.foldl_cons, List.foldl_nil, htick, hafter, if_true] at hticked
  have hkept := (List.mem_filter.mp hticked).2
  have httl := ttl_sweep (SweptCache.mk cache first) after upTo
  simp only [sweep] at httl
  simp only [TimedCache.isExpired, Bool.not_eq_true', decide_eq_false_iff_not, httl] at hkept
  change tick < entry.2.storedAt + cache.ttl
  omega

end SweptCache

namespace CacheAction

variable {κ ν : Type}

def isStart : CacheAction κ ν → Bool
  | .startSweeper _ => true
  | _ => false

end CacheAction

namespace CacheSession

variable {κ ν : Type} [DecidableEq κ]

/-- The keys that were put less than so long before the end of a run, with
repetitions. -/
def keysPutWithin (span : Nat) (actions : List (CacheAction κ ν)) : List κ :=
  actions.tails.filterMap fun
    | .put key _ :: after => if elapsed after < span then some key else none
    | _ => none

omit [DecidableEq κ] in
theorem elapsed_append (first second : List (CacheAction κ ν)) :
    elapsed (first ++ second) = elapsed first + elapsed second := by
  induction first with
  | nil => simp [elapsed]
  | cons action first ih => simp [elapsed, ih, Nat.add_assoc]

theorem mem_keysPutWithin {actions : List (CacheAction κ ν)} {key : κ} {value : ν}
    {age span : Nat} (h : HeldFor actions key value age) (hage : age < span) :
    key ∈ keysPutWithin span actions := by
  obtain ⟨before, after, rfl, -, rfl⟩ := h
  refine List.mem_filterMap.mpr ⟨.put key value :: after, ?_, if_pos hage⟩
  exact (List.mem_tails _ _).mpr (List.suffix_append ..)

/-! ## What is stored comes from a put -/

section

variable {session : CacheSession κ ν} (halive : session.droppedAt = none)

include halive

theorem mem_entries_perform {action : CacheAction κ ν} {entry : κ × Stamped ν}
    (h : entry ∈ (session.perform action).2.swept.cache.entries.entries) :
    (action = .put entry.1 entry.2.value ∧ entry.2.storedAt = session.now) ∨
      (action.touches entry.1 = false ∧ entry ∈ session.swept.cache.entries.entries) := by
  have hfiltered (hexpired : action.departure? = some .expired) :
      entry ∈ session.swept.cache.entries.entries := by
    obtain ⟨keep, hkeep, -⟩ := exists_leaving_eq halive hexpired
    rw [hkeep] at h
    exact List.mem_of_mem_filter h
  cases action with
  | put key value =>
      have hentries : (session.perform (.put key value)).2.swept.cache.entries =
          session.swept.cache.entries.insert key ⟨value, session.now⟩ := by
        simp [perform, onCache, halive, SweptCache.update, TimedCache.put]
      rw [hentries, ← Dict.get?_eq_some_iff, Dict.get?_insert] at h
      by_cases hkey : key = entry.1
      · rw [if_pos hkey] at h
        have hstamped := Option.some.inj h
        exact .inl ⟨by rw [hkey, ← hstamped], by rw [← hstamped]⟩
      · rw [if_neg hkey] at h
        exact .inr ⟨by simpa [CacheAction.touches] using hkey, Dict.get?_eq_some_iff.mp h⟩
  | remove key =>
      have hentries : (session.perform (.remove key)).2.swept.cache.entries =
          session.swept.cache.entries.erase key := by
        simp [perform, onCache, halive, SweptCache.update, TimedCache.remove]
      rw [hentries] at h
      obtain ⟨hmem, hkey⟩ := List.mem_filter.mp h
      exact .inr ⟨decide_eq_false (Ne.symm (of_decide_eq_true hkey)), hmem⟩
  | clear =>
      have hentries : (session.perform .clear).2.swept.cache.entries = ∅ := by
        simp [perform, onCache, halive, SweptCache.update, TimedCache.clear]
      rw [hentries] at h
      exact absurd h List.not_mem_nil
  | get | size | evict | wait => exact .inr ⟨rfl, hfiltered rfl⟩
  | ttl | startSweeper | drop | finished =>
      rw [cache_perform_of_departure?_eq_none halive rfl] at h
      exact .inr ⟨rfl, h⟩

end

theorem now_run (ttl : Nat) (actions : List (CacheAction κ ν)) :
    ((new ttl).run actions).now = elapsed actions := by
  induction actions using List.reverseRecOn with
  | nil => rfl
  | append_singleton actions action ih => rw [run_concat, now_perform, ih, elapsed_concat]

theorem heldFor_of_mem_entries (ttl : Nat) {actions : List (CacheAction κ ν)}
    (halive : .drop ∉ actions) {entry : κ × Stamped ν}
    (h : entry ∈ ((new ttl).run actions).swept.cache.entries.entries) :
    ∃ age, HeldFor actions entry.1 entry.2.value age ∧
      entry.2.storedAt + age = ((new ttl).run actions).now := by
  induction actions using List.reverseRecOn with
  | nil => exact absurd h List.not_mem_nil
  | append_singleton actions action ih =>
      rw [List.mem_append, List.mem_singleton, not_or] at halive
      rw [run_concat] at h
      simp only [run_concat, now_perform, heldFor_concat_iff]
      rcases mem_entries_perform (droppedAt_run ttl halive.1) h with ⟨hput, hnow⟩ | ⟨htouches, hmem⟩
      · exact ⟨0, .inl ⟨hput, rfl⟩, by rw [hput, hnow]; rfl⟩
      · obtain ⟨age, hheld, hage⟩ := ih halive.1 hmem
        exact ⟨age + action.duration, .inr ⟨htouches, age, hheld, rfl⟩, by omega⟩

/-! ## Sweepers in a run -/

theorem sweepers_perform (session : CacheSession κ ν) (action : CacheAction κ ν) :
    (session.perform action).2.swept.sweepers = session.swept.sweepers ++
      match action with
      | .startSweeper interval => [⟨session.now, interval⟩]
      | _ => [] := by
  cases action with
  | startSweeper | wait | drop | finished =>
      simp [perform, SweptCache.startSweeper, SweptCache.sweep]
  | _ =>
      cases hdropped : session.droppedAt <;> simp [perform, onCache, hdropped, SweptCache.update]

theorem sweepers_prefix_run (session : CacheSession κ ν) (actions : List (CacheAction κ ν)) :
    session.swept.sweepers <+: (session.run actions).swept.sweepers := by
  induction actions generalizing session with
  | nil => exact List.prefix_rfl
  | cons action actions ih =>
      refine List.IsPrefix.trans ?_ (ih (session.perform action).2)
      rw [sweepers_perform]
      exact List.prefix_append ..

theorem length_sweepers_run (ttl : Nat) (actions : List (CacheAction κ ν)) :
    ((new ttl).run actions).swept.sweepers.length = actions.countP CacheAction.isStart := by
  induction actions using List.reverseRecOn with
  | nil => rfl
  | append_singleton actions action ih =>
      rw [run_concat, sweepers_perform, List.length_append, ih, List.countP_append]
      cases action <;> rfl

theorem run_append (session : CacheSession κ ν) (first second : List (CacheAction κ ν)) :
    session.run (first ++ second) = (session.run first).run second :=
  List.foldl_append ..

theorem getElem?_sweepers_run (ttl interval : Nat) (before after : List (CacheAction κ ν)) :
    ((new ttl).run (before ++ .startSweeper interval :: after)).swept.sweepers[
        before.countP CacheAction.isStart]? = some ⟨elapsed before, interval⟩ := by
  have hstarted : (((new ttl).run before).perform (.startSweeper interval)).2.swept.sweepers[
      before.countP CacheAction.isStart]? = some ⟨elapsed before, interval⟩ := by
    rw [sweepers_perform, ← length_sweepers_run ttl before, List.getElem?_concat_length, now_run]
  obtain ⟨later, hlater⟩ := sweepers_prefix_run
    (((new ttl).run before).perform (.startSweeper interval)).2 after
  rw [run_append, run_cons, ← hlater,
    List.getElem?_append_left (List.getElem?_eq_some_iff.mp hstarted).1, hstarted]

/-- Every tick that is over has left nothing stored that was expired then. -/
def SweptUp (session : CacheSession κ ν) : Prop :=
  ∀ sweeper ∈ session.swept.sweepers, ∀ tick, sweeper.lastTick? session.now = some tick →
    ∀ entry ∈ session.swept.cache.entries.entries,
      entry.2.storedAt < tick → tick < entry.2.storedAt + session.swept.cache.ttl

theorem SweptUp.perform {session : CacheSession κ ν} (halive : session.droppedAt = none)
    (h : session.SweptUp) (action : CacheAction κ ν) : (session.perform action).2.SweptUp := by
  intro sweeper hsweeper tick htick entry hentry hstored
  rw [ttl_perform halive]
  rw [now_perform] at htick
  have hnow := Sweeper.lastTick?_le htick
  have hstill (hduration : action.duration = 0) (hthere : sweeper ∈ session.swept.sweepers) :
      tick < entry.2.storedAt + session.swept.cache.ttl := by
    rw [hduration, Nat.add_zero] at htick hnow
    rcases mem_entries_perform halive hentry with ⟨-, hput⟩ | ⟨-, hmem⟩
    · omega
    · exact h sweeper hthere tick htick entry hmem hstored
  rw [sweepers_perform] at hsweeper
  cases action with
  | wait ms =>
      have hthere : sweeper ∈ session.swept.sweepers := by simpa using hsweeper
      by_cases hafter : session.now < tick
      · exact SweptCache.young_of_mem_sweep hthere htick hafter hentry
      · refine h sweeper hthere tick ?_ entry (SweptCache.mem_of_mem_sweep hentry) hstored
        exact Sweeper.lastTick?_of_le htick (Nat.le_of_not_lt hafter) (Nat.le_add_right ..)
  | startSweeper interval =>
      rcases List.mem_append.mp hsweeper with hthere | hnew
      · exact hstill rfl hthere
      · obtain rfl := List.mem_singleton.mp hnew
        have hstart := Sweeper.start_lt_lastTick? htick
        exact absurd hnow (Nat.not_le.mpr hstart)
  | _ => exact hstill rfl (by simpa using hsweeper)

theorem sweptUp_run (ttl : Nat) {actions : List (CacheAction κ ν)} (halive : .drop ∉ actions) :
    ((new ttl).run actions).SweptUp := by
  induction actions using List.reverseRecOn with
  | nil => exact fun _ hsweeper => absurd hsweeper List.not_mem_nil
  | append_singleton actions action ih =>
      rw [List.mem_append, List.mem_singleton, not_or] at halive
      rw [run_concat]
      exact (ih halive.1).perform (droppedAt_run ttl halive.1) action

theorem exists_heldFor_of_ticked (ttl : Nat) {actions : List (CacheAction κ ν)}
    (halive : .drop ∉ actions) {sweeper : Sweeper} (hinterval : 0 < sweeper.interval)
    (hsweeper : sweeper ∈ ((new ttl).run actions).swept.sweepers)
    (hticked : sweeper.start + sweeper.interval ≤ ((new ttl).run actions).now)
    {entry : κ × Stamped ν}
    (hentry : entry ∈ ((new ttl).run actions).swept.cache.entries.entries) :
    ∃ age < ttl + sweeper.interval, HeldFor actions entry.1 entry.2.value age ∧
      entry.2.storedAt + age = ((new ttl).run actions).now := by
  obtain ⟨age, hheld, hage⟩ := heldFor_of_mem_entries ttl halive hentry
  refine ⟨age, ?_, hheld, hage⟩
  rw [← Nat.one_mul sweeper.interval] at hticked
  obtain ⟨tick, htick, -⟩ := Sweeper.exists_lastTick? (Nat.le_refl 1) hinterval hticked
  obtain ⟨-, -, -, -, hnext⟩ := Sweeper.lastTick?_eq_some_iff.mp htick
  by_cases hstored : entry.2.storedAt < tick
  · have hyoung := sweptUp_run ttl halive sweeper hsweeper tick htick entry hentry hstored
    rw [ttl_run ttl halive] at hyoung
    omega
  · omega

theorem itemCount_le {cache : TimedCache κ ν} {keys : List κ}
    (h : ∀ entry ∈ cache.entries.entries, entry.1 ∈ keys) :
    cache.itemCount ≤ keys.eraseDups.length := by
  have hsubset : cache.entries.keys ⊆ keys.eraseDups := by
    intro key hkey
    obtain ⟨entry, hentry, rfl⟩ := List.mem_map.mp hkey
    exact List.mem_eraseDups.mpr (h entry hentry)
  rw [TimedCache.itemCount, ← Dict.length_keys]
  exact (List.subperm_of_subset cache.entries.nodup_keys hsubset).length_le

/-! ## The end of a sweeper -/

theorem droppedAt_run_of_dropped {session : CacheSession κ ν} {dropped : Nat}
    (h : session.droppedAt = some dropped) (actions : List (CacheAction κ ν)) :
    (session.run actions).droppedAt = some dropped := by
  induction actions generalizing session with
  | nil => exact h
  | cons action actions ih =>
      refine ih ?_
      cases action <;> simp [perform, onCache, h]

/-- What a session answers about its sweeper of that number. -/
def SaysEnded (session : CacheSession κ ν) (number : Nat) (ended : Bool) : Prop :=
  ∃ flags, (session.perform .finished).1 = .flags flags ∧ flags[number]? = some ended

theorem saysEnded_of_getElem? {session : CacheSession κ ν} {number : Nat} {sweeper : Sweeper}
    (h : session.swept.sweepers[number]? = some sweeper) :
    session.SaysEnded number (sweeper.isFinished session.droppedAt session.now) :=
  ⟨_, rfl, by rw [List.getElem?_map, h, Option.map_some]⟩

/--
A sweeper bounds what is stored, whatever else is done to the cache and whichever other
sweepers there are.  At any time from its first tick on, everything that is stored was put
there less than a lifetime and an interval ago, so that there are at most as many entries as
different keys were put in that time.  The sweeper runs until the cache is dropped, and then
ends at its first tick after that, and not before.
-/
theorem sweeper_bounds_what_is_stored (ttl : Nat) {interval : Nat} (hinterval : 0 < interval)
    (before after : List (CacheAction κ ν))
    (halive : .drop ∉ before ++ .startSweeper interval :: after) :
    let start := elapsed before
    let number := before.countP CacheAction.isStart
    let actions := before ++ .startSweeper interval :: after
    let session := (new ttl).run actions
    (start + interval ≤ session.now →
      (∀ entry ∈ session.swept.cache.entries.entries,
        ∃ age < ttl + interval, HeldFor actions entry.1 entry.2.value age ∧
          entry.2.storedAt + age = session.now) ∧
      session.swept.cache.itemCount ≤
        (keysPutWithin (ttl + interval) actions).eraseDups.length) ∧
    session.SaysEnded number false ∧
    ∃ n, 1 ≤ n ∧ session.now < start + n * interval ∧
      (∀ earlier, earlier < n → start + earlier * interval ≤ session.now) ∧
      ∀ later, let dropped := (new ttl).run (actions ++ .drop :: later)
        dropped.SaysEnded number (decide (start + n * interval ≤ dropped.now)) := by
  intro start number actions session
  have hplace : session.swept.sweepers[number]? = some ⟨start, interval⟩ :=
    getElem?_sweepers_run ttl interval before after
  have hsweeper : ⟨start, interval⟩ ∈ session.swept.sweepers := List.mem_of_getElem? hplace
  have hstarted : start ≤ session.now := by
    rw [now_run, elapsed_append]
    exact Nat.le_add_right ..
  have hdropped : session.droppedAt = none := droppedAt_run ttl halive
  have hpositive : 0 < (⟨start, interval⟩ : Sweeper).interval := hinterval
  obtain ⟨n, hn, hlate, hearly, hends⟩ := Sweeper.exists_isFinished_eq hpositive hstarted
  refine ⟨fun hticked => ?_, ?_, n, hn, hlate, hearly, fun later => ?_⟩
  · have hyoung : ∀ entry ∈ session.swept.cache.entries.entries,
        ∃ age < ttl + interval, HeldFor actions entry.1 entry.2.value age ∧
          entry.2.storedAt + age = session.now := fun _ hentry =>
      exists_heldFor_of_ticked ttl halive hpositive hsweeper hticked hentry
    refine ⟨hyoung, itemCount_le fun entry hentry => ?_⟩
    obtain ⟨age, hage, hheld, -⟩ := hyoung entry hentry
    exact mem_keysPutWithin hheld hage
  · have hruns := saysEnded_of_getElem? hplace
    rw [hdropped] at hruns
    simpa [Sweeper.isFinished, Nat.ne_of_gt hinterval] using hruns
  · intro dropped
    have hat : dropped.droppedAt = some session.now := by
      have hat : (session.perform .drop).2.droppedAt = some session.now := by
        simp [perform, hdropped]
      have hthen := droppedAt_run_of_dropped hat later
      rwa [← run_cons, ← run_append] at hthen
    have hplace : dropped.swept.sweepers[number]? = some ⟨start, interval⟩ := by
      have hrun := getElem?_sweepers_run ttl interval before (after ++ .drop :: later)
      simpa [dropped, actions] using hrun
    have hended := saysEnded_of_getElem? hplace
    rwa [hat, hends] at hended

/-- The value that was put at the first millisecond is nine milliseconds old at the tick of
the tenth, and so is still stored, though expired, at the twelfth.  There the cache is
dropped, and the sweeper ends at its tick of the thirteenth. -/
theorem expired_value_waits_for_its_sweeper :
    let before : List (CacheAction Nat Nat) := [.wait 1, .put 1 7, .startSweeper 100, .wait 3]
    let after : List (CacheAction Nat Nat) := [.wait 5, .put 2 8, .wait 3]
    let actions := before ++ .startSweeper 3 :: after
    let session := (new 10).run actions
    0 < 3 ∧ .drop ∉ actions ∧ elapsed before + 3 ≤ session.now ∧
      session.swept.cache.entries.entries = [(1, ⟨7, 1⟩), (2, ⟨8, 9⟩)] ∧
      (session.perform (.get 1)).1 = .value none ∧
      session.swept.cache.itemCount ≤ (keysPutWithin 13 actions).eraseDups.length ∧
      session.SaysEnded 1 false ∧
      ((new 10).run (actions ++ [.drop])).SaysEnded 1 false ∧
      ((new 10).run (actions ++ [.drop, .wait 1])).SaysEnded 1 true := by
  intro before after actions session
  have halive : .drop ∉ actions := by decide
  obtain ⟨hbound, hruns, n, -, hlate, hearly, hends⟩ :=
    sweeper_bounds_what_is_stored 10 (by decide : 0 < 3) before after halive
  have hticked : elapsed before + 3 ≤ session.now := by decide
  obtain rfl : n = 3 := by
    have hlate : 12 < 4 + n * 3 := hlate
    have hlast : 4 + (n - 1) * 3 ≤ 12 := hearly (n - 1) (by omega)
    omega
  exact ⟨by decide, halive, hticked, by decide, by decide, (hbound hticked).2, hruns,
    hends [], hends [.wait 1]⟩

end CacheSession

end FareGateway
