import FareGateway.TimedCache.Basic

/-!
# Sweepers

A sweeper evicts a cache at regular ticks, the first one interval after its
start.  Between two operations on the cache, what several ticks drop is what the
last of them would drop alone, so passing time is one eviction per sweeper.

Ticks fall at their own times here, however long the cache was left alone.  A clock that
jumps over several of them makes up for them at the end of the jump, and evicts then: what
was stored before the jump has only become older, and no look-up tells the difference.

A sweeper ends at the first tick that finds the cache gone.  An interval of zero
has no ticks: such a sweeper ends as soon as it is started.
-/

namespace FareGateway

structure Sweeper where
  start : Nat
  interval : Nat
  deriving DecidableEq, Repr, Inhabited

namespace Sweeper

def lastTick? (sweeper : Sweeper) (now : Nat) : Option Nat :=
  if sweeper.interval = 0 ∨ now < sweeper.start + sweeper.interval then none
  else some (sweeper.start +
    (now - sweeper.start) / sweeper.interval * sweeper.interval)

theorem lastTick?_le {sweeper : Sweeper} {now tick : Nat}
    (h : sweeper.lastTick? now = some tick) : tick ≤ now := by
  unfold lastTick? at h
  split at h
  · cases h
  · next hticks =>
      cases h
      have := Nat.div_mul_le_self (now - sweeper.start) sweeper.interval
      omega

/-- Whether a sweeper has ended, given when the cache was dropped. -/
def isFinished (sweeper : Sweeper) (dropped : Option Nat) (now : Nat) : Bool :=
  sweeper.interval = 0 ||
    match dropped, sweeper.lastTick? now with
    | some dropped, some tick => dropped < tick
    | _, _ => false

end Sweeper

structure SweptCache (κ ν : Type) where
  cache : TimedCache κ ν
  sweepers : List Sweeper := []

namespace SweptCache

variable {κ ν : Type}

/-- The ticks after one time and up to another. -/
def sweep (swept : SweptCache κ ν) (after upTo : Nat) : SweptCache κ ν :=
  { swept with
    cache := swept.sweepers.foldl (fun cache sweeper =>
      match sweeper.lastTick? upTo with
      | some tick => if after < tick then (cache.evict tick).2 else cache
      | none => cache) swept.cache }

/-- What every tick keeps, sweeping keeps. -/
theorem sweep_induction {p : TimedCache κ ν → Prop} {swept : SweptCache κ ν}
    {after upTo : Nat}
    (hevict : ∀ cache tick, after < tick → tick ≤ upTo → p cache → p (cache.evict tick).2)
    (h : p swept.cache) : p (swept.sweep after upTo).cache := by
  simp only [sweep]
  generalize swept.cache = cache at h ⊢
  induction swept.sweepers generalizing cache with
  | nil => exact h
  | cons sweeper sweepers ih =>
      rw [List.foldl_cons]
      apply ih
      cases htick : sweeper.lastTick? upTo with
      | none => exact h
      | some tick =>
          by_cases hafter : after < tick
          · simpa [hafter] using hevict cache tick hafter (Sweeper.lastTick?_le htick) h
          · simpa [hafter] using h

@[simp] theorem ttl_sweep (swept : SweptCache κ ν) (after upTo : Nat) :
    (swept.sweep after upTo).cache.ttl = swept.cache.ttl :=
  sweep_induction (p := fun cache => cache.ttl = swept.cache.ttl) (fun _ _ _ _ h => h) rfl

/-- Sweepers drop nothing that a later look-up would find. -/
theorem peek?_sweep [DecidableEq κ] (swept : SweptCache κ ν) (after : Nat)
    {upTo now : Nat} (h : upTo ≤ now) (key : κ) :
    (swept.sweep after upTo).cache.peek? now key = swept.cache.peek? now key :=
  sweep_induction (p := fun cache => cache.peek? now key = swept.cache.peek? now key)
    (fun cache _ _ htick hcache =>
      (cache.peek?_evict (Nat.le_trans htick h) key).trans hcache) rfl

def startSweeper (swept : SweptCache κ ν) (now interval : Nat) : SweptCache κ ν :=
  { swept with sweepers := swept.sweepers ++ [⟨now, interval⟩] }

def update {α : Type} (swept : SweptCache κ ν)
    (act : TimedCache κ ν → α × TimedCache κ ν) : α × SweptCache κ ν :=
  let (result, cache) := act swept.cache
  (result, { swept with cache })

end SweptCache

end FareGateway
