import FareGateway.Dict

/-!
# A cache whose entries expire

Every entry lives for the cache's one lifetime, counted from the moment it was
stored; storing a key again starts its lifetime anew, reading it does not.  An
expired entry is never given out.  It is dropped when somebody comes across it,
or with all others of its kind when the cache is evicted.

Times are milliseconds, and every operation is told the present one.
-/

namespace FareGateway

structure Stamped (ν : Type) where
  value : ν
  storedAt : Nat
  deriving DecidableEq, Repr

structure CacheCounts where
  hits : Nat := 0
  misses : Nat := 0
  expired : Nat := 0
  inserts : Nat := 0
  deriving DecidableEq, Repr, Inhabited

structure TimedCache (κ ν : Type) where
  ttl : Nat
  entries : Dict κ (Stamped ν) := ∅
  counts : CacheCounts := {}

namespace TimedCache

variable {κ ν : Type}

/-- The number of entries that are stored, expired or not. -/
def itemCount (cache : TimedCache κ ν) : Nat := cache.entries.size

def isExpired (cache : TimedCache κ ν) (now : Nat) (entry : Stamped ν) : Bool :=
  decide (cache.ttl ≤ now - entry.storedAt)

def evict (cache : TimedCache κ ν) (now : Nat) : Nat × TimedCache κ ν :=
  let kept := cache.entries.filter fun _ entry => !cache.isExpired now entry
  let count := cache.entries.size - kept.size
  (count, { cache with
    entries := kept
    counts := { cache.counts with expired := cache.counts.expired + count } })

def size (cache : TimedCache κ ν) (now : Nat) : Nat × TimedCache κ ν :=
  let (_, cache) := cache.evict now
  (cache.itemCount, cache)

def clear (cache : TimedCache κ ν) : TimedCache κ ν := { cache with entries := ∅ }

variable [DecidableEq κ]

def put (cache : TimedCache κ ν) (now : Nat) (key : κ) (value : ν) : TimedCache κ ν :=
  { cache with
    entries := cache.entries.insert key ⟨value, now⟩
    counts := { cache.counts with inserts := cache.counts.inserts + 1 } }

/-- Counts the look-up as a hit or a miss, and drops the entry if it has expired. -/
def get (cache : TimedCache κ ν) (now : Nat) (key : κ) : Option ν × TimedCache κ ν :=
  let counts := cache.counts
  match cache.entries.get? key with
  | none => (none, { cache with counts := { counts with misses := counts.misses + 1 } })
  | some entry =>
      if cache.isExpired now entry then
        (none, { cache with
          entries := cache.entries.erase key
          counts := { counts with
            misses := counts.misses + 1
            expired := counts.expired + 1 } })
      else
        (some entry.value, { cache with counts := { counts with hits := counts.hits + 1 } })

def peek? (cache : TimedCache κ ν) (now : Nat) (key : κ) : Option ν :=
  (cache.entries.get? key).bind fun entry =>
    if cache.isExpired now entry then none else some entry.value

/-- Takes an entry out, and gives its value if it was alive.  Nothing is counted. -/
def remove (cache : TimedCache κ ν) (now : Nat) (key : κ) :
    Option ν × TimedCache κ ν :=
  (cache.peek? now key, { cache with entries := cache.entries.erase key })

/-! ## What every operation does to look-ups -/

theorem peek?_congr {first second : TimedCache κ ν} {key : κ}
    (httl : first.ttl = second.ttl)
    (hentry : first.entries.get? key = second.entries.get? key) (now : Nat) :
    first.peek? now key = second.peek? now key := by
  simp [peek?, isExpired, httl, hentry]

theorem peek?_eq_none {cache : TimedCache κ ν} {key : κ}
    (h : cache.entries.get? key = none) (now : Nat) : cache.peek? now key = none := by
  simp [peek?, h]

@[simp] theorem get_fst (cache : TimedCache κ ν) (now : Nat) (key : κ) :
    (cache.get now key).1 = cache.peek? now key := by
  unfold get peek?
  cases cache.entries.get? key with
  | none => rfl
  | some entry => by_cases h : cache.isExpired now entry <;> simp [h]

theorem ttl_get (cache : TimedCache κ ν) (now : Nat) (key : κ) :
    (cache.get now key).2.ttl = cache.ttl := by
  unfold get
  cases cache.entries.get? key with
  | none => rfl
  | some entry => by_cases h : cache.isExpired now entry <;> simp [h]

theorem peek?_put (cache : TimedCache κ ν) (storedAt now : Nat) (key other : κ)
    (value : ν) :
    (cache.put storedAt key value).peek? now other =
      if key = other then if now - storedAt < cache.ttl then some value else none
      else cache.peek? now other := by
  by_cases h : key = other
  · by_cases hlive : now - storedAt < cache.ttl
    · have hfresh : ¬cache.ttl ≤ now - storedAt := by omega
      simp [put, peek?, isExpired, h, hlive, hfresh]
    · have hexpired : cache.ttl ≤ now - storedAt := by omega
      simp [put, peek?, isExpired, h, hlive, hexpired]
  · rw [if_neg h]
    refine peek?_congr ?_ ?_ now
    · rfl
    · exact Dict.get?_insert_of_ne _ _ h

theorem peek?_remove (cache : TimedCache κ ν) (earlier now : Nat) (key other : κ) :
    (cache.remove earlier key).2.peek? now other =
      if other = key then none else cache.peek? now other := by
  by_cases h : other = key
  · rw [if_pos h]
    exact peek?_eq_none (by simp [remove, Dict.get?_erase, h]) now
  · rw [if_neg h]
    refine peek?_congr ?_ ?_ now
    · rfl
    · simp [remove, Dict.get?_erase, h]

theorem peek?_clear (cache : TimedCache κ ν) (now : Nat) (key : κ) :
    cache.clear.peek? now key = none := rfl

/-- An entry that is dropped as expired is expired for every later look-up. -/
theorem peek?_of_filter {cache : TimedCache κ ν} {earlier now : Nat}
    (h : earlier ≤ now) {kept : TimedCache κ ν} {key : κ} (httl : kept.ttl = cache.ttl)
    (hentry : kept.entries.get? key =
      (cache.entries.get? key).filter fun entry => !cache.isExpired earlier entry) :
    kept.peek? now key = cache.peek? now key := by
  simp only [peek?, hentry]
  cases cache.entries.get? key with
  | none => rfl
  | some entry =>
      by_cases hthen : cache.isExpired earlier entry
      · have hnow : cache.isExpired now entry = true := by
          simp only [isExpired, decide_eq_true_eq] at hthen ⊢
          omega
        rw [Option.filter_some_neg (by simp [hthen])]
        simp [hnow]
      · rw [Option.filter_some_pos (by simp [hthen])]
        simp [isExpired, httl]

theorem peek?_evict (cache : TimedCache κ ν) {earlier now : Nat} (h : earlier ≤ now)
    (key : κ) : (cache.evict earlier).2.peek? now key = cache.peek? now key :=
  peek?_of_filter h rfl (Dict.get?_filter _ _ _)

theorem peek?_get (cache : TimedCache κ ν) {earlier now : Nat} (h : earlier ≤ now)
    (key other : κ) :
    (cache.get earlier key).2.peek? now other = cache.peek? now other := by
  unfold get
  cases hentry : cache.entries.get? key with
  | none => rfl
  | some entry =>
      by_cases hthen : cache.isExpired earlier entry
      · simp only [hthen, if_true]
        by_cases hother : other = key
        · subst hother
          refine peek?_of_filter h ?_ ?_
          · rfl
          · rw [hentry, Option.filter_some_neg (by simp [hthen])]
            simp [Dict.get?_erase]
        · refine peek?_congr ?_ ?_ now
          · rfl
          · simp [Dict.get?_erase, hother]
      · simp only [hthen, Bool.false_eq_true, if_false]
        rfl

end TimedCache

end FareGateway
