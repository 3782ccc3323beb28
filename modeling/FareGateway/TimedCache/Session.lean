import FareGateway.TimedCache.Sweeper

/-!
# Using a cache over time

A session is a cache together with the present time.  Its actions are the
operations of the cache, the start of a sweeper, waiting, and dropping the cache
for good; nothing is left to act on after that, but time and sweepers go on.
-/

namespace FareGateway

/-- A cache, the present, and when the cache was dropped if it was. -/
structure CacheSession (κ ν : Type) where
  swept : SweptCache κ ν
  now : Nat := 0
  droppedAt : Option Nat := none

inductive CacheAction (κ ν : Type) where
  | put (key : κ) (value : ν)
  | get (key : κ)
  | remove (key : κ)
  | size
  | evict
  | clear
  | ttl
  | startSweeper (interval : Nat)
  | wait (ms : Nat)
  | drop
  | finished
  deriving DecidableEq, Repr

inductive CacheResponse (ν : Type) where
  | done
  | value (value : Option ν)
  | count (n : Nat)
  | duration (ms : Nat)
  | flags (flags : List Bool)
  deriving DecidableEq, Repr

namespace CacheSession

variable {κ ν : Type}

def new (ttl : Nat) : CacheSession κ ν := { swept := { cache := { ttl } } }

def cache? (session : CacheSession κ ν) : Option (TimedCache κ ν) :=
  if session.droppedAt.isSome then none else some session.swept.cache

def onCache (session : CacheSession κ ν)
    (act : TimedCache κ ν → Nat → CacheResponse ν × TimedCache κ ν) :
    CacheResponse ν × CacheSession κ ν :=
  if session.droppedAt.isSome then (.done, session)
  else
    let (response, swept) := session.swept.update fun cache => act cache session.now
    (response, { session with swept })

def perform [DecidableEq κ] (session : CacheSession κ ν) :
    CacheAction κ ν → CacheResponse ν × CacheSession κ ν
  | .put key value => session.onCache fun cache now => (.done, cache.put now key value)
  | .get key => session.onCache fun cache now =>
      let (value, cache) := cache.get now key
      (.value value, cache)
  | .remove key => session.onCache fun cache now =>
      let (value, cache) := cache.remove now key
      (.value value, cache)
  | .size => session.onCache fun cache now =>
      let (n, cache) := cache.size now
      (.count n, cache)
  | .evict => session.onCache fun cache now =>
      let (n, cache) := cache.evict now
      (.count n, cache)
  | .clear => session.onCache fun cache _ => (.done, cache.clear)
  | .ttl => session.onCache fun cache _ => (.duration cache.ttl, cache)
  | .startSweeper interval => (.done,
      { session with swept := session.swept.startSweeper session.now interval })
  | .wait ms => (.done,
      { session with
        swept := session.swept.sweep session.now (session.now + ms)
        now := session.now + ms })
  | .drop => (.done,
      { session with droppedAt := some (session.droppedAt.getD session.now) })
  | .finished => (.flags (session.swept.sweepers.map fun sweeper =>
      sweeper.isFinished session.droppedAt session.now), session)

def run [DecidableEq κ] (session : CacheSession κ ν) (actions : List (CacheAction κ ν)) :
    CacheSession κ ν :=
  actions.foldl (fun session action => (session.perform action).2) session

end CacheSession

end FareGateway
