import FareGateway.Gateway.Session

/-!
# Time passing

Waiting, sweeping and looking at routes change the route cache, but not what a
later look-up finds in it, nor anything else of the gateway.  Two states of a
gateway between which no more than this has happened are related by `Idles`.

Whatever the gateway does at the end of a wait, it does in a state to which the
gateway has idled, and it idles on from the state in which that leaves it.
-/

namespace FareGateway

namespace Gateway

def routeAt (gateway : Gateway) (now : Nat) (key : String) : Option Route :=
  gateway.routes.cache.peek? now key

structure Idles (before after : Gateway) : Prop where
  table_eq : after.table = before.table
  registry_eq : after.registry = before.registry
  settings_eq : after.settings = before.settings
  ttl_eq : after.routes.cache.ttl = before.routes.cache.ttl
  now_le : before.now ≤ after.now
  routeAt_eq : ∀ {now}, after.now ≤ now → ∀ key,
    after.routeAt now key = before.routeAt now key

namespace Idles

theorem refl (gateway : Gateway) : Idles gateway gateway where
  table_eq := rfl
  registry_eq := rfl
  settings_eq := rfl
  ttl_eq := rfl
  now_le := Nat.le_refl _
  routeAt_eq _ _ := rfl

end Idles

/-! ## Operations that idle -/

theorem idles_sweep (gateway : Gateway) (after : Nat) {upTo now : Nat}
    (hupTo : upTo ≤ now) (hnow : gateway.now ≤ now) :
    Idles gateway { gateway with now, routes := gateway.routes.sweep after upTo } where
  table_eq := rfl
  registry_eq := rfl
  settings_eq := rfl
  ttl_eq := SweptCache.ttl_sweep _ _ _
  now_le := hnow
  routeAt_eq hlater key :=
    SweptCache.peek?_sweep _ _ (Nat.le_trans hupTo hlater) key

theorem idles_wait (gateway : Gateway) (ms : Nat) : Idles gateway (gateway.wait ms) :=
  gateway.idles_sweep gateway.now (Nat.le_refl _) (Nat.le_add_right _ _)

theorem idles_startSweeping (gateway : Gateway) :
    Idles gateway gateway.startSweeping where
  table_eq := rfl
  registry_eq := rfl
  settings_eq := rfl
  ttl_eq := rfl
  now_le := Nat.le_refl _
  routeAt_eq _ _ := rfl

@[simp] theorem getRoute_fst (gateway : Gateway) (key : String) :
    (gateway.getRoute key).1 = gateway.routeAt gateway.now key :=
  TimedCache.get_fst _ _ _

theorem idles_getRoute (gateway : Gateway) (key : String) :
    Idles gateway (gateway.getRoute key).2 where
  table_eq := rfl
  registry_eq := rfl
  settings_eq := rfl
  ttl_eq := TimedCache.ttl_get _ _ _
  now_le := Nat.le_refl _
  routeAt_eq hlater other := TimedCache.peek?_get _ hlater key other

theorem idles_routeCount (gateway : Gateway) : Idles gateway gateway.routeCount.2 where
  table_eq := rfl
  registry_eq := rfl
  settings_eq := rfl
  ttl_eq := rfl
  now_le := Nat.le_refl _
  routeAt_eq hlater key := TimedCache.peek?_evict _ hlater key

/-! ## Acting at the end of a wait -/

/-- The state in which a wait with an action at its end lets the action begin. -/
def momentAfter (gateway : Gateway) (ms : Nat) : Gateway :=
  if ms = 0 then gateway else { gateway.wait (ms - 1) with now := gateway.now + ms }

theorem now_momentAfter (gateway : Gateway) (ms : Nat) :
    (gateway.momentAfter ms).now = gateway.now + ms := by
  by_cases h : ms = 0 <;> simp [momentAfter, h]

theorem idles_momentAfter (gateway : Gateway) (ms : Nat) :
    Idles gateway (gateway.momentAfter ms) := by
  by_cases h : ms = 0
  · rw [momentAfter, if_pos h]
    exact Idles.refl gateway
  · rw [momentAfter, if_neg h]
    exact gateway.idles_sweep gateway.now (by omega) (by omega)

variable {α : Type}

theorem waitThen_fst (gateway : Gateway) (ms : Nat) (act : Gateway → α × Gateway) :
    (gateway.waitThen ms act).1 = (act (gateway.momentAfter ms)).1 := by
  by_cases h : ms = 0 <;> simp [waitThen, momentAfter, h]

theorem idles_waitThen (gateway : Gateway) (ms : Nat) (act : Gateway → α × Gateway)
    (hnow : ∀ gateway, (act gateway).2.now = gateway.now) :
    Idles (act (gateway.momentAfter ms)).2 (gateway.waitThen ms act).2 := by
  have hend : (act (gateway.momentAfter ms)).2.now = gateway.now + ms := by
    rw [hnow, now_momentAfter]
  by_cases h : ms = 0
  · simp only [waitThen, momentAfter, h, if_true]
    exact Idles.refl _
  · simp only [waitThen, momentAfter, h, if_false] at hend ⊢
    exact idles_sweep _ _ (by omega) (by omega)

theorem now_waitThen (gateway : Gateway) (ms : Nat) (act : Gateway → α × Gateway)
    (hnow : ∀ gateway, (act gateway).2.now = gateway.now) :
    (gateway.waitThen ms act).2.now = gateway.now + ms := by
  have hend : (act (gateway.momentAfter ms)).2.now = gateway.now + ms := by
    rw [hnow, now_momentAfter]
  by_cases h : ms = 0
  · simp only [waitThen, momentAfter, h, if_true] at hend ⊢
    exact hend
  · simp only [waitThen, momentAfter, h, if_false] at hend ⊢
    exact hend

end Gateway

end FareGateway
