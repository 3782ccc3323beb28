import Mathlib.Algebra.GroupWithZero.Nat
import Mathlib.Data.List.Forall2
import Mathlib.Logic.Relation

/-!
# The course of a call

A call has two parties.  The gateway waits for the answer until the time is up, and
the provider works on the answer and, while it does, may look at the token by which
the gateway tells that it has given up.  Calls under way at the same time go on beside
one another, and time passes only when none of the parties has anything left to do at
the moment.

A search call is a task of its own.  When the gateway gives up on it, the provider
goes on, with the token cancelled.  A call on an offer is part of the gateway's own
waiting: the provider's part is dropped when the time is up, and the token is cancelled
after that.

Of what falls on one moment, the gateway looks at the clock before it looks for the
answer, unless the answer takes no time and the call is its own, and a provider that
looks at its token does so before it answers.
-/

namespace FareGateway

/-- What is settled about a call when it is made.  A detached call is a task of its
own. -/
structure CallPlan where
  detached : Bool
  delay : Nat
  ignoresCancel : Bool
  deriving DecidableEq, Repr

inductive ProviderSide where
  | working
  | answered
  | noticed
  | dropped
  deriving DecidableEq, Repr

inductive GatewaySide where
  | waiting
  | heard
  | gaveUp
  deriving DecidableEq, Repr

structure CallState where
  provider : ProviderSide := .working
  gateway : GatewaySide := .waiting
  cancelled : Bool := false
  deriving DecidableEq, Repr

namespace CallPlan

/-- The provider waits before it answers, and looks at its token meanwhile. -/
def heeds (plan : CallPlan) : Bool := !plan.ignoresCancel && decide (0 < plan.delay)

/-- An answer that takes exactly the time given is late, as in `Reply.isInTime`, and of a
detached call also one without delay. -/
def isInTime (plan : CallPlan) (timeout : Nat) : Bool :=
  (!plan.detached && decide (plan.delay = 0)) || decide (plan.delay < timeout)

/-- What one of the parties can do at a moment. -/
inductive Moves (plan : CallPlan) (timeout now : Nat) : CallState → CallState → Prop
  | answer {gateway cancelled} (hdue : plan.delay ≤ now)
      (hfirst : gateway = .waiting →
        now < timeout ∨ plan.detached = false ∧ plan.delay = 0)
      (hunseen : cancelled = true → plan.heeds = false) :
      Moves plan timeout now ⟨.working, gateway, cancelled⟩ ⟨.answered, gateway, cancelled⟩
  | hear {cancelled} :
      Moves plan timeout now ⟨.answered, .waiting, cancelled⟩ ⟨.answered, .heard, cancelled⟩
  | cancel (htask : plan.detached = true) (hover : timeout ≤ now) :
      Moves plan timeout now ⟨.working, .waiting, false⟩ ⟨.working, .gaveUp, true⟩
  | drop (hown : plan.detached = false) (hwaits : 0 < plan.delay) (hover : timeout ≤ now) :
      Moves plan timeout now ⟨.working, .waiting, false⟩ ⟨.dropped, .gaveUp, false⟩
  | cancelDropped :
      Moves plan timeout now ⟨.dropped, .gaveUp, false⟩ ⟨.dropped, .gaveUp, true⟩
  | notice {gateway} (hheeds : plan.heeds = true) :
      Moves plan timeout now ⟨.working, gateway, true⟩ ⟨.noticed, gateway, true⟩

def AtRest (plan : CallPlan) (timeout now : Nat) (state : CallState) : Prop :=
  ∀ next, ¬plan.Moves timeout now state next

/-- How a call can stand at a moment, and what that says of its delay. -/
inductive Standing (plan : CallPlan) (timeout now : Nat) : CallState → Prop
  | waiting (htime : now ≤ timeout) (hdelay : now ≤ plan.delay) :
      Standing plan timeout now ⟨.working, .waiting, false⟩
  | answered (hintime : plan.isInTime timeout = true) :
      Standing plan timeout now ⟨.answered, .waiting, false⟩
  | heard (hintime : plan.isInTime timeout = true) :
      Standing plan timeout now ⟨.answered, .heard, false⟩
  | cancelled (htask : plan.detached = true) (hlate : plan.isInTime timeout = false) :
      Standing plan timeout now ⟨.working, .gaveUp, true⟩
  | noticed (htask : plan.detached = true) (hlate : plan.isInTime timeout = false)
      (hheeds : plan.heeds = true) : Standing plan timeout now ⟨.noticed, .gaveUp, true⟩
  | answeredLate (htask : plan.detached = true) (hlate : plan.isInTime timeout = false)
      (hheedless : plan.heeds = false) :
      Standing plan timeout now ⟨.answered, .gaveUp, true⟩
  | dropped (hown : plan.detached = false) (hlate : plan.isInTime timeout = false)
      (cancelled : Bool) : Standing plan timeout now ⟨.dropped, .gaveUp, cancelled⟩

variable {plan : CallPlan} {timeout now : Nat} {state next : CallState}

theorem standing_start : plan.Standing timeout 0 {} :=
  .waiting (Nat.zero_le _) (Nat.zero_le _)

theorem Standing.move (h : plan.Standing timeout now state)
    (hmoves : plan.Moves timeout now state next) : plan.Standing timeout now next := by
  cases hmoves with
  | answer hdue hfirst hunseen =>
      cases h with
      | waiting htime hdelay =>
          apply Standing.answered
          have hfirst := hfirst rfl
          simp only [isInTime, Bool.or_eq_true, Bool.and_eq_true, Bool.not_eq_true',
            decide_eq_true_eq]
          rcases hfirst with hearly | hown
          · exact .inr (by omega)
          · exact .inl hown
      | cancelled htask hlate => exact .answeredLate htask hlate (hunseen rfl)
  | hear =>
      cases h with
      | answered hintime => exact .heard hintime
  | cancel htask hover =>
      cases h with
      | waiting htime hdelay =>
          apply Standing.cancelled htask
          have hlate : ¬plan.delay < timeout := by omega
          simp [isInTime, htask, hlate]
  | drop hown hwaits hover =>
      cases h with
      | waiting htime hdelay =>
          apply Standing.dropped hown
          have hlate : ¬plan.delay < timeout := by omega
          simp [isInTime, Nat.pos_iff_ne_zero.mp hwaits, hlate]
  | cancelDropped =>
      cases h with
      | dropped hown hlate => exact .dropped hown hlate true
  | notice hheeds =>
      cases h with
      | cancelled htask hlate => exact .noticed htask hlate hheeds

theorem Standing.tick (h : plan.Standing timeout now state)
    (hrest : plan.AtRest timeout now state) : plan.Standing timeout (now + 1) state := by
  cases h with
  | waiting htime hdelay =>
      have hopen : now < timeout := by
        by_contra hover
        cases hdetached : plan.detached with
        | true => exact hrest _ (.cancel hdetached (Nat.not_lt.mp hover))
        | false =>
            rcases Nat.eq_zero_or_pos plan.delay with hnone | hwaits
            · refine hrest _ (.answer ?_ (fun _ => .inr ⟨hdetached, hnone⟩) nofun)
              omega
            · exact hrest _ (.drop hdetached hwaits (Nat.not_lt.mp hover))
      have hworking : now < plan.delay := by
        by_contra hdue
        exact hrest _ (.answer (Nat.not_lt.mp hdue) (fun _ => .inl hopen) nofun)
      exact .waiting hopen hworking
  | answered hintime => exact .answered hintime
  | heard hintime => exact .heard hintime
  | cancelled htask hlate => exact .cancelled htask hlate
  | noticed htask hlate hheeds => exact .noticed htask hlate hheeds
  | answeredLate htask hlate hheedless => exact .answeredLate htask hlate hheedless
  | dropped hown hlate cancelled => exact .dropped hown hlate cancelled

theorem Standing.gaveUp_of_cancelled (h : plan.Standing timeout now state)
    (hcancelled : state.cancelled = true) : state.gateway = .gaveUp := by
  cases h with
  | waiting | answered | heard => cases hcancelled
  | _ => rfl

/-- What has become of a call when everything about it is done. -/
structure Settled (plan : CallPlan) (timeout : Nat) (state : CallState) : Prop where
  gateway_eq : state.gateway = if plan.isInTime timeout then .heard else .gaveUp
  cancelled_eq : state.cancelled = !plan.isInTime timeout
  noticed_iff : state.provider = .noticed ↔
    plan.detached = true ∧ plan.isInTime timeout = false ∧ plan.heeds = true
  dropped_iff : state.provider = .dropped ↔
    plan.detached = false ∧ plan.isInTime timeout = false

theorem Standing.settled (h : plan.Standing timeout now state)
    (hrest : plan.AtRest timeout now state) (hover : state.gateway ≠ .waiting) :
    plan.Settled timeout state := by
  cases h with
  | waiting => exact absurd rfl hover
  | answered => exact absurd rfl hover
  | heard hintime => constructor <;> simp [hintime]
  | cancelled htask hlate =>
      have hheedless : plan.heeds = false :=
        Bool.eq_false_iff.mpr fun hheeds => hrest _ (.notice hheeds)
      constructor <;> simp [htask, hlate, hheedless]
  | noticed htask hlate hheeds => constructor <;> simp [htask, hlate, hheeds]
  | answeredLate htask hlate hheedless => constructor <;> simp [htask, hlate, hheedless]
  | dropped hown hlate cancelled =>
      have htold : cancelled = true := by
        by_contra huntold
        rw [Bool.not_eq_true] at huntold
        subst huntold
        exact hrest _ .cancelDropped
      constructor <;> simp [hown, hlate, htold]

def toDo (state : CallState) : Nat :=
  (if state.provider = .working then 1 else 0) +
    (if state.gateway = .waiting then 1 else 0) + if state.cancelled then 0 else 1

theorem Moves.toDo_lt (h : plan.Moves timeout now state next) : toDo next < toDo state := by
  cases h with
  | answer => simp [toDo]
  | hear => simp [toDo]
  | cancel => simp [toDo]
  | drop => simp [toDo]
  | cancelDropped => simp [toDo]
  | notice => simp [toDo]

end CallPlan

/-! ## Calls beside one another -/

/-- Calls that are made together, at a moment counted from then. -/
structure CallsAt where
  now : Nat
  calls : List (CallPlan × CallState)

namespace CallsAt

def start (plans : List CallPlan) : CallsAt := ⟨0, plans.map (·, {})⟩

def AtRest (timeout : Nat) (current : CallsAt) : Prop :=
  ∀ call ∈ current.calls, call.1.AtRest timeout current.now call.2

inductive Passes (timeout : Nat) : CallsAt → CallsAt → Prop
  | move {now before plan state next after} (h : plan.Moves timeout now state next) :
      Passes timeout ⟨now, before ++ (plan, state) :: after⟩
        ⟨now, before ++ (plan, next) :: after⟩
  | tick {now calls} (h : AtRest timeout ⟨now, calls⟩) :
      Passes timeout ⟨now, calls⟩ ⟨now + 1, calls⟩

/-- Any way in which the calls can have gone until now. -/
def Run (timeout : Nat) (plans : List CallPlan) : CallsAt → Prop :=
  Relation.ReflTransGen (Passes timeout) (start plans)

/-- Nobody is waited for and nothing is left to do. -/
structure IsOver (timeout : Nat) (current : CallsAt) : Prop where
  atRest : current.AtRest timeout
  nobody : ∀ call ∈ current.calls, call.2.gateway ≠ .waiting

variable {timeout : Nat} {plans : List CallPlan} {current next : CallsAt}

theorem plans_of_passes (h : Passes timeout current next) :
    next.calls.map Prod.fst = current.calls.map Prod.fst := by
  cases h with
  | move h => simp only [List.map_append, List.map_cons]
  | tick h => rfl

theorem standing_of_passes (h : Passes timeout current next)
    (hstanding : ∀ call ∈ current.calls, call.1.Standing timeout current.now call.2) :
    ∀ call ∈ next.calls, call.1.Standing timeout next.now call.2 := by
  cases h with
  | move h =>
      simp only [List.forall_mem_append, List.forall_mem_cons] at hstanding ⊢
      exact ⟨hstanding.1, hstanding.2.1.move h, hstanding.2.2⟩
  | tick h =>
      intro call hcall
      exact (hstanding call hcall).tick (h call hcall)

theorem Run.plans_eq (h : Run timeout plans current) :
    current.calls.map Prod.fst = plans := by
  induction h with
  | refl =>
      rw [start, List.map_map]
      exact List.map_id plans
  | tail _ hpasses ih => rw [plans_of_passes hpasses, ih]

theorem Run.standing (h : Run timeout plans current) :
    ∀ call ∈ current.calls, call.1.Standing timeout current.now call.2 := by
  induction h with
  | refl =>
      intro call hcall
      obtain ⟨plan, -, rfl⟩ := List.mem_map.mp hcall
      exact CallPlan.standing_start
  | tail _ hpasses ih => exact standing_of_passes hpasses ih

/-- However the calls have gone, they end alike. -/
theorem Run.settled (h : Run timeout plans current) (hover : current.IsOver timeout) :
    ∀ call ∈ current.calls, call.1.Settled timeout call.2 := by
  intro call hcall
  exact (h.standing call hcall).settled (hover.atRest call hcall) (hover.nobody call hcall)

/-! Every run can be brought to its end: there is only so much to do at a moment, and
when the time is up nobody waits any more. -/

def toDo (current : CallsAt) : Nat :=
  (current.calls.map fun call => CallPlan.toDo call.2).sum

theorem exists_atRest (timeout : Nat) (current : CallsAt) :
    ∃ rested, Relation.ReflTransGen (Passes timeout) current rested ∧
      rested.now = current.now ∧ rested.AtRest timeout := by
  induction hleft : current.toDo using Nat.strongRecOn generalizing current with
  | ind left ih =>
    by_cases hrest : current.AtRest timeout
    · exact ⟨current, .refl, rfl, hrest⟩
    · obtain ⟨now, calls⟩ := current
      simp only [AtRest, CallPlan.AtRest, not_forall, not_not] at hrest
      obtain ⟨⟨plan, state⟩, hcall, next, hmoves⟩ := hrest
      obtain ⟨before, after, rfl⟩ := List.append_of_mem hcall
      have hmove : CallPlan.toDo next < CallPlan.toDo state := hmoves.toDo_lt
      have hless : toDo ⟨now, before ++ (plan, next) :: after⟩ < left := by
        simp only [toDo, List.map_append, List.map_cons, List.sum_append,
          List.sum_cons] at hleft ⊢
        omega
      obtain ⟨rested, hrun, hnow, hatRest⟩ := ih _ hless _ rfl
      exact ⟨rested, .head (.move hmoves) hrun, hnow, hatRest⟩

theorem exists_atRest_later (timeout : Nat) (current : CallsAt) (ms : Nat) :
    ∃ rested, Relation.ReflTransGen (Passes timeout) current rested ∧
      rested.now = current.now + ms ∧ rested.AtRest timeout := by
  induction ms with
  | zero => exact exists_atRest timeout current
  | succ ms ih =>
      obtain ⟨rested, hrun, hnow, hrest⟩ := ih
      obtain ⟨later, hlater, hmoment, hatRest⟩ :=
        exists_atRest timeout ⟨rested.now + 1, rested.calls⟩
      refine ⟨later, (hrun.tail (.tick hrest)).trans hlater, ?_, hatRest⟩
      rw [hmoment, hnow]
      rfl

theorem exists_run_isOver (timeout : Nat) (plans : List CallPlan) :
    ∃ final, Run timeout plans final ∧ final.IsOver timeout := by
  obtain ⟨final, hrun, hnow, hrest⟩ :=
    exists_atRest_later timeout (start plans) (timeout + 1)
  refine ⟨final, hrun, hrest, ?_⟩
  intro call hcall hwaiting
  have hstanding := Run.standing hrun call hcall
  have hatRest := hrest call hcall
  obtain ⟨plan, state⟩ := call
  cases hstanding with
  | waiting htime =>
      rw [hnow, start] at htime
      omega
  | answered => exact hatRest _ .hear
  | _ => cases hwaiting

end CallsAt

end FareGateway
