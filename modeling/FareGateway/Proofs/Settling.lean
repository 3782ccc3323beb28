import FareGateway.Gateway.Collecting

/-!
# Every provider settles by itself

What comes of a provider depends on its own reply and the time allowed, and on
nothing else: not on when it is looked at, nor on what the others do.  However
often and in whatever order everybody is looked at, once all have been looked at
late enough the outcomes are these, each in its place.  Waiting from one moment
to the next until nobody is open is one such order, and it ends as soon as the
slowest provider has settled.
-/

namespace FareGateway

namespace Inquiry

def outcome (inquiry : Inquiry) (timeout : Nat) : Except Diagnostic.Cause SearchResults :=
  if inquiry.isLate timeout then .error (.timedOut timeout)
  else (inquiry.reply.answer.result inquiry.provider).mapError .error

theorem outcome_of_late {inquiry : Inquiry} {timeout : Nat}
    (h : timeout ≤ inquiry.reply.delay) :
    inquiry.outcome timeout = .error (.timedOut timeout) := by
  simp [outcome, isLate, h]

theorem outcome_of_in_time {inquiry : Inquiry} {timeout : Nat}
    (h : inquiry.reply.delay < timeout) :
    inquiry.outcome timeout =
      (inquiry.reply.answer.result inquiry.provider).mapError .error := by
  simp [outcome, isLate, Nat.not_le.mpr h]

end Inquiry

namespace Awaited

def settled (timeout : Nat) (inquiry : Inquiry) : Awaited :=
  ⟨inquiry, some (inquiry.outcome timeout)⟩

variable {timeout moment : Nat} {awaited : Awaited}

theorem poll_of_open (h : awaited.isOpen) :
    awaited.poll timeout moment =
      if awaited.inquiry.waitMs timeout ≤ moment then settled timeout awaited.inquiry
      else awaited := by
  obtain ⟨⟨provider, reply⟩, outcome?⟩ := awaited
  cases outcome? with
  | some outcome => cases h
  | none =>
      by_cases htime : reply.delay < timeout
      · have hwait : Inquiry.waitMs ⟨provider, reply⟩ timeout = reply.delay :=
          Nat.min_eq_left (Nat.le_of_lt htime)
        have houtcome : Inquiry.outcome ⟨provider, reply⟩ timeout = _ :=
          Inquiry.outcome_of_in_time htime
        by_cases hdue : reply.delay ≤ moment
        · simp [poll, settled, hwait, houtcome, htime, hdue]
        · have hearly : ¬timeout ≤ moment := by omega
          simp [poll, hwait, hdue, hearly]
      · have hwait : Inquiry.waitMs ⟨provider, reply⟩ timeout = timeout :=
          Nat.min_eq_right (Nat.not_lt.mp htime)
        have houtcome : Inquiry.outcome ⟨provider, reply⟩ timeout = _ :=
          Inquiry.outcome_of_late (Nat.not_lt.mp htime)
        simp [poll, settled, hwait, houtcome, htime]

theorem inquiry_poll (timeout moment : Nat) (awaited : Awaited) :
    (awaited.poll timeout moment).inquiry = awaited.inquiry := by
  cases h : awaited.outcome? with
  | some outcome => simp [poll, h]
  | none =>
      have hopen : awaited.isOpen := by simp [isOpen, h]
      rw [poll_of_open hopen]
      split <;> rfl

end Awaited

/-! ## Any order -/

/-- Who has settled was due by the moment, and who is open is not overdue. -/
structure ReachedBy (timeout moment : Nat) (awaited : List Awaited) : Prop where
  due : ∀ item ∈ awaited, ¬item.isOpen →
    item = .settled timeout item.inquiry ∧ item.inquiry.waitMs timeout ≤ moment
  ahead : ∀ item ∈ awaited, item.isOpen → moment ≤ item.inquiry.waitMs timeout

theorem ReachedBy.poll {timeout moment next : Nat} {awaited : List Awaited}
    (h : ReachedBy timeout moment awaited) (hnext : moment ≤ next) :
    ReachedBy timeout next (awaited.map (Awaited.poll timeout next)) := by
  constructor
  · intro item hitem hsettled
    obtain ⟨before, hbefore, rfl⟩ := List.mem_map.mp hitem
    rw [Awaited.inquiry_poll]
    by_cases hopen : before.isOpen
    · rw [Awaited.poll_of_open hopen] at hsettled ⊢
      by_cases hdue : before.inquiry.waitMs timeout ≤ next
      · rw [if_pos hdue]
        exact ⟨rfl, hdue⟩
      · rw [if_neg hdue] at hsettled
        exact absurd hopen hsettled
    · obtain ⟨hsame, hdue⟩ := h.due before hbefore hopen
      refine ⟨?_, Nat.le_trans hdue hnext⟩
      rw [hsame]
      rfl
  · intro item hitem hstill
    obtain ⟨before, hbefore, rfl⟩ := List.mem_map.mp hitem
    rw [Awaited.inquiry_poll]
    by_cases hopen : before.isOpen
    · rw [Awaited.poll_of_open hopen] at hstill
      by_cases hdue : before.inquiry.waitMs timeout ≤ next
      · rw [if_pos hdue] at hstill
        cases hstill
      · omega
    · rw [(h.due before hbefore hopen).1] at hstill
      cases hstill

theorem nextMoment?_eq_none_iff {timeout : Nat} {awaited : List Awaited} :
    nextMoment? timeout awaited = none ↔ ∀ item ∈ awaited, ¬item.isOpen := by
  simp [nextMoment?, List.filter_eq_nil_iff]

theorem nextMoment?_eq_some_iff {timeout next : Nat} {awaited : List Awaited} :
    nextMoment? timeout awaited = some next ↔
      (∃ item ∈ awaited, item.isOpen ∧ item.inquiry.waitMs timeout = next) ∧
        ∀ item ∈ awaited, item.isOpen → next ≤ item.inquiry.waitMs timeout := by
  rw [nextMoment?, List.min?_eq_some_iff]
  simp only [List.mem_map, List.mem_filter, and_assoc]
  constructor
  · rintro ⟨hdue, hleast⟩
    exact ⟨hdue, fun item hitem hopen => hleast _ ⟨item, hitem, hopen, rfl⟩⟩
  · rintro ⟨hdue, hleast⟩
    refine ⟨hdue, ?_⟩
    rintro _ ⟨item, hitem, hopen, rfl⟩
    exact hleast item hitem hopen

private theorem countP_lt {α : Type} {p q : α → Bool} {items : List α}
    (hpq : ∀ item ∈ items, p item → q item) {item : α} (hitem : item ∈ items)
    (hp : ¬p item) (hq : q item) : items.countP p < items.countP q := by
  induction items with
  | nil => cases hitem
  | cons first items ih =>
      have hrest := fun other hother => hpq other (List.mem_cons_of_mem first hother)
      rcases List.mem_cons.mp hitem with rfl | hitem
      · have hle := List.countP_mono_left hrest
        simp only [List.countP_cons, hp, hq]
        simp
        omega
      · have hlt := ih hrest hitem
        have hfirst := hpq first List.mem_cons_self
        by_cases hpfirst : p first
        · simp [hpfirst, hfirst hpfirst, hlt]
        · simp only [List.countP_cons, hpfirst]
          simp
          omega

theorem countP_isOpen_poll_lt {timeout next : Nat} {awaited : List Awaited}
    (h : nextMoment? timeout awaited = some next) :
    (awaited.map (Awaited.poll timeout next)).countP Awaited.isOpen <
      awaited.countP Awaited.isOpen := by
  obtain ⟨⟨item, hitem, hopen, hdue⟩, -⟩ := nextMoment?_eq_some_iff.mp h
  rw [List.countP_map]
  refine countP_lt ?_ hitem ?_ hopen
  · intro other _ hstill
    cases hother : other.outcome? with
    | none => simp [Awaited.isOpen, hother]
    | some outcome => simp [Awaited.isOpen, Awaited.poll, hother] at hstill
  · simp [Awaited.poll_of_open hopen, hdue, Awaited.settled, Awaited.isOpen]

private theorem foldl_max_eq (waits : List Nat) (moment : Nat) :
    waits.foldl max moment = max moment (waits.foldl max 0) := by
  induction waits generalizing moment with
  | nil => simp
  | cons wait waits ih =>
      rw [List.foldl_cons, List.foldl_cons, ih (max moment wait), ih (max 0 wait)]
      omega

private theorem le_foldl_max {waits : List Nat} {wait : Nat} (h : wait ∈ waits) :
    wait ≤ waits.foldl max 0 := by
  induction waits with
  | nil => cases h
  | cons first waits ih =>
      rw [List.foldl_cons, foldl_max_eq]
      rcases List.mem_cons.mp h with rfl | h
      · omega
      · have hle := ih h
        omega

private theorem foldl_max_le {waits : List Nat} {moment : Nat}
    (h : ∀ wait ∈ waits, wait ≤ moment) : waits.foldl max 0 ≤ moment := by
  induction waits with
  | nil => exact Nat.zero_le moment
  | cons first waits ih =>
      rw [List.foldl_cons, foldl_max_eq]
      have hfirst := h first List.mem_cons_self
      have hrest := ih fun wait hwait => h wait (List.mem_cons_of_mem first hwait)
      omega

theorem collectFrom_of_none_open {timeout moment : Nat} {awaited : List Awaited}
    (h : ReachedBy timeout moment awaited) (hclosed : ∀ item ∈ awaited, ¬item.isOpen) :
    (moment, awaited) =
      ((awaited.map fun item => item.inquiry.waitMs timeout).foldl max moment,
        awaited.map fun item => .settled timeout item.inquiry) := by
  have hsame : (awaited.map fun item => Awaited.settled timeout item.inquiry) = awaited := by
    refine (List.map_congr_left fun item hitem => ?_).trans (List.map_id awaited)
    exact (h.due item hitem (hclosed item hitem)).1.symm
  have hwaits : ∀ wait ∈ awaited.map fun item => item.inquiry.waitMs timeout,
      wait ≤ moment := by
    intro wait hwait
    obtain ⟨item, hitem, rfl⟩ := List.mem_map.mp hwait
    exact (h.due item hitem (hclosed item hitem)).2
  rw [hsame, foldl_max_eq, Nat.max_eq_left (foldl_max_le hwaits)]

theorem collectFrom_eq {timeout rounds moment : Nat} {awaited : List Awaited}
    (h : ReachedBy timeout moment awaited)
    (hrounds : awaited.countP Awaited.isOpen ≤ rounds) :
    collectFrom timeout rounds moment awaited =
      ((awaited.map fun item => item.inquiry.waitMs timeout).foldl max moment,
        awaited.map fun item => .settled timeout item.inquiry) := by
  induction rounds generalizing moment awaited with
  | zero =>
      rw [Nat.le_zero, List.countP_eq_zero] at hrounds
      exact collectFrom_of_none_open h hrounds
  | succ rounds ih =>
      rw [collectFrom]
      cases hnext : nextMoment? timeout awaited with
      | none => exact collectFrom_of_none_open h (nextMoment?_eq_none_iff.mp hnext)
      | some next =>
          obtain ⟨⟨item, hitem, hopen, hdue⟩, -⟩ := nextMoment?_eq_some_iff.mp hnext
          have hlater : moment ≤ next := hdue ▸ h.ahead item hitem hopen
          have hfewer := countP_isOpen_poll_lt hnext
          have hmem : next ∈ awaited.map fun item => item.inquiry.waitMs timeout :=
            List.mem_map.mpr ⟨item, hitem, hdue⟩
          have hle := le_foldl_max hmem
          refine (ih (h.poll hlater) (by omega)).trans ?_
          simp only [List.map_map, Function.comp_def, Awaited.inquiry_poll]
          rw [foldl_max_eq _ next, foldl_max_eq _ moment, Nat.max_eq_right hle,
            Nat.max_eq_right (Nat.le_trans hlater hle)]

/-- A search waits for the slowest provider, and by then each has come to its own
outcome. -/
theorem collected_eq (inquiries : List Inquiry) (timeout : Nat) :
    collected inquiries timeout =
      ((inquiries.map fun inquiry => inquiry.waitMs timeout).foldl max 0,
        inquiries.map (Awaited.settled timeout)) := by
  have hreached : ReachedBy timeout 0 (inquiries.map fun inquiry => { inquiry }) := by
    constructor
    · intro item hitem hsettled
      obtain ⟨inquiry, -, rfl⟩ := List.mem_map.mp hitem
      exact absurd rfl hsettled
    · intro item _ _
      exact Nat.zero_le _
  have hrounds : (inquiries.map fun inquiry => ({ inquiry } : Awaited)).countP
      Awaited.isOpen ≤ inquiries.length :=
    Nat.le_trans List.countP_le_length (Nat.le_of_eq (List.length_map _))
  refine (collectFrom_eq hreached hrounds).trans ?_
  simp [Function.comp_def]

end FareGateway
