import FareGateway.Proofs.OptionCodes

/-!
# Counting collisions

A price point is displaced when another one sits in the slot of its first attempt.  That is
settled when it is added first and never changes, since nobody leaves a slot.  So the count
that goes up at such additions is at any time the number of price points that are not in the
slots of their first attempts.
-/

namespace FareGateway

namespace CodeBook

/-- Whether another price point sits in the slot of the first attempt. -/
def isTaken (book : CodeBook) (point : PricePoint) : Bool :=
  (book.slots.get? (point.slot 0)).any fun entry => decide (entry.point ≠ point)

def slotOf? (book : CodeBook) (point : PricePoint) : Option Int32 :=
  (book.slots.entries.find? fun held => decide (held.2.point = point)).map Prod.fst

/-- Whether a price point sits in another slot than that of its first attempt. -/
def isDisplaced (book : CodeBook) (point : PricePoint) : Bool :=
  (book.slotOf? point).any fun slot => decide (slot ≠ point.slot 0)

variable {book : CodeBook} {dict : Dict PricePoint Price} {point : PricePoint}

theorem settles_zero_eq_not_isTaken (book : CodeBook) (point : PricePoint) :
    book.settles point 0 = !book.isTaken point := by
  rw [settles, isTaken]
  cases book.slots.get? (point.slot 0) <;> simp

theorem EndsAt.isTaken_iff {attempt : Nat} (h : book.EndsAt point attempt) :
    book.isTaken point = true ↔ attempt ≠ 0 := by
  have hzero := book.settles_zero_eq_not_isTaken point
  cases attempt with
  | zero =>
      have hsettles := hzero.symm.trans h.settles
      simpa using hsettles
  | succ attempt =>
      have hbefore := hzero.symm.trans (h.before 0 (Nat.succ_pos attempt))
      simpa using hbefore

theorem EndsAt.slot_ne_iff {attempt : Nat} (h : book.EndsAt point attempt)
    (hfree : book.slots.get? (point.slot attempt) = none) :
    point.slot attempt ≠ point.slot 0 ↔ attempt ≠ 0 := by
  refine ⟨fun hslot hzero => hslot (hzero ▸ rfl), fun hne hsame => ?_⟩
  obtain ⟨entry, hentry, -⟩ := settles_eq_false_iff.mp (h.before 0 (Nat.pos_of_ne_zero hne))
  rw [← hsame, hfree] at hentry
  cases hentry

/-! ## The slot of a price point -/

theorem Holds.slotOf?_eq (h : book.Holds dict) {slot : Int32} {entry : Entry}
    (hentry : book.slots.get? slot = some entry) : book.slotOf? entry.point = some slot := by
  have hsome : (book.slots.entries.find? fun held =>
      decide (held.2.point = entry.point)).isSome :=
    List.find?_isSome.mpr ⟨_, Dict.get?_eq_some_iff.mp hentry, decide_eq_true rfl⟩
  obtain ⟨⟨found, other⟩, hfound⟩ := Option.isSome_iff_exists.mp hsome
  rw [slotOf?, hfound, Option.map_some]
  have hpoint : other.point = entry.point := by simpa using List.find?_some hfound
  obtain ⟨attempt, hends, rfl⟩ := h.endsAt slot entry hentry
  obtain ⟨otherAttempt, hotherEnds, hslot⟩ :=
    h.endsAt found other (Dict.get?_eq_some_iff.mpr (List.mem_of_find?_eq_some hfound))
  rw [hpoint] at hotherEnds hslot
  rw [← hslot, hotherEnds.unique hends]

theorem Holds.isDisplaced_eq (h : book.Holds dict) {slot : Int32} {entry : Entry}
    (hentry : book.slots.get? slot = some entry) :
    book.isDisplaced entry.point = decide (slot ≠ entry.point.slot 0) := by
  rw [isDisplaced, h.slotOf?_eq hentry, Option.any_some]

/-! ## One addition -/

theorem Holds.collisions_add (h : book.Holds dict) (hsize : dict.size + 1 < 2 ^ 32)
    (addition : String × Price) :
    (book.add addition.1 addition.2).2.collisions =
      book.collisions +
        if dict.contains (pointOf addition) then 0
        else if book.isTaken (pointOf addition) then 1 else 0 := by
  by_cases hheld : dict.contains (pointOf addition)
  · rw [h.add_of_contains hsize addition.1 addition.2 hheld, if_pos hheld, Nat.add_zero]
  · obtain ⟨attempt, hends, -, hadd⟩ :=
      h.add_of_not_contains hsize addition.1 addition.2 hheld
    have htaken : book.isTaken (pointOf addition) = true ↔ attempt ≠ 0 := hends.isTaken_iff
    rw [hadd, if_neg hheld]
    simp only [htaken, ite_not]

/-! ## Many additions -/

def bookAtFirst (additions : List (String × Price)) (point : PricePoint) : CodeBook :=
  (empty.addAll (additions.takeWhile fun addition => decide (pointOf addition ≠ point))).2

theorem bookAtFirst_append_of_mem {additions : List (String × Price)}
    (h : point ∈ additions.map pointOf) (later : List (String × Price)) :
    bookAtFirst (additions ++ later) point = bookAtFirst additions point := by
  rw [bookAtFirst, bookAtFirst, List.takeWhile_append, if_neg]
  intro hall
  obtain ⟨addition, hmem, hpoint⟩ := List.mem_map.mp h
  have hkept := (List.takeWhile_prefix _).eq_of_length hall
  rw [← hkept] at hmem
  have hother := List.all_eq_true.mp List.all_takeWhile addition hmem
  exact of_decide_eq_true hother hpoint

theorem bookAtFirst_concat_of_not_mem {additions : List (String × Price)}
    (h : point ∉ additions.map pointOf) {addition : String × Price}
    (hpoint : pointOf addition = point) :
    bookAtFirst (additions ++ [addition]) point = (empty.addAll additions).2 := by
  have hother : ∀ other ∈ additions, decide (pointOf other ≠ point) = true := by
    intro other hmem
    rw [decide_eq_true_iff]
    rintro rfl
    exact h (List.mem_map_of_mem hmem)
  rw [bookAtFirst, List.takeWhile_append_of_pos hother]
  simp [hpoint]

theorem room_of_append {first second : List (String × Price)}
    (h : (firstPrices (first ++ second)).size + 1 < 2 ^ 32) :
    (firstPrices first).size + 1 < 2 ^ 32 := by
  rw [firstPrices, pricings, List.map_append, Dict.insertNew_append] at h
  exact room_of_insertNew h

theorem collisions_addAll {additions : List (String × Price)}
    (hsize : (firstPrices additions).size + 1 < 2 ^ 32) :
    (empty.addAll additions).2.collisions =
      (additions.map pointOf).eraseDups.countP fun point =>
        (bookAtFirst additions point).isTaken point := by
  induction additions using List.reverseRecOn with
  | nil => rfl
  | append_singleton additions addition ih =>
      have hbefore := room_of_append hsize
      have hholds : (empty.addAll additions).2.Holds (firstPrices additions) :=
        holds_empty.addAll hbefore
      have hstep := hholds.collisions_add hbefore addition
      have hearlier : (additions.map pointOf).eraseDups.countP (fun point =>
            (bookAtFirst (additions ++ [addition]) point).isTaken point) =
          (empty.addAll additions).2.collisions := by
        rw [ih hbefore]
        refine List.countP_congr fun point hmem => ?_
        rw [bookAtFirst_append_of_mem (List.mem_eraseDups.mp hmem)]
      rw [addAll_append, List.map_append, List.map_singleton, Dict.eraseDups_concat]
      refine hstep.trans ?_
      by_cases hheld : pointOf addition ∈ additions.map pointOf
      · rw [if_pos hheld, if_pos (contains_firstPrices.mpr hheld), hearlier, Nat.add_zero]
      · rw [if_neg hheld, if_neg (mt contains_firstPrices.mp hheld), List.countP_append,
          hearlier, List.countP_singleton, bookAtFirst_concat_of_not_mem hheld rfl]

theorem exists_first_addition {additions : List (String × Price)}
    (h : point ∈ additions.map pointOf) :
    ∃ before addition after, additions = before ++ addition :: after ∧
      pointOf addition = point ∧ point ∉ before.map pointOf := by
  obtain ⟨points, later, hpoints, hnew⟩ := List.eq_append_cons_of_mem h
  obtain ⟨before, rest, rfl, rfl, hrest⟩ := List.map_eq_append_iff.mp hpoints
  obtain ⟨addition, after, rfl, hpoint, -⟩ := List.map_eq_cons_iff.mp hrest
  exact ⟨before, addition, after, rfl, hpoint, hnew⟩

theorem isDisplaced_addAll {additions : List (String × Price)}
    (hsize : (firstPrices additions).size + 1 < 2 ^ 32) (h : point ∈ additions.map pointOf) :
    (empty.addAll additions).2.isDisplaced point =
      (bookAtFirst additions point).isTaken point := by
  obtain ⟨before, addition, after, rfl, rfl, hnew⟩ := exists_first_addition h
  rw [List.append_cons] at hsize ⊢
  have hbefore := room_of_append (room_of_append hsize)
  have hholds : (empty.addAll before).2.Holds (firstPrices before) :=
    holds_empty.addAll hbefore
  have hlater : (empty.addAll (before ++ [addition] ++ after)).2.Holds
      (firstPrices (before ++ [addition] ++ after)) :=
    holds_empty.addAll hsize
  obtain ⟨attempt, hends, hfree, hadd⟩ :=
    hholds.add_of_not_contains hbefore addition.1 addition.2 (mt contains_firstPrices.mp hnew)
  have hstored : (empty.addAll (before ++ [addition])).2.slots.get?
      ((pointOf addition).slot attempt) = some ⟨pointOf addition, addition.2⟩ := by
    rw [addAll_append]
    change ((empty.addAll before).2.add addition.1 addition.2).2.slots.get? _ = _
    rw [hadd]
    exact Dict.get?_insert_self _ _ _
  have hkept := get?_of_prefix (slots_prefix_addAll _ after) _ _ hstored
  rw [← addAll_append] at hkept
  rw [hlater.isDisplaced_eq hkept, bookAtFirst_append_of_mem (by simp),
    bookAtFirst_concat_of_not_mem hnew rfl, Bool.eq_iff_iff, decide_eq_true_iff]
  exact (hends.slot_ne_iff hfree).trans hends.isTaken_iff.symm

/--
The count of collisions is the number of price points in the book that are not in the slots of
their first attempts.  These are the ones that found those slots taken by others when they were
added first.  An addition of a price point that the book holds leaves the book as it is,
wherever the price point is found.  A new one adds one to the count if the slot of its first
attempt is taken, and nothing otherwise, however many attempts it takes to find a free slot.
-/
theorem collisions_are_counted_once (additions : List (String × Price))
    (hfew : (additions.map pointOf).eraseDups.length < 2 ^ 32 - 2) :
    let book := (empty.addAll additions).2
    let points := (additions.map pointOf).eraseDups
    (∀ point ∈ points, ∃ slot, book.slotOf? point = some slot ∧
      (slot ≠ point.slot 0 ↔ (bookAtFirst additions point).isTaken point = true)) ∧
    book.collisions = points.countP book.isDisplaced ∧
    book.collisions = points.countP (fun point => (bookAtFirst additions point).isTaken point) ∧
    (∀ addition, pointOf addition ∈ points →
      (book.add addition.1 addition.2).2 = book) ∧
    ∀ addition, pointOf addition ∉ points →
      (book.add addition.1 addition.2).2.collisions =
        book.collisions + if book.isTaken (pointOf addition) then 1 else 0 := by
  intro book points
  have hsize : (firstPrices additions).size + 1 < 2 ^ 32 := by
    rw [size_firstPrices]
    omega
  have hholds : book.Holds (firstPrices additions) := holds_empty.addAll hsize
  have hheld {point : PricePoint} : point ∈ points ↔ (firstPrices additions).contains point :=
    List.mem_eraseDups.trans contains_firstPrices.symm
  have hdisplaced : ∀ point ∈ points,
      book.isDisplaced point = (bookAtFirst additions point).isTaken point :=
    fun point hmem => isDisplaced_addAll hsize (List.mem_eraseDups.mp hmem)
  have hcount := collisions_addAll hsize
  refine ⟨fun point hmem => ?_, hcount.trans ?_, hcount, fun addition hmem => ?_,
    fun addition hnew => ?_⟩
  · obtain ⟨price, hprice⟩ := Option.isSome_iff_exists.mp (hheld.mp hmem)
    obtain ⟨slot, hslot⟩ := hholds.get?_eq_some_iff.mp hprice
    refine ⟨slot, hholds.slotOf?_eq hslot, ?_⟩
    rw [← hdisplaced point hmem, hholds.isDisplaced_eq hslot, decide_eq_true_iff]
  · exact List.countP_congr fun point hmem => by rw [hdisplaced point hmem]
  · exact hholds.add_of_contains hsize addition.1 addition.2 (hheld.mp hmem)
  · rw [hholds.collisions_add hsize, if_neg (mt hheld.mpr hnew)]

/-- These categories have one hash, and the third comes twice. -/
def crowdedPrices : List (String × Price) :=
  [("AaAa", ⟨Binary64.ofNat 10, "EUR"⟩), ("AaBB", ⟨Binary64.ofNat 10, "EUR"⟩),
    ("BBAa", ⟨Binary64.ofNat 10, "EUR"⟩), ("BBAa", ⟨Binary64.ofNat 10, "EUR"⟩)]

/-- The third price point is found at its third attempt, and counts once all the same. -/
theorem third_attempt_counts_once :
    let book := (empty.addAll crowdedPrices).2
    let points := (crowdedPrices.map pointOf).eraseDups
    points.length < 2 ^ 32 - 2 ∧ points.length = 3 ∧
      book.attempt? (PricePoint.ofPrice "BBAa" ⟨Binary64.ofNat 10, "EUR"⟩) = some 2 ∧
      points.countP book.isDisplaced = 2 ∧
      (book.add "BBAa" ⟨Binary64.ofNat 10, "EUR"⟩).2.collisions = 2 := by
  intro book points
  have hlength : points.length = 3 := by decide +kernel
  have hfew : points.length < 2 ^ 32 - 2 := by rw [hlength]; decide
  have hcollisions : book.collisions = 2 := by decide +kernel
  obtain ⟨-, hcount, -, hsame, -⟩ := collisions_are_counted_once crowdedPrices hfew
  refine ⟨hfew, hlength, by decide +kernel, hcount.symm.trans hcollisions, ?_⟩
  have hmem : PricePoint.ofPrice "BBAa" ⟨Binary64.ofNat 10, "EUR"⟩ ∈ points := by
    decide +kernel
  rw [hsame ("BBAa", _) hmem]
  exact hcollisions

end CodeBook

end FareGateway
