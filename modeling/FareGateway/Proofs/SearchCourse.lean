import FareGateway.Proofs.OptionCodes

/-!
# The course of a search

The search for a slot looks at one slot after the other and counts its attempts in a word
of 32 bits.  It ends while there are still numbers left: at the slot of the price point if
the book has one for it, and otherwise at the first free one that it comes to.
-/

namespace FareGateway

namespace CodeBook

/-- Where a search stands.  After the last number of 32 bits it cannot go on. -/
inductive Search where
  | trying (attempt : UInt32)
  | settled (attempt : UInt32)
  | exhausted
  deriving DecidableEq, Repr

def look (book : CodeBook) (point : PricePoint) : Search → Search
  | .trying attempt =>
      if book.settles point attempt.toNat then .settled attempt
      else if attempt.toNat + 1 < 2 ^ 32 then .trying (attempt + 1)
      else .exhausted
  | search => search

def searched (book : CodeBook) (point : PricePoint) : Nat → Search
  | 0 => .trying 0
  | looks + 1 => book.look point (book.searched point looks)

section

variable {book : CodeBook} {point : PricePoint} {attempt : UInt32}

theorem look_trying_of_settles (h : book.settles point attempt.toNat = true) :
    book.look point (.trying attempt) = .settled attempt := by
  simp [look, h]

theorem look_trying_of_not_settles (h : book.settles point attempt.toNat = false)
    (hnext : attempt.toNat + 1 < 2 ^ 32) :
    book.look point (.trying attempt) = .trying (attempt + 1) := by
  rw [look, h, if_neg Bool.false_ne_true, if_pos hnext]

theorem EndsAt.searched_eq {last : UInt32} (hends : book.EndsAt point last.toNat)
    (looks : Nat) :
    book.searched point looks =
      if looks ≤ last.toNat then .trying (UInt32.ofNat looks) else .settled last := by
  have hlast := last.toNat_lt
  induction looks with
  | zero => rfl
  | succ looks ih =>
      rw [searched, ih]
      rcases Nat.lt_trichotomy looks last.toNat with hbefore | hnow | hafter
      · have hcount : (UInt32.ofNat looks).toNat = looks :=
          UInt32.toNat_ofNat_of_lt' (Nat.lt_trans hbefore hlast)
        have hgoesOn : book.settles point (UInt32.ofNat looks).toNat = false := by
          rw [hcount]
          exact hends.before looks hbefore
        rw [if_pos (Nat.le_of_lt hbefore), if_pos (Nat.succ_le_of_lt hbefore),
          look_trying_of_not_settles hgoesOn (by omega), UInt32.ofNat_add]
        rfl
      · have hcount : UInt32.ofNat looks = last := by rw [hnow, UInt32.ofNat_toNat]
        rw [if_pos (Nat.le_of_eq hnow), if_neg (by omega), hcount,
          look_trying_of_settles hends.settles]
      · rw [if_neg (by omega), if_neg (by omega)]
        rfl

end

/-! ## Searches that end -/

def Seen (book : CodeBook) (point : PricePoint) : Search → Prop
  | .trying attempt => ∀ earlier < attempt.toNat, book.settles point earlier = false
  | .settled attempt => book.EndsAt point attempt.toNat
  | .exhausted => ∀ attempt < 2 ^ 32, book.settles point attempt = false

/-- The search comes to an end with an attempt. -/
def Finds (book : CodeBook) (point : PricePoint) : Prop :=
  ∃ looks last, book.searched point looks = .settled last

section

variable {book : CodeBook} {point : PricePoint}

theorem Seen.look {search : Search} (h : book.Seen point search) :
    book.Seen point (book.look point search) := by
  cases search with
  | settled attempt => exact h
  | exhausted => exact h
  | trying attempt =>
      rw [CodeBook.look]
      split
      · next hsettles => exact ⟨hsettles, h⟩
      · next hother =>
          have hthrough : ∀ earlier < attempt.toNat + 1,
              book.settles point earlier = false := by
            intro earlier hlt
            rcases Nat.lt_or_eq_of_le (Nat.le_of_lt_succ hlt) with hbefore | rfl
            · exact h earlier hbefore
            · exact Bool.eq_false_iff.mpr hother
          split
          · next hnext =>
              have hcount : (attempt + 1).toNat = attempt.toNat + 1 := by
                rw [UInt32.toNat_add]
                exact Nat.mod_eq_of_lt hnext
              intro earlier hlt
              exact hthrough earlier (hcount ▸ hlt)
          · exact fun earlier hlt => hthrough earlier (by omega)

theorem seen_searched (book : CodeBook) (point : PricePoint) (looks : Nat) :
    book.Seen point (book.searched point looks) := by
  induction looks with
  | zero => exact nofun
  | succ looks ih => exact ih.look

theorem finds_iff : book.Finds point ↔ ∃ last : UInt32, book.EndsAt point last.toNat := by
  constructor
  · rintro ⟨looks, last, hlast⟩
    have hseen := seen_searched book point looks
    rw [hlast] at hseen
    exact ⟨last, hseen⟩
  · rintro ⟨last, hends⟩
    refine ⟨last.toNat + 1, last, (hends.searched_eq _).trans (if_neg ?_)⟩
    exact Nat.not_succ_le_self _

theorem finds_of_room (point : PricePoint) (hroom : book.size + 1 < 2 ^ 32) :
    book.Finds point := by
  obtain ⟨attempt, hle, hends⟩ := exists_endsAt point hroom
  refine finds_iff.mpr ⟨UInt32.ofNat attempt, ?_⟩
  rwa [UInt32.toNat_ofNat_of_lt' (Nat.lt_of_le_of_lt hle hroom)]

/-- A search that ends leads to a slot that is free or holds the price point already, and
which holds it from then on. -/
theorem Finds.exists_slot {addition : String × Price} (h : book.Finds (pointOf addition)) :
    ∃ slot, (book.add addition.1 addition.2).1 = codeText slot addition.1 ∧
      (∀ entry, book.slots.get? slot = some entry → entry.point = pointOf addition) ∧
      ∃ entry, (book.add addition.1 addition.2).2.slots.get? slot = some entry ∧
        entry.point = pointOf addition := by
  obtain ⟨last, hends⟩ := finds_iff.mp h
  have hfound : book.attempt? (pointOf addition) = some last.toNat :=
    hends.attempt?_of_lt last.toNat_lt
  have hkeeps := settles_iff.mp hends.settles
  rw [pointOf] at hfound hkeeps ⊢
  refine ⟨_, rfl, ?_, ?_⟩
  · rw [hfound]
    exact hkeeps
  · rw [add, hfound, Option.getD_some]
    cases hslot : book.slots.get? ((PricePoint.ofPrice addition.1 addition.2).slot last.toNat) with
    | some entry => exact ⟨entry, by simp [Dict.contains, hslot], hkeeps entry hslot⟩
    | none =>
        refine ⟨⟨PricePoint.ofPrice addition.1 addition.2, addition.2⟩, ?_, rfl⟩
        simp [Dict.contains, hslot, Dict.get?_insert_self]

theorem Finds.codes_ne {first second : String × Price} (hpoints : pointOf first ≠ pointOf second)
    {between : List (String × Price)} (hfirst : book.Finds (pointOf first))
    (hsecond : ((book.add first.1 first.2).2.addAll between).2.Finds (pointOf second)) :
    (book.add first.1 first.2).1 ≠
      (((book.add first.1 first.2).2.addAll between).2.add second.1 second.2).1 := by
  obtain ⟨slot, hcode, -, entry, hentry, hpoint⟩ := hfirst.exists_slot
  obtain ⟨later, hlaterCode, hkeeps, -⟩ := hsecond.exists_slot
  rw [hcode, hlaterCode]
  intro hsame
  have hkept := get?_of_prefix (slots_prefix_addAll _ between) slot entry hentry
  rw [codeText_inj hsame] at hkept
  exact hpoints (hpoint.symm.trans (hkeeps entry hkept))

end

/-! ## Books that can be reached -/

theorem add_fst (book : CodeBook) (category : String) (price : Price) :
    (book.add category price).1 = book.codeOf (PricePoint.ofPrice category price) := rfl

section

variable {book : CodeBook} {dict : Dict PricePoint Price}

theorem size_le_addAll (book : CodeBook) (additions : List (String × Price)) :
    book.size ≤ (book.addAll additions).2.size :=
  (slots_prefix_addAll book additions).length_le

theorem Holds.addAll_of_room (h : book.Holds dict) {additions : List (String × Price)}
    (hroom : (book.addAll additions).2.size + 1 < 2 ^ 32) :
    (book.addAll additions).2.Holds (dict.insertNew (pricings additions)) := by
  induction additions generalizing book dict with
  | nil => exact h
  | cons addition additions ih =>
      have hgrown := size_le_addAll book (addition :: additions)
      have hbefore : dict.size + 1 < 2 ^ 32 := by
        rw [← h.size_eq]
        omega
      rw [insertNew_pricings_cons]
      exact ih (h.add hbefore addition.1 addition.2) hroom

theorem Holds.get?_slot_of_endsAt (h : book.Holds dict) {point : PricePoint} {price : Price}
    (hheld : dict.get? point = some price) {attempt : Nat}
    (hends : book.EndsAt point attempt) :
    book.slots.get? (point.slot attempt) = some ⟨point, price⟩ := by
  obtain ⟨slot, hslot⟩ := h.get?_eq_some_iff.mp hheld
  obtain ⟨found, hfound, rfl⟩ := h.endsAt slot _ hslot
  rwa [hends.unique hfound]

end

/--
A search always ends, and its count of attempts does not run over.  In whatever book
that has room left, the search for whatever price point looks at no more slots than there
are occupied ones and two more, counts one attempt for each look, and ends at the slot
of the price point, or at a free one if there is none.  This is because the numbers of the
attempts lead to slots of their own, whatever has been hashed before them.
-/
theorem search_ends_with_numbers_left (additions : List (String × Price))
    (hroom : (empty.addAll additions).2.size + 1 < 2 ^ 32) (category : String)
    (price : Price) :
    let book := (empty.addAll additions).2
    let point := PricePoint.ofPrice category price
    ∃ last : UInt32, last.toNat ≤ book.size + 1 ∧
      (∀ looks, book.searched point looks =
        if looks ≤ last.toNat then .trying (UInt32.ofNat looks) else .settled last) ∧
      (book.add category price).1 = codeText (point.slot last.toNat) category ∧
      (∀ kept, (firstPrices additions).get? point = some kept →
        book.slots.get? (point.slot last.toNat) = some ⟨point, kept⟩ ∧
          (book.add category price).2 = book) ∧
      (point ∉ additions.map pointOf →
        book.slots.get? (point.slot last.toNat) = none ∧
          (book.add category price).2.slots =
            book.slots.insert (point.slot last.toNat) ⟨point, price⟩) ∧
      (∀ attempt, attempt ≠ 0 →
        point.slot attempt = Digest.rehash (point.slot 0) attempt) ∧
      ∀ base, ((List.range' 1 (book.size + 1)).map (Digest.rehash base)).Nodup := by
  intro book point
  have hholds : book.Holds (firstPrices additions) := holds_empty.addAll_of_room hroom
  obtain ⟨attempt, hle, hends⟩ := exists_endsAt point hroom
  have hlast : (UInt32.ofNat attempt).toNat = attempt :=
    UInt32.toNat_ofNat_of_lt' (Nat.lt_of_le_of_lt hle hroom)
  have hfound : book.attempt? point = some attempt := hends.attempt? hroom
  have hfew : (firstPrices additions).size + 1 < 2 ^ 32 := hholds.size_eq ▸ hroom
  refine ⟨UInt32.ofNat attempt, ?_, ?_, ?_, ?_, ?_, ?_, ?_⟩
  · rwa [hlast]
  · exact EndsAt.searched_eq (by rwa [hlast])
  · rw [add_fst, codeOf, hfound, Option.getD_some, hlast]
    rfl
  · intro kept hkept
    rw [hlast]
    refine ⟨hholds.get?_slot_of_endsAt hkept hends, ?_⟩
    exact hholds.add_of_contains hfew category price (Option.isSome_of_eq_some hkept)
  · intro hnew
    obtain ⟨found, hsame, hfree, hadd⟩ :=
      hholds.add_of_not_contains hfew category price (mt contains_firstPrices.mp hnew)
    obtain rfl := hsame.unique hends
    rw [hlast]
    exact ⟨hfree, by rw [hadd]⟩
  · exact fun attempt hne => point.slot_of_ne_zero hne
  · exact fun base => Digest.nodup_rehash base hroom

/-- The hash of the second price point is the slot of the first one, and the next slot is
free. -/
theorem search_ends_at_second_attempt :
    let book := (empty.addAll (sameHashPrices.take 1)).2
    let point := PricePoint.ofPrice "BB" ⟨Binary64.ofNat 10, "EUR"⟩
    book.size + 1 < 2 ^ 32 ∧ point ∉ (sameHashPrices.take 1).map pointOf ∧
      book.searched point 1 = .trying 1 ∧
      (∀ later, book.searched point (later + 2) = .settled 1) ∧
      book.slots.get? (point.slot 1) = none := by
  intro book point
  have hroom : book.size + 1 < 2 ^ 32 := by decide +kernel
  have hnew : point ∉ (sameHashPrices.take 1).map pointOf := by decide +kernel
  obtain ⟨last, -, hcourse, -, -, hfree, -⟩ :=
    search_ends_with_numbers_left (sameHashPrices.take 1) hroom "BB" ⟨Binary64.ofNat 10, "EUR"⟩
  have hsettled : book.searched point 2 = .settled 1 := by decide +kernel
  obtain ⟨hlast, rfl⟩ : ¬2 ≤ last.toNat ∧ last = 1 := by
    have hsecond := (hcourse 2).symm.trans hsettled
    split at hsecond
    · cases hsecond
    · next hlast => exact ⟨hlast, Search.settled.inj hsecond⟩
  refine ⟨hroom, hnew, (hcourse 1).trans (if_pos (by decide)), fun later => ?_, (hfree hnew).1⟩
  exact (hcourse (later + 2)).trans (if_neg (by omega))

end CodeBook

end FareGateway
