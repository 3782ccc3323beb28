import FareGateway.Proofs.Insertion
import FareGateway.Proofs.Probing

/-!
# One code for each price point

A code shows its slot, and an occupied slot is where the search for its price
point ends.  A price point is therefore always found again under the code it got
first, whatever was added in between, and no other one has that code.
-/

namespace FareGateway

namespace CodeBook

/-! ## What a code shows -/

theorem hexDigit_inj {first second : Nat} (hfirst : first < 16) (hsecond : second < 16)
    (h : hexDigit first = hexDigit second) : first = second := by
  have hall : ∀ m n : Fin 16, hexDigit m = hexDigit n → m = n := by decide
  exact congrArg Fin.val (hall ⟨first, hfirst⟩ ⟨second, hsecond⟩ h)

@[simp] theorem length_hexDigits (count n : Nat) : (hexDigits count n).length = count := by
  induction count generalizing n with
  | zero => rfl
  | succ count ih => simp [hexDigits, ih]

theorem hexDigits_inj {count first second : Nat}
    (h : hexDigits count first = hexDigits count second) :
    first % 16 ^ count = second % 16 ^ count := by
  induction count generalizing first second with
  | zero => simp [Nat.mod_one]
  | succ count ih =>
      obtain ⟨hinit, hlast⟩ := List.append_inj' h rfl
      have hdigit : first % 16 = second % 16 :=
        hexDigit_inj (Nat.mod_lt _ (by decide)) (Nat.mod_lt _ (by decide))
          (List.singleton_inj.mp hlast)
      rw [Nat.pow_succ', Nat.mod_mul, Nat.mod_mul, hdigit, ih hinit]

theorem codeText_inj {slot other : Int32} {category otherCategory : String}
    (h : codeText slot category = codeText other otherCategory) : slot = other := by
  have hdigits := (List.append_inj (String.ofList_inj.mp h) (by simp)).1
  have hwords := hexDigits_inj hdigits
  have hslot := slot.toUInt32.toNat_lt
  have hother := other.toUInt32.toNat_lt
  rw [Nat.mod_eq_of_lt (by omega), Nat.mod_eq_of_lt (by omega)] at hwords
  have hround := congrArg UInt32.toInt32 (UInt32.toNat.inj hwords)
  rwa [Int32.toInt32_toUInt32, Int32.toInt32_toUInt32] at hround

/-! ## What a book holds -/

/-- The code that adding a price point returns. -/
def codeOf (book : CodeBook) (point : PricePoint) : String :=
  codeText (point.slot ((book.attempt? point).getD 0)) point.category

def holdings (book : CodeBook) : List (PricePoint × Price) :=
  book.slots.entries.map fun slot => (slot.2.point, slot.2.price)

/-- The book holds the prices of the dictionary, in its order, and every slot is
the one at which the search for its price point ends. -/
structure Holds (book : CodeBook) (dict : Dict PricePoint Price) : Prop where
  holdings : book.holdings = dict.entries
  endsAt : ∀ slot entry, book.slots.get? slot = some entry →
    ∃ attempt, book.EndsAt entry.point attempt ∧ entry.point.slot attempt = slot

theorem holds_empty : empty.Holds Dict.empty := ⟨rfl, nofun⟩

variable {book : CodeBook} {dict : Dict PricePoint Price}

theorem Holds.size_eq (h : book.Holds dict) : book.size = dict.size := by
  have hlength := congrArg List.length h.holdings
  simpa [CodeBook.holdings, size, Dict.size] using hlength

theorem Holds.get?_eq_some_iff (h : book.Holds dict) {point : PricePoint} {price : Price} :
    dict.get? point = some price ↔ ∃ slot, book.slots.get? slot = some ⟨point, price⟩ := by
  simp only [Dict.get?_eq_some_iff, ← h.holdings, CodeBook.holdings, List.mem_map]
  constructor
  · rintro ⟨⟨slot, entry⟩, hmem, hentry⟩
    cases hentry
    exact ⟨slot, hmem⟩
  · rintro ⟨slot, hmem⟩
    exact ⟨_, hmem, rfl⟩

theorem Holds.codeOf_eq (h : book.Holds dict) (hsize : dict.size + 1 < 2 ^ 32)
    {slot : Int32} {entry : Entry} (hentry : book.slots.get? slot = some entry) :
    book.codeOf entry.point = codeText slot entry.point.category := by
  obtain ⟨attempt, hends, rfl⟩ := h.endsAt slot entry hentry
  rw [codeOf, hends.attempt? (h.size_eq ▸ hsize), Option.getD_some]

theorem Holds.codeOf_inj (h : book.Holds dict) (hsize : dict.size + 1 < 2 ^ 32)
    {first second : PricePoint} (hfirst : dict.contains first)
    (hsecond : dict.contains second) (heq : book.codeOf first = book.codeOf second) :
    first = second := by
  obtain ⟨price, hprice⟩ := Option.isSome_iff_exists.mp hfirst
  obtain ⟨otherPrice, hotherPrice⟩ := Option.isSome_iff_exists.mp hsecond
  obtain ⟨slot, hslot⟩ := h.get?_eq_some_iff.mp hprice
  obtain ⟨other, hother⟩ := h.get?_eq_some_iff.mp hotherPrice
  rw [h.codeOf_eq hsize hslot, h.codeOf_eq hsize hother] at heq
  rw [codeText_inj heq, hother] at hslot
  cases hslot
  rfl

theorem Holds.prices_eq (h : book.Holds dict) (hsize : dict.size + 1 < 2 ^ 32) :
    book.prices = dict.entries.map fun held => (book.codeOf held.1, held.2) := by
  rw [← h.holdings, CodeBook.holdings, List.map_map]
  refine List.map_congr_left fun ⟨slot, entry⟩ hmem => ?_
  simp only [Function.comp_apply, h.codeOf_eq hsize (Dict.get?_eq_some_iff.mpr hmem)]

/-! ## Adding one price -/

theorem EndsAt.mono {later : CodeBook} {point : PricePoint} {attempt : Nat} {price : Price}
    (hends : book.EndsAt point attempt)
    (hkept : ∀ slot entry, book.slots.get? slot = some entry →
      later.slots.get? slot = some entry)
    (hheld : later.slots.get? (point.slot attempt) = some ⟨point, price⟩) :
    later.EndsAt point attempt := by
  constructor
  · simp [settles_iff, hheld]
  · intro earlier hlt
    obtain ⟨entry, hentry, hother⟩ := settles_eq_false_iff.mp (hends.before earlier hlt)
    exact settles_eq_false_iff.mpr ⟨entry, hkept _ _ hentry, hother⟩

theorem Holds.add_of_contains (h : book.Holds dict) (hsize : dict.size + 1 < 2 ^ 32)
    (category : String) (price : Price)
    (hheld : dict.contains (PricePoint.ofPrice category price)) :
    (book.add category price).2 = book := by
  obtain ⟨first, hfirst⟩ := Option.isSome_iff_exists.mp hheld
  obtain ⟨slot, hslot⟩ := h.get?_eq_some_iff.mp hfirst
  obtain ⟨attempt, hends, rfl⟩ := h.endsAt slot _ hslot
  have hfound := hends.attempt? (h.size_eq ▸ hsize)
  simp only at hfound hslot
  simp [add, hfound, Dict.contains, hslot]

/-- A new price point goes to a free slot, the one at which its search ends. -/
theorem Holds.add_of_not_contains (h : book.Holds dict) (hsize : dict.size + 1 < 2 ^ 32)
    (category : String) (price : Price)
    (hnew : ¬dict.contains (PricePoint.ofPrice category price)) :
    let point := PricePoint.ofPrice category price
    ∃ attempt, book.EndsAt point attempt ∧
      book.slots.get? (point.slot attempt) = none ∧
      (book.add category price).2 =
        { slots := book.slots.insert (point.slot attempt) ⟨point, price⟩
          collisions := book.collisions + if attempt = 0 then 0 else 1 } := by
  intro point
  have hbook : book.size + 1 < 2 ^ 32 := h.size_eq ▸ hsize
  obtain ⟨attempt, -, hends⟩ := exists_endsAt point hbook
  have hfound := hends.attempt? hbook
  have hfree : book.slots.get? (point.slot attempt) = none := by
    refine Option.eq_none_iff_forall_ne_some.mpr fun entry hentry => hnew ?_
    have hpoint := settles_iff.mp hends.settles entry hentry
    have hheld : dict.get? point = some entry.price :=
      h.get?_eq_some_iff.mpr ⟨_, by rw [hentry, ← hpoint]⟩
    simp [Dict.contains, point, hheld]
  exact ⟨attempt, hends, hfree, by simp [add, point, hfound, Dict.contains, hfree]⟩

theorem slots_prefix_add (book : CodeBook) (category : String) (price : Price) :
    book.slots.entries <+: (book.add category price).2.slots.entries := by
  rw [add]
  split
  · exact List.prefix_rfl
  · next hfree =>
      simp only [Dict.entries_insert_of_not_mem _ (mt Dict.contains_iff.mpr hfree)]
      exact List.prefix_append _ _

theorem get?_of_prefix {later : CodeBook} (h : book.slots.entries <+: later.slots.entries)
    (slot : Int32) (entry : Entry) (hentry : book.slots.get? slot = some entry) :
    later.slots.get? slot = some entry :=
  Dict.get?_eq_some_iff.mpr (h.subset (Dict.get?_eq_some_iff.mp hentry))

theorem Holds.add (h : book.Holds dict) (hsize : dict.size + 1 < 2 ^ 32)
    (category : String) (price : Price) :
    (book.add category price).2.Holds
      (dict.insertNew [(PricePoint.ofPrice category price, price)]) := by
  by_cases hheld : dict.contains (PricePoint.ofPrice category price)
  · rw [h.add_of_contains hsize category price hheld]
    simpa [Dict.insertNew, hheld] using h
  obtain ⟨attempt, hends, hfree, hadd⟩ := h.add_of_not_contains hsize category price hheld
  have hkept := get?_of_prefix (slots_prefix_add book category price)
  rw [hadd] at hkept ⊢
  have hslot := Dict.get?_eq_none_iff.mp hfree
  have hpoint := mt Dict.contains_iff.mpr hheld
  constructor
  · have hstep : dict.insertNew [(PricePoint.ofPrice category price, price)] =
        dict.insert (PricePoint.ofPrice category price) price := by
      simp [Dict.insertNew, hheld]
    rw [hstep, Dict.entries_insert_of_not_mem _ hpoint, ← h.holdings]
    simp [CodeBook.holdings, Dict.entries_insert_of_not_mem _ hslot]
  · intro slot entry hentry
    rw [Dict.get?_insert] at hentry
    split at hentry
    · next hsame =>
        cases hentry
        exact ⟨attempt, hends.mono hkept (Dict.get?_insert_self ..), hsame⟩
    · obtain ⟨found, hfound, rfl⟩ := h.endsAt slot entry hentry
      exact ⟨found, hfound.mono hkept (hkept _ _ hentry), rfl⟩

theorem room_of_insertNew {pairs : List (PricePoint × Price)}
    (h : (dict.insertNew pairs).size + 1 < 2 ^ 32) : dict.size + 1 < 2 ^ 32 :=
  Nat.lt_of_le_of_lt (Nat.succ_le_succ (dict.size_le_insertNew pairs)) h

theorem Holds.codeOf_of_prefix {later : CodeBook} {laterDict : Dict PricePoint Price}
    (h : book.Holds dict) (hlater : later.Holds laterDict)
    (hsize : dict.size + 1 < 2 ^ 32) (hlaterSize : laterDict.size + 1 < 2 ^ 32)
    (hlonger : book.slots.entries <+: later.slots.entries) {point : PricePoint}
    (hheld : dict.contains point) : later.codeOf point = book.codeOf point := by
  obtain ⟨price, hprice⟩ := Option.isSome_iff_exists.mp hheld
  obtain ⟨slot, hslot⟩ := h.get?_eq_some_iff.mp hprice
  have hkept := get?_of_prefix hlonger slot _ hslot
  exact (hlater.codeOf_eq hlaterSize hkept).trans (h.codeOf_eq hsize hslot).symm

theorem Holds.codeOf_add (h : book.Holds dict) (category : String) (price : Price)
    (hsize : (dict.insertNew [(PricePoint.ofPrice category price, price)]).size + 1 < 2 ^ 32) :
    (book.add category price).2.codeOf (PricePoint.ofPrice category price) =
      (book.add category price).1 := by
  have hbefore := room_of_insertNew hsize
  change _ = book.codeOf (PricePoint.ofPrice category price)
  by_cases hheld : dict.contains (PricePoint.ofPrice category price)
  · rw [h.add_of_contains hbefore category price hheld]
  · obtain ⟨attempt, hends, -, hadd⟩ := h.add_of_not_contains hbefore category price hheld
    have hstored : (book.add category price).2.slots.get?
        ((PricePoint.ofPrice category price).slot attempt) =
          some ⟨PricePoint.ofPrice category price, price⟩ := by
      rw [hadd, Dict.get?_insert_self]
    have hcode := (h.add hbefore category price).codeOf_eq hsize hstored
    simp only at hcode
    rw [hcode, codeOf, hends.attempt? (h.size_eq ▸ hbefore), Option.getD_some]

/-! ## Adding many prices -/

/-- The price point of an addition to a book. -/
def pointOf (addition : String × Price) : PricePoint :=
  PricePoint.ofPrice addition.1 addition.2

def pricings (additions : List (String × Price)) : List (PricePoint × Price) :=
  additions.map fun addition => (pointOf addition, addition.2)

@[simp] theorem map_fst_pricings (additions : List (String × Price)) :
    (pricings additions).map Prod.fst = additions.map pointOf := by
  simp [pricings]

theorem insertNew_pricings_cons (addition : String × Price)
    (additions : List (String × Price)) :
    dict.insertNew (pricings (addition :: additions)) =
      (dict.insertNew [(PricePoint.ofPrice addition.1 addition.2, addition.2)]).insertNew
        (pricings additions) := rfl

theorem addAll_append (book : CodeBook) (first second : List (String × Price)) :
    (book.addAll (first ++ second)).2 = ((book.addAll first).2.addAll second).2 := by
  induction first generalizing book with
  | nil => rfl
  | cons addition first ih => exact ih (book.add addition.1 addition.2).2

theorem slots_prefix_addAll (book : CodeBook) (additions : List (String × Price)) :
    book.slots.entries <+: (book.addAll additions).2.slots.entries := by
  induction additions generalizing book with
  | nil => exact List.prefix_rfl
  | cons addition additions ih =>
      exact (slots_prefix_add book addition.1 addition.2).trans (ih _)

theorem Holds.addAll (h : book.Holds dict) {additions : List (String × Price)}
    (hsize : (dict.insertNew (pricings additions)).size + 1 < 2 ^ 32) :
    (book.addAll additions).2.Holds (dict.insertNew (pricings additions)) := by
  induction additions generalizing book dict with
  | nil => exact h
  | cons addition additions ih =>
      rw [insertNew_pricings_cons] at hsize ⊢
      have hnextSize := room_of_insertNew hsize
      exact ih (h.add (room_of_insertNew hnextSize) addition.1 addition.2) hsize

theorem Holds.codes_addAll (h : book.Holds dict) {additions : List (String × Price)}
    (hsize : (dict.insertNew (pricings additions)).size + 1 < 2 ^ 32) :
    (book.addAll additions).1 =
      (additions.map pointOf).map (book.addAll additions).2.codeOf := by
  induction additions generalizing book dict with
  | nil => rfl
  | cons addition additions ih =>
      rw [insertNew_pricings_cons] at hsize
      have hnextSize := room_of_insertNew hsize
      have hnext := h.add (room_of_insertNew hnextSize) addition.1 addition.2
      have hstays := hnext.codeOf_of_prefix (hnext.addAll hsize) hnextSize hsize
        (slots_prefix_addAll _ additions) (Dict.contains_insertNew_self ..)
      have hcode := h.codeOf_add addition.1 addition.2 hnextSize
      exact congrArg₂ List.cons (hcode.symm.trans hstays.symm) (ih hnext hsize)

/-- The first price of every price point, in the order of their first additions. -/
def firstPrices (additions : List (String × Price)) : Dict PricePoint Price :=
  Dict.empty.insertNew (pricings additions)

@[simp] theorem keys_firstPrices (additions : List (String × Price)) :
    (firstPrices additions).keys = (additions.map pointOf).eraseDups := by
  rw [firstPrices, Dict.keys_insertNew_empty, map_fst_pricings]

theorem size_firstPrices (additions : List (String × Price)) :
    (firstPrices additions).size = (additions.map pointOf).eraseDups.length := by
  rw [← keys_firstPrices, Dict.keys, List.length_map, Dict.size]

theorem contains_firstPrices {additions : List (String × Price)} {point : PricePoint} :
    (firstPrices additions).contains point ↔ point ∈ additions.map pointOf := by
  rw [Dict.contains_iff, keys_firstPrices, List.mem_eraseDups]

theorem get?_firstPrices (before : List (String × Price)) (addition : String × Price)
    (after : List (String × Price)) (h : pointOf addition ∉ before.map pointOf) :
    (firstPrices (before ++ addition :: after)).get? (pointOf addition) =
      some addition.2 := by
  have hbefore : Entries.get? (pointOf addition) (pricings before) = none := by
    rwa [Entries.get?_eq_none_iff, map_fst_pricings]
  rw [firstPrices, Dict.get?_insertNew, Dict.get?_empty, Option.none_or, pricings,
    List.map_append, Entries.get?_append, ← pricings, hbefore, Option.none_or]
  simp [Entries.get?]

/--
Two additions to a new book return the same code exactly when they have the same
price point, in whatever slots the price points end up.  The prices are listed
once for each price point, in the order of first additions and under the code that
was returned, each with the price of its first addition, and what is listed stays
as it is.
-/
theorem codes_identify_price_points (additions : List (String × Price))
    (hfew : (additions.map pointOf).eraseDups.length < 2 ^ 32 - 2) :
    ∃ codeOf : PricePoint → String,
      (empty.addAll additions).1 = (additions.map pointOf).map codeOf ∧
      (∀ first ∈ additions.map pointOf, ∀ second ∈ additions.map pointOf,
        codeOf first = codeOf second ↔ first = second) ∧
      (empty.addAll additions).2.prices.map Prod.fst =
        (additions.map pointOf).eraseDups.map codeOf ∧
      ((empty.addAll additions).2.prices.map Prod.fst).Nodup ∧
      (∀ before addition after, additions = before ++ addition :: after →
        pointOf addition ∉ before.map pointOf →
          (codeOf (pointOf addition), addition.2) ∈ (empty.addAll additions).2.prices) ∧
      (empty.addAll additions).2.size = (additions.map pointOf).eraseDups.length ∧
      ∀ earlier later, additions = earlier ++ later →
        (empty.addAll earlier).2.prices <+: (empty.addAll additions).2.prices := by
  have hsize : (firstPrices additions).size + 1 < 2 ^ 32 := by
    rw [size_firstPrices]
    omega
  have hholds : (empty.addAll additions).2.Holds (firstPrices additions) :=
    holds_empty.addAll hsize
  have hprices := hholds.prices_eq hsize
  have hsame : ∀ first ∈ additions.map pointOf, ∀ second ∈ additions.map pointOf,
      (empty.addAll additions).2.codeOf first = (empty.addAll additions).2.codeOf second →
        first = second := fun first hfirst second hsecond =>
    hholds.codeOf_inj hsize (contains_firstPrices.mpr hfirst) (contains_firstPrices.mpr hsecond)
  have hcodes : (empty.addAll additions).2.prices.map Prod.fst =
      (additions.map pointOf).eraseDups.map (empty.addAll additions).2.codeOf := by
    rw [hprices, ← keys_firstPrices, Dict.keys, List.map_map, List.map_map]
    rfl
  refine ⟨(empty.addAll additions).2.codeOf, holds_empty.codes_addAll hsize, ?_, hcodes, ?_,
    ?_, ?_, ?_⟩
  · exact fun first hfirst second hsecond =>
      ⟨hsame first hfirst second hsecond, congrArg _⟩
  · rw [hcodes]
    refine List.Nodup.map_on (fun first hfirst second hsecond => ?_) (Dict.nodup_eraseDups _)
    exact hsame first (List.mem_eraseDups.mp hfirst) second (List.mem_eraseDups.mp hsecond)
  · intro before addition after hadditions hnew
    have hfirst := Dict.get?_eq_some_iff.mp (get?_firstPrices before addition after hnew)
    rw [← hadditions] at hfirst
    rw [hprices]
    exact List.mem_map.mpr ⟨(pointOf addition, addition.2), hfirst, rfl⟩
  · rw [hholds.size_eq, size_firstPrices]
  · intro earlier later hadditions
    rw [hadditions, addAll_append]
    exact (slots_prefix_addAll _ later).map _

/-- Both categories have the hash 2112, and the last price has the cents of the
first. -/
def sameHashPrices : List (String × Price) :=
  [("Aa", ⟨Binary64.ofNat 10, "EUR"⟩), ("BB", ⟨Binary64.ofNat 10, "EUR"⟩),
    ("Aa", ⟨⟨0x4024000000000001⟩, "EUR"⟩)]

theorem same_hash_gets_two_codes :
    (sameHashPrices.map pointOf).eraseDups.length < 2 ^ 32 - 2 ∧
      (empty.addAll sameHashPrices).2.collisions = 1 ∧
      ∃ first second, first ≠ second ∧
        (empty.addAll sameHashPrices).1 = [first, second, first] ∧
        (empty.addAll sameHashPrices).2.prices.map Prod.fst = [first, second] := by
  have hfew : (sameHashPrices.map pointOf).eraseDups.length < 2 ^ 32 - 2 := by decide +kernel
  have hpoints : sameHashPrices.map pointOf =
      [⟨"Aa", "EUR", 1000⟩, ⟨"BB", "EUR", 1000⟩, ⟨"Aa", "EUR", 1000⟩] := by decide +kernel
  obtain ⟨codeOf, hcodes, hsame, hlisted, -⟩ := codes_identify_price_points sameHashPrices hfew
  rw [hpoints] at hcodes hsame hlisted
  have hne : codeOf ⟨"Aa", "EUR", 1000⟩ ≠ codeOf ⟨"BB", "EUR", 1000⟩ :=
    mt (hsame _ (by simp) _ (by simp)).mp (by simp)
  exact ⟨hfew, by decide +kernel, _, _, hne, hcodes, hlisted⟩

end CodeBook

end FareGateway
