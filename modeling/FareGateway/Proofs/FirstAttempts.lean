import FareGateway.Proofs.OptionCodes

/-!
# Prices that never collide

Price points with hashes of their own all go to the slots of their first attempts, in
whatever order they come.  Within one category and currency this is so as long as the cents
fit in 32 bits, for then they are their own code, and what has been hashed before them is
the same for all.
-/

namespace FareGateway

namespace Digest

/-- Whether the integer fits in 32 bits. -/
def IsSmall (value : Int64) : Prop :=
  Int32.minValue.toInt ≤ value.toInt ∧ value.toInt ≤ Int32.maxValue.toInt

theorem toInt_ofInt64 {value : Int64} (h : IsSmall value) :
    (ofInt64 value).toInt = value.toInt := by
  have hbounds : Int32.minValue.toInt ≤ value.toInt ∧ value.toInt ≤ Int32.maxValue.toInt := h
  rw [ofInt64, if_pos hbounds, Int32.toInt_ofInt_of_le h.1 (Int.lt_add_one_of_le h.2)]

theorem ofInt64_inj {first second : Int64} (hfirst : IsSmall first) (hsecond : IsSmall second)
    (h : ofInt64 first = ofInt64 second) : first = second := by
  rw [← Int64.toInt_inj, ← toInt_ofInt64 hfirst, ← toInt_ofInt64 hsecond, h]

end Digest

namespace PricePoint

theorem slot_zero (point : PricePoint) :
    point.slot 0 =
      Digest.mix (Digest.ofValues [.text point.category, .text point.currency])
        (Digest.ofInt64 point.cents) :=
  rfl

theorem slot_zero_inj {first second : PricePoint} (hcategory : first.category = second.category)
    (hcurrency : first.currency = second.currency) (hfirst : Digest.IsSmall first.cents)
    (hsecond : Digest.IsSmall second.cents) (h : first.slot 0 = second.slot 0) :
    first = second := by
  rw [slot_zero, slot_zero, hcategory, hcurrency] at h
  have hcents := Digest.ofInt64_inj hfirst hsecond (Digest.mix_right_inj.mp h)
  cases first
  cases second
  simp_all

end PricePoint

namespace CodeBook

/-- Different price points have different hashes. -/
def Apart (points : List PricePoint) : Prop :=
  ∀ first ∈ points, ∀ second ∈ points, first.slot 0 = second.slot 0 → first = second

def firstCode (point : PricePoint) : String := codeText (point.slot 0) point.category

theorem Apart.firstCode_inj {points : List PricePoint} (h : Apart points)
    {first second : PricePoint} (hfirst : first ∈ points) (hsecond : second ∈ points)
    (hcode : firstCode first = firstCode second) : first = second :=
  h first hfirst second hsecond (codeText_inj hcode)

/-- The book holds the prices of the dictionary, in its order, each in the slot of the
first attempt at its price point. -/
structure HoldsAtFirst (book : CodeBook) (dict : Dict PricePoint Price) : Prop where
  entries_eq : book.slots.entries =
    dict.entries.map fun held => (held.1.slot 0, ⟨held.1, held.2⟩)
  collisions_eq : book.collisions = 0

theorem holdsAtFirst_empty : empty.HoldsAtFirst Dict.empty := ⟨rfl, rfl⟩

section

variable {book : CodeBook} {dict : Dict PricePoint Price}

theorem HoldsAtFirst.get?_eq_some_iff (h : book.HoldsAtFirst dict) {slot : Int32}
    {entry : Entry} :
    book.slots.get? slot = some entry ↔
      dict.get? entry.point = some entry.price ∧ entry.point.slot 0 = slot := by
  rw [Dict.get?_eq_some_iff, Dict.get?_eq_some_iff, h.entries_eq, List.mem_map]
  constructor
  · rintro ⟨held, hmem, heq⟩
    cases heq
    exact ⟨hmem, rfl⟩
  · rintro ⟨hmem, rfl⟩
    exact ⟨_, hmem, rfl⟩

theorem HoldsAtFirst.prices_eq (h : book.HoldsAtFirst dict) :
    book.prices = dict.entries.map fun held => (firstCode held.1, held.2) := by
  rw [prices, h.entries_eq, List.map_map]
  rfl

theorem HoldsAtFirst.attempt?_eq_zero (h : book.HoldsAtFirst dict) {point : PricePoint}
    (hapart : ∀ held, dict.contains held → held.slot 0 = point.slot 0 → held = point) :
    book.attempt? point = some 0 := by
  refine attempt?_eq_some_iff.mpr ⟨Nat.zero_le _, settles_iff.mpr fun entry hentry => ?_, ?_⟩
  · obtain ⟨hheld, hslot⟩ := h.get?_eq_some_iff.mp hentry
    exact hapart entry.point (Option.isSome_of_eq_some hheld) hslot
  · exact fun earlier hlt => absurd hlt (Nat.not_lt_zero _)

theorem HoldsAtFirst.add (h : book.HoldsAtFirst dict) (category : String) (price : Price)
    (hapart : ∀ held, dict.contains held →
      held.slot 0 = (PricePoint.ofPrice category price).slot 0 →
        held = PricePoint.ofPrice category price) :
    (book.add category price).1 = firstCode (PricePoint.ofPrice category price) ∧
      (book.add category price).2.HoldsAtFirst
        (dict.insertNew [(PricePoint.ofPrice category price, price)]) := by
  have hfound := h.attempt?_eq_zero hapart
  generalize hpoint : PricePoint.ofPrice category price = point at hapart hfound ⊢
  have hadd : book.add category price = (firstCode point,
      if book.slots.contains (point.slot 0) then book
      else { book with slots := book.slots.insert (point.slot 0) ⟨point, price⟩ }) := by
    simp only [CodeBook.add, hpoint, hfound, Option.getD_some, if_true, Nat.add_zero]
    subst hpoint
    rfl
  refine ⟨by rw [hadd], ?_⟩
  rw [hadd]
  by_cases hheld : dict.contains point
  · obtain ⟨kept, hkept⟩ := Option.isSome_iff_exists.mp hheld
    have hslot : book.slots.get? (point.slot 0) = some ⟨point, kept⟩ :=
      h.get?_eq_some_iff.mpr ⟨hkept, rfl⟩
    simpa [Dict.contains, hslot, Dict.insertNew, hkept] using h
  · have hfree : book.slots.get? (point.slot 0) = none := by
      refine Option.eq_none_iff_forall_ne_some.mpr fun entry hentry => hheld ?_
      obtain ⟨hother, hslot⟩ := h.get?_eq_some_iff.mp hentry
      have hsame := hapart entry.point (Option.isSome_of_eq_some hother) hslot
      rw [← hsame]
      exact Option.isSome_of_eq_some hother
    have hslot := Dict.get?_eq_none_iff.mp hfree
    have hnew := mt Dict.contains_iff.mpr hheld
    have hstep : dict.insertNew [(point, price)] = dict.insert point price := by
      simp [Dict.insertNew, hheld]
    rw [hstep, Dict.contains, hfree]
    constructor
    · simp [Dict.entries_insert_of_not_mem _ hslot, Dict.entries_insert_of_not_mem _ hnew,
        h.entries_eq]
    · exact h.collisions_eq

end

/-! ## Adding many prices -/

theorem addAll_concat (book : CodeBook) (additions : List (String × Price))
    (addition : String × Price) :
    book.addAll (additions ++ [addition]) =
      let before := book.addAll additions
      let added := before.2.add addition.1 addition.2
      (before.1 ++ [added.1], added.2) := by
  induction additions generalizing book with
  | nil => rfl
  | cons first additions ih => simp [addAll, ih]

/-- Nothing has to move when the price points have hashes of their own. -/
theorem addAll_of_apart {additions : List (String × Price)}
    (hapart : Apart (additions.map pointOf)) :
    (empty.addAll additions).1 = (additions.map pointOf).map firstCode ∧
      (empty.addAll additions).2.HoldsAtFirst (firstPrices additions) := by
  induction additions using List.reverseRecOn with
  | nil => exact ⟨rfl, holdsAtFirst_empty⟩
  | append_singleton additions addition ih =>
      have hbefore : Apart (additions.map pointOf) := fun first hfirst second hsecond =>
        hapart first (by simp_all) second (by simp_all)
      obtain ⟨hcodes, hholds⟩ := ih hbefore
      obtain ⟨hcode, hadded⟩ := hholds.add addition.1 addition.2 fun held hheld =>
        hapart held (by simp [contains_firstPrices.mp hheld]) _ (by simp [pointOf])
      rw [addAll_concat]
      refine ⟨?_, ?_⟩
      · rw [List.map_append, List.map_append, ← hcodes]
        exact congrArg ((empty.addAll additions).1 ++ [·]) hcode
      · rw [firstPrices, pricings, List.map_append, Dict.insertNew_append]
        exact hadded

theorem codes_of_apart {additions : List (String × Price)}
    (hapart : Apart (additions.map pointOf)) :
    (empty.addAll additions).2.prices.map Prod.fst =
      (additions.map pointOf).eraseDups.map firstCode := by
  rw [(addAll_of_apart hapart).2.prices_eq, ← keys_firstPrices, Dict.keys, List.map_map,
    List.map_map]
  rfl

theorem nodup_codes_of_apart {additions : List (String × Price)}
    (hapart : Apart (additions.map pointOf)) :
    ((empty.addAll additions).2.prices.map Prod.fst).Nodup := by
  rw [codes_of_apart hapart]
  refine List.Nodup.map_on (fun first hfirst second hsecond => ?_) (Dict.nodup_eraseDups _)
  exact hapart.firstCode_inj (List.mem_eraseDups.mp hfirst) (List.mem_eraseDups.mp hsecond)

theorem cents_of_mem_firstPrices {additions : List (String × Price)} {point : PricePoint}
    {price : Price} (h : (point, price) ∈ (firstPrices additions).entries) :
    price.cents = point.cents := by
  have hget := Dict.get?_eq_some_iff.mpr h
  rw [firstPrices, Dict.get?_insertNew, Dict.get?_empty, Option.none_or] at hget
  obtain ⟨addition, -, heq⟩ := List.mem_map.mp (Entries.mem_of_get?_eq_some hget)
  cases heq
  rfl

/-- The codes in the price list, each with the cents of its price. -/
def centsByCode (book : CodeBook) : List (String × Int64) :=
  book.prices.map fun listed => (listed.1, listed.2.cents)

theorem centsByCode_of_apart {additions : List (String × Price)}
    (hapart : Apart (additions.map pointOf)) :
    (empty.addAll additions).2.centsByCode =
      (additions.map pointOf).eraseDups.map fun point => (firstCode point, point.cents) := by
  rw [centsByCode, (addAll_of_apart hapart).2.prices_eq, ← keys_firstPrices, Dict.keys,
    List.map_map, List.map_map]
  refine List.map_congr_left fun held hmem => ?_
  simp only [Function.comp_apply, cents_of_mem_firstPrices hmem]

theorem centsByCode_eq_eraseDups {additions : List (String × Price)}
    (hapart : Apart (additions.map pointOf)) :
    (empty.addAll additions).2.centsByCode =
      (additions.map fun addition =>
        (firstCode (pointOf addition), addition.2.cents)).eraseDups := by
  have hcodes : (additions.map fun addition =>
        (firstCode (pointOf addition), addition.2.cents)) =
      (additions.map pointOf).map fun point => (firstCode point, point.cents) := by
    rw [List.map_map]
    rfl
  rw [hcodes, Dict.eraseDups_map fun first hfirst second hsecond hsame =>
    hapart.firstCode_inj hfirst hsecond (congrArg Prod.fst hsame)]
  exact centsByCode_of_apart hapart

/-! ## One category and currency -/

def inCategory (category : String) (prices : List Price) : List (String × Price) :=
  prices.map (category, ·)

section

variable {category currency : String} {prices : List Price}

theorem apart_inCategory (hcurrency : ∀ price ∈ prices, price.currency = currency)
    (hsmall : ∀ price ∈ prices, Digest.IsSmall price.cents) :
    Apart ((inCategory category prices).map pointOf) := by
  intro first hfirst second hsecond h
  simp only [inCategory, List.map_map, List.mem_map, Function.comp_apply] at hfirst hsecond
  obtain ⟨price, hprice, rfl⟩ := hfirst
  obtain ⟨other, hother, rfl⟩ := hsecond
  refine PricePoint.slot_zero_inj rfl ?_ (hsmall price hprice) (hsmall other hother) h
  exact (hcurrency price hprice).trans (hcurrency other hother).symm

theorem mem_points_inCategory {point : PricePoint} :
    point ∈ (inCategory category prices).map pointOf ↔
      ∃ price ∈ prices, PricePoint.ofPrice category price = point := by
  simp [inCategory, pointOf]

end

/--
Within one category and currency, codes do not depend on the order of the prices.  Two
lists of the same prices, whatever their orders and repetitions, give each price the same
code if all cents fit in 32 bits, and different codes to different cents.  There is never
a collision on the way, and at every point a book lists the codes it has given out, each
once and with the cents of the prices that got it.  So in the end both books list the same
codes, each with the same cents.
-/
theorem codes_do_not_depend_on_order (category currency : String) {first second : List Price}
    (hsame : ∀ price, price ∈ first ↔ price ∈ second)
    (hcurrency : ∀ price ∈ first, price.currency = currency)
    (hsmall : ∀ price ∈ first,
      Int32.minValue.toInt ≤ price.cents.toInt ∧ price.cents.toInt ≤ Int32.maxValue.toInt) :
    let added := fun prices => empty.addAll (inCategory category prices)
    (∃ codeOf : Price → String,
      (added first).1 = first.map codeOf ∧ (added second).1 = second.map codeOf ∧
      (∀ price ∈ first, ∀ other ∈ first,
        codeOf price = codeOf other ↔ price.cents = other.cents) ∧
      ∀ prices, prices <+: first ∨ prices <+: second →
        (added prices).2.centsByCode =
          (prices.map fun price => (codeOf price, price.cents)).eraseDups) ∧
    (∀ prices, prices <+: first ∨ prices <+: second → (added prices).2.collisions = 0) ∧
    ((added first).2.prices.map Prod.fst).Nodup ∧
    (added first).2.centsByCode.Perm (added second).2.centsByCode := by
  intro added
  have hapart : ∀ prices : List Price, prices ⊆ first →
      Apart ((inCategory category prices).map pointOf) := fun prices hsubset =>
    apart_inCategory (fun price hprice => hcurrency price (hsubset hprice))
      fun price hprice => hsmall price (hsubset hprice)
  have hsecond : second ⊆ first := fun price => (hsame price).mpr
  have hfirstApart := hapart first (List.Subset.refl first)
  have hsecondApart := hapart second hsecond
  have hcodes : ∀ prices, prices ⊆ first →
      (added prices).1 = prices.map fun price => firstCode (PricePoint.ofPrice category price) :=
    fun prices hsubset => by
      rw [(addAll_of_apart (hapart prices hsubset)).1]
      simp [inCategory, pointOf]
  have hprefixes : ∀ prices, prices <+: first ∨ prices <+: second → prices ⊆ first := by
    rintro prices (hbegins | hbegins)
    · exact hbegins.subset
    · exact List.Subset.trans hbegins.subset hsecond
  refine ⟨⟨fun price => firstCode (PricePoint.ofPrice category price), ?_, ?_, ?_, ?_⟩,
    ?_, ?_, ?_⟩
  · exact hcodes first (List.Subset.refl first)
  · exact hcodes second hsecond
  · intro price hprice other hother
    constructor
    · intro hcode
      have hpoint := hfirstApart.firstCode_inj (mem_points_inCategory.mpr ⟨price, hprice, rfl⟩)
        (mem_points_inCategory.mpr ⟨other, hother, rfl⟩) hcode
      exact congrArg PricePoint.cents hpoint
    · intro hcents
      have hcurrencies := (hcurrency price hprice).trans (hcurrency other hother).symm
      simp only [PricePoint.ofPrice, hcurrencies, hcents]
  · intro prices hprefix
    rw [centsByCode_eq_eraseDups (hapart prices (hprefixes prices hprefix)), inCategory,
      List.map_map]
    rfl
  · intro prices hprefix
    exact (addAll_of_apart (hapart prices (hprefixes prices hprefix))).2.collisions_eq
  · exact nodup_codes_of_apart hfirstApart
  · rw [centsByCode_of_apart hfirstApart, centsByCode_of_apart hsecondApart]
    refine List.Perm.map _ ((List.perm_ext_iff_of_nodup (Dict.nodup_eraseDups _)
      (Dict.nodup_eraseDups _)).mpr fun point => ?_)
    simp only [List.mem_eraseDups, mem_points_inCategory, hsame]

def tenEuros : Price := ⟨Binary64.ofNat 10, "EUR"⟩

def fortyEuros : Price := ⟨Binary64.ofNat 40, "EUR"⟩

/-- One price comes twice in the one order and once in the other. -/
theorem two_prices_in_either_order :
    let first := [tenEuros, fortyEuros, tenEuros]
    let second := [fortyEuros, tenEuros]
    (∀ price, price ∈ first ↔ price ∈ second) ∧
      (∀ price ∈ first, price.currency = "EUR") ∧
      (∀ price ∈ first,
        Int32.minValue.toInt ≤ price.cents.toInt ∧ price.cents.toInt ≤ Int32.maxValue.toInt) ∧
      ∃ cheap dear, cheap ≠ dear ∧
        (empty.addAll (inCategory "EXIT ROW" first)).1 = [cheap, dear, cheap] ∧
        (empty.addAll (inCategory "EXIT ROW" second)).1 = [dear, cheap] := by
  intro first second
  have hsame : ∀ price, price ∈ first ↔ price ∈ second := by
    simp [first, second, or_comm, or_left_comm]
  have hcurrency : ∀ price ∈ first, price.currency = "EUR" := by decide +kernel
  have hsmall : ∀ price ∈ first, Int32.minValue.toInt ≤ price.cents.toInt ∧
      price.cents.toInt ≤ Int32.maxValue.toInt := by
    decide +kernel
  obtain ⟨⟨codeOf, hfirst, hsecond, hcents, -⟩, -⟩ :=
    codes_do_not_depend_on_order "EXIT ROW" "EUR" hsame hcurrency hsmall
  have hdiffer : codeOf tenEuros ≠ codeOf fortyEuros :=
    mt (hcents tenEuros (by simp [first]) fortyEuros (by simp [first])).mp (by decide +kernel)
  exact ⟨hsame, hcurrency, hsmall, _, _, hdiffer, hfirst, hsecond⟩

end CodeBook

end FareGateway
