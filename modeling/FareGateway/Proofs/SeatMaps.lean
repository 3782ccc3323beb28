import FareGateway.Proofs.OptionCodes
import FareGateway.Proofs.Permanence

/-!
# Seat maps

A seat map shows the seats of a provider one for one, with their segments under the keys of
the table.  A seat that has a price shows the code of its price point, and the prices are
listed once for each code, each as the first seat at that price point has it.  As long as
no names are forgotten, it makes no difference when a seat map is asked for.
-/

namespace FareGateway

open Correlation

/-! ## Price lists -/

namespace CodeBook

variable {book : CodeBook} {dict : Dict PricePoint Price}

theorem Holds.codes_eq (h : book.Holds dict) (hsize : dict.size + 1 < 2 ^ 32) :
    book.prices.map Prod.fst = dict.keys.map book.codeOf := by
  rw [h.prices_eq hsize, Dict.keys, List.map_map, List.map_map]
  rfl

theorem Holds.nodup_codes (h : book.Holds dict) (hsize : dict.size + 1 < 2 ^ 32) :
    (book.prices.map Prod.fst).Nodup := by
  rw [h.codes_eq hsize]
  refine List.Nodup.map_on (fun first hfirst second hsecond => ?_) dict.nodup_keys
  exact h.codeOf_inj hsize (Dict.contains_iff.mpr hfirst) (Dict.contains_iff.mpr hsecond)

theorem Holds.keys_priceList (h : book.Holds dict) (hsize : dict.size + 1 < 2 ^ 32) :
    (Dict.ofList book.prices).keys = dict.keys.map book.codeOf := by
  rw [Dict.keys, Dict.entries_ofList (h.nodup_codes hsize), h.codes_eq hsize]

theorem Holds.get?_priceList (h : book.Holds dict) (hsize : dict.size + 1 < 2 ^ 32)
    {point : PricePoint} {price : Price} (hprice : dict.get? point = some price) :
    (Dict.ofList book.prices).get? (book.codeOf point) = some price := by
  rw [Dict.get?_eq_some_iff, Dict.entries_ofList (h.nodup_codes hsize), h.prices_eq hsize]
  exact List.mem_map.mpr ⟨_, Dict.get?_eq_some_iff.mp hprice, rfl⟩

end CodeBook

/-! ## Seats -/

def ProviderSeat.pricePoint? (seat : ProviderSeat) : Option PricePoint :=
  seat.price.map (PricePoint.ofPrice seat.category)

def ProviderSeat.rename (name : EntityKind → String → String) (codeOf : PricePoint → String)
    (seat : ProviderSeat) : Seat where
  segmentRef := name .segment seat.segmentRef
  number := seat.number
  available := seat.available
  optionCode := seat.pricePoint?.map codeOf

/-- What is shown for a seat of a provider, under the keys of a table. -/
structure Seat.Shows (table : Table) (provider : String) (native : ProviderSeat)
    (seat : Seat) : Prop where
  number_eq : seat.number = native.number
  available_eq : seat.available = native.available
  segmentRef : table.forward.get? (Origin.text ⟨provider, .segment, native.segmentRef⟩) =
    some seat.segmentRef
  optionCode : seat.optionCode.isSome = native.price.isSome

namespace ProviderSeatMap

/-- The price of the first seat at a price point. -/
def firstPrice? (seatMap : ProviderSeatMap) (point : PricePoint) : Option Price :=
  (seatMap.seats.find? fun seat => seat.pricePoint? = some point).bind ProviderSeat.price

theorem map_pointOf_shownPrices (seatMap : ProviderSeatMap) :
    seatMap.shownPrices.map CodeBook.pointOf =
      seatMap.seats.filterMap ProviderSeat.pricePoint? := by
  rw [shownPrices, List.map_filterMap]
  refine List.filterMap_congr fun seat _ => ?_
  simp [ProviderSeat.pricePoint?, CodeBook.pointOf, Function.comp_def]

theorem get?_firstPrices_shownPrices (seatMap : ProviderSeatMap) (point : PricePoint) :
    (CodeBook.firstPrices seatMap.shownPrices).get? point = seatMap.firstPrice? point := by
  have hfinds : ∀ seat : ProviderSeat,
      (seat.price.map (seat.category, ·)).any
          (fun addition => decide (CodeBook.pointOf addition = point)) =
        decide (seat.pricePoint? = some point) := by
    intro seat
    cases hprice : seat.price with
    | none => simp [ProviderSeat.pricePoint?, hprice]
    | some price =>
        by_cases hpoint : PricePoint.ofPrice seat.category price = point <;>
          simp [ProviderSeat.pricePoint?, CodeBook.pointOf, hprice, hpoint]
  rw [CodeBook.firstPrices, Dict.get?_insertNew, Dict.get?_empty, Option.none_or,
    CodeBook.pricings, Entries.get?_map, shownPrices, List.find?_filterMap, firstPrice?]
  simp only [hfinds]
  cases seatMap.seats.find? fun seat => decide (seat.pricePoint? = some point) with
  | none => rfl
  | some seat => cases hprice : seat.price <;> simp [hprice]

theorem exists_firstPrice?_eq {seatMap : ProviderSeatMap} {seat : ProviderSeat}
    {point : PricePoint} (hseat : seat ∈ seatMap.seats) (hpoint : seat.pricePoint? = some point) :
    ∃ price, seatMap.firstPrice? point = some price ∧ price.currency = point.currency ∧
      price.cents = point.cents := by
  have hsome : (seatMap.seats.find? fun seat => seat.pricePoint? = some point).isSome :=
    List.find?_isSome.mpr ⟨seat, hseat, by simpa using hpoint⟩
  obtain ⟨first, hfirst⟩ := Option.isSome_iff_exists.mp hsome
  have hfound : first.pricePoint? = some point := by simpa using List.find?_some hfirst
  obtain ⟨price, hprice, rfl⟩ := Option.map_eq_some_iff.mp hfound
  refine ⟨price, ?_, rfl, rfl⟩
  rw [firstPrice?, hfirst, Option.bind_some, hprice]

/-- The book that a seat map takes its codes and its prices from. -/
def book (seatMap : ProviderSeatMap) : CodeBook :=
  (CodeBook.empty.addAll seatMap.shownPrices).2

theorem seats_rename (name : EntityKind → String → String) (seatMap : ProviderSeatMap) :
    (seatMap.rename name).seats =
      seatMap.seats.map (ProviderSeat.rename name seatMap.book.codeOf) := by
  refine List.map_congr_left fun seat _ => ?_
  rw [ProviderSeat.rename, ProviderSeat.pricePoint?, Option.map_map]
  rfl

theorem prices_rename (name : EntityKind → String → String) (seatMap : ProviderSeatMap) :
    (seatMap.rename name).prices = Dict.ofList seatMap.book.prices := rfl

theorem forall₂_shows {table : Table} {provider : String} {seatMap : ProviderSeatMap}
    (hnamed : ∀ origin ∈ seatMap.mentions provider, table.contains origin.text) :
    List.Forall₂ (Seat.Shows table provider) seatMap.seats
      (seatMap.rename (table.name provider)).seats := by
  rw [seats_rename, List.forall₂_map_right_iff, List.forall₂_same]
  intro seat hseat
  refine ⟨rfl, rfl, ?_, ?_⟩
  · exact Table.get?_nameOf (hnamed _ (List.mem_map_of_mem hseat))
  · simp [ProviderSeat.rename, ProviderSeat.pricePoint?]

theorem contains_of_pricePoint? {seatMap : ProviderSeatMap} {seat : ProviderSeat}
    {point : PricePoint} (hseat : seat ∈ seatMap.seats) (hpoint : seat.pricePoint? = some point) :
    (CodeBook.firstPrices seatMap.shownPrices).contains point := by
  rw [CodeBook.contains_firstPrices, map_pointOf_shownPrices, List.mem_filterMap]
  exact ⟨seat, hseat, hpoint⟩

section

variable {seatMap : ProviderSeatMap}
  (hfew : (seatMap.seats.filterMap ProviderSeat.pricePoint?).eraseDups.length < 2 ^ 32 - 2)

include hfew

theorem size_firstPrices_lt :
    (CodeBook.firstPrices seatMap.shownPrices).size + 1 < 2 ^ 32 := by
  rw [CodeBook.size_firstPrices, map_pointOf_shownPrices]
  omega

theorem holds_book : seatMap.book.Holds (CodeBook.firstPrices seatMap.shownPrices) :=
  CodeBook.holds_empty.addAll (size_firstPrices_lt hfew)

theorem map_codeOf_eq_iff {first second : ProviderSeat} (hfirst : first ∈ seatMap.seats)
    (hsecond : second ∈ seatMap.seats) :
    first.pricePoint?.map seatMap.book.codeOf = second.pricePoint?.map seatMap.book.codeOf ↔
      first.pricePoint? = second.pricePoint? := by
  constructor
  · intro h
    cases hpoint : first.pricePoint? with
    | none =>
        rw [hpoint, Option.map_none] at h
        exact (Option.map_eq_none_iff.mp h.symm).symm
    | some point =>
        rw [hpoint, Option.map_some] at h
        obtain ⟨other, hother, hcode⟩ := Option.map_eq_some_iff.mp h.symm
        have hsame := (holds_book hfew).codeOf_inj (size_firstPrices_lt hfew)
          (contains_of_pricePoint? hsecond hother)
          (contains_of_pricePoint? hfirst hpoint) hcode
        rw [hother, hsame]
  · intro h
    rw [h]

theorem mem_keys_priceList_iff {code : String} :
    code ∈ (Dict.ofList seatMap.book.prices).keys ↔
      ∃ seat ∈ seatMap.seats, seat.pricePoint?.map seatMap.book.codeOf = some code := by
  rw [(holds_book hfew).keys_priceList (size_firstPrices_lt hfew), CodeBook.keys_firstPrices,
    map_pointOf_shownPrices]
  simp only [List.mem_map, List.mem_eraseDups, List.mem_filterMap, Option.map_eq_some_iff]
  constructor
  · rintro ⟨point, ⟨seat, hseat, hpoint⟩, hcode⟩
    exact ⟨seat, hseat, point, hpoint, hcode⟩
  · rintro ⟨seat, hseat, point, hpoint, hcode⟩
    exact ⟨point, ⟨seat, hseat, hpoint⟩, hcode⟩

theorem get?_priceList {seat : ProviderSeat} {point : PricePoint}
    (hseat : seat ∈ seatMap.seats) (hpoint : seat.pricePoint? = some point) :
    (Dict.ofList seatMap.book.prices).get? (seatMap.book.codeOf point) =
      seatMap.firstPrice? point := by
  obtain ⟨price, hprice, -⟩ := exists_firstPrice?_eq hseat hpoint
  rw [hprice]
  refine (holds_book hfew).get?_priceList (size_firstPrices_lt hfew) ?_
  rw [get?_firstPrices_shownPrices, hprice]

/-- The codes are those that one pass over the seats gets for their prices. -/
theorem filterMap_optionCode_rename (name : EntityKind → String → String) :
    (seatMap.rename name).seats.filterMap Seat.optionCode =
      (CodeBook.empty.addAll seatMap.shownPrices).1 := by
  rw [CodeBook.holds_empty.codes_addAll (size_firstPrices_lt hfew), map_pointOf_shownPrices,
    List.map_filterMap, seats_rename, List.filterMap_map]
  rfl

end

end ProviderSeatMap

namespace Gateway

/--
Seat maps are faithful.  If the route of an offer is alive and its provider answers in time,
the gateway shows the seats of the provider one for one, each with its number and whether it
is available, and with its segment under its key in the table.  If there are slots enough
for their price points, two seats show the same code just when they have the same price
point, and no code just when they have no price.  The codes are the keys of the price list,
in which the price under a code is that of the first seat at its price point.  Whenever the
same provider later answers the same, the same seat map is shown, as long as no names have
been forgotten in between.
-/
theorem seat_maps_are_faithful {gateway : Gateway} {key : String} {route : Route}
    {provider : Provider} {native : ProviderSeatMap}
    (hroute : gateway.routeAt gateway.now key = some route)
    (hprovider : gateway.registry.get? route.provider = some provider)
    (hintime : provider.replySeatMap.1.isInTime gateway.settings.followUpTimeoutMs.toNat)
    (hanswer : provider.replySeatMap.1.answer = .success native) :
    let step := gateway.seatMap key
    ∃ seatMap, step.result = .ok seatMap ∧
      List.Forall₂ (Seat.Shows step.gateway.table route.provider) native.seats seatMap.seats ∧
      ((native.seats.filterMap ProviderSeat.pricePoint?).eraseDups.length < 2 ^ 32 - 2 →
        (∀ first ∈ native.seats.zip seatMap.seats, ∀ second ∈ native.seats.zip seatMap.seats,
          first.2.optionCode = second.2.optionCode ↔
            first.1.pricePoint? = second.1.pricePoint?) ∧
        seatMap.seats.filterMap Seat.optionCode =
          (CodeBook.empty.addAll native.shownPrices).1 ∧
        (∀ code, code ∈ seatMap.prices.keys ↔
          ∃ seat ∈ seatMap.seats, seat.optionCode = some code) ∧
        ∀ shown ∈ native.seats.zip seatMap.seats, ∀ price, shown.1.price = some price →
          ∃ code kept, shown.2.optionCode = some code ∧
            seatMap.prices.get? code = some kept ∧
            native.firstPrice? (PricePoint.ofPrice shown.1.category price) = some kept ∧
            kept.currency = price.currency ∧ kept.cents = price.cents) ∧
      ∀ passages, (∀ passage ∈ passages, passage.KeepsNames) →
        let later := step.gateway.passAll passages
        ∀ other otherRoute, otherRoute.provider = route.provider →
          later.heard? other Provider.replySeatMap = some (otherRoute, native) →
            (later.seatMap other).result = .ok seatMap := by
  intro step
  have hheard : gateway.heard? key Provider.replySeatMap = some (route, native) :=
    heard?_eq_some_iff.mpr ⟨hroute, provider, hprovider,
      Reply.outcome_eq_ok_iff.mpr ⟨hintime, hanswer⟩⟩
  obtain ⟨hresult, htable⟩ := seatMap_of_heard hheard
  rw [← htable] at hresult
  have hseats : native.seats.zip (native.rename (step.gateway.table.name route.provider)).seats =
      native.seats.map fun seat =>
        (seat, seat.rename (step.gateway.table.name route.provider) native.book.codeOf) := by
    rw [ProviderSeatMap.seats_rename, List.map_prod_left_eq_zip]
  refine ⟨_, hresult, ?_, fun hfew => ⟨?_, ?_, ?_, ?_⟩, ?_⟩
  · refine ProviderSeatMap.forall₂_shows fun origin horigin => ?_
    rw [htable]
    exact Table.contains_nameAll (List.mem_map_of_mem horigin)
  · rw [hseats]
    simp only [List.forall_mem_map]
    exact fun first hfirst second hsecond =>
      ProviderSeatMap.map_codeOf_eq_iff hfew hfirst hsecond
  · exact ProviderSeatMap.filterMap_optionCode_rename hfew _
  · intro code
    rw [ProviderSeatMap.prices_rename, ProviderSeatMap.mem_keys_priceList_iff hfew,
      ProviderSeatMap.seats_rename]
    simp only [List.mem_map, exists_exists_and_eq_and, ProviderSeat.rename]
  · rw [hseats]
    simp only [List.forall_mem_map]
    intro seat hseat price hprice
    have hpoint : seat.pricePoint? = some (PricePoint.ofPrice seat.category price) := by
      rw [ProviderSeat.pricePoint?, hprice, Option.map_some]
    obtain ⟨kept, hkept, hcurrency, hcents⟩ :=
      ProviderSeatMap.exists_firstPrice?_eq hseat hpoint
    refine ⟨_, kept, by rw [ProviderSeat.rename, hpoint, Option.map_some], ?_, hkept,
      hcurrency, hcents⟩
    rw [ProviderSeatMap.prices_rename, ProviderSeatMap.get?_priceList hfew hseat hpoint, hkept]
  · intro passages hkeeps later other otherRoute hsame hlater
    obtain ⟨hagain, hnamed⟩ := seatMap_of_heard hlater
    have hasked : (Action.seatMap other).KeepsNames := trivial
    have hextends : step.gateway.table.Extends (later.seatMap other).gateway.table :=
      (step.gateway.extends_passAll hkeeps).trans (later.extends_perform hasked)
    rw [htable] at hextends ⊢
    rw [← hnamed, hsame] at hagain
    rw [hagain, (native.names_correlated route.provider).value_eq_of_extends hextends]

/-- Two seats at forty euros, of which the second asks for a little more than that, one
that is not sold, and one at ten. -/
def exitRowSeats : ProviderSeatMap where
  seats := [
    ⟨"s", "1A", "EXIT ROW", true, some ⟨Binary64.ofNat 40, "EUR"⟩⟩,
    ⟨"s", "1B", "EXIT ROW", false, none⟩,
    ⟨"t", "1C", "EXIT ROW", true, some ⟨⟨0x4044000000000001⟩, "EUR"⟩⟩,
    ⟨"s", "2A", "STANDARD", true, some ⟨Binary64.ofNat 10, "EUR"⟩⟩]

def seatingProvider : Provider where
  search := { next := { answer := .success {} } }
  price := { next := { answer := .unsupported "price" } }
  seatMap := some { next := { answer := .success exitRowSeats } }

theorem seats_share_their_prices :
    let gateway := (Gateway.new (Registry.empty.registerAll [("a", seatingProvider)]).2 {}
      (.empty (.numbered "k"))).putRoute "x" ⟨"a", "o"⟩
    let passages : List Passage := [.act (.keyOf "b"), .act (.wait 1)]
    gateway.routeAt gateway.now "x" = some ⟨"a", "o"⟩ ∧
      (exitRowSeats.seats.filterMap ProviderSeat.pricePoint?).eraseDups.length < 2 ^ 32 - 2 ∧
      (∀ passage ∈ passages, passage.KeepsNames) ∧
      ∃ seatMap, (gateway.seatMap "x").result = .ok seatMap ∧
        seatMap.seats.filterMap Seat.optionCode =
          ["057763F6.EXITROW", "057763F6.EXITROW", "D07AFE03.STANDARD"] ∧
        seatMap.prices.get? "057763F6.EXITROW" = some ⟨Binary64.ofNat 40, "EUR"⟩ ∧
        (((gateway.seatMap "x").gateway.passAll passages).seatMap "x").result = .ok seatMap := by
  intro gateway passages
  have hroute : gateway.routeAt gateway.now "x" = some ⟨"a", "o"⟩ := by decide +kernel
  have hprovider : gateway.registry.get? "a" = some seatingProvider := rfl
  have hintime : seatingProvider.replySeatMap.1.isInTime
      gateway.settings.followUpTimeoutMs.toNat = true := rfl
  have hanswer : seatingProvider.replySeatMap.1.answer = .success exitRowSeats := rfl
  have hfew : (exitRowSeats.seats.filterMap ProviderSeat.pricePoint?).eraseDups.length <
      2 ^ 32 - 2 := by
    decide +kernel
  have hkeeps : ∀ passage ∈ passages, passage.KeepsNames := by
    simp [passages, Passage.KeepsNames, Action.KeepsNames]
  obtain ⟨seatMap, hresult, hshown, hsold, hagain⟩ :=
    seat_maps_are_faithful hroute hprovider hintime hanswer
  obtain ⟨-, hcodes, -, hprices⟩ := hsold hfew
  have hpass : (CodeBook.empty.addAll exitRowSeats.shownPrices).1 =
      ["057763F6.EXITROW", "057763F6.EXITROW", "D07AFE03.STANDARD"] := by
    decide +kernel
  rw [hpass] at hcodes
  obtain ⟨first, rest, -, -, hseats⟩ := List.forall₂_cons_left_iff.mp hshown
  obtain ⟨code, kept, hcode, hkept, hfirst, -⟩ :=
    hprices (_, first) (by rw [hseats]; exact List.mem_cons_self) _ rfl
  have hshared : code = "057763F6.EXITROW" := by
    rw [hseats, List.filterMap_cons_some hcode] at hcodes
    exact (List.cons.inj hcodes).1
  have hprice : kept = ⟨Binary64.ofNat 40, "EUR"⟩ := by
    have hforty : exitRowSeats.firstPrice?
        (PricePoint.ofPrice "EXIT ROW" ⟨Binary64.ofNat 40, "EUR"⟩) =
          some ⟨Binary64.ofNat 40, "EUR"⟩ := by decide +kernel
    exact Option.some.inj (hfirst.symm.trans hforty)
  refine ⟨hroute, hfew, hkeeps, seatMap, hresult, hcodes, ?_, ?_⟩
  · rw [← hshared, hkept, hprice]
  · exact hagain passages hkeeps "x" ⟨"a", "o"⟩ rfl (by decide +kernel)

end Gateway

end FareGateway
