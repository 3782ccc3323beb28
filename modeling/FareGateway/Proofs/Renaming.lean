import FareGateway.Gateway.OfferCalls
import FareGateway.Proofs.Naming

/-!
# Naming along the way

Entities are named one by one, while what mentions them is rebuilt with their
keys.  Since a key that has been given stays, it comes to the same to name
everything first, in the order in which it is mentioned, and then to replace
ids by keys in a table that stands still.  `Names` says this of one action on
the table, and it carries over from the parts of an action to the whole.
-/

namespace FareGateway

open Correlation

namespace Correlation.Table

def Extends (before after : Table) : Prop :=
  ∀ nativeKey key, before.forward.get? nativeKey = some key →
    after.forward.get? nativeKey = some key

theorem Extends.refl (table : Table) : table.Extends table :=
  fun _ _ h => h

theorem Extends.trans {first second third : Table} (h : first.Extends second)
    (h' : second.Extends third) : first.Extends third :=
  fun nativeKey key hkey => h' nativeKey key (h nativeKey key hkey)

theorem Extends.contains {before after : Table} (h : before.Extends after)
    {nativeKey : String} (hnamed : before.contains nativeKey) : after.contains nativeKey := by
  obtain ⟨key, hkey⟩ := Option.isSome_iff_exists.mp hnamed
  exact Option.isSome_iff_exists.mpr ⟨key, h _ _ hkey⟩

theorem Extends.nameOf_eq {before after : Table} (h : before.Extends after) {origin : Origin}
    (hnamed : before.contains origin.text) : after.nameOf origin = before.nameOf origin := by
  have hname := h _ _ (get?_nameOf hnamed)
  rw [get?_nameOf (h.contains hnamed), Option.some.injEq] at hname
  exact hname

theorem extends_nameAll (table : Table) (nativeKeys : List String) :
    table.Extends (table.nameAll nativeKeys) :=
  fun _ _ h => get?_nameAll h nativeKeys

end Correlation.Table

/-- An action names these origins in turn, and its value is the same as if the
keys were looked up in any later table. -/
structure Names {α : Type} (act : StateM Table α) (origins : List Origin)
    (value : Table → α) : Prop where
  table_eq : ∀ table, (act.run table).2 = table.nameAll (origins.map Origin.text)
  value_eq : ∀ {table later : Table}, (act.run table).2.Extends later →
    (act.run table).1 = value later

namespace Names

variable {α β ι : Type}

theorem run_eq {act : StateM Table α} {origins : List Origin} {value : Table → α}
    (h : Names act origins value) (table : Table) :
    act.run table =
      let named := table.nameAll (origins.map Origin.text)
      (value named, named) := by
  rw [← h.table_eq table]
  exact Prod.ext (h.value_eq (.refl _)) rfl

theorem value_eq_of_extends {act : StateM Table α} {origins : List Origin}
    {value : Table → α} (h : Names act origins value) {table later : Table}
    (hlater : (table.nameAll (origins.map Origin.text)).Extends later) :
    value (table.nameAll (origins.map Origin.text)) = value later := by
  rw [← h.table_eq] at hlater ⊢
  rw [← h.value_eq (.refl _), h.value_eq hlater]

theorem congr {act : StateM Table α} {origins others : List Origin}
    {value other : Table → α} (h : Names act origins value) (horigins : origins = others)
    (hvalue : ∀ table, value table = other table) : Names act others other := by
  obtain rfl : value = other := funext hvalue
  rw [← horigins]
  exact h

protected theorem pure (value : α) :
    Names (pure value : StateM Table α) [] (fun _ => value) where
  table_eq _ := rfl
  value_eq _ := rfl

protected theorem bind {act : StateM Table α} {next : α → StateM Table β}
    {first second : List Origin} {value : Table → α} {nextValue : α → Table → β}
    (hact : Names act first value) (hnext : ∀ a, Names (next a) second (nextValue a)) :
    Names (act >>= next) (first ++ second)
      (fun table => nextValue (value table) table) where
  table_eq table := by
    change ((next (act.run table).1).run (act.run table).2).2 = _
    rw [(hnext _).table_eq, hact.table_eq, List.map_append, Table.nameAll_append]
  value_eq {table later} hlater := by
    change ((next (act.run table).1).run (act.run table).2).1 = _
    change ((next (act.run table).1).run (act.run table).2).2.Extends later at hlater
    have hbetween : (act.run table).2.Extends later := by
      refine Table.Extends.trans ?_ hlater
      rw [(hnext _).table_eq]
      exact Table.extends_nameAll _ _
    rw [(hnext _).value_eq hlater, hact.value_eq hbetween]

protected theorem mapM {act : ι → StateM Table α} {origins : ι → List Origin}
    {value : ι → Table → α} (h : ∀ item, Names (act item) (origins item) (value item))
    (items : List ι) :
    Names (items.mapM act) (items.flatMap origins)
      (fun table => items.map fun item => value item table) := by
  induction items with
  | nil => exact Names.pure []
  | cons item items ih =>
      have hall := (h item).bind fun first =>
        ih.bind fun rest => Names.pure (first :: rest)
      rw [List.mapM_cons]
      exact hall.congr (by simp) fun _ => rfl

protected theorem foldlM {step : α → ι → StateM Table α} {origins : ι → List Origin}
    {value : Table → α → ι → α}
    (h : ∀ state item, Names (step state item) (origins item)
      fun table => value table state item)
    (items : List ι) (state : α) :
    Names (items.foldlM step state) (items.flatMap origins)
      (fun table => items.foldl (value table) state) := by
  induction items generalizing state with
  | nil => exact Names.pure state
  | cons item items ih =>
      rw [List.foldlM_cons, List.flatMap_cons]
      exact (h state item).bind ih

end Names

/-! ## Offers -/

theorem names_correlationKey (provider : String) (kind : EntityKind) (nativeId : String) :
    Names (correlationKey provider kind nativeId) [⟨provider, kind, nativeId⟩]
      (fun table => table.name provider kind nativeId) where
  table_eq _ := rfl
  value_eq {table later} hlater := by
    have hself := table.get?_keyOf_self (Origin.text ⟨provider, kind, nativeId⟩)
    have hkept := hlater _ _ hself
    change _ = (later.keyOf _).1
    rw [Table.keyOf_of_get? hkept]
    rfl

theorem names_correlationKeys (provider : String) (kind : EntityKind)
    (nativeIds : List String) :
    Names (nativeIds.mapM (correlationKey provider kind))
      (nativeIds.map (⟨provider, kind, ·⟩))
      (fun table => nativeIds.map (table.name provider kind)) := by
  have h := Names.mapM (names_correlationKey provider kind) nativeIds
  exact h.congr (by simp [← List.map_eq_flatMap]) fun _ => rfl

def Offer.mentions (provider : String) (offer : Offer) : List Origin :=
  offer.segmentRefs.map (⟨provider, .segment, ·⟩) ++
    offer.pricePlanRefs.map (⟨provider, .pricePlan, ·⟩)

def Offer.rename (name : EntityKind → String → String) (offer : Offer) : Offer :=
  { offer with
    segmentRefs := offer.segmentRefs.map (name .segment)
    pricePlanRefs := offer.pricePlanRefs.map (name .pricePlan) }

theorem Offer.names_correlated (provider : String) (offer : Offer) :
    Names (offer.correlated provider) (offer.mentions provider)
      (fun table => offer.rename (table.name provider)) := by
  have h := (names_correlationKeys provider .segment offer.segmentRefs).bind
    fun segmentRefs => (names_correlationKeys provider .pricePlan offer.pricePlanRefs).bind
      fun pricePlanRefs => Names.pure { offer with segmentRefs, pricePlanRefs }
  exact h.congr (by simp [Offer.mentions]) fun _ => rfl

def PricedOffer.mentions (provider : String) (priced : PricedOffer) : List Origin :=
  ⟨provider, .offer, priced.offerId⟩ :: priced.offer.mentions provider

def PricedOffer.rename (name : EntityKind → String → String) (priced : PricedOffer) :
    PricedOffer :=
  ⟨name .offer priced.offerId, priced.offer.rename name⟩

theorem PricedOffer.names_correlated (provider : String) (priced : PricedOffer) :
    Names (priced.correlated provider) (priced.mentions provider)
      (fun table => priced.rename (table.name provider)) := by
  have h := (names_correlationKey provider .offer priced.offerId).bind fun key =>
    (priced.offer.names_correlated provider).bind fun offer =>
      Names.pure (⟨key, offer⟩ : PricedOffer)
  exact h.congr (by simp [PricedOffer.mentions]) fun _ => rfl

/-! ## Seat maps -/

def ProviderSeatMap.mentions (provider : String) (seatMap : ProviderSeatMap) :
    List Origin :=
  seatMap.seats.map fun seat => ⟨provider, .segment, seat.segmentRef⟩

def ProviderSeatMap.rename (name : EntityKind → String → String)
    (seatMap : ProviderSeatMap) : SeatMap :=
  let book := (CodeBook.empty.addAll seatMap.shownPrices).2
  { seats := seatMap.seats.map fun seat => {
      segmentRef := name .segment seat.segmentRef
      number := seat.number
      available := seat.available
      optionCode := seat.price.map fun price => (book.add seat.category price).1 }
    prices := Dict.ofList book.prices }

theorem ProviderSeatMap.names_correlated (provider : String) (seatMap : ProviderSeatMap) :
    Names (seatMap.correlated provider) (seatMap.mentions provider)
      (fun table => seatMap.rename (table.name provider)) := by
  let book := (CodeBook.empty.addAll seatMap.shownPrices).2
  have hseat := fun seat : ProviderSeat =>
    (names_correlationKey provider .segment seat.segmentRef).bind fun segmentRef =>
      Names.pure ({
        segmentRef
        number := seat.number
        available := seat.available
        optionCode := seat.price.map fun price => (book.add seat.category price).1 } : Seat)
  have h := (Names.mapM hseat seatMap.seats).bind fun seats =>
    Names.pure ({ seats, prices := Dict.ofList book.prices } : SeatMap)
  exact h.congr (by simp [mentions, ← List.map_eq_flatMap]) fun _ => rfl

end FareGateway
