import FareGateway.Itinerary.Documents
import FareGateway.Proofs.TimestampText
import FareGateway.Proofs.WrittenRecords

/-!
# Documents written without loss

Every type of the itinerary is lossless.  A document may leave out what may be missing,
list its fields in any order or as an array and tell time with any offset; what it says is
read again from the text that is written for it.
-/

namespace FareGateway

open Json

/-! ## Dates, instants and names -/

theorem bind_decode?_reread {α : Type} (ofText? : String → Option α) (text : String) :
    (decode? (encode text).reread).bind ofText? = ofText? text := by
  change (textOf? ((unitsOf text).map StringUnit.reread)).bind ofText? = ofText? text
  rw [textOf?_reread, Option.bind_some]

theorem decodeName?_reread {α : Type} (named? : String → Option α) (name : String) :
    decodeName? named? (encode name).reread = named? name :=
  bind_decode?_reread named? name

instance : Lossless Date where
  amounts _ := []
  OnCalendar date := date.inRange = true
  isProper_encode _ := trivial
  onCalendar_of_decode? hjson := by
    obtain ⟨text, -, htext⟩ := Option.bind_eq_some_iff.mp hjson
    exact Date.inRange_of_ofText? htext
  decode?_reread {date} hcalendar _ :=
    (bind_decode?_reread Date.ofText? date.print).trans (Date.ofText?_print hcalendar)

instance : RejectsNull Date := ⟨rfl⟩

instance : Lossless Instant where
  amounts _ := []
  OnCalendar := Instant.IsTold
  isProper_encode _ := trivial
  onCalendar_of_decode? hjson := by
    obtain ⟨text, -, htext⟩ := Option.bind_eq_some_iff.mp hjson
    exact Instant.isTold_of_ofText? htext
  decode?_reread {instant} hcalendar _ :=
    (bind_decode?_reread Instant.ofText? instant.print).trans (Instant.ofText?_print hcalendar)

instance : RejectsNull Instant := ⟨rfl⟩

theorem PassengerType.ofName?_name (type : PassengerType) :
    PassengerType.ofName? type.name = some type := by
  cases type <;> rfl

instance : Lossless PassengerType where
  amounts _ := []
  OnCalendar _ := True
  isProper_encode _ := trivial
  onCalendar_of_decode? _ := trivial
  decode?_reread {type} _ _ :=
    (decodeName?_reread PassengerType.ofName? type.name).trans type.ofName?_name

theorem OrderStatus.ofName?_name (status : OrderStatus) :
    OrderStatus.ofName? status.name = some status := by
  cases status <;> rfl

instance : Lossless OrderStatus where
  amounts _ := []
  OnCalendar _ := True
  isProper_encode _ := trivial
  onCalendar_of_decode? _ := trivial
  decode?_reread {status} _ _ :=
    (decodeName?_reread OrderStatus.ofName? status.name).trans status.ofName?_name

/-! ## Records -/

instance : IsRecord Price where
  parts := [.required "amount" Price.amount, .required "currency" Price.currency]
  nodup_names := by decide +kernel
  encode_eq _ := rfl
  decode?_eq_some_iff {_ price} := by
    cases price
    simp [decode?, Option.bind_eq_some_iff]

instance : IsRecord PassengerGroup where
  parts := [
    .required "passenger_type" PassengerGroup.type, .required "count" PassengerGroup.count]
  nodup_names := by decide +kernel
  encode_eq _ := rfl
  decode?_eq_some_iff {_ group} := by
    cases group
    simp [decode?, Option.bind_eq_some_iff]

instance : IsRecord SearchRequest where
  parts := [
    .required "origin" SearchRequest.origin,
    .required "destination" SearchRequest.destination,
    .required "departure" SearchRequest.departure,
    .nullable "return_date" SearchRequest.returnDate,
    .required "passengers" SearchRequest.passengers, .nullable "cabin" SearchRequest.cabin]
  nodup_names := by decide +kernel
  encode_eq _ := rfl
  decode?_eq_some_iff {_ request} := by
    cases request
    simp [decode?, Option.bind_eq_some_iff]

instance : IsRecord Segment where
  parts := [
    .required "origin" Segment.origin, .required "destination" Segment.destination,
    .required "departure" Segment.departure, .required "arrival" Segment.arrival,
    .required "marketing_carrier" Segment.marketingCarrier,
    .required "flight_number" Segment.flightNumber]
  nodup_names := by decide +kernel
  encode_eq _ := rfl
  decode?_eq_some_iff {_ segment} := by
    cases segment
    simp [decode?, Option.bind_eq_some_iff]

instance : IsRecord PricePlan where
  parts := [
    .required "name" PricePlan.name, .required "amenities" PricePlan.amenities,
    .required "checked_baggages" PricePlan.checkedBaggages]
  nodup_names := by decide +kernel
  encode_eq _ := rfl
  decode?_eq_some_iff {_ plan} := by
    cases plan
    simp [decode?, Option.bind_eq_some_iff]

instance : IsRecord Offer where
  parts := [
    .required "price" Offer.price, .required "segment_refs" Offer.segmentRefs,
    .required "price_plan_refs" Offer.pricePlanRefs,
    .required "passenger_refs" Offer.passengerRefs, .nullable "expiration" Offer.expiration]
  nodup_names := by decide +kernel
  encode_eq _ := rfl
  decode?_eq_some_iff {_ offer} := by
    cases offer
    simp [decode?, Option.bind_eq_some_iff]

instance : IsRecord SearchResults where
  parts := [
    .required "offers" SearchResults.offers, .required "segments" SearchResults.segments,
    .required "price_plans" SearchResults.pricePlans,
    .required "passengers" SearchResults.passengers,
    .defaulted "combinations" SearchResults.combinations ∅ onCalendar_empty]
  nodup_names := by decide +kernel
  encode_eq _ := rfl
  decode?_eq_some_iff {_ results} := by
    cases results
    simp [decode?, Option.bind_eq_some_iff]

instance : IsRecord PriceRequest where
  parts := [.required "selected_options" PriceRequest.selectedOptions]
  nodup_names := by decide +kernel
  encode_eq _ := rfl
  decode?_eq_some_iff {_ request} := by
    cases request
    simp [decode?, Option.bind_eq_some_iff]

instance : IsRecord PricedOffer where
  parts := [.required "offer_id" PricedOffer.offerId, .required "offer" PricedOffer.offer]
  nodup_names := by decide +kernel
  encode_eq _ := rfl
  decode?_eq_some_iff {_ priced} := by
    cases priced
    simp [decode?, Option.bind_eq_some_iff]

instance : IsRecord ProviderSeat where
  parts := [
    .required "segment_ref" ProviderSeat.segmentRef, .required "number" ProviderSeat.number,
    .required "category" ProviderSeat.category,
    .required "available" ProviderSeat.available, .nullable "price" ProviderSeat.price]
  nodup_names := by decide +kernel
  encode_eq _ := rfl
  decode?_eq_some_iff {_ seat} := by
    cases seat
    simp [decode?, Option.bind_eq_some_iff, -Bool.exists_bool]

instance : IsRecord ProviderSeatMap where
  parts := [.required "seats" ProviderSeatMap.seats]
  nodup_names := by decide +kernel
  encode_eq _ := rfl
  decode?_eq_some_iff {_ seatMap} := by
    cases seatMap
    simp [decode?, Option.bind_eq_some_iff]

instance : IsRecord Seat where
  parts := [
    .required "segment_ref" Seat.segmentRef, .required "number" Seat.number,
    .required "available" Seat.available, .nullable "option_code" Seat.optionCode]
  nodup_names := by decide +kernel
  encode_eq _ := rfl
  decode?_eq_some_iff {_ seat} := by
    cases seat
    simp [decode?, Option.bind_eq_some_iff, -Bool.exists_bool]

instance : IsRecord SeatMap where
  parts := [.required "seats" SeatMap.seats, .required "prices" SeatMap.prices]
  nodup_names := by decide +kernel
  encode_eq _ := rfl
  decode?_eq_some_iff {_ seatMap} := by
    cases seatMap
    simp [decode?, Option.bind_eq_some_iff]

instance : IsRecord PassengerDetails where
  parts := [
    .required "passenger_ref" PassengerDetails.passengerRef,
    .required "first_name" PassengerDetails.firstName,
    .required "last_name" PassengerDetails.lastName,
    .nullable "email" PassengerDetails.email]
  nodup_names := by decide +kernel
  encode_eq _ := rfl
  decode?_eq_some_iff {_ details} := by
    cases details
    simp [decode?, Option.bind_eq_some_iff]

instance : IsRecord OrderRequest where
  parts := [
    .required "passengers" OrderRequest.passengers,
    .required "selected_options" OrderRequest.selectedOptions]
  nodup_names := by decide +kernel
  encode_eq _ := rfl
  decode?_eq_some_iff {_ request} := by
    cases request
    simp [decode?, Option.bind_eq_some_iff]

instance : IsRecord Order where
  parts := [
    .required "order_id" Order.orderId, .required "status" Order.status,
    .required "total" Order.total]
  nodup_names := by decide +kernel
  encode_eq _ := rfl
  decode?_eq_some_iff {_ order} := by
    cases order
    simp [decode?, Option.bind_eq_some_iff]

/-! ## Documents -/

/-- The types that have documents. -/
inductive DocumentKind where
  | passengerType
  | passengerGroup
  | searchRequest
  | segment
  | pricePlan
  | price
  | offer
  | searchResults
  | priceRequest
  | pricedOffer
  | providerSeat
  | providerSeatMap
  | seat
  | seatMap
  | passengerDetails
  | orderRequest
  | orderStatus
  | order
  deriving DecidableEq, Repr

namespace DocumentKind

/-- What a document of the kind says. -/
def Content : DocumentKind → Type
  | .passengerType => PassengerType
  | .passengerGroup => PassengerGroup
  | .searchRequest => SearchRequest
  | .segment => Segment
  | .pricePlan => PricePlan
  | .price => Price
  | .offer => Offer
  | .searchResults => SearchResults
  | .priceRequest => PriceRequest
  | .pricedOffer => PricedOffer
  | .providerSeat => ProviderSeat
  | .providerSeatMap => ProviderSeatMap
  | .seat => Seat
  | .seatMap => SeatMap
  | .passengerDetails => PassengerDetails
  | .orderRequest => OrderRequest
  | .orderStatus => OrderStatus
  | .order => Order

instance : (kind : DocumentKind) → Codec kind.Content
  | .passengerType => inferInstanceAs (Codec PassengerType)
  | .passengerGroup => inferInstanceAs (Codec PassengerGroup)
  | .searchRequest => inferInstanceAs (Codec SearchRequest)
  | .segment => inferInstanceAs (Codec Segment)
  | .pricePlan => inferInstanceAs (Codec PricePlan)
  | .price => inferInstanceAs (Codec Price)
  | .offer => inferInstanceAs (Codec Offer)
  | .searchResults => inferInstanceAs (Codec SearchResults)
  | .priceRequest => inferInstanceAs (Codec PriceRequest)
  | .pricedOffer => inferInstanceAs (Codec PricedOffer)
  | .providerSeat => inferInstanceAs (Codec ProviderSeat)
  | .providerSeatMap => inferInstanceAs (Codec ProviderSeatMap)
  | .seat => inferInstanceAs (Codec Seat)
  | .seatMap => inferInstanceAs (Codec SeatMap)
  | .passengerDetails => inferInstanceAs (Codec PassengerDetails)
  | .orderRequest => inferInstanceAs (Codec OrderRequest)
  | .orderStatus => inferInstanceAs (Codec OrderStatus)
  | .order => inferInstanceAs (Codec Order)

instance : (kind : DocumentKind) → Lossless kind.Content
  | .passengerType => inferInstanceAs (Lossless PassengerType)
  | .passengerGroup => inferInstanceAs (Lossless PassengerGroup)
  | .searchRequest => inferInstanceAs (Lossless SearchRequest)
  | .segment => inferInstanceAs (Lossless Segment)
  | .pricePlan => inferInstanceAs (Lossless PricePlan)
  | .price => inferInstanceAs (Lossless Price)
  | .offer => inferInstanceAs (Lossless Offer)
  | .searchResults => inferInstanceAs (Lossless SearchResults)
  | .priceRequest => inferInstanceAs (Lossless PriceRequest)
  | .pricedOffer => inferInstanceAs (Lossless PricedOffer)
  | .providerSeat => inferInstanceAs (Lossless ProviderSeat)
  | .providerSeatMap => inferInstanceAs (Lossless ProviderSeatMap)
  | .seat => inferInstanceAs (Lossless Seat)
  | .seatMap => inferInstanceAs (Lossless SeatMap)
  | .passengerDetails => inferInstanceAs (Lossless PassengerDetails)
  | .orderRequest => inferInstanceAs (Lossless OrderRequest)
  | .orderStatus => inferInstanceAs (Lossless OrderStatus)
  | .order => inferInstanceAs (Lossless Order)

end DocumentKind

/-- A content is read back from the text that is written for it just when the calendar has
its dates and instants.  A document in any of its forms says such a content, with all
entries in the same order as are read back, and its text is the one that is written ever
after. -/
theorem written_document_reads_back {kind : DocumentKind} {content : kind.Content}
    (hamounts : ∀ x ∈ amounts content, x.ReadsBack) :
    (read? (write content) = some content ↔ OnCalendar content) ∧
      ∀ text, read? text = some content →
        read? (write content) = some content ∧
          ∀ again : kind.Content, read? (write content) = some again →
            again = content ∧ write again = write content := by
  refine ⟨read?_write_iff hamounts, fun text htext => ?_⟩
  have hback := (read?_write_iff hamounts).mpr (onCalendar_of_read? htext)
  refine ⟨hback, fun again hagain => ?_⟩
  have hsame : again = content := Option.some.inj (hagain.symm.trans hback)
  exact ⟨hsame, congrArg write hsame⟩

/-- An offer with its fields in another order, one that is unknown, its price as an array
and its expiration with an offset. -/
theorem offer_in_another_form_reads_back :
    let text :=
      "\x7b\"expiration\":\"2026-02-28T23:30:00.5-01:00\",\"price\":[35.5,\"EUR\"]," ++
        "\"seat\":null,\"passenger_refs\":[\"p\"],\"segment_refs\":[]," ++
        "\"price_plan_refs\":[]\x7d"
    let offer : Offer := {
      price := ⟨⟨0x4041c00000000000⟩, "EUR"⟩
      segmentRefs := []
      pricePlanRefs := []
      passengerRefs := ["p"]
      expiration := some ⟨1772325000, 500000000⟩ }
    read? text = some offer ∧ (∀ x ∈ amounts offer, x.ReadsBack) ∧ write offer ≠ text ∧
      read? (write offer) = some offer ∧
      ∀ again : Offer, read? (write offer) = some again →
        again = offer ∧ write again = write offer := by
  intro text offer
  have hread : read? text = some offer := by decide +kernel
  have hamounts : ∀ x ∈ amounts offer, x.ReadsBack := by
    intro x hx
    have hx : x ∈ [(⟨0x4041c00000000000⟩ : Binary64)] := hx
    rw [List.mem_singleton.mp hx, Binary64.ReadsBack]
    decide +kernel
  obtain ⟨-, hforms⟩ := @written_document_reads_back .offer offer hamounts
  obtain ⟨hback, hagain⟩ := hforms text hread
  exact ⟨hread, hamounts, by decide +kernel, hback, hagain⟩

end FareGateway
