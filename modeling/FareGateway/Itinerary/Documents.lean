import FareGateway.Calendar.Timestamp
import FareGateway.Itinerary.Types
import FareGateway.Json.Codec

/-!
# The JSON documents of the itinerary types

Field names and their order, the names of the finite types, and which fields may
be missing.
-/

namespace FareGateway

open Json

instance : Codec Date where
  encode date := encode date.print
  decode? value := (decode? value).bind Date.ofText?

instance : Codec Instant where
  encode instant := encode instant.print
  decode? value := (decode? value).bind Instant.ofText?

def PassengerType.name : PassengerType → String
  | .adult => "ADT"
  | .child => "CHD"
  | .infant => "INF"

def PassengerType.ofName? : String → Option PassengerType
  | "ADT" => some .adult
  | "CHD" => some .child
  | "INF" => some .infant
  | _ => none

instance : Codec PassengerType where
  encode type := encode type.name
  decode? := decodeName? PassengerType.ofName?

def OrderStatus.name : OrderStatus → String
  | .created => "Created"
  | .confirmed => "Confirmed"
  | .failed => "Failed"

def OrderStatus.ofName? : String → Option OrderStatus
  | "Created" => some .created
  | "Confirmed" => some .confirmed
  | "Failed" => some .failed
  | _ => none

instance : Codec OrderStatus where
  encode status := encode status.name
  decode? := decodeName? OrderStatus.ofName?

instance : Codec Price where
  encode price :=
    record [("amount", encode price.amount), ("currency", encode price.currency)]
  decode? value := do
    let fields ← gather [⟨"amount", .required⟩, ⟨"currency", .required⟩] value
    some {
      amount := ← fields.read? "amount"
      currency := ← fields.read? "currency" }

instance : Codec PassengerGroup where
  encode group :=
    record [("passenger_type", encode group.type), ("count", encode group.count)]
  decode? value := do
    let fields ← gather [⟨"passenger_type", .required⟩, ⟨"count", .required⟩] value
    some {
      type := ← fields.read? "passenger_type"
      count := ← fields.read? "count" }

instance : Codec SearchRequest where
  encode request := record [
    ("origin", encode request.origin),
    ("destination", encode request.destination),
    ("departure", encode request.departure),
    ("return_date", encode request.returnDate),
    ("passengers", encode request.passengers),
    ("cabin", encode request.cabin)]
  decode? value := do
    let fields ← gather [⟨"origin", .required⟩, ⟨"destination", .required⟩,
      ⟨"departure", .required⟩, ⟨"return_date", .nullable⟩,
      ⟨"passengers", .required⟩, ⟨"cabin", .nullable⟩] value
    some {
      origin := ← fields.read? "origin"
      destination := ← fields.read? "destination"
      departure := ← fields.read? "departure"
      returnDate := ← fields.read? "return_date"
      passengers := ← fields.read? "passengers"
      cabin := ← fields.read? "cabin" }

instance : Codec Segment where
  encode segment := record [
    ("origin", encode segment.origin),
    ("destination", encode segment.destination),
    ("departure", encode segment.departure),
    ("arrival", encode segment.arrival),
    ("marketing_carrier", encode segment.marketingCarrier),
    ("flight_number", encode segment.flightNumber)]
  decode? value := do
    let fields ← gather [⟨"origin", .required⟩, ⟨"destination", .required⟩,
      ⟨"departure", .required⟩, ⟨"arrival", .required⟩,
      ⟨"marketing_carrier", .required⟩, ⟨"flight_number", .required⟩] value
    some {
      origin := ← fields.read? "origin"
      destination := ← fields.read? "destination"
      departure := ← fields.read? "departure"
      arrival := ← fields.read? "arrival"
      marketingCarrier := ← fields.read? "marketing_carrier"
      flightNumber := ← fields.read? "flight_number" }

instance : Codec PricePlan where
  encode plan := record [
    ("name", encode plan.name),
    ("amenities", encode plan.amenities),
    ("checked_baggages", encode plan.checkedBaggages)]
  decode? value := do
    let fields ← gather [⟨"name", .required⟩, ⟨"amenities", .required⟩,
      ⟨"checked_baggages", .required⟩] value
    some {
      name := ← fields.read? "name"
      amenities := ← fields.read? "amenities"
      checkedBaggages := ← fields.read? "checked_baggages" }

instance : Codec Offer where
  encode offer := record [
    ("price", encode offer.price),
    ("segment_refs", encode offer.segmentRefs),
    ("price_plan_refs", encode offer.pricePlanRefs),
    ("passenger_refs", encode offer.passengerRefs),
    ("expiration", encode offer.expiration)]
  decode? value := do
    let fields ← gather [⟨"price", .required⟩, ⟨"segment_refs", .required⟩,
      ⟨"price_plan_refs", .required⟩, ⟨"passenger_refs", .required⟩,
      ⟨"expiration", .nullable⟩] value
    some {
      price := ← fields.read? "price"
      segmentRefs := ← fields.read? "segment_refs"
      pricePlanRefs := ← fields.read? "price_plan_refs"
      passengerRefs := ← fields.read? "passenger_refs"
      expiration := ← fields.read? "expiration" }

instance : Codec SearchResults where
  encode results := record [
    ("offers", encode results.offers),
    ("segments", encode results.segments),
    ("price_plans", encode results.pricePlans),
    ("passengers", encode results.passengers),
    ("combinations", encode results.combinations)]
  decode? value := do
    let fields ← gather [⟨"offers", .required⟩, ⟨"segments", .required⟩,
      ⟨"price_plans", .required⟩, ⟨"passengers", .required⟩,
      ⟨"combinations", .defaulted⟩] value
    some {
      offers := ← fields.read? "offers"
      segments := ← fields.read? "segments"
      pricePlans := ← fields.read? "price_plans"
      passengers := ← fields.read? "passengers"
      combinations := ← fields.readD? "combinations" ∅ }

instance : Codec PriceRequest where
  encode request := record [("selected_options", encode request.selectedOptions)]
  decode? value := do
    let fields ← gather [⟨"selected_options", .required⟩] value
    some { selectedOptions := ← fields.read? "selected_options" }

instance : Codec PricedOffer where
  encode priced :=
    record [("offer_id", encode priced.offerId), ("offer", encode priced.offer)]
  decode? value := do
    let fields ← gather [⟨"offer_id", .required⟩, ⟨"offer", .required⟩] value
    some {
      offerId := ← fields.read? "offer_id"
      offer := ← fields.read? "offer" }

instance : Codec ProviderSeat where
  encode seat := record [
    ("segment_ref", encode seat.segmentRef),
    ("number", encode seat.number),
    ("category", encode seat.category),
    ("available", encode seat.available),
    ("price", encode seat.price)]
  decode? value := do
    let fields ← gather [⟨"segment_ref", .required⟩, ⟨"number", .required⟩,
      ⟨"category", .required⟩, ⟨"available", .required⟩, ⟨"price", .nullable⟩] value
    some {
      segmentRef := ← fields.read? "segment_ref"
      number := ← fields.read? "number"
      category := ← fields.read? "category"
      available := ← fields.read? "available"
      price := ← fields.read? "price" }

instance : Codec ProviderSeatMap where
  encode seatMap := record [("seats", encode seatMap.seats)]
  decode? value := do
    let fields ← gather [⟨"seats", .required⟩] value
    some { seats := ← fields.read? "seats" }

instance : Codec Seat where
  encode seat := record [
    ("segment_ref", encode seat.segmentRef),
    ("number", encode seat.number),
    ("available", encode seat.available),
    ("option_code", encode seat.optionCode)]
  decode? value := do
    let fields ← gather [⟨"segment_ref", .required⟩, ⟨"number", .required⟩,
      ⟨"available", .required⟩, ⟨"option_code", .nullable⟩] value
    some {
      segmentRef := ← fields.read? "segment_ref"
      number := ← fields.read? "number"
      available := ← fields.read? "available"
      optionCode := ← fields.read? "option_code" }

instance : Codec SeatMap where
  encode seatMap :=
    record [("seats", encode seatMap.seats), ("prices", encode seatMap.prices)]
  decode? value := do
    let fields ← gather [⟨"seats", .required⟩, ⟨"prices", .required⟩] value
    some {
      seats := ← fields.read? "seats"
      prices := ← fields.read? "prices" }

instance : Codec PassengerDetails where
  encode details := record [
    ("passenger_ref", encode details.passengerRef),
    ("first_name", encode details.firstName),
    ("last_name", encode details.lastName),
    ("email", encode details.email)]
  decode? value := do
    let fields ← gather [⟨"passenger_ref", .required⟩, ⟨"first_name", .required⟩,
      ⟨"last_name", .required⟩, ⟨"email", .nullable⟩] value
    some {
      passengerRef := ← fields.read? "passenger_ref"
      firstName := ← fields.read? "first_name"
      lastName := ← fields.read? "last_name"
      email := ← fields.read? "email" }

instance : Codec OrderRequest where
  encode request := record [
    ("passengers", encode request.passengers),
    ("selected_options", encode request.selectedOptions)]
  decode? value := do
    let fields ← gather [⟨"passengers", .required⟩, ⟨"selected_options", .required⟩] value
    some {
      passengers := ← fields.read? "passengers"
      selectedOptions := ← fields.read? "selected_options" }

instance : Codec Order where
  encode order := record [
    ("order_id", encode order.orderId),
    ("status", encode order.status),
    ("total", encode order.total)]
  decode? value := do
    let fields ← gather [⟨"order_id", .required⟩, ⟨"status", .required⟩,
      ⟨"total", .required⟩] value
    some {
      orderId := ← fields.read? "order_id"
      status := ← fields.read? "status"
      total := ← fields.read? "total" }

end FareGateway
