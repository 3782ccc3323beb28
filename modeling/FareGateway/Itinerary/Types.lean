import FareGateway.Calendar.Date
import FareGateway.Calendar.Instant
import FareGateway.Dict
import FareGateway.Price

/-!
# Searches, offers, seats and orders

What the gateway and the providers exchange.  The keys of the dictionaries and
the references to them are the provider's own on the way in, and correlation
keys once results are merged.
-/

namespace FareGateway

inductive PassengerType where
  | adult
  | child
  | infant
  deriving DecidableEq, Repr, Inhabited

structure PassengerGroup where
  type : PassengerType
  count : UInt32
  deriving DecidableEq, Repr, Inhabited

structure SearchRequest where
  origin : String
  destination : String
  departure : Date
  returnDate : Option Date
  passengers : List PassengerGroup
  cabin : Option String
  deriving DecidableEq, Repr, Inhabited

structure Segment where
  origin : String
  destination : String
  departure : Instant
  arrival : Instant
  marketingCarrier : String
  flightNumber : String
  deriving DecidableEq, Repr, Inhabited

structure PricePlan where
  name : String
  amenities : List String
  checkedBaggages : UInt32
  deriving DecidableEq, Repr, Inhabited

structure Offer where
  price : Price
  segmentRefs : List String
  pricePlanRefs : List String
  passengerRefs : List String
  expiration : Option Instant
  deriving DecidableEq, Repr, Inhabited

/-- What a search finds.  A combination is an itinerary with the segments it is
flown on. -/
structure SearchResults where
  offers : Dict String Offer := ∅
  segments : Dict String Segment := ∅
  pricePlans : Dict String PricePlan := ∅
  passengers : Dict String PassengerGroup := ∅
  combinations : Dict String (List String) := ∅
  deriving DecidableEq, Inhabited

def SearchResults.isEmpty (results : SearchResults) : Bool := results.offers.isEmpty

/-- The options to price, as option codes. -/
structure PriceRequest where
  selectedOptions : List String
  deriving DecidableEq, Repr, Inhabited

structure PricedOffer where
  offerId : String
  offer : Offer
  deriving DecidableEq, Repr, Inhabited

structure ProviderSeat where
  segmentRef : String
  number : String
  category : String
  available : Bool
  price : Option Price
  deriving DecidableEq, Repr, Inhabited

structure ProviderSeatMap where
  seats : List ProviderSeat
  deriving DecidableEq, Repr, Inhabited

/-- A seat that refers to its price by option code. -/
structure Seat where
  segmentRef : String
  number : String
  available : Bool
  optionCode : Option String
  deriving DecidableEq, Repr, Inhabited

structure SeatMap where
  seats : List Seat
  prices : Dict String Price
  deriving DecidableEq, Inhabited

structure PassengerDetails where
  passengerRef : String
  firstName : String
  lastName : String
  email : Option String
  deriving DecidableEq, Repr, Inhabited

structure OrderRequest where
  passengers : List PassengerDetails
  selectedOptions : List String
  deriving DecidableEq, Repr, Inhabited

inductive OrderStatus where
  | created
  | confirmed
  | failed
  deriving DecidableEq, Repr, Inhabited

structure Order where
  orderId : String
  status : OrderStatus
  total : Price
  deriving DecidableEq, Repr, Inhabited

end FareGateway
