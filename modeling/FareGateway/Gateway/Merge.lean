import FareGateway.Gateway.Origin
import FareGateway.Itinerary.Types
import FareGateway.CodeBook

/-!
# Merging the results of several providers

The results of one provider after the other are put together, entry by entry.
Each id and each reference is replaced by its correlation key as it comes along;
where it has none yet, the table gives it one.

Passengers keep their ids, which come from the request and are shared; of two
entries for one passenger the first stays.
-/

namespace FareGateway

structure Route where
  provider : String
  nativeOfferId : String
  deriving DecidableEq, Repr, Inhabited

/-- The correlation key of an entity, which is named if it has none. -/
def correlationKey (provider : String) (kind : EntityKind) (nativeId : String) :
    StateM Correlation.Table String :=
  modifyGet fun table => table.keyOf (Origin.text ⟨provider, kind, nativeId⟩)

/-- The references by their correlation keys; passengers keep theirs. -/
def Offer.correlated (provider : String) (offer : Offer) :
    StateM Correlation.Table Offer := do
  let segmentRefs ← offer.segmentRefs.mapM (correlationKey provider .segment)
  let pricePlanRefs ← offer.pricePlanRefs.mapM (correlationKey provider .pricePlan)
  return { offer with segmentRefs, pricePlanRefs }

def PricedOffer.correlated (provider : String) (priced : PricedOffer) :
    StateM Correlation.Table PricedOffer := do
  let key ← correlationKey provider .offer priced.offerId
  return ⟨key, ← priced.offer.correlated provider⟩

/-! ## Results -/

structure Merged where
  results : SearchResults := {}
  origins : Dict String String := ∅
  routes : List (String × Route) := []

namespace Merged

def putSegment (merged : Merged) (provider key : String) (segment : Segment) : Merged :=
  { merged with
    results.segments := merged.results.segments.insert key segment
    origins := merged.origins.insert key provider }

def putPricePlan (merged : Merged) (provider key : String) (plan : PricePlan) : Merged :=
  { merged with
    results.pricePlans := merged.results.pricePlans.insert key plan
    origins := merged.origins.insert key provider }

def putCombination (merged : Merged) (provider key : String)
    (segmentRefs : List String) : Merged :=
  { merged with
    results.combinations := merged.results.combinations.insert key segmentRefs
    origins := merged.origins.insert key provider }

def putPassengers (merged : Merged) (passengers : Dict String PassengerGroup) : Merged :=
  { merged with
    results.passengers := merged.results.passengers.insertNew passengers.entries }

def putOffer (merged : Merged) (provider key nativeId : String) (offer : Offer) :
    Merged :=
  { merged with
    results.offers := merged.results.offers.insert key offer
    origins := merged.origins.insert key provider
    routes := merged.routes ++ [(key, ⟨provider, nativeId⟩)] }

def addSegment (provider : String) (merged : Merged) (entry : String × Segment) :
    StateM Correlation.Table Merged := do
  let key ← correlationKey provider .segment entry.1
  return merged.putSegment provider key entry.2

def addPricePlan (provider : String) (merged : Merged) (entry : String × PricePlan) :
    StateM Correlation.Table Merged := do
  let key ← correlationKey provider .pricePlan entry.1
  return merged.putPricePlan provider key entry.2

def addCombination (provider : String) (merged : Merged)
    (entry : String × List String) : StateM Correlation.Table Merged := do
  let key ← correlationKey provider .itinerary entry.1
  let segmentRefs ← entry.2.mapM (correlationKey provider .segment)
  return merged.putCombination provider key segmentRefs

def addOffer (provider : String) (merged : Merged) (entry : String × Offer) :
    StateM Correlation.Table Merged := do
  let key ← correlationKey provider .offer entry.1
  return merged.putOffer provider key entry.1 (← entry.2.correlated provider)

def add (merged : Merged) (provider : String) (results : SearchResults) :
    StateM Correlation.Table Merged := do
  let merged ← results.segments.entries.foldlM (addSegment provider) merged
  let merged ← results.pricePlans.entries.foldlM (addPricePlan provider) merged
  let merged ← results.combinations.entries.foldlM (addCombination provider) merged
  results.offers.entries.foldlM (addOffer provider)
    (merged.putPassengers results.passengers)

end Merged

/-- The results of several providers, each by its id, and the table in which
everything they mention has a key. -/
def mergeResults (table : Correlation.Table)
    (answered : List (String × SearchResults)) : Merged × Correlation.Table :=
  (answered.foldlM (fun (merged : Merged) entry => merged.add entry.1 entry.2) {}).run table

/-! ## Seat maps -/

def ProviderSeatMap.shownPrices (seatMap : ProviderSeatMap) : List (String × Price) :=
  seatMap.seats.filterMap fun seat => seat.price.map (seat.category, ·)

/-- Seats that share a price refer to one entry of the price dictionary. -/
def ProviderSeatMap.correlated (provider : String) (seatMap : ProviderSeatMap) :
    StateM Correlation.Table SeatMap := do
  let book := (CodeBook.empty.addAll seatMap.shownPrices).2
  let seats ← seatMap.seats.mapM fun seat => do
    let segmentRef ← correlationKey provider .segment seat.segmentRef
    return {
      segmentRef
      number := seat.number
      available := seat.available
      optionCode := seat.price.map fun price => (book.add seat.category price).1 }
  return { seats, prices := Dict.ofList book.prices }

end FareGateway
