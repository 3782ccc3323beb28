import FareGateway.Gateway.OfferCalls
import FareGateway.Gateway.Search

/-!
# Using a gateway over time

A session is a list of actions: searches and follow-up calls, looking at and
changing names and routes by hand, waiting, and setting the gateway up anew.
Every action has a response, the provider calls that it made, and the gateway
after it.
-/

namespace FareGateway

inductive Action where
  | search (request : SearchRequest)
  | searchAmong (request : SearchRequest) (participants : List Participant)
      (timeout : Nat)
  | price (key : String) (request : PriceRequest)
  | seatMap (key : String)
  | order (key : String) (request : OrderRequest)
  | originOf (key : String)
  | keyOf (nativeKey : String)
  | resetNames
  | replaceNames (pairs : List (String × String))
  | putRoute (key : String) (route : Route)
  | getRoute (key : String)
  | removeRoute (key : String)
  | routeCount
  | startSweeping
  | wait (ms : Nat)
  | rebuild (providers : List (String × Provider)) (settings : Settings)

inductive Response where
  | done
  | report (result : Except GatewayError SearchReport)
  | priced (result : Except GatewayError PricedOffer)
  | seats (result : Except GatewayError SeatMap)
  | ordered (result : Except GatewayError Order)
  | origin (result : Except Correlation.Error Origin)
  | key (key : String)
  | pairs (pairs : List (String × String))
  | route (route : Option Route)
  | count (n : Nat)
  | registered (outcomes : List (Except RegistrationError Unit))

structure Performed where
  response : Response
  calls : List CallRecord := []
  gateway : Gateway

def Step.performed {α : Type} (step : Step α)
    (response : Except GatewayError α → Response) : Performed :=
  ⟨response step.result, step.calls, step.gateway⟩

namespace Gateway

def perform (gateway : Gateway) : Action → Performed
  | .search request => (gateway.search request).performed .report
  | .searchAmong request participants timeout =>
      (gateway.searchAmong request participants timeout).performed .report
  | .price key request => (gateway.price key request).performed .priced
  | .seatMap key => (gateway.seatMap key).performed .seats
  | .order key request => (gateway.order key request).performed .ordered
  | .originOf key => { response := .origin (gateway.originOf key), gateway }
  | .keyOf nativeKey =>
      let (key, table) := gateway.table.keyOf nativeKey
      { response := .key key, gateway := { gateway with table } }
  | .resetNames =>
      let (pairs, gateway) := gateway.resetNames
      { response := .pairs pairs, gateway }
  | .replaceNames pairs =>
      { response := .done
        gateway := { gateway with table := gateway.table.replace pairs } }
  | .putRoute key route => { response := .done, gateway := gateway.putRoute key route }
  | .getRoute key =>
      let (route, gateway) := gateway.getRoute key
      { response := .route route, gateway }
  | .removeRoute key =>
      let (route, gateway) := gateway.removeRoute key
      { response := .route route, gateway }
  | .routeCount =>
      let (n, gateway) := gateway.routeCount
      { response := .count n, gateway }
  | .startSweeping => { response := .done, gateway := gateway.startSweeping }
  | .wait ms => { response := .done, gateway := gateway.wait ms }
  | .rebuild providers settings =>
      let (outcomes, registry) := Registry.empty.registerAll providers
      { response := .registered outcomes
        gateway := gateway.rebuild registry settings }

def run (gateway : Gateway) : List Action → List Performed
  | [] => []
  | action :: actions =>
      let performed := gateway.perform action
      performed :: performed.gateway.run actions

end Gateway

end FareGateway
