import FareGateway.Gateway.Basic

/-!
# Calls on an offer

Pricing, seat maps and orders go to the provider that made the offer, as long as
its route is alive.  A priced offer is a new offer of that provider: it gets a
key and a route of its own.

The provider has a limited time to answer.  An answer without delay is in time
even when there is no time at all.  When the time is up the call is dropped, so
the provider is not there any more to notice.
-/

namespace FareGateway

namespace Reply

variable {α : Type}

/-- Whether the answer is there before the time has elapsed, in the documented wording of
the runtime's timeout: an answer that takes some time, and exactly as much as is given, is
late.  Nothing but the wording settles this tie.  The timeout polls a call of its own before
its deadline, so an answer without delay is in time even when there is no time at all, and a
runtime that wakes both at one moment may let the tie pass too. -/
def isInTime (reply : Reply α) (timeout : Nat) : Bool :=
  reply.delay = 0 || decide (reply.delay < timeout)

def waitMs (reply : Reply α) (timeout : Nat) : Nat :=
  if reply.isInTime timeout then reply.delay else timeout

def outcome (reply : Reply α) (provider : String) (timeout : Nat) :
    Except GatewayError α :=
  if reply.isInTime timeout then
    (reply.answer.result provider).mapError .provider
  else .error (.timedOut provider timeout)

end Reply

namespace Gateway

/-- The live route of an offer, and the provider at its end.  Looking counts as
a use of the route cache. -/
def locate (gateway : Gateway) (key : String) :
    Except GatewayError (Route × Provider) × Gateway :=
  let (found, gateway) := gateway.getRoute key
  (match found with
    | none => .error (.unknownOffer key)
    | some route =>
        match gateway.registry.get? route.provider with
        | none => .error (.notRegistered route.provider)
        | some provider => .ok (route, provider),
    gateway)

def receive {α β : Type} (outcome : Except GatewayError α)
    (accept : α → Gateway → β × Gateway) (gateway : Gateway) :
    Except GatewayError β × Gateway :=
  match outcome with
  | .error error => (.error error, gateway)
  | .ok value =>
      let (accepted, gateway) := accept value gateway
      (.ok accepted, gateway)

/-- Asks the provider of an offer, and waits for its answer. -/
def consult {α β : Type} (gateway : Gateway) (key : String) (call : String → Call)
    (ask : Provider → Reply α × Provider)
    (accept : Route → α → Gateway → β × Gateway) : Step β :=
  match gateway.locate key with
  | (.error error, gateway) => { result := .error error, gateway }
  | (.ok (route, provider), gateway) =>
      let (reply, provider) := ask provider
      let timeout := gateway.settings.followUpTimeoutMs.toNat
      let asked := { gateway with
        registry := gateway.registry.update route.provider provider }
      let (result, after) := asked.waitThen (reply.waitMs timeout)
        (receive (reply.outcome route.provider timeout) (accept route))
      { result
        calls := [{
          provider := route.provider
          call := call route.nativeOfferId
          cancelled := !reply.isInTime timeout
          noticed := false }]
        gateway := after }

def onTable {α : Type} (gateway : Gateway) (act : StateM Correlation.Table α) :
    α × Gateway :=
  let (result, table) := act.run gateway.table
  (result, { gateway with table })

def price (gateway : Gateway) (key : String) (request : PriceRequest) :
    Step PricedOffer :=
  gateway.consult key (.price · request) Provider.replyPrice
    fun route native gateway =>
      let (priced, gateway) := gateway.onTable (native.correlated route.provider)
      (priced, gateway.putRoute priced.offerId ⟨route.provider, native.offerId⟩)

def seatMap (gateway : Gateway) (key : String) : Step SeatMap :=
  gateway.consult key .seatMap Provider.replySeatMap
    fun route native gateway => gateway.onTable (native.correlated route.provider)

def order (gateway : Gateway) (key : String) (request : OrderRequest) : Step Order :=
  gateway.consult key (.order · request) Provider.replyOrder
    fun _ order gateway => (order, gateway)

end Gateway

end FareGateway
