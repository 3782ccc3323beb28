import FareGateway.Gateway.Error
import FareGateway.Gateway.Merge
import FareGateway.Provider.Script
import FareGateway.Settings
import FareGateway.TimedCache.Sweeper

/-!
# The gateway

A gateway holds the providers it can ask, the correlation table, and the routes
from offers to the providers that made them.  Names are permanent, routes
expire.

Time passes only while a call or the caller waits.  What the gateway does at the
end of such a wait comes before the ticks of the sweepers at that same moment,
except at the end of a search that all providers have answered: the last answer
reaches it only after those ticks.
-/

namespace FareGateway

structure Gateway where
  registry : Registry Provider
  settings : Settings
  table : Correlation.Table
  routes : SweptCache String Route
  now : Nat := 0

inductive Call where
  | search (request : SearchRequest)
  | price (nativeOfferId : String) (request : PriceRequest)
  | seatMap (nativeOfferId : String)
  | order (nativeOfferId : String) (request : OrderRequest)
  deriving DecidableEq, Repr

/-- A call that was made, whether the gateway gave it up, and whether the
provider noticed. -/
structure CallRecord where
  provider : String
  call : Call
  cancelled : Bool
  noticed : Bool
  deriving DecidableEq, Repr

/-- What an operation answers, the calls it made, and the gateway after it. -/
structure Step (α : Type) where
  result : Except GatewayError α
  calls : List CallRecord := []
  gateway : Gateway

namespace Gateway

def new (registry : Registry Provider) (settings : Settings)
    (table : Correlation.Table) : Gateway :=
  { registry, settings, table, routes := { cache := { ttl := settings.routeTtlMs } } }

def rebuild (gateway : Gateway) (registry : Registry Provider) (settings : Settings) :
    Gateway :=
  { gateway with registry, settings }

/-! ## Time -/

/-- The ticks of a wait, the moment at its end included. -/
def wait (gateway : Gateway) (ms : Nat) : Gateway :=
  { gateway with
    now := gateway.now + ms
    routes := gateway.routes.sweep gateway.now (gateway.now + ms) }

/-- A wait with an action at its end, before the ticks of that moment. -/
def waitThen {α : Type} (gateway : Gateway) (ms : Nat)
    (act : Gateway → α × Gateway) : α × Gateway :=
  if ms = 0 then act gateway
  else
    let last := gateway.now + ms
    let (result, after) := act { gateway.wait (ms - 1) with now := last }
    (result, { after with routes := after.routes.sweep (last - 1) last })

def startSweeping (gateway : Gateway) : Gateway :=
  { gateway with
    routes := gateway.routes.startSweeper gateway.now gateway.settings.cleanupIntervalMs }

/-! ## Routes -/

def putRoute (gateway : Gateway) (key : String) (route : Route) : Gateway :=
  { gateway with
    routes := { gateway.routes with
      cache := gateway.routes.cache.put gateway.now key route } }

def putRoutes (gateway : Gateway) (routes : List (String × Route)) : Gateway :=
  routes.foldl (fun gateway entry => gateway.putRoute entry.1 entry.2) gateway

def onRoutes {α : Type} (gateway : Gateway)
    (act : TimedCache String Route → Nat → α × TimedCache String Route) :
    α × Gateway :=
  let (result, routes) := gateway.routes.update fun cache => act cache gateway.now
  (result, { gateway with routes })

def getRoute (gateway : Gateway) (key : String) : Option Route × Gateway :=
  gateway.onRoutes fun cache now => cache.get now key

def removeRoute (gateway : Gateway) (key : String) : Option Route × Gateway :=
  gateway.onRoutes fun cache now => cache.remove now key

def routeCount (gateway : Gateway) : Nat × Gateway :=
  gateway.onRoutes fun cache now => cache.size now

/-! ## Names -/

def originOf (gateway : Gateway) (key : String) : Except Correlation.Error Origin :=
  Origin.ofKey gateway.table key

/-- Forgets all names, and gives them to the caller to keep. -/
def resetNames (gateway : Gateway) : List (String × String) × Gateway :=
  (gateway.table.pairs, { gateway with table := gateway.table.replace [] })

end Gateway

end FareGateway
