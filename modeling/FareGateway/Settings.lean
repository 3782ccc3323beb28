import FareGateway.Json.Codec

/-!
# Gateway settings

The waiting times of the gateway.  A document may leave out any field, which
then keeps its default, and every time must be positive; of several that are
not, the first in the order of the fields is reported.
-/

namespace FareGateway

structure Settings where
  searchTimeoutMs : UInt64 := 60000
  /-- How long a provider has for pricing, seat map or order. -/
  followUpTimeoutMs : UInt64 := 60000
  routeTtlSeconds : UInt64 := 1800
  cleanupIntervalSeconds : UInt64 := 60
  deriving DecidableEq, Repr, Inhabited

inductive SettingsError where
  | unreadable
  | zero (field : String)
  deriving DecidableEq, Repr

def SettingsError.message : SettingsError → String
  | .unreadable => "Configuration parse error"
  | .zero field => "Invalid configuration value for " ++ field ++
      ": must be greater than zero"

namespace Settings

open Json

instance : Codec Settings where
  encode settings := record [
    ("search_timeout_ms", encode settings.searchTimeoutMs),
    ("follow_up_timeout_ms", encode settings.followUpTimeoutMs),
    ("offer_route_ttl_seconds", encode settings.routeTtlSeconds),
    ("cleanup_interval_seconds", encode settings.cleanupIntervalSeconds)]
  decode? value := do
    let fields ← gather [⟨"search_timeout_ms", .defaulted⟩,
      ⟨"follow_up_timeout_ms", .defaulted⟩, ⟨"offer_route_ttl_seconds", .defaulted⟩,
      ⟨"cleanup_interval_seconds", .defaulted⟩] value
    let initial : Settings := {}
    some {
      searchTimeoutMs := ←
        fields.readD? "search_timeout_ms" initial.searchTimeoutMs
      followUpTimeoutMs := ←
        fields.readD? "follow_up_timeout_ms" initial.followUpTimeoutMs
      routeTtlSeconds := ←
        fields.readD? "offer_route_ttl_seconds" initial.routeTtlSeconds
      cleanupIntervalSeconds := ←
        fields.readD? "cleanup_interval_seconds" initial.cleanupIntervalSeconds }

def firstZero? (settings : Settings) : Option String :=
  if settings.searchTimeoutMs = 0 then some "search_timeout_ms"
  else if settings.followUpTimeoutMs = 0 then some "follow_up_timeout_ms"
  else if settings.routeTtlSeconds = 0 then some "offer_route_ttl_seconds"
  else if settings.cleanupIntervalSeconds = 0 then some "cleanup_interval_seconds"
  else none

def isValid (settings : Settings) : Bool := settings.firstZero?.isNone

def ofText (text : String) : Except SettingsError Settings :=
  match (read? text : Option Settings) with
  | none => .error .unreadable
  | some settings =>
      match settings.firstZero? with
      | some field => .error (.zero field)
      | none => .ok settings

def routeTtlMs (settings : Settings) : Nat := settings.routeTtlSeconds.toNat * 1000

def cleanupIntervalMs (settings : Settings) : Nat :=
  settings.cleanupIntervalSeconds.toNat * 1000

end Settings

end FareGateway
