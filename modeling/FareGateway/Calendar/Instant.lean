/-!
# Instants

A point of UTC time: whole seconds since 1970-01-01, and the nanoseconds that
have passed since.  The nanoseconds always count forward, also before 1970.  A
leap second shares the seconds of the one before it, with at least a whole
second of nanoseconds.
-/

namespace FareGateway

structure Instant where
  seconds : Int
  nanos : Nat
  deriving DecidableEq, Repr, Inhabited

/-- Whole milliseconds since 1970-01-01, toward the past. -/
def Instant.millis (instant : Instant) : Int :=
  instant.seconds * 1000 + (instant.nanos / 1000000 : Nat)

end FareGateway
