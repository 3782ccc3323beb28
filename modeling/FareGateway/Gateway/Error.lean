import FareGateway.Provider.CallError
import FareGateway.Provider.Registry

/-!
# What the gateway can fail with

A failed search tells why every provider failed; a failed call on an offer tells
why its one provider could not be asked or did not answer.
-/

namespace FareGateway

inductive Diagnostic.Cause where
  | error (error : CallError)
  | timedOut (afterMs : Nat)
  deriving DecidableEq, Repr

structure Diagnostic where
  provider : String
  cause : Diagnostic.Cause
  deriving DecidableEq, Repr

def Diagnostic.message (diagnostic : Diagnostic) : String :=
  diagnostic.provider ++ ": " ++ match diagnostic.cause with
    | .error error => error.message
    | .timedOut afterMs => "timed out after " ++ toString afterMs ++ "ms"

inductive GatewayError where
  | noProviders
  | noResults (causes : List Diagnostic)
  | unknownOffer (key : String)
  | notRegistered (provider : String)
  | timedOut (provider : String) (afterMs : Nat)
  | provider (error : CallError)
  | registry (error : RegistrationError)
  deriving DecidableEq, Repr

def GatewayError.message : GatewayError → String
  | .noProviders => "No flight providers configured"
  | .noResults causes => "No results available, all " ++ toString causes.length ++
      " provider(s) failed or timed out"
  | .unknownOffer key => "Offer expired or not found: " ++ key
  | .notRegistered id => "Provider " ++ id ++ " is not registered"
  | .timedOut id afterMs => "Provider " ++ id ++
      " did not answer within " ++ toString afterMs ++ "ms"
  | .provider error => error.message
  | .registry error => error.message

end FareGateway
