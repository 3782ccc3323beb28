/-!
# What a provider call can fail with

Every error names the provider whose call it was.
-/

namespace FareGateway

inductive CallError where
  | failed (provider cause : String)
  | unsupported (provider operation : String)
  | cancelled (provider : String)
  deriving DecidableEq, Repr

namespace CallError

def provider : CallError → String
  | .failed provider _ | .unsupported provider _ | .cancelled provider => provider

def message : CallError → String
  | .failed provider cause => "Provider " ++ provider ++ " failed: " ++ cause
  | .unsupported provider operation =>
      "Provider " ++ provider ++ " does not support " ++ operation
  | .cancelled provider => "Provider " ++ provider ++ " call was cancelled"

end CallError

end FareGateway
