import FareGateway.Dict
import FareGateway.Text.Quoted

/-!
# Provider registries

Providers by id, in the order of registration, which is the order in which they
are asked and in which their results are merged.  An id is registered once.
-/

namespace FareGateway

inductive RegistrationError where
  | duplicate (provider : String)
  deriving DecidableEq, Repr

def RegistrationError.message : RegistrationError → String
  | .duplicate provider => "Provider " ++ provider ++ " is already registered"

structure Registry (ρ : Type) where
  providers : Dict String ρ := ∅

namespace Registry

variable {ρ : Type}

def empty : Registry ρ := {}

def size (registry : Registry ρ) : Nat := registry.providers.size

def isEmpty (registry : Registry ρ) : Bool := registry.providers.isEmpty

def ids (registry : Registry ρ) : List String := registry.providers.keys

def get? (registry : Registry ρ) (id : String) : Option ρ := registry.providers.get? id

def register (registry : Registry ρ) (id : String) (provider : ρ) :
    Except RegistrationError (Registry ρ) :=
  if registry.providers.contains id then .error (.duplicate id)
  else .ok ⟨registry.providers.insert id provider⟩

def update (registry : Registry ρ) (id : String) (provider : ρ) : Registry ρ :=
  if registry.providers.contains id then ⟨registry.providers.insert id provider⟩
  else registry

/-- Registers providers in turn, passing over those that are refused. -/
def registerAll (registry : Registry ρ) :
    List (String × ρ) → List (Except RegistrationError Unit) × Registry ρ
  | [] => ([], registry)
  | (id, provider) :: rest =>
      match registry.register id provider with
      | .ok registry =>
          let (outcomes, registry) := registry.registerAll rest
          (.ok () :: outcomes, registry)
      | .error error =>
          let (outcomes, registry) := registry.registerAll rest
          (.error error :: outcomes, registry)

def summary (registry : Registry ρ) : String :=
  "[" ++ ", ".intercalate (registry.ids.map quoted) ++ "]"

end Registry

end FareGateway
