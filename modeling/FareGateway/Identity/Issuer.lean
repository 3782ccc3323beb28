import FareGateway.Identity.OrgId
import FareGateway.Text.Word

/-!
# Token issuers

An issuer is named by a decentralised identifier with a 32-byte address, and
optionally by the fragment that names one of its keys.
-/

namespace FareGateway

structure Issuer where
  network : Option String
  /-- The 64 hexadecimal digits of the address. -/
  address : String
  fragment : Option String
  deriving DecidableEq, Repr, Inhabited

def isHexadecimal (c : Char) : Bool :=
  c.isDigit || ('a' ≤ c && c ≤ 'f') || ('A' ≤ c && c ≤ 'F')

namespace Issuer

def orgId (issuer : Issuer) : String := "0x" ++ issuer.address

def did (issuer : Issuer) : String :=
  "did:orgid:" ++ (match issuer.network with
    | some network => network ++ ":"
    | none => "") ++ issuer.orgId

def text (issuer : Issuer) : String :=
  issuer.did ++ match issuer.fragment with
    | some fragment => "#" ++ fragment
    | none => ""

def splitNetwork (text : List Char) : Option String × List Char :=
  match text.takeWhile isAlphanumeric, text.dropWhile isAlphanumeric with
  | c :: network, ':' :: rest => (some (String.ofList (c :: network)), rest)
  | _, _ => (none, text)

/-- Nothing, or a number sign and a word. -/
def fragmentOf? : List Char → Option (Option String)
  | [] => some none
  | '#' :: fragment =>
      if fragment ≠ [] ∧ fragment.all isWord then
        some (some (String.ofList fragment))
      else none
  | _ => none

def ofText? (text : String) : Option Issuer := do
  let rest ← afterBeginning? didBeginning text.toList
  let (network, rest) := splitNetwork rest
  let rest ← afterBeginning? ['0', 'x'] rest
  let address := rest.take 64
  if address.length = 64 ∧ address.all isHexadecimal then
    let fragment ← fragmentOf? (rest.drop 64)
    some ⟨network, String.ofList address, fragment⟩
  else none

end Issuer

end FareGateway
