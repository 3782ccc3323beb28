import FareGateway.Text.Cut

/-!
# Organisation ids

An organisation id is the last part of a decentralised identifier of the method
`orgid`, after an optional numeric network.
-/

namespace FareGateway

def isAlphanumeric (c : Char) : Bool := c.isAlpha || c.isDigit

def didBeginning : List Char := "did:orgid:".toList

namespace OrgId

/-- The identifier of an organisation; one that is an identifier already stays
as it is. -/
def toDid? (orgId : String) : Option String :=
  if orgId.isEmpty then none
  else if (afterBeginning? didBeginning orgId.toList).isSome then some orgId
  else some ("did:orgid:" ++ orgId)

def skipNetwork (text : List Char) : List Char :=
  match text.takeWhile Char.isDigit, text.dropWhile Char.isDigit with
  | _ :: _, ':' :: rest => rest
  | _, _ => text

/-- An identifier may end in a fragment, which is any text on one line. -/
def ofDid? (did : String) : Option String := do
  let rest ← afterBeginning? didBeginning did.toList
  let rest := skipNetwork rest
  let orgId := rest.takeWhile isAlphanumeric
  if orgId = [] then none
  else match rest.dropWhile isAlphanumeric with
    | [] => some (String.ofList orgId)
    | '#' :: fragment =>
        if fragment.contains '\n' then none else some (String.ofList orgId)
    | _ => none

end OrgId

end FareGateway
