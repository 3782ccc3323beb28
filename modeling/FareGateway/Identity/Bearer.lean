import FareGateway.Calendar.Instant
import FareGateway.Identity.Issuer
import FareGateway.Json.Codec
import FareGateway.Json.Soundness
import FareGateway.Text.Base64Url
import FareGateway.Text.Utf8

/-!
# Bearer tokens

The claims of the token in an authorization header.  The token has three parts
with points between them; the first is a JSON object, the second the claims, and
the third, a signature, is not looked at here.

The faults are reported in the order in which a reader meets them: the shape of
the header, the parts, their encoding, the issuer, the audience, the expiry.
-/

namespace FareGateway

inductive TokenFault where
  | partCount
  | encoding
  | headerSyntax
  | headerNotObject
  | claimsSyntax
  | noAudience
  | expiryRange (seconds : Binary64)
  deriving DecidableEq, Repr

inductive IdentityError where
  | malformedHeader
  | badToken (fault : TokenFault)
  | badIssuer (issuer : String)
  | badOrgId (orgId : String)
  deriving DecidableEq, Repr

def TokenFault.message : TokenFault → String
  | .partCount => "JWT must have 3 parts"
  | .encoding => "base64 decode failed"
  | .headerSyntax => "header JSON parse failed"
  | .headerNotObject => "header is not a JSON object"
  | .claimsSyntax => "claims JSON parse failed"
  | .noAudience => "empty audience"
  | .expiryRange seconds =>
      "exp out of range: " ++ (if seconds.isNegative then "-" else "") ++
        String.ofList seconds.shortest.positional

def IdentityError.message : IdentityError → String
  | .malformedHeader => "Missing or invalid bearer token"
  | .badToken fault => "Cannot decode JWT token: " ++ fault.message
  | .badIssuer issuer => "Invalid issuer format: " ++ issuer
  | .badOrgId orgId => "Invalid ORGiD: " ++ orgId

structure Claims where
  issuer : Issuer
  audience : String
  expiry : Instant
  deriving DecidableEq, Repr, Inhabited

/-! ## Organisation ids -/

def OrgId.toDid (orgId : String) : Except IdentityError String :=
  match toDid? orgId with
  | some did => .ok did
  | none => .error (.badOrgId "missing ORGiD")

def OrgId.ofDid (did : String) : Except IdentityError String :=
  match ofDid? did with
  | some orgId => .ok orgId
  | none => .error (.badOrgId did)

/-! ## Tokens -/

namespace Bearer

/-- The token after the scheme and one space; it holds no space itself. -/
def token? (header : String) : Option (List Char) := do
  let token ← afterBeginning? "Bearer ".toList header.toList
  if token = [] ∨ ' ' ∈ token then none else some token

def parts? (token : List Char) : Option (List Char × List Char × List Char) := do
  let (first, rest) ← cut '.' token
  let (second, third) ← cut '.' rest
  if '.' ∈ third then none else some (first, second, third)

/-- The bytes of a part, with or without padding at the end. -/
def partBytes? (part : List Char) : Option (List UInt8) :=
  Base64Url.decode? (part.reverse.dropWhile fun c => c = '=').reverse

/-- The deepest nesting of a header. -/
def depthLimit : Nat := 127

def headerOf? (bytes : List UInt8) : Option Json.Value := do
  let value ← Json.parse? (glyphsOf bytes)
  if value.isSound ∧ value.depth ≤ depthLimit then some value else none

structure RawClaims where
  issuer : String
  audiences : List String
  expiry : Binary64
  deriving DecidableEq, Repr

/-- An audience is one text or a list of them. -/
def audiences? : Json.Value → Option (List String)
  | .string units => (Json.textOf? units).map ([·])
  | value => Json.decode? value

def claimsOf? (bytes : List UInt8) : Option RawClaims := do
  let value ← Json.parse? (glyphsOf bytes)
  let fields ← Json.gather [⟨"iss", .required⟩, ⟨"aud", .required⟩,
    ⟨"exp", .required⟩] value
  some {
    issuer := ← fields.read? "iss"
    audiences := ← (Entries.get? "aud" fields).bind audiences?
    expiry := ← fields.read? "exp" }

/-- The seconds since 1970 that an instant can hold. -/
def firstSecond : Int := -8334601228800

def lastSecond : Int := 8210266876799

def expiryOf? (seconds : Binary64) : Option Instant :=
  if seconds.isFinite ∧ firstSecond ≤ seconds.truncate ∧
      seconds.truncate ≤ lastSecond then
    some ⟨seconds.truncate, 0⟩
  else none

def orFault {α : Type} (fault : IdentityError) :
    Option α → Except IdentityError α
  | some value => .ok value
  | none => .error fault

def rawClaims (token : List Char) : Except IdentityError RawClaims := do
  let (first, second, _) ← orFault (.badToken .partCount) (parts? token)
  let headerBytes ← orFault (.badToken .encoding) (partBytes? first)
  let header ← orFault (.badToken .headerSyntax) (headerOf? headerBytes)
  match header with
  | .object _ => pure ()
  | _ => throw (.badToken .headerNotObject)
  let claimsBytes ← orFault (.badToken .encoding) (partBytes? second)
  orFault (.badToken .claimsSyntax) (claimsOf? claimsBytes)

def decode (header : String) : Except IdentityError Claims := do
  let token ← orFault .malformedHeader (token? header)
  let raw ← rawClaims token
  let issuer ← orFault (.badIssuer raw.issuer) (Issuer.ofText? raw.issuer)
  let audience ← orFault (.badToken .noAudience) raw.audiences.head?
  let expiry ← orFault (.badToken (.expiryRange raw.expiry)) (expiryOf? raw.expiry)
  pure ⟨issuer, audience, expiry⟩

end Bearer

end FareGateway
