import FareGateway.Proofs.BearerTokens

/-!
# The credentials that are accepted

A header is accepted exactly when each layer of it is well formed: the scheme and
the token, the three parts, the Base64 of the first two, the texts in them, the
issuer and the date.  Decoding stops at the first layer that is not, and only the
outermost one makes a header malformed.
-/

namespace FareGateway

namespace Bearer

/-! ## Where decoding stops -/

theorem expiryOf?_eq_some_iff {seconds : Binary64} {expiry : Instant} :
    expiryOf? seconds = some expiry ↔
      (seconds.isFinite ∧ firstSecond ≤ seconds.truncate ∧ seconds.truncate ≤ lastSecond) ∧
        expiry = ⟨seconds.truncate, 0⟩ := by
  rw [expiryOf?, Option.ite_none_right_eq_some, Option.some.injEq, eq_comm (a := expiry)]

theorem bind_orFault_eq_ok_iff {α β : Type} {fault : IdentityError} {found : Option α}
    {next : α → Except IdentityError β} {result : β} :
    (orFault fault found >>= next) = .ok result ↔
      ∃ value, found = some value ∧ next value = .ok result := by
  cases found <;> simp [orFault, bind, Except.bind]

theorem bind_orFault_eq_error_iff {α β : Type} {fault other : IdentityError}
    {found : Option α} {next : α → Except IdentityError β} :
    (orFault fault found >>= next) = .error other ↔
      found = none ∧ fault = other ∨ ∃ value, found = some value ∧ next value = .error other := by
  cases found <;> simp [orFault, bind, Except.bind]

theorem orFault_eq_ok_iff {α : Type} {fault : IdentityError} {found : Option α} {value : α} :
    orFault fault found = .ok value ↔ found = some value := by
  cases found <;> simp [orFault]

theorem rawClaims_eq_ok_iff {token : List Char} {raw : RawClaims} :
    rawClaims token = .ok raw ↔
      ∃ first second third headerBytes members claimsBytes,
        parts? token = some (first, second, third) ∧ partBytes? first = some headerBytes ∧
        headerOf? headerBytes = some (.object members) ∧
        partBytes? second = some claimsBytes ∧ claimsOf? claimsBytes = some raw := by
  constructor
  · intro h
    obtain ⟨⟨first, second, third⟩, hparts, h⟩ := bind_orFault_eq_ok_iff.mp h
    obtain ⟨headerBytes, hfirst, h⟩ := bind_orFault_eq_ok_iff.mp h
    obtain ⟨header, hheader, h⟩ := bind_orFault_eq_ok_iff.mp h
    cases header with
    | object members =>
        obtain ⟨claimsBytes, hsecond, h⟩ := bind_orFault_eq_ok_iff.mp h
        exact ⟨first, second, third, headerBytes, members, claimsBytes, hparts, hfirst,
          hheader, hsecond, orFault_eq_ok_iff.mp h⟩
    | _ => cases h
  · rintro ⟨first, second, third, headerBytes, members, claimsBytes, hparts, hfirst,
      hheader, hsecond, hclaims⟩
    exact rawClaims_of_parts hparts hfirst hheader hsecond hclaims

theorem rawClaims_ne_malformedHeader (token : List Char) :
    rawClaims token ≠ .error .malformedHeader := by
  intro h
  rcases bind_orFault_eq_error_iff.mp h with ⟨-, hfault⟩ | ⟨⟨first, second, third⟩, -, h⟩
  · cases hfault
  rcases bind_orFault_eq_error_iff.mp h with ⟨-, hfault⟩ | ⟨headerBytes, -, h⟩
  · cases hfault
  rcases bind_orFault_eq_error_iff.mp h with ⟨-, hfault⟩ | ⟨header, -, h⟩
  · cases hfault
  cases header with
  | object members =>
      rcases bind_orFault_eq_error_iff.mp h with ⟨-, hfault⟩ | ⟨claimsBytes, -, h⟩
      · cases hfault
      cases hclaims : claimsOf? claimsBytes with
      | none => cases (hclaims ▸ h)
      | some raw => cases (hclaims ▸ h)
  | _ => cases h

theorem decode_eq_ok_iff {header : String} {claims : Claims} :
    decode header = .ok claims ↔
      ∃ token raw, token? header = some token ∧ rawClaims token = .ok raw ∧
        Issuer.ofText? raw.issuer = some claims.issuer ∧
        raw.audiences.head? = some claims.audience ∧
        expiryOf? raw.expiry = some claims.expiry := by
  constructor
  · intro h
    obtain ⟨token, htoken, h⟩ := bind_orFault_eq_ok_iff.mp h
    cases hraw : rawClaims token with
    | error fault => simp [hraw, bind, Except.bind] at h
    | ok raw =>
        rw [hraw] at h
        obtain ⟨issuer, hissuer, h⟩ := bind_orFault_eq_ok_iff.mp h
        obtain ⟨audience, haudience, h⟩ := bind_orFault_eq_ok_iff.mp h
        obtain ⟨expiry, hexpiry, h⟩ := bind_orFault_eq_ok_iff.mp h
        cases h
        exact ⟨token, raw, htoken, hraw, hissuer, haudience, hexpiry⟩
  · rintro ⟨token, raw, htoken, hraw, hissuer, haudience, hexpiry⟩
    exact decode_of_rawClaims htoken hraw hissuer haudience hexpiry

theorem decode_eq_malformedHeader_iff {header : String} :
    decode header = .error .malformedHeader ↔ token? header = none := by
  constructor
  · intro h
    rcases bind_orFault_eq_error_iff.mp h with ⟨hnone, -⟩ | ⟨token, htoken, h⟩
    · exact hnone
    cases hraw : rawClaims token with
    | error fault =>
        rw [hraw] at h
        cases h
        exact absurd hraw (rawClaims_ne_malformedHeader token)
    | ok raw =>
        rw [hraw] at h
        rcases bind_orFault_eq_error_iff.mp h with ⟨-, hfault⟩ | ⟨issuer, -, h⟩
        · cases hfault
        rcases bind_orFault_eq_error_iff.mp h with ⟨-, hfault⟩ | ⟨audience, -, h⟩
        · cases hfault
        rcases bind_orFault_eq_error_iff.mp h with ⟨-, hfault⟩ | ⟨expiry, -, h⟩
        · cases hfault
        · cases h
  · intro h
    simp only [decode, h, orFault, bind, Except.bind]

/-! ## The headers that are accepted -/

/-- The scheme, one space and a token without spaces. -/
def IsBearer (header token : String) : Prop :=
  header = "Bearer " ++ token ∧ token ≠ "" ∧ ' ' ∉ token.toList

/-- Three parts with points between them, the first two of these bytes. -/
def HasParts (token : String) (header claims : List UInt8) : Prop :=
  ∃ first second third, token.toList = first ++ '.' :: (second ++ '.' :: third) ∧
    ('.' ∉ first ∧ '.' ∉ second ∧ '.' ∉ third) ∧ IsPart first header ∧ IsPart second claims

/-- The bytes tell the claims, with the expiry cut to a second that an instant can
hold. -/
def Tells (bytes : List UInt8) (claims : Claims) : Prop :=
  ∃ value seconds, Json.IsTextOf (glyphsOf bytes) value ∧
    TellsClaims value claims.issuer.text claims.audience seconds ∧ claims.issuer.IsProper ∧
    (seconds.isFinite ∧ firstSecond ≤ seconds.truncate ∧ seconds.truncate ≤ lastSecond) ∧
    claims.expiry = ⟨seconds.truncate, 0⟩

theorem token?_iff_isBearer {header token : String} :
    token? header = some token.toList ↔ IsBearer header token := by
  rw [token?_eq_some_iff, IsBearer, ← String.toList_append, String.toList_inj, ne_eq, ne_eq,
    String.toList_eq_nil_iff]

theorem rawClaims_iff_tells {token : String} {claims : Claims} :
    (∃ raw, rawClaims token.toList = .ok raw ∧
        Issuer.ofText? raw.issuer = some claims.issuer ∧
        raw.audiences.head? = some claims.audience ∧
        expiryOf? raw.expiry = some claims.expiry) ↔
      ∃ headerBytes members claimsBytes, HasParts token headerBytes claimsBytes ∧
        IsHeaderOf headerBytes (.object members) ∧ Tells claimsBytes claims := by
  simp only [rawClaims_eq_ok_iff, parts?_eq_some_iff, partBytes?_eq_some_iff,
    headerOf?_eq_some_iff, Issuer.ofText?_eq_some_iff, expiryOf?_eq_some_iff]
  constructor
  · rintro ⟨⟨issuer, audiences, seconds⟩, ⟨first, second, third, headerBytes, members,
      claimsBytes, ⟨htoken, hpoints⟩, hfirst, hheader, hsecond, hclaims⟩, ⟨hissuer, rfl⟩,
      haudience, hexpiry⟩
    obtain ⟨others, rfl⟩ := List.head?_eq_some_iff.mp haudience
    obtain ⟨value, htext, htells⟩ := claimsOf?_iff_tellsClaims.mp ⟨others, hclaims⟩
    exact ⟨headerBytes, members, claimsBytes, ⟨first, second, third, htoken, hpoints, hfirst,
      hsecond⟩, hheader, value, seconds, htext, htells, hissuer, hexpiry⟩
  · rintro ⟨headerBytes, members, claimsBytes, ⟨first, second, third, htoken, hpoints, hfirst,
      hsecond⟩, hheader, value, seconds, htext, htells, hissuer, hexpiry⟩
    obtain ⟨others, hclaims⟩ := claimsOf?_iff_tellsClaims.mpr ⟨value, htext, htells⟩
    exact ⟨_, ⟨first, second, third, headerBytes, members, claimsBytes, ⟨htoken, hpoints⟩,
      hfirst, hheader, hsecond, hclaims⟩, ⟨hissuer, rfl⟩, rfl, hexpiry⟩

/--
Nothing but a well-formed credential is accepted.  A header is malformed exactly when
it is not the scheme with one token.  It is accepted, with these claims, exactly when
the token has three parts, the first the bytes of an object and the second the bytes
of a value that tells the claims.  The issuers that are read are the well-formed ones,
each from its own text, and no identifier has a number sign in it.
-/
theorem only_credentials_are_accepted :
    (∀ header, decode header = .error .malformedHeader ↔ ¬∃ token, IsBearer header token) ∧
    (∀ header claims, decode header = .ok claims ↔
      ∃ token headerBytes members claimsBytes, IsBearer header token ∧
        HasParts token headerBytes claimsBytes ∧
        IsHeaderOf headerBytes (.object members) ∧ Tells claimsBytes claims) ∧
    (∀ text issuer, Issuer.ofText? text = some issuer ↔
      issuer.IsProper ∧ text = issuer.text) ∧
    (∀ issuer : Issuer, issuer.IsProper → '#' ∉ issuer.did.toList) := by
  refine ⟨fun header => ?malformed, fun header claims => ?accepted,
    fun _ _ => Issuer.ofText?_eq_some_iff, fun _ h => h.mark_not_mem_did⟩
  case malformed =>
    rw [decode_eq_malformedHeader_iff, Option.eq_none_iff_forall_ne_some, not_exists]
    constructor
    · exact fun h token htoken => h _ (token?_iff_isBearer.mpr htoken)
    · intro h token htoken
      refine h (String.ofList token) (token?_iff_isBearer.mp ?_)
      rwa [String.toList_ofList]
  case accepted =>
    rw [decode_eq_ok_iff]
    constructor
    · rintro ⟨token, raw, htoken, h⟩
      rw [← String.toList_ofList (l := token)] at htoken h
      obtain ⟨headerBytes, members, claimsBytes, h⟩ := rawClaims_iff_tells.mp ⟨raw, h⟩
      exact ⟨_, headerBytes, members, claimsBytes, token?_iff_isBearer.mp htoken, h⟩
    · rintro ⟨token, headerBytes, members, claimsBytes, htoken, h⟩
      obtain ⟨raw, h⟩ := rawClaims_iff_tells.mpr ⟨headerBytes, members, claimsBytes, h⟩
      exact ⟨token.toList, raw, token?_iff_isBearer.mpr htoken, h⟩

end Bearer

end FareGateway
