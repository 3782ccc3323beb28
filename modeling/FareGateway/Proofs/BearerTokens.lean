import FareGateway.Identity.Bearer
import FareGateway.Proofs.IssuerText
import FareGateway.Proofs.Parsing
import FareGateway.Proofs.Printing
import FareGateway.Proofs.Records
import Mathlib.Data.List.Forall2

/-!
# Decoding what was encoded

A bearer token is taken apart in layers: the scheme, the points between the parts,
the padding, the alphabet, the bytes of the text, the JSON, the issuer and the
date.  No layer meets in the text of the next one what it is looking for itself.
-/

namespace FareGateway

namespace Bearer

/-! ## The shape of a token -/

theorem token?_eq_some_iff {header : String} {token : List Char} :
    token? header = some token ↔
      header.toList = "Bearer ".toList ++ token ∧ token ≠ [] ∧ ' ' ∉ token := by
  simp only [token?, bind, Option.bind_eq_some_iff, afterBeginning?_eq_some_iff]
  constructor
  · rintro ⟨rest, hrest, h⟩
    split at h
    · cases h
    · next hrest' =>
        cases h
        exact ⟨hrest, not_or.mp hrest'⟩
  · rintro ⟨hheader, htoken⟩
    exact ⟨token, hheader, if_neg (not_or.mpr htoken)⟩

theorem parts?_eq_some_iff {token first second third : List Char} :
    parts? token = some (first, second, third) ↔
      token = first ++ '.' :: (second ++ '.' :: third) ∧
        '.' ∉ first ∧ '.' ∉ second ∧ '.' ∉ third := by
  simp only [parts?, bind, Option.bind_eq_some_iff, Prod.exists, cut_eq_some_iff]
  constructor
  · rintro ⟨one, rest, ⟨hone, rfl⟩, two, last, ⟨htwo, rfl⟩, h⟩
    split at h
    · cases h
    · next hlast =>
        cases h
        exact ⟨rfl, hone, htwo, hlast⟩
  · rintro ⟨rfl, hfirst, hsecond, hthird⟩
    exact ⟨first, _, ⟨hfirst, rfl⟩, second, third, ⟨hsecond, rfl⟩, if_neg hthird⟩

theorem partBytes?_encode (bytes : List UInt8) (padding : Nat) :
    partBytes? (Base64Url.encode bytes ++ List.replicate padding '=') = some bytes := by
  have hplain : ∀ c ∈ (Base64Url.encode bytes).reverse, c ≠ '=' := by
    rintro c hc rfl
    have hsome := Base64Url.isSome_sextet?_of_mem_encode (List.mem_reverse.mp hc)
    exact absurd hsome (by decide)
  have hpadding : ∀ c ∈ List.replicate padding '=', decide (c = '=') = true := by
    intro c hc
    simpa using List.eq_of_mem_replicate hc
  have hstripped : ((Base64Url.encode bytes ++ List.replicate padding '=').reverse.dropWhile
      fun c => c = '=').reverse = Base64Url.encode bytes := by
    rw [List.reverse_append, List.reverse_replicate, List.dropWhile_append_of_pos hpadding]
    cases hletters : (Base64Url.encode bytes).reverse with
    | nil => simpa using hletters.symm
    | cons c letters =>
        have hc : c ≠ '=' := hplain c (by simp [hletters])
        rw [List.dropWhile_cons_of_neg (by simpa using hc), ← hletters, List.reverse_reverse]
  rw [partBytes?, hstripped]
  exact Base64Url.decode?_eq_some_iff.mpr rfl

def IsPart (part : List Char) (bytes : List UInt8) : Prop :=
  ∃ padding, part = Base64Url.encode bytes ++ List.replicate padding '='

theorem partBytes?_eq_some_iff {part : List Char} {bytes : List UInt8} :
    partBytes? part = some bytes ↔ IsPart part bytes := by
  constructor
  · intro h
    let isPadding (c : Char) : Bool := c = '='
    have hletters : (part.reverse.dropWhile isPadding).reverse = Base64Url.encode bytes :=
      Base64Url.decode?_eq_some_iff.mp h
    have hpadding : (part.reverse.takeWhile isPadding).reverse =
        List.replicate (part.reverse.takeWhile isPadding).reverse.length '=' := by
      refine List.eq_replicate_of_mem fun c hc => ?_
      simpa [isPadding] using List.mem_takeWhile_imp (List.mem_reverse.mp hc)
    refine ⟨(part.reverse.takeWhile isPadding).reverse.length, ?_⟩
    calc part
        = (part.reverse.takeWhile isPadding ++ part.reverse.dropWhile isPadding).reverse := by
          rw [List.takeWhile_append_dropWhile, List.reverse_reverse]
      _ = Base64Url.encode bytes ++ (part.reverse.takeWhile isPadding).reverse := by
          rw [List.reverse_append, hletters]
      _ = _ := by rw [← hpadding]
  · rintro ⟨padding, rfl⟩
    exact partBytes?_encode bytes padding

/-! ## The contents of a token -/

/-- The audience alone, or a list of texts that begins with it. -/
inductive IsAudience : Json.Value → String → Prop where
  | one {units : List Json.StringUnit} {audience : String} :
      Json.textOf? units = some audience → IsAudience (.string units) audience
  | many {items : List Json.Value} {audience : String} {others : List String} :
      List.Forall₂ (fun item text => ∃ units, item = .string units ∧
        Json.textOf? units = some text) items (audience :: others) →
      IsAudience (.array items) audience

/-- The members of an object of claims: the three that are read, each once, and
whatever others. -/
structure IsClaims (members : List (List Json.StringUnit × Json.Value)) (issuer : String)
    (audience : String) (seconds : Binary64) : Prop where
  names : ∀ member ∈ members, (Json.textOf? member.1).isSome
  issuer : ∃ units, Json.HasOnce members "iss" (.string units) ∧
    Json.textOf? units = some issuer
  audience : ∃ value, Json.HasOnce members "aud" value ∧ IsAudience value audience
  seconds : ∃ number, Json.HasOnce members "exp" (.number number) ∧
    number.toBinary64? = some seconds

/-- The bytes of an object that can be kept whole. -/
def IsHeaderOf (bytes : List UInt8) (header : Json.Value) : Prop :=
  Json.IsTextOf (glyphsOf bytes) header ∧ header.isSound ∧ header.depth ≤ depthLimit

theorem headerOf?_eq_some_iff {bytes : List UInt8} {header : Json.Value} :
    headerOf? bytes = some header ↔ IsHeaderOf bytes header := by
  simp only [headerOf?, bind, Option.bind_eq_some_iff, Json.parse?_eq_some_iff]
  constructor
  · rintro ⟨value, htext, h⟩
    split at h
    · next hkept =>
        cases h
        exact ⟨htext, hkept⟩
    · cases h
  · rintro ⟨htext, hkept⟩
    exact ⟨header, htext, if_pos hkept⟩

/-- The text of an object that can be kept whole. -/
def IsHeader (text : String) : Prop :=
  ∃ members, Json.IsTextOf (text.toList.map some) (.object members) ∧
    (Json.Value.object members).isSound ∧ (Json.Value.object members).depth ≤ depthLimit

theorem headerOf?_of_isHeader {text : String} (h : IsHeader text) :
    ∃ members, headerOf? text.toUTF8.data.toList = some (.object members) := by
  obtain ⟨members, htext, hkept⟩ := h
  rw [← glyphsOf_toUTF8] at htext
  exact ⟨members, headerOf?_eq_some_iff.mpr ⟨htext, hkept⟩⟩

/-- An object with the three members, or the array of the three values in the order
of the claims. -/
inductive TellsClaims : Json.Value → String → String → Binary64 → Prop where
  | byName {members : List (List Json.StringUnit × Json.Value)} {issuer audience : String}
      {seconds : Binary64} : IsClaims members issuer audience seconds →
      TellsClaims (.object members) issuer audience seconds
  | inOrder {units : List Json.StringUnit} {value : Json.Value} {number : Json.Number}
      {issuer audience : String} {seconds : Binary64} :
      Json.textOf? units = some issuer → IsAudience value audience →
      number.toBinary64? = some seconds →
      TellsClaims (.array [.string units, value, .number number]) issuer audience seconds

theorem mapM_decode?_eq_some_iff {items : List Json.Value} {texts : List String} :
    items.mapM Json.decode? = some texts ↔
      List.Forall₂ (fun item text => ∃ units, item = .string units ∧
        Json.textOf? units = some text) items texts := by
  induction items generalizing texts with
  | nil => cases texts <;> simp
  | cons item items ih =>
      simp only [List.mapM_cons, bind, pure, Option.bind_eq_some_iff, ih,
        Json.decode?_string_eq_some_iff]
      constructor
      · rintro ⟨text, hitem, others, hothers, htexts⟩
        cases htexts
        exact .cons hitem hothers
      · intro h
        cases h with
        | cons hitem hothers => exact ⟨_, hitem, _, hothers, rfl⟩

theorem audiences?_iff_isAudience {value : Json.Value} {audience : String} :
    (∃ others, audiences? value = some (audience :: others)) ↔ IsAudience value audience := by
  constructor
  · rintro ⟨others, h⟩
    unfold audiences? at h
    split at h
    · next units =>
        obtain ⟨text, htext, hone⟩ := Option.map_eq_some_iff.mp h
        cases hone
        exact .one htext
    · cases value with
      | array items => exact .many (mapM_decode?_eq_some_iff.mp h)
      | _ => cases h
  · intro h
    cases h with
    | one h => exact ⟨[], by simp [audiences?, h]⟩
    | @many items _ others h => exact ⟨others, mapM_decode?_eq_some_iff.mpr h⟩

def HasFields (value issuer audience expiry : Json.Value) : Prop :=
  (∃ members, value = .object members ∧ (∀ member ∈ members, (Json.textOf? member.1).isSome) ∧
      Json.HasOnce members "iss" issuer ∧ Json.HasOnce members "aud" audience ∧
      Json.HasOnce members "exp" expiry) ∨
    value = .array [issuer, audience, expiry]

theorem gather_claims_eq_some_iff {value : Json.Value} {fields : Json.Fields} :
    Json.gather [⟨"iss", .required⟩, ⟨"aud", .required⟩, ⟨"exp", .required⟩] value =
        some fields ↔
      ∃ issuer audience expiry, HasFields value issuer audience expiry ∧
        fields = [("iss", issuer), ("aud", audience), ("exp", expiry)] := by
  rw [Json.gather_eq_some_iff (by simp)]
  constructor
  · rintro ⟨hnames, h⟩
    obtain ⟨⟨_, issuer⟩, afterIssuer, rfl, rfl, hafterIssuer⟩ := List.map_eq_cons_iff.mp hnames
    obtain ⟨⟨_, audience⟩, afterAudience, rfl, rfl, hafterAudience⟩ :=
      List.map_eq_cons_iff.mp hafterIssuer
    obtain ⟨⟨_, expiry⟩, rest, rfl, rfl, hrest⟩ := List.map_eq_cons_iff.mp hafterAudience
    obtain rfl := List.map_eq_nil_iff.mp hrest
    exact ⟨issuer, audience, expiry, by simpa [HasFields] using h, rfl⟩
  · rintro ⟨issuer, audience, expiry, h, rfl⟩
    exact ⟨rfl, by simpa [HasFields] using h⟩

theorem claimsOf?_eq_some_iff {bytes : List UInt8} {raw : RawClaims} :
    claimsOf? bytes = some raw ↔
      ∃ value issuer audience expiry, Json.IsTextOf (glyphsOf bytes) value ∧
        HasFields value issuer audience expiry ∧ Json.decode? issuer = some raw.issuer ∧
        audiences? audience = some raw.audiences ∧ Json.decode? expiry = some raw.expiry := by
  have hread (issuer audience expiry : Json.Value) :
      (Entries.get? "iss" [("iss", issuer), ("aud", audience), ("exp", expiry)] = some issuer ∧
        Entries.get? "aud" [("iss", issuer), ("aud", audience), ("exp", expiry)] =
          some audience ∧
        Entries.get? "exp" [("iss", issuer), ("aud", audience), ("exp", expiry)] =
          some expiry) := by
    simp [Entries.get?]
  simp only [claimsOf?, bind, Option.bind_eq_some_iff, Json.parse?_eq_some_iff,
    gather_claims_eq_some_iff, Json.Fields.read?]
  constructor
  · rintro ⟨value, htext, _, ⟨issuer, audience, expiry, hfields, rfl⟩, hraw⟩
    simp only [hread, Option.some.injEq, exists_eq_left'] at hraw
    obtain ⟨_, hissuer, _, haudience, _, hexpiry, rfl⟩ := hraw
    exact ⟨value, issuer, audience, expiry, htext, hfields, hissuer, haudience, hexpiry⟩
  · rintro ⟨value, issuer, audience, expiry, htext, hfields, hissuer, haudience, hexpiry⟩
    refine ⟨value, htext, _, ⟨issuer, audience, expiry, hfields, rfl⟩, ?_⟩
    simp only [hread, Option.some.injEq, exists_eq_left']
    exact ⟨_, hissuer, _, haudience, _, hexpiry, rfl⟩

theorem claimsOf?_iff_tellsClaims {bytes : List UInt8} {issuer audience : String}
    {seconds : Binary64} :
    (∃ others, claimsOf? bytes = some ⟨issuer, audience :: others, seconds⟩) ↔
      ∃ value, Json.IsTextOf (glyphsOf bytes) value ∧
        TellsClaims value issuer audience seconds := by
  simp only [claimsOf?_eq_some_iff, Json.decode?_string_eq_some_iff,
    Json.decode?_binary64_eq_some_iff]
  constructor
  · rintro ⟨others, value, _, aud, _, htext, hfields, ⟨units, rfl, hissuer⟩, haud,
      ⟨number, rfl, hseconds⟩⟩
    have haudience := audiences?_iff_isAudience.mp ⟨others, haud⟩
    refine ⟨value, htext, ?_⟩
    rcases hfields with ⟨members, rfl, hnames, hiss, haud, hexp⟩ | rfl
    · exact .byName ⟨hnames, ⟨units, hiss, hissuer⟩, ⟨aud, haud, haudience⟩,
        ⟨number, hexp, hseconds⟩⟩
    · exact .inOrder hissuer haudience hseconds
  · rintro ⟨value, htext, htells⟩
    cases htells with
    | byName hmembers =>
        obtain ⟨units, hiss, hissuer⟩ := hmembers.issuer
        obtain ⟨aud, haud, haudience⟩ := hmembers.audience
        obtain ⟨number, hexp, hseconds⟩ := hmembers.seconds
        obtain ⟨others, hothers⟩ := audiences?_iff_isAudience.mpr haudience
        exact ⟨others, _, _, aud, _, htext, .inl ⟨_, rfl, hmembers.names, hiss, haud, hexp⟩,
          ⟨units, rfl, hissuer⟩, hothers, ⟨number, rfl, hseconds⟩⟩
    | inOrder hissuer haudience hseconds =>
        obtain ⟨others, hothers⟩ := audiences?_iff_isAudience.mpr haudience
        exact ⟨others, _, _, _, _, htext, .inr rfl, ⟨_, rfl, hissuer⟩, hothers,
          ⟨_, rfl, hseconds⟩⟩

theorem claimsOf?_of_isClaims {text : String}
    {members : List (List Json.StringUnit × Json.Value)} {issuer audience : String}
    {seconds : Binary64} (htext : Json.IsTextOf (text.toList.map some) (.object members))
    (h : IsClaims members issuer audience seconds) :
    ∃ others, claimsOf? text.toUTF8.data.toList =
      some ⟨issuer, audience :: others, seconds⟩ := by
  rw [← glyphsOf_toUTF8] at htext
  exact claimsOf?_iff_tellsClaims.mpr ⟨_, htext, .byName h⟩

/-! ## Whole tokens -/

/-- A part of a token: the Base64 of a text in UTF-8, with padding. -/
def segment (text : String) (padding : Nat) : List Char :=
  Base64Url.encode text.toUTF8.data.toList ++ List.replicate padding '='

theorem not_mem_segment {text : String} {padding : Nat} {c : Char}
    (hletter : Base64Url.sextet? c = none) (hpadding : c ≠ '=') :
    c ∉ segment text padding := by
  intro hc
  rcases List.mem_append.mp hc with hc | hc
  · have hsome := Base64Url.isSome_sextet?_of_mem_encode hc
    simp [hletter] at hsome
  · exact hpadding (List.eq_of_mem_replicate hc)

/-- The authorization header of a token, with the texts of its header and claims and
with a signature. -/
def credential (header claims signature : String) (headerPadding claimsPadding : Nat) :
    String :=
  "Bearer " ++ String.ofList (segment header headerPadding) ++ "." ++
    String.ofList (segment claims claimsPadding) ++ "." ++ signature

theorem rawClaims_of_parts {token first second third : List Char}
    {headerBytes claimsBytes : List UInt8}
    {members : List (List Json.StringUnit × Json.Value)} {raw : RawClaims}
    (hparts : parts? token = some (first, second, third))
    (hfirst : partBytes? first = some headerBytes)
    (hheader : headerOf? headerBytes = some (.object members))
    (hsecond : partBytes? second = some claimsBytes)
    (hclaims : claimsOf? claimsBytes = some raw) : rawClaims token = .ok raw := by
  simp only [rawClaims, hparts, orFault, bind, Except.bind, hfirst, hheader, hsecond,
    hclaims]

theorem decode_of_rawClaims {header : String} {token : List Char} {raw : RawClaims}
    {issuer : Issuer} {audience : String} {expiry : Instant}
    (htoken : token? header = some token) (hraw : rawClaims token = .ok raw)
    (hissuer : Issuer.ofText? raw.issuer = some issuer)
    (haudience : raw.audiences.head? = some audience)
    (hexpiry : expiryOf? raw.expiry = some expiry) :
    decode header = .ok ⟨issuer, audience, expiry⟩ := by
  simp only [decode, htoken, orFault, bind, Except.bind, hraw, hissuer, haudience, hexpiry,
    pure, Except.pure]

/--
A credential decodes to what was written into it: the issuer, the audience or the
first of them, and the expiry without its fraction of a second.  The spelling of
the JSON, the other members and their order, the padding and the signature play no
part.
-/
theorem decode_credential {header claims : String}
    {members : List (List Json.StringUnit × Json.Value)} {issuer : Issuer}
    {audience : String} {seconds : Binary64}
    (hheader : IsHeader header)
    (hclaims : Json.IsTextOf (claims.toList.map some) (.object members))
    (hmembers : IsClaims members issuer.text audience seconds)
    (hissuer : issuer.IsProper)
    (hfinite : seconds.isFinite) (hfirst : firstSecond ≤ seconds.truncate)
    (hlast : seconds.truncate ≤ lastSecond)
    (signature : String) (hpoint : '.' ∉ signature.toList) (hspace : ' ' ∉ signature.toList)
    (headerPadding claimsPadding : Nat) :
    decode (credential header claims signature headerPadding claimsPadding) =
      .ok ⟨issuer, audience, ⟨seconds.truncate, 0⟩⟩ := by
  have htoken : token? (credential header claims signature headerPadding claimsPadding) =
      some (segment header headerPadding ++
        '.' :: (segment claims claimsPadding ++ '.' :: signature.toList)) := by
    refine token?_eq_some_iff.mpr ⟨?_, by simp, ?_⟩
    · simp [credential]
    · have hletter : Base64Url.sextet? ' ' = none := by decide
      simp [not_mem_segment hletter, hspace]
  have hparts : parts? (segment header headerPadding ++
      '.' :: (segment claims claimsPadding ++ '.' :: signature.toList)) =
        some (segment header headerPadding, segment claims claimsPadding,
          signature.toList) := by
    have hletter : Base64Url.sextet? '.' = none := by decide
    exact parts?_eq_some_iff.mpr ⟨rfl, not_mem_segment hletter (by decide),
      not_mem_segment hletter (by decide), hpoint⟩
  obtain ⟨headerMembers, hheaderMembers⟩ := headerOf?_of_isHeader hheader
  obtain ⟨others, hraw⟩ := claimsOf?_of_isClaims hclaims hmembers
  have hexpiry : expiryOf? seconds = some ⟨seconds.truncate, 0⟩ :=
    if_pos ⟨hfinite, hfirst, hlast⟩
  exact decode_of_rawClaims htoken
    (rawClaims_of_parts hparts (partBytes?_encode _ _) hheaderMembers
      (partBytes?_encode _ _) hraw)
    (Issuer.ofText?_eq_some_iff.mpr ⟨hissuer, rfl⟩) rfl hexpiry

/-! ## A credential -/

def sampleIssuer : Issuer :=
  ⟨some "4", String.ofList (List.replicate 64 'a'), some "key1"⟩

def sampleHeader : List (List Json.StringUnit × Json.Value) :=
  [(Json.unitsOf "alg", .string (Json.unitsOf "none"))]

def oneAndAHalf : Json.Number :=
  { whole := [⟨1, by decide⟩], fraction := [⟨5, by decide⟩] }

/-- Two audiences, and a member that is not read. -/
def sampleClaims : List (List Json.StringUnit × Json.Value) :=
  [(Json.unitsOf "exp", .number oneAndAHalf),
    (Json.unitsOf "nbf", .null),
    (Json.unitsOf "aud", .array [.string (Json.unitsOf "one"), .string (Json.unitsOf "two")]),
    (Json.unitsOf "iss", .string (Json.unitsOf sampleIssuer.text))]

theorem sample_credential_decodes :
    let header := String.ofList (Json.Value.object sampleHeader).print
    let claims := String.ofList (Json.Value.object sampleClaims).print
    sampleIssuer.IsProper ∧ IsHeader header ∧
      Json.IsTextOf (claims.toList.map some) (.object sampleClaims) ∧
      IsClaims sampleClaims sampleIssuer.text "one" ⟨0x3ff8000000000000⟩ ∧
      decode (credential header claims "c2ln" 2 1) = .ok ⟨sampleIssuer, "one", ⟨1, 0⟩⟩ := by
  intro header claims
  have hissuer : sampleIssuer.IsProper := by
    constructor
    · intro network hnetwork
      cases hnetwork
      exact ⟨by decide, List.all_eq_true.mp (by decide)⟩
    · decide
    · exact List.all_eq_true.mp (by decide)
    · intro fragment hfragment
      cases hfragment
      exact ⟨by decide, List.all_eq_true.mp (by decide)⟩
  have hheader : IsHeader header := by
    have hproper : (Json.Value.object sampleHeader).IsProper := ⟨trivial, trivial⟩
    have htext := Json.isTextOf_ofList_print hproper (by rfl)
    exact ⟨sampleHeader, htext, by decide, by decide⟩
  have hclaims : Json.IsTextOf (claims.toList.map some) (.object sampleClaims) := by
    have hnumber : oneAndAHalf.IsProper := ⟨by decide, by decide, fun _ => rfl⟩
    have hproper : (Json.Value.object sampleClaims).IsProper :=
      ⟨hnumber, trivial, ⟨trivial, trivial, trivial⟩, trivial, trivial⟩
    exact Json.isTextOf_ofList_print hproper (by rfl)
  have hmembers : IsClaims sampleClaims sampleIssuer.text "one" ⟨0x3ff8000000000000⟩ := by
    constructor
    · decide
    · exact ⟨_, ⟨_, by rfl⟩, Json.textOf?_unitsOf _⟩
    · refine ⟨_, ⟨_, by rfl⟩, @IsAudience.many _ "one" ["two"] ?_⟩
      exact .cons ⟨_, rfl, Json.textOf?_unitsOf _⟩ (.cons ⟨_, rfl, Json.textOf?_unitsOf _⟩ .nil)
    · exact ⟨_, ⟨_, by rfl⟩, by decide +kernel⟩
  have hdecoded := decode_credential hheader hclaims hmembers hissuer (by decide +kernel)
    (by decide +kernel) (by decide +kernel) "c2ln" (by decide) (by decide) 2 1
  exact ⟨hissuer, hheader, hclaims, hmembers, hdecoded⟩

end Bearer

end FareGateway
