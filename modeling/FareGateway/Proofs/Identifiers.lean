import FareGateway.Proofs.Networks

/-!
# Organisation ids and their identifiers

An organisation id is read from an identifier whatever the network before it and the
fragment behind it, and from nothing else.  The network is told from the organisation id by
the colon that follows it, for both may be digits; a colon in the fragment is too late for
that.  The identifier that is written for an organisation id has neither network nor
fragment, so that writing what was read leads to the same identifier from all of them.
-/

namespace FareGateway

open Issuer

/-- An identifier in its parts. -/
structure Identifier where
  network : Option String
  orgId : String
  fragment : Option String
  network_numeric : ∀ name, network = some name →
    name.toList ≠ [] ∧ ∀ c ∈ name.toList, c.isDigit
  orgId_ne_empty : orgId.toList ≠ []
  orgId_alphanumeric : ∀ c ∈ orgId.toList, isAlphanumeric c
  fragment_on_one_line : ∀ word, fragment = some word → '\n' ∉ word.toList

namespace OrgId

/-! ## The parts of an identifier -/

theorem skipNetwork_spec (text : List Char) :
    ∃ network, text = networkPart network ++ skipNetwork text ∧
      ∀ name, network = some name → name.toList ≠ [] ∧ ∀ c ∈ name.toList, c.isDigit := by
  unfold skipNetwork
  split
  · next c digits after htake hdrop =>
      exact ⟨_, eq_networkPart_of_takeWhile (List.cons_ne_nil c digits) htake hdrop⟩
  · exact ⟨none, rfl, fun name hname => by cases hname⟩

theorem afterOrgId_spec {text : List Char} (hne : text.takeWhile isAlphanumeric ≠ [])
    {fragment : Option String}
    (hfragment : text.dropWhile isAlphanumeric = fragmentPart fragment) :
    ∃ orgId : String, orgId.toList = text.takeWhile isAlphanumeric ∧ orgId.toList ≠ [] ∧
      (∀ c ∈ orgId.toList, isAlphanumeric c) ∧
      text = orgId.toList ++ fragmentPart fragment := by
  refine ⟨String.ofList (text.takeWhile isAlphanumeric), String.toList_ofList, ?_, ?_, ?_⟩
  all_goals rw [String.toList_ofList]
  · exact hne
  · exact fun c hc => List.mem_takeWhile_imp hc
  · rw [← hfragment, List.takeWhile_append_dropWhile]

end OrgId

namespace Identifier

variable (parts : Identifier)

def text : String :=
  "did:orgid:" ++ (match parts.network with
    | some network => network ++ ":"
    | none => "") ++ parts.orgId ++ match parts.fragment with
    | some fragment => "#" ++ fragment
    | none => ""

theorem toList_text : parts.text.toList = didBeginning ++
    (networkPart parts.network ++ (parts.orgId.toList ++ fragmentPart parts.fragment)) := by
  have hbeginning : "did:orgid:".toList = didBeginning := rfl
  rw [text, String.toList_append, String.toList_append, String.toList_append, hbeginning,
    List.append_assoc, List.append_assoc]
  cases parts.network <;> cases parts.fragment <;> simp [networkPart, fragmentPart]

/-- Only the organisation id is kept. -/
def plain : Identifier :=
  { parts with
    network := none
    fragment := none
    network_numeric := nofun
    fragment_on_one_line := nofun }

theorem ofDid_text : OrgId.ofDid parts.text = .ok parts.orgId := by
  have hskip : OrgId.skipNetwork (networkPart parts.network ++
      (parts.orgId.toList ++ fragmentPart parts.fragment)) =
        parts.orgId.toList ++ fragmentPart parts.fragment := by
    cases hname : parts.network with
    | none =>
        exact skipNetwork_of_head?_ne
          (head?_dropWhile_letters (by decide) parts.orgId_alphanumeric parts.fragment)
    | some name =>
        obtain ⟨hne, hdigits⟩ := parts.network_numeric name hname
        rw [networkPart, List.append_assoc]
        exact skipNetwork_of_numeric hne hdigits
  rw [OrgId.ofDid, ofDid?_of_orgId parts.toList_text hskip parts.orgId_ne_empty
    parts.orgId_alphanumeric parts.fragment_on_one_line]

end Identifier

namespace OrgId

theorem exists_parts_of_ofDid? {did orgId : String} (h : ofDid? did = some orgId) :
    ∃ parts : Identifier, did = parts.text ∧ parts.orgId = orgId := by
  simp only [ofDid?, bind, Option.bind_eq_some_iff, afterBeginning?_eq_some_iff] at h
  obtain ⟨rest, hdid, h⟩ := h
  obtain ⟨network, hnetwork, hnumeric⟩ := skipNetwork_spec rest
  have hparts (fragment : Option String)
      (hne : (skipNetwork rest).takeWhile isAlphanumeric ≠ [])
      (hfragment : (skipNetwork rest).dropWhile isAlphanumeric = fragmentPart fragment)
      (hline : ∀ word, fragment = some word → '\n' ∉ word.toList) :
      ∃ parts : Identifier, did = parts.text ∧
        parts.orgId = String.ofList ((skipNetwork rest).takeWhile isAlphanumeric) := by
    obtain ⟨found, hfound, hsome, hletters, htext⟩ := afterOrgId_spec hne hfragment
    refine ⟨⟨network, found, fragment, hnumeric, hsome, hletters, hline⟩, ?_, ?_⟩
    · rw [← String.toList_inj, Identifier.toList_text, ← htext, ← hnetwork, hdid]
    · rw [← hfound, String.ofList_toList]
  split at h
  · cases h
  · next hne =>
      split at h
      · next hdrop =>
          cases h
          exact hparts none hne hdrop nofun
      · next fragment hdrop =>
          split at h
          · cases h
          · next hline =>
              cases h
              refine hparts (some (String.ofList fragment)) hne
                (by rw [hdrop, fragmentPart, String.toList_ofList]) fun word hword => ?_
              cases hword
              simpa using hline
      · cases h

theorem ofDid_eq_ok_iff {did orgId : String} :
    ofDid did = .ok orgId ↔ ∃ parts : Identifier, did = parts.text ∧ parts.orgId = orgId := by
  constructor
  · intro h
    unfold ofDid at h
    split at h
    · next hfound =>
        cases h
        exact exists_parts_of_ofDid? hfound
    · cases h
  · rintro ⟨parts, rfl, rfl⟩
    exact parts.ofDid_text

/-! ## Identifiers are written -/

theorem toDid_of_beginning {orgId : String} {rest : List Char}
    (h : orgId.toList = didBeginning ++ rest) : toDid orgId = .ok orgId := by
  have hne : orgId ≠ "" := by
    rintro rfl
    cases h
  simp [toDid, toDid?, hne, afterBeginning?_eq_some_iff.mpr h]

theorem toDid_of_no_beginning {orgId : String} (hne : orgId ≠ "")
    (h : afterBeginning? didBeginning orgId.toList = none) :
    toDid orgId = .ok ("did:orgid:" ++ orgId) := by
  simp [toDid, toDid?, hne, h]

theorem toDid_toDid {orgId : String} (hne : orgId ≠ "") :
    ∃ did, toDid orgId = .ok did ∧ toDid did = .ok did := by
  cases hrest : afterBeginning? didBeginning orgId.toList with
  | some rest =>
      have hsame := toDid_of_beginning (afterBeginning?_eq_some_iff.mp hrest)
      exact ⟨orgId, hsame, hsame⟩
  | none =>
      have hdid : ("did:orgid:" ++ orgId).toList = didBeginning ++ orgId.toList :=
        String.toList_append
      exact ⟨_, toDid_of_no_beginning hne hrest, toDid_of_beginning hdid⟩

theorem toDid_of_alphanumeric {orgId : String} (hne : orgId ≠ "")
    (hletters : ∀ c ∈ orgId.toList, isAlphanumeric c) :
    toDid orgId = .ok ("did:orgid:" ++ orgId) := by
  refine toDid_of_no_beginning hne (Option.eq_none_iff_forall_ne_some.mpr fun rest hrest => ?_)
  have hcolon : ':' ∈ orgId.toList := by
    rw [afterBeginning?_eq_some_iff.mp hrest]
    exact List.mem_append_left _ (by decide)
  exact absurd (hletters ':' hcolon) (by decide)

theorem toDid_orgId (parts : Identifier) : toDid parts.orgId = .ok parts.plain.text := by
  have hne : parts.orgId ≠ "" := by
    simpa using parts.orgId_ne_empty
  have htext : parts.plain.text = "did:orgid:" ++ parts.orgId := by
    simp [Identifier.text, Identifier.plain]
  rw [htext, toDid_of_alphanumeric hne parts.orgId_alphanumeric]

/-- The identifier that is written for the organisation id of another. -/
def normalize (did : String) : Except IdentityError String := do
  let orgId ← ofDid did
  toDid orgId

theorem normalize_text (parts : Identifier) : normalize parts.text = .ok parts.plain.text := by
  rw [normalize, parts.ofDid_text]
  exact toDid_orgId parts

theorem normalize_normalize (did : String) : (normalize did >>= normalize) = normalize did := by
  cases hread : ofDid did with
  | error fault =>
      have hnormal : normalize did = .error fault := by
        rw [normalize, hread]
        rfl
      rw [hnormal]
      rfl
  | ok orgId =>
      obtain ⟨parts, rfl, -⟩ := ofDid_eq_ok_iff.mp hread
      rw [normalize_text]
      exact normalize_text parts.plain

/--
Organisation ids and identifiers are converted into one another without loss.  Whatever is
not empty becomes an identifier, which stays as it is.  Letters and digits are read again
from their identifier, with a numeric network or a fragment in it as well; an organisation
id is read from no other text.  The identifier that is written for it has the same
organisation id, and is written again as it is.
-/
theorem conversions_are_inverse :
    (∀ orgId : String, orgId ≠ "" → ∃ did, toDid orgId = .ok did ∧ toDid did = .ok did) ∧
    (∀ orgId : String, orgId ≠ "" → (∀ c ∈ orgId.toList, isAlphanumeric c) →
      (toDid orgId >>= ofDid) = .ok orgId ∧
        ∀ parts : Identifier, parts.orgId = orgId → ofDid parts.text = .ok orgId) ∧
    ∀ did orgId : String,
      (ofDid did = .ok orgId ↔
        ∃ parts : Identifier, did = parts.text ∧ parts.orgId = orgId) ∧
      (ofDid did = .ok orgId →
        ∃ plain, toDid orgId = .ok plain ∧ ofDid plain = .ok orgId) ∧
      (normalize did >>= normalize) = normalize did := by
  refine ⟨fun orgId hne => toDid_toDid hne, fun orgId hne hletters => ⟨?_, ?_⟩,
    fun did orgId => ⟨ofDid_eq_ok_iff, fun hread => ?_, normalize_normalize did⟩⟩
  · let parts : Identifier :=
      ⟨none, orgId, none, nofun, by simpa using hne, hletters, nofun⟩
    rw [toDid_orgId parts]
    exact parts.plain.ofDid_text
  · rintro parts rfl
    exact parts.ofDid_text
  · obtain ⟨parts, -, rfl⟩ := ofDid_eq_ok_iff.mp hread
    exact ⟨_, toDid_orgId parts, parts.plain.ofDid_text⟩

/-- Network and organisation id are both numbers, and the fragment has a colon in it. -/
def sampleIdentifier : Identifier where
  network := some "4"
  orgId := "12"
  fragment := some "3:key#1"
  network_numeric := by
    rintro _ ⟨⟩
    exact ⟨by decide, List.all_eq_true.mp (by decide)⟩
  orgId_ne_empty := by decide
  orgId_alphanumeric := List.all_eq_true.mp (by decide)
  fragment_on_one_line := by
    rintro _ ⟨⟩
    decide

theorem numeric_orgId_is_converted :
    sampleIdentifier.text = "did:orgid:4:12#3:key#1" ∧
      "12" ≠ "" ∧ (∀ c ∈ "12".toList, isAlphanumeric c) ∧
      (toDid "12" >>= ofDid) = .ok "12" ∧ ofDid sampleIdentifier.text = .ok "12" ∧
      normalize sampleIdentifier.text = .ok "did:orgid:12" ∧
      toDid "did:orgid:12" = .ok "did:orgid:12" := by
  have hne : "12" ≠ "" := by decide
  have hletters : ∀ c ∈ "12".toList, isAlphanumeric c := List.all_eq_true.mp (by decide)
  obtain ⟨hfixed, hback, -⟩ := conversions_are_inverse
  obtain ⟨did, hdid, hsame⟩ := hfixed "12" hne
  have hplain : did = "did:orgid:12" := by
    rw [toDid_of_alphanumeric hne hletters] at hdid
    cases hdid
    rfl
  rw [hplain] at hdid hsame
  have hread := (hback "12" hne hletters).2 sampleIdentifier rfl
  have hnormal : normalize sampleIdentifier.text = .ok "did:orgid:12" := by
    rw [normalize, hread]
    exact hdid
  exact ⟨by rfl, hne, hletters, (hback "12" hne hletters).1, hread, hnormal, hsame⟩

end OrgId
end FareGateway
