import FareGateway.Identity.Bearer
import FareGateway.Proofs.IssuerText

/-!
# Issuers and organisation ids

The identifier of an issuer is read twice: by the reader of issuers, to which a
network is any letters and digits, and by the reader of organisation ids, to which it
is digits alone.  The two agree on the issuers without a network and on those of
numeric networks.  Of any other network the second reader takes the name for the
organisation id, and is stopped by the colon after it.
-/

namespace FareGateway

namespace Issuer

def HasNumericNetwork (issuer : Issuer) : Prop :=
  ∀ network, issuer.network = some network → ∀ c ∈ network.toList, c.isDigit

/-! ## The network is skipped, or is not -/

theorem skipNetwork_of_head?_ne {text : List Char}
    (h : (text.dropWhile Char.isDigit).head? ≠ some ':') : OrgId.skipNetwork text = text := by
  rw [OrgId.skipNetwork]
  split
  · next _ _ rest _ hdrop =>
      rw [hdrop] at h
      exact absurd rfl h
  · rfl

theorem skipNetwork_of_numeric {name rest : List Char} (hname : name ≠ [])
    (hdigits : ∀ c ∈ name, c.isDigit) : OrgId.skipNetwork (name ++ ':' :: rest) = rest := by
  have hcolon : ¬Char.isDigit ':' := by decide
  have htake : (name ++ ':' :: rest).takeWhile Char.isDigit = name := by
    rw [List.takeWhile_append_of_pos hdigits, List.takeWhile_cons_of_neg hcolon, List.append_nil]
  have hdrop : (name ++ ':' :: rest).dropWhile Char.isDigit = ':' :: rest := by
    rw [List.dropWhile_append_of_pos hdigits, List.dropWhile_cons_of_neg hcolon]
  obtain ⟨c, digits, rfl⟩ := List.exists_cons_of_ne_nil hname
  simp only [OrgId.skipNetwork, htake, hdrop]

theorem skipNetwork_of_not_numeric {name rest : List Char}
    (hletters : ∀ c ∈ name, isAlphanumeric c) (hnumeric : ¬∀ c ∈ name, c.isDigit) :
    OrgId.skipNetwork (name ++ ':' :: rest) = name ++ ':' :: rest := by
  apply skipNetwork_of_head?_ne
  -- The digits end within the name, at a letter, so no colon follows them.
  have hne : name.dropWhile Char.isDigit ≠ [] := by
    simpa using hnumeric
  obtain ⟨c, letters, hdrop⟩ := List.exists_cons_of_ne_nil hne
  have hletter : isAlphanumeric c :=
    hletters c ((List.dropWhile_sublist _).mem (hdrop ▸ List.mem_cons_self))
  have hcolon : c ≠ ':' := by
    rintro rfl
    exact absurd hletter (by decide)
  simpa [List.dropWhile_append, hdrop] using hcolon

/-! ## What stands behind the network -/

theorem ofDid?_of_orgId {did orgId : String} {rest : List Char} {fragment : Option String}
    (hdid : did.toList = didBeginning ++ rest)
    (hrest : OrgId.skipNetwork rest = orgId.toList ++ fragmentPart fragment)
    (hne : orgId.toList ≠ []) (hletters : ∀ c ∈ orgId.toList, isAlphanumeric c)
    (hline : ∀ word, fragment = some word → '\n' ∉ word.toList) :
    OrgId.ofDid? did = some orgId := by
  have hmark : ¬isAlphanumeric '#' := by decide
  have htake : (orgId.toList ++ fragmentPart fragment).takeWhile isAlphanumeric =
      orgId.toList := by
    rw [List.takeWhile_append_of_pos hletters]
    cases fragment <;> simp [fragmentPart, hmark]
  have hdrop : (orgId.toList ++ fragmentPart fragment).dropWhile isAlphanumeric =
      fragmentPart fragment := by
    rw [List.dropWhile_append_of_pos hletters]
    cases fragment <;> simp [fragmentPart, hmark]
  rw [OrgId.ofDid?, afterBeginning?_eq_some_iff.mpr hdid]
  simp only [bind, Option.bind_some, hrest, htake, hdrop, hne, if_false, String.ofList_toList]
  cases fragment with
  | none => rfl
  | some word => simpa [fragmentPart] using hline word rfl

theorem ofDid?_eq_none {did : String} {rest letters after : List Char} {c : Char}
    (hdid : did.toList = didBeginning ++ rest)
    (hrest : OrgId.skipNetwork rest = letters ++ c :: after)
    (hletters : ∀ c ∈ letters, isAlphanumeric c) (hc : ¬isAlphanumeric c) (hmark : c ≠ '#') :
    OrgId.ofDid? did = none := by
  have hdrop : (letters ++ c :: after).dropWhile isAlphanumeric = c :: after := by
    rw [List.dropWhile_append_of_pos hletters, List.dropWhile_cons_of_neg hc]
  rw [OrgId.ofDid?, afterBeginning?_eq_some_iff.mpr hdid]
  simp only [bind, Option.bind_some, hrest, hdrop]
  split
  · rfl
  · split
    · next heq => cases heq
    · next heq =>
        cases heq
        exact absurd rfl hmark
    · rfl

/-! ## The organisation id of an issuer -/

variable {issuer : Issuer}

theorem IsProper.toList_orgId (h : issuer.IsProper) :
    issuer.orgId.toList = '0' :: 'x' :: issuer.address.toList ∧
      ∀ c ∈ issuer.orgId.toList, isAlphanumeric c := by
  have horgId : issuer.orgId.toList = '0' :: 'x' :: issuer.address.toList := by simp [orgId]
  refine ⟨horgId, ?_⟩
  rw [horgId]
  refine List.forall_mem_cons.mpr ⟨rfl, List.forall_mem_cons.mpr ⟨rfl, fun c hc => ?_⟩⟩
  exact isAlphanumeric_of_isHexadecimal (h.address c hc)

theorem IsProper.ofDid?_text_of_numeric (h : issuer.IsProper)
    (hnumeric : issuer.HasNumericNetwork) :
    OrgId.ofDid? issuer.text = some issuer.orgId := by
  obtain ⟨horgId, hletters⟩ := h.toList_orgId
  have hskip : OrgId.skipNetwork (networkPart issuer.network ++
      ('0' :: 'x' :: (issuer.address.toList ++ fragmentPart issuer.fragment))) =
        issuer.orgId.toList ++ fragmentPart issuer.fragment := by
    rw [horgId]
    cases hname : issuer.network with
    | none => exact skipNetwork_of_head?_ne (by simp [networkPart])
    | some name =>
        rw [networkPart, List.append_assoc]
        exact skipNetwork_of_numeric (h.network name hname).1 (hnumeric name hname)
  refine ofDid?_of_orgId issuer.toList_text hskip (by simp [horgId]) hletters ?_
  intro word hword hmem
  exact absurd ((h.fragment word hword).2 '\n' hmem) (by decide +kernel)

theorem IsProper.ofDid?_text_of_not_numeric (h : issuer.IsProper)
    (hnumeric : ¬issuer.HasNumericNetwork) : OrgId.ofDid? issuer.text = none := by
  simp only [HasNumericNetwork, not_forall] at hnumeric
  obtain ⟨name, hname, c, hc, hdigit⟩ := hnumeric
  have hletters := (h.network name hname).2
  have hskip : OrgId.skipNetwork (networkPart issuer.network ++
      ('0' :: 'x' :: (issuer.address.toList ++ fragmentPart issuer.fragment))) =
        name.toList ++ ':' ::
          ('0' :: 'x' :: (issuer.address.toList ++ fragmentPart issuer.fragment)) := by
    rw [hname, networkPart, List.append_assoc]
    exact skipNetwork_of_not_numeric hletters fun hall => hdigit (hall c hc)
  exact ofDid?_eq_none issuer.toList_text hskip hletters (by decide) (by decide)

theorem text_of_no_fragment : ({ issuer with fragment := none } : Issuer).text = issuer.did := by
  simp [text, did, orgId]

theorem IsProper.withoutFragment (h : issuer.IsProper) :
    ({ issuer with fragment := none } : Issuer).IsProper :=
  ⟨h.network, h.address_length, h.address, nofun⟩

/--
The two readers of identifiers agree on an issuer exactly when its network, if it has
one, is a number.  The organisation id is then read from the identifier and from the
whole text, and is the address behind `0x`.  Otherwise both are refused.
-/
theorem orgId_iff_numeric_network {text : String} (h : ofText? text = some issuer) :
    (issuer.HasNumericNetwork →
      OrgId.ofDid issuer.did = .ok ("0x" ++ issuer.address) ∧
        OrgId.ofDid text = .ok ("0x" ++ issuer.address)) ∧
    (¬issuer.HasNumericNetwork →
      OrgId.ofDid issuer.did = .error (.badOrgId issuer.did) ∧
        OrgId.ofDid text = .error (.badOrgId text)) := by
  obtain ⟨hproper, rfl⟩ := ofText?_eq_some_iff.mp h
  have hwithout := hproper.withoutFragment
  simp only [OrgId.ofDid, ← text_of_no_fragment]
  constructor
  · intro hnumeric
    rw [hproper.ofDid?_text_of_numeric hnumeric, hwithout.ofDid?_text_of_numeric hnumeric]
    exact ⟨rfl, rfl⟩
  · intro hnumeric
    rw [hproper.ofDid?_text_of_not_numeric hnumeric,
      hwithout.ofDid?_text_of_not_numeric hnumeric]
    exact ⟨rfl, rfl⟩

/-! ## A numbered and a named network -/

def sampleOn (network : String) : Issuer :=
  ⟨some network, String.ofList (List.replicate 64 'a'), some "key1"⟩

theorem numbered_network_has_orgId :
    ofText? (sampleOn "4").text = some (sampleOn "4") ∧ (sampleOn "4").HasNumericNetwork ∧
      OrgId.ofDid (sampleOn "4").did = .ok (sampleOn "4").orgId ∧
      OrgId.ofDid (sampleOn "4").text = .ok (sampleOn "4").orgId := by
  have hread : ofText? (sampleOn "4").text = some (sampleOn "4") := by decide +kernel
  have hnumeric : (sampleOn "4").HasNumericNetwork := by
    intro network hnetwork
    cases hnetwork
    exact List.all_eq_true.mp (by decide)
  exact ⟨hread, hnumeric, (orgId_iff_numeric_network hread).1 hnumeric⟩

/-- An issuer is read from the text, and no organisation id. -/
theorem named_network_has_no_orgId :
    ofText? (sampleOn "main").text = some (sampleOn "main") ∧
      OrgId.ofDid (sampleOn "main").did = .error (.badOrgId (sampleOn "main").did) ∧
      OrgId.ofDid (sampleOn "main").text = .error (.badOrgId (sampleOn "main").text) := by
  refine ⟨?_, ?_, ?_⟩ <;> decide +kernel

end Issuer

end FareGateway
