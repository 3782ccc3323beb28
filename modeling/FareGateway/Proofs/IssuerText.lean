import FareGateway.Identity.Issuer
import Mathlib.Data.List.TakeWhile

/-!
# The text of an issuer

An issuer is read from a text exactly when it is well formed and the text is its
own.  The network is told from the address by the colon alone, for both are made
of letters and digits.
-/

namespace FareGateway

namespace Issuer

structure IsProper (issuer : Issuer) : Prop where
  network : ∀ network, issuer.network = some network →
    network.toList ≠ [] ∧ ∀ c ∈ network.toList, isAlphanumeric c
  address_length : issuer.address.toList.length = 64
  address : ∀ c ∈ issuer.address.toList, isHexadecimal c
  fragment : ∀ fragment, issuer.fragment = some fragment →
    fragment.toList ≠ [] ∧ ∀ c ∈ fragment.toList, isWord c

/-! ## The parts of the text -/

def networkPart : Option String → List Char
  | none => []
  | some network => network.toList ++ [':']

def fragmentPart : Option String → List Char
  | none => []
  | some fragment => '#' :: fragment.toList

theorem toList_did (issuer : Issuer) :
    issuer.did.toList = didBeginning ++ (networkPart issuer.network ++
      ('0' :: 'x' :: issuer.address.toList)) := by
  have horgId : issuer.orgId.toList = '0' :: 'x' :: issuer.address.toList := by simp [orgId]
  rw [did, String.toList_append, String.toList_append, horgId, List.append_assoc]
  cases issuer.network with
  | none => rfl
  | some network =>
      have hnetwork : (network ++ ":").toList = networkPart (some network) := by
        simp [networkPart]
      rw [← hnetwork]
      rfl

theorem toList_text (issuer : Issuer) :
    issuer.text.toList = didBeginning ++ (networkPart issuer.network ++
      ('0' :: 'x' :: (issuer.address.toList ++ fragmentPart issuer.fragment))) := by
  rw [text, String.toList_append, toList_did]
  cases issuer.fragment <;> simp [fragmentPart]

/-! ## Reading the parts -/

theorem isAlphanumeric_of_isHexadecimal {c : Char} (h : isHexadecimal c) :
    isAlphanumeric c := by
  have hupper : c.isUpper = decide (c.val ≥ 'A'.val ∧ c.val ≤ 'Z'.val) := rfl
  have hlower : c.isLower = (c.val ≥ 'a'.val && c.val ≤ 'z'.val) := rfl
  have halpha : c.isAlpha = (c.isUpper || c.isLower) := rfl
  have hf : 'f'.val.toNat ≤ 'z'.val.toNat := by decide
  have hF : 'F'.val.toNat ≤ 'Z'.val.toNat := by decide
  simp only [isHexadecimal, isAlphanumeric, halpha, hupper, hlower, Bool.or_eq_true,
    Bool.and_eq_true, decide_eq_true_eq, Char.le_def, ge_iff_le,
    UInt32.le_iff_toNat_le] at h ⊢
  rcases h with (hdigit | hletter) | hletter
  · exact .inr hdigit
  · exact .inl (.inr ⟨hletter.1, Nat.le_trans hletter.2 hf⟩)
  · exact .inl (.inl ⟨hletter.1, Nat.le_trans hletter.2 hF⟩)

theorem IsProper.mark_not_mem_did {issuer : Issuer} (h : issuer.IsProper) :
    '#' ∉ issuer.did.toList := by
  have hmark : ¬isAlphanumeric '#' := by decide
  have hbeginning : '#' ∉ didBeginning := by decide
  have haddress : '#' ∉ issuer.address.toList := fun hmem =>
    hmark (isAlphanumeric_of_isHexadecimal (h.address '#' hmem))
  have hnetwork : '#' ∉ networkPart issuer.network := by
    cases hname : issuer.network with
    | none => simp [networkPart]
    | some name =>
        have hname : '#' ∉ name.toList := fun hmem => hmark ((h.network name hname).2 '#' hmem)
        simp [networkPart, hname]
  simp [toList_did, hbeginning, hnetwork, haddress]

theorem fragmentOf?_eq_some_iff {cs : List Char} {fragment : Option String} :
    fragmentOf? cs = some fragment ↔
      cs = fragmentPart fragment ∧
        ∀ word, fragment = some word → word.toList ≠ [] ∧ ∀ c ∈ word.toList, isWord c := by
  constructor
  · intro h
    unfold fragmentOf? at h
    split at h
    · cases h
      exact ⟨rfl, nofun⟩
    · next word =>
        split at h
        · next hword =>
            cases h
            refine ⟨by simp [fragmentPart], ?_⟩
            intro other hother
            cases hother
            simpa using hword
        · cases h
    · cases h
  · rintro ⟨rfl, hword⟩
    cases fragment with
    | none => rfl
    | some word =>
        have hproper : word.toList ≠ [] ∧ word.toList.all isWord := by
          simpa using hword word rfl
        simp [fragmentPart, fragmentOf?, hproper]

/-- A network is found before any rest that does not itself go on with letters or
digits up to a colon. -/
theorem splitNetwork_networkPart {network : Option String} {rest : List Char}
    (hnetwork : ∀ name, network = some name →
      name.toList ≠ [] ∧ ∀ c ∈ name.toList, isAlphanumeric c)
    (hrest : (rest.dropWhile isAlphanumeric).head? ≠ some ':') :
    splitNetwork (networkPart network ++ rest) = (network, rest) := by
  cases network with
  | none =>
      rw [networkPart, List.nil_append, splitNetwork]
      split
      · next c network after htake hdrop =>
          rw [hdrop] at hrest
          exact absurd rfl hrest
      · rfl
  | some name =>
      obtain ⟨hne, hname⟩ := hnetwork name rfl
      have hcolon : isAlphanumeric ':' = false := by decide
      have hsplit : networkPart (some name) ++ rest = name.toList ++ ':' :: rest := by
        simp [networkPart]
      have htake : (name.toList ++ ':' :: rest).takeWhile isAlphanumeric = name.toList := by
        rw [List.takeWhile_append_of_pos hname, List.takeWhile_cons_of_neg (by simp [hcolon]),
          List.append_nil]
      have hdrop : (name.toList ++ ':' :: rest).dropWhile isAlphanumeric = ':' :: rest := by
        rw [List.dropWhile_append_of_pos hname, List.dropWhile_cons_of_neg (by simp [hcolon])]
      obtain ⟨c, letters, hletters⟩ := List.exists_cons_of_ne_nil hne
      have hback : String.ofList (c :: letters) = name := by
        rw [← hletters, String.ofList_toList]
      rw [hsplit, splitNetwork, htake, hdrop, hletters]
      exact congrArg (fun found => (some found, rest)) hback

theorem eq_networkPart_of_takeWhile {p : Char → Bool} {text letters rest : List Char}
    (hne : letters ≠ []) (htake : text.takeWhile p = letters)
    (hdrop : text.dropWhile p = ':' :: rest) :
    text = networkPart (some (String.ofList letters)) ++ rest ∧
      ∀ name, some (String.ofList letters) = some name →
        name.toList ≠ [] ∧ ∀ c ∈ name.toList, p c := by
  refine ⟨?_, fun name hname => ?_⟩
  · rw [← List.takeWhile_append_dropWhile (p := p) (l := text), htake, hdrop]
    simp [networkPart]
  · cases hname
    rw [String.toList_ofList, ← htake]
    exact ⟨htake ▸ hne, fun c hc => List.mem_takeWhile_imp hc⟩

theorem splitNetwork_spec (text : List Char) :
    text = networkPart (splitNetwork text).1 ++ (splitNetwork text).2 ∧
      ∀ name, (splitNetwork text).1 = some name →
        name.toList ≠ [] ∧ ∀ c ∈ name.toList, isAlphanumeric c := by
  unfold splitNetwork
  split
  · next c letters after htake hdrop =>
      exact eq_networkPart_of_takeWhile (List.cons_ne_nil c letters) htake hdrop
  · exact ⟨rfl, nofun⟩

theorem head?_dropWhile_letters {p : Char → Bool} (hmark : p '#' = false) {letters : List Char}
    (h : ∀ c ∈ letters, isAlphanumeric c) (fragment : Option String) :
    ((letters ++ fragmentPart fragment).dropWhile p).head? ≠ some ':' := by
  induction letters with
  | nil => cases fragment <;> simp [fragmentPart, hmark]
  | cons c letters ih =>
      obtain ⟨hletter, hletters⟩ := List.forall_mem_cons.mp h
      by_cases hc : p c
      · rw [List.cons_append, List.dropWhile_cons_of_pos hc]
        exact ih hletters
      · have hcolon : c ≠ ':' := by
          rintro rfl
          exact absurd hletter (by decide)
        simpa [List.dropWhile_cons_of_neg hc] using hcolon

theorem head?_dropWhile_address {address : List Char} (haddress : ∀ c ∈ address, isHexadecimal c)
    (fragment : Option String) :
    (('0' :: 'x' :: (address ++ fragmentPart fragment)).dropWhile isAlphanumeric).head? ≠
      some ':' := by
  have hletters : ∀ c ∈ '0' :: 'x' :: address, isAlphanumeric c := by
    intro c hc
    rcases List.mem_cons.mp hc with rfl | hc
    · rfl
    rcases List.mem_cons.mp hc with rfl | hc
    · rfl
    · exact isAlphanumeric_of_isHexadecimal (haddress c hc)
  exact head?_dropWhile_letters (by decide) hletters fragment

/-- The issuers that are read are the well-formed ones, each from its own text. -/
theorem ofText?_eq_some_iff {text : String} {issuer : Issuer} :
    ofText? text = some issuer ↔ issuer.IsProper ∧ text = issuer.text := by
  rw [ofText?]
  simp only [bind, Option.bind_eq_some_iff, afterBeginning?_eq_some_iff]
  constructor
  · rintro ⟨rest, hrest, after, hafter, h⟩
    split at h
    · next haddress =>
        obtain ⟨fragment, hfragment, hissuer⟩ := Option.bind_eq_some_iff.mp h
        cases hissuer
        obtain ⟨hnetwork, hproper⟩ := splitNetwork_spec rest
        rw [hafter] at hnetwork
        obtain ⟨htail, hword⟩ := fragmentOf?_eq_some_iff.mp hfragment
        constructor
        · constructor
          · exact hproper
          · simpa using haddress.1
          · simpa using haddress.2
          · exact hword
        · apply String.toList_inj.mp
          rw [toList_text, hrest, String.toList_ofList, ← htail, List.take_append_drop]
          exact congrArg (didBeginning ++ ·) hnetwork
    · cases h
  · rintro ⟨hproper, rfl⟩
    have hsplit := splitNetwork_networkPart hproper.network
      (head?_dropWhile_address hproper.address issuer.fragment)
    have htake : (issuer.address.toList ++ fragmentPart issuer.fragment).take 64 =
        issuer.address.toList := List.take_left' hproper.address_length
    have hdrop : (issuer.address.toList ++ fragmentPart issuer.fragment).drop 64 =
        fragmentPart issuer.fragment := List.drop_left' hproper.address_length
    have hhexadecimal : issuer.address.toList.all isHexadecimal := by
      simpa using hproper.address
    have hfragment := fragmentOf?_eq_some_iff.mpr ⟨rfl, hproper.fragment⟩
    refine ⟨_, issuer.toList_text, issuer.address.toList ++ fragmentPart issuer.fragment,
      by rw [hsplit]; rfl, ?_⟩
    rw [htake, hdrop, if_pos ⟨hproper.address_length, hhexadecimal⟩, hsplit, hfragment,
      Option.bind_some, String.ofList_toList]

end Issuer

end FareGateway
