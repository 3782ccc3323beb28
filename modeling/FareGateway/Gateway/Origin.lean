import FareGateway.Correlation.Table
import FareGateway.Text.Cut

/-!
# Origins of entities

An entity is known by its provider, its kind and the provider's own id.  The
three together, with bars between them, are the native key under which the
entity stands in the correlation table.  Read back, the first two bars count, so
an id may hold bars and the id of a provider should not.
-/

namespace FareGateway

inductive EntityKind where
  | offer
  | segment
  | pricePlan
  | itinerary
  deriving DecidableEq, Repr, Inhabited

namespace EntityKind

def tag : EntityKind → String
  | .offer => "offer"
  | .segment => "segment"
  | .pricePlan => "priceplan"
  | .itinerary => "itinerary"

def ofTag? : String → Option EntityKind
  | "offer" => some .offer
  | "segment" => some .segment
  | "priceplan" => some .pricePlan
  | "itinerary" => some .itinerary
  | _ => none

theorem ofTag?_eq_some_iff {text : String} {kind : EntityKind} :
    ofTag? text = some kind ↔ text = kind.tag := by
  constructor
  · intro h
    unfold ofTag? at h
    split at h <;> simp only [Option.some.injEq, reduceCtorEq] at h <;> subst h <;> rfl
  · rintro rfl
    cases kind <;> rfl

theorem bar_not_mem_tag (kind : EntityKind) : '|' ∉ kind.tag.toList := by
  cases kind <;> decide +kernel

end EntityKind

structure Origin where
  provider : String
  kind : EntityKind
  nativeId : String
  deriving DecidableEq, Repr, Inhabited

namespace Origin

def text (origin : Origin) : String :=
  origin.provider ++ "|" ++ origin.kind.tag ++ "|" ++ origin.nativeId

def ofText? (text : String) : Option Origin := do
  let (provider, rest) ← cut '|' text.toList
  let (tag, nativeId) ← cut '|' rest
  let kind ← EntityKind.ofTag? (String.ofList tag)
  some ⟨String.ofList provider, kind, String.ofList nativeId⟩

/-- A native key is read as the one origin whose provider has no bar in its id. -/
theorem ofText?_eq_some_iff {text : String} {origin : Origin} :
    ofText? text = some origin ↔
      '|' ∉ origin.provider.toList ∧ text = origin.text := by
  obtain ⟨provider, kind, nativeId⟩ := origin
  constructor
  · intro h
    simp only [ofText?, bind, Option.bind_eq_some_iff, Prod.exists, cut_eq_some_iff,
      EntityKind.ofTag?_eq_some_iff, Option.some.injEq, Origin.mk.injEq] at h
    obtain ⟨before, rest, ⟨hbefore, htext⟩, tag, native, ⟨-, hrest⟩, found, htag, rfl,
      rfl, rfl⟩ := h
    refine ⟨by simpa using hbefore, ?_⟩
    apply String.toList_injective
    have htag : tag = found.tag.toList := by rw [← htag, String.toList_ofList]
    simp [Origin.text, htext, hrest, htag]
  · rintro ⟨hbar, rfl⟩
    have houter : cut '|' (text ⟨provider, kind, nativeId⟩).toList =
        some (provider.toList, kind.tag.toList ++ '|' :: nativeId.toList) :=
      cut_eq_some_iff.mpr ⟨hbar, by simp [Origin.text]⟩
    have hinner : cut '|' (kind.tag.toList ++ '|' :: nativeId.toList) =
        some (kind.tag.toList, nativeId.toList) :=
      cut_eq_some_iff.mpr ⟨kind.bar_not_mem_tag, rfl⟩
    have hkind : EntityKind.ofTag? kind.tag = some kind :=
      EntityKind.ofTag?_eq_some_iff.mpr rfl
    simp [ofText?, houter, hinner, hkind]

def ofKey (table : Correlation.Table) (key : String) :
    Except Correlation.Error Origin := do
  let nativeKey ← table.nativeKeyOf key
  match ofText? nativeKey with
  | some origin => pure origin
  | none => throw (.notFound key)

end Origin

end FareGateway
