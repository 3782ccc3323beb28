import FareGateway.Proofs.WrittenNumbers

/-!
# Types whose values are written without loss

A value is read again from the text that is written for it if its dates and instants are
such as the calendar has; any value that is read has such.  Binary64 numbers are taken as
they come: whether one is read back from its own shortest digits is asked of each number in
the value.
-/

namespace FareGateway

/-- The text that is written for the number is read as the number. -/
def Binary64.ReadsBack (x : Binary64) : Prop := Json.read? (Json.write x) = some x

namespace Json

class Lossless (α : Type) [Codec α] where
  /-- The binary64 numbers in a value. -/
  amounts : α → List Binary64
  /-- The dates and instants in a value are in the range of the calendar. -/
  OnCalendar : α → Prop
  isProper_encode (value : α) : (encode value).IsProper
  onCalendar_of_decode? {json : Value} {value : α} :
    decode? json = some value → OnCalendar value
  decode?_reread {value : α} : OnCalendar value → (∀ x ∈ amounts value, x.ReadsBack) →
    decode? (encode value).reread = some value

export Lossless (amounts OnCalendar isProper_encode onCalendar_of_decode? decode?_reread)

/-- No value is said by null. -/
class RejectsNull (α : Type) [Codec α] : Prop where
  decode?_null : (decode? .null : Option α) = none

/-! ## Flags, texts and numbers -/

instance : Lossless Bool where
  amounts _ := []
  OnCalendar _ := True
  isProper_encode _ := trivial
  onCalendar_of_decode? _ := trivial
  decode?_reread _ _ := rfl

instance : Lossless String where
  amounts _ := []
  OnCalendar _ := True
  isProper_encode _ := trivial
  onCalendar_of_decode? _ := trivial
  decode?_reread _ _ := textOf?_reread _

instance : RejectsNull String := ⟨rfl⟩

theorem toNat?_ofNat {n bound : Nat} (h : n < bound) :
    (Number.ofNat n).toNat? bound = some n := by
  unfold Number.toNat? Number.ofNat
  simp [Number.isInteger, natOfDigits_digitsOf, h]

instance : Lossless UInt32 where
  amounts _ := []
  OnCalendar _ := True
  isProper_encode n := isProper_ofNat n.toNat
  onCalendar_of_decode? _ := trivial
  decode?_reread {n} _ _ := by
    change ((Number.ofNat n.toNat).toNat? UInt32.size).map UInt32.ofNat = some n
    rw [toNat?_ofNat n.toNat_lt_size, Option.map_some, UInt32.ofNat_toNat]

instance : Lossless UInt64 where
  amounts _ := []
  OnCalendar _ := True
  isProper_encode n := isProper_ofNat n.toNat
  onCalendar_of_decode? _ := trivial
  decode?_reread {n} _ _ := by
    change ((Number.ofNat n.toNat).toNat? UInt64.size).map UInt64.ofNat = some n
    rw [toNat?_ofNat n.toNat_lt_size, Option.map_some, UInt64.ofNat_toNat]

instance : Lossless Binary64 where
  amounts x := [x]
  OnCalendar _ := True
  isProper_encode x := isProper_ofBinary64 x
  onCalendar_of_decode? _ := trivial
  decode?_reread {x} _ h := by
    rw [← read?_write (isProper_ofBinary64 x)]
    exact h x List.mem_cons_self

/-! ## Lists, dictionaries and what may be missing -/

theorem areProper_iff {items : List Value} :
    AreProper items ↔ ∀ item ∈ items, item.IsProper := by
  induction items with
  | nil => simp [AreProper]
  | cons item items ih => simp [AreProper, ih]

theorem rereadItems_eq_map (items : List Value) :
    rereadItems items = items.map Value.reread := by
  induction items with
  | nil => rfl
  | cons item items ih => rw [rereadItems, ih, List.map_cons]

theorem exists_mem_of_mapM {α β : Type} {f : α → Option β} {items : List α} {values : List β}
    (h : items.mapM f = some values) {value : β} (hvalue : value ∈ values) :
    ∃ item ∈ items, f item = some value := by
  induction items generalizing values with
  | nil =>
      cases h
      exact absurd hvalue List.not_mem_nil
  | cons item items ih =>
      simp only [List.mapM_cons, bind, pure, Option.bind_eq_some_iff, Option.some.injEq] at h
      obtain ⟨first, hfirst, rest, hrest, rfl⟩ := h
      rcases List.mem_cons.mp hvalue with rfl | hlater
      · exact ⟨item, List.mem_cons_self, hfirst⟩
      · obtain ⟨found, hmem, hfound⟩ := ih hrest hlater
        exact ⟨found, List.mem_cons_of_mem _ hmem, hfound⟩

section

variable {α : Type} [Codec α] [Lossless α]

instance : Lossless (List α) where
  amounts values := values.flatMap amounts
  OnCalendar values := ∀ value ∈ values, OnCalendar value
  isProper_encode values := by
    refine areProper_iff.mpr fun item hitem => ?_
    obtain ⟨value, -, rfl⟩ := List.mem_map.mp hitem
    exact isProper_encode value
  onCalendar_of_decode? {json values} hjson value hvalue := by
    cases json with
    | array items =>
        obtain ⟨item, -, hitem⟩ := exists_mem_of_mapM hjson hvalue
        exact onCalendar_of_decode? hitem
    | _ => cases hjson
  decode?_reread {values} hcalendar hamounts := by
    have hread : ∀ value ∈ values, decode? (encode value).reread = some value :=
      fun value hvalue => decode?_reread (hcalendar value hvalue) fun x hx =>
        hamounts x (List.mem_flatMap.mpr ⟨value, hvalue, hx⟩)
    change (rereadItems (values.map encode)).mapM decode? = some values
    rw [rereadItems_eq_map, List.map_map]
    exact mapM_map_eq_some hread

instance : Lossless (Dict String α) where
  amounts dict := dict.entries.flatMap fun entry => amounts entry.2
  OnCalendar dict := ∀ entry ∈ dict.entries, OnCalendar entry.2
  isProper_encode dict := by
    refine areProperMembers_iff.mpr fun member hmember => ?_
    obtain ⟨entry, -, rfl⟩ := List.mem_map.mp hmember
    exact isProper_encode entry.2
  onCalendar_of_decode? {json dict} hjson entry hentry := by
    cases json with
    | object members =>
        obtain ⟨pairs, hpairs, rfl⟩ := Option.map_eq_some_iff.mp hjson
        obtain ⟨member, -, hmember⟩ :=
          exists_mem_of_mapM hpairs (Dict.mem_of_mem_entries_ofList hentry)
        simp only [decodeMember?, bind, Option.bind_eq_some_iff] at hmember
        obtain ⟨key, -, value, hvalue, hpair⟩ := hmember
        cases hpair
        exact onCalendar_of_decode? hvalue
    | _ => cases hjson
  decode?_reread {dict} hcalendar hamounts := by
    have hentry : ∀ entry ∈ dict.entries,
        decodeMember? ((unitsOf entry.1).map StringUnit.reread, (encode entry.2).reread) =
          some entry := by
      intro entry hmem
      have hread := decode?_reread (hcalendar entry hmem) fun x hx =>
        hamounts x (List.mem_flatMap.mpr ⟨entry, hmem, hx⟩)
      simp only [decodeMember?, textOf?_reread, hread]
      rfl
    change ((rereadMembers (dict.entries.map fun entry =>
      (unitsOf entry.1, encode entry.2))).mapM decodeMember?).map Dict.ofList = some dict
    rw [rereadMembers_eq_map, List.map_map]
    have hmembers := mapM_map_eq_some hentry
    exact (congrArg (Option.map Dict.ofList) hmembers).trans (congrArg some dict.ofList_entries)

theorem onCalendar_empty : OnCalendar (∅ : Dict String α) :=
  fun _ hentry => absurd hentry List.not_mem_nil

instance [RejectsNull α] : Lossless (Option α) where
  amounts value := value.elim [] amounts
  OnCalendar value := ∀ present ∈ value, OnCalendar present
  isProper_encode value := by
    cases value with
    | none => trivial
    | some value => exact isProper_encode value
  onCalendar_of_decode? {json value} hjson present hpresent := by
    obtain rfl : value = some present := hpresent
    cases json with
    | null => cases hjson
    | _ =>
        obtain ⟨found, hfound, hsame⟩ := Option.map_eq_some_iff.mp hjson
        cases hsame
        exact onCalendar_of_decode? hfound
  decode?_reread {value} hcalendar hamounts := by
    cases value with
    | none => rfl
    | some value =>
        have hread : (decode? (encode value).reread : Option α) = some value :=
          decode?_reread (hcalendar value rfl) hamounts
        -- What is written for the value is not null, or it would not be read as the value.
        have hshown : (encode value).reread ≠ .null := by
          intro hnull
          rw [hnull, RejectsNull.decode?_null] at hread
          cases hread
        change (match (encode value).reread with
          | .null => some none
          | json => (decode? json).map some) = some (some value)
        split
        · next hnull => exact absurd hnull hshown
        · rw [hread, Option.map_some]

end

section

variable {α : Type} [Codec α] [Lossless α] {value : α}

theorem onCalendar_of_read? {text : String} (h : read? text = some value) :
    OnCalendar value := by
  obtain ⟨json, -, hvalue⟩ := Option.bind_eq_some_iff.mp h
  exact onCalendar_of_decode? hvalue

/-- A value is read back just when the calendar has its dates and instants. -/
theorem read?_write_iff (hamounts : ∀ x ∈ amounts value, x.ReadsBack) :
    read? (write value) = some value ↔ OnCalendar value := by
  refine ⟨onCalendar_of_read?, fun hcalendar => ?_⟩
  rw [read?_write (isProper_encode value)]
  exact decode?_reread hcalendar hamounts

end

end Json

end FareGateway
