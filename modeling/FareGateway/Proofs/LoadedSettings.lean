import FareGateway.Proofs.Parsing
import FareGateway.Proofs.WrittenRecords
import FareGateway.Settings

/-!
# Settings that are loaded

A document gives some of the settings, in any order and among whatever else, and the others
keep their defaults.  Which setting is reported as zero is told by the order in which they
are declared, not by the order of the document.  What is loaded is written as a document
that is loaded as the same.
-/

namespace FareGateway

open Json

/-! ## The settings by name -/

inductive Setting where
  | searchTimeout
  | followUpTimeout
  | routeTtl
  | cleanupInterval
  deriving DecidableEq, Repr

namespace Setting

/-- All settings, in the order in which they are declared. -/
def all : List Setting := [searchTimeout, followUpTimeout, routeTtl, cleanupInterval]

def name : Setting → String
  | searchTimeout => "search_timeout_ms"
  | followUpTimeout => "follow_up_timeout_ms"
  | routeTtl => "offer_route_ttl_seconds"
  | cleanupInterval => "cleanup_interval_seconds"

def get (settings : Settings) : Setting → UInt64
  | searchTimeout => settings.searchTimeoutMs
  | followUpTimeout => settings.followUpTimeoutMs
  | routeTtl => settings.routeTtlSeconds
  | cleanupInterval => settings.cleanupIntervalSeconds

def default : Setting → UInt64 := get {}

def durationMs (settings : Settings) : Setting → Nat
  | searchTimeout => settings.searchTimeoutMs.toNat
  | followUpTimeout => settings.followUpTimeoutMs.toNat
  | routeTtl => settings.routeTtlMs
  | cleanupInterval => settings.cleanupIntervalMs

theorem mem_all (setting : Setting) : setting ∈ all := by
  cases setting <;> decide

theorem forall_mem_map_all {α : Type*} {f : Setting → α} {p : α → Prop} :
    (∀ item ∈ all.map f, p item) ↔ ∀ setting, p (f setting) := by
  rw [List.forall_mem_map]
  exact ⟨fun h setting => h setting setting.mem_all, fun h setting _ => h setting⟩

/-- The settings as fields that may all be missing. -/
def fields : List Field := all.map fun setting => ⟨setting.name, .defaulted⟩

theorem presence_of_mem_fields : ∀ field ∈ fields, field.presence = .defaulted :=
  forall_mem_map_all.mpr fun _ => rfl

theorem default_ne_zero (setting : Setting) : setting.default ≠ 0 := by
  cases setting <;> decide

end Setting

namespace Settings

def ofValues (valueOf : Setting → UInt64) : Settings :=
  ⟨valueOf .searchTimeout, valueOf .followUpTimeout, valueOf .routeTtl,
    valueOf .cleanupInterval⟩

theorem get_ofValues (valueOf : Setting → UInt64) (setting : Setting) :
    setting.get (ofValues valueOf) = valueOf setting := by
  cases setting <;> rfl

theorem firstZero?_eq (settings : Settings) :
    settings.firstZero? =
      (Setting.all.find? fun setting => decide (setting.get settings = 0)).map Setting.name := by
  unfold firstZero?
  simp only [Setting.all, List.find?_cons, Setting.get, List.find?_nil]
  by_cases hsearch : settings.searchTimeoutMs = 0
  · simp [hsearch, Setting.name]
  by_cases hfollow : settings.followUpTimeoutMs = 0
  · simp [hsearch, hfollow, Setting.name]
  by_cases hroute : settings.routeTtlSeconds = 0
  · simp [hsearch, hfollow, hroute, Setting.name]
  by_cases hcleanup : settings.cleanupIntervalSeconds = 0 <;>
    simp [hsearch, hfollow, hroute, hcleanup, Setting.name]

instance : IsRecord Settings where
  parts := Setting.all.map fun setting =>
    .defaulted setting.name (fun settings => setting.get settings) setting.default trivial
  nodup_names := by decide +kernel
  encode_eq _ := rfl
  decode?_eq_some_iff {_ settings} := by
    cases settings
    simp [decode?, Option.bind_eq_some_iff, Setting.all, Setting.name, Setting.get,
      Setting.default]

/-! ## What a document gives -/

theorem readD?_flatMap_fields (given : Fields) (setting : Setting) :
    Fields.readD? (Setting.fields.flatMap fun field => given.named field.name) setting.name
        setting.default = given.readD? setting.name setting.default := by
  have hname : setting.name ∈ Setting.fields.map Field.name := by
    rw [Setting.fields, List.map_map]
    exact List.mem_map_of_mem setting.mem_all
  rw [Fields.readD?, Fields.readD?, get?_flatMap_named, if_pos hname]

/-- The value is a natural number that a setting can have, written with digits alone. -/
def IsCount (value : Value) (n : UInt64) : Prop :=
  ∃ number, value = .number number ∧ number.negative = false ∧ number.fraction = [] ∧
    number.exponent = [] ∧ natOfDigits number.whole = n.toNat

theorem decode?_eq_some_iff_isCount {value : Value} {n : UInt64} :
    (decode? value : Option UInt64) = some n ↔ IsCount value n := by
  cases value with
  | number number =>
      change (number.toNat? UInt64.size).map UInt64.ofNat = some n ↔ _
      rw [Number.toNat?, Number.isInteger]
      constructor
      · intro h
        obtain ⟨found, hfound, rfl⟩ := Option.map_eq_some_iff.mp h
        split at hfound
        · next hnatural =>
            cases hfound
            simp only [Bool.and_eq_true, decide_eq_true_eq, Bool.not_eq_true'] at hnatural
            obtain ⟨⟨⟨hfraction, hexponent⟩, hnegative⟩, hbound⟩ := hnatural
            exact ⟨number, rfl, hnegative, hfraction, hexponent,
              (UInt64.toNat_ofNat_of_lt' hbound).symm⟩
        · cases hfound
      · rintro ⟨_, heq, hnegative, hfraction, hexponent, hvalue⟩
        cases heq
        simp [hnegative, hfraction, hexponent, hvalue, n.toNat_lt_size]
  | _ => simp [decode?, IsCount]

/-- What the members of an object say of the settings: each is given once, as a number, or
not at all. -/
def Gives (members : List (List StringUnit × Value)) (given : Setting → Option UInt64) : Prop :=
  ∀ setting, match given setting with
    | some n => ∃ value, HasOnce members setting.name value ∧ IsCount value n
    | none => ∀ member ∈ members, textOf? member.1 ≠ some setting.name

/-- The members of an object that cannot be read: a name is no text, or a setting comes
twice, or with something else than a number for its value. -/
def Misgives (members : List (List StringUnit × Value)) : Prop :=
  (∃ member ∈ members, textOf? member.1 = none) ∨
    ∃ setting : Setting,
      2 ≤ members.countP (fun member => decide (textOf? member.1 = some setting.name)) ∨
        ∃ member ∈ members, textOf? member.1 = some setting.name ∧ ∀ n, ¬IsCount member.2 n

section

variable {members : List (List StringUnit × Value)}

theorem named_eq_of_gives {given : Setting → Option UInt64}
    (hnames : ∀ member ∈ members, (textOf? member.1).isSome) (h : Gives members given)
    (setting : Setting) :
    match given setting with
    | some n => ∃ value, (namedMembers members).named setting.name = [(setting.name, value)] ∧
        decode? value = some n
    | none => (namedMembers members).named setting.name = [] := by
  have hsetting := h setting
  cases hgiven : given setting with
  | some n =>
      rw [hgiven] at hsetting
      obtain ⟨value, honce, hcount⟩ := hsetting
      exact ⟨value, (filter_namedMembers_iff hnames).mpr honce,
        decode?_eq_some_iff_isCount.mpr hcount⟩
  | none =>
      rw [hgiven] at hsetting
      change (namedMembers members).filter (fun member => decide (member.1 = setting.name)) = []
      rw [filter_namedMembers_eq hnames, List.map_eq_nil_iff, List.filter_eq_nil_iff]
      simpa using hsetting

theorem decode?_object_eq_some_iff {settings : Settings} :
    decode? (.object members) = some settings ↔
      (∀ member ∈ members, (textOf? member.1).isSome) ∧
        ∀ setting : Setting, ((namedMembers members).named setting.name).length ≤ 1 ∧
          (namedMembers members).readD? setting.name setting.default =
            some (setting.get settings) := by
  have hparts (fields : Fields) :
      (∀ part ∈ (IsRecord.parts : List (Json.Part Settings)),
        part.read? fields = some (part.get settings)) ↔
      ∀ setting : Setting, fields.readD? setting.name setting.default =
        some (setting.get settings) :=
    Setting.forall_mem_map_all
  have hgather (fields : Fields) :
      gather (IsRecord.parts.map (Json.Part.field (ρ := Settings))) (.object members) =
        some fields ↔ _ :=
    gather_object_of_defaulted Setting.presence_of_mem_fields
  simp only [IsRecord.decode?_eq_some_iff, hgather, hparts, Setting.fields,
    Setting.forall_mem_map_all]
  constructor
  · rintro ⟨_, ⟨hnames, honce, rfl⟩, hvalues⟩
    exact ⟨hnames, fun setting =>
      ⟨honce setting, (readD?_flatMap_fields _ setting).symm.trans (hvalues setting)⟩⟩
  · rintro ⟨hnames, h⟩
    exact ⟨_, ⟨hnames, fun setting => (h setting).1, rfl⟩,
      fun setting => (readD?_flatMap_fields _ setting).trans (h setting).2⟩

theorem decode?_of_misgives (h : Misgives members) :
    (decode? (.object members) : Option Settings) = none := by
  refine Option.eq_none_iff_forall_ne_some.mpr fun settings hsettings => ?_
  obtain ⟨hnames, hread⟩ := decode?_object_eq_some_iff.mp hsettings
  rcases h with ⟨member, hmember, hname⟩ | ⟨setting, htwice | ⟨member, hmember, hname, hcount⟩⟩
  · have hsome := hnames member hmember
    rw [hname] at hsome
    cases hsome
  · obtain ⟨honce, -⟩ := hread setting
    rw [Fields.named, filter_namedMembers_eq hnames, List.length_map,
      ← List.countP_eq_length_filter] at honce
    omega
  · obtain ⟨honce, hvalue⟩ := hread setting
    have hmem : (setting.name, member.2) ∈ (namedMembers members).named setting.name := by
      rw [Fields.named, filter_namedMembers_eq hnames]
      exact List.mem_map.mpr ⟨member, List.mem_filter.mpr ⟨hmember, by simpa using hname⟩, rfl⟩
    obtain ⟨entry, hentry⟩ := List.length_eq_one_iff.mp
      (Nat.le_antisymm honce (List.length_pos_of_mem hmem))
    rw [hentry, List.mem_singleton] at hmem
    rw [Fields.readD?, Fields.get?_eq_head?_named, hentry, ← hmem] at hvalue
    exact hcount _ (decode?_eq_some_iff_isCount.mp hvalue)

theorem decode?_of_gives {given : Setting → Option UInt64}
    (hnames : ∀ member ∈ members, (textOf? member.1).isSome) (h : Gives members given) :
    decode? (.object members) =
      some (ofValues fun setting => (given setting).getD setting.default) := by
  refine decode?_object_eq_some_iff.mpr ⟨hnames, fun setting => ?_⟩
  rw [get_ofValues, Fields.readD?, Fields.get?_eq_head?_named]
  have hnamed := named_eq_of_gives hnames h setting
  cases hgiven : given setting with
  | some n =>
      rw [hgiven] at hnamed
      obtain ⟨value, hvalue, hcount⟩ := hnamed
      rw [hvalue]
      exact ⟨Nat.le_refl 1, hcount⟩
  | none =>
      rw [hgiven] at hnamed
      have hmissing : (namedMembers members).named setting.name = [] := hnamed
      rw [hmissing]
      exact ⟨Nat.zero_le 1, rfl⟩

end

/-! ## Loading -/

theorem firstZero?_eq_none_iff {settings : Settings} :
    settings.firstZero? = none ↔ ∀ setting : Setting, setting.get settings ≠ 0 := by
  rw [firstZero?_eq, Option.map_eq_none_iff, List.find?_eq_none]
  simp [Setting.mem_all]

theorem ofText_eq_ok_iff {text : String} {settings : Settings} :
    ofText text = .ok settings ↔
      Json.read? text = some settings ∧ ∀ setting : Setting, setting.get settings ≠ 0 := by
  rw [← firstZero?_eq_none_iff, ofText]
  cases hread : (Json.read? text : Option Settings) with
  | none => simp
  | some found =>
      cases hzero : found.firstZero? with
      | none => grind
      | some name => grind

theorem read?_write (settings : Settings) : Json.read? (Json.write settings) = some settings := by
  have hamounts : ∀ x ∈ amounts settings, x.ReadsBack := by
    intro x hx
    obtain ⟨part, hpart, hamount⟩ := List.mem_flatMap.mp hx
    obtain ⟨setting, -, rfl⟩ := List.mem_map.mp hpart
    exact absurd hamount List.not_mem_nil
  exact (read?_write_iff hamounts).mpr (Setting.forall_mem_map_all.mpr fun _ => trivial)

theorem durationMs_pos {settings : Settings} {setting : Setting}
    (h : setting.get settings ≠ 0) : 0 < setting.durationMs settings := by
  have hpos : 0 < (setting.get settings).toNat :=
    Nat.pos_of_ne_zero fun hzero => h (UInt64.toNat_inj.mp hzero)
  cases setting with
  | searchTimeout => exact hpos
  | followUpTimeout => exact hpos
  | routeTtl => exact Nat.mul_pos hpos (by decide)
  | cleanupInterval => exact Nat.mul_pos hpos (by decide)

theorem firstZero?_ofValues (given : Setting → Option UInt64) :
    (ofValues fun setting => (given setting).getD setting.default).firstZero? =
      (Setting.all.find? fun setting => decide (given setting = some 0)).map Setting.name := by
  have hzero (setting : Setting) :
      (given setting).getD setting.default = 0 ↔ given setting = some 0 := by
    cases given setting with
    | none => simpa using setting.default_ne_zero
    | some n => simp
  simp only [firstZero?_eq, get_ofValues, hzero]

/--
Settings are loaded from what a document gives.  An object that gives each setting once, as a
number, or not at all, is loaded with the defaults for what is missing, unless something is
given as zero: then the first of these settings in the order of their declaration is
reported.  An object that gives a setting twice or not as a number is not read at all.  What
is loaded has positive times only, and is loaded again from the text that is written for it.
-/
theorem settings_are_loaded_as_given :
    (∀ (text : String) (members : List (List StringUnit × Value)),
      IsTextOf (text.toList.map some) (.object members) →
        (∀ given : Setting → Option UInt64, (∀ member ∈ members, (textOf? member.1).isSome) →
          Gives members given →
            ofText text =
              match Setting.all.find? fun setting => decide (given setting = some 0) with
              | some first => .error (.zero first.name)
              | none => .ok (ofValues fun setting => (given setting).getD setting.default)) ∧
        (Misgives members → ofText text = .error .unreadable)) ∧
    ∀ (text : String) (settings : Settings), ofText text = .ok settings →
      (∀ setting : Setting, 0 < setting.durationMs settings) ∧
        ofText (Json.write settings) = .ok settings := by
  refine ⟨fun text members htext => ⟨fun given hnames hgives => ?_, fun hmisgives => ?_⟩,
    fun text settings hloaded => ?_⟩
  · have hread : Json.read? text =
        some (ofValues fun setting => (given setting).getD setting.default) := by
      rw [Json.read?, parseText?, parse?_of_isTextOf htext, Option.bind_some,
        decode?_of_gives hnames hgives]
    rw [ofText, hread]
    simp only [firstZero?_ofValues]
    cases Setting.all.find? fun setting => decide (given setting = some 0) <;> rfl
  · have hread : (Json.read? text : Option Settings) = none := by
      rw [Json.read?, parseText?, parse?_of_isTextOf htext, Option.bind_some,
        decode?_of_misgives hmisgives]
    rw [ofText, hread]
  · have hpositive := (ofText_eq_ok_iff.mp hloaded).2
    exact ⟨fun setting => durationMs_pos (hpositive setting),
      ofText_eq_ok_iff.mpr ⟨read?_write settings, hpositive⟩⟩

def sampleMember (name : String) (n : UInt64) : List StringUnit × Value :=
  (unitsOf name, encode n)

/-- Two settings as zero, the one that is declared later first, and a member that is not
read. -/
def zeroMembers : List (List StringUnit × Value) :=
  [sampleMember "cleanup_interval_seconds" 0, (unitsOf "comment", .null),
    sampleMember "offer_route_ttl_seconds" 0]

def twiceMembers : List (List StringUnit × Value) :=
  [sampleMember "search_timeout_ms" 2500, sampleMember "search_timeout_ms" 2500]

def sampleText (members : List (List StringUnit × Value)) : String :=
  String.ofList (Value.object members).print

theorem sample_settings_are_reported :
    let given : Setting → Option UInt64 := fun setting =>
      if setting = .routeTtl ∨ setting = .cleanupInterval then some 0 else none
    IsTextOf ((sampleText zeroMembers).toList.map some) (.object zeroMembers) ∧
      Gives zeroMembers given ∧ Misgives twiceMembers ∧
      ofText (sampleText zeroMembers) = .error (.zero "offer_route_ttl_seconds") ∧
      ofText (sampleText twiceMembers) = .error .unreadable ∧
      ofText (sampleText []) = .ok {} ∧ ofText (Json.write ({} : Settings)) = .ok {} := by
  intro given
  have hnumber (n : UInt64) : (encode n).IsProper := isProper_encode n
  have hzeros : IsTextOf ((sampleText zeroMembers).toList.map some) (.object zeroMembers) :=
    isTextOf_ofList_print ⟨hnumber 0, trivial, hnumber 0, trivial⟩ (by rfl)
  have htwice : IsTextOf ((sampleText twiceMembers).toList.map some) (.object twiceMembers) :=
    isTextOf_ofList_print ⟨hnumber 2500, hnumber 2500, trivial⟩ (by rfl)
  have hempty : IsTextOf ((sampleText []).toList.map some) (.object []) :=
    isTextOf_ofList_print trivial (by rfl)
  have hgives : Gives zeroMembers given := by
    intro setting
    cases setting with
    | searchTimeout =>
        exact (by decide : ∀ member ∈ zeroMembers, textOf? member.1 ≠ some "search_timeout_ms")
    | followUpTimeout =>
        exact (by decide : ∀ member ∈ zeroMembers, textOf? member.1 ≠ some "follow_up_timeout_ms")
    | routeTtl => exact ⟨_, ⟨_, by rfl⟩, decode?_eq_some_iff_isCount.mp (by decide +kernel)⟩
    | cleanupInterval =>
        exact ⟨_, ⟨_, by rfl⟩, decode?_eq_some_iff_isCount.mp (by decide +kernel)⟩
  have hmisgives : Misgives twiceMembers := .inr ⟨.searchTimeout, .inl (by decide)⟩
  obtain ⟨hloaded, hkept⟩ := settings_are_loaded_as_given
  have hdefault : ofText (sampleText []) = .ok {} :=
    (hloaded _ _ hempty).1 (fun _ => none) (by decide) (fun _ _ hmember => nomatch hmember)
  exact ⟨hzeros, hgives, hmisgives, (hloaded _ _ hzeros).1 given (by decide) hgives,
    (hloaded _ _ htwice).2 hmisgives, hdefault, (hkept _ _ hdefault).2⟩

end Settings
end FareGateway
