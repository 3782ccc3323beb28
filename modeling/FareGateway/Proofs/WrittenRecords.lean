import FareGateway.Proofs.Lossless
import FareGateway.Proofs.Records

/-!
# Records written without loss

A record is written as the object of all its fields.  Each of them is found in that object
again, under its own name and with what was written for it, whatever may be missing from
other texts of the record.
-/

namespace FareGateway.Json

theorem filter_eq_singleton_of_nodup {fields : Fields} (h : (fields.map Prod.fst).Nodup)
    {entry : String × Value} (hentry : entry ∈ fields) :
    fields.filter (fun member => decide (member.1 = entry.1)) = [entry] := by
  induction fields with
  | nil => exact absurd hentry List.not_mem_nil
  | cons first fields ih =>
      rw [List.map_cons, List.nodup_cons] at h
      rcases List.mem_cons.mp hentry with rfl | hlater
      · have hothers : fields.filter (fun member => decide (member.1 = entry.1)) = [] := by
          refine List.filter_eq_nil_iff.mpr fun member hmember hsame => h.1 ?_
          rw [← of_decide_eq_true hsame]
          exact List.mem_map_of_mem hmember
        rw [List.filter_cons_of_pos (by simp), hothers]
      · have hdifferent : first.1 ≠ entry.1 := by
          intro hsame
          rw [hsame] at h
          exact h.1 (List.mem_map_of_mem hlater)
        rw [List.filter_cons_of_neg (by simp [hdifferent]), ih h.2 hlater]

theorem gatherMembers_of_found {shape : List Field} {fields members : Fields}
    (hnames : fields.map Prod.fst = shape.map Field.name)
    (hfound : ∀ entry ∈ fields,
      members.filter (fun member => decide (member.1 = entry.1)) = [entry]) :
    gatherMembers shape members = some fields := by
  induction shape generalizing fields with
  | nil =>
      rw [List.map_nil, List.map_eq_nil_iff] at hnames
      rw [hnames, gatherMembers]
  | cons field shape ih =>
      obtain ⟨entry, rest, rfl, hname, hrest⟩ := List.map_eq_cons_iff.mp hnames
      obtain ⟨hentry, hothers⟩ := List.forall_mem_cons.mp hfound
      rw [hname] at hentry
      rw [gatherMembers, ih hrest hothers]
      simp only [bind, Option.bind_some, hentry]

/-- The record as it is read again. -/
def Fields.reread (fields : Fields) : Fields :=
  fields.map fun field => (field.1, field.2.reread)

theorem Fields.names_reread (fields : Fields) :
    fields.reread.map Prod.fst = fields.map Prod.fst := by
  rw [Fields.reread, List.map_map]
  rfl

theorem gather_reread_record {shape : List Field} {fields : Fields}
    (hnames : fields.map Prod.fst = shape.map Field.name)
    (hnodup : (shape.map Field.name).Nodup) :
    gather shape (record fields).reread = some fields.reread := by
  have hsame := fields.names_reread.trans hnames
  have hmembers : rereadMembers (fields.map fun field => (unitsOf field.1, field.2)) =
      fields.reread.map fun field => ((unitsOf field.1).map StringUnit.reread, field.2) := by
    rw [rereadMembers_eq_map, Fields.reread, List.map_map, List.map_map]
    rfl
  have hnamed : ∀ field ∈ fields.reread,
      (textOf? ((unitsOf field.1).map StringUnit.reread)).map (·, field.2) = some field := by
    intro field _
    rw [textOf?_reread, Option.map_some]
  change ((rereadMembers (fields.map fun field => (unitsOf field.1, field.2))).mapM
      (fun member => (textOf? member.1).map (·, member.2))).bind (gatherMembers shape) = _
  rw [hmembers, mapM_map_eq_some hnamed, Option.bind_some]
  apply gatherMembers_of_found hsame
  intro entry hentry
  exact filter_eq_singleton_of_nodup (hsame ▸ hnodup) hentry

/-! ## The parts of a record -/

/-- A field of a record with its type, and what stands for it where it is missing. -/
structure Part (ρ : Type) where
  {α : Type}
  [codec : Codec α]
  [lossless : Lossless α]
  field : Field
  get : ρ → α
  absent : Option α
  onCalendar_absent : ∀ value ∈ absent, OnCalendar value

namespace Part

variable {ρ : Type}

section

variable {α : Type} [Codec α] [Lossless α] (name : String) (get : ρ → α)

def required : Part ρ := ⟨⟨name, .required⟩, get, none, nofun⟩

def nullable : Part ρ := ⟨⟨name, .nullable⟩, get, none, nofun⟩

def defaulted (default : α) (h : OnCalendar default) : Part ρ :=
  ⟨⟨name, .defaulted⟩, get, some default, fun _ hvalue => Option.some.inj hvalue ▸ h⟩

end

instance (part : Part ρ) : Codec part.α := part.codec

instance (part : Part ρ) : Lossless part.α := part.lossless

def read? (part : Part ρ) (fields : Fields) : Option part.α :=
  match part.absent with
  | none => fields.read? part.field.name
  | some value => fields.readD? part.field.name value

def entry (part : Part ρ) (record : ρ) : String × Value :=
  (part.field.name, encode (part.get record))

theorem onCalendar_of_read? {part : Part ρ} {fields : Fields} {value : part.α}
    (h : part.read? fields = some value) : OnCalendar value := by
  unfold read? at h
  split at h
  · obtain ⟨json, -, hjson⟩ := Option.bind_eq_some_iff.mp h
    exact onCalendar_of_decode? hjson
  · next default hdefault =>
      unfold Fields.readD? at h
      split at h
      · exact onCalendar_of_decode? h
      · exact part.onCalendar_absent value (hdefault.trans h)

theorem read?_eq_decode? {part : Part ρ} {fields : Fields} {json : Value}
    (h : Entries.get? part.field.name fields = some json) :
    part.read? fields = decode? json := by
  unfold read? Fields.read? Fields.readD?
  rw [h]
  cases part.absent <;> rfl

section

variable {α : Type} [Codec α] [Lossless α] {name : String} {get : ρ → α} {fields : Fields}
  {record : ρ}

@[simp] theorem read?_required_iff :
    (required name get).read? fields = some ((required name get).get record) ↔
      fields.read? name = some (get record) :=
  Iff.rfl

@[simp] theorem read?_nullable_iff :
    (nullable name get).read? fields = some ((nullable name get).get record) ↔
      fields.read? name = some (get record) :=
  Iff.rfl

@[simp] theorem read?_defaulted_iff {default : α} {h : OnCalendar default} :
    (defaulted name get default h).read? fields =
        some ((defaulted name get default h).get record) ↔
      fields.readD? name default = some (get record) :=
  Iff.rfl

@[simp] theorem field_required : (required name get).field = ⟨name, .required⟩ := rfl

@[simp] theorem field_nullable : (nullable name get).field = ⟨name, .nullable⟩ := rfl

@[simp] theorem field_defaulted {default : α} {h : OnCalendar default} :
    (defaulted name get default h).field = ⟨name, .defaulted⟩ := rfl

end

end Part

class IsRecord (ρ : Type) [Codec ρ] where
  parts : List (Part ρ)
  nodup_names : (parts.map fun part => part.field.name).Nodup
  encode_eq (value : ρ) : encode value = record (parts.map fun part => part.entry value)
  decode?_eq_some_iff {json : Value} {value : ρ} : decode? json = some value ↔
    ∃ fields, gather (parts.map Part.field) json = some fields ∧
      ∀ part ∈ parts, part.read? fields = some (part.get value)

section

variable {ρ : Type} [Codec ρ] [IsRecord ρ]

/-- The fields of a value as they are written. -/
def entriesOf (value : ρ) : Fields := IsRecord.parts.map fun part => part.entry value

theorem names_entriesOf (value : ρ) :
    (entriesOf value).map Prod.fst =
      ((IsRecord.parts : List (Part ρ)).map Part.field).map Field.name := by
  unfold entriesOf
  rw [List.map_map, List.map_map]
  rfl

theorem nodup_names_parts :
    (((IsRecord.parts : List (Part ρ)).map Part.field).map Field.name).Nodup := by
  rw [List.map_map]
  exact IsRecord.nodup_names

theorem get?_reread_entriesOf {value : ρ} {part : Part ρ} (h : part ∈ IsRecord.parts) :
    Entries.get? part.field.name (entriesOf value).reread =
      some (encode (part.get value)).reread := by
  have hnodup : ((entriesOf value).reread.map Prod.fst).Nodup := by
    rw [Fields.names_reread, names_entriesOf]
    exact nodup_names_parts
  apply (Entries.get?_eq_some_iff_mem hnodup).mpr
  unfold Fields.reread entriesOf
  rw [List.map_map]
  exact List.mem_map.mpr ⟨part, h, rfl⟩

instance : RejectsNull ρ where
  decode?_null := by
    apply Option.eq_none_iff_forall_ne_some.mpr
    intro value hvalue
    obtain ⟨fields, hfields, -⟩ := IsRecord.decode?_eq_some_iff.mp hvalue
    cases hfields

instance : Lossless ρ where
  amounts value := IsRecord.parts.flatMap fun part => amounts (part.get value)
  OnCalendar value := ∀ part ∈ IsRecord.parts, OnCalendar (part.get value)
  isProper_encode value := by
    rw [IsRecord.encode_eq]
    refine areProperMembers_iff.mpr fun member hmember => ?_
    simp only [List.map_map, List.mem_map] at hmember
    obtain ⟨part, -, rfl⟩ := hmember
    exact isProper_encode (part.get value)
  onCalendar_of_decode? hjson part hpart := by
    obtain ⟨fields, -, hparts⟩ := IsRecord.decode?_eq_some_iff.mp hjson
    exact Part.onCalendar_of_read? (hparts part hpart)
  decode?_reread {value} hcalendar hamounts := by
    have hgather := gather_reread_record (names_entriesOf value) nodup_names_parts
    rw [IsRecord.encode_eq]
    refine IsRecord.decode?_eq_some_iff.mpr ⟨_, hgather, fun part hpart => ?_⟩
    rw [Part.read?_eq_decode? (get?_reread_entriesOf hpart)]
    refine decode?_reread (hcalendar part hpart) fun x hx => ?_
    exact hamounts x (List.mem_flatMap.mpr ⟨part, hpart, hx⟩)

end

end FareGateway.Json
