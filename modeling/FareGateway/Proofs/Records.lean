import FareGateway.Json.Codec
import FareGateway.Proofs.Insertion

/-!
# Records read from objects and arrays

The fields of a record are found in any object that has each of them once.  The
order of the members plays no part, nor do members of other names.  The only other
form of a record is the array of its fields, in their order.  A field with a default
may be missing, but not come twice.
-/

namespace FareGateway

namespace Json

/-- The object has exactly one member of the name, and its value is this one. -/
def HasOnce (members : List (List StringUnit × Value)) (name : String) (value : Value) :
    Prop :=
  ∃ key, members.filter (fun member => decide (textOf? member.1 = some name)) = [(key, value)]

def namedMembers (members : List (List StringUnit × Value)) : Fields :=
  members.map fun member => ((textOf? member.1).getD "", member.2)

theorem mapM_names {members : List (List StringUnit × Value)}
    (h : ∀ member ∈ members, (textOf? member.1).isSome) :
    (members.mapM fun member => (textOf? member.1).map (·, member.2)) =
      some (namedMembers members) := by
  induction members with
  | nil => rfl
  | cons member members ih =>
      obtain ⟨name, hname⟩ := Option.isSome_iff_exists.mp (h member List.mem_cons_self)
      have hrest := ih fun other hother => h other (List.mem_cons_of_mem _ hother)
      rw [List.mapM_cons, hrest, hname]
      simp [namedMembers, hname]

theorem filter_namedMembers_eq {members : List (List StringUnit × Value)}
    (hnames : ∀ member ∈ members, (textOf? member.1).isSome) (name : String) :
    (namedMembers members).filter (fun member => decide (member.1 = name)) =
      (members.filter fun member => decide (textOf? member.1 = some name)).map
        fun member => (name, member.2) := by
  rw [namedMembers, List.filter_map]
  have hsame : members.filter ((fun member : String × Value => decide (member.1 = name)) ∘
      fun member => ((textOf? member.1).getD "", member.2)) =
        members.filter fun member => decide (textOf? member.1 = some name) := by
    refine List.filter_congr fun member hmember => ?_
    obtain ⟨other, hother⟩ := Option.isSome_iff_exists.mp (hnames member hmember)
    simp [hother]
  rw [hsame]
  refine List.map_congr_left fun member hmember => ?_
  have hname : textOf? member.1 = some name := by simpa using (List.mem_filter.mp hmember).2
  rw [hname, Option.getD_some]

theorem filter_namedMembers_iff {members : List (List StringUnit × Value)} {name : String}
    {value : Value} (hnames : ∀ member ∈ members, (textOf? member.1).isSome) :
    (namedMembers members).filter (fun member => decide (member.1 = name)) =
        [(name, value)] ↔ HasOnce members name value := by
  rw [filter_namedMembers_eq hnames, List.map_eq_singleton_iff]
  constructor
  · rintro ⟨⟨key, found⟩, hfound, hvalue⟩
    cases hvalue
    exact ⟨key, hfound⟩
  · rintro ⟨key, hkey⟩
    exact ⟨(key, value), hkey, rfl⟩

/-! ## What a record is gathered from -/

theorem names_of_mapM {members : List (List StringUnit × Value)} {named : Fields}
    (h : (members.mapM fun member => (textOf? member.1).map (·, member.2)) = some named) :
    ∀ member ∈ members, (textOf? member.1).isSome := by
  induction members generalizing named with
  | nil => exact fun _ hmember => nomatch hmember
  | cons member members ih =>
      simp only [List.mapM_cons, bind, Option.bind_eq_some_iff] at h
      obtain ⟨first, hfirst, rest, hrest, -⟩ := h
      obtain ⟨name, hname, -⟩ := Option.map_eq_some_iff.mp hfirst
      exact List.forall_mem_cons.mpr ⟨by simp [hname], ih hrest⟩

section

variable {shape : List Field} (hrequired : ∀ field ∈ shape, field.presence = .required)
  {fields : Fields}

include hrequired

theorem gatherItems_eq_some_iff {items : List Value} :
    gatherItems shape items = some fields ↔
      fields.map Prod.fst = shape.map Field.name ∧ fields.map Prod.snd = items := by
  induction shape generalizing items fields with
  | nil => cases items <;> cases fields <;> simp [gatherItems]
  | cons field shape ih =>
      obtain ⟨hfield, hshape⟩ := List.forall_mem_cons.mp hrequired
      cases items with
      | nil => cases fields <;> simp [gatherItems, hfield]
      | cons item items =>
          cases fields with
          | nil => simp [gatherItems]
          | cons entry fields =>
              simp only [gatherItems, Option.map_eq_some_iff, ih hshape, List.map_cons,
                List.cons.injEq]
              grind

omit hrequired in
theorem gatherMembers_cons_of_required {field : Field} (hfield : field.presence = .required)
    {members : Fields} :
    gatherMembers (field :: shape) members = some fields ↔
      ∃ entry rest, fields = entry :: rest ∧
        members.filter (fun member => decide (member.1 = field.name)) = [entry] ∧
        gatherMembers shape members = some rest := by
  cases hrest : gatherMembers shape members with
  | none => simp [gatherMembers, hrest]
  | some rest =>
      match hfound : members.filter (fun member => decide (member.1 = field.name)) with
      | [] => simp [gatherMembers, hrest, hfound, hfield]
      | [entry] =>
          simp only [gatherMembers, hrest, hfound, bind, Option.bind_some, Option.some.injEq,
            List.cons.injEq, and_true]
          grind
      | _ :: _ :: _ => simp [gatherMembers, hrest, hfound]

theorem gatherMembers_eq_some_iff {members : Fields} :
    gatherMembers shape members = some fields ↔
      fields.map Prod.fst = shape.map Field.name ∧
        ∀ entry ∈ fields,
          members.filter (fun member => decide (member.1 = entry.1)) = [entry] := by
  induction shape generalizing fields with
  | nil => cases fields <;> simp [gatherMembers]
  | cons field shape ih =>
      obtain ⟨hfield, hshape⟩ := List.forall_mem_cons.mp hrequired
      simp only [gatherMembers_cons_of_required hfield, ih hshape]
      constructor
      · rintro ⟨entry, rest, rfl, hentry, hrest, hentries⟩
        have hname : entry.1 = field.name := by
          have hmem := hentry ▸ List.mem_singleton_self entry
          simpa using (List.mem_filter.mp hmem).2
        refine ⟨by rw [List.map_cons, List.map_cons, hname, hrest], ?_⟩
        exact List.forall_mem_cons.mpr ⟨by rwa [hname], hentries⟩
      · rintro ⟨hnames, hentries⟩
        obtain ⟨entry, rest, rfl, hname, hrest⟩ := List.map_eq_cons_iff.mp hnames
        obtain ⟨hentry, hentries⟩ := List.forall_mem_cons.mp hentries
        exact ⟨entry, rest, rfl, hname ▸ hentry, hrest, hentries⟩

theorem gather_eq_some_iff {value : Value} :
    gather shape value = some fields ↔
      fields.map Prod.fst = shape.map Field.name ∧
        ((∃ members, value = .object members ∧
            (∀ member ∈ members, (textOf? member.1).isSome) ∧
            ∀ entry ∈ fields, HasOnce members entry.1 entry.2) ∨
          value = .array (fields.map Prod.snd)) := by
  cases value with
  | object members =>
      simp only [gather, bind, Option.bind_eq_some_iff, Value.object.injEq, reduceCtorEq,
        or_false, exists_eq_left']
      constructor
      · rintro ⟨named, hnamed, h⟩
        have hnames := names_of_mapM hnamed
        rw [mapM_names hnames, Option.some.injEq] at hnamed
        obtain ⟨hfields, hentries⟩ := (gatherMembers_eq_some_iff hrequired).mp h
        refine ⟨hfields, hnames, fun entry hentry => ?_⟩
        rw [← filter_namedMembers_iff hnames, hnamed]
        exact hentries entry hentry
      · rintro ⟨hfields, hnames, hentries⟩
        refine ⟨_, mapM_names hnames, (gatherMembers_eq_some_iff hrequired).mpr
          ⟨hfields, fun entry hentry => ?_⟩⟩
        exact (filter_namedMembers_iff hnames).mpr (hentries entry hentry)
  | array items =>
      simp only [gather, gatherItems_eq_some_iff hrequired, Value.array.injEq, reduceCtorEq,
        false_and, exists_false, false_or, eq_comm (a := items)]
  | _ => simp [gather]

end

/-! ## Records whose fields may all be missing -/

/-- The members of one name. -/
def Fields.named (fields : Fields) (name : String) : Fields :=
  fields.filter fun member => decide (member.1 = name)

theorem Fields.get?_eq_head?_named (fields : Fields) (name : String) :
    Entries.get? name fields = (fields.named name).head?.map Prod.snd := by
  induction fields with
  | nil => rfl
  | cons field fields ih =>
      by_cases hname : field.1 = name
      · simp [Entries.get?, Fields.named, hname]
      · simpa [Entries.get?, Fields.named, hname] using ih

theorem gatherMembers_of_defaulted {shape : List Field}
    (hdefaulted : ∀ field ∈ shape, field.presence = .defaulted) {members fields : Fields} :
    gatherMembers shape members = some fields ↔
      (∀ field ∈ shape, (members.named field.name).length ≤ 1) ∧
        fields = shape.flatMap fun field => members.named field.name := by
  induction shape generalizing fields with
  | nil => simp [gatherMembers, eq_comm]
  | cons field shape ih =>
      obtain ⟨hfield, hshape⟩ := List.forall_mem_cons.mp hdefaulted
      rw [gatherMembers, List.forall_mem_cons, List.flatMap_cons]
      simp only [bind, Option.bind_eq_some_iff, ih hshape, hfield]
      match hfound : members.named field.name with
      | [] =>
          rw [Fields.named] at hfound
          simp [hfound, eq_comm (a := fields)]
      | [entry] =>
          rw [Fields.named] at hfound
          simp [hfound, eq_comm (a := fields)]
      | _ :: _ :: _ =>
          rw [Fields.named] at hfound
          simp [hfound]

theorem get?_flatMap_named (shape : List Field) (members : Fields) (name : String) :
    Entries.get? name (shape.flatMap fun field => members.named field.name) =
      if name ∈ shape.map Field.name then Entries.get? name members else none := by
  induction shape with
  | nil => rfl
  | cons field shape ih =>
      rw [List.flatMap_cons, Entries.get?_append, ih, Fields.named, Entries.get?_filter_key]
      by_cases hname : field.name = name
      · by_cases hmore : name ∈ shape.map Field.name <;> simp [hname, hmore]
      · simp only [List.map_cons, List.mem_cons, Ne.symm hname, hname, if_false, false_or,
          Option.none_or]

/-- A record all of whose fields have defaults is gathered from every object in which none
of them comes twice. -/
theorem gather_object_of_defaulted {shape : List Field}
    (hdefaulted : ∀ field ∈ shape, field.presence = .defaulted)
    {members : List (List StringUnit × Value)} {fields : Fields} :
    gather shape (.object members) = some fields ↔
      (∀ member ∈ members, (textOf? member.1).isSome) ∧
        (∀ field ∈ shape, ((namedMembers members).named field.name).length ≤ 1) ∧
        fields = shape.flatMap fun field => (namedMembers members).named field.name := by
  simp only [gather, bind, Option.bind_eq_some_iff]
  constructor
  · rintro ⟨named, hnamed, h⟩
    have hnames := names_of_mapM hnamed
    rw [mapM_names hnames, Option.some.injEq] at hnamed
    exact ⟨hnames, (gatherMembers_of_defaulted hdefaulted).mp (hnamed ▸ h)⟩
  · rintro ⟨hnames, h⟩
    exact ⟨_, mapM_names hnames, (gatherMembers_of_defaulted hdefaulted).mpr h⟩

/-! ## Texts and numbers -/

theorem decode?_string_eq_some_iff {value : Value} {text : String} :
    (decode? value : Option String) = some text ↔
      ∃ units, value = .string units ∧ textOf? units = some text := by
  cases value <;> simp [decode?]

theorem decode?_binary64_eq_some_iff {value : Value} {x : Binary64} :
    (decode? value : Option Binary64) = some x ↔
      ∃ number, value = .number number ∧ number.toBinary64? = some x := by
  cases value <;> simp [decode?]

end Json

end FareGateway
