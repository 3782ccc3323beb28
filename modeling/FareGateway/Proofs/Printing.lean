import FareGateway.Json.Codec
import FareGateway.Proofs.Insertion
import FareGateway.Proofs.Spelling

/-!
# What is written is read back

The text that is written for a value spells it, and so the reader finds it there again,
except that a control character without a name comes back as its code unit.  A string
says the same either way.
-/

namespace FareGateway.Json

theorem hexValue?_hexDigit {n : Nat} (h : n < 16) : hexValue? (some (hexDigit n)) = some n := by
  have hall : ∀ m : Fin 16, hexValue? (some (hexDigit m)) = some m.val := by decide
  exact hall ⟨n, h⟩

/-- A part of a string as the reader finds it after it has been written. -/
def StringUnit.reread : StringUnit → StringUnit
  | .char c =>
      if c.toNat < 32 ∧ c.toNat ∉ [8, 9, 10, 12, 13] then .code c.toNat else .char c
  | .code unit => .code (unit % 0x10000)
  | .broken => .char (Char.ofNat 0xFFFD)

mutual

def Value.reread : Value → Value
  | .null => .null
  | .flag value => .flag value
  | .number value => .number value
  | .string units => .string (units.map StringUnit.reread)
  | .array items => .array (rereadItems items)
  | .object members => .object (rereadMembers members)

def rereadItems : List Value → List Value
  | [] => []
  | item :: rest => item.reread :: rereadItems rest

def rereadMembers : List (List StringUnit × Value) → List (List StringUnit × Value)
  | [] => []
  | (key, value) :: rest =>
      (key.map StringUnit.reread, value.reread) :: rereadMembers rest

end

mutual

/-- Its numbers are numbers that can be written. -/
def Value.IsProper : Value → Prop
  | .number number => number.IsProper
  | .array items => AreProper items
  | .object members => AreProperMembers members
  | _ => True

def AreProper : List Value → Prop
  | [] => True
  | item :: rest => item.IsProper ∧ AreProper rest

def AreProperMembers : List (List StringUnit × Value) → Prop
  | [] => True
  | (_, value) :: rest => value.IsProper ∧ AreProperMembers rest

end

/-! ## Writing spells -/

theorem characters_hexCode {unit : Nat} {text rest : List Glyph} {units : List StringUnit}
    (h : Characters text units rest) :
    Characters (('\\' :: 'u' :: hexCode unit).map some ++ text)
      (.code (unit % 0x10000) :: units) rest := by
  have hunit : unit % 0x10000 = unit / 4096 % 16 * 4096 + unit / 256 % 16 * 256 +
      unit / 16 % 16 * 16 + unit % 16 := by
    omega
  rw [hunit]
  exact .numbered (hexValue?_hexDigit (by omega)) (hexValue?_hexDigit (by omega))
    (hexValue?_hexDigit (by omega)) (hexValue?_hexDigit (by omega)) h

theorem characters_escape (c : Char) {text rest : List Glyph} {units : List StringUnit}
    (h : Characters text units rest) :
    Characters ((escape c).map some ++ text) (StringUnit.reread (.char c) :: units) rest := by
  have hback {n : Nat} (hn : c.toNat = n) : c = Char.ofNat n := by
    rw [← hn, Char.ofNat_toNat]
  unfold escape
  split
  · next hquote =>
      subst hquote
      exact .named rfl h
  split
  · next hslash =>
      subst hslash
      exact .named rfl h
  split
  · next hline =>
      subst hline
      exact .named rfl h
  split
  · next htab =>
      subst htab
      exact .named rfl h
  split
  · next hreturn =>
      subst hreturn
      exact .named rfl h
  split
  · next hbackspace =>
      obtain rfl := hback hbackspace
      exact .named rfl h
  split
  · next hfeed =>
      obtain rfl := hback hfeed
      exact .named rfl h
  split
  · next hline htab hreturn hbackspace hfeed hcontrol =>
      have hreread : StringUnit.reread (.char c) = .code (c.toNat % 0x10000) := by
        have hunnamed : c.toNat ∉ [8, 9, 10, 12, 13] := by
          simp only [List.mem_cons, List.not_mem_nil, or_false]
          rintro (hn | hn | hn | hn | hn)
          · exact hbackspace hn
          · exact htab (hback hn)
          · exact hline (hback hn)
          · exact hfeed hn
          · exact hreturn (hback hn)
        rw [StringUnit.reread, if_pos ⟨hcontrol, hunnamed⟩, Nat.mod_eq_of_lt (by omega)]
      rw [hreread]
      exact characters_hexCode h
  · next hquote hslash _ _ _ _ _ hshown =>
      have hreread : StringUnit.reread (.char c) = .char c := by
        simp [StringUnit.reread, hshown]
      rw [hreread]
      exact .plain (Nat.not_lt.mp hshown) hquote hslash h

theorem characters_print (units : List StringUnit) (rest : List Glyph) :
    Characters ((units.flatMap StringUnit.print).map some ++ some '"' :: rest)
      (units.map StringUnit.reread) rest := by
  induction units with
  | nil => exact .done
  | cons unit units ih =>
      simp only [List.flatMap_cons, List.map_append, List.append_assoc, List.map_cons]
      cases unit with
      | char c => exact characters_escape c ih
      | code unit => exact characters_hexCode ih
      | broken => exact .plain (by decide) (by decide) (by decide) ih

theorem key_printString (units : List StringUnit) (rest : List Glyph) :
    Key ((printString units).map some ++ some ':' :: rest) (units.map StringUnit.reread) rest := by
  have hunits := characters_print units (some ':' :: rest)
  simp only [printString, List.map_append, List.map_cons, List.cons_append, List.append_assoc]
  exact .intro hunits .none .none

theorem numeral_print {number : Number} (h : number.IsProper) (rest : List Glyph) :
    Numeral (number.print.map some ++ rest) number rest := by
  have hdigits (digits : List Digit) :
      (digits.map Digit.char).map some = digits.map Digit.glyph := by
    simp [Digit.glyph]
  have hexponent : Exponent ((if number.exponent = [] then []
      else 'e' :: (if number.exponentNegative then ['-'] else []) ++
        number.exponent.map Digit.char).map some ++ rest)
      number.exponentNegative number.exponent rest := by
    split
    · next hempty =>
        rw [hempty, h.not_negative hempty]
        exact .absent
    · next hexponent =>
        have hsign : (if number.exponentNegative then ['-'] else []).map some =
            signOf number.exponentNegative := by
          cases number.exponentNegative <;> rfl
        simp only [List.map_append, List.map_cons, hdigits, hsign, List.cons_append]
        exact .present (.inl rfl) (.inl rfl) hexponent
  have hfraction {afterFraction : List Glyph} : Fraction ((if number.fraction = [] then []
      else '.' :: number.fraction.map Digit.char).map some ++ afterFraction)
      number.fraction afterFraction := by
    split
    · next hempty =>
        rw [hempty]
        exact .absent
    · next hfraction =>
        simp only [List.map_cons, hdigits, List.cons_append]
        exact .present hfraction
  have hsign : (if number.negative then ['-'] else []).map some = signOf number.negative := by
    cases number.negative <;> rfl
  have hnumeral := Numeral.intro h hfraction hexponent
  simpa only [Number.print, List.map_append, hsign, hdigits, List.append_assoc] using hnumeral

mutual

theorem spells_print (value : Value) (h : value.IsProper) (rest : List Glyph) :
    Spells (value.print.map some ++ rest) (.value value.reread) rest := by
  match value with
  | .null => exact .null
  | .flag true => exact .yes
  | .flag false => exact .no
  | .number number => exact .number (numeral_print h rest)
  | .string units =>
      have hunits := characters_print units rest
      simp only [Value.print, printString, List.map_append, List.map_cons, List.cons_append,
        List.append_assoc]
      exact .string hunits
  | .array [] => exact .noItems .none
  | .array (item :: items) =>
      have hitems := spells_printItems (item :: items) (List.cons_ne_nil _ _) h rest
      simp only [Value.print, List.map_append, List.map_cons, List.cons_append,
        List.append_assoc]
      exact .array .none hitems
  | .object [] => exact .noMembers .none
  | .object (member :: members) =>
      have hmembers := spells_printMembers (member :: members) (List.cons_ne_nil _ _) h rest
      simp only [Value.print, List.map_append, List.map_cons, List.cons_append,
        List.append_assoc]
      exact .object .none hmembers

theorem spells_printItems (items : List Value) (hsome : items ≠ []) (h : AreProper items)
    (rest : List Glyph) :
    Spells ((printItems items).map some ++ some ']' :: rest)
      (.items (rereadItems items)) rest := by
  match items with
  | [] => exact absurd rfl hsome
  | [item] => exact .lastItem (spells_print item h.1 _) .none
  | item :: next :: items =>
      have hitems := spells_printItems (next :: items) (List.cons_ne_nil _ _) h.2 rest
      simp only [printItems, List.map_append, List.map_cons, List.append_assoc,
        List.cons_append]
      exact .item (spells_print item h.1 _) .none .none hitems

theorem spells_printMembers (members : List (List StringUnit × Value))
    (hsome : members ≠ []) (h : AreProperMembers members) (rest : List Glyph) :
    Spells ((printMembers members).map some ++ some '\x7d' :: rest)
      (.members (rereadMembers members)) rest := by
  match members with
  | [] => exact absurd rfl hsome
  | [(key, value)] =>
      simp only [printMembers, List.map_append, List.map_cons, List.append_assoc,
        List.cons_append]
      exact .lastMember (key_printString key _) (spells_print value h.1 _) .none
  | (key, value) :: next :: members =>
      have hmembers := spells_printMembers (next :: members) (List.cons_ne_nil _ _) h.2 rest
      simp only [printMembers, List.map_append, List.map_cons, List.append_assoc,
        List.cons_append]
      exact .member (key_printString key _) (spells_print value h.1 _) .none .none hmembers

end

theorem isTextOf_print {value : Value} (h : value.IsProper) :
    IsTextOf (value.print.map some) value.reread :=
  ⟨_, [], .none, by simpa using spells_print value h [], .none⟩

theorem isTextOf_ofList_print {value : Value} (h : value.IsProper)
    (hreread : value.reread = value) :
    IsTextOf ((String.ofList value.print).toList.map some) value := by
  have htext := isTextOf_print h
  rwa [hreread, ← String.toList_ofList (l := value.print)] at htext

theorem read?_write {α : Type} [Codec α] {value : α} (h : (encode value).IsProper) :
    read? (write value) = (decode? (encode value).reread : Option α) := by
  rw [read?, write, parseText?, String.toList_ofList, parse?_of_isTextOf (isTextOf_print h),
    Option.bind_some]

/-! ## Dictionaries of texts -/

theorem decodeUnits_code {unit : Nat} (hunit : unit < 0xD800) (rest : List StringUnit) :
    decodeUnits (.code unit :: rest) =
      (decodeUnits rest).map (Char.ofNat unit :: ·) := by
  have hupper : isUpperSurrogate unit = false := by
    simp [isUpperSurrogate]
    omega
  have hlower : isLowerSurrogate unit = false := by
    simp [isLowerSurrogate]
    omega
  cases rest with
  | nil => simp [decodeUnits, hupper, hlower]
  | cons next rest => cases next <;> simp [decodeUnits, hupper, hlower]

theorem textOf?_reread (text : String) :
    textOf? ((unitsOf text).map StringUnit.reread) = some text := by
  have hdecode (cs : List Char) :
      decodeUnits ((cs.map StringUnit.char).map StringUnit.reread) = some cs := by
    induction cs with
    | nil => rfl
    | cons c cs ih =>
        simp only [List.map_cons, StringUnit.reread]
        split
        · next hcontrol =>
            rw [decodeUnits_code (by omega), ih, Option.map_some, Char.ofNat_toNat]
        · rw [decodeUnits, ih, Option.map_some]
  rw [textOf?, unitsOf, hdecode, Option.map_some, String.ofList_toList]

theorem rereadMembers_eq_map (members : List (List StringUnit × Value)) :
    rereadMembers members =
      members.map fun member => (member.1.map StringUnit.reread, member.2.reread) := by
  induction members with
  | nil => rfl
  | cons member members ih => rw [rereadMembers, ih, List.map_cons]

theorem areProperMembers_iff {members : List (List StringUnit × Value)} :
    AreProperMembers members ↔ ∀ member ∈ members, member.2.IsProper := by
  induction members with
  | nil => simp [AreProperMembers]
  | cons member members ih => simp [AreProperMembers, ih]

theorem mapM_map_eq_some {α β : Type} {f : α → Option β} {g : β → α} {values : List β}
    (h : ∀ value ∈ values, f (g value) = some value) : (values.map g).mapM f = some values := by
  induction values with
  | nil => rfl
  | cons value values ih =>
      obtain ⟨hvalue, hvalues⟩ := List.forall_mem_cons.mp h
      rw [List.map_cons, List.mapM_cons, hvalue, ih hvalues]
      rfl

/-- A dictionary of texts is read back as it was, in the same order. -/
theorem read?_write_texts (texts : Dict String String) :
    (read? (write texts) : Option (Dict String String)) = some texts := by
  have hproper : (encode texts).IsProper := by
    refine areProperMembers_iff.mpr fun member hmember => ?_
    obtain ⟨entry, -, rfl⟩ := List.mem_map.mp hmember
    trivial
  have hentry : ∀ entry ∈ texts.entries,
      decodeMember? ((unitsOf entry.1).map StringUnit.reread, (encode entry.2).reread) =
        some entry := by
    intro entry _
    simp only [decodeMember?, encode, decode?, Value.reread, textOf?_reread]
    rfl
  have hmembers := mapM_map_eq_some hentry
  rw [read?_write hproper]
  change ((rereadMembers (texts.entries.map fun entry =>
    (unitsOf entry.1, encode entry.2))).mapM decodeMember?).map Dict.ofList = some texts
  rw [rereadMembers_eq_map, List.map_map]
  exact (congrArg (Option.map Dict.ofList) hmembers).trans (congrArg some texts.ofList_entries)

end FareGateway.Json
