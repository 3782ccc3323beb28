import FareGateway.Proofs.Spelling

/-!
# Only what is spelled is read

Whatever the reader accepts is spelled as the grammar has it: each scanner takes from
the front of a text what one part of the grammar allows there.  Since every text of a
value is read as that value, the reader accepts the texts of the grammar and no others.
-/

namespace FareGateway.Json

/-! ## Scanners -/

theorem blanks_skipSpace (text : List Glyph) : Blanks text (skipSpace text) := by
  induction text with
  | nil => exact .none
  | cons glyph text ih =>
      by_cases hspace : isSpace glyph
      · rw [skipSpace, List.dropWhile_cons_of_pos hspace]
        exact .more hspace ih
      · rw [skipSpace, List.dropWhile_cons_of_neg hspace]
        exact .none

theorem blanks_of_skipSpace_eq {text rest : List Glyph} (h : skipSpace text = rest) :
    Blanks text rest := by
  rw [← h]
  exact blanks_skipSpace text

theorem eq_glyph_of_digit?_eq_some {glyph : Glyph} {digit : Digit}
    (h : digit? glyph = some digit) : glyph = digit.glyph := by
  match glyph, h with
  | some c, h =>
      simp only [digit?] at h
      split at h
      · cases h
      split at h
      · next hlow _ =>
          cases h
          have hcode : 48 + (c.toNat - 48) = c.toNat := by omega
          simp only [Digit.glyph, Digit.char, hcode, Char.ofNat_toNat]
      · cases h

theorem eq_append_of_takeDigits_eq {text rest : List Glyph} {digits : List Digit}
    (h : takeDigits text = (digits, rest)) : text = digits.map Digit.glyph ++ rest := by
  induction text generalizing digits with
  | nil =>
      cases h
      rfl
  | cons glyph text ih =>
      cases hdigit : digit? glyph with
      | none =>
          simp only [takeDigits, hdigit] at h
          cases h
          rfl
      | some digit =>
          simp only [takeDigits, hdigit, Prod.mk.injEq] at h
          obtain ⟨rfl, hrest⟩ := h
          rw [List.map_cons, List.cons_append, ← eq_glyph_of_digit?_eq_some hdigit]
          exact congrArg _ (ih (Prod.ext rfl hrest))

theorem eq_append_of_readDigits?_eq_some {text rest : List Glyph} {digits : List Digit}
    (h : readDigits? text = some (digits, rest)) :
    digits ≠ [] ∧ text = digits.map Digit.glyph ++ rest := by
  unfold readDigits? at h
  split at h
  · cases h
  · next hsome =>
      have h := Option.some.inj h
      refine ⟨?_, eq_append_of_takeDigits_eq h⟩
      rintro rfl
      exact hsome _ h

theorem fraction_of_readFraction?_eq_some {text rest : List Glyph} {digits : List Digit}
    (h : readFraction? text = some (digits, rest)) : Fraction text digits rest := by
  unfold readFraction? at h
  split at h
  · obtain ⟨hdigits, rfl⟩ := eq_append_of_readDigits?_eq_some h
    exact .present hdigits
  · cases h
    exact .absent

theorem exponent_of_readExponent?_eq_some {text rest : List Glyph} {negative : Bool}
    {digits : List Digit} (h : readExponent? text = some (negative, digits, rest)) :
    Exponent text negative digits rest := by
  have hpresent {mark : Char} {sign more : List Glyph} (hmark : mark = 'e' ∨ mark = 'E')
      (hsign : sign = signOf negative ∨ sign = [some '+'] ∧ negative = false)
      (hdigits : readDigits? more = some (digits, rest)) :
      Exponent (some mark :: (sign ++ more)) negative digits rest := by
    obtain ⟨hsome, rfl⟩ := eq_append_of_readDigits?_eq_some hdigits
    rw [← List.append_assoc]
    exact .present hmark hsign hsome
  unfold readExponent? at h
  split at h
  · next mark more =>
      split at h
      · next hmark =>
          split at h <;>
            (obtain ⟨found, hdigits, hfound⟩ := Option.map_eq_some_iff.mp h; cases hfound)
          · exact hpresent hmark (.inl rfl) hdigits
          · exact hpresent hmark (.inr ⟨rfl, rfl⟩) hdigits
          · exact hpresent hmark (.inl rfl) hdigits
      · cases h
        exact .absent
  · cases h
    exact .absent

theorem numeral_of_readUnsigned?_eq_some {negative : Bool} {text rest : List Glyph}
    {number : Number} (h : readUnsigned? negative text = some (number, rest)) :
    Numeral (signOf negative ++ text) number rest := by
  simp only [readUnsigned?, bind, Option.bind_eq_some_iff, Prod.exists] at h
  obtain ⟨whole, afterWhole, hwhole, fraction, afterFraction, hfraction, exponentNegative,
    exponent, afterExponent, hexponent, hnumber⟩ := h
  cases hnumber
  simp only [readWhole?, bind, Option.bind_eq_some_iff, Prod.exists] at hwhole
  obtain ⟨digits, more, hdigits, hzero⟩ := hwhole
  split at hzero
  · cases hzero
  next hzero =>
  cases hzero
  obtain ⟨hsome, rfl⟩ := eq_append_of_readDigits?_eq_some hdigits
  have hexponent := exponent_of_readExponent?_eq_some hexponent
  have hproper : Number.IsProper ⟨negative, whole, fraction, exponentNegative, exponent⟩ := by
    refine ⟨hsome, fun hhead => ?_, fun hnil => ?_⟩
    · exact Classical.byContradiction fun hlength => hzero ⟨hhead, hlength⟩
    · cases hexponent with
      | absent => rfl
      | present _ _ hdigits => exact absurd hnil hdigits
  rw [← List.append_assoc]
  exact .intro hproper (fraction_of_readFraction?_eq_some hfraction) hexponent

theorem numeral_of_readNumber?_eq_some {text rest : List Glyph} {number : Number}
    (h : readNumber? text = some (number, rest)) : Numeral text number rest := by
  unfold readNumber? at h
  split at h
  · exact numeral_of_readUnsigned?_eq_some h
  · exact numeral_of_readUnsigned?_eq_some h

theorem characters_of_readString?_eq_some {text rest : List Glyph} {units : List StringUnit}
    (h : readString? text = some (units, rest)) : Characters text units rest := by
  fun_induction readString? text generalizing units with
  | case1 => cases h
  | case2 =>
      cases h
      exact .done
  | case3 a b c d more ih =>
      simp only [bind, Option.bind_eq_some_iff, Prod.exists] at h
      obtain ⟨first, hfirst, second, hsecond, third, hthird, fourth, hfourth, found, after,
        hmore, hunits⟩ := h
      cases hunits
      exact .numbered hfirst hsecond hthird hfourth (ih hmore)
  | case4 glyph more _ ih =>
      simp only [bind, Option.bind_eq_some_iff, Prod.exists] at h
      obtain ⟨c, hescape, found, after, hmore, hunits⟩ := h
      cases hunits
      exact .named hescape (ih hmore)
  | case5 => cases h
  | case6 c more hquote _ _ hkept ih =>
      simp only [bind, Option.bind_eq_some_iff, Prod.exists] at h
      obtain ⟨found, after, hmore, hunits⟩ := h
      cases hunits
      obtain ⟨hshown, hslash⟩ := not_or.mp hkept
      exact .plain (Nat.not_lt.mp hshown) hquote hslash (ih hmore)
  | case7 more ih =>
      simp only [bind, Option.bind_eq_some_iff, Prod.exists] at h
      obtain ⟨found, after, hmore, hunits⟩ := h
      cases hunits
      exact .broken (ih hmore)

theorem eq_append_of_expect?_eq_some {word : List Char} {text rest : List Glyph}
    (h : expect? word text = some rest) : text = word.map some ++ rest := by
  induction word generalizing text with
  | nil =>
      cases h
      rfl
  | cons c word ih =>
      match text, h with
      | some d :: text, h =>
          simp only [expect?] at h
          split at h
          · next hc => rw [ih h, hc, List.map_cons, List.cons_append]
          · cases h

theorem key_of_readKey?_eq_some {text rest : List Glyph} {units : List StringUnit}
    (h : readKey? text = some (units, rest)) : Key text units rest := by
  simp only [readKey?, bind, Option.bind_eq_some_iff, Prod.exists] at h
  obtain ⟨more, hquote, name, afterName, hname, afterColon, hcolon, hunits⟩ := h
  cases hunits
  obtain rfl := eq_append_of_expect?_eq_some hquote
  exact .intro (characters_of_readString?_eq_some hname)
    (blanks_of_skipSpace_eq (eq_append_of_expect?_eq_some hcolon)) (blanks_skipSpace _)

/-! ## Values -/

/-- What is read with so many nested calls is spelled. -/
structure ReadsSpelled (fuel : Nat) : Prop where
  value : ∀ {text rest : List Glyph} {value : Value},
    readValue? fuel text = some (value, rest) → Spells text (.value value) rest
  items : ∀ {text rest : List Glyph} {items : List Value},
    readItems? fuel text = some (items, rest) → Spells text (.items items) rest
  members : ∀ {text rest : List Glyph} {members : List (List StringUnit × Value)},
    readMembers? fuel text = some (members, rest) → Spells text (.members members) rest

theorem ReadsSpelled.value_succ {fuel : Nat} (ih : ReadsSpelled fuel)
    {text rest : List Glyph} {value : Value}
    (h : readValue? (fuel + 1) text = some (value, rest)) :
    Spells text (.value value) rest := by
  cases text with
  | nil => cases h
  | cons glyph more =>
      have hword {word : List Char} {found : Value}
          (h : (expect? word more).map (found, ·) = some (value, rest)) :
          found = value ∧ more = word.map some ++ rest := by
        obtain ⟨after, hafter, hvalue⟩ := Option.map_eq_some_iff.mp h
        cases hvalue
        exact ⟨rfl, eq_append_of_expect?_eq_some hafter⟩
      simp only [readValue?] at h
      split at h
      · obtain ⟨rfl, rfl⟩ := hword h
        exact .null
      · obtain ⟨rfl, rfl⟩ := hword h
        exact .yes
      · obtain ⟨rfl, rfl⟩ := hword h
        exact .no
      · simp only [bind, Option.bind_eq_some_iff, Prod.exists] at h
        obtain ⟨units, after, hstring, hvalue⟩ := h
        cases hvalue
        exact .string (characters_of_readString?_eq_some hstring)
      · split at h
        · next hclose =>
            cases h
            exact .noItems (blanks_of_skipSpace_eq hclose)
        · simp only [bind, Option.bind_eq_some_iff, Prod.exists] at h
          obtain ⟨items, after, hitems, hvalue⟩ := h
          cases hvalue
          exact .array (blanks_skipSpace more) (ih.items hitems)
      · split at h
        · next hclose =>
            cases h
            exact .noMembers (blanks_of_skipSpace_eq hclose)
        · simp only [bind, Option.bind_eq_some_iff, Prod.exists] at h
          obtain ⟨members, after, hmembers, hvalue⟩ := h
          cases hvalue
          exact .object (blanks_skipSpace more) (ih.members hmembers)
      · simp only [bind, Option.bind_eq_some_iff, Prod.exists] at h
        obtain ⟨number, after, hnumber, hvalue⟩ := h
        cases hvalue
        exact .number (numeral_of_readNumber?_eq_some hnumber)

theorem ReadsSpelled.items_succ {fuel : Nat} (ih : ReadsSpelled fuel)
    {text rest : List Glyph} {items : List Value}
    (h : readItems? (fuel + 1) text = some (items, rest)) :
    Spells text (.items items) rest := by
  simp only [readItems?, bind, Option.bind_eq_some_iff, Prod.exists] at h
  obtain ⟨item, afterValue, hitem, h⟩ := h
  split at h
  · next hcomma =>
      simp only [Option.bind_eq_some_iff, Prod.exists] at h
      obtain ⟨others, after, hothers, hitems⟩ := h
      cases hitems
      exact .item (ih.value hitem) (blanks_of_skipSpace_eq hcomma) (blanks_skipSpace _)
        (ih.items hothers)
  · next hclose =>
      cases h
      exact .lastItem (ih.value hitem) (blanks_of_skipSpace_eq hclose)
  · cases h

theorem ReadsSpelled.members_succ {fuel : Nat} (ih : ReadsSpelled fuel)
    {text rest : List Glyph} {members : List (List StringUnit × Value)}
    (h : readMembers? (fuel + 1) text = some (members, rest)) :
    Spells text (.members members) rest := by
  simp only [readMembers?, bind, Option.bind_eq_some_iff, Prod.exists] at h
  obtain ⟨key, afterKey, hkey, value, afterValue, hvalue, h⟩ := h
  have hkey := key_of_readKey?_eq_some hkey
  split at h
  · next hcomma =>
      simp only [Option.bind_eq_some_iff, Prod.exists] at h
      obtain ⟨others, after, hothers, hmembers⟩ := h
      cases hmembers
      exact .member hkey (ih.value hvalue) (blanks_of_skipSpace_eq hcomma)
        (blanks_skipSpace _) (ih.members hothers)
  · next hclose =>
      cases h
      exact .lastMember hkey (ih.value hvalue) (blanks_of_skipSpace_eq hclose)
  · cases h

theorem readsSpelled (fuel : Nat) : ReadsSpelled fuel := by
  induction fuel with
  | zero => exact ⟨nofun, nofun, nofun⟩
  | succ fuel ih => exact ⟨ih.value_succ, ih.items_succ, ih.members_succ⟩

/-- The reader accepts the texts of a value and no others. -/
theorem parse?_eq_some_iff {text : List Glyph} {value : Value} :
    parse? text = some value ↔ IsTextOf text value := by
  refine ⟨fun h => ?_, parse?_of_isTextOf⟩
  simp only [parse?, bind, Option.bind_eq_some_iff, Prod.exists] at h
  obtain ⟨found, rest, hfound, h⟩ := h
  split at h
  · next hrest =>
      cases h
      exact ⟨_, rest, blanks_skipSpace text, (readsSpelled _).value hfound,
        blanks_of_skipSpace_eq hrest⟩
  · cases h

end FareGateway.Json
