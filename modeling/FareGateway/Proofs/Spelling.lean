import FareGateway.Json.Reader

/-!
# How JSON is spelled

A grammar of the texts of a value: blanks may stand between any two parts, a
character of a string may be escaped by name or by number, and a number keeps the
digits with which it is written.  Each relation leads from a text to what remains of it.

The reader reads every text that spells a value as that value.
-/

namespace FareGateway.Json

/-! ## The grammar -/

inductive Blanks : List Glyph → List Glyph → Prop where
  | none {rest : List Glyph} : Blanks rest rest
  | more {glyph : Glyph} {text rest : List Glyph} :
      isSpace glyph = true → Blanks text rest → Blanks (glyph :: text) rest

def Digit.glyph (digit : Digit) : Glyph := some digit.char

structure Number.IsProper (number : Number) : Prop where
  whole_ne_nil : number.whole ≠ []
  length_of_zero : number.whole.head? = some Digit.zero → number.whole.length = 1
  not_negative : number.exponent = [] → number.exponentNegative = false

def signOf (negative : Bool) : List Glyph := if negative then [some '-'] else []

inductive Fraction : List Glyph → List Digit → List Glyph → Prop where
  | absent {rest : List Glyph} : Fraction rest [] rest
  | present {digits : List Digit} {rest : List Glyph} : digits ≠ [] →
      Fraction (some '.' :: (digits.map Digit.glyph ++ rest)) digits rest

inductive Exponent : List Glyph → Bool → List Digit → List Glyph → Prop where
  | absent {rest : List Glyph} : Exponent rest false [] rest
  | present {mark : Char} {sign : List Glyph} {negative : Bool} {digits : List Digit}
      {rest : List Glyph} : mark = 'e' ∨ mark = 'E' →
      sign = signOf negative ∨ sign = [some '+'] ∧ negative = false → digits ≠ [] →
      Exponent (some mark :: (sign ++ digits.map Digit.glyph ++ rest)) negative digits rest

inductive Numeral : List Glyph → Number → List Glyph → Prop where
  | intro {number : Number} {afterWhole afterFraction rest : List Glyph} :
      number.IsProper → Fraction afterWhole number.fraction afterFraction →
      Exponent afterFraction number.exponentNegative number.exponent rest →
      Numeral (signOf number.negative ++ number.whole.map Digit.glyph ++ afterWhole)
        number rest

/-- The parts of a string up to its closing quote. -/
inductive Characters : List Glyph → List StringUnit → List Glyph → Prop where
  | done {rest : List Glyph} : Characters (some '"' :: rest) [] rest
  | plain {c : Char} {text rest : List Glyph} {units : List StringUnit} :
      32 ≤ c.toNat → c ≠ '"' → c ≠ '\\' → Characters text units rest →
      Characters (some c :: text) (.char c :: units) rest
  | named {glyph : Glyph} {c : Char} {text rest : List Glyph} {units : List StringUnit} :
      namedEscape? glyph = some c → Characters text units rest →
      Characters (some '\\' :: glyph :: text) (.char c :: units) rest
  | numbered {first second third fourth : Glyph} {a b c d : Nat}
      {text rest : List Glyph} {units : List StringUnit} :
      hexValue? first = some a → hexValue? second = some b → hexValue? third = some c →
      hexValue? fourth = some d → Characters text units rest →
      Characters (some '\\' :: some 'u' :: first :: second :: third :: fourth :: text)
        (.code (a * 4096 + b * 256 + c * 16 + d) :: units) rest
  | broken {text rest : List Glyph} {units : List StringUnit} :
      Characters text units rest → Characters (none :: text) (.broken :: units) rest

inductive Key : List Glyph → List StringUnit → List Glyph → Prop where
  | intro {text afterName afterColon rest : List Glyph} {units : List StringUnit} :
      Characters text units afterName → Blanks afterName (some ':' :: afterColon) →
      Blanks afterColon rest → Key (some '"' :: text) units rest

/-- What is spelled: a value, or what an array or an object holds with its closing
bracket. -/
inductive Phrase where
  | value (value : Value)
  | items (items : List Value)
  | members (members : List (List StringUnit × Value))

inductive Spells : List Glyph → Phrase → List Glyph → Prop where
  | null {rest : List Glyph} :
      Spells (some 'n' :: some 'u' :: some 'l' :: some 'l' :: rest) (.value .null) rest
  | yes {rest : List Glyph} :
      Spells (some 't' :: some 'r' :: some 'u' :: some 'e' :: rest) (.value (.flag true)) rest
  | no {rest : List Glyph} :
      Spells (some 'f' :: some 'a' :: some 'l' :: some 's' :: some 'e' :: rest)
        (.value (.flag false)) rest
  | number {text rest : List Glyph} {number : Number} :
      Numeral text number rest → Spells text (.value (.number number)) rest
  | string {text rest : List Glyph} {units : List StringUnit} :
      Characters text units rest → Spells (some '"' :: text) (.value (.string units)) rest
  | noItems {text rest : List Glyph} :
      Blanks text (some ']' :: rest) → Spells (some '[' :: text) (.value (.array [])) rest
  | array {text start rest : List Glyph} {items : List Value} :
      Blanks text start → Spells start (.items items) rest →
      Spells (some '[' :: text) (.value (.array items)) rest
  | lastItem {text afterValue rest : List Glyph} {item : Value} :
      Spells text (.value item) afterValue → Blanks afterValue (some ']' :: rest) →
      Spells text (.items [item]) rest
  | item {text afterValue afterComma start rest : List Glyph} {item : Value}
      {items : List Value} :
      Spells text (.value item) afterValue → Blanks afterValue (some ',' :: afterComma) →
      Blanks afterComma start → Spells start (.items items) rest →
      Spells text (.items (item :: items)) rest
  | noMembers {text rest : List Glyph} :
      Blanks text (some '\x7d' :: rest) →
      Spells (some '\x7b' :: text) (.value (.object [])) rest
  | object {text start rest : List Glyph} {members : List (List StringUnit × Value)} :
      Blanks text start → Spells start (.members members) rest →
      Spells (some '\x7b' :: text) (.value (.object members)) rest
  | lastMember {text afterKey afterValue rest : List Glyph} {key : List StringUnit}
      {value : Value} :
      Key text key afterKey → Spells afterKey (.value value) afterValue →
      Blanks afterValue (some '\x7d' :: rest) → Spells text (.members [(key, value)]) rest
  | member {text afterKey afterValue afterComma start rest : List Glyph}
      {key : List StringUnit} {value : Value} {members : List (List StringUnit × Value)} :
      Key text key afterKey → Spells afterKey (.value value) afterValue →
      Blanks afterValue (some ',' :: afterComma) → Blanks afterComma start →
      Spells start (.members members) rest →
      Spells text (.members ((key, value) :: members)) rest

/-- The whole of a text spells a value, with blanks around it. -/
def IsTextOf (text : List Glyph) (value : Value) : Prop :=
  ∃ start rest, Blanks text start ∧ Spells start (.value value) rest ∧ Blanks rest []

/-! ## Reading what is spelled -/

theorem skipSpace_of_blanks {text rest : List Glyph} (h : Blanks text rest)
    (hrest : ∀ glyph ∈ rest.head?, isSpace glyph = false) : skipSpace text = rest := by
  induction h with
  | @none rest =>
      cases rest with
      | nil => rfl
      | cons glyph rest => simp [skipSpace, hrest glyph rfl]
  | more hspace _ ih =>
      rw [← ih hrest, skipSpace, List.dropWhile_cons_of_pos hspace]
      rfl

theorem length_le_of_blanks {text rest : List Glyph} (h : Blanks text rest) :
    rest.length ≤ text.length := by
  induction h with
  | none => exact Nat.le_refl _
  | more _ _ ih => exact Nat.le_succ_of_le ih

theorem digit?_glyph (digit : Digit) : digit? digit.glyph = some digit := by
  revert digit
  decide

theorem takeDigits_append (digits : List Digit) {rest : List Glyph}
    (hrest : ∀ glyph ∈ rest.head?, digit? glyph = none) :
    takeDigits (digits.map Digit.glyph ++ rest) = (digits, rest) := by
  induction digits with
  | nil =>
      cases rest with
      | nil => rfl
      | cons glyph rest => simp [takeDigits, hrest glyph rfl]
  | cons digit digits ih => simp [takeDigits, digit?_glyph, ih]

theorem readDigits?_append {digits : List Digit} (hdigits : digits ≠ [])
    {rest : List Glyph} (hrest : ∀ glyph ∈ rest.head?, digit? glyph = none) :
    readDigits? (digits.map Digit.glyph ++ rest) = some (digits, rest) := by
  cases digits with
  | nil => exact absurd rfl hdigits
  | cons digit digits => rw [readDigits?, takeDigits_append _ hrest]

theorem Digit.char_ne_sign (digit : Digit) : digit.char ≠ '-' ∧ digit.char ≠ '+' := by
  revert digit
  decide

/-- What may follow a number, so that no more of the text can belong to it. -/
def EndsNumber (rest : List Glyph) : Prop :=
  ∀ glyph ∈ rest.head?, digit? glyph = none ∧
    glyph ≠ some '.' ∧ glyph ≠ some 'e' ∧ glyph ≠ some 'E'

theorem readExponent?_of_exponent {text rest : List Glyph} {negative : Bool}
    {digits : List Digit} (h : Exponent text negative digits rest)
    (hrest : EndsNumber rest) : readExponent? text = some (negative, digits, rest) := by
  cases h with
  | absent =>
      match text with
      | [] => rfl
      | none :: _ => rfl
      | some c :: _ =>
          obtain ⟨-, -, hlower, hupper⟩ := hrest (some c) rfl
          simp only [ne_eq, Option.some.injEq] at hlower hupper
          simp [readExponent?, hlower, hupper]
  | @present mark sign _ _ _ hmark hsign hdigits =>
      have hread := readDigits?_append hdigits fun glyph hglyph => (hrest glyph hglyph).1
      rcases hsign with rfl | ⟨rfl, rfl⟩
      · cases negative with
        | true => simp [readExponent?, hmark, signOf, hread]
        | false =>
            obtain ⟨digit, digits, rfl⟩ := List.exists_cons_of_ne_nil hdigits
            have hne := digit.char_ne_sign
            simp only [List.map_cons, List.cons_append, Digit.glyph] at hread
            simp [readExponent?, hmark, signOf, Digit.glyph, hne, hread]
      · simp [readExponent?, hmark, hread]

theorem readFraction?_of_fraction {text rest : List Glyph} {digits : List Digit}
    (h : Fraction text digits rest)
    (hrest : ∀ glyph ∈ rest.head?, digit? glyph = none ∧ glyph ≠ some '.') :
    readFraction? text = some (digits, rest) := by
  cases h with
  | absent =>
      match text with
      | [] => rfl
      | none :: _ => rfl
      | some c :: _ =>
          have hpoint := (hrest (some c) rfl).2
          simp only [ne_eq, Option.some.injEq] at hpoint
          simp [readFraction?, hpoint]
  | present hdigits =>
      exact readDigits?_append hdigits fun glyph hglyph => (hrest glyph hglyph).1

theorem head_of_exponent {text rest : List Glyph} {negative : Bool} {digits : List Digit}
    (h : Exponent text negative digits rest) (hrest : EndsNumber rest) :
    ∀ glyph ∈ text.head?, digit? glyph = none ∧ glyph ≠ some '.' := by
  intro glyph hglyph
  cases h with
  | absent => exact ⟨(hrest glyph hglyph).1, (hrest glyph hglyph).2.1⟩
  | present hmark =>
      obtain rfl := Option.some.inj hglyph
      rcases hmark with rfl | rfl <;> decide

theorem head_of_fraction {text rest : List Glyph} {digits : List Digit}
    (h : Fraction text digits rest)
    (hrest : ∀ glyph ∈ rest.head?, digit? glyph = none ∧ glyph ≠ some '.') :
    ∀ glyph ∈ text.head?, digit? glyph = none := by
  intro glyph hglyph
  cases h with
  | absent => exact (hrest glyph hglyph).1
  | present =>
      obtain rfl := Option.some.inj hglyph
      decide

theorem readNumber?_of_numeral {text rest : List Glyph} {number : Number}
    (h : Numeral text number rest) (hrest : EndsNumber rest) :
    readNumber? text = some (number, rest) := by
  cases h with
  | @intro _ afterWhole _ _ hproper hfraction hexponent =>
      have hafter := head_of_exponent hexponent hrest
      have hwhole : readWhole? (number.whole.map Digit.glyph ++ afterWhole) =
          some (number.whole, afterWhole) := by
        have hnot : ¬(number.whole.head? = some Digit.zero ∧ number.whole.length ≠ 1) :=
          fun hzero => hzero.2 (hproper.length_of_zero hzero.1)
        simp [readWhole?, readDigits?_append hproper.whole_ne_nil (head_of_fraction hfraction hafter), hnot]
      have hunsigned : readUnsigned? number.negative
          (number.whole.map Digit.glyph ++ afterWhole) = some (number, rest) := by
        simp [readUnsigned?, hwhole, readFraction?_of_fraction hfraction hafter,
          readExponent?_of_exponent hexponent hrest]
      cases hnegative : number.negative with
      | true => simpa [readNumber?, signOf, hnegative] using hunsigned
      | false =>
          obtain ⟨digit, digits, hdigits⟩ := List.exists_cons_of_ne_nil hproper.whole_ne_nil
          have hne := digit.char_ne_sign
          rw [hnegative, hdigits] at hunsigned
          simp only [List.map_cons, List.cons_append, Digit.glyph] at hunsigned
          simp [readNumber?, signOf, hdigits, Digit.glyph, hne, hunsigned]

theorem readString?_of_characters {text rest : List Glyph} {units : List StringUnit}
    (h : Characters text units rest) : readString? text = some (units, rest) := by
  induction h with
  | done => rfl
  | @plain c _ _ _ hshown hquote hslash _ ih =>
      have hkept : ¬(c.toNat < 32 ∨ c = '\\') := by
        rintro (hcontrol | hescape)
        · exact Nat.not_lt.mpr hshown hcontrol
        · exact hslash hescape
      rw [readString?]
      · simp [ih, hkept]
      · exact hquote
      · exact fun _ _ _ _ _ _ => hslash
      · exact fun _ _ _ => hslash
  | @named glyph _ _ _ _ hescape _ ih =>
      have hnumbered : glyph ≠ some 'u' := by
        rintro rfl
        cases hescape
      rw [readString?]
      · simp [ih, hescape]
      · exact fun _ _ _ _ _ h _ => hnumbered h
  | numbered ha hb hc hd _ ih => simp [readString?, ha, hb, hc, hd, ih]
  | broken _ ih => simp [readString?, ih]

theorem readKey?_of_key {text rest : List Glyph} {units : List StringUnit}
    (h : Key text units rest) (hrest : ∀ glyph ∈ rest.head?, isSpace glyph = false) :
    readKey? text = some (units, rest) := by
  cases h with
  | intro hname hcolon hafter =>
      have hcolon := skipSpace_of_blanks hcolon fun glyph hglyph => by
        obtain rfl := Option.some.inj hglyph
        rfl
      simp [readKey?, expect?, readString?_of_characters hname, hcolon,
        skipSpace_of_blanks hafter hrest]

/-- Nothing that is spelled begins with a blank or a closing bracket. -/
def BeginsPhrase (text : List Glyph) : Prop :=
  ∃ glyph more, text = glyph :: more ∧ isSpace glyph = false ∧
    glyph ≠ some ']' ∧ glyph ≠ some '\x7d'

theorem BeginsPhrase.not_isSpace {text : List Glyph} (h : BeginsPhrase text) :
    ∀ glyph ∈ text.head?, isSpace glyph = false := by
  obtain ⟨glyph, more, rfl, hspace, -, -⟩ := h
  intro other hother
  obtain rfl := Option.some.inj hother
  exact hspace

theorem head_of_numeral {text rest : List Glyph} {number : Number}
    (h : Numeral text number rest) :
    ∃ c more, text = some c :: more ∧ (c = '-' ∨ ∃ digit : Digit, c = digit.char) := by
  cases h with
  | @intro _ afterWhole _ _ hproper =>
      cases hnegative : number.negative with
      | true => exact ⟨_, _, rfl, .inl rfl⟩
      | false =>
          obtain ⟨digit, digits, hdigits⟩ := List.exists_cons_of_ne_nil hproper.whole_ne_nil
          refine ⟨digit.char, digits.map Digit.glyph ++ afterWhole, ?_, .inr ⟨digit, rfl⟩⟩
          rw [hdigits]
          rfl

/-- The first character of a number is none of those with which other values begin. -/
theorem numeral_head_ne {c : Char} (h : c = '-' ∨ ∃ digit : Digit, c = digit.char) :
    c ∉ ['n', 't', 'f', '"', '[', '\x7b', ']', '\x7d'] ∧ isSpace (some c) = false := by
  rcases h with rfl | ⟨digit, rfl⟩
  · decide
  · revert digit
    decide

theorem beginsPhrase_of_spells {text rest : List Glyph} {phrase : Phrase}
    (h : Spells text phrase rest) : BeginsPhrase text := by
  induction h with
  | lastItem _ _ ih => exact ih
  | item _ _ _ _ ih _ => exact ih
  | lastMember hkey _ _ _ =>
      cases hkey
      exact ⟨_, _, rfl, by decide, by decide, by decide⟩
  | member hkey _ _ _ _ _ _ =>
      cases hkey
      exact ⟨_, _, rfl, by decide, by decide, by decide⟩
  | number h =>
      obtain ⟨c, more, rfl, hhead⟩ := head_of_numeral h
      obtain ⟨hne, hspace⟩ := numeral_head_ne hhead
      simp only [List.mem_cons, not_or] at hne
      exact ⟨some c, more, rfl, hspace, by simp [hne], by simp [hne]⟩
  | _ => exact ⟨_, _, rfl, by decide, by decide, by decide⟩

theorem length_lt_of_characters {text rest : List Glyph} {units : List StringUnit}
    (h : Characters text units rest) : rest.length < text.length := by
  induction h with
  | done => simp
  | plain _ _ _ _ ih | named _ _ ih | numbered _ _ _ _ _ ih | broken _ ih =>
      simp only [List.length_cons]
      omega

theorem length_lt_of_key {text rest : List Glyph} {units : List StringUnit}
    (h : Key text units rest) : rest.length < text.length := by
  cases h with
  | intro hname hcolon hafter =>
      have hname := length_lt_of_characters hname
      have hcolon := length_le_of_blanks hcolon
      have hafter := length_le_of_blanks hafter
      simp only [List.length_cons] at hcolon ⊢
      omega

theorem length_le_of_fraction {text rest : List Glyph} {digits : List Digit}
    (h : Fraction text digits rest) : rest.length ≤ text.length := by
  cases h with
  | absent => exact Nat.le_refl _
  | present =>
      simp only [List.length_cons, List.length_append]
      omega

theorem length_le_of_exponent {text rest : List Glyph} {negative : Bool}
    {digits : List Digit} (h : Exponent text negative digits rest) :
    rest.length ≤ text.length := by
  cases h with
  | absent => exact Nat.le_refl _
  | present =>
      simp only [List.length_cons, List.length_append]
      omega

theorem length_lt_of_numeral {text rest : List Glyph} {number : Number}
    (h : Numeral text number rest) : rest.length < text.length := by
  cases h with
  | @intro _ afterWhole afterFraction _ hproper hfraction hexponent =>
      have hwhole := List.length_pos_iff.mpr hproper.whole_ne_nil
      have hfraction := length_le_of_fraction hfraction
      have hexponent := length_le_of_exponent hexponent
      simp only [List.length_append, List.length_map]
      omega

theorem length_lt_of_spells {text rest : List Glyph} {phrase : Phrase}
    (h : Spells text phrase rest) : rest.length < text.length := by
  induction h with
  | null | yes | no =>
      simp only [List.length_cons]
      omega
  | number h => exact length_lt_of_numeral h
  | string h =>
      have := length_lt_of_characters h
      simp only [List.length_cons]
      omega
  | noItems hclose | noMembers hclose =>
      have := length_le_of_blanks hclose
      simp only [List.length_cons] at this ⊢
      omega
  | array hstart _ ih | object hstart _ ih =>
      have := length_le_of_blanks hstart
      simp only [List.length_cons]
      omega
  | lastItem _ hclose ih =>
      have := length_le_of_blanks hclose
      simp only [List.length_cons] at this
      omega
  | item _ hcomma hstart _ ihvalue ihitems =>
      have := length_le_of_blanks hcomma
      have := length_le_of_blanks hstart
      simp only [List.length_cons] at *
      omega
  | lastMember hkey _ hclose ih =>
      have := length_lt_of_key hkey
      have := length_le_of_blanks hclose
      simp only [List.length_cons] at *
      omega
  | member hkey _ hcomma hstart _ ihvalue ihmembers =>
      have := length_lt_of_key hkey
      have := length_le_of_blanks hcomma
      have := length_le_of_blanks hstart
      simp only [List.length_cons] at *
      omega

theorem endsNumber_mark {mark : Char} (hmark : mark ∈ [',', ']', '\x7d'])
    (rest : List Glyph) : EndsNumber (some mark :: rest) := by
  intro glyph hglyph
  obtain rfl := Option.some.inj hglyph
  simp only [List.mem_cons, List.not_mem_nil, or_false] at hmark
  rcases hmark with rfl | rfl | rfl <;> decide

theorem endsNumber_of_blanks {text rest : List Glyph} (h : Blanks text rest)
    (hrest : EndsNumber rest) : EndsNumber text := by
  cases h with
  | none => exact hrest
  | @more glyph _ _ hspace _ =>
      intro other hother
      obtain rfl := Option.some.inj hother
      match glyph, hspace with
      | some c, hspace =>
          simp only [isSpace, Bool.or_eq_true, decide_eq_true_eq] at hspace
          rcases hspace with ((rfl | rfl) | rfl) | rfl <;> decide

theorem skipSpace_of_mark {text rest : List Glyph} {mark : Char}
    (h : Blanks text (some mark :: rest)) (hmark : isSpace (some mark) = false) :
    skipSpace text = some mark :: rest := by
  refine skipSpace_of_blanks h fun glyph hglyph => ?_
  obtain rfl := Option.some.inj hglyph
  exact hmark

theorem readValue?_of_numeral {text rest : List Glyph} {number : Number}
    (h : Numeral text number rest) (hrest : EndsNumber rest) (fuel : Nat) :
    readValue? (fuel + 1) text = some (.number number, rest) := by
  have hread := readNumber?_of_numeral h hrest
  obtain ⟨c, more, rfl, hhead⟩ := head_of_numeral h
  have hne := (numeral_head_ne hhead).1
  simp only [List.mem_cons, not_or] at hne
  simp [readValue?, hne, hread]

theorem readValue?_array {text start : List Glyph} (hstart : Blanks text start)
    (hbegins : BeginsPhrase start) (fuel : Nat) :
    readValue? (fuel + 1) (some '[' :: text) =
      (readItems? fuel start).map fun found => (.array found.1, found.2) := by
  have hskip := skipSpace_of_blanks hstart hbegins.not_isSpace
  obtain ⟨glyph, more, rfl, -, hclose, -⟩ := hbegins
  have hread : readValue? (fuel + 1) (some '[' :: text) =
      (readItems? fuel (glyph :: more)).bind fun found => some (.array found.1, found.2) := by
    simp [readValue?, hskip, hclose]
  exact hread.trans Option.map_eq_bind.symm

theorem readValue?_object {text start : List Glyph} (hstart : Blanks text start)
    (hbegins : BeginsPhrase start) (fuel : Nat) :
    readValue? (fuel + 1) (some '\x7b' :: text) =
      (readMembers? fuel start).map fun found => (.object found.1, found.2) := by
  have hskip := skipSpace_of_blanks hstart hbegins.not_isSpace
  obtain ⟨glyph, more, rfl, -, -, hclose⟩ := hbegins
  have hread : readValue? (fuel + 1) (some '\x7b' :: text) =
      (readMembers? fuel (glyph :: more)).bind fun found => some (.object found.1, found.2) := by
    simp [readValue?, hskip, hclose]
  exact hread.trans Option.map_eq_bind.symm

/-- The reader finds a phrase where it begins, in twice as many steps as it has glyphs. -/
def Phrase.IsRead (text rest : List Glyph) : Phrase → Prop
  | .value found => ∀ fuel, 2 * text.length ≤ fuel + 2 * rest.length + 2 →
      EndsNumber rest → readValue? (fuel + 1) text = some (found, rest)
  | .items found => ∀ fuel, 2 * text.length ≤ fuel + 2 * rest.length + 1 →
      readItems? (fuel + 1) text = some (found, rest)
  | .members found => ∀ fuel, 2 * text.length ≤ fuel + 2 * rest.length + 1 →
      readMembers? (fuel + 1) text = some (found, rest)

theorem exists_step_of_spells {text rest : List Glyph} {phrase : Phrase}
    (h : Spells text phrase rest) {fuel : Nat}
    (hfuel : 2 * text.length ≤ fuel + 2 * rest.length + 1) : ∃ steps, fuel = steps + 1 := by
  have := length_lt_of_spells h
  exact ⟨fuel - 1, by omega⟩

theorem isRead_of_spells {text rest : List Glyph} {phrase : Phrase}
    (h : Spells text phrase rest) : phrase.IsRead text rest := by
  induction h with
  | null | yes | no =>
      intro fuel _ _
      simp [readValue?, expect?]
  | number h =>
      intro fuel _ hrest
      exact readValue?_of_numeral h hrest fuel
  | string h =>
      intro fuel _ _
      simp [readValue?, readString?_of_characters h]
  | noItems hclose | noMembers hclose =>
      intro fuel _ _
      simp [readValue?, skipSpace_of_mark hclose (by decide)]
  | @array text start rest items hstart hitems ih =>
      intro fuel hfuel _
      have := length_le_of_blanks hstart
      simp only [List.length_cons] at hfuel
      have hsteps : 2 * start.length ≤ fuel + 2 * rest.length + 1 := by omega
      obtain ⟨fuel, rfl⟩ := exists_step_of_spells hitems hsteps
      rw [readValue?_array hstart (beginsPhrase_of_spells hitems), ih fuel (by omega)]
      rfl
  | @lastItem text afterValue rest item hvalue hclose ih =>
      intro fuel hfuel
      have := length_le_of_blanks hclose
      simp only [List.length_cons] at this
      have hsteps : 2 * text.length ≤ fuel + 2 * afterValue.length + 1 := by omega
      obtain ⟨fuel, rfl⟩ := exists_step_of_spells hvalue hsteps
      have hends := endsNumber_of_blanks hclose (endsNumber_mark (by decide) _)
      have hread := ih fuel (by omega) hends
      rw [readItems?]
      simp [hread, skipSpace_of_mark hclose (by decide)]
  | @item text afterValue afterComma start rest item items hvalue hcomma hstart hitems
      ihvalue ihitems =>
      intro fuel hfuel
      have := length_lt_of_spells hvalue
      have := length_le_of_blanks hcomma
      have := length_le_of_blanks hstart
      have := length_lt_of_spells hitems
      simp only [List.length_cons] at *
      have hsteps : 2 * text.length ≤ fuel + 2 * afterValue.length + 1 := by omega
      obtain ⟨fuel, rfl⟩ := exists_step_of_spells hvalue hsteps
      have hends := endsNumber_of_blanks hcomma (endsNumber_mark (by decide) _)
      have hread := ihvalue fuel (by omega) hends
      have hskip := skipSpace_of_blanks hstart (beginsPhrase_of_spells hitems).not_isSpace
      have hitems := ihitems fuel (by omega)
      rw [readItems?]
      simp [hread, skipSpace_of_mark hcomma (by decide), hskip, hitems]
  | @object text start rest members hstart hmembers ih =>
      intro fuel hfuel _
      have := length_le_of_blanks hstart
      simp only [List.length_cons] at hfuel
      have hsteps : 2 * start.length ≤ fuel + 2 * rest.length + 1 := by omega
      obtain ⟨fuel, rfl⟩ := exists_step_of_spells hmembers hsteps
      rw [readValue?_object hstart (beginsPhrase_of_spells hmembers), ih fuel (by omega)]
      rfl
  | @lastMember text afterKey afterValue rest key value hkey hvalue hclose ih =>
      intro fuel hfuel
      have := length_lt_of_key hkey
      have := length_le_of_blanks hclose
      simp only [List.length_cons] at this
      have hsteps : 2 * afterKey.length ≤ fuel + 2 * afterValue.length + 1 := by omega
      obtain ⟨fuel, rfl⟩ := exists_step_of_spells hvalue hsteps
      have hkey := readKey?_of_key hkey (beginsPhrase_of_spells hvalue).not_isSpace
      have hends := endsNumber_of_blanks hclose (endsNumber_mark (by decide) _)
      have hread := ih fuel (by omega) hends
      rw [readMembers?]
      simp [hkey, hread, skipSpace_of_mark hclose (by decide)]
  | @member text afterKey afterValue afterComma start rest key value members hkey hvalue
      hcomma hstart hmembers ihvalue ihmembers =>
      intro fuel hfuel
      have := length_lt_of_key hkey
      have := length_lt_of_spells hvalue
      have := length_le_of_blanks hcomma
      have := length_le_of_blanks hstart
      have := length_lt_of_spells hmembers
      simp only [List.length_cons] at *
      have hsteps : 2 * afterKey.length ≤ fuel + 2 * afterValue.length + 1 := by omega
      obtain ⟨fuel, rfl⟩ := exists_step_of_spells hvalue hsteps
      have hkey := readKey?_of_key hkey (beginsPhrase_of_spells hvalue).not_isSpace
      have hends := endsNumber_of_blanks hcomma (endsNumber_mark (by decide) _)
      have hread := ihvalue fuel (by omega) hends
      have hskip := skipSpace_of_blanks hstart (beginsPhrase_of_spells hmembers).not_isSpace
      have hmembers := ihmembers fuel (by omega)
      rw [readMembers?]
      simp [hkey, hread, skipSpace_of_mark hcomma (by decide), hskip, hmembers]

theorem parse?_of_isTextOf {text : List Glyph} {value : Value} (h : IsTextOf text value) :
    parse? text = some value := by
  obtain ⟨start, rest, hstart, hvalue, hrest⟩ := h
  have hends : EndsNumber rest := endsNumber_of_blanks hrest fun _ hglyph => by cases hglyph
  have hskip := skipSpace_of_blanks hrest fun _ hglyph => by cases hglyph
  have := length_le_of_blanks hstart
  have hread := isRead_of_spells hvalue (2 * text.length + 1) (by omega) hends
  rw [parse?, skipSpace_of_blanks hstart (beginsPhrase_of_spells hvalue).not_isSpace]
  simp [hread, hskip]

end FareGateway.Json
