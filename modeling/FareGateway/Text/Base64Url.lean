/-!
# Base64 for URLs

Four characters of an alphabet of 64 stand for three bytes; `-` and `_` have the
last two places.  A rest of two characters stands for one byte and one of three
for two, and the bits left over must be zero.
-/

namespace FareGateway.Base64Url

def sextet? (c : Char) : Option Nat :=
  let n := c.toNat
  if 65 ≤ n ∧ n ≤ 90 then some (n - 65)
  else if 97 ≤ n ∧ n ≤ 122 then some (n - 71)
  else if 48 ≤ n ∧ n ≤ 57 then some (n + 4)
  else if c = '-' then some 62
  else if c = '_' then some 63
  else none

def decodeSextets : List Nat → Option (List UInt8)
  | [] => some []
  | [_] => none
  | [a, b] => if b % 16 = 0 then some [UInt8.ofNat (a * 4 + b / 16)] else none
  | [a, b, c] =>
      if c % 4 = 0 then
        some [UInt8.ofNat (a * 4 + b / 16), UInt8.ofNat (b % 16 * 16 + c / 4)]
      else none
  | a :: b :: c :: d :: rest => do
      let bytes ← decodeSextets rest
      some (UInt8.ofNat (a * 4 + b / 16) :: UInt8.ofNat (b % 16 * 16 + c / 4) ::
        UInt8.ofNat (c % 4 * 64 + d) :: bytes)

def decode? (text : List Char) : Option (List UInt8) :=
  (text.mapM sextet?).bind decodeSextets

def sextetChar (n : Nat) : Char :=
  if n < 26 then Char.ofNat (n + 65)
  else if n < 52 then Char.ofNat (n + 71)
  else if n < 62 then Char.ofNat (n - 4)
  else if n = 62 then '-'
  else '_'

def encodeSextets : List UInt8 → List Nat
  | [] => []
  | [x] => [x.toNat / 4, x.toNat % 4 * 16]
  | [x, y] => [x.toNat / 4, x.toNat % 4 * 16 + y.toNat / 16, y.toNat % 16 * 4]
  | x :: y :: z :: rest =>
      x.toNat / 4 :: (x.toNat % 4 * 16 + y.toNat / 16) ::
        (y.toNat % 16 * 4 + z.toNat / 64) :: z.toNat % 64 :: encodeSextets rest

def encode (bytes : List UInt8) : List Char := (encodeSextets bytes).map sextetChar

/-! ## Every byte string has one text -/

theorem sextet?_sextetChar {n : Nat} (h : n < 64) : sextet? (sextetChar n) = some n := by
  have hall : ∀ m : Fin 64, sextet? (sextetChar m) = some m.val := by decide +kernel
  exact hall ⟨n, h⟩

theorem sextet?_eq_some {c : Char} {n : Nat} (h : sextet? c = some n) :
    n < 64 ∧ c = sextetChar n := by
  have hback : ∀ m, m = c.toNat → c = Char.ofNat m := fun m hm => by
    rw [hm, Char.ofNat_toNat]
  simp only [sextet?] at h
  split at h
  · cases h
    refine ⟨by omega, ?_⟩
    rw [sextetChar, if_pos (by omega)]
    exact hback _ (by omega)
  split at h
  · cases h
    refine ⟨by omega, ?_⟩
    rw [sextetChar, if_neg (by omega), if_pos (by omega)]
    exact hback _ (by omega)
  split at h
  · cases h
    refine ⟨by omega, ?_⟩
    rw [sextetChar, if_neg (by omega), if_neg (by omega), if_pos (by omega)]
    exact hback _ (by omega)
  split at h
  · next hc => cases h; exact ⟨by decide, hc⟩
  split at h
  · next hc => cases h; exact ⟨by decide, hc⟩
  · cases h

theorem mapM_sextet?_eq_some_iff {text : List Char} {sextets : List Nat} :
    text.mapM sextet? = some sextets ↔
      (∀ n ∈ sextets, n < 64) ∧ text = sextets.map sextetChar := by
  induction text generalizing sextets with
  | nil => cases sextets <;> simp
  | cons c text ih =>
      cases sextets with
      | nil => simp [List.mapM_cons, bind, Option.bind_eq_some_iff]
      | cons n sextets =>
          simp only [List.mapM_cons, bind, pure, Option.bind_eq_some_iff, ih,
            Option.some.injEq, List.cons.injEq, List.forall_mem_cons, List.map_cons]
          constructor
          · rintro ⟨m, hm, rest, ⟨hrest, htext⟩, rfl, rfl⟩
            obtain ⟨hlt, hc⟩ := sextet?_eq_some hm
            exact ⟨⟨hlt, hrest⟩, hc, htext⟩
          · rintro ⟨⟨hlt, hrest⟩, hc, htext⟩
            exact ⟨n, hc ▸ sextet?_sextetChar hlt, sextets, ⟨hrest, htext⟩, rfl, rfl⟩

theorem encodeSextets_lt (bytes : List UInt8) : ∀ n ∈ encodeSextets bytes, n < 64 := by
  fun_induction encodeSextets bytes with
  | case1 => simp
  | case2 x => grind [UInt8.toNat_lt]
  | case3 x y => grind [UInt8.toNat_lt]
  | case4 x y z rest ih => grind [UInt8.toNat_lt]

theorem decodeSextets_encodeSextets (bytes : List UInt8) :
    decodeSextets (encodeSextets bytes) = some bytes := by
  fun_induction encodeSextets bytes with
  | case1 => rfl
  | case2 x =>
      rw [decodeSextets, if_pos (by omega)]
      simp only [Option.some.injEq, List.cons.injEq, and_true, ← UInt8.toNat_inj,
        UInt8.toNat_ofNat']
      have := x.toNat_lt
      omega
  | case3 x y =>
      rw [decodeSextets, if_pos (by omega)]
      simp only [Option.some.injEq, List.cons.injEq, and_true, ← UInt8.toNat_inj,
        UInt8.toNat_ofNat']
      have := x.toNat_lt
      have := y.toNat_lt
      omega
  | case4 x y z rest ih =>
      simp only [decodeSextets, ih, bind, Option.bind_some, Option.some.injEq,
        List.cons.injEq, and_true, ← UInt8.toNat_inj, UInt8.toNat_ofNat']
      have := x.toNat_lt
      have := y.toNat_lt
      have := z.toNat_lt
      omega

theorem eq_encodeSextets_of_decodeSextets {sextets : List Nat} {bytes : List UInt8}
    (hlt : ∀ n ∈ sextets, n < 64) (h : decodeSextets sextets = some bytes) :
    sextets = encodeSextets bytes := by
  fun_induction decodeSextets sextets generalizing bytes with
  | case1 => cases h; rfl
  | case2 => cases h
  | case3 a b hb =>
      simp only [List.forall_mem_cons] at hlt
      cases h
      simp only [encodeSextets, UInt8.toNat_ofNat', List.cons.injEq, and_true]
      omega
  | case4 => cases h
  | case5 a b c hc =>
      simp only [List.forall_mem_cons] at hlt
      cases h
      simp only [encodeSextets, UInt8.toNat_ofNat', List.cons.injEq, and_true]
      omega
  | case6 => cases h
  | case7 a b c d rest ih =>
      simp only [List.forall_mem_cons] at hlt
      obtain ⟨tail, htail, hbytes⟩ := Option.bind_eq_some_iff.mp h
      cases hbytes
      simp only [encodeSextets, ← ih hlt.2.2.2.2 htail, UInt8.toNat_ofNat',
        List.cons.injEq, and_true]
      omega

theorem decode?_eq_some_iff {text : List Char} {bytes : List UInt8} :
    decode? text = some bytes ↔ text = encode bytes := by
  simp only [decode?, Option.bind_eq_some_iff, mapM_sextet?_eq_some_iff, encode]
  constructor
  · rintro ⟨sextets, ⟨hlt, rfl⟩, h⟩
    rw [eq_encodeSextets_of_decodeSextets hlt h]
  · rintro rfl
    exact ⟨_, ⟨encodeSextets_lt bytes, rfl⟩, decodeSextets_encodeSextets bytes⟩

theorem isSome_sextet?_of_mem_encode {bytes : List UInt8} {c : Char}
    (h : c ∈ encode bytes) : (sextet? c).isSome := by
  obtain ⟨n, hn, rfl⟩ := List.mem_map.mp h
  rw [sextet?_sextetChar (encodeSextets_lt bytes n hn)]
  rfl

end FareGateway.Base64Url
