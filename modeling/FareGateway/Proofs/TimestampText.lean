import FareGateway.Calendar.Timestamp
import FareGateway.Proofs.DateText

/-!
# Instants are read as they are written

An instant that is in range is read back from its text, provided that a leap second is at
the end of a minute.  Whatever its offset, an instant that is read is one of these, because
offsets are whole minutes.
-/

namespace FareGateway

namespace Instant

/-! ## Fractions of a second -/

theorem readFraction?_padded {digits n : Nat} {rest : List Char} (hdigits : 0 < digits)
    (hnine : digits ≤ 9) (h : n < 10 ^ digits) (hrest : EndsDigits rest) :
    readFraction? ('.' :: padded digits n ++ rest) =
      some (n * Nat.pow 10 (9 - digits), rest) := by
  have hlength := length_padded hdigits h
  have hread := readNatural?_padded (hlength.symm ▸ hnine) hrest
  have hused : (padded digits n ++ rest).length - rest.length = digits := by
    rw [List.length_append, Nat.add_sub_cancel, hlength]
  have hdrop : rest.dropWhile Char.isDigit = rest := by
    cases rest with
    | nil => rfl
    | cons c rest => rw [List.dropWhile_cons_of_neg (by simp [hrest c rfl])]
  simp only [readFraction?, List.cons_append, hread, bind, Option.bind_some, hused, hdrop]

theorem readFraction?_printFraction {nanos : Nat} (h : nanos < 1000000000)
    {rest : List Char} (hrest : EndsDigits rest) (hpoint : '.' ∉ rest.head?) :
    readFraction? (printFraction nanos ++ rest) = some (nanos, rest) := by
  unfold printFraction
  split
  · next hzero =>
      rw [List.nil_append, hzero]
      unfold readFraction?
      split
      · exact absurd rfl hpoint
      · rfl
  split
  · next hmillis =>
      rw [readFraction?_padded (by decide) (by decide) (by omega) hrest]
      congr 2
      exact Nat.div_mul_cancel (Nat.dvd_of_mod_eq_zero hmillis)
  split
  · next hmicros =>
      rw [readFraction?_padded (by decide) (by decide) (by omega) hrest]
      congr 2
      exact Nat.div_mul_cancel (Nat.dvd_of_mod_eq_zero hmicros)
  · rw [readFraction?_padded (by decide) (by decide) (by omega) hrest]
    congr 2
    exact Nat.mul_one nanos

/-! ## Times of the day -/

theorem endsDigits_printFraction (nanos : Nat) {rest : List Char} (hrest : EndsDigits rest) :
    EndsDigits (printFraction nanos ++ rest) := by
  unfold printFraction
  split
  · exact hrest
  · (repeat' split) <;> exact endsDigits_cons rfl _

theorem readTime?_print {hour minute second nanos : Nat} (hhour : hour < 24)
    (hminute : minute < 60) (hsecond : second ≤ 60) (hnanos : nanos < 1000000000)
    {rest : List Char} (hrest : EndsDigits rest) (hpoint : '.' ∉ rest.head?) :
    readTime? (padded 2 hour ++ ':' :: padded 2 minute ++ ':' :: padded 2 second ++
        printFraction nanos ++ rest) =
      if second = 60 then some (hour * 3600 + minute * 60 + 59, nanos + 1000000000, rest)
      else some (hour * 3600 + minute * 60 + second, nanos, rest) := by
  have hends (text : List Char) : EndsDigits (':' :: text) := endsDigits_cons rfl text
  have hshown (text : List Char) : BeginsShown (':' :: text) := beginsShown_cons rfl text
  have hpair {n : Nat} (hn : n < 100) : (padded 2 n).length ≤ 2 :=
    Nat.le_of_eq (length_padded (by decide) hn)
  have hvalid : ¬(23 < hour ∨ 59 < minute ∨ 60 < second) := by omega
  unfold readTime?
  simp only [List.append_assoc, List.cons_append, bind, Option.bind_some,
    skipBlanks_of_beginsShown (beginsShown_padded _ _ _),
    skipBlanks_of_beginsShown (hshown _), readMark?_mark,
    readNatural?_padded (hpair (by omega : hour < 100)) (hends _),
    readNatural?_padded (hpair (by omega : minute < 100)) (hends _),
    readNatural?_padded (hpair (by omega : second < 100))
      (endsDigits_printFraction nanos hrest),
    readFraction?_printFraction hnanos hrest hpoint]
  rw [if_neg hvalid]

/-! ## Instants -/

/-- Its date is in range, and a leap second shares the second numbered 59. -/
structure IsTold (instant : Instant) : Prop where
  inRange : instant.inRange = true
  nanos_lt : instant.nanos < 2000000000
  leap : 1000000000 ≤ instant.nanos → instant.seconds % 60 = 59

/-- The second of the minute and the nanoseconds as they are written. -/
def shown (instant : Instant) : Nat × Nat :=
  if 1000000000 ≤ instant.nanos then
    (instant.secondOfDay % 60 + 1, instant.nanos - 1000000000)
  else (instant.secondOfDay % 60, instant.nanos)

theorem toList_print (instant : Instant) :
    instant.print.toList = instant.date.civil.print ++ 'T' ::
      (padded 2 (instant.secondOfDay / 3600) ++
        ':' :: padded 2 (instant.secondOfDay / 60 % 60) ++
        ':' :: padded 2 instant.shown.1 ++ printFraction instant.shown.2 ++ ['Z']) := by
  unfold print shown
  rw [String.toList_ofList]
  by_cases hleap : 1000000000 ≤ instant.nanos
  · simp only [hleap, decide_true, if_true, List.append_assoc, List.cons_append]
  · simp only [hleap, decide_false, Bool.false_eq_true, if_false, Nat.add_zero,
      List.append_assoc, List.cons_append]

theorem seconds_eq (instant : Instant) :
    instant.seconds = instant.date.number * secondsPerDay + instant.secondOfDay := by
  unfold date secondOfDay secondsPerDay
  dsimp only
  omega

theorem readTime?_shown {instant : Instant} (h : instant.IsTold) :
    readTime? (padded 2 (instant.secondOfDay / 3600) ++
        ':' :: padded 2 (instant.secondOfDay / 60 % 60) ++
        ':' :: padded 2 instant.shown.1 ++ printFraction instant.shown.2 ++ ['Z']) =
      some (instant.secondOfDay, instant.nanos, ['Z']) := by
  have hday : instant.secondOfDay < 86400 := by
    unfold secondOfDay secondsPerDay
    omega
  have hrest : EndsDigits ['Z'] := endsDigits_cons rfl []
  have hpoint : '.' ∉ ['Z'].head? := by decide
  have hnanos := h.nanos_lt
  by_cases hleap : 1000000000 ≤ instant.nanos
  · have hlast : instant.secondOfDay % 60 = 59 := by
      have hminute := h.leap hleap
      unfold secondOfDay secondsPerDay
      omega
    have hshown : instant.shown = (60, instant.nanos - 1000000000) := by
      unfold shown
      rw [if_pos hleap, hlast]
    rw [hshown, readTime?_print (by omega) (by omega) (by omega) (by omega) hrest hpoint,
      if_pos rfl]
    congr 2
    · omega
    · congr 1
      omega
  · have hshown : instant.shown = (instant.secondOfDay % 60, instant.nanos) := by
      unfold shown
      rw [if_neg hleap]
    have hminute : instant.secondOfDay % 60 ≠ 60 := by omega
    rw [hshown, readTime?_print (by omega) (by omega) (by omega) (by omega) hrest hpoint,
      if_neg hminute]
    congr 2
    omega

theorem ofText?_print {instant : Instant} (h : instant.IsTold) :
    ofText? instant.print = some instant := by
  have hrest (text : List Char) : EndsDigits ('T' :: text) := endsDigits_cons rfl text
  have hback : (⟨instant.date.number * secondsPerDay + instant.secondOfDay - 0,
      instant.nanos⟩ : Instant) = instant := by
    rw [Int.sub_zero, ← instant.seconds_eq]
  unfold ofText?
  rw [toList_print, readDate?_print h.inRange (hrest _)]
  simp only [bind, Option.bind_some, readTime?_shown h]
  change (if [] = [] ∧ _ then _ else _) = _
  rw [hback]
  exact if_pos ⟨rfl, h.inRange⟩

/-! ## What is read is told -/

theorem foldl_digits_lt {digits : List Char} (h : ∀ c ∈ digits, c.isDigit = true)
    (start : Nat) :
    digits.foldl (fun acc c => acc * 10 + (c.toNat - 48)) start <
      (start + 1) * 10 ^ digits.length := by
  induction digits generalizing start with
  | nil => simp
  | cons c digits ih =>
      obtain ⟨hc, hdigits⟩ := List.forall_mem_cons.mp h
      have hvalue := (toNat_of_isDigit hc).2
      have hrest := ih hdigits (start * 10 + (c.toNat - 48))
      have hstart : start * 10 + (c.toNat - 48) + 1 ≤ (start + 1) * 10 := by omega
      rw [List.foldl_cons, List.length_cons, Nat.pow_succ, Nat.mul_comm (10 ^ digits.length),
        ← Nat.mul_assoc]
      exact Nat.lt_of_lt_of_le hrest (Nat.mul_le_mul_right _ hstart)

theorem readNatural?_eq_some {limit n : Nat} {text rest : List Char}
    (h : readNatural? limit text = some (n, rest)) :
    n < 10 ^ (text.length - rest.length) ∧ text.length - rest.length ≤ limit := by
  unfold readNatural? at h
  split at h
  · cases h
  · simp only [Option.some.injEq, Prod.mk.injEq] at h
    obtain ⟨rfl, rfl⟩ := h
    have hdigits : ∀ c ∈ (text.takeWhile Char.isDigit).take limit, c.isDigit = true :=
      fun c hc => List.all_eq_true.mp List.all_takeWhile c (List.mem_of_mem_take hc)
    have hle : ((text.takeWhile Char.isDigit).take limit).length ≤ text.length := by
      rw [List.length_take]
      exact Nat.le_trans (Nat.min_le_right _ _) (List.takeWhile_prefix _).length_le
    have hlength : text.length - (text.drop
        ((text.takeWhile Char.isDigit).take limit).length).length =
          ((text.takeWhile Char.isDigit).take limit).length := by
      rw [List.length_drop]
      omega
    have hlt := foldl_digits_lt hdigits 0
    rw [Nat.zero_add, Nat.one_mul] at hlt
    rw [hlength]
    exact ⟨hlt, List.length_take_le _ _⟩

theorem readFraction?_lt {text rest : List Char} {nanos : Nat}
    (h : readFraction? text = some (nanos, rest)) : nanos < 1000000000 := by
  unfold readFraction? at h
  split at h
  · next text =>
      simp only [bind, Option.bind_eq_some_iff, Option.some.injEq, Prod.mk.injEq] at h
      obtain ⟨⟨n, left⟩, hread, rfl, -⟩ := h
      obtain ⟨hn, hnine⟩ := readNatural?_eq_some hread
      dsimp only
      generalize text.length - left.length = digits at hn hnine
      calc n * 10 ^ (9 - digits) < 10 ^ digits * 10 ^ (9 - digits) :=
            Nat.mul_lt_mul_of_pos_right hn (Nat.pow_pos (by decide))
        _ = 1000000000 := by rw [← Nat.pow_add, Nat.add_sub_cancel' hnine]
  · cases h
    decide

theorem readTime?_eq_some {text rest : List Char} {second nanos : Nat}
    (h : readTime? text = some (second, nanos, rest)) :
    nanos < 2000000000 ∧ (1000000000 ≤ nanos → second % 60 = 59) := by
  unfold readTime? at h
  simp only [bind, Option.bind_eq_some_iff] at h
  obtain ⟨hour, -, afterHour, -, minute, -, afterMinute, -, second, -, fraction, hfraction,
    h⟩ := h
  have hnanos := readFraction?_lt hfraction
  split at h
  · cases h
  split at h
  · cases h
    exact ⟨by omega, by omega⟩
  · cases h
    exact ⟨by omega, by omega⟩

theorem readShift?_mod {text rest : List Char} {shift : Nat}
    (h : readShift? text = some (shift, rest)) : shift % 60 = 0 := by
  unfold readShift? at h
  split at h
  · simp only [bind, Option.bind_eq_some_iff] at h
    obtain ⟨tens, -, ones, -, h⟩ := h
    split at h
    · simp only [Option.bind_eq_some_iff] at h
      obtain ⟨minuteTens, -, minuteOnes, -, h⟩ := h
      split at h
      · cases h
      · cases h
        omega
    · cases h
  · cases h

theorem readOffset?_mod {text rest : List Char} {offset : Int}
    (h : readOffset? text = some (offset, rest)) : offset % 60 = 0 := by
  have hshift {text : List Char} {shift : Nat × List Char}
      (hread : readShift? text = some shift) :
      (shift.1 : Int) % 60 = 0 ∧ -(shift.1 : Int) % 60 = 0 := by
    have hminutes := readShift?_mod hread
    omega
  unfold readOffset? at h
  split at h
  · cases h
    rfl
  · cases h
    rfl
  · obtain ⟨shift, hread, h⟩ := Option.map_eq_some_iff.mp h
    cases h
    exact (hshift hread).1
  · obtain ⟨shift, hread, h⟩ := Option.map_eq_some_iff.mp h
    cases h
    exact (hshift hread).2
  · obtain ⟨shift, hread, h⟩ := Option.map_eq_some_iff.mp h
    cases h
    exact (hshift hread).2
  · split at h
    · cases h
      rfl
    · cases h
  · cases h

theorem isTold_of_ofText? {text : String} {instant : Instant}
    (h : ofText? text = some instant) : instant.IsTold := by
  have htold {date : Date} {text : List Char} (h : ((readTime? text).bind fun time =>
      (readOffset? (skipBlanks time.2.2)).bind fun offset =>
        let told : Instant := ⟨date.number * secondsPerDay + time.1 - offset.1, time.2.1⟩
        if skipBlanks offset.2 = [] ∧ told.inRange then some told else none) = some instant) :
      instant.IsTold := by
    simp only [Option.bind_eq_some_iff] at h
    obtain ⟨⟨second, nanos, afterTime⟩, htime, ⟨offset, rest⟩, hoffset, h⟩ := h
    obtain ⟨hnanos, hleap⟩ := readTime?_eq_some htime
    have hminutes := readOffset?_mod hoffset
    split at h
    · next hrange =>
        cases h
        refine ⟨hrange.2, hnanos, fun hlarge => ?_⟩
        have hlast := hleap hlarge
        dsimp only
        unfold secondsPerDay
        omega
    · cases h
  unfold ofText? at h
  obtain ⟨⟨date, afterDate⟩, -, h⟩ := Option.bind_eq_some_iff.mp h
  dsimp only at h
  -- After any of the three marks between date and time the text is read alike.
  split at h
  · exact htold h
  · exact htold h
  · exact htold h
  · cases h

end Instant

end FareGateway
