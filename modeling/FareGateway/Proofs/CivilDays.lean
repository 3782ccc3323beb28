import FareGateway.Calendar.Date

/-!
# Days of the calendar

Every day number has a date, with a month of one to twelve and a day of the month of one to
thirty-one, and the date leads back to the number.  The year of a day of the cycle is found
between the first days of the years, since the formula for it never falls as days pass.
-/

namespace FareGateway.Civil

/-- The days of a cycle of 400 years before a year of it, the leap day being the last of
its year. -/
def daysBefore (year : Nat) : Nat := 365 * year + year / 4 - year / 100

/-- The year of the cycle that a day of it falls in. -/
def yearOfDay (day : Nat) : Nat := (day - day / 1460 + day / 36524 - day / 146096) / 365

theorem yearOfDay_mono {day later : Nat} (hlater : later < 146097) (h : day ≤ later) :
    yearOfDay day ≤ yearOfDay later := by
  have hcommon : day - day / 1460 ≤ later - later / 1460 := by omega
  have hcentury : day / 36524 - day / 146096 ≤ later / 36524 - later / 146096 := by omega
  have hdays : day - day / 1460 + day / 36524 - day / 146096 ≤
      later - later / 1460 + later / 36524 - later / 146096 := by omega
  exact Nat.div_le_div_right hdays

theorem yearOfDay_daysBefore {year : Nat} (h : year < 400) :
    yearOfDay (daysBefore year) = year ∧
      (0 < year → yearOfDay (daysBefore year - 1) < year) := by
  have hall : ∀ y : Fin 400, yearOfDay (daysBefore y.val) = y.val ∧
      (0 < y.val → yearOfDay (daysBefore y.val - 1) < y.val) := by
    decide +kernel
  exact hall ⟨year, h⟩

theorem yearOfDay_spec {day : Nat} (h : day < 146097) :
    yearOfDay day < 400 ∧ daysBefore (yearOfDay day) ≤ day ∧
      day < daysBefore (yearOfDay day) + 366 := by
  have hlast : yearOfDay day < 400 := by
    have hle : yearOfDay day ≤ yearOfDay 146096 := yearOfDay_mono (by decide) (by omega)
    exact Nat.lt_succ_of_le hle
  -- The formula is checked around the first day of every year; as it never falls, a day
  -- before or after its year would have the wrong one.
  refine ⟨hlast, Nat.le_of_not_lt fun hearly => ?_, ?_⟩
  · have hpositive : 0 < yearOfDay day := by
      refine Nat.pos_of_ne_zero fun hzero => ?_
      rw [hzero] at hearly
      exact absurd hearly (Nat.not_lt_zero day)
    have hbefore := (yearOfDay_daysBefore hlast).2 hpositive
    have hle : yearOfDay day ≤ yearOfDay (daysBefore (yearOfDay day) - 1) := by
      apply yearOfDay_mono
      · unfold daysBefore
        omega
      · omega
    omega
  · rcases Nat.lt_or_ge (yearOfDay day + 1) 400 with hnext | hnext
    · have hnot : day < daysBefore (yearOfDay day + 1) := by
        refine Nat.lt_of_not_le fun hlate => ?_
        have hle := yearOfDay_mono h hlate
        rw [(yearOfDay_daysBefore hnext).1] at hle
        omega
      unfold daysBefore at hnot ⊢
      omega
    · have hyear : yearOfDay day = 399 := by omega
      rw [hyear]
      exact Nat.lt_of_lt_of_le h (by decide)

/-- The month, counted from March, of a day of the year. -/
def monthOfDay (day : Nat) : Nat := (5 * day + 2) / 153

theorem monthOfDay_spec {day : Nat} (h : day < 366) :
    monthOfDay day < 12 ∧ (153 * monthOfDay day + 2) / 5 ≤ day ∧
      day < (153 * monthOfDay day + 2) / 5 + 31 := by
  unfold monthOfDay
  omega

/-- The date of a day of a year of a cycle.  January and February belong to the year
that began in March before them. -/
def ofYearDay (cycle : Int) (year day : Nat) : Civil where
  year := year + cycle * 400 + if monthOfDay day < 10 then 0 else 1
  month := if monthOfDay day < 10 then monthOfDay day + 3 else monthOfDay day - 9
  day := day - (153 * monthOfDay day + 2) / 5 + 1

theorem exists_ofYearDay (number : Int) :
    ∃ (cycle : Int) (year day : Nat), year < 400 ∧ day < 366 ∧
      number + 719468 = cycle * 146097 + (daysBefore year + day : Nat) ∧
      ofDayNumber number = ofYearDay cycle year day := by
  have hdayOfCycle : ((number + 719468) % 146097).toNat < 146097 := by omega
  obtain ⟨hyear, hbefore, hafter⟩ := yearOfDay_spec hdayOfCycle
  have hday := Nat.sub_lt_left_of_lt_add hbefore hafter
  refine ⟨(number + 719468) / 146097, _, _, hyear, hday, ?_, ?_⟩
  · rw [Nat.add_sub_cancel' hbefore]
    omega
  · generalize hd : ((number + 719468) % 146097).toNat -
      daysBefore (yearOfDay ((number + 719468) % 146097).toNat) = day at hday
    have hmonth := (monthOfDay_spec hday).1
    have hof : ofDayNumber number = {
        year := yearOfDay ((number + 719468) % 146097).toNat +
          (number + 719468) / 146097 * 400 +
            if (if monthOfDay day < 10 then monthOfDay day + 3
              else monthOfDay day - 9) ≤ 2 then 1 else 0
        month := if monthOfDay day < 10 then monthOfDay day + 3 else monthOfDay day - 9
        day := day - (153 * monthOfDay day + 2) / 5 + 1 } := by
      rw [← hd]
      rfl
    rw [hof, ofYearDay]
    by_cases hspring : monthOfDay day < 10
    · simp only [hspring, if_true]
      rw [if_neg (by omega)]
    · simp only [hspring, if_false]
      rw [if_pos (by omega)]

theorem dayNumber_ofYearDay (cycle : Int) {year day : Nat} (hyear : year < 400)
    (hday : day < 366) :
    (ofYearDay cycle year day).dayNumber + 719468 =
      cycle * 146097 + (daysBefore year + day : Nat) := by
  obtain ⟨hmonth, hbefore, -⟩ := monthOfDay_spec hday
  unfold dayNumber ofYearDay daysBefore
  by_cases hspring : monthOfDay day < 10
  · have hcivil : ¬monthOfDay day + 3 ≤ 2 := by omega
    simp only [hspring, hcivil, if_true, if_false]
    have hback : monthOfDay day + 3 - 3 = monthOfDay day := by omega
    have hmod : ((year + cycle * 400 + 0) % 400).toNat = year := by omega
    rw [hback, hmod]
    omega
  · have hcivil : monthOfDay day - 9 ≤ 2 := by omega
    simp only [hspring, hcivil, if_true, if_false]
    have hback : monthOfDay day - 9 + 9 = monthOfDay day := by omega
    have hmod : ((year + cycle * 400 + 1 - 1) % 400).toNat = year := by omega
    rw [hback, hmod]
    omega

theorem dayNumber_ofDayNumber (number : Int) : (ofDayNumber number).dayNumber = number := by
  obtain ⟨cycle, year, day, hyear, hday, hnumber, hof⟩ := exists_ofYearDay number
  have hback := dayNumber_ofYearDay cycle hyear hday
  rw [hof]
  omega

theorem month_ofDayNumber (number : Int) :
    1 ≤ (ofDayNumber number).month ∧ (ofDayNumber number).month ≤ 12 := by
  obtain ⟨cycle, year, day, -, hday, -, hof⟩ := exists_ofYearDay number
  obtain ⟨hmonth, -, -⟩ := monthOfDay_spec hday
  rw [hof, ofYearDay]
  dsimp only
  split <;> omega

theorem day_ofDayNumber (number : Int) :
    1 ≤ (ofDayNumber number).day ∧ (ofDayNumber number).day ≤ 31 := by
  obtain ⟨cycle, year, day, -, hday, -, hof⟩ := exists_ofYearDay number
  obtain ⟨-, hbefore, hafter⟩ := monthOfDay_spec hday
  rw [hof, ofYearDay]
  dsimp only
  omega

end FareGateway.Civil
