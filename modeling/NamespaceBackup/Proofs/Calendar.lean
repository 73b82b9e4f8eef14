import NamespaceBackup.Time.Calendar

/-!
# Dates of days

Every day has a date that the calendar has, and that date is the date of no other day. Days are
counted in eras of 400 years that begin in March; a day of an era is split into centuries, cycles of
four years, years and days, of which the last century, the last cycle of a century and the last year
of a cycle are special.

## Main definitions

* `Date.Splits`: a day of an era, split
* `Date.ofYear`: the date of a day of a year that begins in March

## Main results

* `Date.toDay_ofDay`: the date of a day is the date of that day
* `Date.isValid_ofDay`: the calendar has the date of every day
-/

namespace NamespaceBackup.Date

/-- A day of an era is split into centuries, cycles of four years, years and days. Only the last
year of a cycle has a day 365, and the last cycle of a century has such a year only in the last
century. -/
structure Splits (dayOfEra century cycle year day : Int) : Prop where
  eq : dayOfEra = 36524 * century + 1461 * cycle + 365 * year + day
  century_nonneg : 0 ≤ century
  century_le : century ≤ 3
  cycle_nonneg : 0 ≤ cycle
  cycle_le : cycle ≤ 24
  year_nonneg : 0 ≤ year
  year_le : year ≤ 3
  day_nonneg : 0 ≤ day
  day_le : day ≤ 365
  leap : day = 365 → year = 3 ∧ (cycle < 24 ∨ century = 3)

variable {d c f k t : Int}

theorem exists_splits (hnonneg : 0 ≤ d) (hlt : d < 146097) :
    ∃ century cycle year day, Splits d century cycle year day := by
  obtain ⟨c, hc⟩ : ∃ c, c = if d = 146096 then 3 else d / 36524 := ⟨_, rfl⟩
  obtain ⟨r, hr⟩ : ∃ r, r = d - 36524 * c := ⟨_, rfl⟩
  obtain ⟨s, hs⟩ : ∃ s, s = r - 1461 * (r / 1461) := ⟨_, rfl⟩
  obtain ⟨k, hk⟩ : ∃ k, k = if s = 1460 then 3 else s / 365 := ⟨_, rfl⟩
  refine ⟨c, r / 1461, k, s - 365 * k, ?_, ?_, ?_, ?_, ?_, ?_, ?_, ?_, ?_, ?_⟩ <;>
    split at hc <;> split at hk <;> omega

/-- The year of an era. The divisions correct for the leap days in front of it. -/
theorem Splits.yearOfEra_eq (h : Splits d c f k t) :
    (d - d / 1460 + d / 36524 - d / 146096) / 365 = 100 * c + 4 * f + k := by
  obtain ⟨hd, hc0, hc, hf0, hf, hk0, hk, ht0, ht, hleap⟩ := h
  have hcenturies : d / 36524 - d / 146096 = c := by
    by_cases hlast : d = 146096
    · omega
    · have hera : d / 146096 = 0 := by omega
      have hcentury : d / 36524 = c := by omega
      omega
  have hcycles : d / 1460 = 25 * c + f + (24 * c + f + 365 * k + t) / 1460 := by omega
  -- The last fraction of a cycle counts only behind its last leap day.
  have hfraction : 0 ≤ (24 * c + f + 365 * k + t) / 1460 := by omega
  have hfraction_le : (24 * c + f + 365 * k + t) / 1460 ≤ t := by omega
  have hfraction_leap : t = 365 → 1 ≤ (24 * c + f + 365 * k + t) / 1460 := by omega
  omega

theorem Splits.leapDays (h : Splits d c f k t) :
    (100 * c + 4 * f + k) / 4 = 25 * c + f ∧ (100 * c + 4 * f + k) / 100 = c := by
  obtain ⟨hd, hc0, hc, hf0, hf, hk0, hk, ht0, ht, hleap⟩ := h
  omega

/-- The date of a day of a year that begins in March. -/
def ofYear (year day : Int) : Date :=
  let monthFromMarch := (5 * day + 2) / 153
  let month := if monthFromMarch < 10 then monthFromMarch + 3 else monthFromMarch - 9
  ⟨if month ≤ 2 then year + 1 else year, month.toNat,
    (day - (153 * monthFromMarch + 2) / 5 + 1).toNat⟩

theorem exists_ofYear (day : Int) : ∃ era c f k t,
    Splits (day + 719468 - era * 146097) c f k t ∧
      ofDay day = ofYear (100 * c + 4 * f + k + era * 400) t := by
  obtain ⟨c, f, k, t, h⟩ := exists_splits (d := day + 719468 - (day + 719468) / 146097 * 146097)
    (by omega) (by omega)
  refine ⟨(day + 719468) / 146097, c, f, k, t, h, ?_⟩
  obtain ⟨hcycles, hcenturies⟩ := h.leapDays
  have hday : day + 719468 - (day + 719468) / 146097 * 146097 -
      (365 * (100 * c + 4 * f + k) + (100 * c + 4 * f + k) / 4 - (100 * c + 4 * f + k) / 100) =
      t := by
    rw [hcycles, hcenturies, h.eq]
    omega
  simp only [ofDay, ofYear, h.yearOfEra_eq, hday]

/-- The number of a day of a year that begins in March. -/
theorem toDay_ofYear {year day : Int} (hnonneg : 0 ≤ day) (hle : day ≤ 365) :
    (ofYear year day).toDay = year / 400 * 146097 +
      ((year - year / 400 * 400) * 365 + (year - year / 400 * 400) / 4 -
        (year - year / 400 * 400) / 100 + day) - 719468 := by
  obtain ⟨m, hm⟩ : ∃ m, m = (5 * day + 2) / 153 := ⟨_, rfl⟩
  have hlast : m ≤ 11 := by omega
  have hfirst : 0 ≤ m := by omega
  have hday : 0 ≤ day - (153 * m + 2) / 5 + 1 := by omega
  simp only [ofYear, toDay, ← hm]
  by_cases hmarch : m < 10
  · have hmonth : ¬ m + 3 ≤ 2 := by omega
    have hmonth' : ¬ (m + 3).toNat ≤ 2 := by omega
    have hmonth'' : 2 < (m + 3).toNat := by omega
    simp only [if_pos hmarch, if_neg hmonth, if_neg hmonth', if_pos hmonth'',
      Int.toNat_of_nonneg hday]
    omega
  · have hmonth : m - 9 ≤ 2 := by omega
    have hmonth' : (m - 9).toNat ≤ 2 := by omega
    have hmonth'' : ¬ 2 < (m - 9).toNat := by omega
    simp only [if_neg hmarch, if_pos hmonth, if_pos hmonth', if_neg hmonth'',
      Int.toNat_of_nonneg hday]
    omega

/-- The date of a day is the date of that day. -/
theorem toDay_ofDay (day : Int) : (ofDay day).toDay = day := by
  obtain ⟨era, c, f, k, t, h, heq⟩ := exists_ofYear day
  obtain ⟨hcycles, hcenturies⟩ := h.leapDays
  have hera : (100 * c + 4 * f + k + era * 400) / 400 = era := by
    obtain ⟨hd, hc0, hc, hf0, hf, hk0, hk, ht0, ht, hleap⟩ := h
    omega
  rw [heq, toDay_ofYear h.day_nonneg h.day_le, hera, Int.add_sub_cancel, hcycles, hcenturies]
  have hd := h.eq
  omega

/-- The calendar has every day of a year, and day 365 of those that end in a leap year. -/
theorem isValid_ofYear {year day : Int} (hnonneg : 0 ≤ day) (hle : day ≤ 365)
    (hleap : day = 365 → isLeapYear (year + 1) = true) : (ofYear year day).isValid = true := by
  obtain ⟨m, hm⟩ : ∃ m, m = (5 * day + 2) / 153 := ⟨_, rfl⟩
  have hmonth : m = 0 ∨ m = 1 ∨ m = 2 ∨ m = 3 ∨ m = 4 ∨ m = 5 ∨ m = 6 ∨ m = 7 ∨ m = 8 ∨ m = 9 ∨
      m = 10 ∨ m = 11 := by omega
  simp only [ofYear, isValid, ← hm, Bool.and_eq_true, decide_eq_true_eq]
  rcases hmonth with rfl | rfl | rfl | rfl | rfl | rfl | rfl | rfl | rfl | rfl | rfl | rfl
  -- February has its last day in a leap year only.
  case inr.inr.inr.inr.inr.inr.inr.inr.inr.inr.inr =>
    by_cases hday : day = 365
    · simp [daysInMonth, hleap hday]
      omega
    · simp [daysInMonth]
      split <;> omega
  all_goals
    simp [daysInMonth]
    omega

theorem isValid_ofDay (day : Int) : (ofDay day).isValid = true := by
  obtain ⟨era, c, f, k, t, h, heq⟩ := exists_ofYear day
  rw [heq]
  refine isValid_ofYear h.day_nonneg h.day_le fun hday => ?_
  obtain ⟨hk, hlast⟩ := h.leap hday
  have hf0 := h.cycle_nonneg
  have hf := h.cycle_le
  simp only [isLeapYear, Bool.and_eq_true, Bool.or_eq_true, decide_eq_true_eq]
  omega

/-- The numbers of a date have two digits. -/
theorem lt_of_isValid {date : Date} (h : date.isValid = true) :
    date.month < 100 ∧ date.day < 100 := by
  simp only [isValid, Bool.and_eq_true, decide_eq_true_eq] at h
  obtain ⟨⟨⟨-, hmonth⟩, -⟩, hday⟩ := h
  have hlength : daysInMonth date.year date.month ≤ 31 := by
    unfold daysInMonth
    grind
  omega

end NamespaceBackup.Date
