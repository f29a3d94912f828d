import Mathlib.Tactic.IntervalCases
import Recovery.Instant
/-!
# Days and dates

A day is a day of a month of a year of an era, where years begin in March. Its date is the same
seen from January: a date of the calendar, from which the day is found again. Later days have later
dates.
-/
set_option autoImplicit false

namespace Recovery

namespace Date

theorem yearOfEra_lt {day : Nat} (within : day < daysInEra) : yearOfEra day < 400 := by
  unfold daysInEra at within
  unfold yearOfEra
  omega

theorem startOfYear_yearOfEra {day : Nat} (within : day < daysInEra) :
    startOfYear (yearOfEra day) ≤ day ∧ day - startOfYear (yearOfEra day) < 366 := by
  unfold daysInEra at within
  unfold startOfYear
  generalize made : yearOfEra day = year
  unfold yearOfEra at made
  -- Four years are counted as 1460 days and thereby begin ever earlier: up to a hundred days
  -- within an era, of which each century gives one back. This moves a day by less than a year.
  generalize groups : day / 1460 = group at made
  generalize centuries : day / 36524 = century at made
  by_cases last : day = 146096
  · subst last
    omega
  have passed : day / 146096 = 0 := by omega
  have century_lt : century < 4 := by omega
  obtain ⟨offset, year_eq, low, high⟩ : ∃ offset : Int,
      (year : Int) = 4 * group + offset ∧ -1 ≤ offset ∧ offset ≤ 3 := by
    refine ⟨year - 4 * group, ?_, ?_, ?_⟩ <;> omega
  have hundreds : year / 100 = century := by omega
  have fours : (year / 4 : Int) = group + offset / 4 := by omega
  omega

theorem lt_startOfYear_succ {day : Nat} (within : day < daysInEra) :
    day < startOfYear (yearOfEra day + 1) + (yearOfEra day + 1) / 400 := by
  unfold daysInEra at within
  unfold startOfYear
  generalize made : yearOfEra day = year
  unfold yearOfEra at made
  by_cases last : day = 146096
  · subst last
    omega
  have passed : day / 146096 = 0 := by omega
  have below : day + day / 36524 < 365 * (year + 1) + day / 1460 := by omega
  have hundreds : year / 100 = day / 36524 := by omega
  have fours : day / 1460 ≤ (year + 1) / 4 := by omega
  -- the last year of a century has no leap day, unless it is the last of the era
  by_cases turn : year + 1 = 100 * (day / 36524 + 1)
  · have fours : (year + 1) / 4 = 25 * (day / 36524 + 1) := by omega
    have next : (year + 1) / 100 = day / 36524 + 1 := by omega
    rw [fours, next, turn]
    omega
  · have next : (year + 1) / 100 = day / 36524 := by omega
    rw [next]
    omega

theorem startOfMonth_le (day : Nat) : startOfMonth ((5 * day + 2) / 153) ≤ day := by
  unfold startOfMonth
  omega

theorem lt_startOfMonth_succ (day : Nat) : day < startOfMonth ((5 * day + 2) / 153 + 1) := by
  unfold startOfMonth
  omega

/-- The date of a day that is counted from the start of its month, with months and years counted
from March. -/
def ofMarch (era : Int) (year month day : Nat) : Date :=
  { year := era * 400 + year + if month < 10 then 0 else 1
    month := if month < 10 then month + 3 else month - 9
    day := day + 1 }

theorem toDays_ofMarch (era : Int) {year month : Nat} (day : Nat) (inEra : year < 400)
    (inYear : month < 12) :
    (ofMarch era year month day).toDays =
      era * daysInEra + startOfYear year + startOfMonth month + day - epochDays := by
  have march : ∀ shown : Int, shown = era * 400 + year →
      shown.fdiv 400 = era ∧ (shown.fmod 400).toNat = year := by
    intro shown shown_eq
    rw [Int.fdiv_eq_ediv_of_nonneg _ (by decide), Int.fmod_eq_emod_of_nonneg _ (by decide)]
    omega
  unfold toDays ofMarch
  by_cases early : month < 10
  · obtain ⟨era_eq, year_eq⟩ := march (era * 400 + year + 0) (by omega)
    have late : ¬ month + 3 ≤ 2 := by omega
    simp only [early, late, if_true, if_false, era_eq, year_eq, Nat.add_sub_cancel]
  · obtain ⟨era_eq, year_eq⟩ := march (era * 400 + year + 1 - 1) (by omega)
    have back : month - 9 ≤ 2 := by omega
    have month_eq : month - 9 + 9 = month := by omega
    simp only [early, back, if_true, if_false, era_eq, year_eq, month_eq, Nat.add_sub_cancel]

/-- What day it is, counted from the start of its month, with months and years counted from
March. -/
structure IsMarch (days era : Int) (year month day : Nat) : Prop where
  inEra : year < 400
  inYear : month < 12
  inMonth : startOfMonth month + day < startOfMonth (month + 1)
  /-- The next year begins later; the last year of an era has a leap day again. -/
  thisYear : startOfYear year + startOfMonth month + day <
    startOfYear (year + 1) + (year + 1) / 400
  days_eq : days = era * daysInEra + startOfYear year + startOfMonth month + day - epochDays

theorem ofDays_march (days : Int) : ∃ (era : Int) (year month day : Nat),
    IsMarch days era year month day ∧ ofDays days = ofMarch era year month day := by
  have era_pos : (0 : Int) < daysInEra := by decide
  have fmod_lt := Int.fmod_lt_of_pos (days + epochDays) era_pos
  have fmod_nonneg := Int.fmod_nonneg_of_pos (days + epochDays) era_pos
  have whole := Int.mul_fdiv_add_fmod (days + epochDays) daysInEra
  obtain ⟨dayOfEra, day_eq⟩ := Int.eq_ofNat_of_zero_le fmod_nonneg
  rw [day_eq, Int.mul_comm] at whole
  have within : dayOfEra < daysInEra := by omega
  obtain ⟨year_le, left_lt⟩ := startOfYear_yearOfEra within
  have next_lt := lt_startOfYear_succ within
  have month_le := startOfMonth_le (dayOfEra - startOfYear (yearOfEra dayOfEra))
  have month_lt := lt_startOfMonth_succ (dayOfEra - startOfYear (yearOfEra dayOfEra))
  refine ⟨(days + epochDays).fdiv daysInEra, yearOfEra dayOfEra,
    (5 * (dayOfEra - startOfYear (yearOfEra dayOfEra)) + 2) / 153,
    dayOfEra - startOfYear (yearOfEra dayOfEra) -
      startOfMonth ((5 * (dayOfEra - startOfYear (yearOfEra dayOfEra)) + 2) / 153),
    ⟨yearOfEra_lt within, ?_, ?_, ?_, ?_⟩, ?_⟩
  · omega
  · omega
  · omega
  · omega
  · simp only [ofDays, ofMarch, day_eq, Int.toNat_natCast]

theorem toDays_ofDays (days : Int) : (ofDays days).toDays = days := by
  obtain ⟨era, year, month, day, march, date_eq⟩ := ofDays_march days
  rw [date_eq, toDays_ofMarch era day march.inEra march.inYear]
  exact march.days_eq.symm

/-! ## The days of a month -/

/-- A month counted from March is as long as the calendar says, but for February. -/
theorem daysInMonth_march (year : Int) {month : Nat} (early : month < 11) :
    startOfMonth (month + 1) - startOfMonth month =
      daysInMonth year (if month < 10 then month + 3 else month - 9) := by
  interval_cases month <;> rfl

/-- A year that begins in March ends with the leap day of the next. -/
theorem startOfYear_succ (era : Int) {year : Nat} (inEra : year < 400) :
    startOfYear (year + 1) + (year + 1) / 400 =
      startOfYear year + if isLeap (era * 400 + year + 1) then 366 else 365 := by
  have leap : isLeap (era * 400 + year + 1) = true ↔
      (year + 1) % 4 = 0 ∧ ((year + 1) % 100 ≠ 0 ∨ (year + 1) % 400 = 0) := by
    simp only [isLeap, Bool.and_eq_true, Bool.or_eq_true, beq_iff_eq, bne_iff_ne]
    omega
  simp only [leap]
  unfold startOfYear
  split
  next last => omega
  next common =>
    by_cases fourth : (year + 1) % 4 = 0
    · have hundredth : (year + 1) % 100 = 0 := by omega
      omega
    · omega
theorem IsMarch.day_lt {days era : Int} {year month day : Nat}
    (march : IsMarch days era year month day) :
    day < daysInMonth (ofMarch era year month day).year (ofMarch era year month day).month := by
  obtain ⟨inEra, inYear, inMonth, thisYear, _⟩ := march
  by_cases february : month = 11
  · subst february
    have start : startOfMonth 11 = 337 := rfl
    have length : daysInMonth (era * 400 + year + 1) 2 =
        if isLeap (era * 400 + year + 1) then 29 else 28 := rfl
    have next := startOfYear_succ era inEra
    show day < daysInMonth (era * 400 + year + 1) 2
    rw [length]
    by_cases leap : isLeap (era * 400 + year + 1) = true
    · rw [if_pos leap] at next ⊢
      omega
    · rw [if_neg leap] at next ⊢
      omega
  · have early : month < 11 := by omega
    show day < daysInMonth _ (if month < 10 then month + 3 else month - 9)
    rw [← daysInMonth_march _ early]
    omega

theorem isValid_ofDays {days : Int} (low : -262143 ≤ (ofDays days).year)
    (high : (ofDays days).year ≤ 262142) : (ofDays days).isValid = true := by
  obtain ⟨era, year, month, day, march, date_eq⟩ := ofDays_march days
  have day_lt := march.day_lt
  have inYear := march.inYear
  rw [date_eq] at low high ⊢
  have month_pos : 1 ≤ (ofMarch era year month day).month := by
    unfold ofMarch
    dsimp only
    split <;> omega
  have month_le : (ofMarch era year month day).month ≤ 12 := by
    unfold ofMarch
    dsimp only
    split <;> omega
  simp only [isValid, Bool.and_eq_true, decide_eq_true_eq]
  exact ⟨⟨⟨⟨⟨low, high⟩, month_pos⟩, month_le⟩, Nat.succ_pos day⟩, day_lt⟩

/-! ## The order of days -/

/-- The one date is earlier in its year, or in an earlier one. -/
def Before (a b : Date) : Prop :=
  a.year < b.year ∨ a.year = b.year ∧
    (a.month < b.month ∨ a.month = b.month ∧ a.day < b.day)

theorem startOfYear_mono {a b : Nat} (h : a ≤ b) : startOfYear a ≤ startOfYear b := by
  unfold startOfYear
  have hundreds : b / 100 ≤ a / 100 + (b - a) := by omega
  omega

theorem startOfMonth_mono {a b : Nat} (h : a ≤ b) : startOfMonth a ≤ startOfMonth b := by
  unfold startOfMonth
  omega

theorem IsMarch.inEra_days {days era : Int} {year month day : Nat}
    (march : IsMarch days era year month day) :
    era * daysInEra ≤ days + epochDays ∧ days + epochDays < era * daysInEra + daysInEra := by
  obtain ⟨inEra, _, _, thisYear, days_eq⟩ := march
  have le := startOfYear_mono (show year + 1 ≤ 400 from inEra)
  have whole : startOfYear 400 + 1 = daysInEra := rfl
  omega

/-- A later day comes in a later era, year or month or later in the same month. -/
theorem IsMarch.lt {a b era era' : Int} {year month day year' month' day' : Nat}
    (march : IsMarch a era year month day) (march' : IsMarch b era' year' month' day')
    (h : a < b) :
    era < era' ∨ era = era' ∧ (year < year' ∨ year = year' ∧
      (month < month' ∨ month = month' ∧ day < day')) := by
  have inEra := march.inEra_days
  have inEra' := march'.inEra_days
  have days_eq := march.days_eq
  have days_eq' := march'.days_eq
  by_cases sameEra : era = era'
  · subst sameEra
    refine .inr ⟨rfl, ?_⟩
    by_cases sameYear : year = year'
    · subst sameYear
      refine .inr ⟨rfl, ?_⟩
      by_cases sameMonth : month = month'
      · subst sameMonth
        exact .inr ⟨rfl, by omega⟩
      · left
        by_contra later
        have start := startOfMonth_mono (show month' + 1 ≤ month by omega)
        have := march'.inMonth
        omega
    · left
      by_contra later
      have start := startOfYear_mono (show year' + 1 ≤ year by omega)
      have := march'.thisYear
      have := march.inEra
      omega
  · left
    unfold daysInEra at *
    omega

theorem ofDays_before {a b : Int} (h : a < b) : (ofDays a).Before (ofDays b) := by
  obtain ⟨era, year, month, day, march, date_eq⟩ := ofDays_march a
  obtain ⟨era', year', month', day', march', date_eq'⟩ := ofDays_march b
  have before := march.lt march' h
  have inEra := march.inEra
  have inYear := march.inYear
  have inYear' := march'.inYear
  rw [date_eq, date_eq']
  unfold Before ofMarch
  dsimp only
  -- a year from January is one more from its eleventh month on
  by_cases early : month < 10
  · by_cases early' : month' < 10
    · simp only [early, early', if_true]
      omega
    · simp only [early, early', if_true, if_false]
      omega
  · by_cases early' : month' < 10
    · simp only [early, early', if_true, if_false]
      omega
    · simp only [early, early', if_false]
      omega

end Date

end Recovery
