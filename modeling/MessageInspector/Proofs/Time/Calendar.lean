import Mathlib.Algebra.Ring.Nat
import MessageInspector.Time.Calendar
/-!
# Dates and day numbers

A day number is what one gets by counting the calendar out: years of 365 days, the leap days in them,
then months, then days. Every day number is that of a date that occurs in the calendar.
-/
namespace MessageInspector.Time

def leapDays (year : Int) : Int := year / 4 - year / 100 + year / 400

def daysBefore (year : Int) (month : Nat) : Nat :=
  ((List.range' 1 (month - 1)).map (daysInMonth year)).sum

/-- The day number of a date, counted out from year one, whose first day has the number -719162. -/
def Date.countedDays (date : Date) : Int :=
  365 * (date.year - 1) + leapDays (date.year - 1) + daysBefore date.year date.month + date.day -
    719163

theorem leapDays_eq (year : Int) :
    leapDays year = leapDays (year - 1) + (isLeapYear year).toNat := by
  cases h : isLeapYear year with
  | true =>
    simp only [isLeapYear, Bool.and_eq_true, Bool.or_eq_true, decide_eq_true_eq] at h
    simp only [leapDays, Bool.toNat_true]
    omega
  | false =>
    simp only [isLeapYear, Bool.and_eq_false_iff, Bool.or_eq_false_iff, decide_eq_false_iff_not] at h
    simp only [leapDays, Bool.toNat_false]
    omega

/-! ## Counting out -/

theorem isReal_iff {date : Date} : date.isReal = true ↔
    (1 ≤ date.month ∧ date.month ≤ 12) ∧ 1 ≤ date.day ∧
      date.day ≤ daysInMonth date.year date.month := by
  simp only [Date.isReal, Bool.and_eq_true, decide_eq_true_eq]
  omega

/-- The year only tells whether February is long. From March on, five months have 153 days. -/
theorem daysBefore_eq (year : Int) {month : Nat} (h : 1 ≤ month ∧ month ≤ 12) :
    daysBefore year month =
      if month ≤ 2 then 31 * (month - 1)
      else 59 + (isLeapYear year).toNat + (153 * (month - 3) + 2) / 5 := by
  have hyear : daysInMonth year = fun month =>
      if month = 2 then (if isLeapYear year = true then 29 else 28)
      else if month = 4 ∨ month = 6 ∨ month = 9 ∨ month = 11 then 30 else 31 := rfl
  have hmonth : month ∈ List.range' 1 12 := List.mem_range'_1.mpr (by omega)
  clear h
  rw [daysBefore, hyear]
  generalize isLeapYear year = leap
  revert month leap
  decide

theorem daysInMonth_le (year : Int) (month : Nat) : daysInMonth year month ≤ 31 := by
  rw [daysInMonth]
  repeat' split
  all_goals decide

theorem dayOfYear_le {date : Date} (h : date.isReal = true) :
    1 ≤ daysBefore date.year date.month + date.day ∧
      daysBefore date.year date.month + date.day ≤ 365 + (isLeapYear date.year).toNat := by
  obtain ⟨hmonth, hday, hlast⟩ := isReal_iff.mp h
  have hlength := daysInMonth_le date.year date.month
  rw [daysBefore_eq _ hmonth]
  split <;> omega

theorem countedDays_lt_iff {date : Date} (h : date.isReal = true) (year : Int) :
    date.countedDays < 365 * year + leapDays year + 1 - 719163 ↔ date.year ≤ year := by
  have hday := dayOfYear_le h
  have hyear := leapDays_eq date.year
  simp only [Date.countedDays, leapDays] at hyear ⊢
  omega

/-- Eras have one length, so their years can be counted together with the eras before. -/
theorem daysOfEra_add (year : Int) :
    year / 400 * daysPerEra + (year % 400 * 365 + year % 400 / 4 - year % 400 / 100) =
      365 * year + leapDays year := by
  simp only [leapDays, daysPerEra]
  omega

theorem toDays_eq_countedDays {date : Date} (h : date.isReal = true) :
    date.toDays = date.countedDays := by
  obtain ⟨hmonth, -⟩ := isReal_iff.mp h
  have hyear := leapDays_eq date.year
  simp only [Date.countedDays, daysBefore_eq _ hmonth, Date.toDays, daysToEpoch]
  by_cases hwinter : date.month ≤ 2
  · have hera := daysOfEra_add (date.year - 1)
    have hfromMarch : (date.month + 9) % 12 = date.month + 9 := by omega
    simp only [if_pos hwinter, hfromMarch]
    omega
  · have hera := daysOfEra_add date.year
    have hfromMarch : (date.month + 9) % 12 = date.month - 3 := by omega
    simp only [if_neg hwinter, hfromMarch]
    omega

/-! ## Dates of day numbers -/

/-- A day of an era, by centuries, cycles of four years, and years from March to February. Only the
last year of a cycle has a leap day, and that of a century none unless it is the last. -/
structure EraDay (dayOfEra century cycle year day : Int) : Prop where
  sum : dayOfEra = 36524 * century + 1461 * cycle + 365 * year + day
  centuries : 0 ≤ century ∧ century ≤ 3
  cycles : 0 ≤ cycle ∧ cycle ≤ 24
  years : 0 ≤ year ∧ year ≤ 3
  days : 0 ≤ day ∧ (day ≤ 364 ∨ day = 365 ∧ year = 3 ∧ (cycle = 24 → century = 3))

section EraDay
variable {dayOfEra century cycle year day : Int}

theorem exists_eraDay (h : 0 ≤ dayOfEra ∧ dayOfEra < daysPerEra) :
    ∃ century cycle year day, EraDay dayOfEra century cycle year day := by
  obtain ⟨hfirst, hlast⟩ := h
  simp only [daysPerEra] at hlast
  -- What is one too many belongs to the last century, cycle or year.
  obtain ⟨q, hq⟩ : ∃ q, q = min (dayOfEra / 36524) 3 := ⟨_, rfl⟩
  obtain ⟨a, ha⟩ : ∃ a, a = min ((dayOfEra - 36524 * q) / 1461) 24 := ⟨_, rfl⟩
  obtain ⟨b, hb⟩ : ∃ b, b = min ((dayOfEra - 36524 * q - 1461 * a) / 365) 3 := ⟨_, rfl⟩
  refine ⟨q, a, b, dayOfEra - 36524 * q - 1461 * a - 365 * b, ?_, ?_, ?_, ?_, ?_⟩
  · omega
  · omega
  · omega
  · omega
  · omega

theorem EraDay.yearOfEra_eq (h : EraDay dayOfEra century cycle year day) :
    (dayOfEra - dayOfEra / 1460 + dayOfEra / 36524 - dayOfEra / 146096) / 365 =
      100 * century + 4 * cycle + year := by
  obtain ⟨hsum, hcentury, hcycle, hyear, hday⟩ := h
  by_cases hlast : dayOfEra = 146096
  · subst hlast
    omega
  · have hera : dayOfEra / 146096 = 0 := by omega
    have hcenturies : dayOfEra / 36524 = century := by omega
    omega

theorem EraDay.dayOfYear_eq (h : EraDay dayOfEra century cycle year day) :
    dayOfEra - (365 * (100 * century + 4 * cycle + year) + (100 * century + 4 * cycle + year) / 4 -
      (100 * century + 4 * cycle + year) / 100) = day := by
  obtain ⟨hsum, hcentury, hcycle, hyear, -⟩ := h
  omega

end EraDay

def OccursFromMarch (year day : Int) : Prop :=
  0 ≤ day ∧ day < 365 + (isLeapYear (year + 1)).toNat

def dateFromMarch (year day : Int) : Date :=
  let monthFromMarch := (5 * day + 2) / 153
  let month := if monthFromMarch < 10 then monthFromMarch + 3 else monthFromMarch - 9
  { year := if month ≤ 2 then year + 1 else year
    month := month.toNat
    day := (day - (153 * monthFromMarch + 2) / 5 + 1).toNat }

theorem EraDay.occurs {dayOfEra century cycle year day : Int}
    (h : EraDay dayOfEra century cycle year day) (era : Int) :
    OccursFromMarch (era * 400 + (100 * century + 4 * cycle + year)) day := by
  obtain ⟨hsum, hcentury, hcycle, hyear, hday⟩ := h
  refine ⟨hday.1, ?_⟩
  have hleap := leapDays_eq (era * 400 + (100 * century + 4 * cycle + year) + 1)
  simp only [leapDays] at hleap
  omega

theorem ofDays_eq (days : Int) :
    ∃ year day, OccursFromMarch year day ∧
      days + daysToEpoch = 365 * year + leapDays year + day ∧
      Date.ofDays days = dateFromMarch year day := by
  obtain ⟨era, hera⟩ : ∃ era, era = (days + daysToEpoch) / daysPerEra := ⟨_, rfl⟩
  obtain ⟨dayOfEra, hday⟩ : ∃ day, day = (days + daysToEpoch) % daysPerEra := ⟨_, rfl⟩
  have hsplit : days + daysToEpoch = daysPerEra * era + dayOfEra := by
    rw [hera, hday, Int.mul_ediv_add_emod]
  have hrange : 0 ≤ dayOfEra ∧ dayOfEra < daysPerEra := by
    rw [hday]
    exact ⟨Int.emod_nonneg _ (by decide), Int.emod_lt_of_pos _ (by decide)⟩
  obtain ⟨century, cycle, year, day, h⟩ := exists_eraDay hrange
  refine ⟨era * 400 + (100 * century + 4 * cycle + year), day, h.occurs era, ?_, ?_⟩
  · obtain ⟨hsum, hcentury, hcycle, hyears, -⟩ := h
    rw [hsplit]
    simp only [daysPerEra, leapDays]
    omega
  · rw [Date.ofDays, ← hera, ← hday]
    simp only [h.yearOfEra_eq, h.dayOfYear_eq, dateFromMarch]

theorem daysInMonth_february (year : Int) :
    daysInMonth year 2 = 28 + (isLeapYear year).toNat := by
  cases h : isLeapYear year <;> simp [daysInMonth, h]

theorem daysInMonth_fromMarch (year : Int) {n : Nat} (h : n < 11) :
    daysInMonth year ((n + 2) % 12 + 1) = (153 * (n + 1) + 2) / 5 - (153 * n + 2) / 5 := by
  have hlong : (n + 2) % 12 + 1 ≠ 2 := by omega
  rw [daysInMonth, if_neg hlong]
  clear hlong
  revert n
  decide

section FromMarch
variable {year day : Int} (h : OccursFromMarch year day)
include h

theorem dateFromMarch_eq :
    ∃ n d : Nat, n < 12 ∧ day = ((153 * n + 2) / 5 + d : Nat) ∧
      dateFromMarch year day = ⟨if n < 10 then year else year + 1, (n + 2) % 12 + 1, d + 1⟩ ∧
      d < daysInMonth (if n < 10 then year else year + 1) ((n + 2) % 12 + 1) := by
  obtain ⟨hfirst, hlast⟩ := h
  have hlength := Bool.toNat_le (isLeapYear (year + 1))
  obtain ⟨n, hn⟩ : ∃ n : Nat, (5 * day + 2) / 153 = n :=
    ⟨((5 * day + 2) / 153).toNat, by omega⟩
  obtain ⟨d, hd⟩ : ∃ d : Nat, day = ((153 * n + 2) / 5 + d : Nat) :=
    ⟨(day - (153 * n + 2) / 5).toNat, by omega⟩
  refine ⟨n, d, by omega, hd, ?_, ?_⟩
  · have hday : (day - (153 * (n : Int) + 2) / 5 + 1).toNat = d + 1 := by omega
    simp only [dateFromMarch, hn, hday, Date.mk.injEq, and_true]
    by_cases hspring : n < 10
    · have hmonth : (n : Int) < 10 := by omega
      have hwinter : ¬ (n : Int) + 3 ≤ 2 := by omega
      simp only [if_pos hspring, if_pos hmonth, if_neg hwinter, true_and]
      omega
    · have hmonth : ¬ (n : Int) < 10 := by omega
      have hwinter : (n : Int) - 9 ≤ 2 := by omega
      simp only [if_neg hspring, if_neg hmonth, if_pos hwinter, true_and]
      omega
  · by_cases hlong : n = 11
    · subst hlong
      have hfebruary := daysInMonth_february (year + 1)
      simp only [Nat.reduceAdd, Nat.reduceMod, Nat.reduceLT, if_false]
      omega
    · have hmonth := daysInMonth_fromMarch (if n < 10 then year else year + 1)
        (by omega : n < 11)
      omega

theorem isReal_dateFromMarch : (dateFromMarch year day).isReal = true := by
  obtain ⟨n, d, hn, -, hdate, hd⟩ := dateFromMarch_eq h
  rw [hdate, isReal_iff]
  simp only
  omega

theorem toDays_dateFromMarch :
    (dateFromMarch year day).toDays = 365 * year + leapDays year + day - daysToEpoch := by
  obtain ⟨n, d, hn, hday, hdate, -⟩ := dateFromMarch_eq h
  have hera := daysOfEra_add year
  have hmonth : ((n + 2) % 12 + 1 + 9) % 12 = n := by omega
  rw [hdate]
  simp only [Date.toDays, hmonth]
  by_cases hspring : n < 10
  · have hwinter : ¬ (n + 2) % 12 + 1 ≤ 2 := by omega
    simp only [if_pos hspring, if_neg hwinter]
    omega
  · have hwinter : (n + 2) % 12 + 1 ≤ 2 := by omega
    simp only [if_neg hspring, if_pos hwinter, Int.add_sub_cancel]
    omega

end FromMarch

theorem isReal_ofDays (days : Int) : (Date.ofDays days).isReal = true := by
  obtain ⟨year, day, hday, -, hdate⟩ := ofDays_eq days
  rw [hdate]
  exact isReal_dateFromMarch hday

theorem toDays_ofDays (days : Int) : (Date.ofDays days).toDays = days := by
  obtain ⟨year, day, hday, hsum, hdate⟩ := ofDays_eq days
  rw [hdate, toDays_dateFromMarch hday]
  omega

end MessageInspector.Time
