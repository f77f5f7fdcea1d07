import AccessGateway.Time.Calendar
import Mathlib.Algebra.Order.BigOperators.Group.List
import Mathlib.Algebra.Order.Group.Nat
import Mathlib.Algebra.Ring.Nat

/-!
# `AccessGateway.Proofs.Time.Calendar`: every day has a date, and later days have later ones

The calendar has a date for every day, and the date leads back to the day. The year is found by a
guess that may be one off, so the first days of three years in a row are compared; within the year
the months are taken off one by one.

What the two directions have in common is a sum: the number of a day is that of the first day of its
year, and the days of the months before it, and the days before it in its month
(`Date.dayNumber_eq`, `Date.ofDay_spec`). The order of dates is compared part by part, and the
number of a date that comes first in an earlier part is less, because the parts behind never make up
for it: a month ends before any later one begins, and a year before the next
(`Date.daysBefore_add_monthLength_le`).

* `firstDay_succ`: a year has 365 days, or 366 if it is a leap year.
* `firstDay_yearOfDay_le`, `lt_firstDay_yearOfDay_succ`: a day lies in its year.
* `splitMonths_spec`: a day of a year lies in its month.
* `Date.isValid_ofDay`, `Date.dayNumber_ofDay`: the date of a day is one, and is that of the day.
* `Date.ofDay_before`: dates are in the order of their days.
-/

set_option autoImplicit false

namespace AccessGateway.Time

/-! ### Years -/

/-- The number of days in a year, counted by its months. -/
def yearLength (year : Int) : Nat := (monthLengths (isLeapYear year)).sum

/-- A leap year has a day more. -/
theorem yearLength_eq (year : Int) : yearLength year = if isLeapYear year then 366 else 365 := by
  unfold yearLength
  cases isLeapYear year <;> rfl

/-- A year begins where the year before it ends. The leap years that the three quotients count are
those by the rule. -/
theorem firstDay_succ (year : Int) : firstDay (year + 1) = firstDay year + yearLength year := by
  have hleap : isLeapYear year = true ↔ year % 4 = 0 ∧ (year % 100 ≠ 0 ∨ year % 400 = 0) := by
    simp [isLeapYear]
  rw [yearLength_eq]
  simp only [firstDay]
  split
  · rename_i h
    have := hleap.mp h
    omega
  · rename_i h
    have := mt hleap.mpr h
    omega

section
variable (day : Int)

/-- A day does not come before its year. The guess is too late by less than a year. -/
theorem firstDay_yearOfDay_le : firstDay (yearOfDay day) ≤ day := by
  unfold yearOfDay
  dsimp only
  split
  · unfold firstDay
    omega
  · split
    · assumption
    · omega

/-- A day does not come after its year. The guess is too early by less than a year. -/
theorem lt_firstDay_yearOfDay_succ : day < firstDay (yearOfDay day + 1) := by
  unfold yearOfDay
  dsimp only
  split
  · rename_i hlate
    rwa [Int.sub_add_cancel]
  · split
    · unfold firstDay
      omega
    · omega

end

/-! ### Months -/

/-- A day of a year lies in the month that it is split off with, behind all months before. The
induction takes one month off at a time. -/
theorem splitMonths_spec {lengths : List Nat} {day : Nat} (hday : day < lengths.sum) :
    ∃ length, lengths[(splitMonths lengths day).1]? = some length ∧
      (splitMonths lengths day).2 < length ∧
      (lengths.take (splitMonths lengths day).1).sum + (splitMonths lengths day).2 = day := by
  induction lengths generalizing day with
  | nil => simp at hday
  | cons length rest ih =>
    by_cases hfirst : day < length
    · rw [splitMonths, if_pos hfirst]
      exact ⟨length, rfl, hfirst, by simp⟩
    · have hlater : splitMonths (length :: rest) day
          = ((splitMonths rest (day - length)).1 + 1, (splitMonths rest (day - length)).2) := by
        rw [splitMonths, if_neg hfirst]
      rw [List.sum_cons] at hday
      have hless : day - length < rest.sum := by omega
      obtain ⟨own, hown, hwithin, hsum⟩ := ih hless
      rw [hlater]
      refine ⟨own, hown, hwithin, ?_⟩
      rw [List.take_succ_cons, List.sum_cons]
      omega

/-- No month is longer than 31 days, and one that there is not has none. -/
theorem monthLength_le (year : Int) (month : Nat) : monthLength year month ≤ 31 := by
  have hlengths : ∀ leap, ∀ length ∈ monthLengths leap, length ≤ 31 := by decide
  unfold monthLength
  cases hlength : (monthLengths (isLeapYear year))[month - 1]? with
  | none => simp
  | some length => exact hlengths _ length (List.mem_of_getElem? hlength)

/-! ### Dates -/

namespace Date

/-- The bounds of the parts of a date that is in the calendar. -/
theorem bounds_of_isValid {date : Date} (h : date.isValid = true) :
    (1 ≤ date.month ∧ date.month ≤ 12) ∧ 1 ≤ date.day ∧ date.day ≤ 31 := by
  have hlength := monthLength_le date.year date.month
  simp only [isValid, Bool.and_eq_true, decide_eq_true_eq] at h
  omega

/-- The number of days of a year in front of a month. -/
def daysBefore (year : Int) (month : Nat) : Nat :=
  ((monthLengths (isLeapYear year)).take (month - 1)).sum

/-- The number of a day counts the years before it, the months before it in its year, and the days
before it in its month. -/
theorem dayNumber_eq (date : Date) :
    date.dayNumber = firstDay date.year + daysBefore date.year date.month + (date.day - 1) := by
  rw [dayNumber, ← List.sum_eq_foldl]
  rfl

variable (day : Int)

/-- The parts of the date of a day: its month is one of the year, its day one of the month, and in
front of it are the years and months before. -/
theorem ofDay_spec : ∃ length,
    (monthLengths (isLeapYear (ofDay day).year))[(ofDay day).month - 1]? = some length ∧
    1 ≤ (ofDay day).month ∧ 1 ≤ (ofDay day).day ∧ (ofDay day).day ≤ length ∧
    firstDay (ofDay day).year + daysBefore (ofDay day).year (ofDay day).month
      + ((ofDay day).day - 1 : Nat) = day := by
  have hfrom := firstDay_yearOfDay_le day
  have hupto := lt_firstDay_yearOfDay_succ day
  rw [firstDay_succ] at hupto
  have hwithin : (day - firstDay (yearOfDay day)).toNat < yearLength (yearOfDay day) := by omega
  obtain ⟨length, hlength, hday, hsum⟩ := splitMonths_spec hwithin
  refine ⟨length, hlength, by simp [ofDay], by simp [ofDay], hday, ?_⟩
  simp only [ofDay, daysBefore, Nat.add_sub_cancel]
  omega

/-- The date of a day is a date. -/
theorem isValid_ofDay : (ofDay day).isValid = true := by
  obtain ⟨length, hlength, hmonth, hday, hle, -⟩ := ofDay_spec day
  have htwelve : (monthLengths (isLeapYear (ofDay day).year)).length = 12 := rfl
  obtain ⟨hlt, -⟩ := List.getElem?_eq_some_iff.mp hlength
  have hmonthLength : monthLength (ofDay day).year (ofDay day).month = length := by
    rw [monthLength, hlength, Option.getD_some]
  simp only [isValid, hmonthLength, Bool.and_eq_true, decide_eq_true_eq]
  omega

/-- The date of a day is the date of that day. -/
theorem dayNumber_ofDay : (ofDay day).dayNumber = day := by
  obtain ⟨length, -, -, hday, -, hsum⟩ := ofDay_spec day
  rw [dayNumber_eq]
  omega

/-! ### The order of dates -/

/-- Which of two dates comes first: by year, then by month, then by day. -/
inductive Before (date other : Date) : Prop where
  | byYear (h : date.year < other.year)
  | byMonth (hyear : date.year = other.year) (h : date.month < other.month)
  | byDay (hyear : date.year = other.year) (hmonth : date.month = other.month)
      (h : date.day < other.day)

/-- Of two dates one is before the other, unless they are the same. Whether they are in the calendar
does not matter. -/
theorem before_trichotomy (date other : Date) :
    date.Before other ∨ date = other ∨ other.Before date := by
  rcases Int.lt_trichotomy date.year other.year with h | hyear | h
  · exact Or.inl (.byYear h)
  · rcases Nat.lt_trichotomy date.month other.month with h | hmonth | h
    · exact Or.inl (.byMonth hyear h)
    · rcases Nat.lt_trichotomy date.day other.day with h | hday | h
      · exact Or.inl (.byDay hyear hmonth h)
      · exact Or.inr (Or.inl ((Date.mk.injEq ..).mpr ⟨hyear, hmonth, hday⟩))
      · exact Or.inr (Or.inr (.byDay hyear.symm hmonth.symm h))
    · exact Or.inr (Or.inr (.byMonth hyear.symm h))
  · exact Or.inr (Or.inr (.byYear h))

/-- A month of a year ends before any later one begins, and within the year. -/
theorem daysBefore_add_monthLength_le {date : Date} (h : date.isValid = true) :
    (∀ month, date.month < month →
      daysBefore date.year date.month + date.day ≤ daysBefore date.year month) ∧
    daysBefore date.year date.month + date.day ≤ yearLength date.year := by
  obtain ⟨⟨hfirst, hlast⟩, -⟩ := bounds_of_isValid h
  have hday : date.day ≤ monthLength date.year date.month := by
    simp only [isValid, Bool.and_eq_true, decide_eq_true_eq] at h
    exact h.2
  simp only [daysBefore, yearLength, monthLength] at hday ⊢
  generalize hlengths : monthLengths (isLeapYear date.year) = lengths at hday
  have htwelve : date.month - 1 < lengths.length := by
    rw [← hlengths]
    show date.month - 1 < 12
    omega
  rw [List.getElem?_eq_getElem htwelve, Option.getD_some] at hday
  -- the month itself is one more of the months that are summed up
  have hmonth : (lengths.take (date.month - 1)).sum + date.day
      ≤ (lengths.take (date.month - 1 + 1)).sum := by
    rw [List.sum_take_succ lengths _ htwelve]
    omega
  constructor
  · intro month hlater
    have hmore : (lengths.take (date.month - 1 + 1)).Sublist (lengths.take (month - 1)) :=
      List.take_sublist_take_left (by omega)
    exact Nat.le_trans hmonth (hmore.sum_le_sum fun _ _ => Nat.zero_le _)
  · exact Nat.le_trans hmonth ((List.take_sublist _ _).sum_le_sum fun _ _ => Nat.zero_le _)

/-- Days are numbered in the order of their dates, if these are in the calendar. -/
theorem dayNumber_lt_of_before {date other : Date} (hdate : date.isValid = true)
    (hother : other.isValid = true) (h : date.Before other) : date.dayNumber < other.dayNumber := by
  obtain ⟨hmonth, hyear⟩ := daysBefore_add_monthLength_le hdate
  obtain ⟨-, hday, -⟩ := bounds_of_isValid hdate
  obtain ⟨-, hday', -⟩ := bounds_of_isValid hother
  rw [dayNumber_eq, dayNumber_eq]
  cases h with
  | byYear h =>
    -- a whole year lies between their first days
    have hnext : firstDay (date.year + 1) ≤ firstDay other.year := by
      unfold firstDay
      omega
    rw [firstDay_succ] at hnext
    omega
  | byMonth hsame h =>
    have hlater := hmonth other.month h
    rw [← hsame]
    omega
  | byDay hsame hsame' h =>
    rw [← hsame, ← hsame']
    omega

/-- Dates are in the order of the days that they are the dates of. The other order would turn that
of the days around. -/
theorem ofDay_before {day other : Int} (h : day < other) : (ofDay day).Before (ofDay other) := by
  rcases before_trichotomy (ofDay day) (ofDay other) with hbefore | heq | hafter
  · exact hbefore
  · have hday := congrArg dayNumber heq
    rw [dayNumber_ofDay, dayNumber_ofDay] at hday
    omega
  · have hday := dayNumber_lt_of_before (isValid_ofDay _) (isValid_ofDay _) hafter
    rw [dayNumber_ofDay, dayNumber_ofDay] at hday
    omega

end Date

end AccessGateway.Time
