import Mathlib.Algebra.Group.Nat.Defs
import Mathlib.Algebra.GroupWithZero.Nat
import Mathlib.Logic.Function.Iterate

/-! The proleptic Gregorian calendar: dates that are advanced day by day, civil times, and the
numbers of days and seconds that lie before them. -/

namespace X5MaxDevice.Calendar

def IsLeap (year : Nat) : Prop := year % 4 = 0 ∧ (year % 100 = 0 → year % 400 = 0)

instance (year : Nat) : Decidable (IsLeap year) := inferInstanceAs (Decidable (_ ∧ (_ → _)))

def daysInYear (year : Nat) : Nat := if IsLeap year then 366 else 365

def daysInMonth (year month : Nat) : Nat :=
  if month = 2 then if IsLeap year then 29 else 28
  else if month = 4 ∨ month = 6 ∨ month = 9 ∨ month = 11 then 30
  else 31

@[ext] structure Date where
  year : Nat
  month : Nat
  day : Nat
  month_pos : 1 ≤ month
  month_le : month ≤ 12
  day_pos : 1 ≤ day
  day_le : day ≤ daysInMonth year month
  deriving DecidableEq

theorem daysInMonth_pos (year month : Nat) : 1 ≤ daysInMonth year month := by
  unfold daysInMonth
  split
  · split <;> decide
  · split <;> decide

theorem daysInMonth_le (year month : Nat) : daysInMonth year month ≤ 31 := by
  unfold daysInMonth
  split
  · split <;> decide
  · split <;> decide

def firstOf (year month : Nat) (low : 1 ≤ month) (high : month ≤ 12) : Date :=
  ⟨year, month, 1, low, high, Nat.le_refl 1, daysInMonth_pos year month⟩

def newYear (year : Nat) : Date := firstOf year 1 (Nat.le_refl 1) (by decide)

/-- The day after a date. -/
def Date.next (date : Date) : Date :=
  if inMonth : date.day < daysInMonth date.year date.month then
    ⟨date.year, date.month, date.day + 1, date.month_pos, date.month_le, Nat.le_add_left 1 _,
      inMonth⟩
  else if inYear : date.month < 12 then
    firstOf date.year (date.month + 1) (Nat.le_add_left 1 _) inYear
  else newYear (date.year + 1)

def Date.plus (date : Date) (days : Nat) : Date := Date.next^[days] date

@[simp] theorem plus_zero (date : Date) : date.plus 0 = date := rfl

theorem plus_succ (date : Date) (days : Nat) : date.plus (days + 1) = (date.plus days).next :=
  Function.iterate_succ_apply' Date.next days date

theorem plus_plus (date : Date) (first second : Nat) :
    (date.plus first).plus second = date.plus (first + second) := by
  rw [Nat.add_comm]
  exact (Function.iterate_add_apply Date.next second first date).symm

/-- Within a month only the day advances. -/
theorem firstOf_plus (year month : Nat) (low : 1 ≤ month) (high : month ≤ 12) {days : Nat}
    (inside : days < daysInMonth year month) :
    (firstOf year month low high).plus days =
      ⟨year, month, days + 1, low, high, Nat.le_add_left 1 days, inside⟩ := by
  induction days with
  | zero => rfl
  | succ days ih =>
      rw [plus_succ, ih (by omega), Date.next, dif_pos inside]

theorem firstOf_plus_month (year month : Nat) (low : 1 ≤ month) (high : month < 12) :
    (firstOf year month low (by omega)).plus (daysInMonth year month) =
      firstOf year (month + 1) (by omega) high := by
  have positive := daysInMonth_pos year month
  have last := firstOf_plus year month low (by omega)
    (show daysInMonth year month - 1 < daysInMonth year month by omega)
  have days : daysInMonth year month = daysInMonth year month - 1 + 1 := by omega
  rw [days, plus_succ, last, Date.next, dif_neg (by simp only; omega), dif_pos high]

/-- The days of the first months of a year. -/
def daysOfMonths (year : Nat) : Nat → Nat
  | 0 => 0
  | months + 1 => daysOfMonths year months + daysInMonth year (months + 1)

/-- The days of the first years of the calendar. -/
def daysOfYears : Nat → Nat
  | 0 => 0
  | years + 1 => daysOfYears years + daysInYear years

theorem daysOfMonths_pred (year : Nat) {month : Nat} (positive : 1 ≤ month) :
    daysOfMonths year month = daysOfMonths year (month - 1) + daysInMonth year month := by
  cases month with
  | zero => omega
  | succ months => rfl

theorem daysOfMonths_year (year : Nat) : daysOfMonths year 12 = daysInYear year := by
  unfold daysInYear
  by_cases leap : IsLeap year
  · simp [daysOfMonths, daysInMonth, leap]
  · simp [daysOfMonths, daysInMonth, leap]

theorem daysOfMonths_mono (year : Nat) {first second : Nat} (order : first ≤ second) :
    daysOfMonths year first ≤ daysOfMonths year second := by
  induction order with
  | refl => exact Nat.le_refl _
  | step _ ih => exact Nat.le_trans ih (Nat.le_add_right _ _)

/-- The month that a day of the year falls into. -/
theorem exists_month (year : Nat) {days months : Nat} (inside : days < daysOfMonths year months) :
    ∃ month < months,
      daysOfMonths year month ≤ days ∧ days < daysOfMonths year (month + 1) := by
  induction months with
  | zero => exact absurd inside (Nat.not_lt_zero days)
  | succ months ih =>
      by_cases earlier : days < daysOfMonths year months
      · obtain ⟨month, less, bounds⟩ := ih earlier
        exact ⟨month, by omega, bounds⟩
      · exact ⟨months, by omega, by omega, inside⟩

theorem newYear_plus_months (year : Nat) {months : Nat} (high : months < 12) :
    (newYear year).plus (daysOfMonths year months) =
      firstOf year (months + 1) (Nat.le_add_left 1 months) high := by
  induction months with
  | zero => rfl
  | succ months ih =>
      calc
        (newYear year).plus (daysOfMonths year (months + 1)) =
            ((newYear year).plus (daysOfMonths year months)).plus
              (daysInMonth year (months + 1)) := (plus_plus _ _ _).symm
        _ = firstOf year (months + 2) (Nat.le_add_left 1 _) high := by
          rw [ih (by omega), firstOf_plus_month year (months + 1) (by omega) high]

/-- The date in a year by the month that the day falls into. -/
theorem newYear_plus (year : Nat) {months days : Nat} (high : months < 12)
    (inside : days < daysInMonth year (months + 1)) :
    (newYear year).plus (daysOfMonths year months + days) =
      ⟨year, months + 1, days + 1, Nat.le_add_left 1 months, high, Nat.le_add_left 1 days,
        inside⟩ := by
  rw [← plus_plus, newYear_plus_months year high, firstOf_plus year (months + 1) _ _ inside]

theorem newYear_plus_year (year : Nat) :
    (newYear year).plus (daysInYear year) = newYear (year + 1) := by
  have last := @newYear_plus year 11 30 (by decide) (show 30 < 31 by decide)
  have days : daysInYear year = daysOfMonths year 11 + 30 + 1 := by
    rw [← daysOfMonths_year]
    rfl
  rw [days, plus_succ, last]
  rfl

theorem daysOfYears_add (years more : Nat) :
    daysOfYears (years + more) =
      daysOfYears years + ((List.range' years more).map daysInYear).sum := by
  induction more with
  | zero => rfl
  | succ more ih =>
      rw [← Nat.add_assoc, daysOfYears, ih, List.range'_concat, List.map_append, List.sum_append,
        Nat.one_mul, List.map_singleton, List.sum_singleton, Nat.add_assoc]

-- a year is a large numeral, which must not be unfolded year by year
attribute [irreducible] daysOfYears

def Date.dayNumber (date : Date) : Nat :=
  daysOfYears date.year + daysOfMonths date.year (date.month - 1) + (date.day - 1)

theorem dayNumber_next (date : Date) : date.next.dayNumber = date.dayNumber + 1 := by
  have monthPositive := date.month_pos
  have dayPositive := date.day_pos
  have monthAtMost := date.month_le
  have dayAtMost := date.day_le
  unfold Date.next
  split
  · simp only [Date.dayNumber]
    omega
  · rename_i last
    have full : date.day = daysInMonth date.year date.month := by omega
    have through : daysOfMonths date.year date.month =
        daysOfMonths date.year (date.month - 1) + daysInMonth date.year date.month :=
      daysOfMonths_pred date.year monthPositive
    split
    · simp only [Date.dayNumber, firstOf, Nat.add_sub_cancel]
      omega
    · have december : date.month = 12 := by omega
      have year := daysOfMonths_year date.year
      rw [december] at through full
      have first : daysOfMonths (date.year + 1) (1 - 1) = 0 := rfl
      simp only [Date.dayNumber, newYear, firstOf, daysOfYears, december, first]
      omega

theorem dayNumber_plus (date : Date) (days : Nat) :
    (date.plus days).dayNumber = date.dayNumber + days := by
  induction days with
  | zero => rfl
  | succ days ih => rw [plus_succ, dayNumber_next, ih, Nat.add_assoc]

structure CivilTime where
  date : Date
  hour : Nat
  minute : Nat
  second : Nat
  hour_lt : hour < 24
  minute_lt : minute < 60
  second_lt : second < 60
  deriving DecidableEq

def CivilTime.secondOfDay (time : CivilTime) : Nat :=
  time.hour * 3600 + time.minute * 60 + time.second

def Date.at (date : Date) (seconds : Nat) (inside : seconds < 86400) : CivilTime where
  date := date
  hour := seconds / 3600
  minute := seconds % 3600 / 60
  second := seconds % 60
  hour_lt := by omega
  minute_lt := by omega
  second_lt := by omega

@[simp] theorem secondOfDay_at (date : Date) (seconds : Nat) (inside : seconds < 86400) :
    (date.at seconds inside).secondOfDay = seconds := by
  simp only [CivilTime.secondOfDay, Date.at]
  omega

def CivilTime.plusSeconds (time : CivilTime) (seconds : Nat) : CivilTime :=
  (time.date.plus ((time.secondOfDay + seconds) / 86400)).at
    ((time.secondOfDay + seconds) % 86400) (Nat.mod_lt _ (by decide))

/-- The seconds of the calendar before a time. -/
def CivilTime.seconds (time : CivilTime) : Nat :=
  time.date.dayNumber * 86400 + time.secondOfDay

theorem seconds_plusSeconds (time : CivilTime) (seconds : Nat) :
    (time.plusSeconds seconds).seconds = time.seconds + seconds := by
  simp only [CivilTime.seconds, CivilTime.plusSeconds, secondOfDay_at]
  rw [show ((time.date.plus ((time.secondOfDay + seconds) / 86400)).at
    ((time.secondOfDay + seconds) % 86400) (Nat.mod_lt _ (by decide))).date =
      time.date.plus ((time.secondOfDay + seconds) / 86400) from rfl, dayNumber_plus]
  omega

end X5MaxDevice.Calendar
