import X5MaxDevice.Base.Calendar
import X5MaxDevice.Base.Double

/-! The conversion of GPS weeks and times of week to civil time. -/

namespace X5MaxDevice.Gps.GpsTime

open X5MaxDevice.Calendar
open X5MaxDevice.Double

/-- `struct tm` without the fields that `mktime` computes. -/
structure Tm where
  tmYear : Int
  tmMon : Int
  tmMday : Int
  tmHour : Int
  tmMin : Int
  tmSec : Int
  tmIsdst : Int
  deriving DecidableEq, Repr

/-- Days of the year before each month that is not in a leap year. -/
def doyTable : List Nat := [0, 31, 59, 90, 120, 151, 181, 212, 243, 273, 304, 334]

/-- One turn of the loop that decides the year; `none` ends it. -/
def yearTurn (iYearsElapsed iDaysElapsed : Nat) : Option (Nat × Nat) :=
  if 365 ≤ iDaysElapsed then
    if iYearsElapsed % 100 = 20 then
      if iYearsElapsed % 400 = 20 then
        if 366 ≤ iDaysElapsed then some (iYearsElapsed + 1, iDaysElapsed - 366) else none
      else some (iYearsElapsed + 1, iDaysElapsed - 365)
    else if iYearsElapsed % 4 = 0 then
      if 366 ≤ iDaysElapsed then some (iYearsElapsed + 1, iDaysElapsed - 366) else none
    else some (iYearsElapsed + 1, iDaysElapsed - 365)
  else none

/-- The loop within a number of turns. -/
def yearLoop : Nat → Nat → Nat → Option (Nat × Nat)
  | 0, _, _ => none
  | fuel + 1, iYearsElapsed, iDaysElapsed =>
      match yearTurn iYearsElapsed iDaysElapsed with
      | some (years, days) => yearLoop fuel years days
      | none => some (iYearsElapsed, iDaysElapsed)

def fgLeapYear (iYearsElapsed : Nat) : Bool :=
  if iYearsElapsed % 100 = 20 then decide (iYearsElapsed % 400 = 20)
  else decide (iYearsElapsed % 4 = 0)

/-- `doy` once a leap year has moved the months from March on. -/
def doy (iYearsElapsed : Nat) : List Nat :=
  if fgLeapYear iYearsElapsed then doyTable.take 2 ++ (doyTable.drop 2).map (· + 1) else doyTable

/-- The month and the day. -/
def monthAndDay (iYearsElapsed iDaysElapsed : Nat) : Int × Int :=
  let i := (doy iYearsElapsed).findIdx (fun start => decide (iDaysElapsed < start))
  (i, if 0 < i then iDaysElapsed - (doy iYearsElapsed).getD (i - 1) 0 + 1 else 0)

/-- The broken-down time that `GpsToUtcTime` hands to `mktime`, if the years are found within
`fuel` turns. The days are counted in an `unsigned int`. -/
def gpsToUtcTm (fuel : Nat) (i2Wn : Int) (dfTow : ℚ) : Option Tm :=
  let iDaysElapsed := ((i2Wn * 7 + (toInt dfTow).tdiv 86400 + 5) % 2 ^ 32).toNat
  let dfSecElapsed := nearest (dfTow - ((toInt dfTow).tdiv 86400 * 86400 : Int))
  match yearLoop fuel 0 iDaysElapsed with
  | none => none
  | some (iYearsElapsed, iDaysElapsed) =>
      let (pi2Mo, pi2Day) := monthAndDay iYearsElapsed iDaysElapsed
      let pi2Hr := toInt (nearest (dfSecElapsed / 3600))
      let pi2Min := ((toInt dfSecElapsed).tmod 3600).tdiv 60
      let pdfSec := nearest (dfSecElapsed - ((toInt dfSecElapsed).tdiv 60 * 60 : Int))
      some
        { tmYear := 1980 + iYearsElapsed - 1900
          tmMon := pi2Mo - 1
          tmMday := pi2Day
          tmHour := pi2Hr
          tmMin := pi2Min
          tmSec := toInt pdfSec
          tmIsdst := -1 }

/-- The fields of a civil time in a `struct tm`. -/
def tmOf (time : CivilTime) : Tm where
  tmYear := (time.date.year : Int) - 1900
  tmMon := (time.date.month : Int) - 1
  tmMday := time.date.day
  tmHour := time.hour
  tmMin := time.minute
  tmSec := time.second
  tmIsdst := -1

/-- 6 January 1980. -/
def gpsEpoch : Date :=
  { newYear 1980 with day := 6, day_pos := by decide, day_le := by decide }

/-- The start of a GPS week. -/
def weekStart (weeks : Nat) : CivilTime := (gpsEpoch.plus (weeks * 7)).at 0 (by decide)

theorem isLeap_iff (years : Nat) :
    IsLeap (1980 + years) ↔
      if years % 100 = 20 then years % 400 = 20 else years % 4 = 0 := by
  unfold IsLeap
  split <;> omega

theorem fgLeapYear_iff (years : Nat) : fgLeapYear years = true ↔ IsLeap (1980 + years) := by
  rw [isLeap_iff, fgLeapYear]
  split
  · exact decide_eq_true_iff
  · exact decide_eq_true_iff

/-- The loop takes whole years off the days while there are any. -/
theorem yearTurn_eq (years days : Nat) :
    yearTurn years days =
      if daysInYear (1980 + years) ≤ days then
        some (years + 1, days - daysInYear (1980 + years))
      else none := by
  have leap := isLeap_iff years
  unfold yearTurn daysInYear
  by_cases century : years % 100 = 20
  · rw [if_pos century] at leap
    rw [if_pos century]
    by_cases fourth : years % 400 = 20
    · rw [if_pos fourth, if_pos (leap.mpr fourth)]
      split
      · rfl
      · rw [if_neg (by omega)]
    · rw [if_neg fourth, if_neg (fun yes => fourth (leap.mp yes))]
  · rw [if_neg century] at leap
    rw [if_neg century]
    by_cases fourth : years % 4 = 0
    · rw [if_pos fourth, if_pos (leap.mpr fourth)]
      split
      · rfl
      · rw [if_neg (by omega)]
    · rw [if_neg fourth, if_neg (fun yes => fourth (leap.mp yes))]

theorem daysInYear_pos (year : Nat) : 1 ≤ daysInYear year := by
  unfold daysInYear
  split <;> decide

/-- The loop ends in the year that the days lead to, with the days into that year. -/
theorem yearLoop_exits {fuel years days : Nat} (enough : days < fuel) :
    ∃ lastYears restDays, yearLoop fuel years days = some (lastYears, restDays) ∧
      restDays < daysInYear (1980 + lastYears) ∧
        (newYear (1980 + lastYears)).plus restDays = (newYear (1980 + years)).plus days := by
  induction fuel generalizing years days with
  | zero => omega
  | succ fuel ih =>
      have positive := daysInYear_pos (1980 + years)
      by_cases whole : daysInYear (1980 + years) ≤ days
      · obtain ⟨lastYears, restDays, exits, inside, same⟩ :=
          @ih (years + 1) (days - daysInYear (1980 + years)) (by omega)
        refine ⟨lastYears, restDays, ?_, inside, ?_⟩
        · rw [yearLoop, yearTurn_eq, if_pos whole]
          exact exits
        · calc
            (newYear (1980 + lastYears)).plus restDays =
                (newYear (1980 + years + 1)).plus (days - daysInYear (1980 + years)) := same
            _ = ((newYear (1980 + years)).plus (daysInYear (1980 + years))).plus
                (days - daysInYear (1980 + years)) := by rw [newYear_plus_year]
            _ = (newYear (1980 + years)).plus days := by
              rw [plus_plus, Nat.add_sub_cancel' whole]
      · refine ⟨years, days, ?_, by omega, rfl⟩
        rw [yearLoop, yearTurn_eq, if_neg whole]

theorem doy_eq (years : Nat) : doy years = (List.range 12).map (daysOfMonths (1980 + years)) := by
  have months : List.range 12 = [0, 1, 2, 3, 4, 5, 6, 7, 8, 9, 10, 11] := by decide
  have flag := fgLeapYear_iff years
  rw [months]
  by_cases leap : IsLeap (1980 + years)
  · simp [doy, doyTable, flag.mpr leap, daysOfMonths, daysInMonth, leap]
  · simp [doy, doyTable, flag, daysOfMonths, daysInMonth, leap]

theorem doy_getD (years : Nat) {months : Nat} (inside : months < 12) :
    (doy years).getD months 0 = daysOfMonths (1980 + years) months := by
  rw [doy_eq, List.getD_eq_getElem?_getD, List.getElem?_map, List.getElem?_range inside]
  rfl

/-- The search stops behind the month that the day falls into. -/
theorem doy_findIdx (years : Nat) {months days : Nat} (inside : months < 12)
    (low : daysOfMonths (1980 + years) months ≤ days)
    (high : days < daysOfMonths (1980 + years) (months + 1)) :
    (doy years).findIdx (fun start => decide (days < start)) = months + 1 := by
  have passed {month : Nat} (before : month ≤ months) :
      ¬ days < daysOfMonths (1980 + years) month := by
    have earlier := daysOfMonths_mono (1980 + years) before
    omega
  rw [doy_eq, List.findIdx_map]
  by_cases last : months = 11
  · have none : ∀ month ∈ List.range 12,
        (decide (days < daysOfMonths (1980 + years) month)) = false := by
      intro month member
      rw [List.mem_range] at member
      exact decide_eq_false (passed (by omega))
    calc
      (List.range 12).findIdx _ = (List.range 12).length := List.findIdx_eq_length.mpr none
      _ = months + 1 := by rw [List.length_range, last]
  · have position : months + 1 < (List.range 12).length := by
      rw [List.length_range]
      omega
    refine (List.findIdx_eq position).mpr ⟨?_, ?_⟩
    · rw [List.getElem_range]
      exact decide_eq_true high
    · intro month before
      rw [List.getElem_range]
      exact decide_eq_false (passed (by omega))

theorem monthAndDay_eq (years : Nat) {days : Nat} (inside : days < daysInYear (1980 + years)) :
    monthAndDay years days =
      ((((newYear (1980 + years)).plus days).month : Int),
        (((newYear (1980 + years)).plus days).day : Int)) ∧
      ((newYear (1980 + years)).plus days).year = 1980 + years := by
  rw [← daysOfMonths_year] at inside
  obtain ⟨months, less, low, high⟩ := exists_month (1980 + years) inside
  have width : days - daysOfMonths (1980 + years) months < daysInMonth (1980 + years) (months + 1) := by
    rw [daysOfMonths] at high
    omega
  have date := newYear_plus (1980 + years) less width
  rw [Nat.add_sub_cancel' low] at date
  rw [date, monthAndDay, doy_findIdx years less low high]
  dsimp only
  rw [if_pos (Nat.succ_pos months), Nat.add_sub_cancel, doy_getD years less]
  refine ⟨?_, rfl⟩
  push_cast [low]
  rfl

theorem weekDays (days : Nat) : gpsEpoch.plus days = (newYear 1980).plus (days + 5) := by
  rw [Nat.add_comm, ← plus_plus]
  rfl

/-- What a whole number of periods leaves of an integer double. -/
theorem nearest_rest (n period : Nat) (small : n < 2 ^ 52) :
    nearest ((n : ℚ) - ((n : Int).tdiv (period : Int) * (period : Int) : Int)) =
      (n % period : Nat) := by
  have whole : (n : Int).tdiv (period : Int) * (period : Int) = ((n / period * period : Nat) : Int) := by
    rw [Int.tdiv_eq_ediv_of_nonneg (Int.natCast_nonneg n)]
    push_cast
    rfl
  have rest : (n : ℚ) - ((n / period * period : Nat) : ℚ) = (n % period : Nat) := by
    rw [sub_eq_iff_eq_add]
    exact_mod_cast (Nat.mod_add_div' n period).symm
  rw [whole, Int.cast_natCast, rest]
  exact nearest_natCast (Nat.lt_of_le_of_lt (Nat.mod_le n period) small)

theorem weekStart_plusSeconds (weeks tow : Nat) :
    (weekStart weeks).plusSeconds tow =
      (gpsEpoch.plus (weeks * 7 + tow / 86400)).at (tow % 86400) (Nat.mod_lt _ (by decide)) := by
  have start : (weekStart weeks).secondOfDay = 0 := secondOfDay_at _ _ _
  have date : (weekStart weeks).date = gpsEpoch.plus (weeks * 7) := rfl
  simp only [CivilTime.plusSeconds, start, date, Nat.zero_add, plus_plus]

theorem gpsToUtcTm_eq {fuel weeks tow : Nat} (inWeek : tow < 604800)
    (counted : weeks * 7 + tow / 86400 + 5 < 2 ^ 32)
    (enough : weeks * 7 + tow / 86400 + 5 < fuel) :
    gpsToUtcTm fuel weeks tow = some (tmOf ((weekStart weeks).plusSeconds tow)) := by
  have days : (((weeks : Int) * 7 + (tow : Int).tdiv 86400 + 5) % 2 ^ 32).toNat =
      weeks * 7 + tow / 86400 + 5 := by
    rw [Int.tdiv_eq_ediv_of_nonneg (Int.natCast_nonneg tow)]
    omega
  have seconds := nearest_rest tow 86400 (by omega)
  have rest := nearest_rest (tow % 86400) 60 (by omega)
  have hours := @toInt_nearest_div (tow % 86400) 3600 (by decide) (by omega) (by decide)
  have minutes : (((tow % 86400 : Nat) : Int).tmod 3600).tdiv 60 =
      (tow % 86400 % 3600 / 60 : Nat) := by
    rw [Int.tmod_eq_emod_of_nonneg (by omega), Int.tdiv_eq_ediv_of_nonneg (by omega)]
    omega
  rw [Nat.cast_ofNat] at seconds rest hours
  obtain ⟨years, restDays, exits, inside, same⟩ :=
    @yearLoop_exits fuel 0 (weeks * 7 + tow / 86400 + 5) enough
  obtain ⟨monthAndDay, year⟩ := monthAndDay_eq years inside
  rw [weekStart_plusSeconds, weekDays, ← same]
  simp only [gpsToUtcTm, days, seconds, exits, monthAndDay, toInt_natCast, hours, minutes, rest,
    tmOf, Date.at, year]
  push_cast
  rfl

/-- The broken-down time is the civil time that lies `tow` seconds after the start of the week,
and the loop over the years ends. -/
theorem gps_time_is_civil_time (weeks tow : Nat) (inWeek : tow < 604800)
    (counted : weeks * 7 + tow / 86400 + 5 < 2 ^ 32) :
    ∃ turns, ∀ fuel ≥ turns,
      gpsToUtcTm fuel weeks tow = some (tmOf ((weekStart weeks).plusSeconds tow)) :=
  ⟨weeks * 7 + tow / 86400 + 6, fun _ enough => gpsToUtcTm_eq inWeek counted enough⟩

theorem last_second_of_2000_is_civil_time :
    ∃ turns, ∀ fuel ≥ turns,
      gpsToUtcTm fuel (1095 : Nat) (86399 : Nat) =
        some (tmOf ((weekStart 1095).plusSeconds 86399)) :=
  gps_time_is_civil_time 1095 86399 (by decide) (by decide)

/-- 31 December of a leap year stays in that year. -/
example : yearLoop 22 0 7670 = some (20, 365) := by decide

def unixEpoch : Date := newYear 1970

/-- `mktime` in UTC, for the fields of a civil time. -/
def mktime (tm : Tm) : Int :=
  let year := (tm.tmYear + 1900).toNat
  let days : Int := (daysOfYears year + daysOfMonths year tm.tmMon.toNat : Nat) + (tm.tmMday - 1)
  (days - unixEpoch.dayNumber) * 86400 + tm.tmHour * 3600 + tm.tmMin * 60 + tm.tmSec

/-- `*uSecond` after `GpsToUtcTime`. The days are counted in 32 bits, so that the loop over the
years needs no more turns. -/
def gpsToUtcTime (i2Wn : Int) (dfTow : ℚ) : Int := (gpsToUtcTm (2 ^ 32) i2Wn dfTow).elim 0 mktime

def gpsEpochSeconds : Int := 315964800

theorem mktime_tmOf (time : CivilTime) :
    mktime (tmOf time) = time.seconds - unixEpoch.dayNumber * 86400 := by
  have year : ((time.date.year : Int) - 1900 + 1900).toNat = time.date.year := by omega
  have month : ((time.date.month : Int) - 1).toNat = time.date.month - 1 := by omega
  have day := time.date.day_pos
  simp only [mktime, tmOf, year, month, CivilTime.seconds, CivilTime.secondOfDay, Date.dayNumber]
  omega

theorem gpsEpoch_dayNumber : gpsEpoch.dayNumber = unixEpoch.dayNumber + 3657 := by
  have decade : daysOfYears 1980 = daysOfYears 1970 + _ := daysOfYears_add 1970 10
  rw [show ((List.range' 1970 10).map daysInYear).sum = 3652 by decide] at decade
  simp only [Date.dayNumber, gpsEpoch, unixEpoch, newYear, firstOf, Nat.sub_self, daysOfMonths]
  omega

theorem weekStart_seconds (weeks : Nat) :
    (weekStart weeks).seconds = (gpsEpoch.dayNumber + weeks * 7) * 86400 := by
  have start : (weekStart weeks).secondOfDay = 0 := secondOfDay_at _ _ _
  rw [CivilTime.seconds, start, ← dayNumber_plus, Nat.add_zero]
  rfl

/-- Week and time of week are as many seconds after the GPS epoch. -/
theorem gpsToUtcTime_eq {weeks tow : Nat} (inWeek : tow < 604800)
    (counted : weeks * 7 + tow / 86400 + 5 < 2 ^ 32) :
    gpsToUtcTime weeks tow = gpsEpochSeconds + (weeks * 604800 + tow : Nat) := by
  have epoch := gpsEpoch_dayNumber
  rw [gpsToUtcTime, gpsToUtcTm_eq inWeek counted counted, Option.elim_some, mktime_tmOf,
    seconds_plusSeconds, weekStart_seconds, gpsEpochSeconds]
  generalize gpsEpoch.dayNumber = first at epoch ⊢
  generalize unixEpoch.dayNumber = second at epoch ⊢
  omega

end X5MaxDevice.Gps.GpsTime
