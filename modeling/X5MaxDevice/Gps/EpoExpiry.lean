import Mathlib.Algebra.Group.Int.Defs
import X5MaxDevice.Gps.EpoConfig
import X5MaxDevice.Gps.EpoTimes

/-! When the EPO file on the device counts as expired. -/

namespace X5MaxDevice.Gps.EpoExpiry

open X5MaxDevice.Gps.EpoConfig
open X5MaxDevice.Gps.EpoTimes
open X5MaxDevice.Gps.GpsTime
open X5MaxDevice.Gps.Tokenizer

/-- The two places of the file, whether it can be opened and locked, and when it was written. -/
structure EpoStorage where
  epoFileHal : Option EpoFile
  epoFile : Option EpoFile
  opens : Bool
  locks : Bool
  stMtime : Int

/-- The file at the place that comes first. -/
def EpoStorage.file (storage : EpoStorage) : Option EpoFile := storage.epoFileHal.or storage.epoFile

/-- `uTime`: start, download and end. -/
structure UTime where
  start : Int
  download : Int
  stop : Int
  deriving DecidableEq, Repr

def mtkGpsEpoFileTimeHal (storage : EpoStorage) : UTime × Int :=
  match storage.file with
  | none => (⟨0, 0, 0⟩, -1)
  | some file =>
      if storage.opens = false then (⟨0, 0, 0⟩, -1)
      else if storage.locks = false then (⟨0, 0, 0⟩, -1)
      else
        let (first, startError) := mtkGpsSysEpoPeriodStart file ⟨0, 0⟩
        if startError ≠ 0 then (⟨0, 0, 0⟩, -1)
        else
          let (last, endError) := mtkGpsSysEpoPeriodEnd file ⟨0, 0⟩
          if endError ≠ 0 then (⟨first.uSecond, storage.stMtime, 0⟩, -1)
          else (⟨first.uSecond, storage.stMtime, last.uSecond⟩, 0)

def unsignedLong (n : Int) : Int := n % 2 ^ 64

/-- The seconds from the start of the file on for which it is valid. -/
def expiredSet (settings : Settings) (uTime : UTime) (wifiTragger : Bool) : Int :=
  let etime := int32 (int32 (int32 (settings .gpsEpoPeriod * 24) * 60) * 60)
  if wifiTragger then settings .wifiEpoPeriod * 24 * 60 * 60
  else if uTime.stop - uTime.start < etime then
    let downloadDay := int32 ((uTime.stop - uTime.start).tdiv (24 * 60 * 60))
    if downloadDay < 3 then 0
    else if downloadDay < 6 then 2 * 24 * 60 * 60
    else if 6 ≤ downloadDay ∧ downloadDay < 9 then 5 * 24 * 60 * 60
    else if 9 ≤ downloadDay ∧ downloadDay < 12 then 7 * 24 * 60 * 60
    else if 12 ≤ downloadDay ∧ downloadDay < 15 then 7 * 24 * 60 * 60
    else if 15 ≤ downloadDay ∧ downloadDay < 18 then 7 * 24 * 60 * 60
    else if 18 ≤ downloadDay then 7 * 24 * 60 * 60
    else 0
  else etime

/-- The verdict and `gps_epo_file_count`. In UTC the conversion of the current time to a
broken-down time and back changes nothing. -/
def mtkEpoIsExpired (settings : Settings) (storage : EpoStorage) (wifiTragger : Bool) (now : Int)
    (gpsEpoFileCount : Int) : Int × Int :=
  let timeUtc := unsignedLong now
  let uTime := (mtkGpsEpoFileTimeHal storage).1
  if unsignedLong (expiredSet settings uTime wifiTragger + uTime.start) ≤ timeUtc then (1, 0)
  else (0, gpsEpoFileCount)

/-- A file with times in order. -/
structure ReadableStorage where
  storage : EpoStorage
  readable : (mtkGpsEpoFileTimeHal storage).2 = 0
  ordered : (mtkGpsEpoFileTimeHal storage).1.start ≤ (mtkGpsEpoFileTimeHal storage).1.stop

def ReadableStorage.start (file : ReadableStorage) : Int := (mtkGpsEpoFileTimeHal file.storage).1.start
def ReadableStorage.stop (file : ReadableStorage) : Int := (mtkGpsEpoFileTimeHal file.storage).1.stop

/-- While no download is needed, the file still covers the current time. -/
def VerdictSafe (settings : Settings) (file : ReadableStorage) (wifiTragger : Bool) : Prop :=
  ∀ now gpsEpoFileCount, -2 ^ 63 ≤ now → now < 2 ^ 63 →
    (mtkEpoIsExpired settings file.storage wifiTragger now gpsEpoFileCount).1 = 0 → now < file.stop

/-- On the Wi-Fi trigger the file covers at least the period of that trigger. -/
def CoversPeriod (settings : Settings) (file : ReadableStorage) (wifiTragger : Bool) : Prop :=
  wifiTragger = true → settings .wifiEpoPeriod * 86400 ≤ file.stop - file.start

/-- The seconds since the GPS epoch that an `unsigned int` holds. -/
def InEpoch (time : Int) : Prop := gpsEpochSeconds ≤ time ∧ time < gpsEpochSeconds + 2 ^ 32

theorem epoTime_inEpoch (u4GpsSecs : UInt32) : InEpoch (epoTime u4GpsSecs).uSecond := by
  have range := u4GpsSecs.toNat_lt
  rw [epoTime_eq]
  constructor
  · simp only
    omega
  · simp only
    omega

theorem dataStart_inEpoch {file : EpoFile} {out : EpoTime} (read : (dataStart file out).2 = 0) :
    InEpoch (dataStart file out).1.uSecond := by
  unfold dataStart at read ⊢
  split
  · rename_i failed
    rw [failed] at read
    cases read
  · exact epoTime_inEpoch _

theorem dataEnd_inEpoch {file : EpoFile} {out : EpoTime} (read : (dataEnd file out).2 = 0) :
    InEpoch (dataEnd file out).1.uSecond := by
  simp only [dataEnd] at read ⊢
  by_cases short : (file.content.length : Int) < mtkEpoOneSvSize
  · rw [if_pos short] at read
    cases read
  · rw [if_neg short] at read ⊢
    split
    · rename_i failed
      rw [failed] at read
      cases read
    · exact epoTime_inEpoch _

/-- The times of a readable file are those of its first and its last record. -/
theorem readable_times {storage : EpoStorage} (readable : (mtkGpsEpoFileTimeHal storage).2 = 0) :
    ∃ file, (dataStart file ⟨0, 0⟩).2 = 0 ∧ (dataEnd file ⟨0, 0⟩).2 = 0 ∧
      (mtkGpsEpoFileTimeHal storage).1.start = (dataStart file ⟨0, 0⟩).1.uSecond ∧
      (mtkGpsEpoFileTimeHal storage).1.stop = (dataEnd file ⟨0, 0⟩).1.uSecond := by
  unfold mtkGpsEpoFileTimeHal mtkGpsSysEpoPeriodStart mtkGpsSysEpoPeriodEnd at *
  cases here : storage.file with
  | none =>
      rw [here] at readable
      cases readable
  | some file =>
      rw [here] at readable
      simp only at readable ⊢
      by_cases closed : storage.opens = false
      · rw [if_pos closed] at readable
        cases readable
      by_cases unlocked : storage.locks = false
      · rw [if_neg closed, if_pos unlocked] at readable
        cases readable
      by_cases startError : (dataStart file ⟨0, 0⟩).2 ≠ 0
      · rw [if_neg closed, if_neg unlocked, if_pos startError] at readable
        cases readable
      by_cases endError : (dataEnd file ⟨0, 0⟩).2 ≠ 0
      · rw [if_neg closed, if_neg unlocked, if_neg startError, if_pos endError] at readable
        cases readable
      rw [if_neg closed, if_neg unlocked, if_neg startError, if_neg endError]
      exact ⟨file, not_not.mp startError, not_not.mp endError, rfl, rfl⟩

theorem readable_inEpoch (file : ReadableStorage) : InEpoch file.start ∧ InEpoch file.stop := by
  obtain ⟨content, readStart, readEnd, start, stop⟩ := readable_times file.readable
  rw [ReadableStorage.start, ReadableStorage.stop, start, stop]
  exact ⟨dataStart_inEpoch readStart, dataEnd_inEpoch readEnd⟩

theorem periods_of_settled {settings : Settings} (settled : Settled settings) :
    (settings .gpsEpoPeriod = 30 ∨ settings .gpsEpoPeriod = 3 ∨ settings .gpsEpoPeriod = 15) ∧
      (settings .wifiEpoPeriod = 30 ∨ settings .wifiEpoPeriod = 3 ∨
        settings .wifiEpoPeriod = 15 ∨ settings .wifiEpoPeriod = 1) := by
  have gps := settled .gpsEpoPeriod
  have wifi := settled .wifiEpoPeriod
  simp only [Setting.Admits, Setting.fallback] at gps wifi
  omega

/-- The file is valid up to a moment that no wrap-around disturbs. -/
theorem mtkEpoIsExpired_eq_zero_iff {settings : Settings} {file : ReadableStorage}
    {wifiTragger : Bool} {now : Int} (gpsEpoFileCount : Int) (low : -2 ^ 63 ≤ now)
    (high : now < 2 ^ 63)
    (range : 0 ≤ expiredSet settings (mtkGpsEpoFileTimeHal file.storage).1 wifiTragger ∧
      expiredSet settings (mtkGpsEpoFileTimeHal file.storage).1 wifiTragger < 2 ^ 32) :
    (mtkEpoIsExpired settings file.storage wifiTragger now gpsEpoFileCount).1 = 0 ↔
      0 ≤ now ∧
        now < expiredSet settings (mtkGpsEpoFileTimeHal file.storage).1 wifiTragger + file.start := by
  have epoch := (readable_inEpoch file).1
  have start : file.start = (mtkGpsEpoFileTimeHal file.storage).1.start := rfl
  simp only [InEpoch, gpsEpochSeconds] at epoch
  simp only [mtkEpoIsExpired, unsignedLong, ← start]
  generalize expiredSet settings (mtkGpsEpoFileTimeHal file.storage).1 wifiTragger = valid at *
  split
  · simp only [one_ne_zero, false_iff]
    omega
  · simp only [true_iff]
    omega

/-- At start-up the file counts as valid no longer than it covers. -/
theorem expiredSet_startup {settings : Settings} (settled : Settled settings) {uTime : UTime}
    (ordered : uTime.start ≤ uTime.stop) (near : uTime.stop - uTime.start < 2 ^ 32) :
    0 ≤ expiredSet settings uTime false ∧
      expiredSet settings uTime false ≤ uTime.stop - uTime.start := by
  have period := (periods_of_settled settled).1
  have etime : int32 (int32 (int32 (settings .gpsEpoPeriod * 24) * 60) * 60) =
      settings .gpsEpoPeriod * 86400 := by
    rcases period with days | days | days <;> rw [days] <;> rfl
  have day : int32 ((uTime.stop - uTime.start).tdiv (24 * 60 * 60)) =
      (uTime.stop - uTime.start) / 86400 := by
    rw [Int.tdiv_eq_ediv_of_nonneg (by omega)]
    exact int32_of_range (by omega) (by omega)
  simp only [expiredSet, etime, day, Bool.false_eq_true, if_false]
  repeat' split
  all_goals omega

theorem expiredSet_wifi (settings : Settings) (uTime : UTime) :
    expiredSet settings uTime true = settings .wifiEpoPeriod * 86400 := by
  simp only [expiredSet, if_true]
  omega

/-- A verdict that needs no download is safe at start-up, and on the Wi-Fi trigger exactly if
the file covers the period of that trigger. -/
theorem verdictSafe_iff_coversPeriod {settings : Settings} (settled : Settled settings)
    (file : ReadableStorage) (wifiTragger : Bool) :
    VerdictSafe settings file wifiTragger ↔ CoversPeriod settings file wifiTragger := by
  obtain ⟨startEpoch, stopEpoch⟩ := readable_inEpoch file
  have ordered : file.start ≤ file.stop := file.ordered
  have wifi := (periods_of_settled settled).2
  simp only [InEpoch, gpsEpochSeconds] at startEpoch stopEpoch
  cases wifiTragger with
  | false =>
      refine iff_of_true ?_ (fun trigger => absurd trigger Bool.false_ne_true)
      intro now count low high valid
      have span := expiredSet_startup settled file.ordered
        (show file.stop - file.start < 2 ^ 32 by omega)
      have total : (mtkGpsEpoFileTimeHal file.storage).1.stop -
        (mtkGpsEpoFileTimeHal file.storage).1.start = file.stop - file.start := rfl
      rw [total] at span
      have before := ((mtkEpoIsExpired_eq_zero_iff count low high
        ⟨span.1, by omega⟩).mp valid).2
      omega
  | true =>
      have period := expiredSet_wifi settings (mtkGpsEpoFileTimeHal file.storage).1
      have valid {now : Int} (count : Int) (low : -2 ^ 63 ≤ now) (high : now < 2 ^ 63) :
          (mtkEpoIsExpired settings file.storage true now count).1 = 0 ↔
            0 ≤ now ∧ now < settings .wifiEpoPeriod * 86400 + file.start := by
        have range := @mtkEpoIsExpired_eq_zero_iff settings file true now count low high
          (by rw [period]; omega)
        rwa [period] at range
      constructor
      · -- the file counts as valid at its end if the period is longer than its coverage
        intro safe _
        by_contra short
        have late := safe file.stop 0 (by omega) (by omega)
          ((valid 0 (by omega) (by omega)).mpr ⟨by omega, by omega⟩)
        exact Int.lt_irrefl _ late
      · intro covers now count low high verdict
        have before := ((valid count low high).mp verdict).2
        have coverage := covers rfl
        omega

/-- A record of the first hours of the GPS time scale. -/
def firstRecord : EpoRecord := ⟨List.replicate 72 0, by decide⟩

def firstRecordStorage : EpoStorage := ⟨none, some ⟨firstRecord.raw, by decide⟩, true, true, 0⟩

theorem firstRecordStorage_times :
    mtkGpsEpoFileTimeHal firstRecordStorage =
      (⟨gpsEpochSeconds, 0, gpsEpochSeconds + 21600⟩, 0) := by
  have start := @dataStart_record ⟨firstRecord.raw, by decide⟩ firstRecord [] ⟨0, 0⟩ rfl
  have stop := @dataEnd_record ⟨firstRecord.raw, by decide⟩ firstRecord [] ⟨0, 0⟩ rfl
  rw [epoTime_eq, show (recordSecs firstRecord.raw).toNat = 0 by decide] at start
  rw [epoTime_eq, show (recordSecs firstRecord.raw + 21600).toNat = 21600 by decide] at stop
  have file : firstRecordStorage.file = some ⟨firstRecord.raw, by decide⟩ := rfl
  simp only [mtkGpsEpoFileTimeHal, file, mtkGpsSysEpoPeriodStart, mtkGpsSysEpoPeriodEnd, start, stop]
  rfl

/-- A file that covers six hours. -/
def sixHourFile : ReadableStorage where
  storage := firstRecordStorage
  readable := by rw [firstRecordStorage_times]
  ordered := by rw [firstRecordStorage_times]; decide

theorem six_hours_safe_at_startup :
    VerdictSafe initialSettings sixHourFile false ↔ CoversPeriod initialSettings sixHourFile false :=
  verdictSafe_iff_coversPeriod initialSettings_settled sixHourFile false

/-- A day later the six-hour file still counts as valid on the Wi-Fi trigger. -/
theorem six_hour_file_outlived :
    ¬ ∀ settings file wifiTragger, Settled settings → VerdictSafe settings file wifiTragger := by
  intro safe
  have verdict := (@mtkEpoIsExpired_eq_zero_iff initialSettings sixHourFile true 316000000 0
    (by decide) (by decide) (by rw [expiredSet_wifi]; decide)).mpr
  have start : sixHourFile.start = 315964800 := by
    rw [ReadableStorage.start, show sixHourFile.storage = firstRecordStorage from rfl,
      firstRecordStorage_times]
    rfl
  have stop : sixHourFile.stop = 315986400 := by
    rw [ReadableStorage.stop, show sixHourFile.storage = firstRecordStorage from rfl,
      firstRecordStorage_times]
    rfl
  rw [expiredSet_wifi, start] at verdict
  have covered := safe initialSettings sixHourFile true initialSettings_settled 316000000 0
    (by decide) (by decide) (verdict (by decide))
  rw [stop] at covered
  exact absurd covered (by decide)

end X5MaxDevice.Gps.EpoExpiry
