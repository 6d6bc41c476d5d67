import X5MaxDevice.Base.Memory
import X5MaxDevice.Gps.GpsTime
import X5MaxDevice.Gps.Tokenizer

/-! The start and the end of the period that an EPO file covers, read from its first and its
last record. -/

namespace X5MaxDevice.Gps.EpoTimes

open X5MaxDevice.Gps.GpsTime
open X5MaxDevice.Gps.Tokenizer
open X5MaxDevice.Memory

def mtkEpoOneSvSize : Nat := 72

/-- A file whose size an `int` holds. -/
structure EpoFile where
  content : Bytes
  small : content.length < 2 ^ 31

/-- What the time functions write through their pointers. -/
structure EpoTime where
  u4GpsSecs : UInt32
  uSecond : Int
  deriving DecidableEq, Repr

/-- `GpsToUtcTime` on the weeks and the seconds of the week. -/
def epoTime (u4GpsSecs : UInt32) : EpoTime :=
  let pi2WeekNo := u4GpsSecs / 604800
  let pu4Tow := u4GpsSecs % 604800
  ⟨u4GpsSecs, gpsToUtcTime pi2WeekNo.toNat pu4Tow.toNat⟩

/-- The 24-bit hours at the front of a record, in seconds. -/
def recordSecs (szBuf : Bytes) : UInt32 :=
  (UInt32.ofNat (ofLittleEndian (szBuf.take 4)) &&& 0x00FFFFFF) * 3600

/-- The whole-file and the piece version of the start read the first record alike. -/
def dataStart (file : EpoFile) (out : EpoTime) : EpoTime × Int :=
  match read file.content 0 mtkEpoOneSvSize with
  | none => (out, -1)
  | some szBuf => (epoTime (recordSecs szBuf), 0)

/-- Both versions of the end read the record that ends with the file. -/
def dataEnd (file : EpoFile) (out : EpoTime) : EpoTime × Int :=
  let fileSize : Int := file.content.length
  if fileSize < mtkEpoOneSvSize then (out, -1)
  else
    match read file.content (fileSize - mtkEpoOneSvSize) mtkEpoOneSvSize with
    | none => (out, -1)
    | some szBuf => (epoTime (recordSecs szBuf + 21600), 0)

def mtkGpsSysEpoPeriodStart (file : EpoFile) (out : EpoTime) : EpoTime × Int := dataStart file out

def mtkGpsSysEpoPeriodEnd (file : EpoFile) (out : EpoTime) : EpoTime × Int := dataEnd file out

def mtkGpsEpoPieceDataStart (file : EpoFile) (out : EpoTime) : EpoTime × Int := dataStart file out

/-- The piece version succeeds without a file descriptor and leaves the times alone. -/
def mtkGpsEpoPieceDataEnd (fd : Int) (file : EpoFile) (out : EpoTime) : EpoTime × Int :=
  if fd ≠ -1 then dataEnd file out else (out, 0)

/-- A record of one satellite. -/
structure EpoRecord where
  raw : Bytes
  size : raw.length = mtkEpoOneSvSize

/-- The field at the front of a record. -/
def EpoRecord.hours (record : EpoRecord) : Nat := ofLittleEndian (record.raw.take 3)

def StartExact (record : EpoRecord) (result : EpoTime × Int) : Prop :=
  result.2 = 0 ∧ result.1.uSecond = gpsEpochSeconds + 3600 * record.hours

def EndExact (record : EpoRecord) (result : EpoTime × Int) : Prop :=
  result.2 = 0 ∧ result.1.uSecond = gpsEpochSeconds + 3600 * record.hours + 21600

/-- Every file that begins or ends with the record gets its times, in both versions. -/
def TimesExact (record : EpoRecord) : Prop :=
  (∀ file rest out, file.content = record.raw ++ rest →
      StartExact record (mtkGpsSysEpoPeriodStart file out) ∧
        StartExact record (mtkGpsEpoPieceDataStart file out)) ∧
    ∀ file before out fd, file.content = before ++ record.raw → fd ≠ -1 →
      EndExact record (mtkGpsSysEpoPeriodEnd file out) ∧
        EndExact record (mtkGpsEpoPieceDataEnd fd file out)

theorem epoTime_eq (u4GpsSecs : UInt32) :
    epoTime u4GpsSecs = ⟨u4GpsSecs, gpsEpochSeconds + u4GpsSecs.toNat⟩ := by
  have range := u4GpsSecs.toNat_lt
  have weeks : (u4GpsSecs / 604800).toNat = u4GpsSecs.toNat / 604800 := UInt32.toNat_div ..
  have tow : (u4GpsSecs % 604800).toNat = u4GpsSecs.toNat % 604800 := UInt32.toNat_mod ..
  have seconds := @gpsToUtcTime_eq (u4GpsSecs.toNat / 604800) (u4GpsSecs.toNat % 604800)
    (by omega) (by omega)
  simp only [epoTime, weeks, tow, seconds]
  rw [Nat.div_add_mod']

theorem recordSecs_toNat (record : EpoRecord) :
    (recordSecs record.raw).toNat = record.hours * 3600 % 2 ^ 32 := by
  have word := ofLittleEndian_take record.raw 4
  have hours : record.hours = ofLittleEndian record.raw % 256 ^ 3 := ofLittleEndian_take record.raw 3
  have mask (n : Nat) : n &&& 0x00FFFFFF = n % 2 ^ 24 := Nat.and_two_pow_sub_one_eq_mod n 24
  rw [recordSecs, UInt32.toNat_mul, UInt32.toNat_and, UInt32.toNat_ofNat', word, hours]
  rw [show (0x00FFFFFF : UInt32).toNat = 0x00FFFFFF from rfl, mask,
    show (3600 : UInt32).toNat = 3600 from rfl]
  have same : ofLittleEndian record.raw % 256 ^ 4 % 2 ^ 32 % 2 ^ 24 =
      ofLittleEndian record.raw % 256 ^ 3 := by omega
  rw [same]

theorem dataStart_record {file : EpoFile} (record : EpoRecord) (rest : Bytes) (out : EpoTime)
    (first : file.content = record.raw ++ rest) :
    dataStart file out = (epoTime (recordSecs record.raw), 0) := by
  have size := record.size
  have got : read file.content 0 mtkEpoOneSvSize = some record.raw := by
    have middle := read_middle [] record.raw rest
    rw [List.nil_append, ← first, size] at middle
    exact middle
  rw [dataStart, got]

theorem dataEnd_record {file : EpoFile} (record : EpoRecord) (before : Bytes) (out : EpoTime)
    (last : file.content = before ++ record.raw) :
    dataEnd file out = (epoTime (recordSecs record.raw + 21600), 0) := by
  have size := record.size
  have length : file.content.length = before.length + mtkEpoOneSvSize := by
    rw [last, List.length_append, size]
  have got : read file.content (file.content.length - mtkEpoOneSvSize : Int) mtkEpoOneSvSize =
      some record.raw := by
    have middle := read_middle before record.raw []
    rw [List.append_nil, ← last, size] at middle
    rw [length, Int.natCast_add, Int.add_sub_cancel]
    exact middle
  rw [dataEnd, if_neg (by omega), got]

/-- The times of a record are exact exactly if the end of its period fits 32 bits of seconds. -/
theorem times_exact_iff (record : EpoRecord) :
    TimesExact record ↔ record.hours * 3600 + 21600 < 2 ^ 32 := by
  have start := recordSecs_toNat record
  have stop : (recordSecs record.raw + 21600).toNat = (record.hours * 3600 + 21600) % 2 ^ 32 := by
    rw [UInt32.toNat_add, start, show (21600 : UInt32).toNat = 21600 from rfl, Nat.mod_add_mod]
  have short := record.size
  constructor
  · intro exact
    obtain ⟨-, seconds⟩ := (exact.2 ⟨record.raw, by rw [short]; decide⟩ [] ⟨0, 0⟩ 0 rfl (by decide)).1
    rw [mtkGpsSysEpoPeriodEnd, dataEnd_record record [] ⟨0, 0⟩ rfl, epoTime_eq, stop] at seconds
    by_contra high
    simp only at seconds
    omega
  · intro fits
    have low : record.hours * 3600 < 2 ^ 32 := Nat.lt_of_le_of_lt (Nat.le_add_right _ 21600) fits
    have startExact : StartExact record (epoTime (recordSecs record.raw), 0) := by
      refine ⟨rfl, ?_⟩
      rw [epoTime_eq, start, Nat.mod_eq_of_lt low]
      dsimp only
      omega
    have endExact : EndExact record (epoTime (recordSecs record.raw + 21600), 0) := by
      refine ⟨rfl, ?_⟩
      rw [epoTime_eq, stop, Nat.mod_eq_of_lt fits]
      dsimp only
      omega
    constructor
    · intro file rest out first
      rw [mtkGpsSysEpoPeriodStart, mtkGpsEpoPieceDataStart, dataStart_record record rest out first]
      exact ⟨startExact, startExact⟩
    · intro file before out fd last opened
      rw [mtkGpsSysEpoPeriodEnd, mtkGpsEpoPieceDataEnd, if_pos opened,
        dataEnd_record record before out last]
      exact ⟨endExact, endExact⟩

/-- The last hour of the field. -/
def lastHour : EpoRecord := ⟨[0xff, 0xff, 0xff] ++ List.replicate 69 0, by decide⟩

theorem last_hour_wraps : ¬ ∀ record, TimesExact record := by
  intro exact
  have seconds := ((exact lastHour).1 ⟨lastHour.raw, by decide⟩ [] ⟨0, 0⟩ rfl).1.2
  rw [mtkGpsSysEpoPeriodStart, dataStart_record lastHour [] ⟨0, 0⟩ rfl, epoTime_eq,
    recordSecs_toNat] at seconds
  revert seconds
  decide

end X5MaxDevice.Gps.EpoTimes
