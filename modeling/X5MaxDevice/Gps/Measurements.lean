import X5MaxDevice.Gps.MnldMessages

/-! The measurements of a `HAL_CMD_MEASUREMENT` message on their way to the framework. -/

namespace X5MaxDevice.Gps.Measurements

open X5MaxDevice.Gps.Codec
open X5MaxDevice.Gps.MnldMessages
open X5MaxDevice.Gps.Tokenizer
open X5MaxDevice.Memory

/-- Floating-point numbers are passed on bit by bit. -/
abbrev Double := UInt64
abbrev Single := UInt32

/-- `MTK_GPS_MEASUREMENT`. -/
structure MtkGpsMeasurement where
  size : UInt32
  flag : UInt32
  prn : Int8
  timeOffsetInNs : Double
  state : UInt16
  reGpsTowInNs : Int64
  reGpsTowUnInNs : Int64
  cn0InDbHz : Double
  prRateInMeterPreSec : Double
  prRateUnInMeterPreSec : Double
  acDRState10 : UInt16
  acDRInMeters : Double
  acDRUnInMeters : Double
  prInMeters : Double
  prUnInMeters : Double
  cpInChips : Double
  cpUnInChips : Double
  cfInhZ : Single
  carrierCycle : Int64
  carrierPhase : Double
  carrierPhaseUn : Double
  lossOfLock : UInt8
  bitNumber : Int32
  timeFromLastBitInMs : Int16
  dopperShiftInHz : Double
  dopperShiftUnInHz : Double
  multipathIndicater : UInt8
  snrInDb : Double
  elInDeg : Double
  elUnInDeg : Double
  azInDeg : Double
  azUnInDeg : Double
  usedInFix : UInt8
  deriving DecidableEq

/-- `MTK_GPS_CLOCK`. -/
structure MtkGpsClock where
  size : UInt32
  flag : UInt16
  leapsecond : Int16
  type : UInt8
  timeInNs : Int64
  timeUncertaintyInNs : Double
  fullBiasInNs : Int64
  biasInNs : Double
  biasUncertaintyInNs : Double
  driftInNsPerSec : Double
  driftUncertaintyInNsPerSec : Double
  deriving DecidableEq

structure GpsMeasurement where
  size : Nat
  flags : UInt32
  prn : Int8
  timeOffsetNs : Double
  state : UInt16
  receivedGpsTowNs : Int64
  receivedGpsTowUncertaintyNs : Int64
  cN0Dbhz : Double
  pseudorangeRateMps : Double
  pseudorangeRateUncertaintyMps : Double
  accumulatedDeltaRangeState : UInt16
  accumulatedDeltaRangeM : Double
  accumulatedDeltaRangeUncertaintyM : Double
  pseudorangeM : Double
  pseudorangeUncertaintyM : Double
  codePhaseChips : Double
  codePhaseUncertaintyChips : Double
  carrierFrequencyHz : Single
  carrierCycles : Int64
  carrierPhase : Double
  carrierPhaseUncertainty : Double
  lossOfLock : UInt8
  bitNumber : Int32
  timeFromLastBitMs : Int16
  dopplerShiftHz : Double
  dopplerShiftUncertaintyHz : Double
  multipathIndicator : UInt8
  snrDb : Double
  elevationDeg : Double
  elevationUncertaintyDeg : Double
  azimuthDeg : Double
  azimuthUncertaintyDeg : Double
  usedInFix : Bool
  deriving DecidableEq

structure GpsClock where
  size : Nat
  flags : UInt16
  leapSecond : Int16
  type : UInt8
  timeNs : Int64
  timeUncertaintyNs : Double
  fullBiasNs : Int64
  biasNs : Double
  biasUncertaintyNs : Double
  driftNsps : Double
  driftUncertaintyNsps : Double
  deriving DecidableEq

structure GpsData where
  size : Nat
  measurementCount : Nat
  measurements : Nat → GpsMeasurement
  clock : GpsClock

/-- The sizes of the structures of `gps.h`. -/
structure Sizes where
  gpsData : Nat
  gpsMeasurement : Nat
  gpsClock : Nat

def field (raw : Bytes) (offset width : Nat) : Nat :=
  ofLittleEndian ((raw.drop offset).take width)

def byte (raw : Bytes) (offset : Nat) : UInt8 := UInt8.ofNat (field raw offset 1)
def half (raw : Bytes) (offset : Nat) : UInt16 := UInt16.ofNat (field raw offset 2)
def word (raw : Bytes) (offset : Nat) : UInt32 := UInt32.ofNat (field raw offset 4)
def long (raw : Bytes) (offset : Nat) : UInt64 := UInt64.ofNat (field raw offset 8)

/-- The fields are aligned to at most four bytes. -/
def MtkGpsMeasurement.ofBytes (raw : Bytes) : MtkGpsMeasurement where
  size := word raw 0
  flag := word raw 4
  prn := (byte raw 8).toInt8
  timeOffsetInNs := long raw 12
  state := half raw 20
  reGpsTowInNs := (long raw 24).toInt64
  reGpsTowUnInNs := (long raw 32).toInt64
  cn0InDbHz := long raw 40
  prRateInMeterPreSec := long raw 48
  prRateUnInMeterPreSec := long raw 56
  acDRState10 := half raw 64
  acDRInMeters := long raw 68
  acDRUnInMeters := long raw 76
  prInMeters := long raw 84
  prUnInMeters := long raw 92
  cpInChips := long raw 100
  cpUnInChips := long raw 108
  cfInhZ := word raw 116
  carrierCycle := (long raw 120).toInt64
  carrierPhase := long raw 128
  carrierPhaseUn := long raw 136
  lossOfLock := byte raw 144
  bitNumber := (word raw 148).toInt32
  timeFromLastBitInMs := (half raw 152).toInt16
  dopperShiftInHz := long raw 156
  dopperShiftUnInHz := long raw 164
  multipathIndicater := byte raw 172
  snrInDb := long raw 176
  elInDeg := long raw 184
  elUnInDeg := long raw 192
  azInDeg := long raw 200
  azUnInDeg := long raw 208
  usedInFix := byte raw 216

def MtkGpsClock.ofBytes (raw : Bytes) : MtkGpsClock where
  size := word raw 0
  flag := half raw 4
  leapsecond := (half raw 6).toInt16
  type := byte raw 8
  timeInNs := (long raw 12).toInt64
  timeUncertaintyInNs := long raw 20
  fullBiasInNs := (long raw 28).toInt64
  biasInNs := long raw 36
  biasUncertaintyInNs := long raw 44
  driftInNsPerSec := long raw 52
  driftUncertaintyInNsPerSec := long raw 60

/-- `mtk_gps_measurement[i]`. -/
def slot (received : Received) (i : Nat) : MtkGpsMeasurement :=
  .ofBytes ((received.buff.drop (4 + i * sizeofMeasurement)).take sizeofMeasurement)

def mtkGpsClock (received : Received) : MtkGpsClock :=
  .ofBytes ((received.buff.drop (4 + 32 * sizeofMeasurement)).take sizeofClock)

def gpsClock (sizes : Sizes) (clock : MtkGpsClock) : GpsClock where
  size := sizes.gpsClock
  biasNs := clock.biasInNs
  biasUncertaintyNs := clock.biasUncertaintyInNs
  driftNsps := clock.driftInNsPerSec
  flags := clock.flag
  leapSecond := clock.leapsecond
  timeNs := clock.timeInNs
  timeUncertaintyNs := clock.timeUncertaintyInNs
  type := clock.type
  fullBiasNs := clock.fullBiasInNs
  driftUncertaintyNsps := clock.driftUncertaintyInNsPerSec

/-- The assignments to one entry. `used_in_fix` is a `bool`. -/
def gpsMeasurement (sizes : Sizes) (slot : MtkGpsMeasurement) : GpsMeasurement where
  size := sizes.gpsMeasurement
  accumulatedDeltaRangeM := slot.acDRInMeters
  accumulatedDeltaRangeState := slot.acDRState10
  accumulatedDeltaRangeUncertaintyM := slot.acDRUnInMeters
  azimuthDeg := slot.azInDeg
  azimuthUncertaintyDeg := slot.azUnInDeg
  bitNumber := slot.bitNumber
  carrierCycles := slot.carrierCycle
  carrierPhase := slot.carrierPhase
  carrierPhaseUncertainty := slot.carrierPhaseUn
  carrierFrequencyHz := slot.cfInhZ
  cN0Dbhz := slot.cn0InDbHz
  codePhaseChips := slot.cpInChips
  codePhaseUncertaintyChips := slot.cpUnInChips
  dopplerShiftHz := slot.dopperShiftInHz
  dopplerShiftUncertaintyHz := slot.dopperShiftUnInHz
  elevationDeg := slot.elInDeg
  elevationUncertaintyDeg := slot.elUnInDeg
  flags := slot.flag
  lossOfLock := slot.lossOfLock
  multipathIndicator := slot.multipathIndicater
  pseudorangeM := slot.prInMeters
  prn := slot.prn
  pseudorangeRateMps := slot.prRateInMeterPreSec
  pseudorangeRateUncertaintyMps := slot.prRateUnInMeterPreSec
  pseudorangeUncertaintyM := slot.prUnInMeters
  receivedGpsTowNs := slot.reGpsTowInNs
  receivedGpsTowUncertaintyNs := slot.reGpsTowUnInNs
  snrDb := slot.snrInDb
  state := slot.state
  timeFromLastBitMs := slot.timeFromLastBitInMs
  timeOffsetNs := slot.timeOffsetInNs
  usedInFix := slot.usedInFix != 0

/-- `GpsData` after `memset`. -/
def blankData (sizes : Sizes) : GpsData where
  size := sizes.gpsData
  measurementCount := 0
  measurements := fun _ => { gpsMeasurement sizes (.ofBytes []) with size := 0 }
  clock := { gpsClock sizes (.ofBytes []) with size := 0 }

/-- One turn of the loop over the slots. -/
def fillMeasurement (sizes : Sizes) (received : Received) (data : GpsData) (i : Nat) : GpsData :=
  let entry := gpsMeasurement sizes (slot received i)
  { data with
    measurements := Function.update data.measurements i entry
    measurementCount :=
      if entry.prn ≠ 0 then data.measurementCount + 1 else data.measurementCount }

/-- The bound of the loop over the slots is 1. -/
def gpsData (sizes : Sizes) (received : Received) : GpsData :=
  let data := (List.range 1).foldl (fillMeasurement sizes received) (blankData sizes)
  { data with clock := gpsClock sizes (mtkGpsClock received) }

/-- What `measurement_callback` is called with, if it is called. -/
def halMeasurement (sizes : Sizes) (env : Environment) (received : Received) : Option GpsData :=
  if env.gpsmeasurementInitFlag = 1 then
    if 0 < (gpsData sizes received).measurementCount then some (gpsData sizes received) else none
  else none

def occupied (received : Received) : List MtkGpsMeasurement :=
  ((List.range 32).map (slot received)).filter (fun slot => decide (slot.prn ≠ 0))

/-- The entries that the count of the message covers. -/
def GpsData.counted (data : GpsData) : List GpsMeasurement :=
  (List.range data.measurementCount).map data.measurements

/-- Every field of an entry equals the one of the slot. -/
structure SameFields (slot : MtkGpsMeasurement) (entry : GpsMeasurement) : Prop where
  flags : entry.flags = slot.flag
  prn : entry.prn = slot.prn
  timeOffsetNs : entry.timeOffsetNs = slot.timeOffsetInNs
  state : entry.state = slot.state
  receivedGpsTowNs : entry.receivedGpsTowNs = slot.reGpsTowInNs
  receivedGpsTowUncertaintyNs : entry.receivedGpsTowUncertaintyNs = slot.reGpsTowUnInNs
  cN0Dbhz : entry.cN0Dbhz = slot.cn0InDbHz
  pseudorangeRateMps : entry.pseudorangeRateMps = slot.prRateInMeterPreSec
  pseudorangeRateUncertaintyMps :
    entry.pseudorangeRateUncertaintyMps = slot.prRateUnInMeterPreSec
  accumulatedDeltaRangeState : entry.accumulatedDeltaRangeState = slot.acDRState10
  accumulatedDeltaRangeM : entry.accumulatedDeltaRangeM = slot.acDRInMeters
  accumulatedDeltaRangeUncertaintyM :
    entry.accumulatedDeltaRangeUncertaintyM = slot.acDRUnInMeters
  pseudorangeM : entry.pseudorangeM = slot.prInMeters
  pseudorangeUncertaintyM : entry.pseudorangeUncertaintyM = slot.prUnInMeters
  codePhaseChips : entry.codePhaseChips = slot.cpInChips
  codePhaseUncertaintyChips : entry.codePhaseUncertaintyChips = slot.cpUnInChips
  carrierFrequencyHz : entry.carrierFrequencyHz = slot.cfInhZ
  carrierCycles : entry.carrierCycles = slot.carrierCycle
  carrierPhase : entry.carrierPhase = slot.carrierPhase
  carrierPhaseUncertainty : entry.carrierPhaseUncertainty = slot.carrierPhaseUn
  lossOfLock : entry.lossOfLock = slot.lossOfLock
  bitNumber : entry.bitNumber = slot.bitNumber
  timeFromLastBitMs : entry.timeFromLastBitMs = slot.timeFromLastBitInMs
  dopplerShiftHz : entry.dopplerShiftHz = slot.dopperShiftInHz
  dopplerShiftUncertaintyHz : entry.dopplerShiftUncertaintyHz = slot.dopperShiftUnInHz
  multipathIndicator : entry.multipathIndicator = slot.multipathIndicater
  snrDb : entry.snrDb = slot.snrInDb
  elevationDeg : entry.elevationDeg = slot.elInDeg
  elevationUncertaintyDeg : entry.elevationUncertaintyDeg = slot.elUnInDeg
  azimuthDeg : entry.azimuthDeg = slot.azInDeg
  azimuthUncertaintyDeg : entry.azimuthUncertaintyDeg = slot.azUnInDeg
  usedInFix : entry.usedInFix = true ↔ slot.usedInFix ≠ 0

/-- The callback is called with as many entries as slots are occupied, and these are theirs. -/
def Delivered (sizes : Sizes) (env : Environment) (received : Received) : Prop :=
  ∃ data, halMeasurement sizes env received = some data ∧
    data.measurementCount = (occupied received).length ∧
      List.Forall₂ SameFields (occupied received) data.counted

def OnlyFirstOccupied (received : Received) : Prop :=
  ∀ i < 32, (slot received i).prn ≠ 0 ↔ i = 0

theorem gpsMeasurement_sameFields (sizes : Sizes) (slot : MtkGpsMeasurement) :
    SameFields slot (gpsMeasurement sizes slot) := by
  constructor
  case usedInFix => exact bne_iff_ne
  all_goals rfl

/-- One turn counts the slot if it names a satellite, and its entry is the converted slot. -/
theorem fillMeasurement_spec (sizes : Sizes) (received : Received) (data : GpsData) (i : Nat) :
    (fillMeasurement sizes received data i).measurementCount =
        data.measurementCount + (if (slot received i).prn ≠ 0 then 1 else 0) ∧
      (fillMeasurement sizes received data i).measurements i =
        gpsMeasurement sizes (slot received i) := by
  constructor
  · by_cases named : (slot received i).prn ≠ 0
    · rw [if_pos named]
      exact if_pos named
    · rw [if_neg named]
      exact if_neg named
  · exact Function.update_self ..

theorem gpsData_spec (sizes : Sizes) (received : Received) :
    (gpsData sizes received).measurementCount =
        (if (slot received 0).prn ≠ 0 then 1 else 0) ∧
      (gpsData sizes received).measurements 0 = gpsMeasurement sizes (slot received 0) := by
  have turn := fillMeasurement_spec sizes received (blankData sizes) 0
  rw [show (blankData sizes).measurementCount = 0 from rfl, Nat.zero_add] at turn
  exact turn

/-- The callback is called exactly if the first slot names a satellite. -/
theorem halMeasurement_some_iff (sizes : Sizes) {env : Environment}
    (enabled : env.gpsmeasurementInitFlag = 1) (received : Received) (data : GpsData) :
    halMeasurement sizes env received = some data ↔
      (slot received 0).prn ≠ 0 ∧ gpsData sizes received = data := by
  have count := (gpsData_spec sizes received).1
  rw [halMeasurement, if_pos enabled]
  by_cases first : (slot received 0).prn ≠ 0
  · rw [if_pos first] at count
    rw [if_pos (by omega)]
    simp [first]
  · rw [if_neg first] at count
    rw [if_neg (by omega)]
    simp only [reduceCtorEq, false_iff]
    exact fun called => first called.1

theorem occupied_cons (received : Received) :
    occupied received =
      (if (slot received 0).prn ≠ 0 then [slot received 0] else []) ++
        ((List.range' 1 31).map (slot received)).filter (fun slot => decide (slot.prn ≠ 0)) := by
  have slots : List.range 32 = 0 :: List.range' 1 31 := by decide
  rw [occupied, slots, List.map_cons, List.filter_cons]
  by_cases first : (slot received 0).prn ≠ 0
  · rw [if_pos (decide_eq_true first), if_pos first, List.singleton_append]
  · rw [if_neg (fun yes => first (of_decide_eq_true yes)), if_neg first, List.nil_append]

theorem onlyFirstOccupied_iff (received : Received) :
    OnlyFirstOccupied received ↔
      (slot received 0).prn ≠ 0 ∧ occupied received = [slot received 0] := by
  have rest : ((List.range' 1 31).map (slot received)).filter
      (fun slot => decide (slot.prn ≠ 0)) = [] ↔ ∀ i, 1 ≤ i → i < 32 → (slot received i).prn = 0 := by
    simp only [List.filter_eq_nil_iff, List.mem_map, List.mem_range'_1, decide_eq_true_eq, ne_eq,
      Decidable.not_not]
    constructor
    · intro none i low high
      exact none _ ⟨i, ⟨low, high⟩, rfl⟩
    · rintro none _ ⟨i, ⟨low, high⟩, rfl⟩
      exact none i low high
  constructor
  · intro only
    have first : (slot received 0).prn ≠ 0 := (only 0 (by omega)).mpr rfl
    have others := rest.mpr (fun i low high => by
      by_contra named
      have zero := (only i high).mp named
      omega)
    exact ⟨first, by rw [occupied_cons, if_pos first, others, List.append_nil]⟩
  · rintro ⟨first, alone⟩ i high
    rw [occupied_cons, if_pos first, List.append_right_eq_self] at alone
    constructor
    · intro named
      by_contra later
      exact named (rest.mp alone i (by omega) high)
    · rintro rfl
      exact first

theorem byte_of_range (raw : Bytes) {offset : Nat} (inside : offset < raw.length) :
    byte raw offset = raw.getD offset 0 := by
  have one : (raw.drop offset).take 1 = [raw[offset]] := by
    rw [List.drop_eq_getElem_cons inside]
    rfl
  rw [byte, field, one, List.getD_eq_getElem?_getD, List.getElem?_eq_getElem inside]
  exact UInt8.ofNat_toNat

theorem first_prn (received : Received) :
    (slot received 0).prn ≠ 0 ↔
      ((received.buff.drop 4).take (32 * sizeofMeasurement)).getD 8 0 ≠ 0 := by
  have long := received.size
  have inside : 8 < ((received.buff.drop 4).take sizeofMeasurement).length := by
    rw [List.length_take, List.length_drop, long]
    decide
  have same : (slot received 0).prn =
      (((received.buff.drop 4).take (32 * sizeofMeasurement)).getD 8 0).toInt8 := by
    calc
      (slot received 0).prn = (byte ((received.buff.drop 4).take sizeofMeasurement) 8).toInt8 := rfl
      _ = (((received.buff.drop 4).take sizeofMeasurement).getD 8 0).toInt8 := by
        rw [byte_of_range _ inside]
      _ = (((received.buff.drop 4).take (32 * sizeofMeasurement)).getD 8 0).toInt8 := by
        rw [List.getD_eq_getElem?_getD, List.getD_eq_getElem?_getD, List.getElem?_take_of_lt (by decide),
          List.getElem?_take_of_lt (by decide)]
  rw [same, ne_eq, ne_eq, not_iff_not]
  constructor
  · intro zero
    exact congrArg Int8.toUInt8 zero
  · intro zero
    rw [zero]
    rfl

/-- The handler passes on the first slot and the clock when the callback is called. -/
theorem handler_measurement (sizes : Sizes) (env : Environment) (locals : Locals)
    (received : Received) (measures : intAt received.buff 0 = halCmdMeasurement) :
    mnldToGpsHandler env locals received =
      some ((halMeasurement sizes env received).toList.map (fun _ =>
        .measurement ((received.buff.drop 4).take sizeofMeasurement)
          ((received.buff.drop (4 + 32 * sizeofMeasurement)).take sizeofClock))) := by
  have branch : mnldToGpsHandler env locals received = measurement env ⟨received.buff, 4⟩ := by
    rw [handler_dispatch, measures]
    rfl
  have first := first_prn received
  have measurements := struct_at received.size 4 (32 * sizeofMeasurement) (by decide)
  have clock := struct_at received.size (4 + 32 * sizeofMeasurement) sizeofClock (by decide)
  rw [branch, measurement, halMeasurement]
  by_cases enabled : env.gpsmeasurementInitFlag = 1
  · have count := (gpsData_spec sizes received).1
    rw [if_pos enabled, if_pos enabled]
    rw [show buffGetStruct (zeros (32 * sizeofMeasurement)) (32 * sizeofMeasurement : Nat)
      ⟨received.buff, 4⟩ = _ from measurements, Option.bind_eq_bind, Option.bind_some]
    dsimp only
    rw [show buffGetStruct (zeros sizeofClock) sizeofClock
      ⟨received.buff, (4 : Nat) + (32 * sizeofMeasurement : Nat)⟩ = _ from clock,
      Option.bind_some]
    simp only [← first]
    by_cases named : (slot received 0).prn ≠ 0
    · rw [if_pos named] at count
      rw [if_pos named, if_pos (by omega), List.take_take]
      rfl
    · rw [if_neg named] at count
      rw [if_neg named, if_neg (by omega)]
      rfl
  · rw [if_neg enabled, if_neg enabled]
    rfl

/-- The measurements of a message arrive exactly if the first slot is the only occupied one. -/
theorem delivered_iff_onlyFirstOccupied (sizes : Sizes) {env : Environment}
    (enabled : env.gpsmeasurementInitFlag = 1) (received : Received) :
    Delivered sizes env received ↔ OnlyFirstOccupied received := by
  obtain ⟨count, entry⟩ := gpsData_spec sizes received
  rw [onlyFirstOccupied_iff]
  constructor
  · rintro ⟨data, called, counted, -⟩
    obtain ⟨first, rfl⟩ := (halMeasurement_some_iff sizes enabled received data).mp called
    rw [if_pos first] at count
    have single : (occupied received).length = 1 := counted.symm.trans count
    refine ⟨first, ?_⟩
    rw [occupied_cons, if_pos first, List.length_append, List.length_singleton] at single
    have others := List.eq_nil_of_length_eq_zero (Nat.add_left_cancel single)
    rw [occupied_cons, if_pos first, others, List.append_nil]
  · rintro ⟨first, alone⟩
    rw [if_pos first] at count
    refine ⟨gpsData sizes received, ?_, ?_, ?_⟩
    · exact (halMeasurement_some_iff sizes enabled received _).mpr ⟨first, rfl⟩
    · rw [count, alone, List.length_singleton]
    · have listed : (gpsData sizes received).counted =
          [gpsMeasurement sizes (slot received 0)] := by
        rw [GpsData.counted, count, List.range_one, List.map_singleton, entry]
      rw [alone, listed]
      exact .cons (gpsMeasurement_sameFields sizes _) .nil

/-- A message with one occupied slot, whose satellite is 5. -/
def oneMeasurement (before : Nat) (fits : before ≤ 8983) : Received where
  buff := littleEndian 4 0x76 ++ zeros (8 + before) ++ [5] ++ zeros (8987 - before)
  size := by
    simp only [List.length_append, zeros_length, List.length_singleton]
    rw [show (littleEndian 4 0x76).length = 4 from rfl]
    omega

def enabledEnvironment : Environment := ⟨1, 0, false, false, false⟩

theorem only_measurement_delivered :
    Delivered ⟨0, 0, 0⟩ enabledEnvironment (oneMeasurement 0 (by decide)) ↔
      OnlyFirstOccupied (oneMeasurement 0 (by decide)) :=
  delivered_iff_onlyFirstOccupied ⟨0, 0, 0⟩ rfl (oneMeasurement 0 (by decide))

theorem measurement_of_second_slot_lost :
    ¬ ∀ sizes env received, env.gpsmeasurementInitFlag = 1 → occupied received ≠ [] →
      Delivered sizes env received := by
  intro delivered
  obtain ⟨data, called, -⟩ := delivered ⟨0, 0, 0⟩ enabledEnvironment
    (oneMeasurement 220 (by decide)) rfl (by decide +kernel)
  have first := ((halMeasurement_some_iff ⟨0, 0, 0⟩ rfl _ data).mp called).1
  revert first
  decide +kernel

end X5MaxDevice.Gps.Measurements
