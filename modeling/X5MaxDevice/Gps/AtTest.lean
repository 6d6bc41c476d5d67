import Mathlib.Data.Nat.Sqrt
import X5MaxDevice.Gps.Reader

/-! The production test of the GPS HAL, in a build with `GPS_AT_COMMAND`: the calls that start and
stop it, and the counters that the NMEA reader advances and compares. -/

namespace X5MaxDevice.Gps.AtTest

open X5MaxDevice.Gps.Reader
open X5MaxDevice.Gps.Tokenizer

/-- `MNL_AT_TEST_STATE`. -/
inductive TestState where
  | unknown
  | start
  | stop
  | inProgress
  | done
  | resultDone
  deriving DecidableEq, Repr

structure HalTestData where
  testNum : Int
  prnNum : Int
  timeDelay : Int
  deriving DecidableEq, Repr

/-- A store to `Dev_CNr`, and the number of elements allocated there. -/
structure Store where
  index : Int
  allocated : Int
  deriving DecidableEq, Repr

/-- The variables of the test; counters do not overflow. `Dev_CNr` holds `allocated` elements, none
after it has been freed. `prn` and `snr` are taken as long as the satellite counter needs them. -/
structure Test where
  testFlag : Bool
  signalMode : Bool
  signalTestBegin : Bool
  setAlarm : Bool
  cancelAlarm : Bool
  testState : TestState
  halTestData : HalTestData
  startTime : Int
  devCNr : Int → Int
  allocated : Int
  prn : Int → Int
  snr : Int → Int
  cn : Int
  result : List Int
  testNum : Int
  cNo : Int
  avgCNo : Int
  devCNo : Int
  completedNum : Int
  successNum : Int
  failureNum : Int
  waitNum : Int
  sigSucNum : Int
  errCode : Int
  testModeFlag : Bool
  prevSuccessNum : Int
  stores : List Store

/-- The HAL has been loaded. -/
def Test.loaded : Test where
  testFlag := false
  signalMode := false
  signalTestBegin := false
  setAlarm := false
  cancelAlarm := false
  testState := .unknown
  halTestData := ⟨0, 0, 0⟩
  startTime := 0
  devCNr := fun _ => 0
  allocated := 0
  prn := fun _ => 0
  snr := fun _ => 0
  cn := 0
  result := [1, 0, 0, 0, 0, 0, 0, 0]
  testNum := 0
  cNo := 0
  avgCNo := 0
  devCNo := 0
  completedNum := 0
  successNum := 0
  failureNum := 0
  waitNum := 0
  sigSucNum := 0
  errCode := 1
  testModeFlag := true
  prevSuccessNum := 0
  stores := []

/-- What the modes make of a received satellite. -/
def Test.signal (t : Test) : Test :=
  if t.signalMode then
    if t.signalTestBegin then { t with testState := .resultDone, sigSucNum := 1 }
    else { t with testState := .inProgress }
  else t

/-- The success of a test that is switched on. -/
def Test.succeed (t : Test) (cNr : Int) : Test :=
  if t.testFlag then
    { t with
      errCode := 0
      cNo := t.cNo + cNr
      devCNr := Function.update t.devCNr t.successNum cNr
      stores := t.stores ++ [⟨t.successNum, t.allocated⟩]
      successNum := t.successNum + 1
      avgCNo := (t.cNo + cNr).tdiv (t.successNum + 1) }
  else t

/-- The mean square deviation of the values so far, and its root. -/
def Test.deviation (t : Test) : Int :=
  let squares := (List.range t.successNum.toNat).map (fun j : Nat =>
    (t.devCNr j - t.avgCNo) * (t.devCNr j - t.avgCNo))
  Nat.sqrt (squares.sum.tdiv t.successNum).toNat

/-- The first entry of the satellite that is tested. -/
def Test.found (t : Test) (svCount : Int) : Option Nat :=
  (List.range svCount.toNat).find? (fun i : Nat => t.prn i == t.halTestData.prnNum)

def gpsAtCommandSearchSatellite (svCount : Int) (t : Test) : Test :=
  match t.found svCount with
  | none => t
  | some i =>
      let t :=
        if t.snr i ≠ 0 then { t.signal.succeed (t.snr i * 10) with cn := t.snr i * 10 }
        else
          { t with
            testNum := if t.cancelAlarm && t.testFlag then t.testNum + 1 else t.testNum
            sigSucNum := 0 }
      if t.successNum ≠ 0 then { t with devCNo := t.deviation } else t

/-- The number of satellites goes with a GSV group that is complete. -/
def gpsAtCommandTestProc (svCount : Int) (t : Test) : Test :=
  if t.testState = .done then t
  else if t.signalMode then
    if t.signalTestBegin then
      let t := gpsAtCommandSearchSatellite svCount t
      { t with
        result := ((((t.result.set 0 0).set 3 t.sigSucNum).set 4 1).set 5 t.cn).set 6 0 }
    else t
  else gpsAtCommandSearchSatellite svCount t

/-- `stops` tells whether the HAL is initialised and `mtk_stop` succeeds. -/
def mtkGpsTestStop (stops : Bool) (t : Test) : Test :=
  let t := { t with testModeFlag := true }
  if stops then
    { t with
      halTestData := ⟨0, 0, 0⟩
      testFlag := false
      signalMode := false
      testState := .unknown
      setAlarm := false
      cancelAlarm := false
      signalTestBegin := false
      successNum := 0
      completedNum := 0
      waitNum := 0
      cNo := 0
      devCNo := 0
      errCode := 1
      testNum := 0
      allocated := 0 }
  else t

/-- What a start finds: the time, whether the HAL is initialised, and whether `mtk_start` and, for
a test that is stopped before, `mtk_stop` succeed. -/
structure Start where
  now : Int
  init : Bool
  starts : Bool
  stops : Bool
  deriving DecidableEq, Repr

/-- A test that is still there is stopped before the next one, but not for an AT command. -/
def restart (stops : Bool) (t : Test) : Test :=
  if t.testState ≠ .unknown ∧ t.testModeFlag = true then mtkGpsTestStop stops t else t

def mtkGpsTestStart (start : Start) (testNum prnNum timeDelay testMode : Int) (t : Test) :
    Test × Int :=
  let t := restart start.stops t
  let t :=
    { t with
      halTestData := ⟨testNum, prnNum, timeDelay⟩
      startTime := start.now
      avgCNo := 0
      devCNr := fun _ => 0
      allocated := testNum }
  if testNum = 0 ∧ testMode = 0 then (t, -1)
  else
    let t := if testMode = 1 then { t with signalMode := true } else { t with testFlag := true }
    if start.init = false then (t, -1)
    else
      let t := { t with testState := .inProgress }
      if start.starts = false then ({ t with testState := .unknown, testFlag := false }, -1)
      else (t, 0)

def maxValidStatusWaitCount : Int := 20

/-- The comparison of the counters, and whether it ends the test. -/
def compareCounters (t : Test) : Test × Bool :=
  if 0 < t.successNum then
    let t :=
      if t.prevSuccessNum = t.successNum then { t with failureNum := t.failureNum + 1 } else t
    let t := { t with completedNum := t.successNum + t.failureNum }
    (t, decide (t.completedNum = t.halTestData.testNum))
  else
    let t := { t with waitNum := t.waitNum + 1 }
    if t.waitNum = maxValidStatusWaitCount then ({ t with completedNum := 1, errCode := 32 }, true)
    else (t, false)

def endTest (stops : Bool) (t : Test) : Test :=
  let t :=
    { t with
      result := ((((t.result.set 0 t.errCode).set 3 t.successNum).set 4 t.completedNum).set 5
        t.avgCNo).set 6 t.devCNo
      waitNum := 0
      testState := .done
      errCode := 1 }
  if t.testFlag then { mtkGpsTestStop stops t with failureNum := 0, prevSuccessNum := 0 } else t

/-- The start of `nmea_reader_parse`, and whether the sentence is dropped: the counters are
compared at the last sentence of a read. -/
def checkTest (now : Int) (endTag stops : Bool) (t : Test) : Test × Bool :=
  if t.testFlag || t.signalTestBegin then
    if t.halTestData.timeDelay ≤ now - t.startTime then
      if endTag then
        let (t, stopped) := compareCounters t
        let t := { t with prevSuccessNum := t.successNum }
        (if stopped then endTest stops t else t, false)
      else (t, false)
    else (t, true)
  else (t, false)

variable {α : Type}

/-- One slot of a GSV sentence, with the id as it is written and the signal as an `int`. -/
def recordSlot (platform : Platform) (update : Counting α → Slot → Counting α)
    (s : Counting α × Test) (slot : Slot) : Counting α × Test :=
  (update s.1 slot,
    { s.2 with
      prn := Function.update s.2.prn s.1.svCount (str2int slot.id)
      snr := Function.update s.2.snr s.1.svCount
        (truncate (str2float platform.strtod slot.snr)) })

/-- What a GSV sentence does to the test, beside `parseGsv`. -/
def testGsv (platform : Platform) (update : Counting α → Slot → Counting α) (tzer : NmeaTokenizer)
    (c : Counting α) (t : Test) : Test :=
  let num := str2int (tzer.get 1)
  let seq := str2int (tzer.get 2)
  let cnt := str2int (tzer.get 3)
  let (c, t) := (gsvSlots tzer seq cnt).foldl (recordSlot platform update) (gsvFirst seq c, t)
  if seq = num ∧ c.svCount ≤ cnt ∧ (t.testFlag || t.signalMode) = true then
    gpsAtCommandTestProc c.svCount t
  else t

def testFields (platform : Platform) (r : NmeaReader) (tzer : NmeaTokenizer) (t : Test) : Test :=
  let mtok := tzer.get 0
  let bds := startsWith mtok "BD"
  let kind := sentenceKind platform.gpsMode mtok
  if kind = .gsvGnss then
    testGsv platform (updateSvStatusGnss platform r.svUsedInFix bds) tzer r.gnss t
  else if kind = .gsvGps then testGsv platform (updateSvStatusGps platform bds) tzer r.gps t
  else t

/-- A byte arrives: the time, and whether stopping the test would succeed. -/
structure Tick where
  moment : Moment
  now : Int
  stops : Bool

structure State where
  reader : NmeaReader
  test : Test

def nmeaReaderParse (platform : Platform) (tick : Tick) (s : State) (sentence : Bytes) : State :=
  let (t, dropped) := checkTest tick.now tick.moment.gpsNmeaEndTag tick.stops s.test
  if dropped then ⟨s.reader.record (.parse sentence), t⟩
  else
    let tzer := nmeaTokenizerInit sentence
    ⟨Reader.nmeaReaderParse platform tick.moment s.reader sentence,
      if sentence.length < 9 ∨ (tzer.get 0).length < 5 then t
      else testFields platform s.reader tzer t⟩

def nmeaReaderFinish (platform : Platform) (tick : Tick) (s : State) : State :=
  let s := nmeaReaderParse platform tick s s.reader.input
  let r := s.reader
  { s with reader := { r.record (.nmeaCb r.fix.timestamp r.input) with input := [] } }

def nmeaReaderAddc (platform : Platform) (tick : Tick) (s : State) (c : UInt8) : State :=
  let r := s.reader
  if r.overflow then { s with reader := { r with overflow := decide (c ≠ newline) } }
  else if nmeaMaxSize ≤ r.input.length then
    { s with reader := { r with overflow := true, input := [] } }
  else
    let s := { s with reader := { r with input := r.input ++ [c] } }
    if c = newline then nmeaReaderFinish platform tick s else s

/-- With no test under way the reader is the plain one. -/
theorem addc_reader (platform : Platform) (tick : Tick) (s : State) (c : UInt8)
    (off : s.test.testFlag = false) (unbegun : s.test.signalTestBegin = false) :
    (nmeaReaderAddc platform tick s c).reader =
      Reader.nmeaReaderAddc platform tick.moment s.reader c := by
  have check : checkTest tick.now tick.moment.gpsNmeaEndTag tick.stops s.test = (s.test, false) := by
    simp [checkTest, off, unbegun]
  rw [nmeaReaderAddc, Reader.nmeaReaderAddc]
  split
  · rfl
  · split
    · rfl
    · dsimp only
      split
      · simp only [nmeaReaderFinish, nmeaReaderParse, check, Reader.nmeaReaderFinish,
          Bool.false_eq_true, if_false]
      · rfl

end X5MaxDevice.Gps.AtTest
