import X5MaxDevice.Base.Transitions
import X5MaxDevice.Gps.AtTest

/-! Where the production test stores the values of the satellite: the index is the number of
successes so far, and only the comparison of the counters for equality keeps it below the test
count. -/

namespace X5MaxDevice.Gps.TestBounds

open X5MaxDevice.Gps.AtTest
open X5MaxDevice.Gps.Reader hiding nmeaReaderParse nmeaReaderFinish nmeaReaderAddc
open X5MaxDevice.Gps.Tokenizer
open X5MaxDevice.Transitions

/-- What happens during a test: a byte arrives, or the test is stopped from outside. -/
inductive Label where
  | byte (c : UInt8) (tick : Tick)
  | stop (stops : Bool)

def advance (platform : Platform) (s : State) : Label → State
  | .byte c tick => nmeaReaderAddc platform tick s c
  | .stop stops => { s with test := mtkGpsTestStop stops s.test }

def step (platform : Platform) (s : State) (label : Label) : Option State :=
  some (advance platform s label)

/-- A normal test has been started for `testNum` values. -/
def begun (start : Start) (testNum prnNum timeDelay : Int) (before : Test) (r : NmeaReader) :
    State :=
  ⟨r, (mtkGpsTestStart start testNum prnNum timeDelay 0 before).1⟩

def InBounds (store : Store) : Prop := 0 ≤ store.index ∧ store.index < store.allocated

instance (store : Store) : Decidable (InBounds store) := inferInstanceAs (Decidable (_ ∧ _))

/-- Every store that was not made before is in bounds. -/
def WritesInBounds (before t : Test) : Prop :=
  ∀ store ∈ t.stores.drop before.stores.length, InBounds store

instance (before t : Test) : Decidable (WritesInBounds before t) :=
  inferInstanceAs (Decidable (∀ store ∈ t.stores.drop before.stores.length, InBounds store))

/-- The counters that are not cleared by a start leave room for a test of `testNum` values. -/
structure LeavesRoom (testNum : Int) (t : Test) : Prop where
  failures : 0 ≤ t.failureNum
  previous : 0 ≤ t.prevSuccessNum
  grown : t.prevSuccessNum ≤ t.successNum
  below : t.successNum + t.failureNum < testNum

/-- The test looks for its satellite. -/
def counts (t : Test) : Bool :=
  t.testFlag && decide (t.testState ≠ .done) && (!t.signalMode || t.signalTestBegin)

def received (svCount : Int) (t : Test) : Bool :=
  (t.found svCount).any (fun i : Nat => decide (t.snr i ≠ 0))

variable {α : Type}

def groupReceived (platform : Platform) (update : Counting α → Slot → Counting α)
    (tzer : NmeaTokenizer) (c : Counting α) (t : Test) : Bool :=
  let num := str2int (tzer.get 1)
  let seq := str2int (tzer.get 2)
  let cnt := str2int (tzer.get 3)
  let (c, t) := (gsvSlots tzer seq cnt).foldl (recordSlot platform update) (gsvFirst seq c, t)
  decide (seq = num) && decide (c.svCount ≤ cnt) && received c.svCount t

/-- The sentence completes a GSV group in which the tested satellite is received. -/
def receives (platform : Platform) (r : NmeaReader) (t : Test) (sentence : Bytes) : Bool :=
  let tzer := nmeaTokenizerInit sentence
  let mtok := tzer.get 0
  let bds := startsWith mtok "BD"
  let kind := sentenceKind platform.gpsMode mtok
  decide (9 ≤ sentence.length) && decide (5 ≤ mtok.length) &&
    (if kind = .gsvGnss then
      groupReceived platform (updateSvStatusGnss platform r.svUsedInFix bds) tzer r.gnss t
    else if kind = .gsvGps then
      groupReceived platform (updateSvStatusGps platform bds) tzer r.gps t
    else false)

/-- There are successes to compare that make up the test count with the failures. -/
def Due (t : Test) : Prop :=
  t.prevSuccessNum ≠ t.successNum ∧ t.halTestData.testNum ≤ t.successNum + t.failureNum

instance (t : Test) : Decidable (Due t) := inferInstanceAs (Decidable (_ ∧ _))

/-- The byte completes a sentence. -/
def completes (r : NmeaReader) (c : UInt8) : Bool :=
  !r.overflow && decide (r.input.length < nmeaMaxSize) && decide (c = newline)

/-- No further success comes before the comparison that is due. -/
def ComparedInTime (platform : Platform) (s : State) : Label → Prop
  | .byte c tick =>
      completes s.reader c = true → tick.moment.gpsNmeaEndTag = false →
        s.test.halTestData.timeDelay ≤ tick.now - s.test.startTime → counts s.test = true →
          receives platform s.reader s.test (s.reader.input ++ [c]) = true → ¬ Due s.test
  | .stop _ => True

instance (platform : Platform) (s : State) : (label : Label) →
    Decidable (ComparedInTime platform s label)
  | .byte _ _ => inferInstanceAs (Decidable (_ → _ → _ → _ → _ → _))
  | .stop _ => isTrue trivial

/-- What neither the reader nor the comparison changes while the test is on. -/
structure Frame (t t' : Test) : Prop where
  testFlag : t'.testFlag = t.testFlag
  testState : t.testState = .done → t'.testState = .done
  halTestData : t'.halTestData = t.halTestData
  allocated : t'.allocated = t.allocated

theorem Frame.trans {first second third : Test} (before : Frame first second)
    (after : Frame second third) : Frame first third where
  testFlag := after.testFlag.trans before.testFlag
  testState := fun done => after.testState (before.testState done)
  halTestData := after.halTestData.trans before.halTestData
  allocated := after.allocated.trans before.allocated

/-- The counters and the array stay. -/
structure Idle (t t' : Test) : Prop where
  frame : Frame t t'
  failureNum : t'.failureNum = t.failureNum
  prevSuccessNum : t'.prevSuccessNum = t.prevSuccessNum
  successNum : t'.successNum = t.successNum
  stores : t'.stores = t.stores

/-- One value is stored at the number of successes. -/
structure Succeeds (t t' : Test) : Prop where
  frame : Frame t t'
  failureNum : t'.failureNum = t.failureNum
  prevSuccessNum : t'.prevSuccessNum = t.prevSuccessNum
  successNum : t'.successNum = t.successNum + 1
  stores : t'.stores = t.stores ++ [⟨t.successNum, t.allocated⟩]

theorem Frame.refl (t : Test) : Frame t t := ⟨rfl, id, rfl, rfl⟩

theorem Idle.refl (t : Test) : Idle t t := ⟨Frame.refl t, rfl, rfl, rfl, rfl⟩

theorem Idle.trans {first second third : Test} (before : Idle first second)
    (after : Idle second third) : Idle first third where
  frame := before.frame.trans after.frame
  failureNum := after.failureNum.trans before.failureNum
  prevSuccessNum := after.prevSuccessNum.trans before.prevSuccessNum
  successNum := after.successNum.trans before.successNum
  stores := after.stores.trans before.stores

theorem Succeeds.after_idle {first second third : Test} (before : Idle first second)
    (after : Succeeds second third) : Succeeds first third where
  frame := before.frame.trans after.frame
  failureNum := after.failureNum.trans before.failureNum
  prevSuccessNum := after.prevSuccessNum.trans before.prevSuccessNum
  successNum := by rw [after.successNum, before.successNum]
  stores := by rw [after.stores, before.stores, before.successNum, before.frame.allocated]

theorem Succeeds.before_idle {first second third : Test} (before : Succeeds first second)
    (after : Idle second third) : Succeeds first third where
  frame := before.frame.trans after.frame
  failureNum := after.failureNum.trans before.failureNum
  prevSuccessNum := after.prevSuccessNum.trans before.prevSuccessNum
  successNum := after.successNum.trans before.successNum
  stores := after.stores.trans before.stores

theorem signal_idle {t : Test} (running : t.testState ≠ .done) : Idle t t.signal := by
  rw [Test.signal]
  split
  · split
    · exact ⟨⟨rfl, fun done => absurd done running, rfl, rfl⟩, rfl, rfl, rfl, rfl⟩
    · exact ⟨⟨rfl, fun done => absurd done running, rfl, rfl⟩, rfl, rfl, rfl, rfl⟩
  · exact Idle.refl t

theorem succeed_succeeds {t : Test} (on : t.testFlag = true) (cNr : Int) :
    Succeeds t (t.succeed cNr) := by
  rw [Test.succeed, if_pos on]
  exact ⟨⟨rfl, id, rfl, rfl⟩, rfl, rfl, rfl, rfl⟩

theorem deviation_idle (t : Test) :
    Idle t (if t.successNum ≠ 0 then { t with devCNo := t.deviation } else t) := by
  split
  · exact ⟨⟨rfl, id, rfl, rfl⟩, rfl, rfl, rfl, rfl⟩
  · exact Idle.refl t

/-- The search stores a value only of a received satellite, and only in a test that is on. -/
theorem search_cases (svCount : Int) {t : Test} (running : t.testState ≠ .done) :
    Idle t (gpsAtCommandSearchSatellite svCount t) ∨
      (t.testFlag = true ∧ received svCount t = true ∧
        Succeeds t (gpsAtCommandSearchSatellite svCount t)) := by
  rw [gpsAtCommandSearchSatellite, received]
  cases t.found svCount with
  | none => exact Or.inl (Idle.refl t)
  | some i =>
      dsimp only
      by_cases signal : t.snr i ≠ 0
      · rw [if_pos signal]
        by_cases on : t.testFlag = true
        · have stored := succeed_succeeds ((signal_idle running).frame.testFlag.trans on) (t.snr i * 10)
          have current : Idle (t.signal.succeed (t.snr i * 10))
              { t.signal.succeed (t.snr i * 10) with cn := t.snr i * 10 } :=
            ⟨⟨rfl, id, rfl, rfl⟩, rfl, rfl, rfl, rfl⟩
          refine Or.inr ⟨on, by simpa using signal, ?_⟩
          exact ((stored.before_idle current).before_idle (deviation_idle _)).after_idle
            (signal_idle running)
        · have off : t.signal.succeed (t.snr i * 10) = t.signal := by
            rw [Test.succeed, if_neg ((signal_idle running).frame.testFlag ▸ on)]
          have current : Idle t.signal { t.signal with cn := t.snr i * 10 } :=
            ⟨⟨rfl, id, rfl, rfl⟩, rfl, rfl, rfl, rfl⟩
          rw [off]
          exact Or.inl (((signal_idle running).trans current).trans (deviation_idle _))
      · rw [if_neg signal]
        refine Or.inl (Idle.trans ?_ (deviation_idle _))
        exact ⟨⟨rfl, id, rfl, rfl⟩, rfl, rfl, rfl, rfl⟩

theorem testProc_cases (svCount : Int) (t : Test) :
    Idle t (gpsAtCommandTestProc svCount t) ∨
      (counts t = true ∧ received svCount t = true ∧
        Succeeds t (gpsAtCommandTestProc svCount t)) := by
  rw [gpsAtCommandTestProc, counts]
  split
  case isTrue => exact Or.inl (Idle.refl t)
  case isFalse running =>
    rcases search_cases svCount running with idle | ⟨on, signal, stored⟩
    · left
      split
      · split
        · exact idle.trans ⟨⟨rfl, id, rfl, rfl⟩, rfl, rfl, rfl, rfl⟩
        · exact Idle.refl t
      · exact idle
    · split
      case isTrue mode =>
        split
        case isTrue began =>
          refine Or.inr ⟨by simp [on, running, began], signal, ?_⟩
          exact stored.before_idle ⟨⟨rfl, id, rfl, rfl⟩, rfl, rfl, rfl, rfl⟩
        case isFalse => exact Or.inl (Idle.refl t)
      case isFalse mode => exact Or.inr ⟨by simp [on, running, mode], signal, stored⟩

/-- The slots of a sentence change the numbers of the satellites and their signals only. -/
theorem slots_recorded (platform : Platform) (update : Counting α → Slot → Counting α)
    (slots : List Slot) (c : Counting α) (t : Test) :
    ∃ prn snr, (slots.foldl (recordSlot platform update) (c, t)).2 =
      { t with prn := prn, snr := snr } := by
  induction slots generalizing c t with
  | nil => exact ⟨t.prn, t.snr, rfl⟩
  | cons slot slots ih =>
      rw [List.foldl_cons]
      rcases ih (update c slot) (recordSlot platform update (c, t) slot).2 with ⟨prn, snr, same⟩
      exact ⟨prn, snr, same⟩

theorem testGsv_cases (platform : Platform) (update : Counting α → Slot → Counting α)
    (tzer : NmeaTokenizer) (c : Counting α) (t : Test) :
    Idle t (testGsv platform update tzer c t) ∨
      (counts t = true ∧ groupReceived platform update tzer c t = true ∧
        Succeeds t (testGsv platform update tzer c t)) := by
  rw [testGsv, groupReceived]
  rcases slots_recorded platform update (gsvSlots tzer (str2int (tzer.get 2))
    (str2int (tzer.get 3))) (gsvFirst (str2int (tzer.get 2)) c) t with ⟨prn, snr, same⟩
  generalize (gsvSlots tzer (str2int (tzer.get 2)) (str2int (tzer.get 3))).foldl
    (recordSlot platform update) (gsvFirst (str2int (tzer.get 2)) c, t) = read at same
  obtain ⟨counted, t'⟩ := read
  subst same
  have recorded : Idle t { t with prn := prn, snr := snr } :=
    ⟨⟨rfl, id, rfl, rfl⟩, rfl, rfl, rfl, rfl⟩
  dsimp only
  split
  case isTrue last =>
    rcases testProc_cases counted.svCount { t with prn := prn, snr := snr } with
      idle | ⟨on, signal, stored⟩
    · exact Or.inl (recorded.trans idle)
    · refine Or.inr ⟨on, ?_, stored.after_idle recorded⟩
      simp only [last.1, last.2.1, signal, decide_true, Bool.and_self]
  case isFalse => exact Or.inl recorded

theorem testFields_cases (platform : Platform) (r : NmeaReader) (t : Test) {sentence : Bytes}
    (length : 9 ≤ sentence.length) (name : 5 ≤ ((nmeaTokenizerInit sentence).get 0).length) :
    Idle t (testFields platform r (nmeaTokenizerInit sentence) t) ∨
      (counts t = true ∧ receives platform r t sentence = true ∧
        Succeeds t (testFields platform r (nmeaTokenizerInit sentence) t)) := by
  rw [testFields, receives]
  rw [decide_eq_true length, decide_eq_true name]
  split
  · exact testGsv_cases platform _ _ r.gnss t
  · split
    · exact testGsv_cases platform _ _ r.gps t
    · exact Or.inl (Idle.refl t)

/-- What holds while the test is on: `allocated` elements for `testNum` values, and counters that
have not passed the test count; after a comparison they are below it. -/
structure Room (num : Int) (t : Test) : Prop where
  allocated : t.allocated = num
  testNum : t.halTestData.testNum = num
  failures : 0 ≤ t.failureNum
  previous : 0 ≤ t.prevSuccessNum
  grown : t.prevSuccessNum ≤ t.successNum
  within : t.successNum + t.failureNum ≤ num
  compared : t.prevSuccessNum = t.successNum → t.successNum + t.failureNum < num

/-- A test that is off, or done, stores nothing. -/
structure Invariant (before : Test) (num : Int) (t : Test) : Prop where
  made : before.stores.length ≤ t.stores.length
  inBounds : WritesInBounds before t
  room : t.testFlag = true → t.testState ≠ .done → Room num t

variable {before : Test} {num : Int}

/-- The room stays with the counters. -/
theorem Room.idle {t t' : Test} (room : Room num t) (idle : Idle t t') : Room num t' where
  allocated := by rw [idle.frame.allocated, room.allocated]
  testNum := by rw [idle.frame.halTestData, room.testNum]
  failures := by rw [idle.failureNum]; exact room.failures
  previous := by rw [idle.prevSuccessNum]; exact room.previous
  grown := by rw [idle.prevSuccessNum, idle.successNum]; exact room.grown
  within := by rw [idle.successNum, idle.failureNum]; exact room.within
  compared := by rw [idle.prevSuccessNum, idle.successNum, idle.failureNum]; exact room.compared

theorem Invariant.moved {t t' : Test} (holds : Invariant before num t)
    (same : t'.stores = t.stores)
    (room : t'.testFlag = true → t'.testState ≠ .done → Room num t') :
    Invariant before num t' where
  made := by rw [same]; exact holds.made
  inBounds := by rw [WritesInBounds, same]; exact holds.inBounds
  room := room

theorem Invariant.idle {t t' : Test} (holds : Invariant before num t) (idle : Idle t t') :
    Invariant before num t' := by
  apply holds.moved idle.stores
  intro on running
  have room := holds.room (idle.frame.testFlag ▸ on)
    (fun done => running (idle.frame.testState done))
  exact room.idle idle

/-- Unless a comparison is due, one more success fits. -/
theorem Room.below {t : Test} (room : Room num t) (inTime : ¬ Due t) :
    t.successNum + t.failureNum < num := by
  by_cases compared : t.prevSuccessNum = t.successNum
  · exact room.compared compared
  · rw [Due, room.testNum] at inTime
    exact not_le.mp (fun full => inTime ⟨compared, full⟩)

theorem Room.succeeds {t t' : Test} (room : Room num t) (inTime : ¬ Due t)
    (stored : Succeeds t t') : Room num t' := by
  have below := room.below inTime
  have grown := room.grown
  have successes := stored.successNum
  have failures := stored.failureNum
  have previous := stored.prevSuccessNum
  constructor
  · rw [stored.frame.allocated, room.allocated]
  · rw [stored.frame.halTestData, room.testNum]
  · rw [failures]; exact room.failures
  · rw [previous]; exact room.previous
  · omega
  · omega
  · intro compared
    omega

theorem Room.index {t : Test} (room : Room num t) (inTime : ¬ Due t) :
    InBounds ⟨t.successNum, t.allocated⟩ := by
  have below := room.below inTime
  have failures := room.failures
  constructor
  · exact room.previous.trans room.grown
  · show t.successNum < t.allocated
    rw [room.allocated]
    omega

theorem Invariant.succeeds {t t' : Test} (holds : Invariant before num t) (on : counts t = true)
    (inTime : ¬ Due t) (stored : Succeeds t t') : Invariant before num t' := by
  rw [counts, Bool.and_eq_true, Bool.and_eq_true, decide_eq_true_eq] at on
  have room := holds.room on.1.1 on.1.2
  constructor
  · rw [stored.stores, List.length_append]
    exact Nat.le_add_right_of_le holds.made
  · rw [WritesInBounds, stored.stores, List.drop_append_of_le_length holds.made]
    intro store member
    rcases List.mem_append.mp member with old | new
    · exact holds.inBounds store old
    · rw [List.mem_singleton.mp new]
      exact room.index inTime
  · intro _ _
    exact room.succeeds inTime stored

/-- A stop that fails has only left the mode of the tests. -/
theorem testStop_cases (stops : Bool) (t : Test) :
    ((mtkGpsTestStop stops t).testFlag = false ∧ (mtkGpsTestStop stops t).stores = t.stores) ∨
      mtkGpsTestStop stops t = { t with testModeFlag := true } := by
  rw [mtkGpsTestStop]
  split
  · exact Or.inl ⟨rfl, rfl⟩
  · exact Or.inr rfl

theorem testStop_stores (stops : Bool) (t : Test) :
    (mtkGpsTestStop stops t).stores = t.stores := by
  rcases testStop_cases stops t with ⟨-, same⟩ | kept
  · exact same
  · rw [kept]

theorem testStop_invariant {t : Test} (stops : Bool) (holds : Invariant before num t) :
    Invariant before num (mtkGpsTestStop stops t) := by
  rcases testStop_cases stops t with ⟨off, same⟩ | kept
  · apply holds.moved same
    intro on
    rw [off] at on
    cases on
  · rw [kept]
    exact holds.idle ⟨⟨rfl, id, rfl, rfl⟩, rfl, rfl, rfl, rfl⟩

/-- A test that is ended is off, or done when it could not be stopped. -/
theorem endTest_ended (stops : Bool) (t : Test) :
    (endTest stops t).stores = t.stores ∧
      ((endTest stops t).testFlag = true → (endTest stops t).testState = .done) := by
  rw [endTest]
  dsimp only
  split
  · constructor
    · exact testStop_stores stops _
    · intro on
      rcases testStop_cases stops _ with ⟨off, -⟩ | kept
      · exact absurd on (by rw [off]; decide)
      · rw [kept]
  · exact ⟨rfl, fun _ => rfl⟩

theorem endTest_counts (stops : Bool) (t : Test) : counts (endTest stops t) = false := by
  have ended := (endTest_ended stops t).2
  rw [counts]
  cases on : (endTest stops t).testFlag with
  | false => rfl
  | true => simp [ended on]

theorem compareCounters_frame (t : Test) :
    Frame t (compareCounters t).1 ∧ (compareCounters t).1.stores = t.stores := by
  rw [compareCounters]
  split
  · split <;> exact ⟨⟨rfl, id, rfl, rfl⟩, rfl⟩
  · dsimp only
    split <;> exact ⟨⟨rfl, id, rfl, rfl⟩, rfl⟩

/-- A comparison that does not end the test finds the counters below the test count. -/
theorem compareCounters_room {t : Test} (room : Room num t)
    (goesOn : (compareCounters t).2 = false) :
    Room num { (compareCounters t).1 with prevSuccessNum := (compareCounters t).1.successNum } := by
  have within := room.within
  have failures := room.failures
  have previous := room.previous
  have grown := room.grown
  have compared := room.compared
  have testNum := room.testNum
  revert goesOn
  rw [compareCounters]
  split
  case isTrue successes =>
    split
    case isTrue same =>
      -- no success since the last comparison
      intro goesOn
      have other : t.successNum + (t.failureNum + 1) ≠ num := by simpa [testNum] using goesOn
      have below := compared same
      exact ⟨room.allocated, testNum, by dsimp only; omega, successes.le, le_refl _,
        by dsimp only; omega, fun _ => by dsimp only; omega⟩
    case isFalse =>
      intro goesOn
      have other : t.successNum + t.failureNum ≠ num := by simpa [testNum] using goesOn
      exact ⟨room.allocated, testNum, failures, successes.le, le_refl _, within,
        fun _ => lt_of_le_of_ne within other⟩
  case isFalse none =>
    have same : t.prevSuccessNum = t.successNum := by omega
    have kept : Room num { t with waitNum := t.waitNum + 1, prevSuccessNum := t.successNum } :=
      ⟨room.allocated, testNum, failures, previous.trans grown, le_refl _, within,
        fun _ => compared same⟩
    dsimp only
    split
    · nofun
    · exact fun _ => kept

/-- Before a sentence that is not dropped the counters have just been compared, or they are as
they were inside the read. -/
theorem checkTest_invariant {t : Test} (now : Int) (endTag stops : Bool)
    (holds : Invariant before num t) :
    Invariant before num (checkTest now endTag stops t).1 ∧
      ((checkTest now endTag stops t).2 = false → counts (checkTest now endTag stops t).1 = true →
        ¬ Due (checkTest now endTag stops t).1 ∨
          ((checkTest now endTag stops t).1 = t ∧ endTag = false ∧
            t.halTestData.timeDelay ≤ now - t.startTime)) := by
  rw [checkTest]
  split
  case isFalse off =>
    refine ⟨holds, fun _ on => ?_⟩
    simp_all [counts]
  case isTrue =>
    split
    case isFalse => exact ⟨holds, fun dropped => Bool.noConfusion dropped⟩
    case isTrue delayed =>
      split
      case isFalse inside =>
        exact ⟨holds, fun _ _ => Or.inr ⟨rfl, by simpa using inside, delayed⟩⟩
      case isTrue =>
        rcases compareCounters_frame t with ⟨frame, stores⟩
        have room : t.testFlag = true → t.testState ≠ .done → (compareCounters t).2 = false →
            Room num { (compareCounters t).1 with
              prevSuccessNum := (compareCounters t).1.successNum } :=
          fun on running => compareCounters_room (holds.room on running)
        generalize compareCounters t = compared at frame stores room
        obtain ⟨t', stopped⟩ := compared
        dsimp only at frame stores room ⊢
        cases stopped with
        | true =>
            have ended := endTest_ended stops { t' with prevSuccessNum := t'.successNum }
            constructor
            · exact holds.moved (ended.1.trans stores) (fun on running => absurd (ended.2 on) running)
            · intro _ on
              have off := endTest_counts stops { t' with prevSuccessNum := t'.successNum }
              exact absurd on (by simp [off])
        | false =>
            constructor
            · rw [if_neg Bool.false_ne_true]
              apply holds.moved
              · exact stores
              · intro on running
                exact room (frame.testFlag ▸ on) (fun done => running (frame.testState done)) rfl
            · intro _ _
              exact Or.inl (fun due => due.1 rfl)

theorem nmeaReaderParse_invariant {platform : Platform} {tick : Tick} {s : State}
    {sentence : Bytes} (holds : Invariant before num s.test)
    (inTime : tick.moment.gpsNmeaEndTag = false →
      s.test.halTestData.timeDelay ≤ tick.now - s.test.startTime → counts s.test = true →
        receives platform s.reader s.test sentence = true → ¬ Due s.test) :
    Invariant before num (nmeaReaderParse platform tick s sentence).test := by
  rcases checkTest_invariant tick.now tick.moment.gpsNmeaEndTag tick.stops holds with
    ⟨checked, undue⟩
  rw [nmeaReaderParse]
  generalize checkTest tick.now tick.moment.gpsNmeaEndTag tick.stops s.test = outcome at checked undue
  obtain ⟨t, dropped⟩ := outcome
  dsimp only at checked undue ⊢
  split
  case isTrue => exact checked
  case isFalse parsed =>
    dsimp only
    split
    case isTrue => exact checked
    case isFalse long =>
      have length : 9 ≤ sentence.length := by omega
      have name : 5 ≤ ((nmeaTokenizerInit sentence).get 0).length := by omega
      rcases testFields_cases platform s.reader t length name with idle | ⟨on, found, stored⟩
      · exact checked.idle idle
      · apply checked.succeeds on _ stored
        rcases undue (by simpa using parsed) on with due | ⟨rfl, inside, delayed⟩
        · exact due
        · exact inTime inside delayed on found

theorem step_invariant {platform : Platform} {s s' : State} {label : Label}
    (holds : Invariant before num s.test) (inTime : ComparedInTime platform s label)
    (stepped : step platform s label = some s') : Invariant before num s'.test := by
  obtain rfl := Option.some.inj stepped
  cases label with
  | stop stops => exact testStop_invariant stops holds
  | byte c tick =>
      rw [advance, nmeaReaderAddc]
      split
      case isTrue => exact holds
      case isFalse collecting =>
        split
        case isTrue => exact holds
        case isFalse room =>
          dsimp only
          split
          case isFalse => exact holds
          case isTrue ends =>
            have completed : completes s.reader c = true := by
              simp [completes, collecting, not_le.mp room, ends]
            rw [nmeaReaderFinish]
            exact nmeaReaderParse_invariant holds (inTime completed)

theorem restart_stores (stops : Bool) (t : Test) : (restart stops t).stores = t.stores := by
  rw [restart]
  split
  · exact testStop_stores stops t
  · rfl

theorem start_invariant (start : Start) (prnNum timeDelay : Int)
    (room : LeavesRoom num (restart start.stops before)) :
    Invariant before num (mtkGpsTestStart start num prnNum timeDelay 0 before).1 := by
  have same := restart_stores start.stops before
  have started (on signal : Bool) (state : TestState) : Invariant before num
      { restart start.stops before with
        halTestData := ⟨num, prnNum, timeDelay⟩, startTime := start.now, avgCNo := 0
        devCNr := fun _ => 0, allocated := num, testFlag := on, signalMode := signal
        testState := state } := by
    constructor
    · exact (congrArg List.length same).ge
    · have made : (restart start.stops before).stores.drop before.stores.length = [] := by
        rw [same, List.drop_length]
      rw [WritesInBounds, made]
      nofun
    · exact fun _ _ => ⟨rfl, rfl, room.failures, room.previous, room.grown, room.below.le,
        fun _ => room.below⟩
  rw [mtkGpsTestStart]
  dsimp only
  generalize restart start.stops before = t at started
  split
  · exact started t.testFlag t.signalMode t.testState
  · have normal : ¬ (0 : Int) = 1 := by decide
    simp only [if_neg normal]
    split
    · exact started true t.signalMode t.testState
    · split
      · exact started false t.signalMode .unknown
      · exact started true t.signalMode .inProgress

/-- The counters of a HAL that has just been loaded are clear. -/
theorem loaded_leavesRoom (stops : Bool) (positive : 0 < num) :
    LeavesRoom num (restart stops Test.loaded) :=
  ⟨le_refl 0, le_refl 0, le_refl 0, positive⟩

/-- A test that its comparison ended and stopped leaves room for the next one. -/
theorem ended_leavesRoom {t : Test} (stops : Bool) (on : t.testFlag = true) (positive : 0 < num) :
    LeavesRoom num (restart stops (endTest true t)) := by
  have ended : endTest true t = { mtkGpsTestStop true { t with
      result := ((((t.result.set 0 t.errCode).set 3 t.successNum).set 4 t.completedNum).set 5
        t.avgCNo).set 6 t.devCNo
      waitNum := 0, testState := .done, errCode := 1 } with failureNum := 0, prevSuccessNum := 0 } := by
    rw [endTest]
    exact if_pos on
  rw [ended]
  exact ⟨le_refl 0, le_refl 0, le_refl 0, positive⟩

/-- One `read` from the GPS descriptor at a time. -/
def readAt (now : Int) (text : Bytes) : List Label :=
  (chunk epochMoment text).map (fun next => .byte next.1 ⟨next.2, now, true⟩)

/-- A test of satellite 1 after a delay of 2 s, with one value to come. -/
def oneValue : State :=
  begun ⟨0, true, true, true⟩ 1 1 2 Test.loaded (nmeaReaderInit fun _ => 0)

def oneGroup : Bytes := bytes "$GPGSV,1,1,01,01,10,100,40\r\n$GPGGA,,\r\n"

def noGroup : Bytes := bytes "$GPGGA,,\r\n"

/-- A test of five values that has counted a success and a failure when it is stopped. -/
def stoppedTest : Test :=
  ((readAt 3 oneGroup ++ readAt 4 noGroup ++ [Label.stop true]).foldl (advance gnssPlatform)
    (begun ⟨0, true, true, true⟩ 5 1 2 Test.loaded (nmeaReaderInit fun _ => 0))).test

def nextTest : State :=
  begun ⟨5, true, true, true⟩ 1 1 2 stoppedTest (nmeaReaderInit fun _ => 0)

def threeReads : List Label := readAt 8 noGroup ++ readAt 9 oneGroup ++ readAt 10 oneGroup

/-- The room is needed: the failure of the test before is counted again, and no comparison ends a
test of one value. -/
theorem stopped_test_overruns :
    ¬ ∀ (platform : Platform) (start : Start) (testNum prnNum timeDelay : Int) (before : Test)
      (r : NmeaReader) (s : State), 0 < testNum →
        ReachesWhere (ComparedInTime platform) (step platform)
          (begun start testNum prnNum timeDelay before r) s →
        WritesInBounds before s.test := by
  intro inBounds
  have reached : ReachesWhere (ComparedInTime gnssPlatform) (step gnssPlatform) nextTest
      (threeReads.foldl (advance gnssPlatform) nextTest) :=
    reachesWhere_foldl (by decide +kernel)
  have overrun : ¬ WritesInBounds stoppedTest
      (threeReads.foldl (advance gnssPlatform) nextTest).test := by
    decide +kernel
  exact overrun (inBounds gnssPlatform ⟨5, true, true, true⟩ 1 1 2 stoppedTest
    (nmeaReaderInit fun _ => 0) _ (by decide) reached)

def twoGroups : Bytes :=
  bytes "$GPGSV,1,1,01,01,10,100,40\r\n$BDGSV,1,1,01,01,10,100,40\r\n$GPGGA,,\r\n"

end X5MaxDevice.Gps.TestBounds
