import Mathlib.Data.List.Sort
import X5MaxDevice.Base.Transitions

/-! The automatic test of YGPS and the restart buttons: callbacks on the UI thread with its message
queue, and the threads that the test starts, one for each start that is accepted. -/

namespace X5MaxDevice.Ygps.AutoTest

def GPS_EXTRA_POSITION := "position"
def GPS_EXTRA_EPHEMERIS := "ephemeris"
def GPS_EXTRA_TIME := "time"
def GPS_EXTRA_IONO := "iono"
def GPS_EXTRA_UTC := "utc"
def GPS_EXTRA_HEALTH := "health"
def GPS_EXTRA_ALL := "all"
def GPS_EXTRA_RTI := "rti"
def GPS_EXTRA_A1LMANAC := "almanac"

def INPUT_VALUE_MIN : Int := 0
def INPUT_VALUE_MAX : Int := 999
def ONE_SECOND := 1000
def HANDLE_MSG_DELAY_300 := 300
def EXCEED_SECOND := 999

/-- The keys that are put into the bundle. -/
abbrev Extras := List String

inductive RestartButton where
  | hot
  | warm
  | cold
  | full
  | restart
  deriving DecidableEq, Repr

def RestartButton.extras : RestartButton → Extras
  | .hot => [GPS_EXTRA_RTI]
  | .warm => [GPS_EXTRA_EPHEMERIS]
  | .cold =>
      [GPS_EXTRA_EPHEMERIS, GPS_EXTRA_POSITION, GPS_EXTRA_TIME, GPS_EXTRA_IONO, GPS_EXTRA_UTC,
        GPS_EXTRA_HEALTH]
  | .full => [GPS_EXTRA_ALL]
  | .restart =>
      [GPS_EXTRA_EPHEMERIS, GPS_EXTRA_A1LMANAC, GPS_EXTRA_POSITION, GPS_EXTRA_TIME, GPS_EXTRA_IONO,
        GPS_EXTRA_UTC]

/-- The bundle that `reconnectTest` makes for the position of the spinner. -/
def testExtras : Nat → Extras
  | 0 => RestartButton.extras .hot
  | 1 => RestartButton.extras .warm
  | 2 => RestartButton.extras .cold
  | 3 => RestartButton.extras .full
  | _ => []

/-- The messages of `mAutoTestHandler` and those of `mHandler` that do more than draw. Both
handlers have the queue of the UI thread. -/
inductive Message where
  | setCurrentTimes (times : Int)
  | startButtonUpdate (enable : Bool)
  | setCountdown (seconds : Int)
  | exceedPeriod (seconds : Int)
  | setParamReconnect
  | removeUpdate
  | deleteData (extras : Extras)
  | requestUpdate
  | enableButton
  deriving DecidableEq, Repr

/-- `what` of the messages that a restart consists of. -/
inductive RestartStep where
  | removeUpdate
  | deleteData
  | requestUpdate
  deriving DecidableEq, Repr

def Message.restartStep : Message → Option RestartStep
  | .removeUpdate => some .removeUpdate
  | .deleteData _ => some .deleteData
  | .requestUpdate => some .requestUpdate
  | _ => none

/-- An assignment to a field of the activity. -/
inductive Assignment where
  | need3DFix (value : Bool)
  | totalTimes (value : Int)
  | currentTimes (value : Int)
  | testInterval (value : Int)
  | testRunning (value : Bool)
  | clearForceStop
  | startPressed (value : Bool)
  | stopPressed (value : Bool)
  | restarting (value : Bool)
  | firstFix (value : Bool)
  deriving DecidableEq, Repr

/-- A statement of a callback. A conditional puts the branch it takes in front of the rest. -/
inductive Statement where
  | assign (assignment : Assignment)
  | forceStop
  | send (message : Message) (delay : Nat)
  | removeMessages (what : RestartStep)
  | removeUpdates
  | requestLocationUpdates
  | sendExtraCommand (extras : Extras)
  | removeNmeaParser
  | addSVUpdateListener
  | enableStart (enable : Bool)
  | enableStop (enable : Bool)
  | enableBtns (enable : Bool)
  | ifStartNotPressed
  | ifStopNotPressed
  | ifStartDisabled
  | ifNotTesting (button : RestartButton)
  | startThread
  deriving DecidableEq, Repr

/-- A round of the loop in `reconnectTest`. -/
structure Round where
  extras : Extras
  i : Int
  deriving DecidableEq, Repr

def Round.next (r : Round) : Round := { r with i := r.i + 1 }

/-- What a test thread does next. Where it sleeps it has the time at which it wakes up. -/
inductive Test where
  | begin
  | choosing
  | times (r : Round)
  | running (r : Round)
  | current (r : Round)
  | showing (r : Round)
  | entering (r : Round)
  | checking (r : Round)
  | removing (r : Round)
  | postingRemove (r : Round)
  | postingDelete (r : Round)
  | postingRequest (r : Round)
  | leaving (r : Round)
  | interval (r : Round)
  | counting (r : Round)
  | countdown (r : Round) (left : Int)
  | showingCountdown (r : Round) (left : Int)
  | second (r : Round) (left : Int) (due : Nat)
  | counted (r : Round)
  | showingZero (r : Round)
  | half (r : Round) (due : Nat)
  | fix (r : Round)
  | waitingFix (r : Round) (beginTime : Nat)
  | exceeded (r : Round)
  | sleeping (r : Round) (due : Nat)
  | lastSleep (due : Nat)
  | enteringLast
  | checkingLast
  | resetting (done : Nat)
  | leavingLast
  | finishing
  | ended
  deriving DecidableEq, Repr

inductive Stage where
  | visible
  | stopped
  | destroyed
  deriving DecidableEq, Repr

/-- Calls of the location manager. -/
inductive Call where
  | requested
  | removed
  | commanded (extras : Extras)
  deriving DecidableEq, Repr

/-- `main` is the rest of the callback that the UI thread executes, `monitor` the test thread that
is inside `synchronized (YgpsActivity.this)`. Messages stand with the time they are due. -/
structure State where
  mIsRunInBg : Bool
  stage : Stage
  clock : Nat
  main : List Statement
  tests : List Test
  monitor : Option Nat
  queue : List (Nat × Message)
  listening : Bool
  svUpdates : Bool
  calls : List Call
  mTestType : Nat
  mTotalTimes : Int
  mCurrentTimes : Int
  mTestInterval : Int
  mIsNeed3DFix : Bool
  mIsTestRunning : Bool
  mIsForceStopGpsTest : Bool
  mStartPressedHandling : Bool
  mStopPressedHandling : Bool
  mRestarting : Bool
  mFirstFix : Bool
  startEnabled : Bool
  stopEnabled : Bool
  btnsClickable : Bool
  deriving DecidableEq, Repr

/-- After `onCreate`. -/
def create (mIsRunInBg : Bool) : State where
  mIsRunInBg := mIsRunInBg
  stage := .visible
  clock := 0
  main := []
  tests := []
  monitor := none
  queue := []
  listening := true
  svUpdates := true
  calls := [.requested]
  mTestType := 0
  mTotalTimes := 0
  mCurrentTimes := 0
  mTestInterval := 0
  mIsNeed3DFix := false
  mIsTestRunning := false
  mIsForceStopGpsTest := false
  mStartPressedHandling := false
  mStopPressedHandling := false
  mRestarting := false
  mFirstFix := false
  startEnabled := true
  stopEnabled := false
  btnsClickable := true

/-- `times`, `interval` and `need3DFix` are what the fields of the form hold. -/
inductive Label where
  | main
  | test (thread : Nat)
  | tick
  | select (testType : Nat)
  | clickStart (times interval : Option Int) (need3DFix : Bool)
  | clickStop
  | clickRestart (button : RestartButton)
  | dispatch
  | firstFix
  | satelliteStatus (nmeaFixed : Bool)
  | onStop
  | onRestart
  | onDestroy
  deriving DecidableEq, Repr

def setViewToStartState : List Statement := [.enableStart false, .enableStop true]

def setViewToStopState : List Statement := [.enableStop false, .enableStart true]

def resetTestParam : List Assignment :=
  [.need3DFix false, .totalTimes 0, .currentTimes 0, .testInterval 0, .testRunning false]

def clearRestartMsgs : List Statement :=
  [.removeMessages .removeUpdate, .removeMessages .deleteData, .removeMessages .requestUpdate]

def forceStopGpsAutoTest : List Statement :=
  .forceStop :: resetTestParam.map .assign ++ clearRestartMsgs ++ setViewToStopState ++
    [.assign (.startPressed false), .assign (.stopPressed false)]

/-- An empty field has no value. -/
def inRange (value : Int) : Bool := INPUT_VALUE_MIN ≤ value && value ≤ INPUT_VALUE_MAX

def startGPSAutoTest (times interval : Option Int) (need3DFix : Bool) : List Statement :=
  match times with
  | none => [.enableStart true]
  | some times =>
      if !inRange times then [.enableStart true]
      else
        .assign (.totalTimes times) ::
          match interval with
          | none => [.enableStart true]
          | some interval =>
              if !inRange interval then [.enableStart true]
              else
                [.assign (.testInterval interval), .assign (.need3DFix need3DFix),
                  .assign (.testRunning true), .assign .clearForceStop, .ifStartNotPressed]

def resetParamForRestart (extras : Extras) : List Statement :=
  [.assign (.restarting true), .removeUpdates, .send .removeUpdate 0,
    .send (.deleteData extras) HANDLE_MSG_DELAY_300,
    .send .requestUpdate (HANDLE_MSG_DELAY_300 * 2),
    .send .enableButton (HANDLE_MSG_DELAY_300 * 3)]

/-- The first three messages only set texts. -/
def handleMessage : Message → List Statement
  | .setCurrentTimes _ | .setCountdown _ | .exceedPeriod _ => []
  | .startButtonUpdate enable =>
      [.enableStart enable, .enableStop (!enable)] ++ if enable then setViewToStopState else []
  | .setParamReconnect => [.ifStartDisabled]
  | .removeUpdate => [.removeNmeaParser, .assign (.firstFix false)]
  | .deleteData extras => [.sendExtraCommand extras]
  | .requestUpdate =>
      [.requestLocationUpdates, .addSVUpdateListener, .assign (.restarting false)]
  | .enableButton => [.enableBtns true]

def stopUpdates : List Statement := [.removeUpdates, .removeNmeaParser]

def onStop (mIsRunInBg : Bool) : List Statement :=
  if mIsRunInBg then [] else forceStopGpsAutoTest ++ stopUpdates

def onRestart (mIsRunInBg : Bool) : List Statement :=
  if mIsRunInBg then []
  else [.assign (.firstFix false), .requestLocationUpdates, .addSVUpdateListener]

def onDestroy : List Statement := forceStopGpsAutoTest ++ stopUpdates

def State.assign (s : State) : Assignment → State
  | .need3DFix value => { s with mIsNeed3DFix := value }
  | .totalTimes value => { s with mTotalTimes := value }
  | .currentTimes value => { s with mCurrentTimes := value }
  | .testInterval value => { s with mTestInterval := value }
  | .testRunning value => { s with mIsTestRunning := value }
  | .clearForceStop => { s with mIsForceStopGpsTest := false }
  | .startPressed value => { s with mStartPressedHandling := value }
  | .stopPressed value => { s with mStopPressedHandling := value }
  | .restarting value => { s with mRestarting := value }
  | .firstFix value => { s with mFirstFix := value }

/-- Messages that are due at one time keep the order in which they were sent. -/
def State.send (s : State) (message : Message) (delay : Nat) : State :=
  { s with
    queue := s.queue.orderedInsert (fun new old => new.1 < old.1) (s.clock + delay, message) }

def State.branch (s : State) (statements : List Statement) : State :=
  { s with main := statements ++ s.main }

/-- `forceStop` is `synchronized (this) { mIsForceStopGpsTest = true; }`. -/
def State.exec (s : State) : Statement → Option State
  | .assign assignment => some (s.assign assignment)
  | .forceStop => if s.monitor = none then some { s with mIsForceStopGpsTest := true } else none
  | .send message delay => some (s.send message delay)
  | .removeMessages what =>
      some { s with queue := s.queue.filter fun entry => entry.2.restartStep ≠ some what }
  | .removeUpdates => some { s with listening := false, calls := s.calls ++ [.removed] }
  | .requestLocationUpdates => some { s with listening := true, calls := s.calls ++ [.requested] }
  | .sendExtraCommand extras => some { s with calls := s.calls ++ [.commanded extras] }
  | .removeNmeaParser => some { s with svUpdates := false }
  | .addSVUpdateListener => some { s with svUpdates := true }
  | .enableStart enable => some { s with startEnabled := enable }
  | .enableStop enable => some { s with stopEnabled := enable }
  | .enableBtns enable => some { s with btnsClickable := enable }
  | .ifStartNotPressed =>
      some (s.branch
        (if s.mStartPressedHandling then [.enableStart false]
        else .assign (.startPressed true) :: setViewToStartState ++ [.startThread]))
  | .ifStopNotPressed =>
      some (s.branch
        (if s.mStopPressedHandling then []
        else [.assign (.stopPressed true), .assign (.testRunning false)]))
  | .ifStartDisabled =>
      some (s.branch
        (if s.startEnabled then []
        else [.send (.startButtonUpdate true) 0, .assign (.stopPressed false),
          .assign (.startPressed false)]))
  | .ifNotTesting button =>
      some (s.branch
        (if s.mIsTestRunning then []
        else .enableBtns false :: resetParamForRestart button.extras))
  | .startThread => some { s with tests := s.tests ++ [.begin] }

def State.runMain (s : State) : Option State :=
  match s.main with
  | [] => none
  | statement :: rest => { s with main := rest }.exec statement

def State.sleep (s : State) (due : Nat) (next : Test) : Option (State × Test) :=
  if due ≤ s.clock then some (s, next) else none

/-- One step of the thread with this number. A return inside `synchronized` leaves the monitor. -/
def State.advance (s : State) (thread : Nat) : Test → Option (State × Test)
  | .begin => some (s.send (.startButtonUpdate false) 0, .choosing)
  | .choosing => some (s, .times ⟨testExtras s.mTestType, 1⟩)
  | .times r =>
      some (s, if r.i ≤ s.mTotalTimes then .running r else .lastSleep (s.clock + ONE_SECOND))
  | .running r =>
      some (s, if s.mIsTestRunning then .current r else .lastSleep (s.clock + ONE_SECOND))
  | .current r => some (s.assign (.currentTimes r.i), .showing r)
  | .showing r => some (s.send (.setCurrentTimes r.i) 0, .entering r)
  | .entering r =>
      if s.monitor = none then some ({ s with monitor := some thread }, .checking r) else none
  | .checking r =>
      if s.mIsForceStopGpsTest then some ({ s with monitor := none }, .finishing)
      else some (s, .removing r)
  | .removing r =>
      some ({ s with listening := false, calls := s.calls ++ [.removed] }, .postingRemove r)
  | .postingRemove r => some (s.send .removeUpdate 0, .postingDelete r)
  | .postingDelete r =>
      some (s.send (.deleteData r.extras) HANDLE_MSG_DELAY_300, .postingRequest r)
  | .postingRequest r => some (s.send .requestUpdate (HANDLE_MSG_DELAY_300 * 2), .leaving r)
  | .leaving r => some ({ s with monitor := none }, .interval r)
  | .interval r =>
      some (s, if s.mTestInterval ≠ 0 then .counting r else .half r (s.clock + ONE_SECOND / 2))
  | .counting r => some (s, .countdown r s.mTestInterval)
  | .countdown r left =>
      some (s, if 0 ≤ left && s.mIsTestRunning then .showingCountdown r left else .counted r)
  | .showingCountdown r left =>
      some (s.send (.setCountdown left) 0, .second r left (s.clock + ONE_SECOND))
  | .second r left due => s.sleep due (.countdown r (left - 1))
  | .counted r => some (s, if s.mIsTestRunning then .fix r else .showingZero r)
  | .showingZero r => some (s.send (.setCountdown 0) 0, .fix r)
  | .half r due => s.sleep due (.fix r)
  | .fix r =>
      some (s, if s.mIsNeed3DFix then .waitingFix r (s.clock / ONE_SECOND)
        else .sleeping r (s.clock + 2 * ONE_SECOND))
  | .waitingFix r beginTime =>
      some (s, if !s.mIsTestRunning || s.mFirstFix then .sleeping r (s.clock + ONE_SECOND / 2)
        else if EXCEED_SECOND < s.clock / ONE_SECOND - beginTime then .exceeded r
        else .waitingFix r beginTime)
  | .exceeded r => some (s.send (.exceedPeriod EXCEED_SECOND) 0, .times r.next)
  | .sleeping r due => s.sleep due (.times r.next)
  | .lastSleep due => s.sleep due .enteringLast
  | .enteringLast =>
      if s.monitor = none then some ({ s with monitor := some thread }, .checkingLast) else none
  | .checkingLast =>
      if s.mIsForceStopGpsTest then some ({ s with monitor := none }, .finishing)
      else some (s, .resetting 0)
  | .resetting done =>
      some (match resetTestParam[done]? with
        | some assignment => (s.assign assignment, .resetting (done + 1))
        | none => (s.send .setParamReconnect 0, .leavingLast))
  | .leavingLast => some ({ s with monitor := none }, .finishing)
  | .finishing => some (s.send (.startButtonUpdate true) 0, .ended)
  | .ended => none

def State.runTest (s : State) (thread : Nat) : Option State :=
  match s.tests[thread]? with
  | none => none
  | some test =>
      (s.advance thread test).map fun (s', next) => { s' with tests := s'.tests.set thread next }

/-- A callback begins when the one before it is over. -/
def State.call (s : State) (statements : List Statement) : Option State :=
  if s.main = [] then some { s with main := statements } else none

/-- The callbacks of the GPS status come while it is listened to. -/
def State.heard (s : State) : Bool :=
  s.stage = .visible || s.mIsRunInBg && s.stage = .stopped

def step (s : State) : Label → Option State
  | .main => s.runMain
  | .test thread => s.runTest thread
  | .tick => some { s with clock := s.clock + 1 }
  | .select testType =>
      if s.stage = .visible ∧ s.main = [] then some { s with mTestType := testType } else none
  | .clickStart times interval need3DFix =>
      if s.stage = .visible ∧ s.startEnabled then
        s.call (.enableStart false :: startGPSAutoTest times interval need3DFix)
      else none
  | .clickStop =>
      if s.stage = .visible ∧ s.stopEnabled then s.call [.enableStop false, .ifStopNotPressed]
      else none
  | .clickRestart button =>
      if s.stage = .visible ∧ s.btnsClickable then s.call [.ifNotTesting button] else none
  | .dispatch =>
      match s.queue with
      | [] => none
      | (due, message) :: queue =>
          if due ≤ s.clock then { s with queue := queue }.call (handleMessage message) else none
  | .firstFix =>
      if s.heard then s.call (if s.mRestarting then [] else [.assign (.firstFix true)]) else none
  | .satelliteStatus nmeaFixed =>
      if s.heard then s.call [.assign (.firstFix nmeaFixed)] else none
  | .onStop =>
      if s.stage = .visible then { s with stage := .stopped }.call (onStop s.mIsRunInBg) else none
  | .onRestart =>
      if s.stage = .stopped then { s with stage := .visible }.call (onRestart s.mIsRunInBg)
      else none
  | .onDestroy =>
      if s.stage = .stopped then { s with stage := .destroyed }.call onDestroy else none

/-- Inside `synchronized (YgpsActivity.this)`. -/
def Test.inside : Test → Bool
  | .checking _ | .removing _ | .postingRemove _ | .postingDelete _ | .postingRequest _
  | .leaving _ | .checkingLast | .resetting _ | .leavingLast => true
  | _ => false

/-- Inside, past the check of `mIsForceStopGpsTest`. -/
def Test.committed : Test → Bool
  | .removing _ | .postingRemove _ | .postingDelete _ | .postingRequest _ | .leaving _
  | .resetting _ | .leavingLast => true
  | _ => false

/-- The test is not over: neither has it been turned away at the check nor has it sent the message
that ends it. -/
def Test.testing : Test → Bool
  | .leavingLast | .finishing | .ended => false
  | _ => true

def State.reconnects (s : State) : Nat :=
  s.queue.countP fun entry => entry.2 = .setParamReconnect

/-- What one step of a test thread can do. -/
structure Advanced (thread : Nat) (s : State) (test : Test) (s' : State) (next : Test) : Prop where
  mIsRunInBg : s'.mIsRunInBg = s.mIsRunInBg
  stage : s'.stage = s.stage
  main : s'.main = s.main
  tests : s'.tests = s.tests
  svUpdates : s'.svUpdates = s.svUpdates
  mIsForceStopGpsTest : s'.mIsForceStopGpsTest = s.mIsForceStopGpsTest
  mStartPressedHandling : s'.mStartPressedHandling = s.mStartPressedHandling
  mRestarting : s'.mRestarting = s.mRestarting
  monitor : next.inside = test.inside ∧ s'.monitor = s.monitor ∨
    next.inside = true ∧ s.monitor = none ∧ s'.monitor = some thread ∨
    test.inside = true ∧ next.inside = false ∧ s'.monitor = none
  committed : next.committed = true → test.committed = true ∨ s.mIsForceStopGpsTest = false
  updates : s'.listening = s.listening ∧ s'.calls = s.calls ∨
    s'.listening = false ∧ s'.calls = s.calls ++ [.removed]
  queue : ∀ entry ∈ s'.queue,
    entry ∈ s.queue ∨ entry.2.restartStep = none ∨ test.committed = true
  sent : ∀ entry ∈ s.queue, entry ∈ s'.queue
  reconnects : s'.reconnects + next.testing.toNat ≤ s.reconnects + test.testing.toNat

section Threads

variable {s s' : State} {test next : Test} {thread : Nat}

theorem mem_send {entry : Nat × Message} {message : Message} {delay : Nat}
    (member : entry ∈ (s.send message delay).queue) :
    entry ∈ s.queue ∨ entry.2 = message := by
  rcases (List.mem_orderedInsert _).mp member with rfl | older
  · exact .inr rfl
  · exact .inl older

theorem send_reconnects (message : Message) (delay : Nat) : (s.send message delay).reconnects =
    s.reconnects + (decide (message = .setParamReconnect)).toNat := by
  rw [State.reconnects, State.send, (List.perm_orderedInsert _ _ _).countP_eq, List.countP_cons]
  by_cases reconnect : message = .setParamReconnect <;> simp [State.reconnects, reconnect]

theorem Advanced.moved (inside : next.inside = test.inside)
    (committed : next.committed = true → test.committed = true ∨ s.mIsForceStopGpsTest = false)
    (testing : test.testing = true) : Advanced thread s test s next where
  mIsRunInBg := rfl
  stage := rfl
  main := rfl
  tests := rfl
  svUpdates := rfl
  mIsForceStopGpsTest := rfl
  mStartPressedHandling := rfl
  mRestarting := rfl
  monitor := .inl ⟨inside, rfl⟩
  committed := committed
  updates := .inl ⟨rfl, rfl⟩
  queue := fun _ member => .inl member
  sent := fun _ member => member
  reconnects := Nat.add_le_add_left (by simpa [testing] using Bool.toNat_le _) _

theorem Advanced.sent_message (message : Message) (delay : Nat) (inside : next.inside = test.inside)
    (committed : next.committed = true → test.committed = true)
    (allowed : message.restartStep = none ∨ test.committed = true)
    (testing : (decide (message = .setParamReconnect)).toNat + next.testing.toNat ≤
      test.testing.toNat) :
    Advanced thread s test (s.send message delay) next where
  mIsRunInBg := rfl
  stage := rfl
  main := rfl
  tests := rfl
  svUpdates := rfl
  mIsForceStopGpsTest := rfl
  mStartPressedHandling := rfl
  mRestarting := rfl
  monitor := .inl ⟨inside, rfl⟩
  committed := fun now => .inl (committed now)
  updates := .inl ⟨rfl, rfl⟩
  queue := by
    intro entry member
    rcases mem_send member with older | rfl
    · exact .inl older
    · exact .inr allowed
  sent := fun _ member => (List.mem_orderedInsert _).mpr (.inr member)
  reconnects := by
    rw [send_reconnects]
    omega

/-- The fields that a test thread assigns are none of those that guard it. -/
theorem Advanced.assigned {assignment : Assignment}
    (member : assignment ∈ resetTestParam ∨ ∃ value, assignment = .currentTimes value)
    (inside : next.inside = test.inside)
    (committed : next.committed = true → test.committed = true) (testing : test.testing = true) :
    Advanced thread s test (s.assign assignment) next := by
  have frame : Advanced thread s test s next :=
    .moved inside (fun now => .inl (committed now)) testing
  rcases member with member | ⟨value, rfl⟩
  · simp only [resetTestParam, List.mem_cons, List.not_mem_nil, or_false] at member
    rcases member with rfl | rfl | rfl | rfl | rfl <;> exact { frame with }
  · exact { frame with }

theorem Advanced.entered (outside : s.monitor = none) (inside : next.inside = true)
    (committed : next.committed = false) (testing : test.testing = true) :
    Advanced thread s test { s with monitor := some thread } next where
  mIsRunInBg := rfl
  stage := rfl
  main := rfl
  tests := rfl
  svUpdates := rfl
  mIsForceStopGpsTest := rfl
  mStartPressedHandling := rfl
  mRestarting := rfl
  monitor := .inr (.inl ⟨inside, outside, rfl⟩)
  committed := by simp [committed]
  updates := .inl ⟨rfl, rfl⟩
  queue := fun _ member => .inl member
  sent := fun _ member => member
  reconnects := Nat.add_le_add_left (by simpa [testing] using Bool.toNat_le _) _

theorem Advanced.left (before : test.inside = true) (after : next.inside = false)
    (committed : next.committed = false) (testing : next.testing = true → test.testing = true) :
    Advanced thread s test { s with monitor := none } next where
  mIsRunInBg := rfl
  stage := rfl
  main := rfl
  tests := rfl
  svUpdates := rfl
  mIsForceStopGpsTest := rfl
  mStartPressedHandling := rfl
  mRestarting := rfl
  monitor := .inr (.inr ⟨before, after, rfl⟩)
  committed := by simp [committed]
  updates := .inl ⟨rfl, rfl⟩
  queue := fun _ member => .inl member
  sent := fun _ member => member
  reconnects := Nat.add_le_add_left (Bool.toNat_le_toNat testing) _

theorem Advanced.slept {due : Nat} {after : Test} (woken : s.sleep due after = some (s', next))
    (before : test.inside = false) (inside : after.inside = false)
    (committed : after.committed = false) (testing : test.testing = true) :
    Advanced thread s test s' next := by
  simp only [State.sleep] at woken
  split at woken
  · cases woken
    exact .moved (by simp [before, inside]) (by simp [committed]) testing
  · cases woken

theorem advanced_of_advance (moved : s.advance thread test = some (s', next)) :
    Advanced thread s test s' next := by
  cases test with
  | begin =>
      cases moved
      exact .sent_message _ _ rfl (by simp [Test.committed]) (.inl rfl) (by simp [Test.testing])
  | choosing =>
      cases moved
      exact .moved rfl (by simp [Test.committed]) rfl
  | times r =>
      cases moved
      exact .moved (by split <;> rfl) (by split <;> simp [Test.committed]) rfl
  | running r =>
      cases moved
      exact .moved (by split <;> rfl) (by split <;> simp [Test.committed]) rfl
  | current r =>
      cases moved
      exact .assigned (.inr ⟨_, rfl⟩) rfl (by simp [Test.committed]) rfl
  | showing r =>
      cases moved
      exact .sent_message _ _ rfl (by simp [Test.committed]) (.inl rfl) (by simp [Test.testing])
  | entering r =>
      simp only [State.advance] at moved
      split at moved
      · rename_i free
        cases moved
        exact .entered free rfl rfl rfl
      · cases moved
  | checking r =>
      simp only [State.advance] at moved
      split at moved
      · cases moved
        exact .left rfl rfl rfl (by simp [Test.testing])
      · rename_i unforced
        cases moved
        exact .moved rfl (fun _ => .inr (by simpa using unforced)) rfl
  | removing r =>
      cases moved
      have moved : Advanced thread s (.removing r) s (.postingRemove r) :=
        .moved rfl (fun _ => .inl rfl) rfl
      exact { moved with updates := .inr ⟨rfl, rfl⟩ }
  | postingRemove r =>
      cases moved
      exact .sent_message _ _ rfl (fun _ => rfl) (.inr rfl) (by simp [Test.testing])
  | postingDelete r =>
      cases moved
      exact .sent_message _ _ rfl (fun _ => rfl) (.inr rfl) (by simp [Test.testing])
  | postingRequest r =>
      cases moved
      exact .sent_message _ _ rfl (fun _ => rfl) (.inr rfl) (by simp [Test.testing])
  | leaving r =>
      cases moved
      exact .left rfl rfl rfl (by simp [Test.testing])
  | interval r =>
      cases moved
      exact .moved (by split <;> rfl) (by split <;> simp [Test.committed]) rfl
  | counting r =>
      cases moved
      exact .moved rfl (by simp [Test.committed]) rfl
  | countdown r left =>
      cases moved
      exact .moved (by split <;> rfl) (by split <;> simp [Test.committed]) rfl
  | showingCountdown r left =>
      cases moved
      exact .sent_message _ _ rfl (by simp [Test.committed]) (.inl rfl) (by simp [Test.testing])
  | second r left due => exact .slept moved rfl rfl rfl rfl
  | counted r =>
      cases moved
      exact .moved (by split <;> rfl) (by split <;> simp [Test.committed]) rfl
  | showingZero r =>
      cases moved
      exact .sent_message _ _ rfl (by simp [Test.committed]) (.inl rfl) (by simp [Test.testing])
  | half r due => exact .slept moved rfl rfl rfl rfl
  | fix r =>
      cases moved
      exact .moved (by split <;> rfl) (by split <;> simp [Test.committed]) rfl
  | waitingFix r beginTime =>
      cases moved
      exact .moved (by split_ifs <;> rfl) (by split_ifs <;> simp [Test.committed]) rfl
  | exceeded r =>
      cases moved
      exact .sent_message _ _ rfl (by simp [Test.committed]) (.inl rfl) (by simp [Test.testing])
  | sleeping r due => exact .slept moved rfl rfl rfl rfl
  | lastSleep due => exact .slept moved rfl rfl rfl rfl
  | enteringLast =>
      simp only [State.advance] at moved
      split at moved
      · rename_i free
        cases moved
        exact .entered free rfl rfl rfl
      · cases moved
  | checkingLast =>
      simp only [State.advance] at moved
      split at moved
      · cases moved
        exact .left rfl rfl rfl (by simp [Test.testing])
      · rename_i unforced
        cases moved
        exact .moved rfl (fun _ => .inr (by simpa using unforced)) rfl
  | resetting done =>
      simp only [State.advance, Option.some.injEq] at moved
      split at moved
      · rename_i assignment found
        cases moved
        exact .assigned (.inl (List.mem_of_getElem? found)) rfl (fun _ => rfl) rfl
      · cases moved
        exact .sent_message _ _ rfl (fun _ => rfl) (.inl rfl) (by simp [Test.testing])
  | leavingLast =>
      cases moved
      exact .left rfl rfl rfl (by simp [Test.testing])
  | finishing =>
      cases moved
      exact .sent_message _ _ rfl (by simp [Test.committed]) (.inl rfl) (by simp [Test.testing])
  | ended => cases moved

end Threads

/-- What each kind of step needs and what it does. A callback begins when none is executed. -/
inductive Stepped (s : State) : Label → State → Prop
  | main {statement : Statement} {rest : List Statement} {s' : State} :
      s.main = statement :: rest → { s with main := rest }.exec statement = some s' →
      Stepped s .main s'
  | test {thread : Nat} {test next : Test} {s' : State} :
      s.tests[thread]? = some test → s.advance thread test = some (s', next) →
      Stepped s (.test thread) { s' with tests := s'.tests.set thread next }
  | tick : Stepped s .tick { s with clock := s.clock + 1 }
  | select (testType : Nat) : s.stage = .visible →
      Stepped s (.select testType) { s with mTestType := testType }
  | clickStart (times interval : Option Int) (need3DFix : Bool) : s.stage = .visible →
      s.main = [] → Stepped s (.clickStart times interval need3DFix)
        { s with main := .enableStart false :: startGPSAutoTest times interval need3DFix }
  | clickStop : s.stage = .visible → s.main = [] →
      Stepped s .clickStop { s with main := [.enableStop false, .ifStopNotPressed] }
  | clickRestart (button : RestartButton) : s.stage = .visible → s.main = [] →
      Stepped s (.clickRestart button) { s with main := [.ifNotTesting button] }
  | dispatch {due : Nat} {message : Message} {queue : List (Nat × Message)} :
      s.queue = (due, message) :: queue → s.main = [] →
      Stepped s .dispatch { s with queue := queue, main := handleMessage message }
  | firstFix : s.heard = true → s.main = [] →
      Stepped s .firstFix
        { s with main := if s.mRestarting then [] else [.assign (.firstFix true)] }
  | satelliteStatus (nmeaFixed : Bool) : s.heard = true → s.main = [] →
      Stepped s (.satelliteStatus nmeaFixed) { s with main := [.assign (.firstFix nmeaFixed)] }
  | onStop : s.stage = .visible → s.main = [] →
      Stepped s .onStop { s with stage := .stopped, main := onStop s.mIsRunInBg }
  | onRestart : s.stage = .stopped → s.main = [] →
      Stepped s .onRestart { s with stage := .visible, main := onRestart s.mIsRunInBg }
  | onDestroy : s.stage = .stopped → s.main = [] →
      Stepped s .onDestroy { s with stage := .destroyed, main := onDestroy }

section Callbacks

variable {s s' : State} {label : Label}

theorem eq_of_call {statements : List Statement} (called : s.call statements = some s') :
    s.main = [] ∧ s' = { s with main := statements } := by
  simp only [State.call] at called
  split at called
  · rename_i idle
    cases called
    exact ⟨idle, rfl⟩
  · cases called

theorem stepped_of_step (stepped : step s label = some s') : Stepped s label s' := by
  cases label with
  | main =>
      simp only [step, State.runMain] at stepped
      split at stepped
      · cases stepped
      · rename_i now
        exact .main now stepped
  | test thread =>
      simp only [step, State.runTest] at stepped
      split at stepped
      · cases stepped
      · rename_i test found
        simp only [Option.map_eq_some_iff] at stepped
        obtain ⟨⟨after, next⟩, moved, rfl⟩ := stepped
        exact .test found moved
  | tick =>
      cases stepped
      exact .tick
  | select testType =>
      simp only [step] at stepped
      split at stepped
      · rename_i enabled
        cases stepped
        exact .select testType enabled.1
      · cases stepped
  | clickStart times interval need3DFix =>
      simp only [step] at stepped
      split at stepped
      · rename_i enabled
        obtain ⟨idle, rfl⟩ := eq_of_call stepped
        exact .clickStart times interval need3DFix enabled.1 idle
      · cases stepped
  | clickStop =>
      simp only [step] at stepped
      split at stepped
      · rename_i enabled
        obtain ⟨idle, rfl⟩ := eq_of_call stepped
        exact .clickStop enabled.1 idle
      · cases stepped
  | clickRestart button =>
      simp only [step] at stepped
      split at stepped
      · rename_i enabled
        obtain ⟨idle, rfl⟩ := eq_of_call stepped
        exact .clickRestart button enabled.1 idle
      · cases stepped
  | dispatch =>
      simp only [step] at stepped
      split at stepped
      · cases stepped
      · rename_i ahead
        split at stepped
        · obtain ⟨idle, rfl⟩ := eq_of_call stepped
          exact .dispatch ahead idle
        · cases stepped
  | firstFix =>
      simp only [step] at stepped
      split at stepped
      · rename_i heard
        obtain ⟨idle, rfl⟩ := eq_of_call stepped
        exact .firstFix heard idle
      · cases stepped
  | satelliteStatus nmeaFixed =>
      simp only [step] at stepped
      split at stepped
      · rename_i heard
        obtain ⟨idle, rfl⟩ := eq_of_call stepped
        exact .satelliteStatus nmeaFixed heard idle
      · cases stepped
  | onStop =>
      simp only [step] at stepped
      split at stepped
      · rename_i stage
        obtain ⟨idle, rfl⟩ := eq_of_call stepped
        exact .onStop stage idle
      · cases stepped
  | onRestart =>
      simp only [step] at stepped
      split at stepped
      · rename_i stage
        obtain ⟨idle, rfl⟩ := eq_of_call stepped
        exact .onRestart stage idle
      · cases stepped
  | onDestroy =>
      simp only [step] at stepped
      split at stepped
      · rename_i stage
        obtain ⟨idle, rfl⟩ := eq_of_call stepped
        exact .onDestroy stage idle
      · cases stepped

theorem stage_exec {statement : Statement} (executed : s.exec statement = some s') :
    s'.stage = s.stage ∧ s'.mIsRunInBg = s.mIsRunInBg := by
  cases statement with
  | assign assignment =>
      cases executed
      cases assignment <;> exact ⟨rfl, rfl⟩
  | forceStop =>
      simp only [State.exec] at executed
      split at executed
      · cases executed
        exact ⟨rfl, rfl⟩
      · cases executed
  | send | removeMessages | removeUpdates | requestLocationUpdates | sendExtraCommand
  | removeNmeaParser | addSVUpdateListener | enableStart | enableStop | enableBtns
  | ifStartNotPressed | ifStopNotPressed | ifStartDisabled | ifNotTesting | startThread =>
      cases executed
      exact ⟨rfl, rfl⟩

end Callbacks

end X5MaxDevice.Ygps.AutoTest
