import X5MaxDevice.Base.Transitions

/-! Sessions of the GPS interface: the framework thread in init, start, stop and cleanup,
interleaved with the HAL thread that serves control commands, NMEA data and mnld messages. -/

namespace X5MaxDevice.Gps.Session

inductive GpsStatus where
  | sessionBegin
  | sessionEnd
  | engineOn
  | engineOff
  deriving DecidableEq, Repr

inductive Call where
  | init
  | start
  | stop
  | cleanup
  deriving DecidableEq, Repr

/-- Bytes written to `control[0]`. -/
inductive ControlCommand where
  | quit
  | start
  | stop
  deriving DecidableEq, Repr

/-- Callbacks, messages delivered to mnld, NMEA arrivals and the bounds of framework calls. -/
inductive Event where
  | status (value : GpsStatus)
  | acquireWakelock
  | releaseWakelock
  | startSent
  | stopSent
  | cleanupSent
  | gpsData
  | called (call : Call)
  | returned (call : Call) (result : Option Int)
  deriving DecidableEq, Repr

/-- The operation that the framework thread executes next. -/
inductive Framework where
  | idle
  | initOpen
  | initFail
  | initWait
  | initFinish
  | startWait
  | startSend
  | startCondition
  | startCommand
  | startEngineOn
  | startSessionBegin
  | startAcquire
  | startClearStop
  | startFlag
  | stopWait
  | stopSend
  | stopCommand
  | cleanupSend
  | cleanupStartFlag
  | cleanupStop
  | cleanupClearStop
  | cleanupQuit
  | cleanupWait
  | cleanupThreadExit
  deriving DecidableEq, Repr

/-- The operation that the HAL thread executes next; it serves events when idle. -/
inductive Handler where
  | exited
  | idle
  | dieEngineOff
  | dieReleaseStop
  | dieReleaseWakelock
  | dieStartFlag
  | iconSessionBegin
  | iconSessionEnd
  deriving DecidableEq, Repr

/-- The flags of `GpsState`, `started`, `flag_unlock`, the conditions of `lock_for_sync`, the
unread control bytes, both threads and the log of what they did. -/
structure State where
  init : Bool
  startFlag : Bool
  started : Bool
  flagUnlock : Bool
  mStart : Bool
  mStop : Bool
  mCleanup : Bool
  mInit : Bool
  control : List ControlCommand
  framework : Framework
  handler : Handler
  log : List Event
  deriving DecidableEq, Repr

def initial : State :=
  ⟨false, false, false, false, false, false, false, false, [], .idle, .exited, []⟩

def State.record (s : State) (event : Event) : State := { s with log := s.log ++ [event] }

/-- How `gps_state_init` ends: no GPS device, a failure that runs `gps_state_done`, or a
thread that has released `M_INIT`. -/
inductive InitOutcome where
  | noHardware
  | failed
  | created
  deriving DecidableEq, Repr

/-- What `epoll_wait` reports to the HAL thread. -/
inductive Message where
  | control
  | gpsData
  | mnlDie
  | gpsIcon (status : Int)
  | epollError
  deriving DecidableEq, Repr

inductive Label where
  | call (call : Call)
  | openState (outcome : InitOutcome)
  | framework (delivered : Bool)
  | serve (message : Message)
  | handler
  deriving DecidableEq, Repr

def State.goto (s : State) (next : Framework) : State := { s with framework := next }

def State.return (s : State) (call : Call) (result : Option Int) : State :=
  { s with framework := .idle, log := s.log ++ [.returned call result] }

def enter (s : State) (call : Call) : State :=
  let s := s.record (.called call)
  match call with
  | .init => if s.init then s.return .init (some 0) else s.goto .initOpen
  | .start => if s.init then s.goto .startWait else s.return .start (some (-1))
  | .stop => if s.init then s.goto .stopWait else s.return .stop (some (-1))
  | .cleanup => s.goto .cleanupSend

def gpsStateInit (s : State) : InitOutcome → State
  | .noHardware => s.goto .initWait
  | .failed => s.goto .initFail
  | .created => { s with control := [], mInit := true, handler := .idle, framework := .initWait }

def State.write (s : State) (delivered : Bool) (command : ControlCommand) : State :=
  if delivered then { s with control := s.control ++ [command] } else s

/-- One operation of a framework call; waiting loops and conditions block. `delivered` tells
whether a message to mnld or a control byte gets through. The exit of the EPO thread, which
ends a cleanup, may come at any time. -/
def frameworkStep (s : State) (delivered : Bool) : Option State :=
  match s.framework with
  | .idle => none
  | .initOpen => none
  | .initFail =>
      if s.mCleanup then some { s with mCleanup := false, init := false, framework := .initWait }
      else none
  | .initWait => if s.mInit then some { s with mInit := false, framework := .initFinish } else none
  | .initFinish => some ({ s with init := true }.return .init (some 0))
  | .startWait => if s.startFlag then none else some (s.goto .startSend)
  | .startSend =>
      if delivered then some ((s.record .startSent).goto .startCondition)
      else some (s.return .start (some (-1)))
  | .startCondition =>
      if s.mStart then some { s with mStart := false, framework := .startCommand } else none
  | .startCommand => some ((s.write delivered .start).goto .startEngineOn)
  | .startEngineOn => some ((s.record (.status .engineOn)).goto .startSessionBegin)
  | .startSessionBegin => some ((s.record (.status .sessionBegin)).goto .startAcquire)
  | .startAcquire => some ((s.record .acquireWakelock).goto .startClearStop)
  | .startClearStop => some { s with mStop := false, framework := .startFlag }
  | .startFlag => some ({ s with startFlag := true }.return .start (some 0))
  | .stopWait => if s.startFlag then some (s.goto .stopSend) else none
  | .stopSend =>
      if delivered then some ((s.record .stopSent).goto .stopCommand)
      else some (s.return .stop (some (-1)))
  | .stopCommand => some ((s.write delivered .stop).return .stop (some 0))
  | .cleanupSend =>
      if delivered then some ((s.record .cleanupSent).goto .cleanupStartFlag)
      else some (s.goto .cleanupStartFlag)
  | .cleanupStartFlag =>
      if s.startFlag then some (s.goto .cleanupStop) else some (s.goto .cleanupClearStop)
  | .cleanupStop =>
      if s.mStop then some { s with mStop := false, framework := .cleanupClearStop } else none
  | .cleanupClearStop => some { s with mStop := false, framework := .cleanupQuit }
  | .cleanupQuit =>
      if s.init then some ((s.write delivered .quit).goto .cleanupWait)
      else some (s.goto .cleanupThreadExit)
  | .cleanupWait =>
      if s.mCleanup then
        some { s with mCleanup := false, control := [], init := false,
                      framework := .cleanupThreadExit }
      else none
  | .cleanupThreadExit => some (s.return .cleanup none)

def threadExit (s : State) : State := { s with mCleanup := true, handler := .exited }

def controlEvent (s : State) : Option State :=
  match s.control with
  | [] => none
  | .quit :: rest => some (threadExit { s with control := rest })
  | .start :: rest => some { s with control := rest, started := true }
  | .stop :: rest => some { s with control := rest, started := false }

/-- Data on `gps_fd`; the first data since `flag_unlock` was cleared releases `M_START`. -/
def gpsFdEvent (s : State) : State :=
  if s.flagUnlock then s.record .gpsData
  else { s with mStart := true, flagUnlock := true, log := s.log ++ [.gpsData] }

def mnlDie (s : State) : State :=
  { s with flagUnlock := false, handler := .dieEngineOff, log := s.log ++ [.status .sessionEnd] }

def gpsIcon (s : State) (status : Int) : State :=
  if s.started then s
  else if status = 1 then
    { s with handler := .iconSessionBegin, log := s.log ++ [.status .engineOn] }
  else if status = 0 then
    { s with handler := .iconSessionEnd, log := s.log ++ [.status .engineOff] }
  else s

def handlerStep (s : State) : Option State :=
  match s.handler with
  | .exited => none
  | .idle => none
  | .dieEngineOff => some { s with handler := .dieReleaseStop,
                                   log := s.log ++ [.status .engineOff] }
  | .dieReleaseStop => some { s with mStop := true, handler := .dieReleaseWakelock }
  | .dieReleaseWakelock => some { s with handler := .dieStartFlag,
                                         log := s.log ++ [.releaseWakelock] }
  | .dieStartFlag => some { s with startFlag := false, handler := .idle }
  | .iconSessionBegin => some { s with handler := .idle,
                                       log := s.log ++ [.status .sessionBegin] }
  | .iconSessionEnd => some { s with handler := .idle, log := s.log ++ [.status .sessionEnd] }

def serve (s : State) : Message → Option State
  | .control => controlEvent s
  | .gpsData => some (gpsFdEvent s)
  | .mnlDie => some (mnlDie s)
  | .gpsIcon status => some (gpsIcon s status)
  | .epollError => some (threadExit s)

def step (s : State) : Label → Option State
  | .call call => if s.framework = .idle then some (enter s call) else none
  | .openState outcome => if s.framework = .initOpen then some (gpsStateInit s outcome) else none
  | .framework delivered => frameworkStep s delivered
  | .serve message => if s.handler = .idle then serve s message else none
  | .handler => handlerStep s

/-- The framework thread is in a start and has left the loop on the start flag. -/
def Starting : Framework → Prop
  | .startSend | .startCondition | .startCommand | .startEngineOn | .startSessionBegin
  | .startAcquire | .startClearStop | .startFlag => True
  | _ => False

/-- The framework thread is in an init of an uninitialised interface. -/
def Opening : Framework → Prop
  | .initOpen | .initFail | .initWait | .initFinish => True
  | _ => False

/-- A HAL thread has been created and no cleanup has joined it yet. -/
def Connected (s : State) : Prop :=
  s.init = true ∨ s.framework = .initWait ∨ s.framework = .initFinish

/-- There is at most one HAL thread, and `M_CLEANUP` tells that it has exited. -/
structure Lifecycle (s : State) : Prop where
  exited : s.mCleanup = true → s.handler = .exited ∧ Connected s
  running : s.handler ≠ .exited → Connected s
  opening : Opening s.framework → s.init = false

theorem initial_lifecycle : Lifecycle initial := by
  constructor
  · intro cleaned
    cases cleaned
  · intro running
    exact absurd rfl running
  · intro opening
    cases opening

theorem Lifecycle.exited_at_open {s : State} (holds : Lifecycle s)
    (atOpen : s.framework = .initOpen) : s.handler = .exited := by
  have running := holds.running
  have opening := holds.opening
  grind [Opening, Connected]

theorem enter_lifecycle {s : State} (call : Call) (holds : Lifecycle s)
    (idle : s.framework = .idle) : Lifecycle (enter s call) := by
  have exited := holds.exited
  have running := holds.running
  cases call <;> constructor <;>
    grind [enter, State.record, State.return, State.goto, Opening, Connected]

theorem gpsStateInit_lifecycle {s : State} (outcome : InitOutcome) (holds : Lifecycle s)
    (atOpen : s.framework = .initOpen) : Lifecycle (gpsStateInit s outcome) := by
  have exited := holds.exited
  have running := holds.running
  have opening := holds.opening
  cases outcome <;> constructor <;> grind [gpsStateInit, State.goto, Opening, Connected]

section FrameworkStep

variable {s s' : State} {delivered : Bool}

theorem frameworkStep_exited (holds : Lifecycle s)
    (stepped : frameworkStep s delivered = some s') :
    s'.mCleanup = true → s'.handler = .exited ∧ Connected s' := by
  have exited := holds.exited
  have opening := holds.opening
  cases pc : s.framework <;> simp only [frameworkStep, pc] at stepped <;>
    grind [State.record, State.return, State.goto, State.write, Opening, Connected]

theorem frameworkStep_running (holds : Lifecycle s)
    (stepped : frameworkStep s delivered = some s') :
    s'.handler ≠ .exited → Connected s' := by
  have exited := holds.exited
  have running := holds.running
  cases pc : s.framework <;> simp only [frameworkStep, pc] at stepped <;>
    grind [State.record, State.return, State.goto, State.write, Connected]

theorem frameworkStep_opening (holds : Lifecycle s)
    (stepped : frameworkStep s delivered = some s') :
    Opening s'.framework → s'.init = false := by
  have opening := holds.opening
  cases pc : s.framework <;> simp only [frameworkStep, pc] at stepped <;>
    grind [State.record, State.return, State.goto, State.write, Opening]

/-- Only the steps of the HAL thread move the HAL thread. -/
theorem frameworkStep_handler (stepped : frameworkStep s delivered = some s') :
    s'.handler = s.handler := by
  cases pc : s.framework <;> simp only [frameworkStep, pc] at stepped <;>
    grind [State.record, State.return, State.goto, State.write]

theorem frameworkStep_startFlag (other : s.framework ≠ .startFlag)
    (stepped : frameworkStep s delivered = some s') : s'.startFlag = s.startFlag := by
  cases pc : s.framework <;> simp only [frameworkStep, pc] at stepped <;>
    grind [State.record, State.return, State.goto, State.write]

/-- A start enters its protected part when it has seen the start flag cleared. -/
theorem frameworkStep_waited (waited : Starting s.framework → s.startFlag = false)
    (stepped : frameworkStep s delivered = some s') :
    Starting s'.framework → s'.startFlag = false := by
  cases pc : s.framework <;> simp only [frameworkStep, pc] at stepped <;>
    grind [State.record, State.return, State.goto, State.write, Starting]

/-- What a framework operation adds to the log. -/
def logged (delivered : Bool) : Framework → List Event
  | .initFinish => [.returned .init (some 0)]
  | .startSend => if delivered then [.startSent] else [.returned .start (some (-1))]
  | .startEngineOn => [.status .engineOn]
  | .startSessionBegin => [.status .sessionBegin]
  | .startAcquire => [.acquireWakelock]
  | .startFlag => [.returned .start (some 0)]
  | .stopSend => if delivered then [.stopSent] else [.returned .stop (some (-1))]
  | .stopCommand => [.returned .stop (some 0)]
  | .cleanupSend => if delivered then [.cleanupSent] else []
  | .cleanupThreadExit => [.returned .cleanup none]
  | _ => []

theorem frameworkStep_log (stepped : frameworkStep s delivered = some s') :
    s'.log = s.log ++ logged delivered s.framework := by
  cases pc : s.framework <;> simp only [frameworkStep, pc] at stepped <;>
    grind [State.record, State.return, State.goto, State.write, logged]

theorem frameworkStep_lifecycle (holds : Lifecycle s)
    (stepped : frameworkStep s delivered = some s') : Lifecycle s' where
  exited := frameworkStep_exited holds stepped
  running := frameworkStep_running holds stepped
  opening := frameworkStep_opening holds stepped

end FrameworkStep

theorem serve_lifecycle {s s' : State} {message : Message} (holds : Lifecycle s)
    (idle : s.handler = .idle) (served : serve s message = some s') : Lifecycle s' := by
  have exited := holds.exited
  have running := holds.running
  have opening := holds.opening
  cases message <;> constructor <;>
    grind [serve, controlEvent, gpsFdEvent, mnlDie, gpsIcon, threadExit, State.record, Connected]

theorem handlerStep_lifecycle {s s' : State} (holds : Lifecycle s)
    (stepped : handlerStep s = some s') : Lifecycle s' := by
  have exited := holds.exited
  have running := holds.running
  have opening := holds.opening
  cases pc : s.handler <;> simp only [handlerStep, pc] at stepped <;> constructor <;>
    grind [Connected]

/-- What each kind of step does, with the thread that takes it. -/
theorem step_cases {s s' : State} {label : Label} (stepped : step s label = some s') :
    (∃ call, label = .call call ∧ s.framework = .idle ∧ s' = enter s call) ∨
      (∃ outcome, label = .openState outcome ∧ s.framework = .initOpen ∧
        s' = gpsStateInit s outcome) ∨
      (∃ delivered, label = .framework delivered ∧ frameworkStep s delivered = some s') ∨
      (∃ message, label = .serve message ∧ s.handler = .idle ∧ serve s message = some s') ∨
      (label = .handler ∧ handlerStep s = some s') := by
  cases label <;> grind [step]

theorem step_lifecycle {s s' : State} {label : Label} (holds : Lifecycle s)
    (stepped : step s label = some s') : Lifecycle s' := by
  rcases step_cases stepped with ⟨call, _, idle, rfl⟩ | ⟨outcome, _, atOpen, rfl⟩ |
    ⟨delivered, _, moved⟩ | ⟨message, _, idle, served⟩ | ⟨_, moved⟩
  · exact enter_lifecycle call holds idle
  · exact gpsStateInit_lifecycle outcome holds atOpen
  · exact frameworkStep_lifecycle holds moved
  · exact serve_lifecycle holds idle served
  · exact handlerStep_lifecycle holds moved

def initialise : List Label :=
  [.call .init, .openState .created, .framework true, .framework true]

def startSession : List Label :=
  [.call .start, .framework true, .framework true, .serve .gpsData] ++
    List.replicate 7 (.framework true) ++ [.serve .control]

def daemonDeath : List Label :=
  [.serve .mnlDie] ++ List.replicate 4 .handler

/-- One session from init to the death of the daemon. -/
def ended : State :=
  { initial with
    init := true, started := true, mStop := true
    handler := .idle
    log := [.called .init, .returned .init (some 0), .called .start, .startSent, .gpsData,
      .status .engineOn, .status .sessionBegin, .acquireWakelock, .returned .start (some 0),
      .status .sessionEnd, .status .engineOff, .releaseWakelock] }

end X5MaxDevice.Gps.Session
