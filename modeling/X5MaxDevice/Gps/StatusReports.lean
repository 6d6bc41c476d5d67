import X5MaxDevice.Base.Cycle
import X5MaxDevice.Gps.Session

/-! The statuses reported through `status_cb` over every interleaving of framework calls,
NMEA data and mnld messages. -/

namespace X5MaxDevice.Gps.StatusReports

open X5MaxDevice.Cycle
open X5MaxDevice.Gps.Session
open X5MaxDevice.Transitions

def reportedStatus : Event → Option GpsStatus
  | .status value => some value
  | _ => none

def statuses (log : List Event) : List GpsStatus := log.filterMap reportedStatus

def sessionCycle : List GpsStatus := [.engineOn, .sessionBegin, .sessionEnd, .engineOff]

/-- Every session begins once, after the engine is on, and ends before the engine is off. -/
def Ordered (log : List Event) : Prop := PrefixOfRepetition sessionCycle (statuses log)

/-- The daemon's death is handled only while the start flag is set, and an icon message that
starts or stops only while `started` keeps it from being reported. -/
def ReportsInSession (s : State) : Label → Prop
  | .serve .mnlDie => s.startFlag = true
  | .serve (.gpsIcon status) => s.started = true ∨ status ≠ 0 ∧ status ≠ 1
  | _ => True

instance (s : State) : (label : Label) → Decidable (ReportsInSession s label)
  | .serve .mnlDie => inferInstanceAs (Decidable (_ = _))
  | .serve (.gpsIcon _) => inferInstanceAs (Decidable (_ ∨ _))
  | .serve .control | .serve .gpsData | .serve .epollError => isTrue trivial
  | .call _ | .openState _ | .framework _ | .handler => isTrue trivial

def Dying : Handler → Prop
  | .dieEngineOff | .dieReleaseStop | .dieReleaseWakelock | .dieStartFlag => True
  | _ => False

/-- Reports made in the current turn of the cycle once the start flag is set. -/
def dyingPhase : Handler → Nat
  | .dieEngineOff => 3
  | .dieReleaseStop | .dieReleaseWakelock | .dieStartFlag => 0
  | _ => 2

/-- Reports made in the current turn of the cycle. -/
def phase (s : State) : Nat :=
  match s.framework with
  | .startSessionBegin => 1
  | .startAcquire | .startClearStop | .startFlag => 2
  | _ => if s.startFlag then dyingPhase s.handler else 0

structure Invariant (s : State) : Prop where
  waited : Starting s.framework → s.startFlag = false
  dying : Dying s.handler → s.startFlag = true
  silent : s.handler ≠ .iconSessionBegin ∧ s.handler ≠ .iconSessionEnd
  phase : AtPhase sessionCycle (phase s) (statuses s.log)

theorem initial_invariant : Invariant initial := by
  constructor
  · intro starting
    rfl
  · intro dying
    cases dying
  · decide
  · exact atPhase_nil _

theorem Invariant.quiet {s s' : State} (holds : Invariant s)
    (waited : Starting s'.framework → s'.startFlag = false)
    (dying : Dying s'.handler → s'.startFlag = true)
    (silent : s'.handler ≠ .iconSessionBegin ∧ s'.handler ≠ .iconSessionEnd)
    (same : StatusReports.phase s' = StatusReports.phase s)
    (log : statuses s'.log = statuses s.log) : Invariant s' := by
  refine ⟨waited, dying, silent, ?_⟩
  rw [same, log]
  exact holds.phase

theorem Invariant.report {s s' : State} (holds : Invariant s) (value : GpsStatus)
    (waited : Starting s'.framework → s'.startFlag = false)
    (dying : Dying s'.handler → s'.startFlag = true)
    (silent : s'.handler ≠ .iconSessionBegin ∧ s'.handler ≠ .iconSessionEnd)
    (next : sessionCycle[StatusReports.phase s]? = some value)
    (turned : StatusReports.phase s' = (StatusReports.phase s + 1) % 4)
    (log : statuses s'.log = statuses s.log ++ [value]) : Invariant s' := by
  refine ⟨waited, dying, silent, ?_⟩
  have reported := holds.phase.snoc next
  have inside : StatusReports.phase s < 4 := (List.getElem?_eq_some_iff.mp next).1
  rw [turned, log]
  by_cases last : StatusReports.phase s = 3
  · rw [last] at reported ⊢
    exact reported.wrap
  · rw [Nat.mod_eq_of_lt (by omega)]
    exact reported

theorem enter_invariant {s : State} (call : Call) (holds : Invariant s)
    (idle : s.framework = .idle) : Invariant (enter s call) := by
  have dying := holds.dying
  have silent := holds.silent
  cases call <;> cases inited : s.init <;> apply holds.quiet <;>
    grind [enter, State.record, State.return, State.goto, Starting, phase, statuses,
      reportedStatus]

theorem gpsStateInit_invariant {s : State} (outcome : InitOutcome) (holds : Invariant s)
    (atOpen : s.framework = .initOpen) (exited : s.handler = .exited) :
    Invariant (gpsStateInit s outcome) := by
  cases outcome <;> apply holds.quiet <;>
    grind [gpsStateInit, State.goto, Starting, Dying, phase, dyingPhase]

theorem statuses_append (log more : List Event) :
    statuses (log ++ more) = statuses log ++ statuses more :=
  List.filterMap_append

/-- Of the framework operations only those of a start report a status. -/
theorem statuses_logged {pc : Framework} (delivered : Bool) (engine : pc ≠ .startEngineOn)
    (session : pc ≠ .startSessionBegin) : statuses (logged delivered pc) = [] := by
  cases pc <;> cases delivered <;> first | rfl | exact absurd rfl engine | exact absurd rfl session

/-- Outside the reports of a start the phase moves only with the HAL thread. -/
theorem frameworkStep_phase {s s' : State} {delivered : Bool} (holds : Invariant s)
    (engine : s.framework ≠ .startEngineOn) (session : s.framework ≠ .startSessionBegin)
    (stepped : frameworkStep s delivered = some s') : phase s' = phase s := by
  have waited := holds.waited
  have dying := holds.dying
  cases pc : s.framework <;> simp only [frameworkStep, pc] at stepped
  case startFlag =>
    have cleared : s.startFlag = false := waited (by simp [pc, Starting])
    have living : ¬ Dying s.handler := by simpa [cleared] using dying
    obtain rfl := Option.some.inj stepped
    revert living
    cases s.handler <;> simp [phase, pc, State.return, Dying, dyingPhase]
  all_goals
    grind [State.record, State.return, State.goto, State.write, Starting, phase]

theorem frameworkStep_dying {s s' : State} {delivered : Bool} (holds : Invariant s)
    (stepped : frameworkStep s delivered = some s') :
    Dying s'.handler → s'.startFlag = true := by
  intro dying
  rw [frameworkStep_handler stepped] at dying
  have set := holds.dying dying
  by_cases finish : s.framework = .startFlag
  · have cleared := holds.waited (by simp [finish, Starting])
    rw [cleared] at set
    cases set
  · rw [frameworkStep_startFlag finish stepped]
    exact set

theorem frameworkStep_invariant {s s' : State} {delivered : Bool} (holds : Invariant s)
    (stepped : frameworkStep s delivered = some s') : Invariant s' := by
  have waited := frameworkStep_waited holds.waited stepped
  have dying := frameworkStep_dying holds stepped
  have silent : s'.handler ≠ .iconSessionBegin ∧ s'.handler ≠ .iconSessionEnd := by
    rw [frameworkStep_handler stepped]
    exact holds.silent
  have log := frameworkStep_log stepped
  by_cases engine : s.framework = .startEngineOn
  · have cleared := holds.waited (by simp [engine, Starting])
    have before : phase s = 0 := by simp [phase, engine, cleared]
    have after : phase s' = 1 := by
      simp only [frameworkStep, engine] at stepped
      obtain rfl := Option.some.inj stepped
      rfl
    apply holds.report .engineOn waited dying silent
    · rw [before]
      rfl
    · rw [before, after]
    · rw [log, statuses_append, engine]
      rfl
  by_cases session : s.framework = .startSessionBegin
  · have before : phase s = 1 := by simp [phase, session]
    have after : phase s' = 2 := by
      simp only [frameworkStep, session] at stepped
      obtain rfl := Option.some.inj stepped
      rfl
    apply holds.report .sessionBegin waited dying silent
    · rw [before]
      rfl
    · rw [before, after]
    · rw [log, statuses_append, session]
      rfl
  · apply holds.quiet waited dying silent (frameworkStep_phase holds engine session stepped)
    rw [log, statuses_append, statuses_logged delivered engine session, List.append_nil]

theorem serve_invariant {s s' : State} {message : Message} (holds : Invariant s)
    (idle : s.handler = .idle) (during : ReportsInSession s (.serve message))
    (served : serve s message = some s') : Invariant s' := by
  have waited := holds.waited
  cases message with
  | mnlDie =>
      have set : s.startFlag = true := during
      obtain rfl := Option.some.inj served
      apply holds.report .sessionEnd <;>
        grind [mnlDie, Starting, phase, dyingPhase, sessionCycle, statuses, reportedStatus]
  | gpsIcon status =>
      have ignored : s' = s := by
        simp only [serve, gpsIcon, Option.some.injEq] at served
        grind [ReportsInSession]
      rw [ignored]
      exact holds
  | control =>
      apply holds.quiet <;> grind [serve, controlEvent, threadExit, Dying, phase, dyingPhase]
  | gpsData =>
      apply holds.quiet <;>
        grind [serve, gpsFdEvent, State.record, Dying, phase, dyingPhase, statuses, reportedStatus]
  | epollError =>
      apply holds.quiet <;> grind [serve, threadExit, Dying, phase, dyingPhase]

theorem handlerStep_invariant {s s' : State} (holds : Invariant s)
    (stepped : handlerStep s = some s') : Invariant s' := by
  have waited := holds.waited
  have dying := holds.dying
  have silent := holds.silent
  cases pc : s.handler <;> simp only [handlerStep, pc] at stepped
  case dieEngineOff =>
    apply holds.report .engineOff <;>
      grind [Starting, Dying, phase, dyingPhase, sessionCycle, statuses, reportedStatus]
  all_goals
    apply holds.quiet <;> grind [Starting, Dying, phase, dyingPhase, statuses, reportedStatus]

theorem step_invariant {s s' : State} {label : Label} (lifecycle : Lifecycle s)
    (holds : Invariant s) (during : ReportsInSession s label)
    (stepped : step s label = some s') : Invariant s' := by
  rcases step_cases stepped with ⟨call, _, idle, rfl⟩ | ⟨outcome, _, atOpen, rfl⟩ |
    ⟨delivered, _, moved⟩ | ⟨message, rfl, idle, served⟩ | ⟨_, moved⟩
  · exact enter_invariant call holds idle
  · exact gpsStateInit_invariant outcome holds atOpen (lifecycle.exited_at_open atOpen)
  · exact frameworkStep_invariant holds moved
  · exact serve_invariant holds idle during served
  · exact handlerStep_invariant holds moved

/-- In every run in which the daemon dies only while the start flag is set and icon messages
arrive only while `started` is set, the reports are ordered. -/
theorem reports_in_session_ordered (s : State)
    (reached : ReachesWhere ReportsInSession step initial s) : Ordered s.log := by
  have kept : Lifecycle s ∧ Invariant s := by
    apply reached.invariant (P := fun s => Lifecycle s ∧ Invariant s)
      ⟨initial_lifecycle, initial_invariant⟩
    intro s label s' holds during stepped
    exact ⟨step_lifecycle holds.1 stepped, step_invariant holds.1 holds.2 during stepped⟩
  exact kept.2.phase.prefixOfRepetition

theorem session_with_icon_ordered : Ordered ended.log :=
  reports_in_session_ordered _
    (reachesWhere_of_run
      (initialise ++ startSession ++ [.serve (.gpsIcon 1)] ++ daemonDeath) (by decide))

def iconSession : List Label :=
  [.serve (.gpsIcon 1), .handler, .serve (.gpsIcon 0), .handler]

/-- An icon session of mnld while no framework session runs ends in the wrong order. -/
theorem icon_stop_reports_engine_off_first : ¬ ∀ s, Reaches step initial s → Ordered s.log := by
  intro ordered
  have reached : Reaches step initial
      { initial with
        init := true, handler := .idle
        log := [.called .init, .returned .init (some 0), .status .engineOn,
          .status .sessionBegin, .status .engineOff, .status .sessionEnd] } :=
    reaches_of_run (initialise ++ iconSession) (by decide)
  have third : [GpsStatus.engineOn, .sessionBegin, .engineOff, .sessionEnd][2]? =
      sessionCycle[2]? :=
    (ordered _ reached).getElem?_eq (by decide) (by decide)
  revert third
  decide

end X5MaxDevice.Gps.StatusReports
