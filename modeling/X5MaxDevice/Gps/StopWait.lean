import X5MaxDevice.Base.History
import X5MaxDevice.Gps.Session

/-! The start flag that a stop waits for, against the daemon deaths that clear it. -/

namespace X5MaxDevice.Gps.StopWait

open X5MaxDevice.Gps.Session
open X5MaxDevice.History
open X5MaxDevice.Transitions

/-- A start that returned 0 opens a session, and the next stop closes it. -/
def sessionMark : Event → Option Bool
  | .returned .start result => if result = some 0 then some true else none
  | .called .stop => some false
  | _ => none

/-- A start has returned 0 and no stop has been called since. -/
def SessionOpen (log : List Event) : Prop := latest sessionMark log = some true

instance (log : List Event) : Decidable (SessionOpen log) :=
  inferInstanceAs (Decidable (_ = _))

/-- The framework stops only the session that a start has opened. -/
def StopAfterStart (s : State) : Label → Prop
  | .call .stop => SessionOpen s.log
  | _ => True

instance (s : State) : (label : Label) → Decidable (StopAfterStart s label)
  | .call .stop => inferInstanceAs (Decidable (SessionOpen s.log))
  | .call .init | .call .start | .call .cleanup => isTrue trivial
  | .openState _ | .framework _ | .serve _ | .handler => isTrue trivial

/-- The framework thread is in a start of an initialised interface. -/
def InStart (pc : Framework) : Prop := pc = .startWait ∨ Starting pc

instance (pc : Framework) : Decidable (InStart pc) :=
  decidable_of_iff (pc = .startWait ∨ pc = .startSend ∨ pc = .startCondition ∨
    pc = .startCommand ∨ pc = .startEngineOn ∨ pc = .startSessionBegin ∨ pc = .startAcquire ∨
    pc = .startClearStop ∨ pc = .startFlag) (by cases pc <;> simp [InStart, Starting])

/-- The death handler does not clear the start flag of an open session, unless a further
start is under way to set it again; such a start reaches mnld. -/
def SessionKept (s : State) : Label → Prop
  | .handler => s.handler = .dieStartFlag → SessionOpen s.log → InStart s.framework
  | .framework delivered => s.framework = .startSend → delivered = false → ¬ SessionOpen s.log
  | _ => True

instance (s : State) : (label : Label) → Decidable (SessionKept s label)
  | .handler => inferInstanceAs (Decidable (_ → _ → _))
  | .framework _ => inferInstanceAs (Decidable (_ → _ → _))
  | .call _ | .openState _ | .serve _ => isTrue trivial

/-- A stop that the framework may call now finds the start flag set. -/
def StopFindsSession (s : State) : Prop :=
  ∀ s', StopAfterStart s (.call .stop) → step s (.call .stop) = some s' → s.startFlag = true

/-- Between two starts an open session has its start flag set. -/
def FlagOfSession (s : State) : Prop :=
  SessionOpen s.log → ¬ InStart s.framework → s.startFlag = true

theorem sessionOpen_snoc (log : List Event) (event : Event) :
    SessionOpen (log ++ [event]) ↔
      sessionMark event = some true ∨ sessionMark event = none ∧ SessionOpen log := by
  simp only [SessionOpen, latest_snoc]
  cases sessionMark event <;> simp

theorem enter_flagOfSession {s : State} (call : Call) (holds : FlagOfSession s)
    (idle : s.framework = .idle) : FlagOfSession (enter s call) := by
  have between : ¬ InStart s.framework := by simp [idle, InStart, Starting]
  intro opened later
  cases call <;>
    grind [enter, State.record, State.return, State.goto, FlagOfSession, InStart,
      sessionOpen_snoc, sessionMark]

theorem gpsStateInit_flagOfSession {s : State} (outcome : InitOutcome) (holds : FlagOfSession s)
    (atOpen : s.framework = .initOpen) : FlagOfSession (gpsStateInit s outcome) := by
  have between : ¬ InStart s.framework := by simp [atOpen, InStart, Starting]
  cases outcome <;> exact fun opened _ => holds opened between

theorem frameworkStep_flagOfSession {s s' : State} {delivered : Bool} (holds : FlagOfSession s)
    (reaches : s.framework = .startSend → delivered = false → ¬ SessionOpen s.log)
    (stepped : frameworkStep s delivered = some s') : FlagOfSession s' := by
  by_cases finish : s.framework = .startFlag
  · simp only [frameworkStep, finish] at stepped
    obtain rfl := Option.some.inj stepped
    exact fun _ _ => rfl
  · have flag : s'.startFlag = s.startFlag := frameworkStep_startFlag finish stepped
    intro opened between
    rw [flag]
    rw [frameworkStep_log stepped] at opened
    cases pc : s.framework <;> simp only [frameworkStep, pc] at stepped <;>
      grind [State.record, State.return, State.goto, State.write, FlagOfSession, InStart, Starting,
        logged, sessionOpen_snoc, sessionMark]

theorem serve_flagOfSession {s s' : State} {message : Message} (holds : FlagOfSession s)
    (served : serve s message = some s') : FlagOfSession s' := by
  intro opened between
  cases message <;>
    grind [serve, controlEvent, gpsFdEvent, mnlDie, gpsIcon, threadExit, State.record,
      FlagOfSession, sessionOpen_snoc, sessionMark]

theorem handlerStep_flagOfSession {s s' : State} (holds : FlagOfSession s)
    (kept : s.handler = .dieStartFlag → SessionOpen s.log → InStart s.framework)
    (stepped : handlerStep s = some s') : FlagOfSession s' := by
  intro opened between
  cases pc : s.handler <;> simp only [handlerStep, pc] at stepped <;>
    grind [FlagOfSession, sessionOpen_snoc, sessionMark]

theorem step_flagOfSession {s s' : State} {label : Label} (holds : FlagOfSession s)
    (kept : SessionKept s label) (stepped : step s label = some s') : FlagOfSession s' := by
  rcases step_cases stepped with ⟨call, _, idle, rfl⟩ | ⟨outcome, _, atOpen, rfl⟩ |
    ⟨delivered, rfl, moved⟩ | ⟨message, _, idle, served⟩ | ⟨rfl, moved⟩
  · exact enter_flagOfSession call holds idle
  · exact gpsStateInit_flagOfSession outcome holds atOpen
  · exact frameworkStep_flagOfSession holds kept moved
  · exact serve_flagOfSession holds served
  · exact handlerStep_flagOfSession holds kept moved

theorem FlagOfSession.stopFindsSession {s : State} (holds : FlagOfSession s) :
    StopFindsSession s := by
  intro s' opened stepped
  simp only [step] at stepped
  split at stepped
  · rename_i idle
    exact holds opened (by simp [idle, InStart, Starting])
  · cases stepped

/-- In every run that stops only open sessions and whose daemon deaths leave open sessions
alone, every stop is entered with the start flag set. -/
theorem kept_sessions_stop (s : State)
    (reached : ReachesWhere (fun s label => StopAfterStart s label ∧ SessionKept s label) step
      initial s) : StopFindsSession s := by
  have kept : FlagOfSession s := by
    apply reached.invariant
    · intro opened
      cases opened
    · intro s label s' holds admitted stepped
      exact step_flagOfSession holds admitted.2 stepped
  exact kept.stopFindsSession

/-- One session from init to the return of the start. -/
def opened : State :=
  { initial with
    init := true, startFlag := true, started := true, flagUnlock := true
    handler := .idle
    log := [.called .init, .returned .init (some 0), .called .start, .startSent, .gpsData,
      .status .engineOn, .status .sessionBegin, .acquireWakelock, .returned .start (some 0)] }

theorem opened_session_stops : StopFindsSession opened :=
  kept_sessions_stop opened (reachesWhere_of_run (initialise ++ startSession) (by decide))

/-- The daemon dies in an open session, and the next stop waits for a flag that is clear. -/
theorem death_in_session_strands_stop :
    ¬ ∀ s, ReachesWhere StopAfterStart step initial s → StopFindsSession s := by
  intro finds
  have reached : ReachesWhere StopAfterStart step initial ended :=
    reachesWhere_of_run (initialise ++ startSession ++ daemonDeath) (by decide)
  have flag : ended.startFlag = true := finds ended reached _ (by decide) rfl
  cases flag

end X5MaxDevice.Gps.StopWait
