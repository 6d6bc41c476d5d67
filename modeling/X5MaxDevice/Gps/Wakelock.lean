import X5MaxDevice.Base.Cycle
import X5MaxDevice.Gps.Session

/-! The wakelock callbacks over every interleaving of framework calls, NMEA data and
mnld messages. -/

namespace X5MaxDevice.Gps.Wakelock

open X5MaxDevice.Cycle
open X5MaxDevice.Gps.Session
open X5MaxDevice.Transitions

inductive WakelockCall where
  | acquire
  | release
  deriving DecidableEq, Repr

def wakelockCall : Event → Option WakelockCall
  | .acquireWakelock => some .acquire
  | .releaseWakelock => some .release
  | _ => none

def wakelockCalls (log : List Event) : List WakelockCall := log.filterMap wakelockCall

/-- Acquires and releases alternate, starting with an acquire. -/
def Alternating (log : List Event) : Prop :=
  PrefixOfRepetition [.acquire, .release] (wakelockCalls log)

/-- The daemon-death handler releases the wakelock only while the start flag is set. -/
def DeathDuringSession (s : State) : Label → Prop
  | .handler => s.handler = .dieReleaseWakelock → s.startFlag = true
  | _ => True

instance (s : State) : (label : Label) → Decidable (DeathDuringSession s label)
  | .handler => inferInstanceAs (Decidable (_ → _))
  | .call _ | .openState _ | .framework _ | .serve _ => isTrue trivial

/-- It has acquired the wakelock and not yet set the start flag. -/
def Acquired : Framework → Prop
  | .startClearStop | .startFlag => True
  | _ => False

instance (pc : Framework) : Decidable (Acquired pc) :=
  decidable_of_iff (pc = .startClearStop ∨ pc = .startFlag) (by cases pc <;> simp [Acquired])

/-- The wakelock is held. -/
def Held (s : State) : Prop :=
  Acquired s.framework ∨ s.startFlag = true ∧ s.handler ≠ .dieStartFlag

instance (s : State) : Decidable (Held s) := inferInstanceAs (Decidable (_ ∨ _))

structure Invariant (s : State) : Prop where
  waited : Starting s.framework → s.startFlag = false
  releasing : s.handler = .dieStartFlag → s.startFlag = true
  phase : AtPhase [.acquire, .release] (if Held s then 1 else 0) (wakelockCalls s.log)

theorem initial_invariant : Invariant initial := by
  constructor
  · intro starting
    rfl
  · intro releasing
    cases releasing
  · exact atPhase_nil _

/-- A step that neither touches the wakelock nor what decides whether it is held. -/
theorem Invariant.quiet {s s' : State} (holds : Invariant s)
    (waited : Starting s'.framework → s'.startFlag = false)
    (flag : s'.startFlag = s.startFlag) (handler : s'.handler = .dieStartFlag ↔ s.handler = .dieStartFlag)
    (acquired : Acquired s'.framework ↔ Acquired s.framework)
    (log : wakelockCalls s'.log = wakelockCalls s.log) : Invariant s' := by
  refine ⟨waited, fun releasing => ?_, ?_⟩
  · rw [flag]
    exact holds.releasing (handler.mp releasing)
  · have same : Held s' ↔ Held s := by simp only [Held, flag, handler, acquired, ne_eq]
    simpa only [same, log] using holds.phase

theorem Invariant.not_acquired {s : State} (holds : Invariant s) (set : s.startFlag = true) :
    ¬ Acquired s.framework := by
  intro acquired
  have starting : Starting s.framework := by
    revert acquired
    cases s.framework <;> simp [Acquired, Starting]
  rw [holds.waited starting] at set
  cases set

theorem enter_invariant {s : State} (call : Call) (holds : Invariant s)
    (idle : s.framework = .idle) : Invariant (enter s call) := by
  cases call <;> cases inited : s.init <;> apply holds.quiet <;>
    simp [enter, State.record, State.return, State.goto, inited, Starting, Acquired, idle,
      wakelockCalls, wakelockCall]

theorem gpsStateInit_invariant {s : State} (outcome : InitOutcome) (holds : Invariant s)
    (opening : s.framework = .initOpen) (exited : s.handler = .exited) :
    Invariant (gpsStateInit s outcome) := by
  cases outcome <;> apply holds.quiet <;>
    simp [gpsStateInit, State.goto, Starting, Acquired, opening, exited]

theorem wakelockCalls_append (log more : List Event) :
    wakelockCalls (log ++ more) = wakelockCalls log ++ wakelockCalls more :=
  List.filterMap_append

/-- Of the framework operations only the acquire calls back about the wakelock. -/
theorem wakelockCalls_logged {pc : Framework} (delivered : Bool) (other : pc ≠ .startAcquire) :
    wakelockCalls (logged delivered pc) = [] := by
  cases pc <;> cases delivered <;> first | rfl | exact absurd rfl other

theorem frameworkStep_acquired {s s' : State} {delivered : Bool}
    (acquire : s.framework ≠ .startAcquire) (finish : s.framework ≠ .startFlag)
    (stepped : frameworkStep s delivered = some s') :
    Acquired s'.framework ↔ Acquired s.framework := by
  cases pc : s.framework <;> simp only [frameworkStep, pc] at stepped <;>
    grind [State.record, State.return, State.goto, State.write, Acquired]

theorem frameworkStep_invariant {s s' : State} {delivered : Bool} (holds : Invariant s)
    (stepped : frameworkStep s delivered = some s') : Invariant s' := by
  have releasing := holds.releasing
  have phase := holds.phase
  have waited := frameworkStep_waited holds.waited stepped
  by_cases acquire : s.framework = .startAcquire
  · have cleared : s.startFlag = false := holds.waited (by simp [acquire, Starting])
    simp only [frameworkStep, acquire] at stepped
    obtain rfl := Option.some.inj stepped
    have free : ¬ Held s := by simp [Held, Acquired, acquire, cleared]
    rw [if_neg free] at phase
    refine ⟨waited, releasing, ?_⟩
    simpa [Held, Acquired, State.goto, State.record, wakelockCalls, wakelockCall]
      using phase.snoc rfl
  by_cases finish : s.framework = .startFlag
  · have cleared : s.startFlag = false := holds.waited (by simp [finish, Starting])
    have alive : s.handler ≠ .dieStartFlag := by
      intro dying
      simp [cleared] at releasing
      exact releasing dying
    simp only [frameworkStep, finish] at stepped
    obtain rfl := Option.some.inj stepped
    have held : Held s := by simp [Held, Acquired, finish]
    rw [if_pos held] at phase
    refine ⟨waited, fun _ => rfl, ?_⟩
    have quiet : wakelockCalls (s.log ++ [.returned .start (some 0)]) = wakelockCalls s.log := by
      simp [wakelockCalls, wakelockCall]
    simpa [Held, Acquired, State.return, alive, quiet] using phase
  · apply holds.quiet waited (frameworkStep_startFlag finish stepped)
    · rw [frameworkStep_handler stepped]
    · exact frameworkStep_acquired acquire finish stepped
    · rw [frameworkStep_log stepped, wakelockCalls_append, wakelockCalls_logged delivered acquire,
        List.append_nil]

theorem serve_invariant {s s' : State} {message : Message} (holds : Invariant s)
    (idle : s.handler = .idle) (served : serve s message = some s') : Invariant s' := by
  have waited := holds.waited
  cases message <;> apply holds.quiet <;>
    grind [serve, controlEvent, gpsFdEvent, mnlDie, gpsIcon, threadExit, State.record,
      wakelockCalls, wakelockCall]

/-- Only the two last operations of the daemon-death handler matter, and the release finds
the start flag set. -/
theorem handlerStep_invariant {s s' : State} (holds : Invariant s)
    (during : s.handler = .dieReleaseWakelock → s.startFlag = true)
    (stepped : handlerStep s = some s') : Invariant s' := by
  have waited := holds.waited
  have phase := holds.phase
  cases pc : s.handler <;> simp only [handlerStep, pc] at stepped
  case dieReleaseWakelock =>
    have set : s.startFlag = true := during pc
    have outside : ¬ Acquired s.framework := holds.not_acquired set
    obtain rfl := Option.some.inj stepped
    have held : Held s := by simp [Held, set, pc]
    rw [if_pos held] at phase
    refine ⟨waited, fun _ => set, ?_⟩
    have released : AtPhase [.acquire, .release] 2 (wakelockCalls s.log ++ [.release]) :=
      phase.snoc rfl
    simpa [Held, outside, wakelockCalls, wakelockCall] using released.wrap
  case dieStartFlag =>
    have set : s.startFlag = true := holds.releasing pc
    have outside : ¬ Acquired s.framework := holds.not_acquired set
    obtain rfl := Option.some.inj stepped
    have free : ¬ Held s := by simp [Held, outside, pc]
    rw [if_neg free] at phase
    refine ⟨fun _ => rfl, fun dying => absurd dying (by simp), ?_⟩
    simpa [Held, outside] using phase
  all_goals
    apply holds.quiet <;> grind [wakelockCalls, wakelockCall]

theorem step_invariant {s s' : State} {label : Label} (lifecycle : Lifecycle s)
    (holds : Invariant s) (during : DeathDuringSession s label)
    (stepped : step s label = some s') : Invariant s' := by
  rcases step_cases stepped with ⟨call, _, idle, rfl⟩ | ⟨outcome, _, atOpen, rfl⟩ |
    ⟨delivered, _, moved⟩ | ⟨message, _, idle, served⟩ | ⟨rfl, moved⟩
  · exact enter_invariant call holds idle
  · exact gpsStateInit_invariant outcome holds atOpen (lifecycle.exited_at_open atOpen)
  · exact frameworkStep_invariant holds moved
  · exact serve_invariant holds idle served
  · exact handlerStep_invariant holds during moved

/-- In every run in which the daemon-death handler releases the wakelock only while the start
flag is set, acquires and releases alternate. -/
theorem deaths_in_session_alternate (s : State)
    (reached : ReachesWhere DeathDuringSession step initial s) : Alternating s.log := by
  have kept : Lifecycle s ∧ Invariant s := by
    apply reached.invariant (P := fun s => Lifecycle s ∧ Invariant s)
      ⟨initial_lifecycle, initial_invariant⟩
    intro s label s' holds during stepped
    exact ⟨step_lifecycle holds.1 stepped, step_invariant holds.1 holds.2 during stepped⟩
  exact kept.2.phase.prefixOfRepetition

theorem session_then_death_alternates : Alternating ended.log :=
  deaths_in_session_alternate _
    (reachesWhere_of_run (initialise ++ startSession ++ daemonDeath) (by decide))

/-- The daemon dies before any session: the wakelock is released without an acquire. -/
theorem death_without_session_releases :
    ¬ ∀ s, Reaches step initial s → Alternating s.log := by
  intro alternates
  have reached : Reaches step initial
      { initial with
        init := true, mStop := true, handler := .idle
        log := [.called .init, .returned .init (some 0), .status .sessionEnd,
          .status .engineOff, .releaseWakelock] } :=
    reaches_of_run (initialise ++ daemonDeath) (by decide)
  have first : [WakelockCall.release][0]? = some WakelockCall.acquire :=
    (alternates _ reached).getElem?_eq (by decide) (by decide)
  revert first
  decide

end X5MaxDevice.Gps.Wakelock
