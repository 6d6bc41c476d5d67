import X5MaxDevice.Base.History
import X5MaxDevice.Gps.Session

/-! The `M_START` condition: a start that passes it against the NMEA data that releases it. -/

namespace X5MaxDevice.Gps.StartHandshake

open X5MaxDevice.Gps.Session
open X5MaxDevice.History
open X5MaxDevice.Transitions

def requestSent : Event → Bool
  | .startSent => true
  | _ => false

/-- Data has arrived on `gps_fd` since mnld was last asked to start. -/
def Answered (log : List Event) : Prop := .gpsData ∈ since requestSent log

instance (log : List Event) : Decidable (Answered log) :=
  inferInstanceAs (Decidable (_ ∈ _))

/-- The start has passed its wait on `M_START`. -/
def Passed : Framework → Prop
  | .startCommand | .startEngineOn | .startSessionBegin | .startAcquire | .startClearStop
  | .startFlag => True
  | _ => False

instance (pc : Framework) : Decidable (Passed pc) :=
  decidable_of_iff (pc = .startCommand ∨ pc = .startEngineOn ∨ pc = .startSessionBegin ∨
    pc = .startAcquire ∨ pc = .startClearStop ∨ pc = .startFlag) (by cases pc <;> simp [Passed])

/-- A start that has passed its wait was answered by mnld. -/
def StartAnswered (s : State) : Prop := Passed s.framework → Answered s.log

/-- Data finds `flag_unlock` clear only while a start waits for it. -/
def DataReleasesStart (s : State) : Label → Prop
  | .serve .gpsData => s.flagUnlock = false → s.framework = .startCondition
  | _ => True

instance (s : State) : (label : Label) → Decidable (DataReleasesStart s label)
  | .serve .gpsData => inferInstanceAs (Decidable (_ → _))
  | .serve .control | .serve .mnlDie | .serve (.gpsIcon _) | .serve .epollError => isTrue trivial
  | .call _ | .openState _ | .framework _ | .handler => isTrue trivial

/-- The condition is set only for the start that waits on it, by data that answers it. -/
structure Invariant (s : State) : Prop where
  token : s.mStart = true → s.framework = .startCondition ∧ Answered s.log
  passed : StartAnswered s

theorem answered_snoc (log : List Event) (event : Event) :
    Answered (log ++ [event]) ↔ event = .gpsData ∨ requestSent event = false ∧ Answered log := by
  simp only [Answered, since_snoc]
  cases event <;> simp [requestSent]

/-- A step outside the protected part of a start that leaves the condition alone. -/
theorem Invariant.outside {s s' : State} (holds : Invariant s)
    (other : s.framework ≠ .startCondition) (condition : s'.mStart = s.mStart)
    (outside : ¬ Passed s'.framework) : Invariant s' := by
  constructor
  · intro set
    rw [condition] at set
    exact absurd (holds.token set).1 other
  · intro passed
    exact absurd passed outside

/-- A step of the HAL thread that leaves the condition alone. -/
theorem Invariant.elsewhere {s s' : State} (holds : Invariant s)
    (framework : s'.framework = s.framework) (condition : s'.mStart = s.mStart)
    (kept : Answered s.log → Answered s'.log) : Invariant s' := by
  constructor
  · intro set
    rw [condition] at set
    exact ⟨framework.trans (holds.token set).1, kept (holds.token set).2⟩
  · intro passed
    rw [framework] at passed
    exact kept (holds.passed passed)

theorem enter_invariant {s : State} (call : Call) (holds : Invariant s)
    (idle : s.framework = .idle) : Invariant (enter s call) := by
  have other : s.framework ≠ .startCondition := by simp [idle]
  cases call <;> cases inited : s.init <;> apply holds.outside other <;>
    simp [enter, State.record, State.return, State.goto, inited, Passed]

theorem gpsStateInit_invariant {s : State} (outcome : InitOutcome) (holds : Invariant s)
    (atOpen : s.framework = .initOpen) : Invariant (gpsStateInit s outcome) := by
  have other : s.framework ≠ .startCondition := by simp [atOpen]
  cases outcome <;> apply holds.outside other <;> simp [gpsStateInit, State.goto, Passed]

theorem frameworkStep_condition {s s' : State} {delivered : Bool}
    (other : s.framework ≠ .startCondition) (stepped : frameworkStep s delivered = some s') :
    s'.mStart = s.mStart := by
  cases pc : s.framework <;> simp only [frameworkStep, pc] at stepped <;>
    grind [State.record, State.return, State.goto, State.write]

/-- The protected part of a start is entered at the condition only. -/
theorem frameworkStep_passed {s s' : State} {delivered : Bool}
    (other : s.framework ≠ .startCondition) (stepped : frameworkStep s delivered = some s') :
    Passed s'.framework → Passed s.framework := by
  cases pc : s.framework <;> simp only [frameworkStep, pc] at stepped <;>
    grind [State.record, State.return, State.goto, State.write, Passed]

theorem frameworkStep_answered {s s' : State} {delivered : Bool} (passed : Passed s.framework)
    (answered : Answered s.log) (stepped : frameworkStep s delivered = some s') :
    Answered s'.log := by
  rw [frameworkStep_log stepped]
  cases pc : s.framework <;> simp only [pc, Passed] at passed <;>
    simp [logged, answered_snoc, requestSent, answered]

theorem frameworkStep_invariant {s s' : State} {delivered : Bool} (holds : Invariant s)
    (stepped : frameworkStep s delivered = some s') : Invariant s' := by
  by_cases waiting : s.framework = .startCondition
  · simp only [frameworkStep, waiting] at stepped
    split at stepped
    · rename_i set
      obtain rfl := Option.some.inj stepped
      exact ⟨fun still => (by cases still), fun _ => (holds.token set).2⟩
    · cases stepped
  · have condition := frameworkStep_condition waiting stepped
    constructor
    · intro set
      rw [condition] at set
      exact absurd (holds.token set).1 waiting
    · intro passed
      have before : Passed s.framework := frameworkStep_passed waiting stepped passed
      exact frameworkStep_answered before (holds.passed before) stepped

theorem gpsFdEvent_invariant {s : State} (holds : Invariant s)
    (releases : s.flagUnlock = false → s.framework = .startCondition) :
    Invariant (gpsFdEvent s) := by
  have answers : Answered (s.log ++ [.gpsData]) := (answered_snoc _ _).mpr (Or.inl rfl)
  cases unlocked : s.flagUnlock with
  | false =>
      simp only [gpsFdEvent, unlocked]
      exact ⟨fun _ => ⟨releases unlocked, answers⟩, fun _ => answers⟩
  | true =>
      simp only [gpsFdEvent, unlocked]
      exact holds.elsewhere rfl rfl (fun _ => answers)

theorem serve_invariant {s s' : State} {message : Message} (holds : Invariant s)
    (releases : DataReleasesStart s (.serve message)) (served : serve s message = some s') :
    Invariant s' := by
  by_cases data : message = .gpsData
  · subst data
    obtain rfl := Option.some.inj served
    exact gpsFdEvent_invariant holds releases
  · apply holds.elsewhere <;> cases message <;>
      grind [serve, controlEvent, mnlDie, gpsIcon, threadExit, answered_snoc, requestSent]

theorem handlerStep_invariant {s s' : State} (holds : Invariant s)
    (stepped : handlerStep s = some s') : Invariant s' := by
  apply holds.elsewhere <;> cases pc : s.handler <;> simp only [handlerStep, pc] at stepped <;>
    grind [answered_snoc, requestSent]

theorem step_invariant {s s' : State} {label : Label} (holds : Invariant s)
    (releases : DataReleasesStart s label) (stepped : step s label = some s') : Invariant s' := by
  rcases step_cases stepped with ⟨call, _, idle, rfl⟩ | ⟨outcome, _, atOpen, rfl⟩ |
    ⟨delivered, rfl, moved⟩ | ⟨message, rfl, idle, served⟩ | ⟨rfl, moved⟩
  · exact enter_invariant call holds idle
  · exact gpsStateInit_invariant outcome holds atOpen
  · exact frameworkStep_invariant holds moved
  · exact serve_invariant holds releases served
  · exact handlerStep_invariant holds moved

/-- In every run in which data finds `flag_unlock` clear only while a start waits for it, a
start that passes its wait was answered after its own request. -/
theorem releases_answer_start (s : State)
    (reached : ReachesWhere DataReleasesStart step initial s) : StartAnswered s := by
  have kept : Invariant s := by
    apply reached.invariant
    · exact ⟨fun set => (by cases set), fun passed => passed.elim⟩
    · intro s label s' holds releases stepped
      exact step_invariant holds releases stepped
  exact kept.passed

/-- The first start of an interface, right after its wait. -/
def answered : State :=
  { initial with
    init := true, flagUnlock := true
    handler := .idle, framework := .startCommand
    log := [.called .init, .returned .init (some 0), .called .start, .startSent, .gpsData] }

theorem first_start_answered : StartAnswered answered :=
  releases_answer_start answered
    (reachesWhere_of_run (initialise ++ [.call .start, .framework true, .framework true,
      .serve .gpsData, .framework true]) (by decide))

/-- Data that arrives after the daemon's death releases the condition for the next start. -/
theorem late_data_passes_next_start :
    ¬ ∀ s, Reaches step initial s → StartAnswered s := by
  intro answered
  have reached : Reaches step initial
      { ended with
        flagUnlock := true, framework := .startCommand
        log := ended.log ++ [.gpsData, .called .start, .startSent] } :=
    reaches_of_run (initialise ++ startSession ++ daemonDeath ++
      [.serve .gpsData, .call .start, .framework true, .framework true, .framework true])
      (by decide)
  have asked : Answered (ended.log ++ [.gpsData, .called .start, .startSent]) :=
    answered _ reached trivial
  revert asked
  decide

end X5MaxDevice.Gps.StartHandshake
