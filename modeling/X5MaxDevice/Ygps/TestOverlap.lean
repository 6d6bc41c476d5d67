import X5MaxDevice.Base.Interference
import X5MaxDevice.Ygps.AutoTest

/-! Two tests run at once only when a start is pressed while a test whose stop was forced is still
under way. -/

namespace X5MaxDevice.Ygps.AutoTest

open X5MaxDevice.Interference
open X5MaxDevice.Transitions

def State.testing (s : State) : Nat := s.tests.countP Test.testing

/-- A test is under way until the UI thread has handled the message that ends it. -/
def State.underWay (s : State) : Nat := s.testing + s.reconnects

/-- What the guard against a second test depends on. -/
structure Guard where
  underWay : Nat
  forced : Bool
  pressed : Bool

def State.guard (s : State) : Guard :=
  ⟨s.underWay, s.mIsForceStopGpsTest, s.mStartPressedHandling⟩

def Statement.guards : Statement → Guard → List Guard
  | .assign .clearForceStop, g => [{ g with forced := false }]
  | .assign (.startPressed value), g => [{ g with pressed := value }]
  | .forceStop, g => [{ g with forced := true }]
  | .send message _, g =>
      [{ g with underWay := g.underWay + (decide (message = .setParamReconnect)).toNat }]
  | .startThread, g => [{ g with underWay := g.underWay + 1 }]
  | .ifStartNotPressed, g =>
      if g.pressed then [g] else [{ g with underWay := g.underWay + 1, pressed := true }]
  | .ifStartDisabled, g => [g, { g with pressed := false }]
  | _, g => [g]

def Guard.Single (g : Guard) : Prop := g.underWay ≤ 1

/-- Between the callbacks, a test that is under way keeps the start button without effect. -/
def Guard.Closed (g : Guard) : Prop :=
  g.Single ∧ (g.underWay = 1 → g.forced = false → g.pressed = true)

/-- What a test thread does to the guard. -/
def Guard.Lowered (g g' : Guard) : Prop :=
  g'.underWay ≤ g.underWay ∧ g'.forced = g.forced ∧ g'.pressed = g.pressed

abbrev Guarded (statements : List Statement) (g : Guard) : Prop :=
  Leads Statement.guards Guard.Single Guard.Closed statements g

/-- After a forced stop, start is pressed only when no test is under way. -/
def Patient (s : State) : Label → Prop
  | .clickStart _ _ _ => s.mIsForceStopGpsTest = true → s.underWay = 0
  | _ => True

section Guards

variable {s s' : State} {g g' : Guard}

theorem lowered_harmless :
    Harmless Statement.guards Guard.Single Guard.Closed Guard.Lowered where
  kept := fun _ _ lowered single => lowered.1.trans single
  ended := by
    rintro g g' ⟨fewer, forced, pressed⟩ ⟨single, closed⟩
    refine ⟨fewer.trans single, ?_⟩
    intro one unforced
    rw [pressed]
    have single : g.underWay ≤ 1 := single
    exact closed (by omega) (forced ▸ unforced)
  matched := by
    rintro statement g g' ⟨fewer, forced, pressed⟩ y' outcome
    cases statement with
    | assign assignment =>
        cases assignment with
        | clearForceStop =>
            obtain rfl : y' = _ := by simpa [Statement.guards] using outcome
            exact ⟨_, List.mem_singleton.mpr rfl, fewer, rfl, pressed⟩
        | startPressed value =>
            obtain rfl : y' = _ := by simpa [Statement.guards] using outcome
            exact ⟨_, List.mem_singleton.mpr rfl, fewer, forced, rfl⟩
        | need3DFix | totalTimes | currentTimes | testInterval | testRunning | stopPressed
        | restarting | firstFix =>
            obtain rfl : y' = g' := by simpa [Statement.guards] using outcome
            exact ⟨g, by simp [Statement.guards], fewer, forced, pressed⟩
    | forceStop =>
        obtain rfl : y' = _ := by simpa [Statement.guards] using outcome
        exact ⟨_, List.mem_singleton.mpr rfl, fewer, rfl, pressed⟩
    | send message delay =>
        obtain rfl : y' = _ := by simpa [Statement.guards] using outcome
        exact ⟨_, List.mem_singleton.mpr rfl, Nat.add_le_add_right fewer _, forced, pressed⟩
    | startThread =>
        obtain rfl : y' = _ := by simpa [Statement.guards] using outcome
        exact ⟨_, List.mem_singleton.mpr rfl, Nat.add_le_add_right fewer _, forced, pressed⟩
    | ifStartNotPressed =>
        cases now : g.pressed with
        | true =>
            obtain rfl : y' = g' := by simpa [Statement.guards, pressed, now] using outcome
            exact ⟨g, by simp [Statement.guards, now], fewer, forced, pressed⟩
        | false =>
            obtain rfl : y' = ⟨g'.underWay + 1, g'.forced, true⟩ := by
              simpa [Statement.guards, pressed, now] using outcome
            exact ⟨⟨g.underWay + 1, g.forced, true⟩, by simp [Statement.guards, now],
              Nat.add_le_add_right fewer _, forced, rfl⟩
    | ifStartDisabled =>
        simp only [Statement.guards, List.mem_cons, List.not_mem_nil, or_false] at outcome
        rcases outcome with rfl | rfl
        · exact ⟨g, by simp [Statement.guards], fewer, forced, pressed⟩
        · exact ⟨{ g with pressed := false }, by simp [Statement.guards], fewer, forced, rfl⟩
    | removeMessages | removeUpdates | requestLocationUpdates | sendExtraCommand
    | removeNmeaParser | addSVUpdateListener | enableStart | enableStop | enableBtns
    | ifStopNotPressed | ifNotTesting =>
        obtain rfl : y' = g' := by simpa [Statement.guards] using outcome
        exact ⟨g, by simp [Statement.guards], fewer, forced, pressed⟩

theorem guarded_plain {statement : Statement}
    (guarded : Guarded (statement :: s.main) s.guard) (main : s'.main = s.main)
    (outcome : s'.guard ∈ statement.guards s.guard) : Guarded s'.main s'.guard := by
  rw [main]
  exact guarded.2 _ outcome

theorem guarded_branch {statement : Statement} {front : List Statement}
    (guarded : Guarded (statement :: s.main) s.guard)
    (does : ∀ after : Guard → Prop, (∀ y ∈ statement.guards s.guard, after y) →
      Leads Statement.guards Guard.Single after front s.guard) :
    Guarded (s.branch front).main (s.branch front).guard :=
  guarded.branch does

/-- The message that ends a test is none of those that a forced stop removes. -/
theorem reconnects_purged (queue : List (Nat × Message)) (what : RestartStep) :
    (queue.filter fun entry => entry.2.restartStep ≠ some what).countP
      (fun entry => entry.2 = .setParamReconnect) =
      queue.countP fun entry => entry.2 = .setParamReconnect := by
  rw [List.countP_filter]
  apply List.countP_congr
  rintro ⟨due, message⟩ -
  simp only [Bool.and_eq_true, decide_eq_true_eq]
  constructor
  · exact And.left
  · rintro rfl
    exact ⟨rfl, by simp [Message.restartStep]⟩

theorem guarded_exec {statement : Statement} (guarded : Guarded (statement :: s.main) s.guard)
    (executed : s.exec statement = some s') : Guarded s'.main s'.guard := by
  have single : s.guard.Single := guarded.1
  have few : s.underWay ≤ 1 := single
  cases statement with
  | assign assignment =>
      cases executed
      refine guarded_plain guarded ?_ ?_
      · cases assignment <;> rfl
      · cases assignment <;> exact List.mem_singleton.mpr rfl
  | forceStop =>
      simp only [State.exec] at executed
      split at executed
      · cases executed
        exact guarded_plain guarded rfl (List.mem_singleton.mpr rfl)
      · cases executed
  | send message delay =>
      cases executed
      refine guarded_plain guarded rfl ?_
      simp only [Statement.guards, List.mem_singleton, State.guard, State.underWay,
        send_reconnects]
      simp [State.send, State.testing, Nat.add_assoc]
  | startThread =>
      cases executed
      refine guarded_plain guarded rfl ?_
      simp [Statement.guards, State.guard, State.underWay, State.testing, State.reconnects,
        Test.testing, Nat.add_right_comm]
  | removeMessages what =>
      cases executed
      refine guarded_plain guarded rfl ?_
      simp only [Statement.guards, List.mem_singleton, State.guard, State.underWay,
        State.reconnects, reconnects_purged]
      rfl
  | ifStartNotPressed =>
      cases executed
      refine guarded_branch guarded ?_
      intro after outcome
      cases now : s.mStartPressedHandling with
      | true =>
          have ends : after s.guard := by simpa [Statement.guards, State.guard, now] using outcome
          simpa [Leads, Statement.guards, single] using ends
      | false =>
          have ends : after ⟨s.underWay + 1, s.mIsForceStopGpsTest, true⟩ := by
            simpa [Statement.guards, State.guard, now] using outcome
          simp [Leads, Statement.guards, setViewToStartState, Guard.Single, State.guard, few, ends]
  | ifStopNotPressed =>
      cases executed
      refine guarded_branch guarded ?_
      intro after outcome
      have ends : after s.guard := by simpa [Statement.guards] using outcome
      split <;> simp [Leads, Statement.guards, single, ends]
  | ifStartDisabled =>
      cases executed
      refine guarded_branch guarded ?_
      intro after outcome
      obtain ⟨ends, opens⟩ : after s.guard ∧ after { s.guard with pressed := false } := by
        simpa [Statement.guards] using outcome
      split
      · exact ends
      · simp only [State.guard] at opens
        simp [Leads, Statement.guards, Guard.Single, State.guard, few, opens]
  | ifNotTesting button =>
      cases executed
      refine guarded_branch guarded ?_
      intro after outcome
      have ends : after s.guard := by simpa [Statement.guards] using outcome
      split <;> simp [Leads, Statement.guards, resetParamForRestart, single, ends]
  | removeUpdates | requestLocationUpdates | sendExtraCommand | removeNmeaParser
  | addSVUpdateListener | enableStart | enableStop | enableBtns =>
      cases executed
      exact guarded_plain guarded rfl (List.mem_singleton.mpr rfl)

theorem guarded_start (closed : g.Closed) (patient : g.forced = true → g.underWay = 0)
    (times interval : Option Int) (need3DFix : Bool) :
    Guarded (.enableStart false :: startGPSAutoTest times interval need3DFix) g := by
  have single := closed.1
  have few : g.underWay ≤ 1 := single
  cases times with
  | none => simp [startGPSAutoTest, Leads, Statement.guards, single, closed]
  | some times =>
      simp only [startGPSAutoTest]
      split
      · simp [Leads, Statement.guards, single, closed]
      · cases interval with
        | none => simp [Leads, Statement.guards, single, closed]
        | some interval =>
            simp only
            split
            · simp [Leads, Statement.guards, single, closed]
            · cases now : g.pressed with
              | true =>
                  have ends : Guard.Closed ⟨g.underWay, false, true⟩ := ⟨single, fun _ _ => rfl⟩
                  simp [Leads, Statement.guards, Guard.Single, few, now, ends]
              | false =>
                  have none : g.underWay = 0 := by
                    cases forced : g.forced with
                    | true => exact patient forced
                    | false =>
                        have unlike : g.underWay ≠ 1 := by
                          intro one
                          have pressed := closed.2 one forced
                          rw [now] at pressed
                          cases pressed
                        omega
                  have ends : Guard.Closed ⟨g.underWay + 1, false, true⟩ :=
                    ⟨by simp [Guard.Single, none], fun _ _ => rfl⟩
                  simp [Leads, Statement.guards, Guard.Single, few, now, ends]

theorem guarded_handleMessage {message : Message} (closed : g.Closed)
    (last : message = .setParamReconnect → g.underWay = 0) :
    Guarded (handleMessage message) g := by
  have single := closed.1
  cases message with
  | setParamReconnect =>
      have none := last rfl
      have opens : Guard.Closed { g with pressed := false } :=
        ⟨single, fun one => absurd one (by simp [none])⟩
      simp [handleMessage, Leads, Statement.guards, single, closed, opens]
  | startButtonUpdate enable =>
      refine leads_neutral ?_ single closed
      cases enable <;> simp [handleMessage, setViewToStopState, Statement.guards]
  | setCurrentTimes | setCountdown | exceedPeriod | removeUpdate | deleteData | requestUpdate
  | enableButton => exact leads_neutral (by simp [handleMessage, Statement.guards]) single closed

theorem guarded_onDestroy (single : g.Single) : Guarded onDestroy g := by
  have few : g.underWay ≤ 1 := single
  have ends : Guard.Closed ⟨g.underWay, true, false⟩ := ⟨single, fun _ => by simp⟩
  simp [onDestroy, forceStopGpsAutoTest, resetTestParam, clearRestartMsgs, setViewToStopState,
    stopUpdates, Leads, Statement.guards, Guard.Single, few, ends]

end Guards

section Runs

variable {s s' : State} {label : Label}

theorem lowered_advance {thread : Nat} {test next : Test} (found : s.tests[thread]? = some test)
    (advanced : Advanced thread s test s' next) :
    s.guard.Lowered ({ s' with tests := s'.tests.set thread next } : State).guard := by
  obtain ⟨bound, here⟩ := List.getElem?_eq_some_iff.mp found
  have counted : (s.tests.set thread next).countP Test.testing + test.testing.toNat =
      s.tests.countP Test.testing + next.testing.toNat := by
    rw [List.countP_set bound, here]
    have positive : test.testing = true → 0 < s.tests.countP Test.testing := by
      intro testing
      exact List.countP_pos_iff.mpr ⟨test, List.mem_of_getElem? found, testing⟩
    cases now : test.testing with
    | true =>
        have := positive now
        cases next.testing <;> simp <;> omega
    | false => cases next.testing <;> simp
  refine ⟨?_, advanced.mIsForceStopGpsTest, advanced.mStartPressedHandling⟩
  have sent := advanced.reconnects
  simp only [State.guard, State.underWay, State.testing, State.reconnects, advanced.tests] at *
  omega

theorem guarded_step (guarded : Guarded s.main s.guard) (patient : Patient s label)
    (stepped : step s label = some s') : Guarded s'.main s'.guard := by
  have closed : s.main = [] → s.guard.Closed := fun idle => by
    rw [idle] at guarded
    exact guarded
  cases stepped_of_step stepped with
  | @main statement rest _ now executed =>
      rw [now] at guarded
      exact guarded_exec (s := { s with main := rest }) guarded executed
  | test found moved =>
      have advanced := advanced_of_advance moved
      have lowered := lowered_harmless.leads guarded (lowered_advance found advanced)
      rw [← advanced.main] at lowered
      exact lowered
  | tick | select => exact guarded
  | clickStart times interval need3DFix seen idle =>
      exact guarded_start (closed idle) patient times interval need3DFix
  | clickStop seen idle | clickRestart button seen idle | satelliteStatus nmeaFixed heard idle =>
      exact leads_neutral (by simp [Statement.guards]) (closed idle).1 (closed idle)
  | @dispatch due message queue ahead idle =>
      have popped : s.underWay = ({ s with queue := queue } : State).underWay +
          (decide (message = .setParamReconnect)).toNat := by
        simp only [State.underWay, State.reconnects, State.testing, ahead, List.countP_cons]
        cases decide (message = Message.setParamReconnect) <;> simp [Nat.add_assoc]
      have few : s.underWay ≤ 1 := (closed idle).1
      have lowered : s.guard.Lowered ({ s with queue := queue } : State).guard :=
        ⟨by simp only [State.guard]; omega, rfl, rfl⟩
      apply guarded_handleMessage (lowered_harmless.ended _ _ lowered (closed idle))
      rintro rfl
      simp only [decide_true, Bool.toNat_true] at popped
      show ({ s with queue := queue } : State).underWay = 0
      omega
  | firstFix heard idle =>
      exact leads_neutral (by split <;> simp [Statement.guards]) (closed idle).1 (closed idle)
  | onStop stage idle =>
      show Guarded (onStop s.mIsRunInBg) s.guard
      simp only [onStop]
      split
      · exact closed idle
      · exact guarded_onDestroy (closed idle).1
  | onRestart stage idle =>
      refine leads_neutral ?_ (closed idle).1 (closed idle)
      simp only [onRestart]
      split <;> simp [Statement.guards]
  | onDestroy stage idle => exact guarded_onDestroy (closed idle).1

theorem guarded_create (mIsRunInBg : Bool) :
    Guarded (create mIsRunInBg).main (create mIsRunInBg).guard := by
  refine ⟨?_, ?_⟩ <;> simp [create, State.guard, State.underWay, State.testing, State.reconnects,
    Guard.Single]

theorem testing_le_one {mIsRunInBg : Bool}
    (reached : ReachesWhere Patient step (create mIsRunInBg) s) : s.testing ≤ 1 := by
  have guarded : Guarded s.main s.guard :=
    reached.invariant (P := fun s => Guarded s.main s.guard) (guarded_create mIsRunInBg)
      (fun _ _ _ guarded patient stepped => guarded_step guarded patient stepped)
  have few : s.underWay ≤ 1 := guarded.now fun _ closed => closed.1
  exact (Nat.le_add_right _ _).trans few

/-- Where two test threads run their tests at once, start has been pressed after a forced stop
while a test was still under way. -/
theorem overlap_after_forced_stop {mIsRunInBg : Bool} {labels : List Label}
    (executed : run step (create mIsRunInBg) labels = some s) (overlap : 1 < s.testing) :
    ∃ before times interval need3DFix after stopped,
      labels = before ++ .clickStart times interval need3DFix :: after ∧
      run step (create mIsRunInBg) before = some stopped ∧
      stopped.mIsForceStopGpsTest = true ∧ 0 < stopped.underWay := by
  rcases reachesWhere_or_refused Patient labels executed with
    reached | ⟨before, label, after, stopped, split, ran, impatient⟩
  · exact absurd (testing_le_one reached) (by omega)
  · cases label with
    | clickStart times interval need3DFix =>
        simp only [Patient, Classical.not_imp] at impatient
        exact ⟨before, times, interval, need3DFix, after, stopped, split, ran, impatient.1,
          Nat.pos_of_ne_zero impatient.2⟩
    | main | test | tick | select | clickStop | clickRestart | dispatch | firstFix
    | satelliteStatus | onStop | onRestart | onDestroy => exact absurd trivial impatient

end Runs

/-- The thread of the stopped test goes on into the next one, and restarts the receiver there. -/
def pressedTooSoon : List Label :=
  .clickStart (some 1) (some 0) false :: List.replicate 11 .main ++ List.replicate 6 (.test 0) ++
    .onStop :: List.replicate 15 .main ++ .onRestart :: List.replicate 3 .main ++
    .clickStart (some 1) (some 0) false :: List.replicate 11 .main ++ List.replicate 7 (.test 0)

theorem pressedTooSoon_overlaps : ∃ s, run step (create false) pressedTooSoon = some s ∧
    s.tests = [.interval ⟨testExtras 0, 1⟩, .begin] ∧
    ∃ before times interval need3DFix after stopped,
      pressedTooSoon = before ++ .clickStart times interval need3DFix :: after ∧
      run step (create false) before = some stopped ∧
      stopped.mIsForceStopGpsTest = true ∧ 0 < stopped.underWay :=
  ⟨_, rfl, rfl, overlap_after_forced_stop
    (show run step (create false) pressedTooSoon = some _ from rfl) (show 1 < 2 by decide)⟩

end X5MaxDevice.Ygps.AutoTest
