import X5MaxDevice.Base.Interference
import X5MaxDevice.Ygps.AutoTest

/-! While `mRestarting` is set, first fixes are ignored. It is reset when the location updates are
requested again, and a forced stop removes the message that does so. -/

namespace X5MaxDevice.Ygps.AutoTest

open X5MaxDevice.Interference
open X5MaxDevice.Transitions

def State.requested (s : State) : Bool :=
  s.queue.any fun entry => entry.2 = .requestUpdate

structure Restart where
  restarting : Bool
  requested : Bool

def State.restart (s : State) : Restart := ⟨s.mRestarting, s.requested⟩

def Statement.restarts : Statement → Restart → List Restart
  | .assign (.restarting value), r => [{ r with restarting := value }]
  | .send message _, r => [{ r with requested := r.requested || message = .requestUpdate }]
  | .removeMessages .requestUpdate, r => [{ r with requested := false }]
  | .ifNotTesting _, r => [r, ⟨true, true⟩]
  | _, r => [r]

/-- Between the callbacks, a restart has its request still before it. -/
def Restart.Pending (r : Restart) : Prop := r.restarting = true → r.requested = true

/-- Others only add requests. -/
def Restart.Grown (r r' : Restart) : Prop :=
  r'.restarting = r.restarting ∧ (r.requested = true → r'.requested = true)

abbrev Restarted (statements : List Statement) (r : Restart) : Prop :=
  Leads Statement.restarts (fun _ => True) Restart.Pending statements r

/-- Statements that neither end a restart nor send a request. -/
def Statement.idles : Statement → Bool
  | .assign (.restarting value) => value
  | .send message _ => message ≠ .requestUpdate
  | .ifNotTesting _ | .ifStartNotPressed | .startThread => false
  | _ => true

/-- Nothing under way will request the updates that the restart waits for. -/
structure Lost (s : State) : Prop where
  restarting : s.mRestarting = true
  requested : s.requested = false
  tests : ∀ test ∈ s.tests, test.testing = false
  main : ∀ statement ∈ s.main, statement.idles = true

/-- The buttons that begin a restart or a test. -/
def Label.begins : Label → Bool
  | .clickStart _ _ _ | .clickRestart _ => true
  | _ => false

/-- No stop is forced in the middle of a restart. -/
def Uncut (s : State) : Label → Prop
  | .onStop => s.mIsRunInBg = false → s.mRestarting = false
  | .onDestroy => s.mRestarting = false
  | _ => True

section Restarts

variable {s s' : State} {r r' : Restart}

theorem grown_harmless :
    Harmless Statement.restarts (fun _ => True) Restart.Pending Restart.Grown where
  kept := fun _ _ _ _ => trivial
  ended := by
    rintro r r' ⟨restarting, grown⟩ pending now
    exact grown (pending (restarting ▸ now))
  matched := by
    rintro statement r r' ⟨restarting, grown⟩ y' outcome
    cases statement with
    | assign assignment =>
        cases assignment with
        | restarting value =>
            obtain rfl : y' = _ := by simpa [Statement.restarts] using outcome
            exact ⟨_, List.mem_singleton.mpr rfl, rfl, grown⟩
        | need3DFix | totalTimes | currentTimes | testInterval | testRunning | clearForceStop
        | startPressed | stopPressed | firstFix =>
            obtain rfl : y' = r' := by simpa [Statement.restarts] using outcome
            exact ⟨r, by simp [Statement.restarts], restarting, grown⟩
    | send message delay =>
        obtain rfl : y' = _ := by simpa [Statement.restarts] using outcome
        refine ⟨_, List.mem_singleton.mpr rfl, restarting, ?_⟩
        simp only [Bool.or_eq_true]
        exact Or.imp_left grown
    | removeMessages what =>
        cases what with
        | requestUpdate =>
            obtain rfl : y' = _ := by simpa [Statement.restarts] using outcome
            exact ⟨_, List.mem_singleton.mpr rfl, restarting, id⟩
        | removeUpdate | deleteData =>
            obtain rfl : y' = r' := by simpa [Statement.restarts] using outcome
            exact ⟨r, by simp [Statement.restarts], restarting, grown⟩
    | ifNotTesting button =>
        simp only [Statement.restarts, List.mem_cons, List.not_mem_nil, or_false] at outcome
        rcases outcome with rfl | rfl
        · exact ⟨r, by simp [Statement.restarts], restarting, grown⟩
        · exact ⟨⟨true, true⟩, by simp [Statement.restarts], rfl, id⟩
    | forceStop | removeUpdates | requestLocationUpdates | sendExtraCommand | removeNmeaParser
    | addSVUpdateListener | enableStart | enableStop | enableBtns | ifStartNotPressed
    | ifStopNotPressed | ifStartDisabled | startThread =>
        obtain rfl : y' = r' := by simpa [Statement.restarts] using outcome
        exact ⟨r, by simp [Statement.restarts], restarting, grown⟩

theorem send_requested (message : Message) (delay : Nat) : (s.send message delay).requested =
    (s.requested || message = .requestUpdate) := by
  simp only [State.requested, State.send]
  rw [Bool.eq_iff_iff]
  simp only [List.any_eq_true, List.mem_orderedInsert, Bool.or_eq_true, decide_eq_true_eq]
  constructor
  · rintro ⟨entry, rfl | older, same⟩
    · exact .inr same
    · exact .inl ⟨entry, older, same⟩
  · rintro (⟨entry, older, same⟩ | same)
    · exact ⟨entry, .inr older, same⟩
    · exact ⟨_, .inl rfl, same⟩

theorem purged_requested (what : RestartStep) :
    (s.queue.filter fun entry => entry.2.restartStep ≠ some what).any
      (fun entry => entry.2 = .requestUpdate) =
      if what = .requestUpdate then false else s.requested := by
  simp only [State.requested]
  induction s.queue with
  | nil => simp
  | cons entry queue ih =>
      obtain ⟨due, message⟩ := entry
      rw [List.filter_cons]
      split
      · rename_i stays
        rw [List.any_cons, ih, List.any_cons]
        cases message <;> cases what <;> simp_all [Message.restartStep]
      · rename_i removed
        rw [ih, List.any_cons]
        cases message <;> cases what <;> simp_all [Message.restartStep]

theorem restarted_plain {statement : Statement}
    (restarted : Restarted (statement :: s.main) s.restart) (main : s'.main = s.main)
    (outcome : s'.restart ∈ statement.restarts s.restart) : Restarted s'.main s'.restart := by
  rw [main]
  exact restarted.2 _ outcome

theorem restarted_branch {statement : Statement} {front : List Statement}
    (restarted : Restarted (statement :: s.main) s.restart)
    (does : ∀ after : Restart → Prop, (∀ y ∈ statement.restarts s.restart, after y) →
      Leads Statement.restarts (fun _ => True) after front s.restart) :
    Restarted (s.branch front).main (s.branch front).restart :=
  restarted.branch does

theorem restarted_exec {statement : Statement}
    (restarted : Restarted (statement :: s.main) s.restart)
    (executed : s.exec statement = some s') : Restarted s'.main s'.restart := by
  cases statement with
  | assign assignment =>
      cases executed
      refine restarted_plain restarted ?_ ?_
      · cases assignment <;> rfl
      · cases assignment <;> exact List.mem_singleton.mpr rfl
  | forceStop =>
      simp only [State.exec] at executed
      split at executed
      · cases executed
        exact restarted_plain restarted rfl (List.mem_singleton.mpr rfl)
      · cases executed
  | send message delay =>
      cases executed
      refine restarted_plain restarted rfl ?_
      simp [Statement.restarts, State.restart, send_requested]
      rfl
  | removeMessages what =>
      cases executed
      refine restarted_plain restarted rfl ?_
      simp only [State.restart, State.requested, purged_requested]
      cases what <;> exact List.mem_singleton.mpr rfl
  | ifNotTesting button =>
      cases executed
      refine restarted_branch restarted ?_
      intro after outcome
      obtain ⟨stays, begins⟩ : after s.restart ∧ after ⟨true, true⟩ := by
        simpa [Statement.restarts] using outcome
      split
      · exact stays
      · simp [Leads, Statement.restarts, resetParamForRestart, begins]
  | ifStartNotPressed =>
      cases executed
      refine restarted_branch restarted ?_
      intro after outcome
      have ends : after s.restart := by simpa [Statement.restarts] using outcome
      split <;> simpa [Leads, Statement.restarts, setViewToStartState] using ends
  | ifStopNotPressed =>
      cases executed
      refine restarted_branch restarted ?_
      intro after outcome
      have ends : after s.restart := by simpa [Statement.restarts] using outcome
      split <;> simpa [Leads, Statement.restarts] using ends
  | ifStartDisabled =>
      cases executed
      refine restarted_branch restarted ?_
      intro after outcome
      have ends : after s.restart := by simpa [Statement.restarts] using outcome
      split <;> simpa [Leads, Statement.restarts] using ends
  | removeUpdates | requestLocationUpdates | sendExtraCommand | removeNmeaParser
  | addSVUpdateListener | enableStart | enableStop | enableBtns | startThread =>
      cases executed
      exact restarted_plain restarted rfl (List.mem_singleton.mpr rfl)

theorem restarted_handleMessage {message : Message}
    (pending : message ≠ .requestUpdate → r.Pending) : Restarted (handleMessage message) r := by
  cases message with
  | requestUpdate => simp [handleMessage, Leads, Statement.restarts, Restart.Pending]
  | startButtonUpdate enable =>
      refine leads_neutral ?_ trivial (pending (by simp))
      cases enable <;> simp [handleMessage, setViewToStopState, Statement.restarts]
  | setCurrentTimes | setCountdown | exceedPeriod | setParamReconnect | removeUpdate | deleteData
  | enableButton =>
      exact leads_neutral (by simp [handleMessage, Statement.restarts]) trivial (pending (by simp))

theorem restarted_onDestroy (gone : r.restarting = false) : Restarted onDestroy r := by
  simp [onDestroy, forceStopGpsAutoTest, resetTestParam, clearRestartMsgs, setViewToStopState,
    stopUpdates, Leads, Statement.restarts, Restart.Pending, gone]

theorem restarted_start (pending : r.Pending) (times interval : Option Int) (need3DFix : Bool) :
    Restarted (.enableStart false :: startGPSAutoTest times interval need3DFix) r := by
  apply leads_neutral _ trivial pending
  cases times with
  | none => simp [startGPSAutoTest, Statement.restarts]
  | some times =>
      simp only [startGPSAutoTest]
      split
      · simp [Statement.restarts]
      · cases interval with
        | none => simp [Statement.restarts]
        | some interval =>
            simp only
            split <;> simp [Statement.restarts]

end Restarts

section Runs

variable {s s' : State} {label : Label}

theorem grown_advance {thread : Nat} {test next : Test}
    (advanced : Advanced thread s test s' next) :
    s.restart.Grown ({ s' with tests := s'.tests.set thread next } : State).restart := by
  refine ⟨advanced.mRestarting, ?_⟩
  simp only [State.restart, State.requested, List.any_eq_true]
  rintro ⟨entry, member, same⟩
  exact ⟨entry, advanced.sent entry member, same⟩

theorem restarted_step (restarted : Restarted s.main s.restart) (uncut : Uncut s label)
    (stepped : step s label = some s') : Restarted s'.main s'.restart := by
  have pending : s.main = [] → s.restart.Pending := fun idle => by
    rw [idle] at restarted
    exact restarted
  cases stepped_of_step stepped with
  | @main statement rest _ now executed =>
      rw [now] at restarted
      exact restarted_exec (s := { s with main := rest }) restarted executed
  | test found moved =>
      have advanced := advanced_of_advance moved
      have grown := grown_harmless.leads restarted (grown_advance advanced)
      rw [← advanced.main] at grown
      exact grown
  | tick | select => exact restarted
  | clickStart times interval need3DFix seen idle =>
      exact restarted_start (pending idle) times interval need3DFix
  | clickRestart button seen idle =>
      have begins : Restart.Pending ⟨true, true⟩ := fun _ => rfl
      have pending := pending idle
      show Restarted [.ifNotTesting button] s.restart
      simp [Leads, Statement.restarts, pending, begins]
  | clickStop seen idle | satelliteStatus nmeaFixed heard idle =>
      exact leads_neutral (by simp [Statement.restarts]) trivial (pending idle)
  | @dispatch due message queue ahead idle =>
      apply restarted_handleMessage
      intro other now
      have requested : s.requested = true := pending idle now
      simpa [State.restart, State.requested, ahead, other] using requested
  | firstFix heard idle =>
      exact leads_neutral (by split <;> simp [Statement.restarts]) trivial (pending idle)
  | onStop stage idle =>
      show Restarted (onStop s.mIsRunInBg) s.restart
      simp only [onStop]
      split
      · exact pending idle
      · rename_i foreground
        exact restarted_onDestroy (uncut (by simpa using foreground))
  | onRestart stage idle =>
      refine leads_neutral ?_ trivial (pending idle)
      simp only [onRestart]
      split <;> simp [Statement.restarts]
  | onDestroy stage idle => exact restarted_onDestroy uncut

theorem pending_of_reaches {mIsRunInBg : Bool}
    (reached : ReachesWhere Uncut step (create mIsRunInBg) s) (idle : s.main = []) :
    s.restart.Pending := by
  have restarted : Restarted s.main s.restart :=
    reached.invariant (P := fun s => Restarted s.main s.restart) (by simp [create, Leads,
        Restart.Pending, State.restart])
      (fun _ _ _ restarted uncut stepped => restarted_step restarted uncut stepped)
  rw [idle] at restarted
  exact restarted

theorem Lost.exec {statement : Statement} {rest : List Statement} (lost : Lost s)
    (now : s.main = statement :: rest)
    (executed : { s with main := rest }.exec statement = some s') : Lost s' := by
  have idles : statement.idles = true := lost.main statement (by simp [now])
  have before : Lost { s with main := rest } :=
    { lost with main := fun other member => lost.main other (by simp [now, member]) }
  generalize { s with main := rest } = t at before executed
  cases statement with
  | assign assignment =>
      cases executed
      cases assignment with
      | restarting value => exact { before with restarting := idles }
      | need3DFix | totalTimes | currentTimes | testInterval | testRunning | clearForceStop
      | startPressed | stopPressed | firstFix => exact { before with }
  | forceStop =>
      simp only [State.exec] at executed
      split at executed
      · cases executed
        exact { before with }
      · cases executed
  | send message delay =>
      cases executed
      have other : message ≠ .requestUpdate := by simpa [Statement.idles] using idles
      exact { before with requested := by simp [send_requested, before.requested, other] }
  | removeMessages what =>
      cases executed
      refine { before with requested := (purged_requested what).trans ?_ }
      rw [before.requested]
      split <;> rfl
  | ifStopNotPressed =>
      cases executed
      refine { before with main := ?_ }
      intro other member
      rcases List.mem_append.mp member with front | behind
      · split at front
        · simp at front
        · simp only [List.mem_cons, List.not_mem_nil, or_false] at front
          rcases front with rfl | rfl <;> rfl
      · exact before.main other behind
  | ifStartDisabled =>
      cases executed
      refine { before with main := ?_ }
      intro other member
      rcases List.mem_append.mp member with front | behind
      · split at front
        · simp at front
        · simp only [List.mem_cons, List.not_mem_nil, or_false] at front
          rcases front with rfl | rfl | rfl <;> rfl
      · exact before.main other behind
  | ifNotTesting | ifStartNotPressed | startThread => simp [Statement.idles] at idles
  | removeUpdates | requestLocationUpdates | sendExtraCommand | removeNmeaParser
  | addSVUpdateListener | enableStart | enableStop | enableBtns =>
      cases executed
      exact { before with }

/-- A test that is over only lets the start button be enabled. -/
theorem Lost.advance {thread : Nat} {test next : Test} (lost : Lost s)
    (found : s.tests[thread]? = some test) (moved : s.advance thread test = some (s', next)) :
    Lost { s' with tests := s'.tests.set thread next } := by
  have gone : test.testing = false := lost.tests test (List.mem_of_getElem? found)
  have set_over : next.testing = false →
      ∀ other ∈ s.tests.set thread next, other.testing = false := by
    intro nextOver other member
    rcases List.mem_or_eq_of_mem_set member with old | rfl
    · exact lost.tests other old
    · exact nextOver
  cases test with
  | leavingLast =>
      cases moved
      exact { lost with tests := set_over rfl }
  | finishing =>
      cases moved
      have kept : (s.send (.startButtonUpdate true) 0).requested = false := by
        rw [send_requested, lost.requested]
        rfl
      exact { lost with requested := kept, tests := set_over rfl }
  | ended => cases moved
  | begin | choosing | times | running | current | showing | entering | checking | removing
  | postingRemove | postingDelete | postingRequest | leaving | interval | counting | countdown
  | showingCountdown | second | counted | showingZero | half | fix | waitingFix | exceeded
  | sleeping | lastSleep | enteringLast | checkingLast | resetting => simp [Test.testing] at gone

theorem idles_handleMessage {message : Message} (other : message ≠ .requestUpdate) :
    ∀ statement ∈ handleMessage message, statement.idles = true := by
  cases message with
  | startButtonUpdate enable =>
      cases enable <;> simp [handleMessage, setViewToStopState, Statement.idles]
  | requestUpdate => exact absurd rfl other
  | setCurrentTimes | setCountdown | exceedPeriod | setParamReconnect | removeUpdate | deleteData
  | enableButton => simp [handleMessage, Statement.idles]

theorem idles_onDestroy : ∀ statement ∈ onDestroy, statement.idles = true := by decide

theorem Lost.step (lost : Lost s) (other : label.begins = false)
    (stepped : AutoTest.step s label = some s') : Lost s' := by
  cases stepped_of_step stepped with
  | main now executed => exact lost.exec now executed
  | test found moved => exact lost.advance found moved
  | tick | select => exact { lost with }
  | clickStart | clickRestart => simp [Label.begins] at other
  | clickStop | satelliteStatus => exact { lost with main := by simp [Statement.idles] }
  | @dispatch due message queue ahead idle =>
      have none := lost.requested
      simp only [State.requested, ahead, List.any_cons, Bool.or_eq_false_iff,
        decide_eq_false_iff_not] at none
      exact { lost with requested := none.2, main := idles_handleMessage none.1 }
  | firstFix => exact { lost with main := by split <;> simp [Statement.idles] }
  | onStop =>
      refine { lost with main := ?_ }
      simp only [onStop]
      split
      · simp
      · exact idles_onDestroy
  | onRestart =>
      refine { lost with main := ?_ }
      simp only [onRestart]
      split <;> simp [Statement.idles]
  | onDestroy => exact { lost with main := idles_onDestroy }

/-- Where a restart is left without its request, a stop has been forced in the middle of it, and
first fixes are ignored until a restart or a test is begun. -/
theorem restart_lost {mIsRunInBg : Bool} {labels : List Label}
    (executed : run step (create mIsRunInBg) labels = some s) (idle : s.main = [])
    (restarting : s.mRestarting = true) (requested : s.requested = false) :
    (∃ before label after stopped, labels = before ++ label :: after ∧
      (label = .onStop ∨ label = .onDestroy) ∧
      run step (create mIsRunInBg) before = some stopped ∧ stopped.mRestarting = true) ∧
    ((∀ test ∈ s.tests, test.testing = false) →
      ∀ s', ReachesWhere (fun _ label => label.begins = false) step s s' →
        s'.mRestarting = true) := by
  constructor
  · rcases reachesWhere_or_refused Uncut labels executed with
      reached | ⟨before, label, after, stopped, split, ran, cut⟩
    · have pending := pending_of_reaches reached idle restarting
      simp [State.restart, requested] at pending
    · cases label with
      | onStop =>
          simp only [Uncut, Classical.not_imp, Bool.not_eq_false] at cut
          exact ⟨before, .onStop, after, stopped, split, .inl rfl, ran, cut.2⟩
      | onDestroy =>
          simp only [Uncut, Bool.not_eq_false] at cut
          exact ⟨before, .onDestroy, after, stopped, split, .inr rfl, ran, cut⟩
      | main | test | tick | select | clickStart | clickStop | clickRestart | dispatch | firstFix
      | satelliteStatus | onRestart => exact absurd trivial cut
  · intro gone s' later
    have lost : Lost s := ⟨restarting, requested, gone, by simp [idle]⟩
    exact (later.invariant lost fun _ _ _ lost other stepped => lost.step other stepped).restarting

end Runs

/-- The activity is left right after the button for a hot start. -/
def leftInRestart : List Label :=
  .clickRestart .hot :: List.replicate 8 .main ++ .onStop :: List.replicate 15 .main

def comeBack : List Label := .onRestart :: List.replicate 3 .main ++ [.firstFix]

theorem leftInRestart_lost : ∃ s s', run step (create false) leftInRestart = some s ∧
    run (guarded (fun _ label => label.begins = false) step) s comeBack = some s' ∧
    s'.listening = true ∧ s'.mFirstFix = false ∧ s'.mRestarting = true ∧
    ∃ before label after stopped, leftInRestart = before ++ label :: after ∧
      (label = .onStop ∨ label = .onDestroy) ∧
      run step (create false) before = some stopped ∧ stopped.mRestarting = true :=
  ⟨_, _, rfl, rfl, rfl, rfl,
    (restart_lost (show run step (create false) leftInRestart = some _ from rfl) rfl rfl rfl).2
      (fun _ member => absurd (show _ ∈ ([] : List Test) from member) List.not_mem_nil) _
      (reachesWhere_of_run comeBack rfl),
    (restart_lost (show run step (create false) leftInRestart = some _ from rfl) rfl rfl rfl).1⟩

end X5MaxDevice.Ygps.AutoTest
