import X5MaxDevice.Ygps.AutoTest

/-! Once the activity is stopped or destroyed, no test thread and no message that is still under
way turns the location updates on again. -/

namespace X5MaxDevice.Ygps.AutoTest

open X5MaxDevice.Transitions

/-- The activity has called `forceStopGpsAutoTest` on its way here. -/
def State.Away (s : State) : Prop :=
  s.stage = .destroyed ∨ s.stage = .stopped ∧ s.mIsRunInBg = false

/-- Statements that neither allow nor begin a restart. -/
def Statement.quiet : Statement → Bool
  | .assign .clearForceStop | .requestLocationUpdates | .sendExtraCommand _ | .addSVUpdateListener
  | .ifNotTesting _ => false
  | .send message _ => message.restartStep.isNone
  | _ => true

/-- Only the thread that is inside has the monitor, and it goes on past the check only while no
stop is forced. -/
structure Locked (s : State) : Prop where
  inside : ∀ (thread : Nat) (test : Test), s.tests[thread]? = some test →
    (test.inside = true ↔ s.monitor = some thread)
  started : ∀ thread, s.monitor = some thread → thread < s.tests.length
  committed : ∀ (thread : Nat) (test : Test), s.tests[thread]? = some test →
    test.committed = true → s.mIsForceStopGpsTest = false

/-- A stop has been forced, and everything is off but for what the statements `todo` do. -/
structure Settling (todo : Statement → Prop) (s : State) : Prop where
  forced : s.mIsForceStopGpsTest = true
  purged : ∀ what, todo (.removeMessages what) ∨
    ∀ entry ∈ s.queue, entry.2.restartStep ≠ some what
  listening : todo .removeUpdates ∨ s.listening = false
  svUpdates : todo .removeNmeaParser ∨ s.svUpdates = false
  quiet : ∀ statement ∈ s.main, statement.quiet = true

section Monitor

variable {s s' : State}

theorem locked_create (mIsRunInBg : Bool) : Locked (create mIsRunInBg) where
  inside := by simp [create]
  started := by simp [create]
  committed := by simp [create]

theorem Locked.congr (locked : Locked s) (tests : s'.tests = s.tests)
    (monitor : s'.monitor = s.monitor)
    (flag : s'.mIsForceStopGpsTest = true → s.mIsForceStopGpsTest = true) : Locked s' where
  inside := by
    intro thread test found
    rw [monitor]
    exact locked.inside thread test (tests ▸ found)
  started := by
    intro thread holds
    rw [tests]
    exact locked.started thread (monitor ▸ holds)
  committed := by
    intro thread test found past
    have unforced := locked.committed thread test (tests ▸ found) past
    cases forced : s'.mIsForceStopGpsTest with
    | false => rfl
    | true => rw [flag forced] at unforced; cases unforced

/-- A thread that is past the check is inside. -/
theorem Test.inside_of_committed {test : Test} (past : test.committed = true) :
    test.inside = true := by
  cases test <;> simp_all [Test.committed, Test.inside]

theorem Locked.forceStop (locked : Locked s) (free : s.monitor = none) :
    Locked { s with mIsForceStopGpsTest := true } where
  inside := locked.inside
  started := locked.started
  committed := by
    intro thread test found past
    have holds := (locked.inside thread test found).mp (Test.inside_of_committed past)
    rw [free] at holds
    cases holds

theorem started_or_begin {tests : List Test} {thread : Nat} {test : Test}
    (found : (tests ++ [.begin])[thread]? = some test) :
    tests[thread]? = some test ∨ thread = tests.length ∧ test = .begin := by
  rw [List.getElem?_append] at found
  split at found
  · exact .inl found
  · rename_i beyond
    rw [List.getElem?_singleton] at found
    split at found
    · cases found
      exact .inr ⟨by omega, rfl⟩
    · cases found

theorem Locked.startThread (locked : Locked s) :
    Locked { s with tests := s.tests ++ [.begin] } where
  inside := by
    intro thread test found
    rcases started_or_begin found with old | ⟨rfl, rfl⟩
    · exact locked.inside thread test old
    · have free : s.monitor ≠ some s.tests.length := by
        intro holds
        exact absurd (locked.started _ holds) (lt_irrefl _)
      simp [Test.inside, free]
  started := by
    intro thread holds
    have bound := locked.started thread holds
    simp only [List.length_append, List.length_singleton]
    omega
  committed := by
    intro thread test found past
    rcases started_or_begin found with old | ⟨rfl, rfl⟩
    · exact locked.committed thread test old past
    · simp [Test.committed] at past

theorem Locked.exec {statement : Statement} (locked : Locked s)
    (executed : s.exec statement = some s') : Locked s' := by
  cases statement with
  | assign assignment =>
      cases executed
      exact locked.congr (by cases assignment <;> rfl) (by cases assignment <;> rfl)
        (by cases assignment <;> simp [State.assign])
  | forceStop =>
      simp only [State.exec] at executed
      split at executed
      · rename_i free
        cases executed
        exact locked.forceStop free
      · cases executed
  | startThread =>
      cases executed
      exact locked.startThread
  | send | removeMessages | removeUpdates | requestLocationUpdates | sendExtraCommand
  | removeNmeaParser | addSVUpdateListener | enableStart | enableStop | enableBtns
  | ifStartNotPressed | ifStopNotPressed | ifStartDisabled | ifNotTesting =>
      cases executed
      exact locked.congr rfl rfl id

theorem Locked.advance {thread : Nat} {test next : Test} (locked : Locked s)
    (found : s.tests[thread]? = some test) (advanced : Advanced thread s test s' next) :
    Locked { s' with tests := s'.tests.set thread next } where
  inside := by
    intro other now at_other
    rw [advanced.tests] at at_other
    have held := locked.inside thread test found
    by_cases same : thread = other
    · subst same
      rw [List.getElem?_set_self (List.getElem?_eq_some_iff.mp found).1] at at_other
      cases at_other
      rcases advanced.monitor with ⟨stays, monitor⟩ | ⟨enters, free, monitor⟩ | ⟨-, leaves, monitor⟩
      · rw [stays, monitor]
        exact held
      · simp [enters, monitor]
      · simp [leaves, monitor]
    · rw [List.getElem?_set_ne same] at at_other
      rw [locked.inside other now at_other]
      rcases advanced.monitor with ⟨-, monitor⟩ | ⟨-, free, monitor⟩ | ⟨was, -, monitor⟩
      · simp [monitor]
      · simp [monitor, free, same]
      · simp [monitor, held.mp was, same]
  started := by
    intro other holds
    rw [advanced.tests, List.length_set]
    rcases advanced.monitor with ⟨-, monitor⟩ | ⟨-, -, monitor⟩ | ⟨-, -, monitor⟩
    · exact locked.started other (monitor ▸ holds)
    · obtain rfl : thread = other := by simpa [monitor] using holds
      exact (List.getElem?_eq_some_iff.mp found).1
    · simp [monitor] at holds
  committed := by
    intro other now at_other past
    rw [advanced.tests] at at_other
    rw [advanced.mIsForceStopGpsTest]
    by_cases same : thread = other
    · subst same
      rw [List.getElem?_set_self (List.getElem?_eq_some_iff.mp found).1] at at_other
      cases at_other
      rcases advanced.committed past with before | unforced
      · exact locked.committed thread test found before
      · exact unforced
    · rw [List.getElem?_set_ne same] at at_other
      exact locked.committed other now at_other past

end Monitor

section Off

variable {s s' : State} {todo : Statement → Prop}

theorem Settling.mono {more : Statement → Prop} (settling : Settling todo s)
    (weaker : ∀ statement, todo statement → more statement) : Settling more s where
  forced := settling.forced
  purged := fun what => (settling.purged what).imp_left (weaker _)
  listening := settling.listening.imp_left (weaker _)
  svUpdates := settling.svUpdates.imp_left (weaker _)
  quiet := settling.quiet

/-- The change from `s` to `s'` turns nothing on and sends no restart. -/
structure Calm (s s' : State) : Prop where
  mIsForceStopGpsTest : s.mIsForceStopGpsTest = true → s'.mIsForceStopGpsTest = true
  queue : ∀ entry ∈ s'.queue, entry ∈ s.queue ∨ entry.2.restartStep = none
  listening : s.listening = false → s'.listening = false
  svUpdates : s.svUpdates = false → s'.svUpdates = false
  calls : s'.calls = s.calls ∨ s'.calls = s.calls ++ [.removed]

theorem Calm.refl (s : State) : Calm s s where
  mIsForceStopGpsTest := id
  queue := fun _ member => .inl member
  listening := id
  svUpdates := id
  calls := .inl rfl

theorem Settling.calm (settling : Settling todo s) (calm : Calm s s')
    (quiet : ∀ statement ∈ s'.main, statement.quiet = true) : Settling todo s' where
  forced := calm.mIsForceStopGpsTest settling.forced
  purged := by
    intro what
    rcases settling.purged what with todo | none
    · exact .inl todo
    · right
      intro entry member
      rcases calm.queue entry member with older | other
      · exact none entry older
      · simp [other]
  listening := settling.listening.imp_right calm.listening
  svUpdates := settling.svUpdates.imp_right calm.svUpdates
  quiet := quiet

/-- A quiet statement is calm, and the branch that it takes is quiet. -/
theorem calm_exec {statement : Statement} (quiet : statement.quiet = true)
    (executed : s.exec statement = some s') :
    Calm s s' ∧ ∃ branch, s'.main = branch ++ s.main ∧ ∀ other ∈ branch, other.quiet = true := by
  have frame := Calm.refl s
  cases statement with
  | assign assignment =>
      cases executed
      cases assignment with
      | clearForceStop => simp [Statement.quiet] at quiet
      | need3DFix | totalTimes | currentTimes | testInterval | testRunning | startPressed
      | stopPressed | restarting | firstFix => exact ⟨{ frame with }, [], rfl, by simp⟩
  | forceStop =>
      simp only [State.exec] at executed
      split at executed
      · cases executed
        exact ⟨{ frame with mIsForceStopGpsTest := fun _ => rfl }, [], rfl, by simp⟩
      · cases executed
  | send message delay =>
      cases executed
      have other : message.restartStep = none := by simpa [Statement.quiet] using quiet
      refine ⟨{ frame with queue := ?_ }, [], rfl, by simp⟩
      intro entry member
      rcases mem_send member with older | rfl
      · exact .inl older
      · exact .inr other
  | removeMessages what =>
      cases executed
      refine ⟨{ frame with queue := ?_ }, [], rfl, by simp⟩
      intro entry member
      exact .inl (List.mem_filter.mp member).1
  | removeUpdates =>
      cases executed
      exact ⟨{ frame with listening := fun _ => rfl, calls := .inr rfl }, [], rfl, by simp⟩
  | removeNmeaParser =>
      cases executed
      exact ⟨{ frame with svUpdates := fun _ => rfl }, [], rfl, by simp⟩
  | enableStart | enableStop | enableBtns | startThread =>
      cases executed
      exact ⟨{ frame with }, [], rfl, by simp⟩
  | ifStartNotPressed =>
      cases executed
      refine ⟨{ frame with }, _, rfl, ?_⟩
      split <;> simp [Statement.quiet, setViewToStartState]
  | ifStopNotPressed =>
      cases executed
      refine ⟨{ frame with }, _, rfl, ?_⟩
      split <;> simp [Statement.quiet]
  | ifStartDisabled =>
      cases executed
      refine ⟨{ frame with }, _, rfl, ?_⟩
      split <;> simp [Statement.quiet, Message.restartStep]
  | requestLocationUpdates | sendExtraCommand | addSVUpdateListener | ifNotTesting =>
      simp [Statement.quiet] at quiet

/-- What is left to do when a statement has been executed. -/
theorem Settling.exec {statement : Statement} {rest : List Statement}
    (settling : Settling todo s) (now : s.main = statement :: rest)
    (executed : { s with main := rest }.exec statement = some s') :
    Settling (fun other => todo other ∧ other ≠ statement) s' ∧
      (s'.calls = s.calls ∨ s'.calls = s.calls ++ [.removed]) := by
  have quiet : ∀ other ∈ statement :: rest, other.quiet = true := now ▸ settling.quiet
  obtain ⟨calm, branch, main, quietBranch⟩ := calm_exec (quiet _ (by simp)) executed
  have after : Settling todo s' := by
    apply Settling.calm (s := { s with main := rest }) _ calm
    · rw [main]
      intro other member
      rcases List.mem_append.mp member with inside | behind
      · exact quietBranch other inside
      · exact quiet other (by simp [behind])
    · exact { settling with quiet := fun other member => quiet other (by simp [member]) }
  refine ⟨{ after with purged := ?_, listening := ?_, svUpdates := ?_ }, calm.calls⟩
  · intro what
    by_cases this : Statement.removeMessages what = statement
    · subst this
      cases executed
      right
      intro entry member
      simpa using (List.mem_filter.mp member).2
    · exact (after.purged what).imp_left fun todo => ⟨todo, this⟩
  · by_cases this : Statement.removeUpdates = statement
    · subst this
      cases executed
      exact .inr rfl
    · exact after.listening.imp_left fun todo => ⟨todo, this⟩
  · by_cases this : Statement.removeNmeaParser = statement
    · subst this
      cases executed
      exact .inr rfl
    · exact after.svUpdates.imp_left fun todo => ⟨todo, this⟩

/-- While a stop is forced, no thread is past its check. -/
theorem Settling.advance {thread : Nat} {test next : Test} (settling : Settling todo s)
    (locked : Locked s) (found : s.tests[thread]? = some test)
    (advanced : Advanced thread s test s' next) :
    Settling todo { s' with tests := s'.tests.set thread next } ∧
      (s'.calls = s.calls ∨ s'.calls = s.calls ++ [.removed]) := by
  have early : test.committed = false := by
    by_contra past
    have unforced := locked.committed thread test found (by simpa using past)
    rw [settling.forced] at unforced
    cases unforced
  have calls : s'.calls = s.calls ∨ s'.calls = s.calls ++ [.removed] := by
    rcases advanced.updates with ⟨-, calls⟩ | ⟨-, calls⟩
    · exact .inl calls
    · exact .inr calls
  have calm : Calm s { s' with tests := s'.tests.set thread next } := {
    mIsForceStopGpsTest := advanced.mIsForceStopGpsTest ▸ id
    queue := by
      intro entry member
      rcases advanced.queue entry member with older | other | past
      · exact .inl older
      · exact .inr other
      · rw [early] at past
        cases past
    listening := by
      intro off
      rcases advanced.updates with ⟨listening, -⟩ | ⟨listening, -⟩
      · exact listening.trans off
      · exact listening
    svUpdates := fun off => advanced.svUpdates.trans off
    calls := calls }
  exact ⟨settling.calm calm (by rw [advanced.main]; exact settling.quiet), calls⟩

theorem quiet_handleMessage {message : Message} (other : message.restartStep = none) :
    ∀ statement ∈ handleMessage message, statement.quiet = true := by
  cases message with
  | setCurrentTimes | setCountdown | exceedPeriod | setParamReconnect | enableButton =>
      simp [handleMessage, Statement.quiet]
  | startButtonUpdate enable =>
      cases enable <;> simp [handleMessage, setViewToStopState, Statement.quiet]
  | removeUpdate | deleteData | requestUpdate => simp [Message.restartStep] at other

theorem quiet_onDestroy : ∀ statement ∈ onDestroy, statement.quiet = true := by decide

/-- The next callback begins when nothing is left to do. -/
theorem Settling.idle (settling : Settling (· ∈ s.main) s) (idle : s.main = []) :
    Settling (fun _ => False) s :=
  settling.mono (by simp [idle])

theorem State.Away.unseen (away : s.Away) : s.stage ≠ .visible := by
  rcases away with gone | ⟨stopped, -⟩
  · simp [gone]
  · simp [stopped]

theorem State.Away.deaf (away : s.Away) : s.heard = false := by
  rcases away with gone | ⟨stopped, foreground⟩
  · simp [State.heard, gone]
  · simp [State.heard, stopped, foreground]

theorem State.Away.congr (away : s.Away) (stage : s'.stage = s.stage)
    (background : s'.mIsRunInBg = s.mIsRunInBg) : s'.Away := by
  simpa [State.Away, stage, background] using away

/-- The steps while the activity is away, but for those of the callback itself. -/
theorem Settling.step {label : Label} (settling : Settling todo s) (locked : Locked s)
    (away : s.Away) (idle : s.main = [] → ∀ statement, ¬todo statement)
    (stepped : AutoTest.step s label = some s') (between : label ≠ .main)
    (stays : label ≠ .onRestart) :
    s'.Away ∧ Settling todo s' ∧ (s.main = [] ∨ s'.main = s.main) ∧
      (s'.calls = s.calls ∨ s'.calls = s.calls ++ [.removed]) := by
  cases stepped_of_step stepped with
  | main => exact absurd rfl between
  | test found moved =>
      have advanced := advanced_of_advance moved
      obtain ⟨settled, calls⟩ := settling.advance locked found advanced
      exact ⟨away.congr advanced.stage advanced.mIsRunInBg, settled, .inr advanced.main, calls⟩
  | tick => exact ⟨away, { settling with }, .inr rfl, .inl rfl⟩
  | select _ seen | clickStart _ _ _ seen | clickStop seen | clickRestart _ seen =>
      exact absurd seen away.unseen
  | firstFix heard | satelliteStatus _ heard => simp [away.deaf] at heard
  | @dispatch due message queue ahead gone =>
      have none : message.restartStep = none := by
        by_contra restarts
        obtain ⟨what, restarts⟩ := Option.ne_none_iff_exists'.mp restarts
        rcases settling.purged what with todo | purged
        · exact idle gone _ todo
        · exact purged (due, message) (by simp [ahead]) restarts
      have popped : Settling todo { s with queue := queue, main := handleMessage message } := {
        settling with
        purged := fun what => (settling.purged what).imp_right fun purged entry member =>
          purged entry (by simp [ahead, member])
        quiet := quiet_handleMessage none }
      exact ⟨away, popped, .inl gone, .inl rfl⟩
  | onStop seen => exact absurd seen away.unseen
  | onRestart => exact absurd rfl stays
  | onDestroy _ gone =>
      exact ⟨.inl rfl, { settling with quiet := quiet_onDestroy }, .inl gone, .inl rfl⟩

end Off

section Runs

variable {s s' : State} {label : Label}

theorem Locked.step (locked : Locked s) (stepped : AutoTest.step s label = some s') :
    Locked s' := by
  cases stepped_of_step stepped with
  | @main statement rest _ now executed =>
      have before : Locked { s with main := rest } := locked.congr rfl rfl id
      exact before.exec executed
  | test found moved => exact locked.advance found (advanced_of_advance moved)
  | tick | select | clickStart | clickStop | clickRestart | dispatch | firstFix | satelliteStatus
  | onStop | onRestart | onDestroy => exact locked.congr rfl rfl id

/-- A callback that closes has not begun, or leaves nothing on but what it has still to do. -/
def Closes (s : State) : Prop :=
  s.Away → s.main = onDestroy ∨ Settling (· ∈ s.main) s

theorem todo_onDestroy : (∀ what, Statement.removeMessages what ∈ onDestroy.tail) ∧
    .removeUpdates ∈ onDestroy.tail ∧ .removeNmeaParser ∈ onDestroy.tail := by
  refine ⟨?_, by decide, by decide⟩
  intro what
  cases what <;> decide

/-- The first statement of the callback forces the stop. -/
theorem settling_onDestroy {statement : Statement} {rest : List Statement}
    (begins : onDestroy = statement :: rest)
    (executed : { s with main := rest }.exec statement = some s') :
    Settling (· ∈ s'.main) s' := by
  obtain ⟨messages, updates, parser⟩ := todo_onDestroy
  obtain ⟨rfl, rfl⟩ : .forceStop = statement ∧ onDestroy.tail = rest :=
    List.cons_eq_cons.mp begins
  simp only [State.exec] at executed
  split at executed
  · cases executed
    exact {
      forced := rfl
      purged := fun what => .inl (messages what)
      listening := .inl updates
      svUpdates := .inl parser
      quiet := fun statement member => quiet_onDestroy statement (List.mem_of_mem_tail member) }
  · cases executed

theorem closes_exec {statement : Statement} {rest : List Statement} (closes : Closes s)
    (now : s.main = statement :: rest)
    (executed : { s with main := rest }.exec statement = some s') : Closes s' := by
  intro away
  right
  obtain ⟨stage, background⟩ := stage_exec executed
  rcases closes (away.congr stage.symm background.symm) with begins | settling
  · exact settling_onDestroy (begins.symm.trans now) executed
  · obtain ⟨settled, -⟩ := settling.exec now executed
    obtain ⟨-, branch, main, -⟩ := calm_exec (settling.quiet statement (by simp [now])) executed
    apply settled.mono
    rintro other ⟨todo, different⟩
    have behind : other ∈ rest := by
      rcases List.mem_cons.mp (now ▸ todo) with same | behind
      · exact absurd same different
      · exact behind
    rw [main]
    exact List.mem_append_right branch behind

/-- A step with the same callback under way, or the first one of the next. -/
theorem closes_between (locked : Locked s) (closes : Closes s)
    (stepped : step s label = some s') (between : label ≠ .main) (stays : label ≠ .onRestart)
    (away : s.Away) (same : s'.main = s.main ∨ s.main = []) : Closes s' := by
  intro away'
  rcases closes away with begins | settling
  · rcases same with same | idle
    · exact .inl (same.trans begins)
    · rw [begins] at idle
      cases idle
  · obtain ⟨-, settled, rest, -⟩ :=
      settling.step locked away (by simp +contextual) stepped between stays
    right
    apply settled.mono
    intro statement todo
    rcases rest with idle | same
    · simp [idle] at todo
    · rwa [same]

theorem closes_step (locked : Locked s) (closes : Closes s) (stepped : step s label = some s') :
    Closes s' := by
  cases stepped_of_step stepped with
  | main now executed => exact closes_exec closes now executed
  | test found moved =>
      have advanced := advanced_of_advance moved
      intro away'
      have away := away'.congr advanced.stage.symm advanced.mIsRunInBg.symm
      exact closes_between locked closes stepped (by simp) (by simp) away (.inl advanced.main) away'
  | tick =>
      intro away'
      exact closes_between locked closes stepped (by simp) (by simp) away' (.inl rfl) away'
  | select _ seen | clickStart _ _ _ seen | clickStop seen | clickRestart _ seen =>
      intro away'
      exact absurd seen away'.unseen
  | firstFix heard | satelliteStatus _ heard =>
      intro away'
      have deaf : s.heard = false := away'.deaf
      simp [deaf] at heard
  | dispatch ahead idle =>
      intro away'
      exact closes_between locked closes stepped (by simp) (by simp) away' (.inr idle) away'
  | onStop seen idle =>
      intro away'
      left
      rcases away' with gone | ⟨-, foreground⟩
      · cases gone
      · have foreground : s.mIsRunInBg = false := foreground
        simp only [onStop, foreground]
        rfl
  | onRestart =>
      intro away'
      exact absurd rfl away'.unseen
  | onDestroy =>
      intro _
      exact .inl rfl

/-- Nothing is on, and nothing under way turns it on. -/
structure Off (s : State) : Prop where
  locked : Locked s
  away : s.Away
  settled : Settling (fun _ => False) s

theorem Off.step (off : Off s) (stays : label ≠ .onRestart) (stepped : step s label = some s') :
    Off s' ∧ (s'.calls = s.calls ∨ s'.calls = s.calls ++ [.removed]) := by
  have locked := off.locked.step stepped
  by_cases main : label = .main
  · subst main
    cases stepped_of_step stepped with
    | main now executed =>
        obtain ⟨stage, background⟩ := stage_exec executed
        obtain ⟨settled, calls⟩ := off.settled.exec now executed
        exact ⟨⟨locked, off.away.congr stage background, settled.mono (by simp)⟩, calls⟩
  · obtain ⟨away, settled, -, calls⟩ :=
      off.settled.step off.locked off.away (by simp) stepped main stays
    exact ⟨⟨locked, away, settled⟩, calls⟩

theorem off_of_reaches {mIsRunInBg : Bool} (reached : Reaches step (create mIsRunInBg) s)
    (away : s.Away) (idle : s.main = []) : Off s := by
  obtain ⟨locked, closes⟩ : Locked s ∧ Closes s := by
    apply reached.invariant (P := fun s => Locked s ∧ Closes s)
    · exact ⟨locked_create mIsRunInBg, fun away => absurd rfl away.unseen⟩
    · rintro s label s' ⟨locked, closes⟩ stepped
      exact ⟨locked.step stepped, closes_step locked closes stepped⟩
  rcases closes away with now | settling
  · rw [now] at idle
    cases idle
  · exact ⟨locked, away, settling.idle idle⟩

end Runs

/-- The stop comes while the thread of the test waits for the monitor. -/
def stopDuringTest : List Label :=
  .clickStart (some 1) (some 0) false :: List.replicate 11 .main ++ List.replicate 6 (.test 0) ++
    .onStop :: List.replicate 15 .main

def windingUp : List Label := List.replicate 3 (.test 0) ++ [.dispatch, .main, .main]

end X5MaxDevice.Ygps.AutoTest
