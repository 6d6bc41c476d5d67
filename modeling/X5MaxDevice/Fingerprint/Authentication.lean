import X5MaxDevice.Fingerprint.EventThread

/-! The work mode in which a finger is reported as authenticated, over every interleaving of
the event thread with the calls that change the mode. -/

namespace X5MaxDevice.Fingerprint.Authentication

open X5MaxDevice.Fingerprint.EventThread
open X5MaxDevice.Fingerprint.Hal
open X5MaxDevice.Transitions

def authentication : Event → Bool
  | .notify (.authenticated _ _ _) => true
  | _ => false

/-- The number of `FINGERPRINT_AUTHENTICATED` messages sent. -/
def authentications (h : Mafprint) : Nat := h.log.countP authentication

/-- Every step that sends such a message is taken in `DO_MATCH`, and not after a cancel or
during an enrollment. -/
def AuthenticatesOnlyMatching (s : State) : Prop :=
  ∀ label s', step s label = some s' → authentications s.hal < authentications s'.hal →
    s.hal.work = .doMatch ∧ s.cancelled = false

/-- The thread goes on to `match` whatever the flags are. -/
def committed : Thread → Bool
  | .sensing turn _ => decide (turn.what = .doMatch)
  | .checked turn ret => decide (turn.what = .doMatch) && touched ret false
  | .matching _ _ | .notifying _ _ _ _ | .authenticating _ _ _ _ => true
  | .polling | .captured _ | .looping _ | .checking _ _ | .gesturing => false

/-- The thread handles an interrupt that it took in `DO_MATCH`, and will test the stop flag
before it looks at a finger. -/
def willTest : Thread → Bool
  | .captured what => decide (what = .doMatch)
  | .looping turn | .checking turn _ => decide (turn.what = .doMatch)
  | .checked turn ret =>
      decide (turn.what = .doMatch) && !touched ret false && !decide (leaves ret)
  | .polling | .sensing _ _ | .matching _ _ | .notifying _ _ _ _ | .authenticating _ _ _ _
  | .gesturing => false

/-- A call takes the mode away from `DO_MATCH` only while the thread is not committed to a
match and the stop flag still stands before it, clears the flag only while no interrupt of an
earlier `DO_MATCH` has it to test, and a cancel finds the device and the database open. -/
def Heeded (s : State) : Label → Bool
  | .call .maCancel => s.hal.opened || decide (s.hal.work ≠ .doMatch)
  | .call _ | .thread _ => true
  | .caller =>
      match s.caller with
      | .cancelWork | .startWork (.enroll _ _) =>
          !committed s.thread && (!willTest s.thread || s.hal.stop)
      | .startStop _ => !willTest s.thread || decide (s.hal.work = .doMatch)
      | _ => true

/-- A verification has been called and has not returned. -/
def verifying : Caller → Bool
  | .startWait (.verify _) _ | .startStop (.verify _) | .startFinger (.verify _)
  | .startWork (.verify _) => true
  | _ => false

/-- An enrollment has set the mode and has not returned. -/
def entered : Caller → Bool
  | .enrollGrade => true
  | _ => false

structure ThreadSafe (h : Mafprint) (thread : Thread) : Prop where
  whenCommitted : committed thread = true → h.work = .doMatch
  whenTesting : willTest thread = true → h.work = .doMatch ∨ h.stop = true

structure CallerSafe (h : Mafprint) (caller : Caller) (cancelled : Bool) : Prop where
  whenCancelled : cancelled = true → h.work ≠ .doMatch
  whenVerifying : verifying caller = true → cancelled = false
  whenEntered : entered caller = true → h.work = .doEnroll

theorem ThreadSafe.keep {h h' : Mafprint} {thread : Thread} (safe : ThreadSafe h thread)
    (work : h'.work = h.work) (stop : h.stop = true → h'.stop = true) : ThreadSafe h' thread := by
  constructor
  · intro commits
    exact work.trans (safe.whenCommitted commits)
  · intro tests
    rcases safe.whenTesting tests with mode | stopped
    · exact Or.inl (work.trans mode)
    · exact Or.inr (stop stopped)

theorem ThreadSafe.matching {h : Mafprint} (thread : Thread) (work : h.work = .doMatch) :
    ThreadSafe h thread := by
  constructor
  · exact fun _ => work
  · exact fun _ => Or.inl work

theorem ThreadSafe.away {h : Mafprint} {thread : Thread} (uncommitted : committed thread = false)
    (stop : willTest thread = true → h.stop = true) : ThreadSafe h thread := by
  constructor
  · intro commits
    exact absurd (uncommitted.symm.trans commits) Bool.false_ne_true
  · exact fun tests => Or.inr (stop tests)

theorem CallerSafe.keep {h h' : Mafprint} {caller : Caller} {cancelled : Bool}
    (safe : CallerSafe h caller cancelled) (work : h'.work = h.work) :
    CallerSafe h' caller cancelled := by
  constructor
  · rw [work]
    exact safe.whenCancelled
  · exact safe.whenVerifying
  · rw [work]
    exact safe.whenEntered

/-- Between calls, and in a call that is neither verifying nor setting the grade. -/
theorem CallerSafe.between {h : Mafprint} {caller : Caller} {cancelled : Bool}
    (mode : cancelled = true → h.work ≠ .doMatch) (verifies : verifying caller = false)
    (enters : entered caller = false) : CallerSafe h caller cancelled := by
  constructor
  · exact mode
  · intro now
    exact absurd (verifies.symm.trans now) Bool.false_ne_true
  · intro now
    exact absurd (enters.symm.trans now) Bool.false_ne_true

structure Safe (s : State) : Prop where
  thread : ThreadSafe s.hal s.thread
  caller : CallerSafe s.hal s.caller s.cancelled

theorem enter_safe {s : State} (call : Call) (safe : Safe s)
    (heeded : Heeded s (.call call) = true) (idle : s.caller = .idle) : Safe (enter call s) := by
  have mode := safe.caller.whenCancelled
  cases call with
  | maCancel =>
      rw [enter]
      split
      · constructor
        · exact safe.thread.keep rfl (fun _ => rfl)
        · exact CallerSafe.between mode rfl rfl
      · rename_i shut
        have other : s.hal.work ≠ .doMatch := by simpa [Heeded, shut] using heeded
        constructor
        · exact safe.thread
        · exact CallerSafe.between (fun _ => other) (by rw [idle]; rfl) (by rw [idle]; rfl)
  | maEnroll hat gid tnum =>
      simp only [enter]
      split
      · constructor
        · exact safe.thread.keep rfl (fun _ => rfl)
        · exact CallerSafe.between mode rfl rfl
      · constructor
        · exact safe.thread.keep rfl id
        · exact safe.caller.keep rfl
  | maVerify operId gid =>
      have fresh : false = true → s.hal.work ≠ .doMatch := fun now =>
        absurd now Bool.false_ne_true
      simp only [enter]
      split
      · constructor
        · exact safe.thread.keep rfl (fun _ => rfl)
        · constructor
          · exact fresh
          · exact fun _ => rfl
          · exact fun now => absurd now Bool.false_ne_true
      · constructor
        · exact safe.thread.keep rfl id
        · exact CallerSafe.between fresh (by rw [idle]; rfl) (by rw [idle]; rfl)

theorem CallerSafe.move {h h' : Mafprint} {caller caller' : Caller} {cancelled : Bool}
    (safe : CallerSafe h caller cancelled) (work : h'.work = h.work)
    (verifies : verifying caller' = verifying caller) (enters : entered caller' = false) :
    CallerSafe h' caller' cancelled := by
  constructor
  · rw [work]
    exact safe.whenCancelled
  · rw [verifies]
    exact safe.whenVerifying
  · intro now
    exact absurd (enters.symm.trans now) Bool.false_ne_true

theorem verifying_startWait (session : Session) (i : Nat) (wait : Bool) :
    verifying (if wait then .startStop session else .startWait session (i + 1)) =
      verifying (.startWait session i) := by
  cases wait <;> cases session <;> rfl

theorem entered_startWait (session : Session) (i : Nat) (wait : Bool) :
    entered (if wait then .startStop session else .startWait session (i + 1)) = false := by
  cases wait <;> rfl

/-- The mode changes that are heeded leave no thread that could still match. -/
theorem heeded_away {s : State} {work : Work}
    (heeded : (!committed s.thread && (!willTest s.thread || s.hal.stop)) = true) :
    ThreadSafe { s.hal with work := work } s.thread := by
  simp only [Bool.and_eq_true, Bool.not_eq_true', Bool.or_eq_true] at heeded
  apply ThreadSafe.away heeded.1
  intro tests
  rcases heeded.2 with untested | stopped
  · exact absurd (untested.symm.trans tests) Bool.false_ne_true
  · exact stopped

theorem callerStep_safe {s s' : State} (safe : Safe s) (heeded : Heeded s .caller = true)
    (stepped : callerStep s = some s') : Safe s' := by
  have caller := safe.caller
  have mode := safe.caller.whenCancelled
  have idles : Work.doIdle ≠ .doMatch := by decide
  have enrolls : Work.doEnroll ≠ .doMatch := by decide
  cases now : s.caller with
  | idle =>
      simp only [callerStep, now] at stepped
      cases stepped
  | cancelWait i =>
      simp only [callerStep, now] at stepped
      cases stepped
      constructor
      · exact safe.thread
      · apply CallerSafe.between mode
        · cases waited s.hal.busy i <;> rfl
        · cases waited s.hal.busy i <;> rfl
  | cancelWork =>
      simp only [callerStep, Heeded, now] at stepped heeded
      cases stepped
      constructor
      · exact heeded_away heeded
      · exact CallerSafe.between (fun _ => idles) rfl rfl
  | startWait session i =>
      rw [now] at caller
      simp only [callerStep, now] at stepped
      cases stepped
      constructor
      · exact safe.thread
      · exact caller.move rfl (verifying_startWait session i _) (entered_startWait session i _)
  | startStop session =>
      rw [now] at caller
      simp only [callerStep, Heeded, now] at stepped heeded
      cases stepped
      constructor
      · constructor
        · exact safe.thread.whenCommitted
        · intro tests
          have matching : s.hal.work = .doMatch := by simpa [tests] using heeded
          exact Or.inl matching
      · cases session with
        | enroll gid tnum => exact CallerSafe.between mode rfl rfl
        | verify gid => exact ⟨mode, caller.whenVerifying, fun now => absurd now Bool.false_ne_true⟩
  | startFinger session =>
      rw [now] at caller
      cases session with
      | enroll gid tnum =>
          simp only [callerStep, now] at stepped
          cases stepped
          constructor
          · exact safe.thread.keep rfl id
          · exact CallerSafe.between mode rfl rfl
      | verify gid =>
          simp only [callerStep, now] at stepped
          cases stepped
          constructor
          · exact safe.thread.keep rfl id
          · exact ⟨mode, caller.whenVerifying, fun now => absurd now Bool.false_ne_true⟩
  | startWork session =>
      rw [now] at caller
      cases session with
      | enroll gid tnum =>
          simp only [callerStep, Heeded, now] at stepped heeded
          cases stepped
          constructor
          · exact heeded_away heeded
          · exact ⟨fun _ => enrolls, fun now => absurd now Bool.false_ne_true, fun _ => rfl⟩
      | verify gid =>
          simp only [callerStep, now] at stepped
          cases stepped
          have uncancelled := caller.whenVerifying rfl
          constructor
          · exact ThreadSafe.matching s.thread rfl
          · apply CallerSafe.between _ rfl rfl
            intro cancels
            exact absurd (uncancelled.symm.trans cancels) Bool.false_ne_true
  | enrollGrade =>
      rw [now] at caller
      simp only [callerStep, now] at stepped
      cases stepped
      have enrolling : s.hal.work ≠ .doMatch := by
        rw [caller.whenEntered rfl]
        exact enrolls
      constructor
      · exact safe.thread.keep rfl id
      · exact CallerSafe.between (fun _ => enrolling) rfl rfl

theorem ThreadSafe.other {h : Mafprint} {thread : Thread} (uncommitted : committed thread = false)
    (untested : willTest thread = false) : ThreadSafe h thread := by
  apply ThreadSafe.away uncommitted
  intro tests
  exact absurd (untested.symm.trans tests) Bool.false_ne_true

theorem next_committed (turn : Turn) : committed turn.next = false := by
  rw [Turn.next]
  split
  · rfl
  · rfl

theorem next_willTest (turn : Turn) (tests : willTest turn.next = true) : turn.what = .doMatch := by
  rw [Turn.next] at tests
  split at tests
  · exact of_decide_eq_true tests
  · exact absurd tests Bool.false_ne_true

theorem afterCheck_committed (turn : Turn) (ret : Int) :
    committed (afterCheck turn ret) = false := by
  simp only [afterCheck]
  split
  · rfl
  · split
    · split
      · rfl
      · exact next_committed _
    · exact next_committed turn

theorem afterCheck_willTest {turn : Turn} {ret : Int}
    (tests : willTest (afterCheck turn ret) = true) :
    turn.what = .doMatch ∧ ¬ leaves ret := by
  simp only [afterCheck] at tests
  split at tests
  · exact absurd tests Bool.false_ne_true
  · rename_i stays
    split at tests
    · split at tests
      · exact absurd tests Bool.false_ne_true
      · exact ⟨next_willTest { turn with j := turn.j + 1 } tests, stays⟩
    · exact ⟨next_willTest turn tests, stays⟩

theorem touched_first {ret : Int} {first : Bool} (touch : touched ret first = true) :
    touched ret false = true := by
  rcases of_decide_eq_true touch with full | short | ⟨pressed, _⟩
  · exact decide_eq_true (Or.inl full)
  · exact decide_eq_true (Or.inr (Or.inl short))
  · exact decide_eq_true (Or.inr (Or.inr ⟨pressed, rfl⟩))

/-- A turn that goes on leaves the stop flag alone. -/
theorem matchTurn_stop {ret : Int} (results : Results) (h : Mafprint) (stays : ¬ leaves ret) :
    (interruptTurn .doMatch ret results h).stop = h.stop := by
  rcases matchFinger_changes results h with ⟨log, changed⟩
  simp only [interruptTurn, fingerTurn, changed, if_neg stays]
  split
  · rfl
  · split
    · rfl
    · split
      · rfl
      · rfl

/-- An image of an interrupt that was not taken in `DO_MATCH` cannot lead to a match. -/
theorem sense_other {turn : Turn} (other : turn.what ≠ .doMatch) (fdown : Bool) (sensed : Sensed)
    (s : State) (h : Mafprint) : ThreadSafe h (sense turn fdown sensed s).thread := by
  have checkedTurn : ∀ ret, ThreadSafe h (.checked turn ret) := fun ret =>
    ThreadSafe.other (by simp [committed, other]) (by simp [willTest, other])
  simp only [sense]
  split
  · exact checkedTurn _
  · split
    · exact checkedTurn _
    · split
      · exact checkedTurn _
      · exact ThreadSafe.other rfl (decide_eq_false other)

theorem captured_safe {s : State} (sensed : Sensed) {what : Work}
    (safe : ThreadSafe s.hal s.thread) (now : s.thread = .captured what) :
    ThreadSafe (threadStep sensed s).hal (threadStep sensed s).thread := by
  rw [now] at safe
  simp only [threadStep, now]
  cases what with
  | doMatch =>
      constructor
      · exact safe.whenCommitted
      · exact fun _ => safe.whenTesting rfl
  | doIdle | doEnroll | doFactory | doDetect | doDebug | doRestore | doGesture =>
      exact ThreadSafe.other rfl rfl

theorem checking_safe {s : State} (sensed : Sensed) {turn : Turn} {fdown : Bool}
    (safe : ThreadSafe s.hal s.thread) (now : s.thread = .checking turn fdown) :
    ThreadSafe (threadStep sensed s).hal (threadStep sensed s).thread := by
  rw [now] at safe
  simp only [threadStep, now]
  split
  · apply ThreadSafe.other
    · simp [checkEnd, committed, touched, fpCancel, fpChkUp, fpOk, fpChkFull, fpChkPart, fpPressed]
    · simp [checkEnd, willTest, leaves, fpCancel, fpChkUp, fpOk]
  · rename_i goes
    constructor
    · intro commits
      rcases safe.whenTesting commits with mode | stopped
      · exact mode
      · exact absurd (Or.inl stopped) goes
    · exact fun tests => absurd tests Bool.false_ne_true

theorem checked_safe {s : State} (sensed : Sensed) {turn : Turn} {ret : Int}
    (safe : ThreadSafe s.hal s.thread) (now : s.thread = .checked turn ret) :
    ThreadSafe (threadStep sensed s).hal (threadStep sensed s).thread := by
  rw [now] at safe
  have mode := interruptTurn_work turn.what ret sensed.results s.hal
  simp only [threadStep, now]
  split
  · rename_i finger
    have commits : committed (.checked turn ret) = true := by
      simp [committed, finger.1, touched_first finger.2]
    exact ThreadSafe.matching _ (safe.whenCommitted commits)
  · by_cases commits : committed (.checked turn ret) = true
    · exact ThreadSafe.matching _ (mode.trans (safe.whenCommitted commits))
    · constructor
      · intro later
        exact absurd ((afterCheck_committed turn ret).symm.trans later) Bool.false_ne_true
      · intro later
        rcases afterCheck_willTest later with ⟨matching, stays⟩
        have tests : willTest (.checked turn ret) = true := by
          simpa [willTest, matching, stays, committed] using commits
        have kept := matchTurn_stop sensed.results s.hal stays
        rcases safe.whenTesting tests with same | stopped
        · exact Or.inl (mode.trans same)
        · right
          rw [matching]
          exact kept.trans stopped

theorem threadStep_safe {s : State} (sensed : Sensed) (safe : Safe s) :
    Safe (threadStep sensed s) := by
  have same := threadStep_sameCall sensed s
  have thread := safe.thread
  have caller : CallerSafe (threadStep sensed s).hal (threadStep sensed s).caller
      (threadStep sensed s).cancelled := by
    rw [same.2.1, same.2.2]
    exact safe.caller.keep same.1
  have goes : committed s.thread = true → Safe (threadStep sensed s) := fun commits =>
    ⟨ThreadSafe.matching _ (same.1.trans (safe.thread.whenCommitted commits)), caller⟩
  cases now : s.thread with
  | polling =>
      refine ⟨?_, caller⟩
      simp only [threadStep, now, State.goto]
      constructor
      · exact fun commits => absurd commits Bool.false_ne_true
      · exact fun tests => Or.inl (of_decide_eq_true tests)
  | captured what => exact ⟨captured_safe sensed thread now, caller⟩
  | looping turn =>
      refine ⟨?_, caller⟩
      rw [now] at thread
      simp only [threadStep, now]
      exact ⟨thread.whenCommitted, thread.whenTesting⟩
  | checking turn fdown => exact ⟨checking_safe sensed thread now, caller⟩
  | sensing turn fdown =>
      by_cases matching : turn.what = .doMatch
      · apply goes
        rw [now]
        exact decide_eq_true matching
      · refine ⟨?_, caller⟩
        have moved : threadStep sensed s = sense turn fdown sensed s := by
          simp only [threadStep, now]
        rw [moved]
        exact sense_other matching fdown sensed s _
  | checked turn ret => exact ⟨checked_safe sensed thread now, caller⟩
  | matching turn ret => exact goes (by rw [now]; rfl)
  | notifying turn ret gid suc => exact goes (by rw [now]; rfl)
  | authenticating turn ret gid suc => exact goes (by rw [now]; rfl)
  | gesturing =>
      refine ⟨?_, caller⟩
      simp only [threadStep, now]
      exact ThreadSafe.other rfl rfl

theorem step_safe {s s' : State} (label : Label) (safe : Safe s) (heeded : Heeded s label = true)
    (stepped : step s label = some s') : Safe s' := by
  cases label with
  | call call =>
      cases now : s.caller with
      | idle =>
          simp only [step, now] at stepped
          cases stepped
          exact enter_safe call safe heeded now
      | cancelWait | cancelWork | startWait | startStop | startFinger | startWork | enrollGrade =>
          simp only [step, now] at stepped
          cases stepped
  | caller => exact callerStep_safe safe heeded stepped
  | thread sensed =>
      cases stepped
      exact threadStep_safe sensed safe

theorem record_authentications {event : Event} (other : authentication event = false)
    (h : Mafprint) : authentications (h.record event) = authentications h := by
  simp [authentications, Mafprint.record, other]

theorem enroll_authentications (val : Int) (results : Results) (h : Mafprint) :
    authentications (enroll val results h) = authentications h := by
  simp only [enroll]
  split
  · rfl
  · split
    · exact record_authentications rfl h
    · split
      · split
        · exact record_authentications rfl h
        · split <;> split <;>
            simp [authentications, notifyEnroll, Mafprint.record, authentication]
      · rfl

theorem fingerTurn_authentications {finger : Mafprint → Mafprint} {ret : Int} {h : Mafprint}
    (quiet : touched ret h.first = true → authentications (finger h) = authentications h) :
    authentications (fingerTurn finger ret h) = authentications h := by
  rw [fingerTurn]
  split
  · exact record_authentications rfl h
  · split
    · rfl
    · split
      · rename_i full
        apply quiet
        rcases full with whole | short
        · exact decide_eq_true (Or.inl whole)
        · exact decide_eq_true (Or.inr (Or.inl short))
      · split
        · rename_i pressed
          exact quiet (decide_eq_true (Or.inr (Or.inr pressed)))
        · rfl

/-- Only `match` authenticates. -/
theorem interruptTurn_authentications {what : Work} {ret : Int} {h : Mafprint} (results : Results)
    (other : ¬ (what = .doMatch ∧ touched ret h.first = true)) :
    authentications (interruptTurn what ret results h) = authentications h := by
  cases what with
  | doIdle =>
      simp only [interruptTurn]
      split
      · rfl
      · rfl
  | doEnroll => exact fingerTurn_authentications (fun _ => enroll_authentications ret results h)
  | doMatch => exact fingerTurn_authentications (fun touch => absurd ⟨rfl, touch⟩ other)
  | doGesture | doFactory | doDetect | doDebug | doRestore => rfl

/-- The thread sends `FINGERPRINT_AUTHENTICATED` in one place. -/
theorem threadStep_authentications (sensed : Sensed) {s : State}
    (elsewhere : ∀ turn ret gid suc, s.thread ≠ .authenticating turn ret gid suc) :
    authentications (threadStep sensed s).hal = authentications s.hal := by
  rw [threadStep]
  cases now : s.thread with
  | polling | looping | gesturing => rfl
  | captured what =>
      rcases interruptBegin_changes what s.hal with ⟨stop, begun⟩
      simp only [begun]
      cases what <;> rfl
  | checking turn fdown =>
      dsimp only
      split
      · rfl
      · rfl
  | sensing turn fdown =>
      rcases sense_changes turn fdown sensed s with ⟨busy, thread, sensing⟩
      simp only [sensing]
      rfl
  | checked turn ret =>
      dsimp only
      split
      · rfl
      · rename_i other
        exact interruptTurn_authentications sensed.results other
  | matching turn ret =>
      dsimp only
      split
      · rfl
      · rcases matchEnd_changes turn ret s with ⟨first, ended⟩
        rw [ended]
        rfl
  | notifying turn ret gid suc => exact record_authentications rfl s.hal
  | authenticating turn ret gid suc => exact absurd now (elsewhere turn ret gid suc)

theorem enter_authentications (call : Call) (s : State) :
    authentications (enter call s).hal = authentications s.hal := by
  cases call with
  | maCancel =>
      rw [enter]
      split
      · rfl
      · rfl
  | maEnroll hat gid tnum =>
      simp only [enter]
      split
      · rfl
      · rfl
  | maVerify operId gid =>
      simp only [enter]
      split
      · rfl
      · rfl

theorem callerStep_authentications {s s' : State} (stepped : callerStep s = some s') :
    authentications s'.hal = authentications s.hal := by
  cases now : s.caller with
  | idle =>
      simp only [callerStep, now] at stepped
      cases stepped
  | cancelWait | cancelWork | startWait | startStop | enrollGrade =>
      simp only [callerStep, now] at stepped
      cases stepped
      rfl
  | startFinger session | startWork session =>
      cases session <;>
        · simp only [callerStep, now] at stepped
          cases stepped
          rfl

/-- A step that authenticates is one of a thread that has matched. -/
theorem step_authentications {s s' : State} (label : Label) (stepped : step s label = some s')
    (sent : authentications s.hal < authentications s'.hal) :
    committed s.thread = true := by
  cases label with
  | call call =>
      cases now : s.caller with
      | idle =>
          simp only [step, now] at stepped
          cases stepped
          exact absurd (enter_authentications call s) (Nat.ne_of_gt sent)
      | cancelWait | cancelWork | startWait | startStop | startFinger | startWork | enrollGrade =>
          simp only [step, now] at stepped
          cases stepped
  | caller => exact absurd (callerStep_authentications stepped) (Nat.ne_of_gt sent)
  | thread sensed =>
      cases stepped
      by_contra uncommitted
      apply Nat.ne_of_gt sent
      apply threadStep_authentications
      intro turn ret gid suc now
      rw [now] at uncommitted
      exact uncommitted rfl

/-- In every interleaving whose calls are heeded, a finger is authenticated only in `DO_MATCH`,
not between the return of a cancel or the start of an enrollment and the next verification. -/
theorem heeded_calls_authenticate_only_matching (h : Mafprint) {s : State}
    (reached : ReachesWhere (fun s label => Heeded s label = true) step (start h) s) :
    AuthenticatesOnlyMatching s := by
  have safe : Safe s := by
    apply reached.invariant (P := Safe)
    · constructor
      · exact ThreadSafe.other rfl rfl
      · exact CallerSafe.between (fun now => absurd now Bool.false_ne_true) rfl rfl
    · intro before label after holds heeded stepped
      exact step_safe label holds heeded stepped
  intro label s' stepped sent
  have mode := safe.thread.whenCommitted (step_authentications label stepped sent)
  have uncancelled : s.cancelled ≠ true := fun cancels => safe.caller.whenCancelled cancels mode
  exact ⟨mode, by simpa using uncancelled⟩

/-- The device and the database are open, and nothing is under way. -/
def openIdle : Mafprint := { Mafprint.initial with fdev := 3, fdb := 0 }

/-- A finger that covers the sensor, and matches the first template. -/
def finger : Sensed :=
  ⟨fpOk, fpChkFull, false, ⟨fun id => if id = 1 then fpOk else fpEmpty, 0, 0, 0⟩⟩

def verification : List Label := .call (.maVerify 7 0) :: List.replicate 4 .caller

/-- An interrupt, up to the end of `check` on a finger. -/
def fingerFound : List Label := List.replicate 5 (.thread finger)

/-- The next step of the thread sends `FINGERPRINT_AUTHENTICATED`. -/
def authenticatesNext (s : State) : Bool :=
  decide (authentications s.hal < authentications (threadStep finger s).hal)

/-- After a verification a finger is found and matched, and is about to be authenticated. -/
theorem verified_finger :
    ∃ s, authenticatesNext s = true ∧ AuthenticatesOnlyMatching s := by
  have ran : (run (guarded (fun s label => Heeded s label = true) step) (start openIdle)
      (verification ++ fingerFound ++ List.replicate 3 (.thread finger))).any
        authenticatesNext = true := by
    decide
  rcases (Option.any_eq_true _ _).mp ran with ⟨s, executed, sends⟩
  have reached := reachesWhere_of_run _ executed
  exact ⟨s, sends, heeded_calls_authenticate_only_matching openIdle reached⟩

/-- A cancel that meets the thread between `check` and `match` returns at once, and the finger
is authenticated after it. -/
theorem cancel_before_match_authenticates :
    ¬ ∀ (h : Mafprint) (s : State), Reaches step (start h) s → AuthenticatesOnlyMatching s := by
  intro only
  have ran : (run step (start openIdle)
      (verification ++ fingerFound ++ (.call .maCancel :: List.replicate 2 .caller) ++
        List.replicate 3 (.thread finger))).any
        (fun s => authenticatesNext s && decide (s.hal.work ≠ .doMatch)) = true := by
    decide
  rcases (Option.any_eq_true _ _).mp ran with ⟨s, executed, outside⟩
  simp only [Bool.and_eq_true, authenticatesNext, decide_eq_true_eq] at outside
  have reached := reaches_of_run _ executed
  exact outside.2 (only openIdle s reached (.thread finger) _ rfl outside.1).1

end X5MaxDevice.Fingerprint.Authentication
