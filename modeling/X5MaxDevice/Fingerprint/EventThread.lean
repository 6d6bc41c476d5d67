import X5MaxDevice.Base.Transitions
import X5MaxDevice.Fingerprint.Hal

/-! The event thread of the fingerprint HAL and the calls that change the work mode under it,
in the single steps that each of them takes on what they share. -/

namespace X5MaxDevice.Fingerprint.EventThread

open X5MaxDevice.Fingerprint.Hal
open X5MaxDevice.Transitions

inductive Call where
  | maCancel
  | maEnroll (hat : HwAuthToken) (gid : Int) (tnum : Int → Int)
  | maVerify (operId : UInt64) (gid : Int)

/-- The calls that clear the stop flag again and start a session. -/
inductive Session where
  | enroll (gid : Int) (tnum : Int → Int)
  | verify (gid : Int)

/-- Where the call under way is: it waits for the event thread, and then takes its steps in the
order of the source. -/
inductive Caller where
  | idle
  | cancelWait (i : Nat)
  | cancelWork
  | startWait (session : Session) (i : Nat)
  | startStop (session : Session)
  | startFinger (session : Session)
  | startWork (session : Session)
  | enrollGrade

/-- The loop of `interrupt_event`, with the mode that the thread has read before. -/
structure Turn where
  what : Work
  i : Nat
  j : Nat
  deriving DecidableEq

/-- Where the event thread is. In `check` it tests the stop flag and then takes an image. -/
inductive Thread where
  | polling
  | captured (what : Work)
  | looping (turn : Turn)
  | checking (turn : Turn) (fdown : Bool)
  | sensing (turn : Turn) (fdown : Bool)
  | checked (turn : Turn) (ret : Int)
  | matching (turn : Turn) (ret : Int)
  | notifying (turn : Turn) (ret gid suc : Int)
  | authenticating (turn : Turn) (ret gid suc : Int)
  | gesturing
  deriving DecidableEq

/-- `cancelled` says that a `ma_cancel` or a started `ma_enroll` has returned since the last
call of `ma_verify`. -/
structure State where
  hal : Mafprint
  caller : Caller
  thread : Thread
  cancelled : Bool

/-- Any record and mode, while no call is under way and the thread waits for an interrupt. -/
def start (h : Mafprint) : State := ⟨h, .idle, .polling, false⟩

/-- What the sensor returns in one pass of `check`, whether the time is up then, and the rest. -/
structure Sensed where
  image : Int
  check : Int
  late : Bool
  results : Results

def State.goto (s : State) (thread : Thread) : State := { s with thread := thread }

/-- The call begins, and returns at once where nothing is open. -/
def enter (call : Call) (s : State) : State :=
  match call with
  | .maCancel =>
      if s.hal.opened then { s with hal := { s.hal with stop := true }, caller := .cancelWait 0 }
      else { s with cancelled := true }
  | .maEnroll hat gid tnum =>
      let h := { s.hal with hat := hat }
      if h.opened then
        { s with hal := { h with stop := true }, caller := .startWait (.enroll gid tnum) 0 }
      else { s with hal := h }
  | .maVerify operId gid =>
      let h := { s.hal with operId := operId }
      if h.opened ∧ h.work ≠ .doDebug then
        { s with
          hal := { h with stop := true }
          caller := .startWait (.verify gid) 0
          cancelled := false }
      else { s with hal := h, cancelled := false }

/-- The wait for the event thread ends when it is not busy, and after ten times anyway. -/
def waited (busy : Bool) (i : Nat) : Bool := !busy || decide (10 ≤ i + 1)

def callerStep (s : State) : Option State :=
  match s.caller with
  | .idle => none
  | .cancelWait i =>
      some { s with caller := if waited s.hal.busy i then .cancelWork else .cancelWait (i + 1) }
  | .cancelWork =>
      some { s with hal := { s.hal with work := .doIdle }, caller := .idle, cancelled := true }
  | .startWait session i =>
      some { s with
        caller := if waited s.hal.busy i then .startStop session else .startWait session (i + 1) }
  | .startStop session =>
      some { s with hal := { s.hal with stop := false }, caller := .startFinger session }
  | .startFinger (.enroll gid tnum) =>
      some { s with
        hal := { s.hal with gid := gid, fid := newFid tnum }
        caller := .startWork (.enroll gid tnum) }
  | .startFinger (.verify gid) =>
      some { s with
        hal := { s.hal with gid := gid, first := false }
        caller := .startWork (.verify gid) }
  | .startWork (.enroll _ _) =>
      some { s with hal := { s.hal with work := .doEnroll }, caller := .enrollGrade }
  | .startWork (.verify _) =>
      some { s with hal := { s.hal with work := .doMatch }, caller := .idle }
  | .enrollGrade =>
      some { s with hal := { s.hal with grade := 0 }, caller := .idle, cancelled := true }

def bound (what : Work) : Nat := if what = .doIdle then 10 else 20

/-- The next turn of the loop, or the end of the interrupt. -/
def Turn.next (turn : Turn) : Thread :=
  if turn.i + 1 < bound turn.what then .looping { turn with i := turn.i + 1 } else .polling

/-- The third turn without a finger ends the loop as well. -/
def afterCheck (turn : Turn) (ret : Int) : Thread :=
  if leaves ret then .polling
  else if ret = fpOk then
    if turn.j + 1 = 3 then .polling else Turn.next { turn with j := turn.j + 1 }
  else turn.next

/-- The end of `check`: a short touch counts as a part of a finger. -/
def checkEnd (turn : Turn) (fdown : Bool) (ret : Int) (s : State) : State :=
  let ret := if fdown ∧ (ret = fpChkUp ∨ ret = fpOk) then fpChkPart else ret
  { s with hal := { s.hal with busy := false }, thread := .checked turn ret }

/-- One image in `check`, once the stop flag has been tested. -/
def sense (turn : Turn) (fdown : Bool) (sensed : Sensed) (s : State) : State :=
  if sensed.image ≠ fpOk then checkEnd turn fdown sensed.image s
  else if sensed.check = fpChkUp ∨ sensed.check = fpChkFull ∨ sensed.check = fpChkPart then
    checkEnd turn fdown sensed.check s
  else
    let fdown := fdown || decide (sensed.check = fpChkDown)
    if sensed.late then checkEnd turn fdown sensed.check s else s.goto (.checking turn fdown)

/-- The result of `check` makes the loop look at the finger. -/
def touched (ret : Int) (first : Bool) : Bool :=
  decide (ret = fpChkFull ∨ ret = fpChkPart ∨ ret = fpPressed ∧ first = false)

/-- The loop goes on after `match`. -/
def matchEnd (turn : Turn) (ret : Int) (s : State) : State :=
  { s with
    hal := if ret = fpPressed then { s.hal with first := true } else s.hal
    thread := turn.next }

def threadStep (sensed : Sensed) (s : State) : State :=
  match s.thread with
  | .polling => s.goto (.captured s.hal.work)
  | .captured what =>
      let s := { s with hal := interruptBegin what s.hal }
      match what with
      | .doIdle | .doEnroll | .doMatch => s.goto (.looping ⟨what, 0, 0⟩)
      | .doGesture => { s with hal := { s.hal with busy := true }, thread := .gesturing }
      | .doFactory | .doDetect | .doDebug | .doRestore => s.goto .polling
  | .looping turn =>
      { s with hal := { s.hal with busy := true }, thread := .checking turn false }
  | .checking turn fdown =>
      if s.hal.stop = true ∨ s.hal.work = .doDebug then checkEnd turn fdown fpCancel s
      else s.goto (.sensing turn fdown)
  | .sensing turn fdown => sense turn fdown sensed s
  | .checked turn ret =>
      if turn.what = .doMatch ∧ touched ret s.hal.first = true then s.goto (.matching turn ret)
      else
        { s with
          hal := interruptTurn turn.what ret sensed.results s.hal
          thread := afterCheck turn ret }
  | .matching turn ret =>
      match matchReport sensed.results with
      | some suc => s.goto (.notifying turn ret s.hal.gid suc)
      | none => matchEnd turn ret s
  | .notifying turn ret gid suc =>
      { s with
        hal := s.hal.record (.notify (.acquired acquiredGood))
        thread := .authenticating turn ret gid suc }
  | .authenticating turn ret gid suc =>
      matchEnd turn ret
        { s with hal := matchUpdate suc (notifyAuthenticated gid suc sensed.results s.hal) }
  | .gesturing =>
      { s with hal := { s.hal with busy := false, stop := false }, thread := .polling }

/-- The mode that the calls set, and where the call is, stay as they are. -/
def SameCall (s s' : State) : Prop :=
  s'.hal.work = s.hal.work ∧ s'.caller = s.caller ∧ s'.cancelled = s.cancelled

theorem sense_changes (turn : Turn) (fdown : Bool) (sensed : Sensed) (s : State) :
    ∃ busy thread, sense turn fdown sensed s =
      { s with hal := { s.hal with busy := busy }, thread := thread } := by
  simp only [sense]
  split
  · exact ⟨false, _, rfl⟩
  · split
    · exact ⟨false, _, rfl⟩
    · split
      · exact ⟨false, _, rfl⟩
      · exact ⟨s.hal.busy, _, rfl⟩

theorem matchEnd_changes (turn : Turn) (ret : Int) (s : State) :
    ∃ first, matchEnd turn ret s =
      { s with hal := { s.hal with first := first }, thread := turn.next } := by
  simp only [matchEnd]
  split
  · exact ⟨true, rfl⟩
  · exact ⟨s.hal.first, rfl⟩

/-- The event thread never changes the mode. -/
theorem threadStep_sameCall (sensed : Sensed) (s : State) :
    SameCall s (threadStep sensed s) := by
  rw [threadStep]
  cases now : s.thread with
  | polling => exact ⟨rfl, rfl, rfl⟩
  | captured what =>
      rcases interruptBegin_changes what s.hal with ⟨stop, begun⟩
      simp only [begun]
      cases what <;> exact ⟨rfl, rfl, rfl⟩
  | looping turn => exact ⟨rfl, rfl, rfl⟩
  | checking turn fdown =>
      dsimp only
      split
      · exact ⟨rfl, rfl, rfl⟩
      · exact ⟨rfl, rfl, rfl⟩
  | sensing turn fdown =>
      rcases sense_changes turn fdown sensed s with ⟨busy, thread, sensing⟩
      simp only [sensing]
      exact ⟨rfl, rfl, rfl⟩
  | checked turn ret =>
      dsimp only
      split
      · exact ⟨rfl, rfl, rfl⟩
      · exact ⟨interruptTurn_work turn.what ret sensed.results s.hal, rfl, rfl⟩
  | matching turn ret =>
      dsimp only
      split
      · exact ⟨rfl, rfl, rfl⟩
      · rcases matchEnd_changes turn ret s with ⟨first, ended⟩
        rw [ended]
        exact ⟨rfl, rfl, rfl⟩
  | notifying turn ret gid suc => exact ⟨rfl, rfl, rfl⟩
  | authenticating turn ret gid suc =>
      have updated : (matchUpdate suc (notifyAuthenticated gid suc sensed.results s.hal)).work =
          s.hal.work := by
        rcases matchUpdate_changes suc (notifyAuthenticated gid suc sensed.results s.hal) with
          ⟨log, changed⟩
        rw [changed]
        rfl
      rcases matchEnd_changes turn ret
        ⟨matchUpdate suc (notifyAuthenticated gid suc sensed.results s.hal), s.caller,
          .authenticating turn ret gid suc, s.cancelled⟩ with ⟨first, ended⟩
      dsimp only
      rw [ended]
      exact ⟨updated, rfl, rfl⟩
  | gesturing => exact ⟨rfl, rfl, rfl⟩

inductive Label where
  | call (call : Call)
  | caller
  | thread (sensed : Sensed)

/-- Calls come one after the other. -/
def step (s : State) : Label → Option State
  | .call call =>
      match s.caller with
      | .idle => some (enter call s)
      | _ => none
  | .caller => callerStep s
  | .thread sensed => some (threadStep sensed s)

/-- An enrollment that meets no busy thread does what the call does on its own. -/
theorem maEnroll_alone {s : State} (idle : s.caller = .idle) (opened : s.hal.opened = true)
    (rests : s.hal.busy = false) (hat : HwAuthToken) (gid : Int) (tnum : Int → Int) :
    run step s (.call (.maEnroll hat gid tnum) :: List.replicate 5 .caller) =
      some { s with hal := (maEnroll hat gid tnum s.hal).1, cancelled := true } := by
  have ready : Mafprint.opened { s.hal with hat := hat } = true := opened
  have entered : enter (.maEnroll hat gid tnum) s =
      { s with
        hal := { s.hal with hat := hat, stop := true }
        caller := .startWait (.enroll gid tnum) 0 } := by
    simp only [enter]
    rw [if_pos ready]
  have alone : (maEnroll hat gid tnum s.hal).1 =
      { s.hal with
        hat := hat, stop := false, gid := gid, fid := newFid tnum, work := .doEnroll
        grade := 0 } := by
    simp only [maEnroll]
    rw [if_pos ready]
  simp only [run, step, idle, entered, Option.bind_some, List.replicate, callerStep, waited, rests,
    Bool.not_false, Bool.true_or, ↓reduceIte, alone]

/-- So does a cancel. -/
theorem maCancel_alone {s : State} (idle : s.caller = .idle) (opened : s.hal.opened = true)
    (rests : s.hal.busy = false) :
    run step s (.call .maCancel :: List.replicate 2 .caller) =
      some { s with hal := (maCancel s.hal).1, cancelled := true } := by
  have entered : enter .maCancel s =
      { s with hal := { s.hal with stop := true }, caller := .cancelWait 0 } := by
    simp only [enter]
    rw [if_pos opened]
  have alone : (maCancel s.hal).1 = { s.hal with stop := true, work := .doIdle } := by
    rw [maCancel, if_pos opened]
  simp only [run, step, idle, entered, Option.bind_some, List.replicate, callerStep, waited, rests,
    Bool.not_false, Bool.true_or, ↓reduceIte, alone]

/-- So does a verification. -/
theorem maVerify_alone {s : State} (idle : s.caller = .idle) (opened : s.hal.opened = true)
    (plain : s.hal.work ≠ .doDebug) (rests : s.hal.busy = false) (operId : UInt64) (gid : Int) :
    run step s (.call (.maVerify operId gid) :: List.replicate 4 .caller) =
      some { s with hal := (maVerify operId gid s.hal).1, cancelled := false } := by
  have going : Mafprint.opened { s.hal with operId := operId } = true ∧
      s.hal.work ≠ .doDebug := ⟨opened, plain⟩
  have entered : enter (.maVerify operId gid) s =
      { s with
        hal := { s.hal with operId := operId, stop := true }
        caller := .startWait (.verify gid) 0
        cancelled := false } := by
    simp only [enter]
    rw [if_pos going]
  have alone : (maVerify operId gid s.hal).1 =
      { s.hal with
        operId := operId, stop := false, gid := gid, first := false, work := .doMatch } := by
    simp only [maVerify]
    rw [if_pos going]
  simp only [run, step, idle, entered, Option.bind_some, List.replicate, callerStep, waited, rests,
    Bool.not_false, Bool.true_or, ↓reduceIte, alone]

theorem fingerTurn_touched {ret : Int} {h : Mafprint} (touch : touched ret h.first = true)
    (finger : Mafprint → Mafprint) :
    fingerTurn finger ret h =
      if ret = fpPressed then { finger h with first := true } else finger h := by
  rcases of_decide_eq_true touch with full | short | ⟨pressed, first⟩
  · subst full
    rfl
  · subst short
    rfl
  · subst pressed
    simp [fingerTurn, leaves, first, fpPressed, fpCommFail, fpCancel, fpChkUp, fpChkFull, fpChkPart]

/-- A turn that the thread takes without a call in between does what `match` does. -/
theorem match_alone {s : State} {turn : Turn} {ret : Int} (sensed : Sensed)
    (atFinger : s.thread = .checked turn ret) (matching : turn.what = .doMatch)
    (touch : touched ret s.hal.first = true) :
    ∃ n, run step s (List.replicate n (.thread sensed)) =
      some { s with
        hal := interruptTurn turn.what ret sensed.results s.hal
        thread := turn.next } := by
  have turned : interruptTurn turn.what ret sensed.results s.hal =
      if ret = fpPressed then { matchFinger sensed.results s.hal with first := true }
      else matchFinger sensed.results s.hal := by
    rw [matching]
    exact fingerTurn_touched touch (matchFinger sensed.results)
  cases report : matchReport sensed.results with
  | none =>
      refine ⟨2, ?_⟩
      have nothing : matchFinger sensed.results s.hal = s.hal := by rw [matchFinger, report]
      rw [turned, nothing]
      simp only [List.replicate, run, step, threadStep, atFinger, matching, touch, and_self,
        ↓reduceIte, State.goto, report, Option.bind_some, matchEnd]
  | some suc =>
      refine ⟨4, ?_⟩
      have reported : matchFinger sensed.results s.hal =
          matchUpdate suc (notifyMatch s.hal.gid suc sensed.results s.hal) := by
        rw [matchFinger, report]
      rw [turned, reported]
      simp only [List.replicate, run, step, threadStep, atFinger, matching, touch, and_self,
        ↓reduceIte, State.goto, report, Option.bind_some, matchEnd, notifyMatch]

end X5MaxDevice.Fingerprint.EventThread
