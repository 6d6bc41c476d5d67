import Mathlib.Data.Int.Basic

/-! The fingerprint HAL: the record that its calls and its event thread share, the work mode of
the driver, and what each call and each turn of the event thread does to them. -/

namespace X5MaxDevice.Fingerprint.Hal

def maxf : Int := 5

def fpCancel : Int := 8
def fpChkUp : Int := 5
def fpPressed : Int := 4
def fpChkFull : Int := 3
def fpChkPart : Int := 2
def fpChkDown : Int := 1
def fpOk : Int := 0
def fpEmpty : Int := -3
def fpNewfFail : Int := -4
def fpCommFail : Int := -13

inductive Work where
  | doIdle
  | doEnroll
  | doMatch
  | doFactory
  | doDetect
  | doDebug
  | doRestore
  | doGesture
  deriving DecidableEq, Repr

structure HwAuthToken where
  version : UInt8
  challenge : UInt64
  userId : UInt64
  authenticatorId : UInt64
  authenticatorType : UInt32
  timestamp : UInt64
  hmac : List UInt8
  deriving DecidableEq, Repr

def acquiredGood : Int := 0
def acquiredDuplicateFinger : Int := 1105
def acquiredDuplicateArea : Int := 1106
def acquiredLowCover : Int := 1107
def errorHwUnavailable : Int := 1

/-- A message to the framework. Without a finger the token of an authentication is not set. -/
inductive Message where
  | error (info : Int)
  | acquired (info : Int)
  | enrolling (gid fid : Int) (samplesRemaining msg : UInt32)
  | removed (gid fid : Int)
  | authenticated (gid fid : Int) (hat : Option HwAuthToken)
  deriving DecidableEq, Repr

inductive Event where
  | notify (message : Message)
  | dbUpdate (fid : Int)
  | saveToken (fid : Int) (hat : HwAuthToken)
  deriving DecidableEq, Repr

/-- `smaf`, the work mode that `fp_setWork` leaves for `fp_getWork`, and what has been done. -/
structure Mafprint where
  fdev : Int
  fdb : Int
  gid : Int
  fid : Int
  grade : Int32
  stop : Bool
  wait : Bool
  fpok : Int
  first : Bool
  busy : Bool
  operId : UInt64
  authId : UInt64
  hat : HwAuthToken
  work : Work
  log : List Event
  deriving DecidableEq, Repr

def Mafprint.initial : Mafprint where
  fdev := -1
  fdb := -1
  gid := 0
  fid := 0
  grade := 0
  stop := false
  wait := false
  fpok := fpOk
  first := true
  busy := false
  operId := 0
  authId := 0
  hat := ⟨0, 0, 0, 0, 0, 0, List.replicate 32 0⟩
  work := .doIdle
  log := []

def Mafprint.record (h : Mafprint) (event : Event) : Mafprint := { h with log := h.log ++ [event] }

def Mafprint.opened (h : Mafprint) : Bool := h.fdev != -1 && h.fdb != -1

def fingers : List Int := [1, 2, 3, 4, 5]

theorem mem_fingers {fid : Int} : fid ∈ fingers ↔ 1 ≤ fid ∧ fid ≤ maxf := by
  simp only [fingers, maxf, List.mem_cons, List.not_mem_nil, or_false]
  omega

/-- `tnum` is what `fp_getEnrollment` returns for each finger. -/
def newFid (tnum : Int → Int) : Int :=
  (fingers.find? (fun fid => tnum fid == 0)).getD fpNewfFail

theorem newFid_free {tnum : Int → Int} (free : ∃ fid ∈ fingers, tnum fid = 0) :
    newFid tnum ∈ fingers ∧ tnum (newFid tnum) = 0 := by
  rcases free with ⟨fid, member, empty⟩
  cases found : fingers.find? (fun fid => tnum fid == 0) with
  | none =>
      have taken := List.find?_eq_none.mp found fid member
      simp [empty] at taken
  | some first =>
      have chosen : newFid tnum = first := by rw [newFid, found, Option.getD_some]
      have zero := List.find?_some found
      rw [chosen]
      exact ⟨List.mem_of_find?_eq_some found, by simpa using zero⟩

def maOpen (fpOpen : Int) (h : Mafprint) : Mafprint × Int :=
  if h.fdev ≠ -1 then (h, h.fdev)
  else
    let h := { h with wait := false }
    (if 0 ≤ fpOpen then { h with fdev := fpOpen } else h, fpOpen)

/-- What opening the database meets. `ret` is read uninitialised without a device. -/
structure DbResults where
  fpDbOpen : Int
  fpInitBoot : Int
  tnum : Int → Int
  ret : Int

def dbOpen (results : DbResults) (h : Mafprint) : Mafprint × Int :=
  if h.fdb ≠ -1 then (h, h.fdb)
  else if 0 ≤ h.fdev then
    if results.fpDbOpen = fpOk then
      let h := { h with fdb := results.fpDbOpen, fpok := results.fpInitBoot }
      if h.fpok ≠ fpOk then ({ h with work := .doFactory }, fpOk)
      else
        let suc := fingers.any (fun fid => 0 < results.tnum fid)
        ({ h with work := if suc then .doMatch else .doIdle }, fpOk)
    else (h, results.fpDbOpen)
  else (h, results.ret)

def dbClose (h : Mafprint) : Mafprint := { h with stop := true, fdb := -1 }

def maSetActiveGroup (gid : Int) (results : DbResults) (h : Mafprint) : Mafprint × Int :=
  let h := { h with gid := gid }
  let h := if h.fdb = 0 then dbClose h else h
  let (h, ret) := dbOpen results h
  (h, if 0 ≤ ret then 0 else ret)

def maEnroll (hat : HwAuthToken) (gid : Int) (tnum : Int → Int) (h : Mafprint) :
    Mafprint × Int :=
  let h := { h with hat := hat }
  if h.opened then
    let h := { h with stop := false, gid := gid, fid := newFid tnum, work := .doEnroll }
    ({ h with grade := 0 }, fpOk)
  else (h, fpOk)

def maCancel (h : Mafprint) : Mafprint × Int :=
  if h.opened then ({ h with stop := true, work := .doIdle }, fpOk) else (h, fpOk)

def maVerify (operId : UInt64) (gid : Int) (h : Mafprint) : Mafprint × Int :=
  let h := { h with operId := operId }
  if h.opened ∧ h.work ≠ .doDebug then
    ({ h with stop := false, gid := gid, first := false, work := .doMatch }, fpOk)
  else (h, fpOk)

def maGetAuthId (authId : UInt64) (h : Mafprint) : Mafprint × UInt64 :=
  ({ h with authId := authId }, authId)

/-- One finger of `ma_remove`, with the result of the call so far. -/
def removeFinger (gid : Int) (cleared updated : Int → Int) (s : Mafprint × Int) (fid : Int) :
    Mafprint × Int :=
  if cleared fid = fpOk then
    let h := s.1.record (.dbUpdate fid)
    if updated fid = fpOk then (h.record (.notify (.removed gid fid)), fpOk) else (h, updated fid)
  else (s.1, cleared fid)

/-- `cleared` and `updated` are the results of `fp_clearEnrollment` and `fp_dbUpdate`. -/
def maRemove (gid fid : Int) (cleared updated : Int → Int) (h : Mafprint) : Mafprint × Int :=
  if h.fdev ≠ -1 then
    if 0 < fid then removeFinger gid cleared updated (h, -1) fid
    else if fid = 0 then fingers.foldl (removeFinger gid cleared updated) (h, -1)
    else (h, -1)
  else (h, -1)

/-- The alarm handler. -/
def handler (h : Mafprint) : Mafprint :=
  if h.work = .doMatch ∧ h.wait = true then { h with work := .doDetect } else h

def samplesRemaining (grade : Int32) : UInt32 :=
  let remain : Int32 := 100 - grade
  if 0 ≤ remain then remain.toUInt32 else 0

def notifyEnroll (gid fid : Int) (grade : Int32) (h : Mafprint) : Mafprint :=
  h.record (.notify (.enrolling gid fid (samplesRemaining grade) 1000))

/-- What the algorithm, the stored token and the clock return in one turn of the event thread. -/
structure Results where
  fpMatch : Int → Int
  fpEnroll : Int32
  userId : UInt64
  timestamp : UInt64

def duplicate (results : Results) : Bool := fingers.any (fun id => results.fpMatch id == fpOk)

def enroll (val : Int) (results : Results) (h : Mafprint) : Mafprint :=
  if val = fpPressed ∨ h.grade = 100 then h
  else if val = fpChkPart then h.record (.notify (.acquired acquiredLowCover))
  else if val = fpChkFull then
    if duplicate results then h.record (.notify (.acquired acquiredDuplicateFinger))
    else
      let grade := results.fpEnroll
      let h :=
        if grade = h.grade + 2 then h.record (.notify (.acquired acquiredDuplicateArea)) else h
      let h := notifyEnroll h.gid h.fid grade { h with grade := grade }
      if h.grade = 100 then (h.record (.dbUpdate h.fid)).record (.saveToken h.fid h.hat) else h
  else h

/-- The loop of `match`: the finger that matches, or 0, and the number of empty ones. -/
def matchLoop (fpMatch : Int → Int) : List Int → Int → Int × Int
  | [], cnt => (0, cnt)
  | id :: rest, cnt =>
      if fpMatch id = fpOk then (id, cnt)
      else if fpMatch id = fpEmpty then matchLoop fpMatch rest (cnt + 1)
      else matchLoop fpMatch rest cnt

/-- The number 1 and the authenticator type 2 are stored in network order. -/
def matchToken (results : Results) (h : Mafprint) : HwAuthToken where
  version := 0
  challenge := h.operId
  userId := if h.operId = 0 then results.userId else h.authId
  authenticatorId := 0x0100000000000000
  authenticatorType := 0x02000000
  timestamp := results.timestamp
  hmac := List.replicate 32 0

def notifyAuthenticated (gid fid : Int) (results : Results) (h : Mafprint) : Mafprint :=
  let hat := if 0 < fid then some (matchToken results h) else none
  h.record (.notify (.authenticated gid fid hat))

def notifyMatch (gid fid : Int) (results : Results) (h : Mafprint) : Mafprint :=
  notifyAuthenticated gid fid results (h.record (.notify (.acquired acquiredGood)))

/-- The finger that `match` reports, if any. -/
def matchReport (results : Results) : Option Int :=
  let (suc, cnt) := matchLoop results.fpMatch fingers 0
  if 0 < suc then some suc else if cnt < maxf then some 0 else none

/-- A finger that matched is written back to the database. -/
def matchUpdate (suc : Int) (h : Mafprint) : Mafprint :=
  if 0 < suc then h.record (.dbUpdate suc) else h

def matchFinger (results : Results) (h : Mafprint) : Mafprint :=
  match matchReport results with
  | some suc => matchUpdate suc (notifyMatch h.gid suc results h)
  | none => h

/-- Results of `check` that end the loop of `interrupt_event`. -/
def leaves (ret : Int) : Prop := ret = fpCancel ∨ ret = fpChkUp

instance (ret : Int) : Decidable (leaves ret) := inferInstanceAs (Decidable (_ ∨ _))

/-- Enrolling and matching differ in what they do with a finger. -/
def fingerTurn (finger : Mafprint → Mafprint) (ret : Int) (h : Mafprint) : Mafprint :=
  if ret = fpCommFail then h.record (.notify (.error errorHwUnavailable))
  else if leaves ret then { h with stop := false }
  else if ret = fpChkFull ∨ ret = fpChkPart then finger h
  else if ret = fpPressed ∧ h.first = false then { finger h with first := true }
  else h

/-- The loop of `interrupt_event`, once, with the result of `check`. A gesture is not looped. -/
def interruptTurn (what : Work) (ret : Int) (results : Results) (h : Mafprint) : Mafprint :=
  match what with
  | .doIdle => if leaves ret then { h with stop := false } else h
  | .doEnroll => fingerTurn (enroll ret results) ret h
  | .doMatch => fingerTurn (matchFinger results) ret h
  | .doGesture => { h with stop := false }
  | .doFactory | .doDetect | .doDebug | .doRestore => h

/-- The start of `interrupt_event`. -/
def interruptBegin (what : Work) (h : Mafprint) : Mafprint :=
  if what = .doIdle then { h with stop := false } else h

/-- `wakeup_event` up to the interrupt that it may go on with. -/
def wakeupEvent (what : Work) (fpCalibrate : Int) (h : Mafprint) : Mafprint :=
  match what with
  | .doDetect => { h with work := .doMatch }
  | .doFactory => { h with fpok := fpCalibrate, work := .doIdle }
  | .doDebug => { h with stop := true }
  | _ => h

theorem removeFinger_changes (gid : Int) (cleared updated : Int → Int) (s : Mafprint × Int)
    (fid : Int) : ∃ log, (removeFinger gid cleared updated s fid).1 = { s.1 with log := log } := by
  rw [removeFinger]
  split
  · dsimp only
    split
    · exact ⟨_, rfl⟩
    · exact ⟨_, rfl⟩
  · exact ⟨s.1.log, rfl⟩

theorem removeFingers_changes (gid : Int) (cleared updated : Int → Int) (fids : List Int)
    (s : Mafprint × Int) :
    ∃ log, (fids.foldl (removeFinger gid cleared updated) s).1 = { s.1 with log := log } := by
  induction fids generalizing s with
  | nil => exact ⟨s.1.log, rfl⟩
  | cons fid fids ih =>
      rcases removeFinger_changes gid cleared updated s fid with ⟨first, one⟩
      rcases ih (removeFinger gid cleared updated s fid) with ⟨log, rest⟩
      rw [one] at rest
      exact ⟨log, rest⟩

/-- A removal only shows in the log. -/
theorem maRemove_changes (gid fid : Int) (cleared updated : Int → Int) (h : Mafprint) :
    ∃ log, (maRemove gid fid cleared updated h).1 = { h with log := log } := by
  rw [maRemove]
  split
  · split
    · exact removeFinger_changes gid cleared updated (h, -1) fid
    · split
      · exact removeFingers_changes gid cleared updated fingers (h, -1)
      · exact ⟨h.log, rfl⟩
  · exact ⟨h.log, rfl⟩

theorem enroll_changes (val : Int) (results : Results) (h : Mafprint) :
    ∃ grade log, enroll val results h = { h with grade := grade, log := log } := by
  simp only [enroll]
  split
  · exact ⟨h.grade, h.log, rfl⟩
  · split
    · exact ⟨h.grade, _, rfl⟩
    · split
      · split
        · exact ⟨h.grade, _, rfl⟩
        · split <;> split <;> exact ⟨_, _, rfl⟩
      · exact ⟨h.grade, h.log, rfl⟩

theorem matchUpdate_changes (suc : Int) (h : Mafprint) :
    ∃ log, matchUpdate suc h = { h with log := log } := by
  rw [matchUpdate]
  split
  · exact ⟨_, rfl⟩
  · exact ⟨h.log, rfl⟩

theorem matchFinger_changes (results : Results) (h : Mafprint) :
    ∃ log, matchFinger results h = { h with log := log } := by
  rw [matchFinger]
  split
  · rename_i suc _
    rcases matchUpdate_changes suc (notifyMatch h.gid suc results h) with ⟨log, changed⟩
    exact ⟨log, changed⟩
  · exact ⟨h.log, rfl⟩

theorem fingerTurn_changes {finger : Mafprint → Mafprint} (ret : Int) (h : Mafprint)
    (changes : ∃ grade log, finger h = { h with grade := grade, log := log }) :
    ∃ grade stop first log, fingerTurn finger ret h =
      { h with grade := grade, stop := stop, first := first, log := log } := by
  rcases changes with ⟨grade, log, changed⟩
  rw [fingerTurn, changed]
  split
  · exact ⟨h.grade, h.stop, h.first, _, rfl⟩
  · split
    · exact ⟨h.grade, false, h.first, h.log, rfl⟩
    · split
      · exact ⟨grade, h.stop, h.first, log, rfl⟩
      · split
        · exact ⟨grade, h.stop, true, log, rfl⟩
        · exact ⟨h.grade, h.stop, h.first, h.log, rfl⟩

/-- A turn of the event thread touches the grade, its two flags and the log. -/
theorem interruptTurn_changes (what : Work) (ret : Int) (results : Results) (h : Mafprint) :
    ∃ grade stop first log, interruptTurn what ret results h =
      { h with grade := grade, stop := stop, first := first, log := log } := by
  cases what with
  | doIdle =>
      simp only [interruptTurn]
      split
      · exact ⟨h.grade, false, h.first, h.log, rfl⟩
      · exact ⟨h.grade, h.stop, h.first, h.log, rfl⟩
  | doEnroll => exact fingerTurn_changes ret h (enroll_changes ret results h)
  | doMatch =>
      rcases matchFinger_changes results h with ⟨log, changed⟩
      exact fingerTurn_changes ret h ⟨h.grade, log, changed⟩
  | doGesture => exact ⟨h.grade, false, h.first, h.log, rfl⟩
  | doFactory | doDetect | doDebug | doRestore => exact ⟨h.grade, h.stop, h.first, h.log, rfl⟩

theorem interruptTurn_work (what : Work) (ret : Int) (results : Results) (h : Mafprint) :
    (interruptTurn what ret results h).work = h.work := by
  rcases interruptTurn_changes what ret results h with ⟨grade, stop, first, log, changed⟩
  rw [changed]

theorem interruptBegin_changes (what : Work) (h : Mafprint) :
    ∃ stop, interruptBegin what h = { h with stop := stop } := by
  rw [interruptBegin]
  split
  · exact ⟨false, rfl⟩
  · exact ⟨h.stop, rfl⟩

end X5MaxDevice.Fingerprint.Hal
