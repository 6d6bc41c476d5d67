import X5MaxDevice.Base.Transitions
import X5MaxDevice.Fingerprint.Hal

/-! The finger that an enrollment writes to, over every sequence of HAL calls and turns of the
event thread. -/

namespace X5MaxDevice.Fingerprint.EnrollmentTarget

open X5MaxDevice.Fingerprint.Hal
open X5MaxDevice.Transitions

/-- The calls of the HAL, the alarm, and what the event thread does, with the mode that it has
read before. `ma_close` waits for the event thread, which never ends. -/
inductive Label where
  | maOpen (fpOpen : Int)
  | maSetActiveGroup (gid : Int) (results : DbResults)
  | maEnroll (hat : HwAuthToken) (gid : Int) (tnum : Int → Int)
  | maCancel
  | maVerify (operId : UInt64) (gid : Int)
  | maRemove (gid fid : Int) (cleared updated : Int → Int)
  | maGetAuthId (authId : UInt64)
  | handler
  | poll (wait : Bool)
  | wakeupEvent (what : Work) (fpCalibrate : Int)
  | interruptBegin (what : Work)
  | interruptTurn (what : Work) (ret : Int) (results : Results)

/-- A call of `ma_enroll`: what `fp_getEnrollment` would say of each finger, what the call
returned, and whether it took the mode to `DO_ENROLL`. -/
structure EnrollCall where
  tnum : Int → Int
  ret : Int
  entered : Bool

/-- `started` is what `fp_getEnrollment` said when the last enrollment was started. -/
structure State where
  hal : Mafprint
  started : Int → Int
  calls : List EnrollCall

def start : State := ⟨.initial, fun _ => 0, []⟩

def enrollCall (hat : HwAuthToken) (gid : Int) (tnum : Int → Int) (s : State) : State :=
  let (hal, ret) := maEnroll hat gid tnum s.hal
  let entered := decide (s.hal.work ≠ .doEnroll ∧ hal.work = .doEnroll)
  { hal := hal
    started := if s.hal.opened then tnum else s.started
    calls := s.calls ++ [⟨tnum, ret, entered⟩] }

def advance (s : State) : Label → State
  | .maOpen fpOpen => { s with hal := (maOpen fpOpen s.hal).1 }
  | .maSetActiveGroup gid results => { s with hal := (maSetActiveGroup gid results s.hal).1 }
  | .maEnroll hat gid tnum => enrollCall hat gid tnum s
  | .maCancel => { s with hal := (maCancel s.hal).1 }
  | .maVerify operId gid => { s with hal := (maVerify operId gid s.hal).1 }
  | .maRemove gid fid cleared updated =>
      { s with hal := (maRemove gid fid cleared updated s.hal).1 }
  | .maGetAuthId authId => { s with hal := (maGetAuthId authId s.hal).1 }
  | .handler => { s with hal := Hal.handler s.hal }
  | .poll wait => { s with hal := { s.hal with wait := wait } }
  | .wakeupEvent what fpCalibrate => { s with hal := Hal.wakeupEvent what fpCalibrate s.hal }
  | .interruptBegin what => { s with hal := Hal.interruptBegin what s.hal }
  | .interruptTurn what ret results => { s with hal := Hal.interruptTurn what ret results s.hal }

/-- An enrollment under way has a finger that was free when it was started. -/
def FingerWasFree (s : State) : Prop :=
  s.hal.work = .doEnroll →
    1 ≤ s.hal.fid ∧ s.hal.fid ≤ maxf ∧ s.started s.hal.fid = 0

/-- Without a free finger `ma_enroll` fails and does not enter `DO_ENROLL`. -/
def FullIsRefused (s : State) : Prop :=
  ∀ call ∈ s.calls, (∀ fid, 1 ≤ fid → fid ≤ maxf → call.tnum fid ≠ 0) →
    call.ret < 0 ∧ call.entered = false

/-- `ma_enroll` is called while some finger is free. -/
def FingerFree : Label → Prop
  | .maEnroll _ _ tnum => ∃ fid ∈ fingers, tnum fid = 0
  | _ => True

instance : (label : Label) → Decidable (FingerFree label)
  | .maEnroll _ _ tnum => inferInstanceAs (Decidable (∃ fid ∈ fingers, tnum fid = 0))
  | .maOpen _ | .maSetActiveGroup _ _ | .maCancel | .maVerify _ _ | .maRemove _ _ _ _
  | .maGetAuthId _ | .handler | .poll _ | .wakeupEvent _ _ | .interruptBegin _
  | .interruptTurn _ _ _ => isTrue trivial

/-- A step that selects no finger and does not enter `DO_ENROLL`. -/
def KeepsTarget (h h' : Mafprint) : Prop :=
  h'.work = .doEnroll → h.work = .doEnroll ∧ h'.fid = h.fid

theorem KeepsTarget.same {h h' : Mafprint} (work : h'.work = h.work) (fid : h'.fid = h.fid) :
    KeepsTarget h h' := by
  intro enrolling
  exact ⟨work.symm.trans enrolling, fid⟩

theorem KeepsTarget.other {h h' : Mafprint} (what : Work) (work : h'.work = what)
    (differs : what ≠ .doEnroll) : KeepsTarget h h' := by
  intro enrolling
  exact absurd (work.symm.trans enrolling) differs

theorem maOpen_keeps (fpOpen : Int) (h : Mafprint) : KeepsTarget h (maOpen fpOpen h).1 := by
  rw [maOpen]
  split
  · exact KeepsTarget.same rfl rfl
  · dsimp only
    split
    · exact KeepsTarget.same rfl rfl
    · exact KeepsTarget.same rfl rfl

theorem dbOpen_keeps (results : DbResults) (h : Mafprint) :
    KeepsTarget h (dbOpen results h).1 := by
  rw [dbOpen]
  split
  · exact KeepsTarget.same rfl rfl
  · split
    · split
      · dsimp only
        split
        · exact KeepsTarget.other .doFactory rfl (by decide)
        · dsimp only
          split
          · exact KeepsTarget.other .doMatch rfl (by decide)
          · exact KeepsTarget.other .doIdle rfl (by decide)
      · exact KeepsTarget.same rfl rfl
    · exact KeepsTarget.same rfl rfl

theorem maSetActiveGroup_keeps (gid : Int) (results : DbResults) (h : Mafprint) :
    KeepsTarget h (maSetActiveGroup gid results h).1 := by
  have opening : ∀ h' : Mafprint, h'.work = h.work → h'.fid = h.fid →
      KeepsTarget h (dbOpen results h').1 := by
    intro h' work fid enrolling
    have kept := dbOpen_keeps results h' enrolling
    exact ⟨work.symm.trans kept.1, kept.2.trans fid⟩
  simp only [maSetActiveGroup]
  split
  · exact opening _ rfl rfl
  · exact opening _ rfl rfl

theorem maCancel_keeps (h : Mafprint) : KeepsTarget h (maCancel h).1 := by
  rw [maCancel]
  split
  · exact KeepsTarget.other .doIdle rfl (by decide)
  · exact KeepsTarget.same rfl rfl

theorem maVerify_keeps (operId : UInt64) (gid : Int) (h : Mafprint) :
    KeepsTarget h (maVerify operId gid h).1 := by
  simp only [maVerify]
  split
  · exact KeepsTarget.other .doMatch rfl (by decide)
  · exact KeepsTarget.same rfl rfl

theorem handler_keeps (h : Mafprint) : KeepsTarget h (Hal.handler h) := by
  rw [Hal.handler]
  split
  · exact KeepsTarget.other .doDetect rfl (by decide)
  · exact KeepsTarget.same rfl rfl

theorem wakeupEvent_keeps (what : Work) (fpCalibrate : Int) (h : Mafprint) :
    KeepsTarget h (Hal.wakeupEvent what fpCalibrate h) := by
  cases what with
  | doDetect => exact KeepsTarget.other .doMatch rfl (by decide)
  | doFactory => exact KeepsTarget.other .doIdle rfl (by decide)
  | doDebug | doIdle | doEnroll | doMatch | doRestore | doGesture => exact KeepsTarget.same rfl rfl

/-- Only `ma_enroll` selects a finger and enters `DO_ENROLL`. -/
theorem advance_keeps (s : State) {label : Label}
    (other : ∀ hat gid tnum, label ≠ .maEnroll hat gid tnum) :
    KeepsTarget s.hal (advance s label).hal ∧ (advance s label).started = s.started ∧
      (advance s label).calls = s.calls := by
  cases label with
  | maEnroll hat gid tnum => exact absurd rfl (other hat gid tnum)
  | maOpen fpOpen => exact ⟨maOpen_keeps fpOpen s.hal, rfl, rfl⟩
  | maSetActiveGroup gid results => exact ⟨maSetActiveGroup_keeps gid results s.hal, rfl, rfl⟩
  | maCancel => exact ⟨maCancel_keeps s.hal, rfl, rfl⟩
  | maVerify operId gid => exact ⟨maVerify_keeps operId gid s.hal, rfl, rfl⟩
  | maRemove gid fid cleared updated =>
      rcases maRemove_changes gid fid cleared updated s.hal with ⟨log, changed⟩
      have kept : KeepsTarget s.hal (maRemove gid fid cleared updated s.hal).1 := by
        rw [changed]
        exact KeepsTarget.same rfl rfl
      exact ⟨kept, rfl, rfl⟩
  | maGetAuthId authId => exact ⟨KeepsTarget.same rfl rfl, rfl, rfl⟩
  | handler => exact ⟨handler_keeps s.hal, rfl, rfl⟩
  | poll wait => exact ⟨KeepsTarget.same rfl rfl, rfl, rfl⟩
  | wakeupEvent what fpCalibrate => exact ⟨wakeupEvent_keeps what fpCalibrate s.hal, rfl, rfl⟩
  | interruptBegin what =>
      have kept : KeepsTarget s.hal (Hal.interruptBegin what s.hal) := by
        rw [Hal.interruptBegin]
        split
        · exact KeepsTarget.same rfl rfl
        · exact KeepsTarget.same rfl rfl
      exact ⟨kept, rfl, rfl⟩
  | interruptTurn what ret results =>
      rcases interruptTurn_changes what ret results s.hal with
        ⟨grade, stop, first, log, changed⟩
      have kept : KeepsTarget s.hal (Hal.interruptTurn what ret results s.hal) := by
        rw [changed]
        exact KeepsTarget.same rfl rfl
      exact ⟨kept, rfl, rfl⟩

/-- With a free finger, `ma_enroll` selects one. -/
theorem enrollCall_fingerWasFree {s : State} (hat : HwAuthToken) (gid : Int) {tnum : Int → Int}
    (holds : FingerWasFree s) (free : ∃ fid ∈ fingers, tnum fid = 0) :
    FingerWasFree (enrollCall hat gid tnum s) := by
  cases opened : s.hal.opened with
  | true =>
      intro _
      have chosen := newFid_free free
      have range := mem_fingers.mp chosen.1
      have selected : (enrollCall hat gid tnum s).hal.fid = newFid tnum := by
        simp only [enrollCall, maEnroll, Mafprint.opened] at opened ⊢
        simp [opened]
      have recorded : (enrollCall hat gid tnum s).started = tnum := by
        simp [enrollCall, opened]
      rw [selected, recorded]
      exact ⟨range.1, range.2, chosen.2⟩
  | false =>
      have kept : (enrollCall hat gid tnum s).hal = { s.hal with hat := hat } := by
        simp only [enrollCall, maEnroll, Mafprint.opened] at opened ⊢
        simp [opened]
      have recorded : (enrollCall hat gid tnum s).started = s.started := by
        simp [enrollCall, opened]
      intro enrolling
      rw [kept, recorded] at *
      exact holds enrolling

structure Sound (s : State) : Prop where
  wasFree : FingerWasFree s
  refused : FullIsRefused s

theorem advance_sound {s : State} (label : Label) (holds : Sound s) (free : FingerFree label) :
    Sound (advance s label) := by
  by_cases enrolls : ∃ hat gid tnum, label = .maEnroll hat gid tnum
  · rcases enrolls with ⟨hat, gid, tnum, rfl⟩
    constructor
    · exact enrollCall_fingerWasFree hat gid holds.wasFree free
    · intro call member
      have calls : call ∈ s.calls ∨ call.tnum = tnum := by
        simp only [advance, enrollCall, List.mem_append, List.mem_singleton] at member
        rcases member with before | rfl
        · exact Or.inl before
        · exact Or.inr rfl
      rcases calls with before | same
      · exact holds.refused call before
      · intro full
        rcases free with ⟨fid, member, empty⟩
        have range := mem_fingers.mp member
        rw [same] at full
        exact absurd empty (full fid range.1 range.2)
  · have kept := advance_keeps s (fun hat gid tnum same => enrolls ⟨hat, gid, tnum, same⟩)
    constructor
    · intro enrolling
      have before := kept.1 enrolling
      rw [before.2, kept.2.1]
      exact holds.wasFree before.1
    · intro call member
      rw [kept.2.2] at member
      exact holds.refused call member

/-- In a run that calls `ma_enroll` only while some finger is free, an enrollment under way has
a finger that was free when it was started, and no call had to be refused. -/
theorem enrolls_free_finger {s : State}
    (reached : ReachesWhere (fun _ label => FingerFree label)
      (fun s label => some (advance s label)) start s) :
    FingerWasFree s ∧ FullIsRefused s := by
  have sound : Sound s := by
    apply reached.invariant (P := Sound)
    · constructor
      · intro enrolling
        cases enrolling
      · intro call member
        exact absurd member List.not_mem_nil
    · intro before label after holds free stepped
      cases stepped
      exact advance_sound label holds free
  exact ⟨sound.wasFree, sound.refused⟩

def anyToken : HwAuthToken := ⟨0, 0, 0, 0, 0, 0, []⟩

/-- The device and an empty database are opened. -/
def openHal : List Label := [.maOpen 3, .maSetActiveGroup 0 ⟨fpOk, fpOk, fun _ => 0, 0⟩]

/-- The first finger is enrolled, and the second is asked for. -/
def enrollSecond : List Label :=
  openHal ++ [.maEnroll anyToken 0 (fun fid => if fid = 1 then 15 else 0)]

theorem second_finger_free :
    FingerWasFree (enrollSecond.foldl advance start) ∧
      FullIsRefused (enrollSecond.foldl advance start) :=
  enrolls_free_finger (reachesWhere_foldl (by decide))

/-- With templates for all fingers, finger -4 is enrolled and the call succeeds. -/
theorem enrolls_without_free_finger :
    ¬ ∀ s, Reaches (fun s label => some (advance s label)) start s →
      FingerWasFree s ∧ FullIsRefused s := by
  intro sound
  have asserted := (sound _ (reaches_foldl advance
    (openHal ++ [.maEnroll anyToken 0 (fun _ => 15)]) start)).1
  have range := asserted (by decide)
  revert range
  decide

end X5MaxDevice.Fingerprint.EnrollmentTarget
