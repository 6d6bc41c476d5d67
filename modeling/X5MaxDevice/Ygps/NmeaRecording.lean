import X5MaxDevice.Base.Java
import X5MaxDevice.Base.Transitions

/-! The recording of NMEA sentences to a file: the buttons and the listener on the UI thread, and
the worker that writes and closes. -/

namespace X5MaxDevice.Ygps.NmeaRecording

open X5MaxDevice.Java
open X5MaxDevice.Transitions

/-- A message to the worker, with the number of the start that it belongs to. -/
inductive Message where
  | save (start : Nat) (nmea : Option JString)
  | close (start : Nat)
  deriving DecidableEq, Repr

/-- What the worker executes next. It finishes a recording for a failed save or for a close. -/
inductive Worker where
  | idle
  | writing (start : Nat) (nmea : JString)
  | flushing (start : Nat)
  | removing (start : Nat)
  | finishing (start : Nat) (saving : Bool)
  | clearing
  | posting
  | crashed
  deriving DecidableEq, Repr

/-- A use of `mOutputNMEALog` for a message: the start that the message belongs to, and the start
that opened the stream found there. -/
structure Access where
  start : Nat
  stream : Option Nat
  deriving DecidableEq, Repr

/-- A stream is named by the number of the start that opened it. The buttons are enabled or not;
`finished` counts the runnables that wait for the UI thread. -/
structure Recording where
  mStartNmeaRecord : Bool
  mOutputNMEALog : Option Nat
  mBtnNmeaStart : Bool
  mBtnNMEAStop : Bool
  queue : List Message
  worker : Worker
  finished : Nat
  starts : Nat
  closed : List Nat
  accesses : List Access
  deriving DecidableEq, Repr

def Recording.create : Recording where
  mStartNmeaRecord := false
  mOutputNMEALog := none
  mBtnNmeaStart := true
  mBtnNMEAStop := false
  queue := []
  worker := .idle
  finished := 0
  starts := 0
  closed := []
  accesses := []

/-- What happens next: on the UI thread a click, a sentence or the runnable of the worker; or the
worker goes one statement further, and a file operation succeeds or throws. -/
inductive Event where
  | start (created : Bool)
  | stop
  | nmeaReceived (nmea : Option JString)
  | finished
  | worker (ok : Bool)
  deriving DecidableEq, Repr

def Message.closes : Message → Bool
  | .save _ _ => false
  | .close _ => true

def Message.start : Message → Nat
  | .save start _ => start
  | .close start => start

/-- A disabled button gets no clicks. -/
def Recording.clickStart (r : Recording) (created : Bool) : Recording :=
  if r.mBtnNmeaStart && created then
    { r with
      mOutputNMEALog := some (r.starts + 1), starts := r.starts + 1, mStartNmeaRecord := true,
      mBtnNmeaStart := false, mBtnNMEAStop := true }
  else r

def Recording.clickStop (r : Recording) : Recording :=
  if r.mBtnNMEAStop then
    { r with mStartNmeaRecord := false, queue := r.queue ++ [.close r.starts] }
  else r

def Recording.onNmeaReceived (r : Recording) (nmea : Option JString) : Recording :=
  if r.mStartNmeaRecord then { r with queue := r.queue ++ [.save r.starts nmea] } else r

def Recording.runFinished (r : Recording) : Recording :=
  if 0 < r.finished then
    { r with finished := r.finished - 1, mBtnNMEAStop := false, mBtnNmeaStart := true }
  else r

/-- The worker calls the stream; on null the process ends. -/
def Recording.access (r : Recording) (start : Nat) (next : Worker) : Recording :=
  { r with
    accesses := ⟨start, r.mOutputNMEALog⟩ :: r.accesses
    worker := if r.mOutputNMEALog = none then .crashed else next }

def Recording.work (r : Recording) (ok : Bool) : Recording :=
  match r.worker with
  | .idle => match r.queue with
    | [] => r
    | .save _ none :: queue => { r with queue := queue }
    | .save start (some nmea) :: queue => { r with queue := queue, worker := .writing start nmea }
    | .close start :: queue => { r with queue := queue, worker := .removing start }
  | .writing start _ => r.access start (if ok then .flushing start else .finishing start true)
  | .flushing start => r.access start (if ok then .idle else .finishing start true)
  | .removing start =>
      { r with queue := r.queue.filter Message.closes, worker := .finishing start false }
  | .finishing start _ =>
      if ok then
        { r.access start .clearing with closed := r.mOutputNMEALog.toList ++ r.closed }
      else r.access start .idle
  | .clearing => { r with mOutputNMEALog := none, worker := .posting }
  | .posting => { r with finished := r.finished + 1, worker := .idle }
  | .crashed => r

/-- A handler of the UI thread is one step: it touches what the worker uses only once. -/
def advance (r : Recording) (event : Event) : Recording :=
  if r.worker = .crashed then r
  else match event with
    | .start created => r.clickStart created
    | .stop => r.clickStop
    | .nmeaReceived nmea => r.onNmeaReceived nmea
    | .finished => r.runFinished
    | .worker ok => r.work ok

/-- The worker has used no null stream and no stream of another start, and sentences are recorded
only while a stream is open. -/
structure Safe (r : Recording) : Prop where
  accesses : ∀ access ∈ r.accesses, access.stream = some access.start
  recording : r.mStartNmeaRecord = true →
    ∃ stream, r.mOutputNMEALog = some stream ∧ stream ∉ r.closed

def Recording.isOpen (r : Recording) : Bool :=
  r.mOutputNMEALog.any (fun stream => !r.closed.contains stream)

/-- No save that fails closes the stream; the stop button is not clicked between the close of the
stream and the runnable that disables it; and a close that succeeds leaves no other close behind. -/
def Heeded (r : Recording) : Event → Bool
  | .stop => !r.mBtnNMEAStop || r.isOpen
  | .worker true => match r.worker with
    | .finishing _ saving => !saving && !r.queue.any Message.closes
    | _ => true
  | _ => true

/-- The message that the worker handles belongs to the given start. -/
def Worker.Serves (start : Nat) : Worker → Prop
  | .idle => True
  | .writing other _ | .flushing other | .removing other | .finishing other _ => other = start
  | .clearing | .posting | .crashed => False

/-- The worker handles a close, and the stream is still open. -/
def Worker.closes : Worker → Bool
  | .removing _ | .finishing _ false => true
  | _ => false

/-- The worker handles a save. -/
def Worker.saves : Worker → Bool
  | .writing _ _ | .flushing _ | .finishing _ true => true
  | _ => false

/-- Behind a close wait no saves. -/
def Ordered (queue : List Message) : Prop :=
  queue.Pairwise (fun earlier later => earlier.closes = true → later.closes = true)

/-- The queue and the worker, while the stream of the given start is open. -/
structure Orderly (start : Nat) (recording : Bool) (worker : Worker) (queue : List Message) :
    Prop where
  serves : worker.Serves start
  queued : ∀ message ∈ queue, message.start = start
  ordered : Ordered queue
  closing : worker.closes = true → ∀ message ∈ queue, message.closes = true
  recorded : recording = true → worker.closes = false ∧ queue.any Message.closes = false
  pending : recording = false →
    worker.saves = true ∨ (∃ message ∈ queue, message.closes = false) →
      queue.any Message.closes = true

structure Live (r : Recording) : Prop where
  stream : r.mOutputNMEALog = some r.starts
  opened : r.starts ∉ r.closed
  buttons : r.mBtnNmeaStart = false ∧ r.mBtnNMEAStop = true
  finished : r.finished = 0
  orderly : Orderly r.starts r.mStartNmeaRecord r.worker r.queue

/-- No stream is open, and no message waits. -/
structure Rests (r : Recording) (worker : Worker) (stream : Option Nat) (finished : Nat)
    (startable : Bool) : Prop where
  recording : r.mStartNmeaRecord = false
  shut : r.isOpen = false
  queued : r.queue = []
  worker : r.worker = worker
  stream : r.mOutputNMEALog = stream
  finished : r.finished = finished
  buttons : r.mBtnNmeaStart = startable ∧ r.mBtnNMEAStop = !startable

/-- The stages of a recording. -/
inductive Stage (r : Recording) : Prop where
  | ready (rests : Rests r .idle none 0 true)
  | live (live : Live r)
  | closed (rests : Rests r .clearing (some r.starts) 0 false)
  | cleared (rests : Rests r .posting none 0 false)
  | posted (rests : Rests r .idle none 1 false)

structure Consistent (r : Recording) : Prop where
  stage : Stage r
  accesses : ∀ access ∈ r.accesses, access.stream = some access.start
  closed : ∀ stream ∈ r.closed, stream ≤ r.starts

theorem create_consistent : Consistent Recording.create where
  stage := .ready ⟨rfl, rfl, rfl, rfl, rfl, rfl, rfl, rfl⟩
  accesses _ member := absurd member List.not_mem_nil
  closed _ member := absurd member List.not_mem_nil

theorem Consistent.safe {r : Recording} (consistent : Consistent r) : Safe r := by
  refine ⟨consistent.accesses, fun recording => ?_⟩
  cases consistent.stage with
  | live live => exact ⟨r.starts, live.stream, live.opened⟩
  | ready rests | closed rests | cleared rests | posted rests =>
      exact absurd (rests.recording.symm.trans recording) Bool.false_ne_true

theorem Consistent.running {r : Recording} (consistent : Consistent r) : r.worker ≠ .crashed := by
  intro crashed
  cases consistent.stage with
  | live live =>
      have serves := live.orderly.serves
      rw [crashed] at serves
      exact serves
  | ready rests | closed rests | cleared rests | posted rests =>
      have worker := rests.worker
      rw [crashed] at worker
      cases worker

theorem Orderly.started (start : Nat) : Orderly start true .idle [] where
  serves := trivial
  queued _ member := absurd member List.not_mem_nil
  ordered := List.Pairwise.nil
  closing _ _ member := absurd member List.not_mem_nil
  recorded _ := ⟨rfl, rfl⟩
  pending silent := Bool.noConfusion silent

theorem Orderly.stopped {start : Nat} {recording : Bool} {worker : Worker} {queue : List Message}
    (orderly : Orderly start recording worker queue) :
    Orderly start false worker (queue ++ [.close start]) where
  serves := orderly.serves
  queued := List.forall_mem_append.mpr ⟨orderly.queued, List.forall_mem_singleton.mpr rfl⟩
  ordered := by
    refine List.pairwise_append.mpr ⟨orderly.ordered, List.pairwise_singleton _ _, ?_⟩
    intro earlier _ later last _
    rw [List.mem_singleton.mp last]
    rfl
  closing closes :=
    List.forall_mem_append.mpr ⟨orderly.closing closes, List.forall_mem_singleton.mpr rfl⟩
  recorded recording := Bool.noConfusion recording
  pending _ _ := by
    rw [List.any_append]
    exact Bool.or_true _

theorem Orderly.received {start : Nat} {worker : Worker} {queue : List Message}
    (orderly : Orderly start true worker queue) (nmea : Option JString) :
    Orderly start true worker (queue ++ [.save start nmea]) where
  serves := orderly.serves
  queued := List.forall_mem_append.mpr ⟨orderly.queued, List.forall_mem_singleton.mpr rfl⟩
  ordered := by
    refine List.pairwise_append.mpr ⟨orderly.ordered, List.pairwise_singleton _ _, ?_⟩
    intro earlier waits later _ closes
    exact absurd closes (List.any_eq_false.mp (orderly.recorded rfl).2 earlier waits)
  closing closes := Bool.noConfusion ((orderly.recorded rfl).1.symm.trans closes)
  recorded _ := by
    refine ⟨(orderly.recorded rfl).1, ?_⟩
    rw [List.any_append, (orderly.recorded rfl).2]
    rfl
  pending silent := Bool.noConfusion silent

/-- The worker goes on with its message, or is done with it. -/
theorem Orderly.goOn {start : Nat} {recording : Bool} {worker next : Worker}
    {queue : List Message} (orderly : Orderly start recording worker queue)
    (serves : next.Serves start) (open' : next.closes = false)
    (saves : next.saves = true → worker.saves = true) :
    Orderly start recording next queue where
  serves := serves
  queued := orderly.queued
  ordered := orderly.ordered
  closing closes := Bool.noConfusion (open'.symm.trans closes)
  recorded recording := ⟨open', (orderly.recorded recording).2⟩
  pending silent waits := orderly.pending silent (waits.imp_left saves)

theorem Orderly.tookSave {start : Nat} {recording : Bool} {message : Message}
    {queue : List Message} (orderly : Orderly start recording .idle (message :: queue))
    (saves : message.closes = false) {next : Worker} (serves : next.Serves start)
    (open' : next.closes = false) : Orderly start recording next queue where
  serves := serves
  queued := (List.forall_mem_cons.mp orderly.queued).2
  ordered := (List.pairwise_cons.mp orderly.ordered).2
  closing closes := Bool.noConfusion (open'.symm.trans closes)
  recorded recording := by
    have absent := (orderly.recorded recording).2
    rw [List.any_cons, Bool.or_eq_false_iff] at absent
    exact ⟨open', absent.2⟩
  pending silent _ := by
    have waits := orderly.pending silent (Or.inr ⟨message, List.mem_cons_self, saves⟩)
    rw [List.any_cons, saves, Bool.false_or] at waits
    exact waits

theorem Orderly.tookClose {start other : Nat} {recording : Bool} {queue : List Message}
    (orderly : Orderly start recording .idle (.close other :: queue)) :
    Orderly start recording (.removing other) queue := by
  obtain ⟨same, queued⟩ := List.forall_mem_cons.mp orderly.queued
  obtain ⟨behind, ordered⟩ := List.pairwise_cons.mp orderly.ordered
  have closes : ∀ message ∈ queue, message.closes = true :=
    fun message member => behind message member rfl
  refine ⟨same, queued, ordered, fun _ => closes, fun recording => ?_, fun _ waits => ?_⟩
  · exact Bool.noConfusion (orderly.recorded recording).2
  · rcases waits with saves | ⟨message, member, saves⟩
    · cases saves
    · exact Bool.noConfusion ((closes message member).symm.trans saves)

/-- The worker finds no saves to remove. -/
theorem Orderly.removed {start other : Nat} {recording : Bool} {queue : List Message}
    (orderly : Orderly start recording (.removing other) queue) :
    Orderly start recording (.finishing other false) (queue.filter Message.closes) := by
  rw [List.filter_eq_self.mpr (orderly.closing rfl)]
  exact ⟨orderly.serves, orderly.queued, orderly.ordered, orderly.closing, orderly.recorded,
    orderly.pending⟩

theorem clickStart_consistent {r : Recording} (consistent : Consistent r) (created : Bool) :
    Consistent (r.clickStart created) := by
  rw [Recording.clickStart]
  split
  · rename_i clicked
    obtain ⟨enabled, -⟩ := Bool.and_eq_true_iff.mp clicked
    cases consistent.stage with
    | ready rests =>
        refine ⟨.live ⟨rfl, ?_, ⟨rfl, rfl⟩, rests.finished, ?_⟩, consistent.accesses, ?_⟩
        · intro member
          exact absurd (consistent.closed _ member) (Nat.not_succ_le_self _)
        · simp only [rests.worker, rests.queued]
          exact Orderly.started _
        · intro stream member
          exact Nat.le_succ_of_le (consistent.closed stream member)
    | live live => exact absurd (live.buttons.1.symm.trans enabled) Bool.false_ne_true
    | closed rests | cleared rests | posted rests =>
        exact absurd (rests.buttons.1.symm.trans enabled) Bool.false_ne_true
  · exact consistent

theorem clickStop_consistent {r : Recording} (consistent : Consistent r)
    (heeded : Heeded r .stop = true) : Consistent r.clickStop := by
  rw [Recording.clickStop]
  split
  · rename_i enabled
    have opened : r.isOpen = true := by simpa [Heeded, enabled] using heeded
    cases consistent.stage with
    | live live =>
        exact ⟨.live ⟨live.stream, live.opened, live.buttons, live.finished, live.orderly.stopped⟩,
          consistent.accesses, consistent.closed⟩
    | ready rests | closed rests | cleared rests | posted rests =>
        exact absurd (rests.shut.symm.trans opened) Bool.false_ne_true
  · exact consistent

theorem onNmeaReceived_consistent {r : Recording} (consistent : Consistent r)
    (nmea : Option JString) : Consistent (r.onNmeaReceived nmea) := by
  rw [Recording.onNmeaReceived]
  split
  · rename_i recording
    cases consistent.stage with
    | live live =>
        have orderly := live.orderly
        rw [recording] at orderly
        refine ⟨.live ⟨live.stream, live.opened, live.buttons, live.finished, ?_⟩,
          consistent.accesses, consistent.closed⟩
        rw [recording]
        exact orderly.received nmea
    | ready rests | closed rests | cleared rests | posted rests =>
        exact absurd (rests.recording.symm.trans recording) Bool.false_ne_true
  · exact consistent

theorem runFinished_consistent {r : Recording} (consistent : Consistent r) :
    Consistent r.runFinished := by
  rw [Recording.runFinished]
  split
  · rename_i waits
    cases consistent.stage with
    | posted rests =>
        refine ⟨.ready ⟨rests.recording, rests.shut, rests.queued, rests.worker, rests.stream, ?_,
          rfl, rfl⟩, consistent.accesses, consistent.closed⟩
        simp [rests.finished]
    | live live =>
        rw [live.finished] at waits
        exact absurd waits (Nat.lt_irrefl 0)
    | ready rests | closed rests | cleared rests =>
        rw [rests.finished] at waits
        exact absurd waits (Nat.lt_irrefl 0)
  · exact consistent

theorem access_live {r : Recording} (live : Live r) (start : Nat) (next : Worker) :
    r.access start next =
      { r with accesses := ⟨start, some r.starts⟩ :: r.accesses, worker := next } := by
  rw [Recording.access, live.stream]
  rfl

theorem accesses_live {r : Recording} (consistent : Consistent r) {start : Nat}
    (same : start = r.starts) :
    ∀ access ∈ (⟨start, some r.starts⟩ : Access) :: r.accesses,
      access.stream = some access.start := by
  rw [same]
  exact List.forall_mem_cons.mpr ⟨rfl, consistent.accesses⟩

/-- The worker calls the stream and leaves it open. -/
theorem live_access {r : Recording} (consistent : Consistent r) (live : Live r) {start : Nat}
    (same : start = r.starts) {next : Worker}
    (orderly : Orderly r.starts r.mStartNmeaRecord next r.queue) :
    Consistent (r.access start next) := by
  rw [access_live live]
  exact ⟨.live ⟨live.stream, live.opened, live.buttons, live.finished, orderly⟩,
    accesses_live consistent same, consistent.closed⟩

theorem live_next {r : Recording} (consistent : Consistent r) (live : Live r)
    {queue : List Message} {worker : Worker}
    (orderly : Orderly r.starts r.mStartNmeaRecord worker queue) :
    Consistent { r with queue := queue, worker := worker } :=
  ⟨.live ⟨live.stream, live.opened, live.buttons, live.finished, orderly⟩, consistent.accesses,
    consistent.closed⟩

/-- The close of the stream succeeds for the only close that waits. -/
theorem live_close {r : Recording} (consistent : Consistent r) (live : Live r) {start : Nat}
    {saving : Bool} (finishing : r.worker = .finishing start saving)
    (heeded : Heeded r (.worker true) = true) : Consistent (r.work true) := by
  simp only [Heeded, finishing, Bool.and_eq_true, Bool.not_eq_true'] at heeded
  obtain ⟨rfl, alone⟩ := heeded
  have orderly := live.orderly
  rw [finishing] at orderly
  have silent : r.mStartNmeaRecord = false := by
    rw [← Bool.not_eq_true]
    exact fun recording => Bool.noConfusion (orderly.recorded recording).1
  have empty : r.queue = [] := by
    rw [List.eq_nil_iff_forall_not_mem]
    intro message member
    exact List.any_eq_false.mp alone message member (orderly.closing rfl message member)
  simp only [Recording.work, finishing, if_true]
  rw [access_live live]
  refine ⟨.closed ⟨silent, ?_, empty, rfl, live.stream, live.finished, live.buttons⟩,
    accesses_live consistent orderly.serves, ?_⟩
  · simp [Recording.isOpen, live.stream]
  · intro stream member
    rw [live.stream] at member
    rcases List.mem_append.mp member with last | before
    · exact Nat.le_of_eq (List.mem_singleton.mp last)
    · exact consistent.closed stream before

theorem live_work {r : Recording} (consistent : Consistent r) (live : Live r) {ok : Bool}
    (heeded : Heeded r (.worker ok) = true) : Consistent (r.work ok) := by
  have orderly := live.orderly
  cases worker : r.worker with
  | idle =>
      rw [worker] at orderly
      simp only [Recording.work, worker]
      cases queue : r.queue with
      | nil => exact consistent
      | cons message messages =>
          rw [queue] at orderly
          have first := (List.forall_mem_cons.mp orderly.queued).1
          cases message with
          | save start nmea =>
              cases nmea with
              | none => exact live_next consistent live (orderly.tookSave rfl trivial rfl)
              | some nmea => exact live_next consistent live (orderly.tookSave rfl first rfl)
          | close start => exact live_next consistent live orderly.tookClose
  | writing start nmea =>
      rw [worker] at orderly
      have same := orderly.serves
      simp only [Recording.work, worker]
      cases ok with
      | false => exact live_access consistent live same (orderly.goOn same rfl (fun _ => rfl))
      | true => exact live_access consistent live same (orderly.goOn same rfl (fun _ => rfl))
  | flushing start =>
      rw [worker] at orderly
      have same := orderly.serves
      simp only [Recording.work, worker]
      cases ok with
      | false => exact live_access consistent live same (orderly.goOn same rfl (fun _ => rfl))
      | true => exact live_access consistent live same (orderly.goOn trivial rfl (fun _ => rfl))
  | removing start =>
      rw [worker] at orderly
      simp only [Recording.work, worker]
      exact live_next consistent live orderly.removed
  | finishing start saving =>
      cases ok with
      | false =>
          rw [worker] at orderly
          simp only [Recording.work, worker]
          exact live_access consistent live orderly.serves
            (orderly.goOn trivial rfl (fun saves => Bool.noConfusion saves))
      | true => exact live_close consistent live worker heeded
  | clearing | posting | crashed =>
      rw [worker] at orderly
      exact absurd orderly.serves id

theorem work_consistent {r : Recording} (consistent : Consistent r) {ok : Bool}
    (heeded : Heeded r (.worker ok) = true) : Consistent (r.work ok) := by
  cases consistent.stage with
  | ready rests | posted rests =>
      simp only [Recording.work, rests.worker, rests.queued]
      exact consistent
  | live live => exact live_work consistent live heeded
  | closed rests =>
      simp only [Recording.work, rests.worker]
      exact ⟨.cleared ⟨rests.recording, rfl, rests.queued, rfl, rfl, rests.finished, rests.buttons⟩,
        consistent.accesses, consistent.closed⟩
  | cleared rests =>
      simp only [Recording.work, rests.worker]
      refine ⟨.posted ⟨rests.recording, rests.shut, rests.queued, rfl, rests.stream, ?_,
        rests.buttons⟩, consistent.accesses, consistent.closed⟩
      rw [rests.finished]

theorem advance_consistent {r : Recording} (consistent : Consistent r) {event : Event}
    (heeded : Heeded r event = true) : Consistent (advance r event) := by
  unfold advance
  rw [if_neg consistent.running]
  cases event with
  | start created => exact clickStart_consistent consistent created
  | stop => exact clickStop_consistent consistent heeded
  | nmeaReceived nmea => exact onNmeaReceived_consistent consistent nmea
  | finished => exact runFinished_consistent consistent
  | worker ok => exact work_consistent consistent heeded

theorem run_consistent {events : List Event}
    (heeded : AdmittedAlong (fun r event => Heeded r event = true) advance Recording.create
      events) : Consistent (events.foldl advance Recording.create) := by
  refine (reachesWhere_foldl heeded).invariant create_consistent ?_
  intro r event r' consistent admitted stepped
  obtain rfl := Option.some.inj stepped
  exact advance_consistent consistent admitted

def sentence : JString := "$GPGSA".toList

/-- Some events break the safety. -/
def CanBreak (r : Recording) : Prop := ∃ events : List Event, ¬ Safe (events.foldl advance r)

theorem CanBreak.before {r : Recording} (event : Event) (breaks : CanBreak (advance r event)) :
    CanBreak r := by
  obtain ⟨events, unsafe'⟩ := breaks
  exact ⟨event :: events, unsafe'⟩

theorem CanBreak.beforeWork {r : Recording} (ok : Bool) (running : r.worker ≠ .crashed)
    (breaks : CanBreak (r.work ok)) : CanBreak r := by
  apply CanBreak.before (.worker ok)
  unfold advance
  rw [if_neg running]
  exact breaks

theorem access_breaks {r : Recording} (null : r.mOutputNMEALog = none) (start : Nat)
    (next : Worker) : CanBreak (r.access start next) := by
  refine ⟨[], fun safe => ?_⟩
  have access := safe.accesses ⟨start, r.mOutputNMEALog⟩ List.mem_cons_self
  rw [null] at access
  cases access

theorem writing_breaks {r : Recording} (null : r.mOutputNMEALog = none) {start : Nat}
    {nmea : JString} (writing : r.worker = .writing start nmea) : CanBreak r := by
  apply CanBreak.beforeWork true (writing.symm ▸ Worker.noConfusion)
  simp only [Recording.work, writing]
  exact access_breaks null start _

theorem removing_breaks {r : Recording} (null : r.mOutputNMEALog = none) {start : Nat}
    (removing : r.worker = .removing start) : CanBreak r := by
  apply CanBreak.beforeWork true (removing.symm ▸ Worker.noConfusion)
  simp only [Recording.work, removing]
  apply CanBreak.beforeWork false Worker.noConfusion
  simp only [Recording.work, Bool.false_eq_true, if_false]
  apply access_breaks
  exact null

/-- Without a stream, the close that waits breaks the safety, or a save before it. -/
theorem idle_breaks {r : Recording} (null : r.mOutputNMEALog = none) (idle : r.worker = .idle)
    (waits : r.queue.any Message.closes = true) : CanBreak r := by
  induction queue : r.queue generalizing r with
  | nil =>
      rw [queue] at waits
      cases waits
  | cons message messages ih =>
      apply CanBreak.beforeWork true (idle.symm ▸ Worker.noConfusion)
      simp only [Recording.work, idle, queue]
      cases message with
      | save start nmea =>
          rw [queue] at waits
          cases nmea with
          | none => exact ih null rfl waits rfl
          | some nmea => exact writing_breaks null rfl
      | close start => exact removing_breaks null rfl

theorem posting_breaks {r : Recording} (null : r.mOutputNMEALog = none)
    (posting : r.worker = .posting) (waits : r.queue.any Message.closes = true) : CanBreak r := by
  apply CanBreak.beforeWork true (posting.symm ▸ Worker.noConfusion)
  simp only [Recording.work, posting]
  exact idle_breaks null rfl waits

theorem clearing_breaks {r : Recording} (clearing : r.worker = .clearing)
    (waits : r.queue.any Message.closes = true) : CanBreak r := by
  apply CanBreak.beforeWork true (clearing.symm ▸ Worker.noConfusion)
  simp only [Recording.work, clearing]
  exact posting_breaks rfl rfl waits

theorem stop_breaks {r : Recording} (consistent : Consistent r)
    (unheeded : Heeded r .stop = false) : CanBreak (advance r .stop) := by
  rw [Heeded, Bool.or_eq_false_iff, Bool.not_eq_false'] at unheeded
  obtain ⟨enabled, shut⟩ := unheeded
  have waits : (r.queue ++ [Message.close r.starts]).any Message.closes = true := by
    rw [List.any_append]
    exact Bool.or_true _
  unfold advance
  rw [if_neg consistent.running]
  simp only [Recording.clickStop, enabled, if_true]
  cases consistent.stage with
  | ready rests => exact absurd (rests.buttons.2.symm.trans enabled) Bool.false_ne_true
  | live live =>
      have opened : r.isOpen = true := by simp [Recording.isOpen, live.stream, live.opened]
      exact absurd (shut.symm.trans opened) Bool.false_ne_true
  | closed rests => exact clearing_breaks rests.worker waits
  | cleared rests => exact posting_breaks rests.stream rests.worker waits
  | posted rests => exact idle_breaks rests.stream rests.worker waits

/-- A save that fails and closes the stream, or a close with another one behind it. -/
theorem close_breaks {r : Recording} (live : Live r) {start : Nat} {saving : Bool}
    (finishing : r.worker = .finishing start saving)
    (unheeded : Heeded r (.worker true) = false) : CanBreak (r.work true) := by
  have orderly := live.orderly
  rw [finishing] at orderly
  simp only [Heeded, finishing] at unheeded
  simp only [Recording.work, finishing, if_true]
  rw [access_live live]
  by_cases recording : r.mStartNmeaRecord = true
  · refine ⟨[], fun safe => ?_⟩
    obtain ⟨stream, same, opened⟩ := safe.recording recording
    exact opened (List.mem_append_left _ (Option.mem_toList.mpr same))
  · rw [Bool.not_eq_true] at recording
    have waits : r.queue.any Message.closes = true := by
      cases saving with
      | true => exact orderly.pending recording (Or.inl rfl)
      | false => simpa using unheeded
    exact clearing_breaks rfl waits

/-- An event that is not heeded lets the safety be broken. -/
theorem unheeded_breaks {events : List Event}
    (heeded : AdmittedAlong (fun r event => Heeded r event = true) advance Recording.create events)
    {event : Event} (unheeded : Heeded (events.foldl advance Recording.create) event = false) :
    CanBreak (advance (events.foldl advance Recording.create) event) := by
  have consistent := run_consistent heeded
  generalize events.foldl advance Recording.create = r at consistent unheeded
  cases event with
  | stop => exact stop_breaks consistent unheeded
  | start created => cases unheeded
  | nmeaReceived nmea => cases unheeded
  | finished => cases unheeded
  | worker ok =>
      cases ok with
      | false => cases unheeded
      | true =>
          unfold advance
          rw [if_neg consistent.running]
          cases worker : r.worker with
          | finishing start saving =>
              cases consistent.stage with
              | live live => exact close_breaks live worker unheeded
              | ready rests | closed rests | cleared rests | posted rests =>
                  exact Worker.noConfusion (worker.symm.trans rests.worker)
          | idle | writing _ _ | flushing _ | removing _ | clearing | posting | crashed =>
              simp [Heeded, worker] at unheeded

end X5MaxDevice.Ygps.NmeaRecording
