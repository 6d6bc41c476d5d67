import X5MaxDevice.Base.History
import X5MaxDevice.Romstats.Reporting

/-! Whether successive uploads keep an interval, however starts and tasks interleave. -/

namespace X5MaxDevice.Romstats.RateLimit

open X5MaxDevice.History
open X5MaxDevice.Transitions

def uploadTime : Event → Option Nat
  | .uploaded time => some time
  | _ => none

def lastUpload (log : List Event) : Option Nat := latest uploadTime log

/-- An upload succeeds an interval after the one before it, or later. -/
def Spaced (tframe : Int) (before : List Event) : Event → Prop
  | .uploaded time =>
      ∀ previous, lastUpload before = some previous →
        updateInterval tframe ≤ (time : Int) - previous
  | _ => True

/-- The ROM version stays, and the app is opened before the first upload only. -/
def OpenedBefore (s : State) : Label → Prop
  | .appOpened _ _ | .optedIn _ _ => lastUpload s.log = none
  | .romUpdated _ => False
  | _ => True

instance (s : State) : (label : Label) → Decidable (OpenedBefore s label)
  | .appOpened _ _ | .optedIn _ _ => inferInstanceAs (Decidable (_ = _))
  | .romUpdated _ => isFalse id
  | .boot _ | .connectivity _ _ | .delivery | .background _ _ | .postExecute _ | .killed _ =>
      isTrue trivial

/-- A monotone clock and a ROM version that stays; after the first upload the user leaves the
app alone. -/
def Untouched (s : State) (label : Label) : Prop := Monotone s label ∧ OpenedBefore s label

instance (s : State) (label : Label) : Decidable (Untouched s label) :=
  inferInstanceAs (Decidable (_ ∧ _))

/-- An intent that begins a task was sent after the last stored success and finds no other task
unfinished. -/
def BeginsFresh (s : State) : Message → Prop
  | .args request => s.tasks.any Task.held = true ∨ (request.stored = s.stored ∧ s.tasks = [])
  | .destroy => True

instance (s : State) : (message : Message) → Decidable (BeginsFresh s message)
  | .args _ => inferInstanceAs (Decidable (_ ∨ _))
  | .destroy => isTrue trivial

/-- Tasks begin fresh, and the process is not killed between an upload and the storing of it. -/
def StartsFresh (s : State) : Label → Prop
  | .delivery => ∀ message ∈ s.queue.head?, BeginsFresh s message
  | .killed _ => ∀ task ∈ s.tasks, task.status ≠ .done true
  | _ => True

instance (s : State) : (label : Label) → Decidable (StartsFresh s label)
  | .delivery => inferInstanceAs (Decidable (∀ message ∈ s.queue.head?, BeginsFresh s message))
  | .killed _ => inferInstanceAs (Decidable (∀ task ∈ s.tasks, task.status ≠ .done true))
  | .boot _ | .connectivity _ _ | .background _ _ | .postExecute _ | .appOpened _ _
  | .optedIn _ _ | .romUpdated _ => isTrue trivial

/-- The intents that the system keeps or has sent. -/
def requests (s : State) : List StartRequest :=
  s.starts ++ s.queue.filterMap (fun message =>
    match message with
    | .args request => some request
    | .destroy => none)

theorem mem_requests {s : State} {request : StartRequest} :
    request ∈ requests s ↔ request ∈ s.starts ∨ .args request ∈ s.queue := by
  rw [requests, List.mem_append, List.mem_filterMap]
  refine or_congr Iff.rfl ⟨?_, fun sent => ⟨_, sent, rfl⟩⟩
  rintro ⟨message, member, same⟩
  cases message with
  | args other => exact Option.some.inj same ▸ member
  | destroy => cases same

/-- An interval has passed since that upload. -/
def Late (tframe : Int) (s : State) (previous : Nat) : Prop :=
  updateInterval tframe ≤ (s.clock : Int) - previous

/-- The last upload has succeeded, but it is not stored yet. -/
def Unstored (s : State) : Prop := ∃ held, s.tasks = [⟨.done true, held⟩]

/-- The last upload is stored: what can still lead to another is late enough. -/
structure Stored (tframe : Int) (s : State) (previous : Nat) : Prop where
  checked : previous ≤ s.prefs.lastChecked
  reported : s.prefs.lastReportVersion = some s.romVersionHash
  sent : ∀ request ∈ requests s, request.stored = s.stored → Late tframe s previous
  begun : ∀ task ∈ s.tasks, task.status ≠ .done true ∧ Late tframe s previous

structure Limited (tframe : Int) (s : State) : Prop where
  single : s.tasks.length ≤ 1
  stamped : ∀ request ∈ requests s, request.stored ≤ s.stored
  before : lastUpload s.log = none → ∀ task ∈ s.tasks, task.status ≠ .done true
  after : ∀ previous, lastUpload s.log = some previous →
    previous ≤ s.clock ∧ (Unstored s ∨ Stored tframe s previous)
  lawful : AtEach (Spaced tframe) s.log

theorem limited_installed (tframe : Int) (cookie : Bool) (romVersionHash : String) (clock : Nat) :
    Limited tframe (installed cookie romVersionHash clock) :=
  ⟨Nat.zero_le 1, fun _ member => absurd member List.not_mem_nil,
    fun _ _ member => absurd member List.not_mem_nil,
    fun _ found => by simp [installed, lastUpload, latest] at found, atEach_nil _⟩

theorem lastUpload_snoc (log : List Event) (event : Event) :
    lastUpload (log ++ [event]) = (uploadTime event).or (lastUpload log) :=
  latest_snoc uploadTime log event

/-- A change that begins no task, sends no intent and reports no upload. -/
structure Quiet (s s' : State) : Prop where
  tasks : s'.tasks = s.tasks
  requests : ∀ request ∈ requests s', request ∈ requests s
  stored : s'.stored = s.stored
  clock : s.clock ≤ s'.clock
  upload : lastUpload s'.log = lastUpload s.log

section Preserved

variable {tframe : Int} {s s' : State}

theorem Late.mono {previous : Nat} (late : Late tframe s previous) (clock : s.clock ≤ s'.clock) :
    Late tframe s' previous := by
  unfold Late at late ⊢
  omega

/-- A quiet change keeps the invariant if it keeps the record of the last upload. -/
theorem Limited.of_quiet (limited : Limited tframe s) (quiet : Quiet s s')
    (lawful : AtEach (Spaced tframe) s'.log)
    (record : lastUpload s.log ≠ none → s.prefs.lastChecked ≤ s'.prefs.lastChecked ∧
      s'.prefs.lastReportVersion = s.prefs.lastReportVersion ∧
      s'.romVersionHash = s.romVersionHash) : Limited tframe s' := by
  refine ⟨?_, fun request member => ?_, fun missing task member => ?_, fun previous found => ?_,
    lawful⟩
  · rw [quiet.tasks]
    exact limited.single
  · rw [quiet.stored]
    exact limited.stamped request (quiet.requests request member)
  · rw [quiet.upload] at missing
    rw [quiet.tasks] at member
    exact limited.before missing task member
  · rw [quiet.upload] at found
    obtain ⟨past, unstored | stored⟩ := limited.after previous found
    · exact ⟨Nat.le_trans past quiet.clock, Or.inl (by rw [Unstored, quiet.tasks]; exact unstored)⟩
    · obtain ⟨checked, version, rom⟩ := record (by rw [found]; exact Option.some_ne_none previous)
      refine ⟨Nat.le_trans past quiet.clock, Or.inr ⟨Nat.le_trans stored.checked checked, ?_, ?_, ?_⟩⟩
      · rw [version, rom]
        exact stored.reported
      · intro request member same
        rw [quiet.stored] at same
        exact (stored.sent request (quiet.requests request member) same).mono quiet.clock
      · intro task member
        rw [quiet.tasks] at member
        exact ⟨(stored.begun task member).1, (stored.begun task member).2.mono quiet.clock⟩

/-- A change of what the record does not cover. -/
theorem Limited.of_frame (limited : Limited tframe s) (tasks : s'.tasks = s.tasks)
    (starts : s'.starts = s.starts) (queue : s'.queue = s.queue) (stored : s'.stored = s.stored)
    (clock : s.clock ≤ s'.clock) (log : s'.log = s.log)
    (record : lastUpload s.log ≠ none → s.prefs.lastChecked ≤ s'.prefs.lastChecked ∧
      s'.prefs.lastReportVersion = s.prefs.lastReportVersion ∧
      s'.romVersionHash = s.romVersionHash) : Limited tframe s' := by
  have same : requests s' = requests s := by rw [requests, requests, starts, queue]
  exact limited.of_quiet ⟨tasks, fun _ member => same ▸ member, stored, clock, by rw [log]⟩
    (log ▸ limited.lawful) record

theorem Limited.at (limited : Limited tframe s) {now : Nat} (later : s.clock ≤ now) :
    Limited tframe (s.at now) :=
  limited.of_frame rfl rfl rfl rfl later rfl (fun _ => ⟨Nat.le_refl _, rfl, rfl⟩)

theorem Limited.setAlarm (limited : Limited tframe s) (now : Nat) (millisFromNow : Int) :
    Limited tframe (setAlarm tframe s now millisFromNow) := by
  rcases setAlarm_cases tframe s now millisFromNow with
    same | ⟨nextAlarm, stored⟩ | ⟨unsynced, nextAlarm, faked⟩
  · rw [same]
    exact limited
  · rw [stored]
    exact limited.of_frame rfl rfl rfl rfl (Nat.le_refl _) rfl (fun _ => ⟨Nat.le_refl _, rfl, rfl⟩)
  · have upload : lastUpload (s.log ++ [.faked now]) = lastUpload s.log := lastUpload_snoc s.log _
    have lawful : AtEach (Spaced tframe) (s.log ++ [.faked now]) := limited.lawful.snoc trivial
    rw [faked]
    refine limited.of_quiet ⟨rfl, fun _ member => member, rfl, Nat.le_refl _, upload⟩ lawful
      (fun _ => ⟨?_, rfl, rfl⟩)
    rw [unsynced]
    exact Nat.zero_le _

theorem Limited.onReceiveBoot (limited : Limited tframe s) (now : Nat) :
    Limited tframe (onReceiveBoot tframe s now) := by
  rcases onReceiveBoot_cases tframe s now with ⟨-, recorded⟩ | scheduled
  · rw [recorded]
    exact limited.of_frame rfl rfl rfl rfl (Nat.le_refl _) rfl
      (fun _ => ⟨Nat.le_refl _, rfl, rfl⟩)
  · rw [scheduled]
    exact limited.setAlarm now 0

theorem mem_requests_startService {now : Nat} {promptUser : Bool} {request : StartRequest}
    (member : request ∈ requests (s.startService now promptUser)) :
    request ∈ requests s ∨ request.stored = s.stored := by
  rw [mem_requests] at member ⊢
  rcases member with kept | sent
  · rcases List.mem_append.mp kept with earlier | new
    · exact Or.inl (Or.inl earlier)
    · exact Or.inr (by rw [List.mem_singleton.mp new])
  · rcases List.mem_append.mp sent with earlier | new
    · exact Or.inl (Or.inr earlier)
    · have same := List.mem_singleton.mp new
      exact Or.inr (by rw [Message.args.inj same])

/-- Starting the service keeps the invariant if a stored upload is an interval ago. -/
theorem Limited.startService (limited : Limited tframe s) (now : Nat)
    (late : ∀ previous, Stored tframe s previous → Late tframe s previous) :
    Limited tframe (s.startService now false) := by
  have upload : lastUpload (s.log ++ [.started now]) = lastUpload s.log := lastUpload_snoc s.log _
  have lawful : AtEach (Spaced tframe) (s.log ++ [.started now]) := limited.lawful.snoc trivial
  refine ⟨limited.single, fun request member => ?_, fun missing => ?_, fun previous found => ?_,
    lawful⟩
  · rcases mem_requests_startService member with earlier | new
    · exact limited.stamped request earlier
    · exact Nat.le_of_eq new
  · exact limited.before (upload.symm.trans missing)
  · obtain ⟨past, unstored | stored⟩ := limited.after previous (upload.symm.trans found)
    · exact ⟨past, Or.inl unstored⟩
    · refine ⟨past, Or.inr ⟨stored.checked, stored.reported, fun request member same => ?_,
        stored.begun⟩⟩
      exact late previous stored

theorem Limited.launchService (limited : Limited tframe s) {now : Nat} (present : s.clock = now)
    (connected : Bool) : Limited tframe (launchService tframe s now connected) := by
  rcases launchService_cases tframe s now connected with
    same | ⟨-, scheduled⟩ | ⟨⟨-, -, -, left⟩, begun⟩
  · rw [same]
    exact limited
  · rw [scheduled]
    exact limited.setAlarm now 0
  · rw [begun]
    refine limited.startService now fun previous stored => ?_
    have checked : (previous : Int) ≤ s.prefs.lastChecked := Int.ofNat_le.mpr stored.checked
    rw [State.timeLeft, if_pos stored.reported, ← present] at left
    unfold Late
    omega

theorem mem_requests_tail {message : Message} {rest : List Message} {tasks : List Task}
    (queue : s.queue = message :: rest) {request : StartRequest}
    (member : request ∈ requests { s with queue := rest, tasks := tasks }) :
    request ∈ requests s := by
  rw [mem_requests] at member ⊢
  rcases member with kept | sent
  · exact Or.inl kept
  · exact Or.inr (queue ▸ List.mem_cons_of_mem message sent)

theorem Limited.begin (limited : Limited tframe s) {request : StartRequest} {rest : List Message}
    (queue : s.queue = .args request :: rest) (fresh : request.stored = s.stored)
    (idle : s.tasks = []) : Limited tframe { s with queue := rest, tasks := [⟨.running, true⟩] } := by
  have sent : request ∈ requests s := mem_requests.mpr (Or.inr (queue ▸ List.mem_cons_self))
  refine ⟨Nat.le_refl 1, fun other member => limited.stamped other (mem_requests_tail queue member),
    fun _ task member => ?_, fun previous found => ?_, limited.lawful⟩
  · rw [List.mem_singleton.mp member]
    exact TaskStatus.noConfusion
  · obtain ⟨past, ⟨held, unstored⟩ | stored⟩ := limited.after previous found
    · rw [idle] at unstored
      cases unstored
    · refine ⟨past, Or.inr ⟨stored.checked, stored.reported,
        fun other member => stored.sent other (mem_requests_tail queue member),
        fun task member => ?_⟩⟩
      rw [List.mem_singleton.mp member]
      exact ⟨TaskStatus.noConfusion, stored.sent request sent fresh⟩

/-- The destroyed service forgets its task, which goes on. -/
theorem Limited.destroy (limited : Limited tframe s) {rest : List Message}
    (queue : s.queue = .destroy :: rest) : Limited tframe
      { s with queue := rest, tasks := s.tasks.map (fun task => { task with held := false }) } := by
  have statuses : ∀ task ∈ s.tasks.map (fun task : Task => { task with held := false }),
      ∃ other ∈ s.tasks, other.status = task.status := by
    intro task member
    obtain ⟨other, inside, rfl⟩ := List.mem_map.mp member
    exact ⟨other, inside, rfl⟩
  refine ⟨?_, fun request member => limited.stamped request (mem_requests_tail queue member),
    fun missing task member => ?_, fun previous found => ?_, limited.lawful⟩
  · rw [List.length_map]
    exact limited.single
  · obtain ⟨other, inside, same⟩ := statuses task member
    exact same ▸ limited.before missing other inside
  · obtain ⟨past, ⟨held, unstored⟩ | stored⟩ := limited.after previous found
    · exact ⟨past, Or.inl ⟨false, by simp [unstored]⟩⟩
    · refine ⟨past, Or.inr ⟨stored.checked, stored.reported,
        fun request member => stored.sent request (mem_requests_tail queue member),
        fun task member => ?_⟩⟩
      obtain ⟨other, inside, same⟩ := statuses task member
      exact same ▸ stored.begun other inside

theorem Limited.deliver (limited : Limited tframe s)
    (fresh : ∀ message ∈ s.queue.head?, BeginsFresh s message) (moved : deliver s = some s') :
    Limited tframe s' := by
  unfold Romstats.deliver at moved
  split at moved
  · cases moved
  · rename_i request rest queue
    obtain rfl := Option.some.inj moved
    rcases onStartCommand_cases { s with queue := rest } request with same | ⟨unheld, begun⟩
    · rw [same]
      exact limited.of_quiet ⟨rfl, fun _ member => mem_requests_tail queue member, rfl,
        Nat.le_refl _, rfl⟩ limited.lawful (fun _ => ⟨Nat.le_refl _, rfl, rfl⟩)
    · have first : BeginsFresh s (.args request) := fresh _ (by rw [queue]; rfl)
      rcases first with held | ⟨stamp, idle⟩
      · have contradiction : false = true := unheld.symm.trans held
        cases contradiction
      · have next := limited.begin queue stamp idle
        rw [begun]
        simpa only [idle, List.nil_append] using next
  · rename_i rest queue
    obtain rfl := Option.some.inj moved
    exact limited.destroy queue

theorem finishFirst_single {success : Bool} {tasks finished : List Task} (single : tasks.length ≤ 1)
    (ended : finishFirst success tasks = some finished) :
    ∃ held, tasks = [⟨.running, held⟩] ∧ finished = [⟨.done success, held⟩] := by
  match tasks with
  | [] => simp [finishFirst] at ended
  | [⟨status, held⟩] =>
      cases status with
      | running => exact ⟨held, rfl, by simpa [finishFirst, eq_comm] using ended⟩
      | done other => simp [finishFirst] at ended
  | _ :: _ :: _ =>
      simp only [List.length_cons] at single
      omega

theorem Limited.doInBackground (limited : Limited tframe s) {now : Nat} (present : s.clock = now)
    {success : Bool} (moved : doInBackground s now success = some s') : Limited tframe s' := by
  obtain ⟨tasks, ended, rfl⟩ := Option.map_eq_some_iff.mp moved
  obtain ⟨held, running, rfl⟩ := finishFirst_single limited.single ended
  have unfinished : (⟨.running, held⟩ : Task) ∈ s.tasks := running ▸ List.mem_cons_self
  have settled : ∀ previous, lastUpload s.log = some previous → Stored tframe s previous := by
    intro previous found
    rcases (limited.after previous found).2 with ⟨other, unstored⟩ | stored
    · rw [running] at unstored
      cases unstored
    · exact stored
  cases success with
  | false =>
      have failed : TaskStatus.done false ≠ .done true := by decide
      refine ⟨Nat.le_refl 1, limited.stamped, fun _ task member => ?_, fun previous found => ?_,
        limited.lawful⟩
      · rw [List.mem_singleton.mp member]
        exact failed
      · have stored := settled previous found
        refine ⟨(limited.after previous found).1, Or.inr ⟨stored.checked, stored.reported,
          stored.sent, fun task member => ?_⟩⟩
        rw [List.mem_singleton.mp member]
        exact ⟨failed, (stored.begun _ unfinished).2⟩
  | true =>
      have upload : lastUpload (s.log ++ [.uploaded now]) = some now := lastUpload_snoc s.log _
      have spaced : Spaced tframe s.log (.uploaded now) := by
        intro previous found
        have late := ((settled previous found).begun _ unfinished).2
        rw [Late, present] at late
        exact late
      refine ⟨Nat.le_refl 1, limited.stamped, fun missing => ?_, fun previous found => ?_,
        limited.lawful.snoc spaced⟩
      · have contradiction : some now = none := upload.symm.trans missing
        cases contradiction
      · obtain rfl := Option.some.inj (upload.symm.trans found)
        exact ⟨Nat.le_of_eq present.symm, Or.inl ⟨held, rfl⟩⟩

theorem Limited.stopSelf (limited : Limited tframe s) : Limited tframe s.stopSelf := by
  unfold State.stopSelf
  split
  · exact limited
  · refine limited.of_quiet ⟨rfl, fun request member => ?_, rfl, Nat.le_refl _, rfl⟩ limited.lawful
      (fun _ => ⟨Nat.le_refl _, rfl, rfl⟩)
    rw [mem_requests] at member ⊢
    rcases member with kept | sent
    · exact absurd kept List.not_mem_nil
    · rcases List.mem_append.mp sent with earlier | new
      · exact Or.inr earlier
      · cases List.mem_singleton.mp new

/-- The end of the only task: a success is stored, so that no intent already sent counts as fresh. -/
theorem Limited.settle (limited : Limited tframe s) {now : Nat} (present : s.clock = now)
    {success held : Bool} (ended : s.tasks = [⟨.done success, held⟩]) :
    Limited tframe (settle tframe s now success []) := by
  unfold Romstats.settle
  split
  · rename_i succeeded
    subst succeeded
    have stored : Limited tframe (State.storeSuccess { s with tasks := [] } now) := by
      refine ⟨Nat.zero_le 1, fun request member => Nat.le_succ_of_le (limited.stamped request member),
        fun _ task member => absurd member List.not_mem_nil, fun previous found => ?_,
        limited.lawful⟩
      have past := (limited.after previous found).1
      refine ⟨past, Or.inr ⟨present ▸ past, rfl, fun request member same => ?_,
        fun task member => absurd member List.not_mem_nil⟩⟩
      have earlier : request.stored ≤ s.stored := limited.stamped request member
      have later : request.stored = s.stored + 1 := same
      omega
    exact stored.setAlarm now 0
  · rename_i failed
    have kept : Limited tframe { s with tasks := [] } := by
      refine ⟨Nat.zero_le 1, limited.stamped, fun _ task member => absurd member List.not_mem_nil,
        fun previous found => ?_, limited.lawful⟩
      obtain ⟨past, ⟨other, unstored⟩ | stored⟩ := limited.after previous found
      · rw [ended] at unstored
        simp only [List.cons.injEq, Task.mk.injEq, TaskStatus.done.injEq] at unstored
        exact absurd unstored.1.1 failed
      · exact ⟨past, Or.inr ⟨stored.checked, stored.reported, stored.sent,
          fun task member => absurd member List.not_mem_nil⟩⟩
    exact kept.setAlarm now _

theorem Limited.onPostExecute (limited : Limited tframe s) {now : Nat} (present : s.clock = now)
    (moved : onPostExecute tframe s now = some s') : Limited tframe s' := by
  obtain ⟨success, held, rest, ended, rfl⟩ := onPostExecute_cases moved
  have alone : rest = [] := by
    have single := limited.single
    rw [ended, List.length_cons] at single
    exact List.length_eq_zero_iff.mp (by omega)
  subst alone
  have settled := limited.settle present ended
  split
  · exact settled.stopSelf
  · exact settled

theorem Limited.killProcess (limited : Limited tframe s)
    (fresh : ∀ task ∈ s.tasks, task.status ≠ .done true) {redelivered : List StartRequest}
    (moved : killProcess s redelivered = some s') : Limited tframe s' := by
  obtain ⟨kept, rfl⟩ := killProcess_cases moved
  have known : ∀ request, request ∈ requests
      { s with starts := redelivered, queue := redelivered.map .args, tasks := [] } →
        request ∈ requests s := by
    intro request member
    have again : request ∈ redelivered := by
      rcases mem_requests.mp member with held | sent
      · exact held
      · obtain ⟨other, inside, same⟩ := List.mem_map.mp sent
        exact Message.args.inj same ▸ inside
    exact mem_requests.mpr (Or.inl (kept.subset again))
  refine ⟨Nat.zero_le 1, fun request member => limited.stamped request (known request member),
    fun _ task member => absurd member List.not_mem_nil, fun previous found => ?_,
    limited.lawful⟩
  obtain ⟨past, ⟨held, unstored⟩ | stored⟩ := limited.after previous found
  · exact absurd rfl (fresh _ (unstored ▸ List.mem_cons_self))
  · exact ⟨past, Or.inr ⟨stored.checked, stored.reported,
      fun request member => stored.sent request (known request member),
      fun task member => absurd member List.not_mem_nil⟩⟩

/-- Before the first upload the user may do anything. -/
theorem Limited.of_first (limited : Limited tframe s) (first : lastUpload s.log = none)
    (prefs : Preferences) (cookie : Bool) :
    Limited tframe { s with prefs := prefs, cookie := cookie } :=
  limited.of_frame rfl rfl rfl rfl (Nat.le_refl _) rfl (fun uploaded => absurd first uploaded)

theorem Limited.onCreate (limited : Limited tframe s) (first : lastUpload s.log = none) {now : Nat}
    (present : s.clock = now) (connected : Bool) :
    Limited tframe (onCreate tframe s now connected) := by
  unfold Romstats.onCreate
  dsimp only
  split
  · have reset : Limited tframe { s with
        prefs := { s.prefs with optIn := some true, firstBoot := false, lastChecked := 1 } } :=
      limited.of_first first _ s.cookie
    exact reset.launchService present connected
  · exact limited.of_first first _ s.cookie

theorem Limited.step (limited : Limited tframe s) {label : Label} (untouched : Untouched s label)
    (fresh : StartsFresh s label) (moved : step tframe s label = some s') : Limited tframe s' := by
  obtain ⟨later, domain⟩ := untouched
  cases label with
  | boot now =>
      obtain rfl := Option.some.inj moved
      exact (limited.at later).onReceiveBoot now
  | connectivity now connected =>
      obtain rfl := Option.some.inj moved
      exact (limited.at later).launchService rfl connected
  | delivery => exact limited.deliver fresh moved
  | background now success => exact (limited.at later).doInBackground rfl moved
  | postExecute now => exact (limited.at later).onPostExecute rfl moved
  | killed redelivered => exact limited.killProcess fresh moved
  | appOpened now connected =>
      obtain rfl := Option.some.inj moved
      exact (limited.at later).onCreate domain rfl connected
  | optedIn now connected =>
      obtain rfl := Option.some.inj moved
      exact ((limited.at later).of_first domain _ false).launchService rfl connected
  | romUpdated romVersionHash => exact domain.elim

end Preserved

/-- Started a week after the scheduling, and again a week after the first upload. -/
def steadyDevice : State :=
  ⟨⟨none, true, 1500604802000, some "A", 1501209602000⟩, false, "A", [⟨false, 1⟩], [],
    [⟨.done true, true⟩], 1, 1501209603000,
    [.faked 1500000000000, .started 1500604800000, .uploaded 1500604801000,
      .started 1501209602000, .uploaded 1501209603000]⟩

/-- The second intent was sent after the first upload but before it was stored, and begins
another task afterwards. -/
def staleDevice : State :=
  ⟨⟨none, true, 1500604803002, some "A", 1501209603002⟩, false, "A", [], [.destroy],
    [⟨.done true, true⟩], 1, 1500604805000,
    [.faked 1500000000000, .started 1500604800000, .uploaded 1500604803000,
      .started 1500604803001, .uploaded 1500604805000]⟩

end X5MaxDevice.Romstats.RateLimit
