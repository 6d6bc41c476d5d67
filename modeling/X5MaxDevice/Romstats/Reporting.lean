import Mathlib.Algebra.Group.Nat.Defs
import X5MaxDevice.Base.Transitions

/-! The statistics reporter: its preferences, the broadcast receiver that schedules reports,
the service that uploads them and the settings activity. -/

namespace X5MaxDevice.Romstats

/-- A Java `long`. -/
def long (n : Int) : Int := n.bmod (2 ^ 64)

def millisPerHour : Int := 60 * 60 * 1000
def millisPerDay : Int := 24 * millisPerHour

/-- `UPDATE_INTERVAL`, for the days in `ro.romstats.tframe`. -/
def updateInterval (tframe : Int) : Int := long (tframe * millisPerDay)

inductive ReportingMode where
  | new
  | old
  deriving DecidableEq, Repr

def getReportingMode : ReportingMode := .new

/-- The preferences `ROMStats`; a preference that the code only reads with a default has
that default when it is absent. -/
structure Preferences where
  optIn : Option Bool
  firstBoot : Bool
  lastChecked : Nat
  lastReportVersion : Option String
  nextAlarm : Int
  deriving DecidableEq, Repr

def freshPreferences : Preferences := ⟨none, true, 0, none, 0⟩

/-- An intent for the service. `stored` is a ghost: how many successes were stored when the
service was asked for. -/
structure StartRequest where
  promptUser : Bool
  stored : Nat
  deriving DecidableEq, Repr

/-- What waits for the service in the main thread. -/
inductive Message where
  | args (request : StartRequest)
  | destroy
  deriving DecidableEq, Repr

inductive TaskStatus where
  | running
  | done (success : Bool)
  deriving DecidableEq, Repr

/-- A `StatsUploadTask` that is not FINISHED; `held` if it is the `mTask` of the service
object that receives the next intent. -/
structure Task where
  status : TaskStatus
  held : Bool
  deriving DecidableEq, Repr

/-- The ghost history: a fake last sync is stored, the service is started for an upload, an
upload succeeds. -/
inductive Event where
  | faked (time : Nat)
  | started (time : Nat)
  | uploaded (time : Nat)
  deriving DecidableEq, Repr

/-- `starts` are the intents that the system keeps for redelivery, `queue` the messages in
their order, `tasks` the unfinished tasks in the order of the serial executor. -/
structure State where
  prefs : Preferences
  cookie : Bool
  romVersionHash : String
  starts : List StartRequest
  queue : List Message
  tasks : List Task
  stored : Nat
  clock : Nat
  log : List Event
  deriving DecidableEq, Repr

/-- A fresh installation. -/
def installed (cookie : Bool) (romVersionHash : String) (clock : Nat) : State :=
  ⟨freshPreferences, cookie, romVersionHash, [], [], [], 0, clock, []⟩

def State.optedIn (s : State) : Bool :=
  match getReportingMode with
  | .new => s.prefs.optIn.getD true
  | .old => s.prefs.optIn.getD false

/-- The last sync is faked to be now. -/
def State.fakeSync (s : State) (now : Nat) : State :=
  { s with prefs := { s.prefs with lastChecked := now }, log := s.log ++ [.faked now] }

def State.storeAlarm (s : State) (nextAlarm : Int) : State :=
  { s with prefs := { s.prefs with nextAlarm := nextAlarm } }

def setAlarm (tframe : Int) (s : State) (now : Nat) (millisFromNow : Int) : State :=
  if !s.optedIn then s
  else if millisFromNow ≤ 0 then
    let s' := if s.prefs.lastChecked = 0 then s.fakeSync now else s
    let left := long (s'.prefs.lastChecked + updateInterval tframe - now)
    s'.storeAlarm (long (now + left))
  else s.storeAlarm (long (now + millisFromNow))

/-- `startService`: the intent is kept by the system and sent to the main thread. -/
def State.startService (s : State) (now : Nat) (promptUser : Bool) : State :=
  let request : StartRequest := ⟨promptUser, s.stored⟩
  { s with
    starts := s.starts ++ [request]
    queue := s.queue ++ [.args request]
    log := if promptUser then s.log else s.log ++ [.started now] }

/-- The time since the last sync, which counts as 1 for a ROM version not yet reported. -/
def State.timeLeft (s : State) (now : Nat) : Int :=
  if s.prefs.lastReportVersion = some s.romVersionHash then (now : Int) - s.prefs.lastChecked
  else (now : Int) - 1

def launchService (tframe : Int) (s : State) (now : Nat) (connected : Bool) : State :=
  if !connected then s
  else if !s.prefs.optIn.getD true then s
  else if s.prefs.firstBoot ∧ getReportingMode = .old then s.startService now true
  else if s.prefs.lastChecked = 0 then setAlarm tframe s now 0
  else if s.timeLeft now < updateInterval tframe then s
  else s.startService now false

/-- The preferences after `persistentOptOut`, if it finds the cookie of an earlier opt-out. -/
def persistentOptOut (s : State) : Option State :=
  if s.prefs.optIn.isNone && s.cookie then
    some { s with prefs := { s.prefs with optIn := some false, firstBoot := false } }
  else none

def onReceiveBoot (tframe : Int) (s : State) (now : Nat) : State :=
  match persistentOptOut s with
  | some disabled => disabled
  | none => setAlarm tframe s now 0

/-- `AnonymousStats.onCreate`. -/
def onCreate (tframe : Int) (s : State) (now : Nat) (connected : Bool) : State :=
  let s := { s with prefs := { s.prefs with optIn := some true } }
  if s.prefs.firstBoot then
    launchService tframe { s with prefs := { s.prefs with firstBoot := false, lastChecked := 1 } }
      now connected
  else s

/-- `AnonymousStats.onClick` on the positive button of the settings dialog. -/
def onClickPositive (tframe : Int) (s : State) (now : Nat) (connected : Bool) : State :=
  launchService tframe
    { s with prefs := { s.prefs with optIn := some true }, cookie := false } now connected

/-- The statistics URL is a constant, so only a prompt keeps `onStartCommand` from reporting. -/
def onStartCommand (s : State) (request : StartRequest) : State :=
  if request.promptUser then s
  else if s.tasks.any Task.held then s
  else { s with tasks := s.tasks ++ [⟨.running, true⟩] }

/-- The main thread handles its next message; a destroyed service forgets its task. -/
def deliver (s : State) : Option State :=
  match s.queue with
  | [] => none
  | .args request :: rest => some (onStartCommand { s with queue := rest } request)
  | .destroy :: rest =>
      some { s with queue := rest, tasks := s.tasks.map (fun task => { task with held := false }) }

/-- The first task that still runs ends its `doInBackground`. -/
def finishFirst (success : Bool) : List Task → Option (List Task)
  | [] => none
  | task :: rest =>
      if task.status = .running then some ({ task with status := .done success } :: rest)
      else (finishFirst success rest).map (task :: ·)

def doInBackground (s : State) (now : Nat) (success : Bool) : Option State :=
  (finishFirst success s.tasks).map (fun tasks =>
    { s with tasks := tasks, log := if success then s.log ++ [.uploaded now] else s.log })

/-- `stopSelf` of the service object in charge: it is destroyed behind the messages already
sent. A second call comes too late to have an effect. -/
def State.stopSelf (s : State) : State :=
  if .destroy ∈ s.queue then s else { s with starts := [], queue := s.queue ++ [.destroy] }

def State.storeSuccess (s : State) (now : Nat) : State :=
  { s with
    prefs := { s.prefs with lastChecked := now, lastReportVersion := some s.romVersionHash }
    stored := s.stored + 1 }

def onPostExecute (tframe : Int) (s : State) (now : Nat) : Option State :=
  match s.tasks with
  | ⟨.done success, held⟩ :: rest =>
      let s := { s with tasks := rest }
      let s := if success then setAlarm tframe (s.storeSuccess now) now 0
        else setAlarm tframe s now (3 * millisPerHour)
      some (if held then s.stopSelf else s)
  | _ => none

/-- The process dies with its tasks and messages; the system redelivers intents it kept. -/
def killProcess (s : State) (redelivered : List StartRequest) : Option State :=
  if redelivered.Sublist s.starts then
    some { s with starts := redelivered, queue := redelivered.map .args, tasks := [] }
  else none

/-- `connectivity` is also the broadcast of the alarm. -/
inductive Label where
  | boot (now : Nat)
  | connectivity (now : Nat) (connected : Bool)
  | delivery
  | background (now : Nat) (success : Bool)
  | postExecute (now : Nat)
  | killed (redelivered : List StartRequest)
  | appOpened (now : Nat) (connected : Bool)
  | optedIn (now : Nat) (connected : Bool)
  | romUpdated (romVersionHash : String)
  deriving DecidableEq, Repr

def State.at (s : State) (now : Nat) : State := { s with clock := now }

def step (tframe : Int) (s : State) : Label → Option State
  | .boot now => some (onReceiveBoot tframe (s.at now) now)
  | .connectivity now connected => some (launchService tframe (s.at now) now connected)
  | .delivery => deliver s
  | .background now success => doInBackground (s.at now) now success
  | .postExecute now => onPostExecute tframe (s.at now) now
  | .killed redelivered => killProcess s redelivered
  | .appOpened now connected => some (onCreate tframe (s.at now) now connected)
  | .optedIn now connected => some (onClickPositive tframe (s.at now) now connected)
  | .romUpdated romVersionHash => some { s with romVersionHash := romVersionHash }

/-- The clock does not run backwards. -/
def Monotone (s : State) : Label → Prop
  | .boot now | .connectivity now _ | .background now _ | .postExecute now
  | .appOpened now _ | .optedIn now _ => s.clock ≤ now
  | .delivery | .killed _ | .romUpdated _ => True

instance (s : State) : (label : Label) → Decidable (Monotone s label)
  | .boot now | .connectivity now _ | .background now _ | .postExecute now
  | .appOpened now _ | .optedIn now _ => Nat.decLe s.clock now
  | .delivery | .killed _ | .romUpdated _ => isTrue trivial

/-- What scheduling can change besides the alarm: it fakes the last sync if there is none. -/
theorem setAlarm_cases (tframe : Int) (s : State) (now : Nat) (millisFromNow : Int) :
    setAlarm tframe s now millisFromNow = s ∨
      (∃ nextAlarm, setAlarm tframe s now millisFromNow = s.storeAlarm nextAlarm) ∨
      (s.prefs.lastChecked = 0 ∧
        ∃ nextAlarm, setAlarm tframe s now millisFromNow = (s.fakeSync now).storeAlarm nextAlarm) := by
  unfold setAlarm
  split
  · exact Or.inl rfl
  · right
    split
    · by_cases fresh : s.prefs.lastChecked = 0
      · exact Or.inr ⟨fresh, _, by rw [if_pos fresh]⟩
      · exact Or.inl ⟨_, by rw [if_neg fresh]⟩
    · exact Or.inl ⟨_, rfl⟩

/-- The boot event records the opt-out of an earlier installation, or schedules. -/
theorem onReceiveBoot_cases (tframe : Int) (s : State) (now : Nat) :
    ((s.prefs.optIn = none ∧ s.cookie = true) ∧ onReceiveBoot tframe s now =
        { s with prefs := { s.prefs with optIn := some false, firstBoot := false } }) ∨
      onReceiveBoot tframe s now = setAlarm tframe s now 0 := by
  unfold onReceiveBoot persistentOptOut
  by_cases found : (s.prefs.optIn.isNone && s.cookie) = true
  · rw [if_pos found]
    exact Or.inl ⟨by simpa using found, rfl⟩
  · rw [if_neg found]
    exact Or.inr rfl

/-- What `launchService` can do: nothing, schedule the first sync, or start the service. -/
theorem launchService_cases (tframe : Int) (s : State) (now : Nat) (connected : Bool) :
    launchService tframe s now connected = s ∨
      (s.prefs.lastChecked = 0 ∧
        launchService tframe s now connected = setAlarm tframe s now 0) ∨
      ((connected = true ∧ s.prefs.optIn.getD true = true ∧ s.prefs.lastChecked ≠ 0 ∧
          updateInterval tframe ≤ s.timeLeft now) ∧
        launchService tframe s now connected = s.startService now false) := by
  unfold launchService
  split
  · exact Or.inl rfl
  · rename_i online
    split
    · exact Or.inl rfl
    · rename_i wanted
      have mode : ¬ (s.prefs.firstBoot = true ∧ getReportingMode = .old) :=
        fun both => ReportingMode.noConfusion both.2
      rw [if_neg mode]
      split
      · rename_i fresh
        exact Or.inr (Or.inl ⟨fresh, rfl⟩)
      · rename_i synced
        split
        · exact Or.inl rfl
        · rename_i late
          exact Or.inr (Or.inr
            ⟨⟨by simpa using online, by simpa using wanted, synced, by omega⟩, rfl⟩)

theorem onStartCommand_cases (s : State) (request : StartRequest) :
    onStartCommand s request = s ∨
      (s.tasks.any Task.held = false ∧
        onStartCommand s request = { s with tasks := s.tasks ++ [⟨.running, true⟩] }) := by
  unfold onStartCommand
  split
  · exact Or.inl rfl
  · split
    · exact Or.inl rfl
    · rename_i idle
      exact Or.inr ⟨by simpa using idle, rfl⟩

/-- A message changes the queue and the tasks only. -/
theorem deliver_frame {s s' : State} (moved : deliver s = some s') :
    s'.prefs = s.prefs ∧ s'.log = s.log ∧ s'.clock = s.clock := by
  unfold deliver at moved
  split at moved
  · cases moved
  · rename_i request rest _
    obtain rfl := Option.some.inj moved
    rcases onStartCommand_cases { s with queue := rest } request with same | ⟨-, begun⟩
    · rw [same]
      exact ⟨rfl, rfl, rfl⟩
    · rw [begun]
      exact ⟨rfl, rfl, rfl⟩
  · obtain rfl := Option.some.inj moved
    exact ⟨rfl, rfl, rfl⟩

@[simp] theorem stopSelf_prefs (s : State) : s.stopSelf.prefs = s.prefs := by
  unfold State.stopSelf
  split <;> rfl

@[simp] theorem stopSelf_log (s : State) : s.stopSelf.log = s.log := by
  unfold State.stopSelf
  split <;> rfl

@[simp] theorem stopSelf_clock (s : State) : s.stopSelf.clock = s.clock := by
  unfold State.stopSelf
  split <;> rfl

/-- What the end of the first task stores and schedules, before the service stops itself. -/
def settle (tframe : Int) (s : State) (now : Nat) (success : Bool) (rest : List Task) : State :=
  if success then setAlarm tframe (State.storeSuccess { s with tasks := rest } now) now 0
  else setAlarm tframe { s with tasks := rest } now (3 * millisPerHour)

theorem onPostExecute_cases {tframe : Int} {s s' : State} {now : Nat}
    (moved : onPostExecute tframe s now = some s') :
    ∃ success held rest, s.tasks = ⟨.done success, held⟩ :: rest ∧
      s' = if held then (settle tframe s now success rest).stopSelf
        else settle tframe s now success rest := by
  unfold onPostExecute at moved
  split at moved
  · rename_i success held rest tasks
    exact ⟨success, held, rest, tasks, (Option.some.inj moved).symm⟩
  · cases moved

theorem killProcess_cases {s s' : State} {redelivered : List StartRequest}
    (moved : killProcess s redelivered = some s') :
    redelivered.Sublist s.starts ∧
      s' = { s with starts := redelivered, queue := redelivered.map .args, tasks := [] } := by
  unfold killProcess at moved
  split at moved
  · rename_i kept
    exact ⟨kept, (Option.some.inj moved).symm⟩
  · cases moved

end X5MaxDevice.Romstats
