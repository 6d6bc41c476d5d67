import X5MaxDevice.Romstats.Reporting

/-! Whether the persistent opt-out cookie keeps a fresh installation from uploading. -/

namespace X5MaxDevice.Romstats.OptOut

open X5MaxDevice.Transitions

/-- The user does not opt in through the settings dialog. -/
def NotOptedIn : Label → Prop
  | .optedIn _ _ => False
  | _ => True

instance : (label : Label) → Decidable (NotOptedIn label)
  | .optedIn _ _ => isFalse id
  | .boot _ | .connectivity _ _ | .delivery | .background _ _ | .postExecute _ | .killed _
  | .appOpened _ _ | .romUpdated _ => isTrue trivial

/-- The app is not opened, and no connectivity event on a connected network finds a last sync
but no recorded choice, once the clock is an interval past the epoch. -/
def KeepsOptOut (tframe : Int) (s : State) : Label → Prop
  | .appOpened _ _ => False
  | .connectivity now connected =>
      ¬ (connected = true ∧ s.prefs.optIn = none ∧ s.prefs.lastChecked ≠ 0 ∧
        updateInterval tframe ≤ (now : Int) - 1)
  | _ => True

instance (tframe : Int) (s : State) : (label : Label) → Decidable (KeepsOptOut tframe s label)
  | .appOpened _ _ => isFalse id
  | .connectivity _ _ => inferInstanceAs (Decidable (¬ (_ ∧ _)))
  | .boot _ | .delivery | .background _ _ | .postExecute _ | .killed _ | .optedIn _ _
  | .romUpdated _ => isTrue trivial

/-- A device on which nothing has been reported and the cookie still counts. -/
structure Silent (s : State) : Prop where
  choice : (s.prefs.optIn = none ∧ s.cookie = true) ∨ s.prefs.optIn = some false
  unreported : s.prefs.lastReportVersion = none
  starts : s.starts = []
  queue : s.queue = []
  tasks : s.tasks = []
  log : ∀ time, .uploaded time ∉ s.log

theorem silent_installed (romVersionHash : String) (clock : Nat) :
    Silent (installed true romVersionHash clock) :=
  ⟨Or.inl ⟨rfl, rfl⟩, rfl, rfl, rfl, rfl, fun _ => List.not_mem_nil⟩

variable {tframe : Int} {s : State} (silent : Silent s)
include silent

theorem Silent.at (now : Nat) : Silent (s.at now) :=
  ⟨silent.choice, silent.unreported, silent.starts, silent.queue, silent.tasks, silent.log⟩

theorem Silent.fakeSync (now : Nat) : Silent (s.fakeSync now) := by
  refine ⟨silent.choice, silent.unreported, silent.starts, silent.queue, silent.tasks, ?_⟩
  intro time member
  rcases List.mem_append.mp member with earlier | last
  · exact silent.log time earlier
  · simp at last

theorem Silent.setAlarm (now : Nat) (millisFromNow : Int) :
    Silent (setAlarm tframe s now millisFromNow) := by
  rcases setAlarm_cases tframe s now millisFromNow with
    same | ⟨nextAlarm, stored⟩ | ⟨-, nextAlarm, faked⟩
  · rw [same]
    exact silent
  · rw [stored]
    exact ⟨silent.choice, silent.unreported, silent.starts, silent.queue, silent.tasks, silent.log⟩
  · have next := silent.fakeSync now
    rw [faked]
    exact ⟨next.choice, next.unreported, next.starts, next.queue, next.tasks, next.log⟩

theorem Silent.onReceiveBoot (now : Nat) : Silent (onReceiveBoot tframe s now) := by
  rcases onReceiveBoot_cases tframe s now with ⟨-, recorded⟩ | scheduled
  · rw [recorded]
    exact ⟨Or.inr rfl, silent.unreported, silent.starts, silent.queue, silent.tasks, silent.log⟩
  · rw [scheduled]
    exact silent.setAlarm now 0

theorem Silent.launchService {now : Nat} {connected : Bool}
    (kept : KeepsOptOut tframe s (.connectivity now connected)) :
    Silent (launchService tframe s now connected) := by
  rcases launchService_cases tframe s now connected with
    same | ⟨-, scheduled⟩ | ⟨⟨online, wanted, synced, late⟩, -⟩
  · rw [same]
    exact silent
  · rw [scheduled]
    exact silent.setAlarm now 0
  · have undecided : s.prefs.optIn = none := by
      rcases silent.choice with ⟨undecided, -⟩ | refused
      · exact undecided
      · simp [refused] at wanted
    have unsynced : s.timeLeft now = (now : Int) - 1 := by
      simp [State.timeLeft, silent.unreported]
    exact absurd ⟨online, undecided, synced, unsynced ▸ late⟩ kept

theorem Silent.step {label : Label} {s' : State} (chosen : NotOptedIn label)
    (kept : KeepsOptOut tframe s label) (moved : step tframe s label = some s') : Silent s' := by
  cases label with
  | boot now =>
      obtain rfl := Option.some.inj moved
      exact (silent.at now).onReceiveBoot now
  | connectivity now connected =>
      obtain rfl := Option.some.inj moved
      exact (silent.at now).launchService kept
  | delivery => simp [Romstats.step, deliver, silent.queue] at moved
  | background now success =>
      simp [Romstats.step, doInBackground, State.at, silent.tasks, finishFirst] at moved
  | postExecute now => simp [Romstats.step, onPostExecute, State.at, silent.tasks] at moved
  | killed redelivered =>
      obtain ⟨kept, rfl⟩ := killProcess_cases moved
      rw [silent.starts] at kept
      have none : redelivered = [] := List.sublist_nil.mp kept
      exact ⟨silent.choice, silent.unreported, none, by rw [none]; rfl, rfl, silent.log⟩
  | appOpened now connected => exact kept.elim
  | optedIn now connected => exact chosen.elim
  | romUpdated romVersionHash =>
      obtain rfl := Option.some.inj moved
      exact ⟨silent.choice, silent.unreported, silent.starts, silent.queue, silent.tasks,
        silent.log⟩

omit silent

/-- With the opt-out cookie of an earlier installation nothing is uploaded, as long as the user
neither opts in nor opens the app and no event comes in between the first scheduling and the
boot event that reads the cookie. -/
theorem opted_out_never_uploads {romVersionHash : String} {clock : Nat}
    (reached : ReachesWhere (fun s label => NotOptedIn label ∧ KeepsOptOut tframe s label)
      (step tframe) (installed true romVersionHash clock) s) (time : Nat) :
    .uploaded time ∉ s.log := by
  have silent := reached.invariant (P := Silent) (silent_installed romVersionHash clock)
    (fun _ _ _ silent admitted moved => silent.step admitted.1 admitted.2 moved)
  exact silent.log time

/-- Scheduled before the boot event has read the cookie, and online again ten days later. -/
def optedOutDevice : State :=
  ⟨⟨some false, false, 1500000000000, none, 1500604800000⟩, true, "A", [], [], [], 0, 1500864000000,
    [.faked 1500000000000]⟩

theorem opted_out_device_silent : .uploaded 1500864000000 ∉ optedOutDevice.log := by
  have reached : ReachesWhere (fun s label => NotOptedIn label ∧ KeepsOptOut 7 s label) (step 7)
      (installed true "A" 0) optedOutDevice :=
    reachesWhere_of_run
      [.connectivity 1500000000000 true, .boot 1500000001000, .connectivity 1500864000000 true]
      (by decide +kernel)
  exact opted_out_never_uploads reached 1500864000000

/-- The app was opened after the boot event that recorded the opt-out. -/
def openedDevice : State :=
  ⟨⟨some true, false, 1500000002000, none, 1500604802000⟩, true, "A", [⟨false, 0⟩], [],
    [⟨.done true, true⟩], 0, 1500000004000,
    [.faked 1500000002000, .started 1500000003000, .uploaded 1500000004000]⟩

/-- Opening the app turns reporting on again, without any opt-in. -/
theorem app_start_uploads :
    ¬ ∀ tframe romVersionHash clock s,
      ReachesWhere (fun _ label => NotOptedIn label) (step tframe)
        (installed true romVersionHash clock) s → ∀ time, .uploaded time ∉ s.log := by
  intro silent
  have reached : ReachesWhere (fun _ label => NotOptedIn label) (step 7) (installed true "A" 0)
      openedDevice :=
    reachesWhere_of_run
      [.boot 1500000000000, .appOpened 1500000001000 true, .connectivity 1500000002000 true,
        .connectivity 1500000003000 true, .delivery, .background 1500000004000 true]
      (by decide +kernel)
  exact silent 7 "A" 0 openedDevice reached 1500000004000 (by decide +kernel)

end X5MaxDevice.Romstats.OptOut
