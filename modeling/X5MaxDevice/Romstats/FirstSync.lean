import X5MaxDevice.Base.History
import X5MaxDevice.Romstats.Reporting

/-! Whether the service waits for an interval after the fake last sync of a fresh installation. -/

namespace X5MaxDevice.Romstats.FirstSync

open X5MaxDevice.History
open X5MaxDevice.Transitions

def fakeTime : Event → Option Nat
  | .faked time => some time
  | _ => none

/-- The fake last sync of the first scheduling. -/
def firstFake (log : List Event) : Option Nat := log.findSome? fakeTime

/-- A start for an upload comes an interval after the fake last sync, or later. -/
def Delayed (tframe : Int) (before : List Event) : Event → Prop
  | .started time =>
      ∃ fake, firstFake before = some fake ∧ updateInterval tframe ≤ (time : Int) - fake
  | _ => True

/-- The ROM version stays, and the app is never opened. -/
def NotOpened : Label → Prop
  | .appOpened _ _ | .optedIn _ _ | .romUpdated _ => False
  | _ => True

instance : (label : Label) → Decidable (NotOpened label)
  | .appOpened _ _ | .optedIn _ _ | .romUpdated _ => isFalse id
  | .boot _ | .connectivity _ _ | .delivery | .background _ _ | .postExecute _ | .killed _ =>
      isTrue trivial

/-- A monotone clock, a ROM version that stays, and an app that is never opened. -/
def Untouched (s : State) (label : Label) : Prop := Monotone s label ∧ NotOpened label

instance (s : State) (label : Label) : Decidable (Untouched s label) :=
  inferInstanceAs (Decidable (_ ∧ _))

/-- No connectivity event on a connected network comes within an interval after the last sync
while reporting is on and no report of the ROM version is recorded, once the clock is an
interval past the epoch. -/
def Waits (tframe : Int) (s : State) : Label → Prop
  | .connectivity now connected =>
      ¬ (connected = true ∧ s.prefs.optIn.getD true = true ∧ s.prefs.lastChecked ≠ 0 ∧
        s.prefs.lastReportVersion ≠ some s.romVersionHash ∧
        updateInterval tframe ≤ (now : Int) - 1 ∧
        (now : Int) - s.prefs.lastChecked < updateInterval tframe)
  | _ => True

instance (tframe : Int) (s : State) : (label : Label) → Decidable (Waits tframe s label)
  | .connectivity _ _ => inferInstanceAs (Decidable (¬ (_ ∧ _)))
  | .boot _ | .delivery | .background _ _ | .postExecute _ | .killed _ | .appOpened _ _
  | .optedIn _ _ | .romUpdated _ => isTrue trivial

theorem firstFake_snoc (log : List Event) (event : Event) :
    firstFake (log ++ [event]) = (firstFake log).or (fakeTime event) := by
  cases found : fakeTime event <;> simp [firstFake, List.findSome?_append, found]

/-- The first scheduling is not repeated. -/
theorem firstFake_setAlarm {tframe : Int} {s : State} {fake : Nat}
    (found : firstFake s.log = some fake) (now : Nat) (millisFromNow : Int) :
    firstFake (setAlarm tframe s now millisFromNow).log = some fake := by
  rcases setAlarm_cases tframe s now millisFromNow with
    same | ⟨nextAlarm, stored⟩ | ⟨-, nextAlarm, faked⟩
  · rw [same, found]
  · rw [stored]
    exact found
  · have recorded : firstFake (s.log ++ [.faked now]) = some fake := by
      rw [firstFake_snoc, found]
      rfl
    rw [faked]
    exact recorded

/-- Before the first scheduling nothing is stored or under way; after it, every last sync is at
least as late as the fake one. -/
structure Scheduled (tframe : Int) (s : State) : Prop where
  before : firstFake s.log = none →
    s.prefs.lastChecked = 0 ∧ s.starts = [] ∧ s.queue = [] ∧ s.tasks = []
  after : ∀ fake, firstFake s.log = some fake → fake ≤ s.prefs.lastChecked ∧ fake ≤ s.clock
  lawful : AtEach (Delayed tframe) s.log

theorem scheduled_installed (tframe : Int) (cookie : Bool) (romVersionHash : String)
    (clock : Nat) : Scheduled tframe (installed cookie romVersionHash clock) :=
  ⟨fun _ => ⟨rfl, rfl, rfl, rfl⟩, fun _ found => by simp [installed, firstFake] at found,
    atEach_nil _⟩

variable {tframe : Int} {s : State} (scheduled : Scheduled tframe s)
include scheduled

theorem Scheduled.at {now : Nat} (later : s.clock ≤ now) : Scheduled tframe (s.at now) :=
  ⟨scheduled.before, fun fake found => ⟨(scheduled.after fake found).1,
    Nat.le_trans (scheduled.after fake found).2 later⟩, scheduled.lawful⟩

theorem Scheduled.fakeSync : Scheduled tframe (s.fakeSync s.clock) := by
  have recorded : firstFake (s.log ++ [.faked s.clock]) = (firstFake s.log).or (some s.clock) :=
    firstFake_snoc s.log _
  refine ⟨fun missing => ?_, fun fake found => ?_, scheduled.lawful.snoc trivial⟩
  · rw [State.fakeSync, recorded] at missing
    simp at missing
  · rw [State.fakeSync, recorded] at found
    cases earlier : firstFake s.log with
    | none =>
        obtain rfl : s.clock = fake := by simpa [earlier] using found
        exact ⟨Nat.le_refl _, Nat.le_refl _⟩
    | some first =>
        obtain rfl : first = fake := by simpa [earlier] using found
        exact ⟨(scheduled.after first earlier).2, (scheduled.after first earlier).2⟩

theorem Scheduled.setAlarm {now : Nat} (present : s.clock = now) (millisFromNow : Int) :
    Scheduled tframe (setAlarm tframe s now millisFromNow) := by
  subst present
  rcases setAlarm_cases tframe s s.clock millisFromNow with
    same | ⟨nextAlarm, stored⟩ | ⟨-, nextAlarm, faked⟩
  · rw [same]
    exact scheduled
  · rw [stored]
    exact ⟨scheduled.before, scheduled.after, scheduled.lawful⟩
  · have next := scheduled.fakeSync
    rw [faked]
    exact ⟨next.before, next.after, next.lawful⟩

/-- After the first scheduling, only the last sync, the clock and the history matter. -/
theorem Scheduled.of_faked {s' : State} {fake : Nat} (found : firstFake s.log = some fake)
    (log : s'.log = s.log) (checked : fake ≤ s'.prefs.lastChecked)
    (clock : s.clock ≤ s'.clock) : Scheduled tframe s' := by
  refine ⟨fun missing => ?_, fun fake' found' => ?_, log ▸ scheduled.lawful⟩
  · rw [log, found] at missing
    cases missing
  · obtain rfl : fake = fake' := Option.some.inj (found.symm.trans (log ▸ found'))
    exact ⟨checked, Nat.le_trans (scheduled.after fake found).2 clock⟩

theorem Scheduled.onReceiveBoot {now : Nat} (present : s.clock = now) :
    Scheduled tframe (onReceiveBoot tframe s now) := by
  rcases onReceiveBoot_cases tframe s now with ⟨-, recorded⟩ | set
  · rw [recorded]
    exact ⟨scheduled.before, scheduled.after, scheduled.lawful⟩
  · rw [set]
    exact scheduled.setAlarm present 0

theorem Scheduled.startService {now fake : Nat} (found : firstFake s.log = some fake)
    (late : updateInterval tframe ≤ (now : Int) - fake) :
    Scheduled tframe (s.startService now false) := by
  have recorded : firstFake (s.log ++ [.started now]) = some fake := by
    rw [firstFake_snoc, found]
    rfl
  refine ⟨fun missing => ?_, fun other found' => ?_, ?_⟩
  · have contradiction : some fake = none := recorded.symm.trans missing
    cases contradiction
  · have same : some fake = some other := recorded.symm.trans found'
    obtain rfl := Option.some.inj same
    exact scheduled.after fake found
  · exact scheduled.lawful.snoc ⟨fake, found, late⟩

theorem Scheduled.launchService {now : Nat} (present : s.clock = now) {connected : Bool}
    (waits : Waits tframe s (.connectivity now connected)) :
    Scheduled tframe (launchService tframe s now connected) := by
  rcases launchService_cases tframe s now connected with
    same | ⟨-, set⟩ | ⟨⟨online, wanted, synced, late⟩, begun⟩
  · rw [same]
    exact scheduled
  · rw [set]
    exact scheduled.setAlarm present 0
  · rw [begun]
    cases found : firstFake s.log with
    | none => exact absurd (scheduled.before found).1 synced
    | some fake =>
        refine scheduled.startService found ?_
        have early : (fake : Int) ≤ s.prefs.lastChecked :=
          Int.ofNat_le.mpr (scheduled.after fake found).1
        by_cases reported : s.prefs.lastReportVersion = some s.romVersionHash
        · rw [State.timeLeft, if_pos reported] at late
          omega
        · rw [State.timeLeft, if_neg reported] at late
          by_contra soon
          exact waits ⟨online, wanted, synced, reported, late, by omega⟩

theorem Scheduled.deliver {s' : State} (moved : deliver s = some s') : Scheduled tframe s' := by
  obtain ⟨prefs, log, clock⟩ := deliver_frame moved
  cases found : firstFake s.log with
  | none => simp [Romstats.deliver, (scheduled.before found).2.2.1] at moved
  | some fake =>
      have checked : fake ≤ s'.prefs.lastChecked := prefs ▸ (scheduled.after fake found).1
      exact scheduled.of_faked found log checked (Nat.le_of_eq clock.symm)

theorem Scheduled.doInBackground {now : Nat} {success : Bool} {s' : State}
    (moved : doInBackground s now success = some s') : Scheduled tframe s' := by
  obtain ⟨tasks, finished, rfl⟩ := Option.map_eq_some_iff.mp moved
  cases found : firstFake s.log with
  | none => simp [(scheduled.before found).2.2.2, finishFirst] at finished
  | some fake =>
      cases success with
      | false => exact scheduled.of_faked found rfl (scheduled.after fake found).1 (Nat.le_refl _)
      | true =>
          have recorded : firstFake (s.log ++ [.uploaded now]) = firstFake s.log := by
            rw [firstFake_snoc]
            exact Option.or_none
          refine ⟨fun missing => ?_, fun other found' => ?_, scheduled.lawful.snoc trivial⟩
          · have contradiction : some fake = none := (recorded.trans found).symm.trans missing
            cases contradiction
          · exact scheduled.after other (recorded.symm.trans found')

theorem Scheduled.settle {now : Nat} (present : s.clock = now) {fake : Nat}
    (found : firstFake s.log = some fake) (success : Bool) (rest : List Task) :
    Scheduled tframe (settle tframe s now success rest) ∧
      firstFake (settle tframe s now success rest).log = some fake := by
  obtain ⟨early, past⟩ := scheduled.after fake found
  unfold Romstats.settle
  split
  · have stored : Scheduled tframe (State.storeSuccess { s with tasks := rest } now) :=
      scheduled.of_faked found rfl (present ▸ past) (Nat.le_refl _)
    have kept : firstFake (State.storeSuccess { s with tasks := rest } now).log = some fake := found
    exact ⟨stored.setAlarm present 0, firstFake_setAlarm kept now 0⟩
  · have failed : Scheduled tframe { s with tasks := rest } :=
      scheduled.of_faked found rfl early (Nat.le_refl _)
    have kept : firstFake ({ s with tasks := rest } : State).log = some fake := found
    exact ⟨failed.setAlarm present _, firstFake_setAlarm kept now _⟩

theorem Scheduled.stopSelf {fake : Nat} (found : firstFake s.log = some fake) :
    Scheduled tframe s.stopSelf := by
  have checked : fake ≤ s.stopSelf.prefs.lastChecked := by
    rw [stopSelf_prefs]
    exact (scheduled.after fake found).1
  exact scheduled.of_faked found (stopSelf_log s) checked (Nat.le_of_eq (stopSelf_clock s).symm)

theorem Scheduled.onPostExecute {now : Nat} (present : s.clock = now) {s' : State}
    (moved : onPostExecute tframe s now = some s') : Scheduled tframe s' := by
  obtain ⟨success, held, rest, tasks, rfl⟩ := onPostExecute_cases moved
  cases found : firstFake s.log with
  | none => simp [(scheduled.before found).2.2.2] at tasks
  | some fake =>
      obtain ⟨settled, kept⟩ := scheduled.settle present found success rest
      split
      · exact settled.stopSelf kept
      · exact settled

theorem Scheduled.killProcess {redelivered : List StartRequest} {s' : State}
    (moved : killProcess s redelivered = some s') : Scheduled tframe s' := by
  obtain ⟨kept, rfl⟩ := killProcess_cases moved
  cases found : firstFake s.log with
  | none =>
      obtain ⟨unsynced, starts, -, -⟩ := scheduled.before found
      rw [starts] at kept
      obtain rfl := List.sublist_nil.mp kept
      exact ⟨fun _ => ⟨unsynced, rfl, rfl, rfl⟩, scheduled.after, scheduled.lawful⟩
  | some fake =>
      exact scheduled.of_faked found rfl (scheduled.after fake found).1 (Nat.le_refl _)

theorem Scheduled.step {label : Label} {s' : State} (untouched : Untouched s label)
    (waits : Waits tframe s label) (moved : step tframe s label = some s') :
    Scheduled tframe s' := by
  obtain ⟨later, unopened⟩ := untouched
  cases label with
  | boot now =>
      obtain rfl := Option.some.inj moved
      exact (scheduled.at later).onReceiveBoot rfl
  | connectivity now connected =>
      obtain rfl := Option.some.inj moved
      exact (scheduled.at later).launchService rfl waits
  | delivery => exact scheduled.deliver moved
  | background now success => exact (scheduled.at later).doInBackground moved
  | postExecute now => exact (scheduled.at later).onPostExecute rfl moved
  | killed redelivered => exact scheduled.killProcess moved
  | appOpened now connected => exact unopened.elim
  | optedIn now connected => exact unopened.elim
  | romUpdated romVersionHash => exact unopened.elim

omit scheduled

/-- On a fresh installation whose app is never opened, every start for an upload comes an
interval after the fake last sync, as long as no connectivity event finds a last sync that is
younger, and no report. -/
theorem first_sync_delayed {cookie : Bool} {romVersionHash : String} {clock : Nat}
    (reached : ReachesWhere (fun s label => Untouched s label ∧ Waits tframe s label)
      (step tframe) (installed cookie romVersionHash clock) s) :
    AtEach (Delayed tframe) s.log := by
  have scheduled := reached.invariant (P := Scheduled tframe)
    (scheduled_installed tframe cookie romVersionHash clock)
    (fun _ _ _ scheduled admitted moved => scheduled.step admitted.1 admitted.2 moved)
  exact scheduled.lawful

/-- Scheduled at the boot and started a week later. -/
def patientDevice : State :=
  ⟨⟨none, true, 1500000000000, none, 1500604800000⟩, false, "A", [⟨false, 0⟩],
    [.args ⟨false, 0⟩], [], 0, 1500604800000, [.faked 1500000000000, .started 1500604800000]⟩

theorem patient_device_delayed : AtEach (Delayed 7) patientDevice.log := by
  have reached : ReachesWhere (fun s label => Untouched s label ∧ Waits 7 s label) (step 7)
      (installed false "A" 0) patientDevice :=
    reachesWhere_of_run [.boot 1500000000000, .connectivity 1500604800000 true]
      (by decide +kernel)
  exact first_sync_delayed reached

/-- Started by the first connectivity event after the boot, one second later. -/
def hastyDevice : State :=
  ⟨⟨none, true, 1500000000000, none, 1500604800000⟩, false, "A", [⟨false, 0⟩],
    [.args ⟨false, 0⟩], [], 0, 1500000001000, [.faked 1500000000000, .started 1500000001000]⟩

/-- Without a recorded report the last sync counts as 1, so the delay is void. -/
theorem missing_report_voids_delay :
    ¬ ∀ tframe cookie romVersionHash clock s,
      ReachesWhere Untouched (step tframe) (installed cookie romVersionHash clock) s →
        AtEach (Delayed tframe) s.log := by
  intro delayed
  have reached : ReachesWhere Untouched (step 7) (installed false "A" 0) hastyDevice :=
    reachesWhere_of_run [.boot 1500000000000, .connectivity 1500000001000 true]
      (by decide +kernel)
  obtain ⟨fake, found, late⟩ := delayed 7 false "A" 0 hastyDevice reached
    [.faked 1500000000000] (.started 1500000001000) [] rfl
  have first : firstFake [.faked 1500000000000] = some 1500000000000 := by decide +kernel
  obtain rfl := Option.some.inj (found.symm.trans first)
  revert late
  decide +kernel

end X5MaxDevice.Romstats.FirstSync
