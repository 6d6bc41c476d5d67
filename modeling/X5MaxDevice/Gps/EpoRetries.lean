import X5MaxDevice.Gps.EpoWorker

/-! When the EPO worker gives up a failed download: the counted retries against the retries that
have failed one after the other. -/

namespace X5MaxDevice.Gps.EpoRetries

open X5MaxDevice.Gps.EpoWorker
open X5MaxDevice.Transitions

/-- The worker with the history of its retries: whether the piece counter was reset since the
last retry began, what the last update returned, how many retries of the current piece have
failed one after the other in the current session, and how many had at each giving up. -/
structure Tracked where
  worker : State
  overtaken : Bool
  result : Option Bool
  streak : Nat
  gaveUpAfter : List Nat

def Tracked.see (t : Tracked) : Event → Tracked
  | .sessionReset => { t with overtaken := true, streak := 0 }
  | .updateReturned retry succeeded =>
      { t with
        result := some succeeded
        streak :=
          if succeeded then 0
          else if retry && !t.overtaken then t.streak + 1
          else t.streak }
  | .retryGaveUp => { t with gaveUpAfter := t.gaveUpAfter ++ [t.streak] }
  | .downloaded _ _ => t
  | .completed _ _ _ => t
  | .updateEpoFileSent => t

def Tracked.begin (t : Tracked) : Label → Tracked
  | .resume _ => { t with overtaken := false, result := none }
  | _ => t

/-- The history after the events that a step has added. -/
def Tracked.follow (t : Tracked) (s : State) : Tracked :=
  (s.log.drop t.worker.log.length).foldl Tracked.see { t with worker := s }

def stepTracked (t : Tracked) (label : Label) : Option Tracked :=
  (step t.worker label).map (t.begin label).follow

def initialTracked : Tracked := ⟨initial, false, none, 0, []⟩

/-- The retry that is done leaves the piece counter where it was, so that it counts as failed. -/
def Counts (s : State) : Prop := s.control = .retryDone s.gpsEpoFileCount

instance (s : State) : Decidable (Counts s) := inferInstanceAs (Decidable (_ = _))

/-- The worker has given up only after ten failed retries of one piece and session, one after
the other, and does not count a successful update as a failed retry. -/
def RetryAccounting (t : Tracked) : Prop :=
  (∀ failures ∈ t.gaveUpAfter, 10 ≤ failures) ∧ (Counts t.worker → t.result ≠ some true)

def startResets : StartAction → Bool
  | .nothing => false
  | .download => true
  | .downloadExpired => true
  | .replace => true
  | .update => false

/-- The update that is about to succeed is that of the last piece. -/
def Completes (s : State) : Prop :=
  ¬ (s.gpsEpoFileCount + 1 < 10 ∧ s.gpsEpoFileCount + 1 < countTemp s.gpsEpoDownloadDays)

instance (s : State) : Decidable (Completes s) := inferInstanceAs (Decidable (¬ _))

/-- A retry of the first piece does not complete the download, and none succeeds when the piece
counter was reset to the piece before; a start does not reset the piece counter after a retry
of the first piece has succeeded; and a counter of retries that is not 0 is raised for the
second failed retry or a later one only. -/
def Regular (t : Tracked) : Label → Prop
  | .start control epoFile expired =>
      startResets (startAction (gpsDownloadEpoEnable t.worker control) epoFile expired) = true →
        t.worker.control = .retryDone 0 → t.result ≠ some true
  | .count =>
      (t.worker.control = .count (.retry 0) → ¬ Completes t.worker) ∧
        (t.worker.control = .count (.retry (t.worker.gpsEpoFileCount + 1)) → Completes t.worker)
  | .retryDone =>
      Counts t.worker → t.worker.fileRetrying = t.worker.gpsEpoFileCount →
        0 < t.worker.retryTime → 1 < t.streak
  | _ => True

instance (t : Tracked) : (label : Label) → Decidable (Regular t label)
  | .start _ _ _ => inferInstanceAs (Decidable (_ → _ → _))
  | .count => inferInstanceAs (Decidable ((_ → ¬ _) ∧ (_ → _)))
  | .retryDone => inferInstanceAs (Decidable (_ → _ → _ → _))
  | .create _ => isTrue trivial
  | .cleanup => isTrue trivial
  | .updateDone => isTrue trivial
  | .networkState _ _ => isTrue trivial
  | .setStarted _ => isTrue trivial
  | .retryAlarm => isTrue trivial
  | .wake _ => isTrue trivial
  | .download _ => isTrue trivial
  | .append _ => isTrue trivial
  | .serverCheck _ _ => isTrue trivial
  | .requestDone => isTrue trivial
  | .resume _ => isTrue trivial
  | .wifiTrigger _ => isTrue trivial

/-- The counter holds at most the retries that have failed. -/
def Low (t : Tracked) : Prop := t.streak = 0 ∨ t.worker.retryTime ≤ t.streak

/-- The retry that is done has not succeeded, and the counter lacks it if it is in the streak. -/
def Pending (t : Tracked) : Prop :=
  t.result ≠ some true ∧ (t.streak ≤ 1 ∨ t.worker.retryTime < t.streak)

/-- A retry under way is of the current piece, or the piece counter was reset since it began. -/
def InFlight (t : Tracked) : Caller → Prop
  | .request => Low t
  | .retry fileCountTemp =>
      (fileCountTemp = t.worker.gpsEpoFileCount ∨ t.overtaken = true) ∧ Low t

def Settles (t : Tracked) : Control → Prop
  | .download caller => InFlight t caller
  | .append caller => InFlight t caller
  | .serverCheck caller => InFlight t caller
  | .count caller => InFlight t caller
  | .retryDone fileCountTemp =>
      if fileCountTemp = t.worker.gpsEpoFileCount then Pending t else Low t
  | .exited => Low t
  | .sleep => Low t
  | .requestDone => Low t
  | .resume => Low t
  | .wifiTrigger => Low t

structure Accounted (t : Tracked) : Prop where
  gaveUp : ∀ failures ∈ t.gaveUpAfter, 10 ≤ failures
  overtaken : t.overtaken = true → t.streak = 0
  settles : Settles t t.worker.control

theorem follow_eq {t : Tracked} {s : State} {events : List Event}
    (log : s.log = t.worker.log ++ events) :
    t.follow s = events.foldl Tracked.see { t with worker := s } := by
  rw [Tracked.follow, log, List.drop_left]

theorem follow_nothing {t : Tracked} {s : State} (log : s.log = t.worker.log) :
    t.follow s = { t with worker := s } := by
  rw [@follow_eq t s [] (by rw [log, List.append_nil]), List.foldl_nil]

theorem see_worker (t : Tracked) (event : Event) : (t.see event).worker = t.worker := by
  cases event <;> rfl

theorem foldl_see_worker (events : List Event) (t : Tracked) :
    (events.foldl Tracked.see t).worker = t.worker := by
  induction events generalizing t with
  | nil => rfl
  | cons event events ih => rw [List.foldl_cons, ih, see_worker]

theorem foldl_see_withWorker (events : List Event) (t : Tracked) (s : State) :
    events.foldl Tracked.see { t with worker := s } =
      { events.foldl Tracked.see t with worker := s } := by
  induction events generalizing t with
  | nil => rfl
  | cons event events ih =>
      have seen : Tracked.see { t with worker := s } event =
          { t.see event with worker := s } := by cases event <;> rfl
      rw [List.foldl_cons, List.foldl_cons, seen, ih]

/-- The history can be followed state by state. -/
theorem follow_follow {t : Tracked} {s final : State} {first second : List Event}
    (begun : s.log = t.worker.log ++ first) (ended : final.log = s.log ++ second) :
    t.follow final = (t.follow s).follow final := by
  have whole : final.log = t.worker.log ++ (first ++ second) := by
    rw [ended, begun, List.append_assoc]
  have worker : (t.follow s).worker = s := by rw [follow_eq begun, foldl_see_worker]
  have rest : final.log = (t.follow s).worker.log ++ second := by rw [worker, ended]
  calc t.follow final
      = second.foldl Tracked.see (first.foldl Tracked.see { t with worker := final }) := by
        rw [follow_eq whole, List.foldl_append]
    _ = second.foldl Tracked.see { t.follow s with worker := final } := by
        rw [follow_eq begun, foldl_see_withWorker first t final,
          foldl_see_withWorker first t s]
    _ = (t.follow s).follow final := (follow_eq rest).symm

/-- A tracked run is a run of the worker with its history beside it. -/
theorem stepTracked_worker (t : Tracked) (label : Label) :
    (stepTracked t label).map Tracked.worker = step t.worker label := by
  rw [stepTracked, Option.map_map]
  cases step t.worker label with
  | none => rfl
  | some s => exact congrArg some (foldl_see_worker _ _)

theorem accounted_retryAccounting {t : Tracked} (holds : Accounted t) : RetryAccounting t := by
  refine ⟨holds.gaveUp, fun counts => ?_⟩
  have settles := holds.settles
  rw [counts] at settles
  have pending : Pending t := by simpa [Settles] using settles
  exact pending.1

theorem settles_congr {t u : Tracked} (count : u.worker.gpsEpoFileCount = t.worker.gpsEpoFileCount)
    (retryTime : u.worker.retryTime = t.worker.retryTime) (streak : u.streak = t.streak)
    (overtaken : u.overtaken = t.overtaken) (result : u.result = t.result) (place : Control) :
    Settles u place ↔ Settles t place := by
  have low : Low u ↔ Low t := by rw [Low, Low, streak, retryTime]
  have inFlight (caller : Caller) : InFlight u caller ↔ InFlight t caller := by
    cases caller with
    | request => exact low
    | retry fileCountTemp => rw [InFlight, InFlight, count, overtaken, low]
  cases place with
  | download caller | append caller | serverCheck caller | count caller => exact inFlight caller
  | retryDone fileCountTemp =>
      rw [Settles, Settles, count, low, Pending, Pending, result, streak, retryTime]
  | exited | sleep | requestDone | resume | wifiTrigger => exact low

theorem Settles.low {t : Tracked} {place : Control} (settles : Settles t place)
    (running : ∀ fileCountTemp, place ≠ .retryDone fileCountTemp) : Low t := by
  cases place with
  | retryDone fileCountTemp => exact absurd rfl (running fileCountTemp)
  | download caller | append caller | serverCheck caller | count caller =>
      cases caller with
      | request => exact settles
      | retry fileCountTemp => exact settles.2
  | exited | sleep | requestDone | resume | wifiTrigger => exact settles

/-- The worker moves on without an event, a reset or a count. -/
theorem moved_accounted {t : Tracked} {s : State} (holds : Accounted t)
    (settles : Settles t s.control) (log : s.log = t.worker.log)
    (count : s.gpsEpoFileCount = t.worker.gpsEpoFileCount)
    (retryTime : s.retryTime = t.worker.retryTime) : Accounted (t.follow s) := by
  rw [follow_nothing log]
  have moved : Settles { t with worker := s } s.control :=
    (@settles_congr t { t with worker := s } count retryTime rfl rfl rfl s.control).mpr settles
  exact ⟨holds.gaveUp, holds.overtaken, moved⟩

/-- An event that is neither a reset nor an end of an update or of the retries. -/
theorem noted_accounted {t : Tracked} {s : State} {event : Event} (holds : Accounted t)
    (unseen : ∀ u : Tracked, u.see event = u) (log : s.log = t.worker.log ++ [event])
    (settles : Settles t s.control) (count : s.gpsEpoFileCount = t.worker.gpsEpoFileCount)
    (retryTime : s.retryTime = t.worker.retryTime) : Accounted (t.follow s) := by
  have followed : t.follow s = { t with worker := s } := by
    rw [follow_eq log, List.foldl_cons, List.foldl_nil, unseen]
  have moved : Settles { t with worker := s } s.control :=
    (@settles_congr t { t with worker := s } count retryTime rfl rfl rfl s.control).mpr settles
  rw [followed]
  exact ⟨holds.gaveUp, holds.overtaken, moved⟩

theorem follow_reset {t : Tracked} {s : State} (log : s.log = t.worker.log ++ [.sessionReset]) :
    t.follow s = { t with worker := s, overtaken := true, streak := 0 } :=
  follow_eq log

theorem follow_resets {t : Tracked} {s : State}
    (log : s.log = (t.worker.log ++ [.sessionReset]) ++ [.sessionReset]) :
    t.follow s = { t with worker := s, overtaken := true, streak := 0 } :=
  follow_eq (log.trans (List.append_assoc _ _ _))

/-- A reset of the piece counter ends the streak, at whatever point the worker is. -/
theorem reset_accounted {t : Tracked} {s : State} (holds : Accounted t)
    (uncounted : t.worker.control = .retryDone 0 → t.result ≠ some true)
    (followed : t.follow s = { t with worker := s, overtaken := true, streak := 0 })
    (control : s.control = t.worker.control) (count : s.gpsEpoFileCount = 0) :
    Accounted (t.follow s) := by
  have low : Low (t.follow s) := by rw [followed]; exact .inl rfl
  refine ⟨by rw [followed]; exact holds.gaveUp, fun _ => by rw [followed], ?_⟩
  have worker : (t.follow s).worker.control = t.worker.control := by rw [followed]; exact control
  rw [worker]
  have overtaken : (t.follow s).overtaken = true := by rw [followed]
  cases place : t.worker.control with
  | download caller | append caller | serverCheck caller | count caller =>
      cases caller with
      | request => exact low
      | retry fileCountTemp => exact ⟨.inr overtaken, low⟩
  | retryDone fileCountTemp =>
      by_cases first : fileCountTemp = (t.follow s).worker.gpsEpoFileCount
      · have zero : fileCountTemp = 0 := by rw [first, followed]; exact count
        have failed : t.result ≠ some true := uncounted (by rw [place, zero])
        exact (if_pos first).mpr (by rw [followed]; exact ⟨failed, .inl (Nat.zero_le 1)⟩)
      · exact (if_neg first).mpr low
  | exited | sleep | requestDone | resume | wifiTrigger => exact low

/-- The end of a retry that has failed, or that was not even tried. -/
theorem settles_retryDone {t : Tracked} {fileCountTemp : Nat} (failed : t.result ≠ some true)
    (pending : fileCountTemp = t.worker.gpsEpoFileCount →
      t.streak ≤ 1 ∨ t.worker.retryTime < t.streak)
    (low : fileCountTemp ≠ t.worker.gpsEpoFileCount → Low t) :
    Settles t (.retryDone fileCountTemp) := by
  by_cases current : fileCountTemp = t.worker.gpsEpoFileCount
  · exact (if_pos current).mpr ⟨failed, pending current⟩
  · exact (if_neg current).mpr (low current)

/-- A failed retry lengthens the streak unless the piece counter was reset since it began. -/
theorem follow_failedRetry {t : Tracked} {s : State} (fileCountTemp : Nat)
    (log : s.log = t.worker.log) :
    t.follow (returnUpdate s (.retry fileCountTemp) false) =
      { t with
        worker := returnUpdate s (.retry fileCountTemp) false
        result := some false
        streak := if t.overtaken then t.streak else t.streak + 1 } := by
  have events : (returnUpdate s (.retry fileCountTemp) false).log =
      t.worker.log ++ [.updateReturned true false] := by rw [← log]; rfl
  rw [follow_eq events]
  cases t.overtaken <;> simp [Tracked.see]

/-- A failed update returns to its caller. -/
theorem failed_accounted {t : Tracked} {s : State} {caller : Caller} (holds : Accounted t)
    (inFlight : InFlight t caller) (log : s.log = t.worker.log)
    (count : s.gpsEpoFileCount = t.worker.gpsEpoFileCount)
    (retryTime : s.retryTime = t.worker.retryTime) :
    Accounted (t.follow (returnUpdate s caller false)) := by
  cases caller with
  | request =>
      have events : (returnUpdate s .request false).log =
          t.worker.log ++ [.updateReturned false false] := by rw [← log]; rfl
      have low : t.streak = 0 ∨ s.retryTime ≤ t.streak := by rw [retryTime]; exact inFlight
      rw [follow_eq events]
      exact ⟨holds.gaveUp, holds.overtaken, low⟩
  | retry fileCountTemp =>
      have unsuccessful : (some false : Option Bool) ≠ some true := by decide
      rcases inFlight with ⟨underWay, low⟩
      rw [Low, ← retryTime] at low
      rw [follow_failedRetry fileCountTemp log]
      cases overtaken : t.overtaken with
      | true =>
          have ended : t.streak = 0 := holds.overtaken overtaken
          rw [if_pos rfl]
          exact ⟨holds.gaveUp, fun _ => ended,
            settles_retryDone unsuccessful (fun _ => .inl (by rw [ended]; exact Nat.zero_le 1))
              (fun _ => .inl ended)⟩
      | false =>
          have current : fileCountTemp = s.gpsEpoFileCount := by
            rcases underWay with same | reset
            · rw [count, same]
            · rw [overtaken] at reset
              cases reset
          have pending : t.streak + 1 ≤ 1 ∨ s.retryTime < t.streak + 1 := by omega
          rw [if_neg Bool.false_ne_true]
          exact ⟨holds.gaveUp, nofun,
            settles_retryDone unsuccessful (fun _ => pending) (fun other => absurd current other)⟩

theorem follow_worker {t : Tracked} {s : State} {events : List Event}
    (log : s.log = t.worker.log ++ events) : (t.follow s).worker = s := by
  rw [follow_eq log, foldl_see_worker]

/-- An update that succeeds ends the streak; a retry must not find its piece counter again. -/
theorem succeeded_accounted {t : Tracked} {s : State} {caller : Caller} {events : List Event}
    (holds : Accounted t)
    (moved : ∀ fileCountTemp, caller = .retry fileCountTemp →
      fileCountTemp ≠ s.gpsEpoFileCount)
    (log : s.log = t.worker.log ++ events)
    (kept : (events.foldl Tracked.see t).gaveUpAfter = t.gaveUpAfter) :
    Accounted (t.follow (returnUpdate s caller true)) := by
  have returned : ∃ retry, (returnUpdate s caller true).log =
      t.worker.log ++ (events ++ [.updateReturned retry true]) := by
    cases caller with
    | request => exact ⟨false, by rw [← List.append_assoc, ← log]; rfl⟩
    | retry fileCountTemp => exact ⟨true, by rw [← List.append_assoc, ← log]; rfl⟩
  rcases returned with ⟨retry, returned⟩
  have followed : t.follow (returnUpdate s caller true) =
      { events.foldl Tracked.see t with
        worker := returnUpdate s caller true, result := some true, streak := 0 } := by
    rw [follow_eq returned, List.foldl_append, foldl_see_withWorker events t]
    rfl
  rw [followed]
  refine ⟨by rw [kept]; exact holds.gaveUp, fun _ => rfl, ?_⟩
  cases caller with
  | request => exact .inl rfl
  | retry fileCountTemp => exact (if_neg (moved fileCountTemp rfl)).mpr (.inl rfl)

theorem mtkGpsStart_accounted {t : Tracked} {control : EpoControl} {epoFile expired : Bool}
    (holds : Accounted t) (regular : Regular t (.start control epoFile expired)) :
    Accounted (t.follow (mtkGpsStart t.worker control epoFile expired)) := by
  simp only [mtkGpsStart]
  rw [Regular] at regular
  cases action : startAction (gpsDownloadEpoEnable t.worker control) epoFile expired with
  | nothing => exact moved_accounted holds holds.settles rfl rfl rfl
  | update => exact noted_accounted holds (fun _ => rfl) rfl holds.settles rfl rfl
  | download =>
      have uncounted := regular (by rw [action]; rfl)
      exact reset_accounted holds uncounted (follow_reset rfl) rfl rfl
  | downloadExpired | replace =>
      have uncounted := regular (by rw [action]; rfl)
      cases expired with
      | false => exact reset_accounted holds uncounted (follow_reset rfl) rfl rfl
      | true => exact reset_accounted holds uncounted (follow_resets rfl) rfl rfl

theorem updateEpoFileDone_accounted {t : Tracked} (holds : Accounted t) :
    Accounted (t.follow (updateEpoFileDone t.worker)) := by
  rw [updateEpoFileDone]
  split
  · exact moved_accounted holds holds.settles rfl rfl rfl
  · exact moved_accounted holds holds.settles rfl rfl rfl

theorem wake_accounted {t : Tracked} (control : EpoControl) (holds : Accounted t) (low : Low t) :
    Accounted (t.follow (wake t.worker control)) := by
  simp only [wake]
  split
  · exact moved_accounted holds low rfl rfl rfl
  · split
    · rcases gpsDownloadEpoFileName_frame
        { gpsDownloadEpoEnable t.worker control with epoDownloadFailed := false }
        (gpsDownloadEpoEnable t.worker control).gpsEpoFileCount with ⟨name, named⟩
      rw [named]
      exact moved_accounted holds low rfl rfl rfl
    · exact moved_accounted holds low rfl rfl rfl

theorem curlEasyDownloadEpo_accounted {t : Tracked} {caller : Caller} (outcome : Download)
    (holds : Accounted t) (inFlight : InFlight t caller) :
    Accounted (t.follow (curlEasyDownloadEpo t.worker caller outcome)) := by
  cases outcome with
  | noUrl => exact failed_accounted holds inFlight rfl rfl rfl
  | failed =>
      rcases unlinkPiece_frame t.worker with ⟨pieces, unlinked⟩
      rw [curlEasyDownloadEpo, unlinked]
      exact failed_accounted holds inFlight rfl rfl rfl
  | ok data =>
      rw [curlEasyDownloadEpo]
      cases t.worker.gpsEpoFileName with
      | none => exact failed_accounted holds inFlight rfl rfl rfl
      | some name => exact noted_accounted holds (fun _ => rfl) rfl inFlight rfl rfl

theorem appendPiece_accounted {t : Tracked} {caller : Caller} (outcome : Merge)
    (holds : Accounted t) (inFlight : InFlight t caller) :
    Accounted (t.follow (appendPiece t.worker caller outcome)) := by
  have frame : ∃ hal, appendPiece t.worker caller outcome =
      { t.worker with epoHal := hal, control := .serverCheck caller } := by
    simp only [appendPiece]
    split <;> split <;> exact ⟨_, rfl⟩
  rcases frame with ⟨hal, appended⟩
  rw [appended]
  exact moved_accounted holds inFlight rfl rfl rfl

/-- An update that resets the piece counter fails at once. -/
theorem resetFailed_accounted {t : Tracked} {s : State} {caller : Caller} (holds : Accounted t)
    (place : t.worker.control = .serverCheck caller)
    (log : s.log = t.worker.log ++ [.sessionReset]) (count : s.gpsEpoFileCount = 0)
    (retryTime : s.retryTime = t.worker.retryTime) :
    Accounted (t.follow (returnUpdate s caller false)) := by
  let reset := t.worker.resetCount
  have worker : (t.follow reset).worker = reset := @follow_worker t reset [.sessionReset] rfl
  have restarted : Accounted (t.follow reset) :=
    reset_accounted holds (fun done => by rw [place] at done; cases done) (follow_reset rfl) rfl rfl
  have inFlight : InFlight (t.follow reset) caller := by
    have settles := restarted.settles
    rw [worker, show reset.control = .serverCheck caller from place] at settles
    exact settles
  have returned : ∃ retry, (returnUpdate s caller false).log =
      reset.log ++ [.updateReturned retry false] := by
    cases caller with
    | request => exact ⟨false, congrArg (· ++ [Event.updateReturned false false]) log⟩
    | retry fileCountTemp => exact ⟨true, congrArg (· ++ [Event.updateReturned true false]) log⟩
  rcases returned with ⟨retry, returned⟩
  rw [@follow_follow t reset _ [.sessionReset] _ rfl returned]
  exact failed_accounted restarted inFlight (by rw [worker, log]; rfl) (by rw [worker, count]; rfl)
    (by rw [worker, retryTime]; rfl)

theorem mtkGpsEpoServerDataIsChanged_accounted {t : Tracked} {caller : Caller}
    (first last : PieceTime) (holds : Accounted t) (place : t.worker.control = .serverCheck caller)
    (inFlight : InFlight t caller) :
    Accounted (t.follow (mtkGpsEpoServerDataIsChanged t.worker caller first last)) := by
  rcases readPieceTimes_frame t.worker first last with ⟨failed, name, checked⟩
  simp only [mtkGpsEpoServerDataIsChanged, checked]
  split
  · rcases unlinkPieces_frame (List.range (t.worker.gpsEpoFileCount + 1)).reverse
      { t.worker with epoDownloadFailed := failed, gpsEpoFileName := name }
      with ⟨name, pieces, unlinked⟩
    rw [unlinked]
    exact resetFailed_accounted holds place rfl rfl rfl
  · split
    · exact failed_accounted holds inFlight rfl rfl rfl
    · exact moved_accounted holds inFlight rfl rfl rfl

theorem countPiece_accounted {t : Tracked} {caller : Caller} (holds : Accounted t)
    (place : t.worker.control = .count caller) (regular : Regular t .count) :
    Accounted (t.follow (countPiece t.worker caller)) := by
  rcases regular with ⟨first, before⟩
  simp only [countPiece]
  split
  case isTrue unfinished =>
    refine @succeeded_accounted t _ caller [] holds (fun fileCountTemp retry same => ?_)
      (List.append_nil _).symm rfl
    subst retry
    rw [same] at place
    exact before place unfinished
  case isFalse complete =>
    have zero (fileCountTemp : Nat) (retry : caller = .retry fileCountTemp) :
        fileCountTemp ≠ 0 := by
      rintro rfl
      rw [retry] at place
      exact first place complete
    rcases unlinkPieces_frame (List.range (countTemp t.worker.gpsEpoDownloadDays))
      { t.worker with gpsEpoFileCount := t.worker.gpsEpoFileCount + 1 }
      with ⟨name, pieces, unlinked⟩
    rw [unlinked]
    split
    · exact succeeded_accounted holds zero
        (by simp only [State.record, State.resetCount, List.append_assoc]; rfl) rfl
    · exact succeeded_accounted holds zero
        (by simp only [State.record, State.resetCount, List.append_assoc]; rfl) rfl

theorem requestDone_accounted {t : Tracked} (holds : Accounted t) (low : Low t) :
    Accounted (t.follow (requestDone t.worker)) := by
  simp only [requestDone]
  split
  · exact moved_accounted holds low rfl rfl rfl
  · exact moved_accounted holds low rfl rfl rfl

/-- A reset of the piece counter that sends the worker on. -/
theorem restarted_accounted {t : Tracked} {s : State} (holds : Accounted t)
    (log : s.log = t.worker.log ++ [.sessionReset])
    (settles : Settles { t with worker := s, overtaken := true, streak := 0 } s.control) :
    Accounted (t.follow s) := by
  rw [follow_reset log]
  exact ⟨holds.gaveUp, fun _ => rfl, settles⟩

/-- A retry begins with the current piece; an expired file resets the piece counter instead. -/
theorem resume_accounted {t : Tracked} (expired : Bool) (holds : Accounted t)
    (place : t.worker.control = .resume) (low : Low t) :
    Accounted ((t.begin (.resume expired)).follow (resume t.worker expired)) := by
  have begun : Accounted (t.begin (.resume expired)) := by
    refine ⟨holds.gaveUp, fun reset => Bool.noConfusion reset, ?_⟩
    change Settles (t.begin (.resume expired)) t.worker.control
    rw [place]
    exact low
  have frame : ∃ retrying, (if t.worker.fileRetrying = 50 then
      { t.worker with fileRetrying := t.worker.gpsEpoFileCount } else t.worker) =
        { t.worker with fileRetrying := retrying } := by
    split
    · exact ⟨t.worker.gpsEpoFileCount, rfl⟩
    · exact ⟨t.worker.fileRetrying, rfl⟩
  rcases frame with ⟨retrying, frame⟩
  simp only [resume, frame]
  split
  case isFalse => exact moved_accounted begun low rfl rfl rfl
  case isTrue =>
    cases expired with
    | true =>
        exact restarted_accounted begun rfl
          (settles_retryDone nofun (fun _ => .inl (Nat.zero_le 1)) (fun _ => .inl rfl))
    | false =>
        rcases gpsDownloadEpoFileName_frame { t.worker with fileRetrying := retrying }
          t.worker.gpsEpoFileCount with ⟨name, named⟩
        rw [if_neg Bool.false_ne_true, named]
        exact moved_accounted begun ⟨.inl rfl, low⟩ rfl rfl rfl

theorem countRetry_retryTime_le {t : Tracked} (regular : Regular t .retryDone)
    (counts : Counts t.worker) (pending : Pending t) :
    (countRetry t.worker).retryTime ≤ max 1 t.streak := by
  have second := regular counts
  have missing := pending.2
  rw [countRetry]
  split
  case isTrue same =>
    have raised := second same
    change t.worker.retryTime + 1 ≤ max 1 t.streak
    omega
  case isFalse => exact Nat.zero_le _

/-- The counter reaches the limit after the tenth failed retry at the earliest. -/
theorem retryDone_accounted {t : Tracked} {fileCountTemp : Nat} (holds : Accounted t)
    (place : t.worker.control = .retryDone fileCountTemp) (regular : Regular t .retryDone) :
    Accounted (t.follow (retryDone t.worker fileCountTemp)) := by
  have settles := holds.settles
  rw [place] at settles
  simp only [retryDone]
  by_cases current : fileCountTemp = t.worker.gpsEpoFileCount
  case neg =>
    have low : Low t := (if_neg current).mp settles
    rw [if_neg current]
    exact moved_accounted holds low rfl rfl rfl
  case pos =>
    have pending : Pending t := (if_pos current).mp settles
    have raised := countRetry_retryTime_le regular (by rw [Counts, place, current]) pending
    have log : (countRetry t.worker).log = t.worker.log := by rw [countRetry]; split <;> rfl
    rw [if_pos current]
    split
    case isTrue =>
      have low : t.streak = 0 ∨ (countRetry t.worker).retryTime ≤ t.streak := by omega
      rw [@follow_nothing t
        (State.goto { countRetry t.worker with epoDownloadRetry := false } .wifiTrigger) log]
      exact ⟨holds.gaveUp, holds.overtaken, low⟩
    case isFalse reached =>
      have tenth : 10 ≤ t.streak := by omega
      rw [@follow_eq t _ [.retryGaveUp] (by rw [← log]; rfl)]
      refine ⟨fun failures listed => ?_, holds.overtaken, .inr (Nat.zero_le _)⟩
      rcases List.mem_append.mp listed with earlier | now
      · exact holds.gaveUp failures earlier
      · rw [List.mem_singleton.mp now]
        exact tenth

theorem wifiTrigger_accounted {t : Tracked} (expired : Bool) (holds : Accounted t) (low : Low t) :
    Accounted (t.follow (wifiTrigger t.worker expired)) := by
  simp only [wifiTrigger]
  split
  case isFalse => exact moved_accounted holds low rfl rfl rfl
  case isTrue triggered =>
    have expired : expired = true := triggered.2.2.2.2.2.2
    rw [expired, follow_resets rfl]
    exact ⟨holds.gaveUp, fun _ => rfl, .inl rfl⟩

theorem Accounted.settled {t : Tracked} {place : Control} (holds : Accounted t)
    (there : t.worker.control = place) : Settles t place :=
  there ▸ holds.settles

theorem Accounted.low {t : Tracked} {place : Control} (holds : Accounted t)
    (there : t.worker.control = place)
    (running : ∀ fileCountTemp, place ≠ .retryDone fileCountTemp) : Low t :=
  (holds.settled there).low running

theorem stepTracked_accounted {t u : Tracked} {label : Label} (regular : Regular t label)
    (stepped : stepTracked t label = some u) (holds : Accounted t) : Accounted u := by
  rw [stepTracked, Option.map_eq_some_iff] at stepped
  rcases stepped with ⟨s, stepped, rfl⟩
  cases label with
  | create epoType =>
      simp only [step] at stepped
      split at stepped
      case isFalse => cases stepped
      case isTrue exited =>
        cases stepped
        exact moved_accounted holds (holds.low exited nofun) rfl rfl rfl
  | cleanup =>
      cases stepped
      exact moved_accounted holds holds.settles rfl rfl rfl
  | start control epoFile expired =>
      cases stepped
      exact mtkGpsStart_accounted holds regular
  | updateDone =>
      cases stepped
      exact updateEpoFileDone_accounted holds
  | networkState connected type =>
      cases stepped
      exact moved_accounted holds holds.settles rfl rfl rfl
  | setStarted started =>
      cases stepped
      exact moved_accounted holds holds.settles rfl rfl rfl
  | retryAlarm =>
      cases stepped
      exact moved_accounted holds holds.settles rfl rfl rfl
  | wake control =>
      simp only [step] at stepped
      split at stepped
      case isFalse => cases stepped
      case isTrue sleeping =>
        cases stepped
        exact wake_accounted control holds (holds.low sleeping nofun)
  | download outcome =>
      simp only [step] at stepped
      split at stepped
      case h_2 => cases stepped
      case h_1 caller place =>
        cases stepped
        have inFlight : InFlight t caller := holds.settled place
        exact curlEasyDownloadEpo_accounted outcome holds inFlight
  | append outcome =>
      simp only [step] at stepped
      split at stepped
      case h_2 => cases stepped
      case h_1 caller place =>
        cases stepped
        have inFlight : InFlight t caller := holds.settled place
        exact appendPiece_accounted outcome holds inFlight
  | serverCheck first last =>
      simp only [step] at stepped
      split at stepped
      case h_2 => cases stepped
      case h_1 caller place =>
        cases stepped
        have inFlight : InFlight t caller := holds.settled place
        exact mtkGpsEpoServerDataIsChanged_accounted first last holds place inFlight
  | count =>
      simp only [step] at stepped
      split at stepped
      case h_2 => cases stepped
      case h_1 caller place =>
        cases stepped
        exact countPiece_accounted holds place regular
  | requestDone =>
      simp only [step] at stepped
      split at stepped
      case isFalse => cases stepped
      case isTrue place =>
        cases stepped
        exact requestDone_accounted holds (holds.low place nofun)
  | resume expired =>
      simp only [step] at stepped
      split at stepped
      case isFalse => cases stepped
      case isTrue place =>
        cases stepped
        exact resume_accounted expired holds place (holds.low place nofun)
  | retryDone =>
      simp only [step] at stepped
      split at stepped
      case h_2 => cases stepped
      case h_1 fileCountTemp place =>
        cases stepped
        exact retryDone_accounted holds place regular
  | wifiTrigger expired =>
      simp only [step] at stepped
      split at stepped
      case isFalse => cases stepped
      case isTrue place =>
        cases stepped
        exact wifiTrigger_accounted expired holds (holds.low place nofun)

/-- In every run whose steps are all regular, the worker gives up only after ten failed retries
of one piece and session, and counts no success as a failed retry. -/
theorem regular_runs_account (t : Tracked)
    (reached : ReachesWhere Regular stepTracked initialTracked t) : RetryAccounting t := by
  have initially : Accounted initialTracked := ⟨nofun, fun _ => rfl, .inl rfl⟩
  have accounted : Accounted t := reached.invariant initially
    (fun _ _ _ holds regular stepped => stepTracked_accounted regular stepped holds)
  exact accounted_retryAccounting accounted

def sixDays : EpoControl := ⟨none, some 6, none⟩

/-- One more retry of the piece fails once the alarm has come. -/
def failedRetry : List Label :=
  [.retryAlarm, .wake sixDays, .resume false, .download .failed, .retryDone, .wifiTrigger false]

/-- A download over Wi-Fi fails, and so do ten retries. -/
def failedDownload : List Label :=
  [.create .gr, .networkState 1 nwWifi, .start sixDays false false, .wake sixDays,
    .download .failed, .requestDone, .resume false, .download .failed, .retryDone,
    .wifiTrigger false] ++ (List.replicate 9 failedRetry).flatten

theorem gives_up_after_ten_retries :
    ∃ t : Tracked, t.gaveUpAfter = [10] ∧ RetryAccounting t := by
  have executed : (run (guarded Regular stepTracked) initialTracked failedDownload).map
      Tracked.gaveUpAfter = some [10] := by decide +kernel
  rcases Option.map_eq_some_iff.mp executed with ⟨t, ran, gaveUp⟩
  exact ⟨t, gaveUp, regular_runs_account t (reachesWhere_of_run failedDownload ran)⟩

def threeDays : EpoControl := ⟨none, some 3, none⟩

/-- The only piece fails at first, and its retry succeeds. -/
def onlyPieceRetried : List Label :=
  [.create .gr, .networkState 1 nwWifi, .start threeDays false false, .wake threeDays,
    .download .failed, .requestDone, .resume false, .download (.ok (List.replicate 72 0)),
    .append ⟨true, true, [⟨256, 256⟩]⟩, .serverCheck (.time 315964800) .openFails, .count]

/-- The success has reset the piece counter to the value that the retry began with. -/
theorem success_counted_as_failure :
    ¬ ∀ t, Reaches stepTracked initialTracked t → RetryAccounting t := by
  intro accounting
  have executed : (run stepTracked initialTracked onlyPieceRetried).map
      (fun t => (decide (Counts t.worker), t.result)) = some (true, some true) := by decide +kernel
  rcases Option.map_eq_some_iff.mp executed with ⟨t, ran, ended⟩
  have counts : Counts t.worker := of_decide_eq_true (congrArg Prod.fst ended)
  have succeeded : t.result = some true := congrArg Prod.snd ended
  exact (accounting t (reaches_of_run onlyPieceRetried ran)).2 counts succeeded

end X5MaxDevice.Gps.EpoRetries
