import X5MaxDevice.Base.History
import X5MaxDevice.Gps.EpoWorker

/-! What EPOHAL.DAT holds when the EPO worker completes a download: the pieces of the session
one after the other, as long as every append is whole and nothing cuts in between. -/

namespace X5MaxDevice.Gps.EpoAssembly

open X5MaxDevice.Gps.EpoWorker
open X5MaxDevice.History
open X5MaxDevice.Transitions

def isReset : Event → Bool
  | .sessionReset => true
  | _ => false

def downloadOf (name : PieceName) : Event → Option Data
  | .downloaded piece data => if piece = name then some data else none
  | _ => none

/-- The piece as it was last downloaded since the piece counter was set to 0. -/
def sessionPiece (log : List Event) (name : PieceName) : Option Data :=
  latest (downloadOf name) (since isReset log)

def SessionPieces (log : List Event) (epoType : EpoType) (parts : List Data) : Prop :=
  ∀ i, i < parts.length → sessionPiece log ⟨epoType, i⟩ = parts[i]?

/-- One piece for each started 3 days, at least 1 and at most 10. -/
def requiredPieces (days : Nat) : Nat := max 1 (min 10 ((days + 2) / 3))

/-- Whenever a download completes, the file is the concatenation of the required pieces of
the session. -/
def Assembled (log : List Event) : Prop :=
  AtEach (fun before event => ∀ epoType days hal, event = .completed epoType days hal →
    ∃ parts : List Data, parts.length = requiredPieces days ∧
      SessionPieces before epoType parts ∧ hal = some parts.flatten) log

/-- Every pass writes what it has read, and the passes reach the end of the piece. -/
def wholeCopy : List Pass → Data → Bool
  | _, [] => true
  | [], _ :: _ => false
  | pass :: passes, rest =>
      let size := min (min pass.bytesIn bufSize) rest.length
      decide (0 < size) && decide (size ≤ pass.bytesOut) && wholeCopy passes (rest.drop size)

def wholeAppend (s : State) (outcome : Merge) : Bool :=
  outcome.halOpens && outcome.pieceOpens && wholeCopy outcome.passes s.piece

def handling : Control → Bool
  | .download _ | .append _ | .serverCheck _ | .count _ => true
  | _ => false

/-- The piece is in the file and not yet counted. -/
def uncounted : Control → Bool
  | .serverCheck _ | .count _ => true
  | _ => false

def requests : StartAction → Bool
  | .download | .downloadExpired | .replace => true
  | _ => false

/-- No piece is being handled, or the first one is still to be downloaded. -/
def takesRequest (s : State) : Bool :=
  match s.control with
  | .download _ => decide (s.gpsEpoFileCount = 0)
  | control => !handling control

/-- Appends are whole, no time of a further piece is unreadable, no request and no removal of
the file falls between the append of a piece and its count, and the configured days are never
lowered below the pieces that are there. -/
def Undisturbed (s : State) : Label → Prop
  | .create epoType => epoType = s.gpsEpoType ∨ s.gpsEpoFileCount = 0
  | .start control epoFile expired =>
      requests (startAction (gpsDownloadEpoEnable s control) epoFile expired) = true →
        takesRequest s = true
  | .updateDone => uncounted s.control = true →
      s.epoDownloadFailed = true ∨ s.gpsEpoFileCount ≠ 0
  | .append outcome => wholeAppend s outcome = true
  | .serverCheck first last => timeReadFails s first last →
      s.gpsEpoFileCount = 0 ∨ serverDataUpdated s first last
  | .count => s.gpsEpoFileCount < requiredPieces s.gpsEpoDownloadDays
  | _ => True

instance (s : State) : (label : Label) → Decidable (Undisturbed s label)
  | .create _ => inferInstanceAs (Decidable (_ ∨ _))
  | .start _ _ _ => inferInstanceAs (Decidable (_ → _))
  | .updateDone => inferInstanceAs (Decidable (_ → _ ∨ _))
  | .append _ => inferInstanceAs (Decidable (_ = _))
  | .serverCheck _ _ => inferInstanceAs (Decidable (_ → _ ∨ _))
  | .count => inferInstanceAs (Decidable (_ < _))
  | .cleanup | .networkState _ _ | .setStarted _ | .retryAlarm | .wake _ | .download _
  | .requestDone | .resume _ | .retryDone | .wifiTrigger _ => isTrue trivial

theorem copyLoop_whole (passes : List Pass) (rest : Data) (whole : wholeCopy passes rest = true) :
    copyLoop passes rest = rest := by
  induction passes generalizing rest with
  | nil =>
      cases rest with
      | nil => rfl
      | cons byte bytes => cases whole
  | cons pass passes ih =>
      cases rest with
      | nil => simp [copyLoop]
      | cons byte bytes =>
          simp only [wholeCopy, Bool.and_eq_true, decide_eq_true_eq] at whole
          rcases whole with ⟨⟨moved, written⟩, remaining⟩
          have length : ((byte :: bytes).take (min pass.bytesIn bufSize)).length =
              min (min pass.bytesIn bufSize) (byte :: bytes).length := List.length_take
          have nonempty : (byte :: bytes).take (min pass.bytesIn bufSize) ≠ [] := by
            apply List.length_pos_iff.mp
            rw [length]
            exact moved
          have later := ih _ remaining
          simp only [copyLoop, if_neg nonempty]
          rw [length, later, List.take_of_length_le (by omega)]
          calc
            (byte :: bytes).take (min pass.bytesIn bufSize) ++
                (byte :: bytes).drop (min (min pass.bytesIn bufSize) (byte :: bytes).length) =
                (byte :: bytes).take (min (min pass.bytesIn bufSize) (byte :: bytes).length) ++
                (byte :: bytes).drop (min (min pass.bytesIn bufSize) (byte :: bytes).length) := by
              rw [← List.take_eq_take_min]
            _ = byte :: bytes := List.take_append_drop _ _

theorem sessionPiece_quiet (log : List Event) (name : PieceName) {event : Event}
    (kept : isReset event = false) (other : downloadOf name event = none) :
    sessionPiece (log ++ [event]) name = sessionPiece log name := by
  simp [sessionPiece, since_snoc, latest_snoc, kept, other]

theorem sessionPiece_downloaded (log : List Event) (name : PieceName) (data : Data) :
    sessionPiece (log ++ [.downloaded name data]) name = some data := by
  simp [sessionPiece, since_snoc, latest_snoc, isReset, downloadOf]

/-- The first `n` pieces of the session are in the file, the counter is in range and every
completion so far was lawful. -/
structure Consistent (s : State) (n : Nat) : Prop where
  bounded : s.gpsEpoFileCount < 10
  pieces : ∃ parts : List Data, parts.length = n ∧ SessionPieces s.log s.gpsEpoType parts ∧
    (0 < n → s.epoHal = some parts.flatten)
  lawful : Assembled s.log

theorem noPieces (log : List Event) (epoType : EpoType) (hal : Option Data) :
    ∃ parts : List Data, parts.length = 0 ∧ SessionPieces log epoType parts ∧
      (0 < 0 → hal = some parts.flatten) :=
  ⟨[], rfl, fun i inside => absurd inside (Nat.not_lt_zero i),
    fun some => absurd some (Nat.lt_irrefl 0)⟩

theorem Consistent.congr {s s' : State} {n : Nat} (holds : Consistent s n)
    (epoType : s'.gpsEpoType = s.gpsEpoType := by rfl)
    (count : s'.gpsEpoFileCount = s.gpsEpoFileCount := by rfl)
    (hal : s'.epoHal = s.epoHal := by rfl) (log : s'.log = s.log := by rfl) :
    Consistent s' n := by
  rcases holds with ⟨bounded, pieces, lawful⟩
  constructor
  · rw [count]
    exact bounded
  · rw [epoType, hal, log]
    exact pieces
  · rw [log]
    exact lawful

/-- Events that neither end a session, deliver a piece nor complete a download. -/
def Incidental (event : Event) : Prop :=
  isReset event = false ∧ (∀ name, downloadOf name event = none) ∧
    ∀ epoType days hal, event ≠ .completed epoType days hal

theorem updateEpoFileSent_incidental : Incidental .updateEpoFileSent :=
  ⟨rfl, fun _ => rfl, fun _ _ _ same => by cases same⟩

theorem updateReturned_incidental (retry succeeded : Bool) :
    Incidental (.updateReturned retry succeeded) :=
  ⟨rfl, fun _ => rfl, fun _ _ _ same => by cases same⟩

theorem retryGaveUp_incidental : Incidental .retryGaveUp :=
  ⟨rfl, fun _ => rfl, fun _ _ _ same => by cases same⟩

theorem Consistent.record {s : State} {n : Nat} (holds : Consistent s n) {event : Event}
    (incidental : Incidental event) : Consistent (s.record event) n := by
  rcases incidental with ⟨kept, other, incomplete⟩
  rcases holds with ⟨bounded, ⟨parts, length, session, hal⟩, lawful⟩
  refine ⟨bounded, ⟨parts, length, ?_, hal⟩, ?_⟩
  · intro i inside
    have same := sessionPiece_quiet s.log ⟨s.gpsEpoType, i⟩ kept (other _)
    exact same.trans (session i inside)
  · apply lawful.snoc
    intro epoType days hal completed
    exact absurd completed (incomplete epoType days hal)

theorem resetCount_consistent (s : State) (lawful : Assembled s.log) :
    Consistent s.resetCount 0 := by
  refine ⟨Nat.zero_lt_succ 9, noPieces _ _ _, ?_⟩
  apply lawful.snoc
  intro epoType days hal completed
  cases completed

theorem gpsDownloadEpo_consistent (s : State) (lawful : Assembled s.log) :
    Consistent (gpsDownloadEpo s) 0 :=
  (resetCount_consistent s lawful).congr

theorem mtkEpoIsExpired_assembled (s : State) (expired : Bool) (lawful : Assembled s.log) :
    Assembled (mtkEpoIsExpired s expired).log := by
  cases expired with
  | false => exact lawful
  | true => exact (resetCount_consistent s lawful).lawful

/-- With no piece counted it does not matter what the file holds. -/
theorem Consistent.forget {s : State} {n : Nat} (holds : Consistent s n) (hal : Option Data) :
    Consistent { s with epoHal := hal } 0 :=
  ⟨holds.bounded, noPieces _ _ _, holds.lawful⟩

/-- With a piece appended and not yet counted the file is one piece ahead of the counter; the
name of a piece that is handled is the one that the counter gives. -/
structure Invariant (s : State) : Prop where
  consistent : Consistent s
    (if uncounted s.control then s.gpsEpoFileCount + 1 else s.gpsEpoFileCount)
  named : ∀ caller, s.control = .download caller ∨ s.control = .append caller →
    s.gpsEpoFileName = some ⟨s.gpsEpoType, s.gpsEpoFileCount⟩
  fetched : ∀ caller, s.control = .append caller →
    ∃ data, s.pieces ⟨s.gpsEpoType, s.gpsEpoFileCount⟩ = some data ∧
      sessionPiece s.log ⟨s.gpsEpoType, s.gpsEpoFileCount⟩ = some data

theorem counted_outside {control : Control} (outside : handling control = false) :
    uncounted control = false := by
  revert outside
  cases control <;> simp [handling, uncounted]

theorem Invariant.outside {s : State} (holds : Consistent s s.gpsEpoFileCount)
    (outside : handling s.control = false) : Invariant s := by
  constructor
  · simpa [counted_outside outside] using holds
  · intro caller handled
    rcases handled with download | append
    · simp [download, handling] at outside
    · simp [append, handling] at outside
  · intro caller append
    simp [append, handling] at outside

theorem Invariant.counted {s : State} (holds : Invariant s)
    (counted : uncounted s.control = false) : Consistent s s.gpsEpoFileCount := by
  simpa [counted] using holds.consistent

theorem Invariant.ahead {s : State} (holds : Invariant s)
    (appended : uncounted s.control = true) : Consistent s (s.gpsEpoFileCount + 1) := by
  simpa [appended] using holds.consistent

theorem initial_invariant : Invariant initial := by
  apply Invariant.outside _ rfl
  exact ⟨Nat.zero_lt_succ 9, noPieces _ _ _, atEach_nil _⟩

theorem returnUpdate_invariant {s : State} (caller : Caller) (succeeded : Bool)
    (holds : Consistent s s.gpsEpoFileCount) : Invariant (returnUpdate s caller succeeded) := by
  have recorded (retry : Bool) := holds.record (updateReturned_incidental retry succeeded)
  cases caller with
  | request => exact .outside (recorded false).congr rfl
  | retry fileCountTemp => exact .outside (recorded true).congr rfl

theorem failUpdate_invariant {s : State} (caller : Caller)
    (holds : Consistent s s.gpsEpoFileCount) : Invariant (failUpdate s caller) :=
  returnUpdate_invariant caller false holds.congr

theorem request_invariant {s s' : State} (holds : Invariant s) (takes : takesRequest s = true)
    (consistent : Consistent s' 0) (count : s'.gpsEpoFileCount = 0)
    (control : s'.control = s.control) (epoType : s'.gpsEpoType = s.gpsEpoType)
    (name : s'.gpsEpoFileName = s.gpsEpoFileName) : Invariant s' := by
  by_cases handled : handling s.control = true
  · cases at_ : s.control with
    | download caller =>
        simp only [takesRequest, at_, decide_eq_true_eq] at takes
        have first := holds.named caller (.inl at_)
        rw [takes] at first
        refine ⟨by simpa [control, at_, uncounted, count] using consistent, ?_, ?_⟩
        · intro _ _
          rw [name, epoType, count]
          exact first
        · intro _ append
          simp [control, at_] at append
    | _ => simp_all [takesRequest, handling]
  · apply Invariant.outside
    · rw [count]
      exact consistent
    · rw [control]
      simpa using handled

theorem mtkGpsStart_invariant {s : State} (control : EpoControl) (epoFile expired : Bool)
    (holds : Invariant s) (undisturbed : Undisturbed s (.start control epoFile expired)) :
    Invariant (mtkGpsStart s control epoFile expired) := by
  have lawful : Assembled (gpsDownloadEpoEnable s control).log := holds.consistent.lawful
  have lawful' := mtkEpoIsExpired_assembled _ expired lawful
  have fits (s' : State) (lawful : Assembled s'.log)
      (requested : requests (startAction (gpsDownloadEpoEnable s control) epoFile expired) = true)
      (control : s'.control = s.control) (epoType : s'.gpsEpoType = s.gpsEpoType)
      (name : s'.gpsEpoFileName = s.gpsEpoFileName) : Invariant (gpsDownloadEpo s') :=
    request_invariant holds (undisturbed requested) (gpsDownloadEpo_consistent s' lawful) rfl
      control epoType name
  simp only [mtkGpsStart]
  cases action : startAction (gpsDownloadEpoEnable s control) epoFile expired with
  | nothing => exact ⟨holds.consistent.congr, holds.named, holds.fetched⟩
  | download => exact fits _ lawful (by rw [action]; rfl) rfl rfl rfl
  | downloadExpired =>
      cases expired <;> exact fits _ lawful' (by rw [action]; rfl) rfl rfl rfl
  | replace => cases expired <;> exact fits _ lawful' (by rw [action]; rfl) rfl rfl rfl
  | update =>
      refine ⟨(holds.consistent.record updateEpoFileSent_incidental).congr, holds.named, ?_⟩
      intro caller append
      rcases holds.fetched caller append with ⟨data, piece, downloaded⟩
      exact ⟨data, piece, (sessionPiece_quiet _ _ rfl rfl).trans downloaded⟩

theorem updateEpoFileDone_invariant {s : State} (holds : Invariant s)
    (undisturbed : Undisturbed s .updateDone) : Invariant (updateEpoFileDone s) := by
  by_cases removed : (!s.epoDownloadFailed) = true ∧ s.gpsEpoFileCount = 0
  · have counted : uncounted s.control = false := by
      by_contra merged
      rcases undisturbed (by simpa using merged) with failed | further
      · simp [failed] at removed
      · exact further removed.2
    have consistent := holds.consistent.forget none
    rw [updateEpoFileDone, if_pos removed]
    refine ⟨?_, holds.named, holds.fetched⟩
    simpa [State.unlinkHal, counted, removed.2] using consistent
  · rw [updateEpoFileDone, if_neg removed]
    exact holds

theorem startDownload_invariant {s : State} (caller : Caller)
    (holds : Consistent s s.gpsEpoFileCount) :
    Invariant ((gpsDownloadEpoFileName s s.gpsEpoFileCount).goto (.download caller)) := by
  rw [gpsDownloadEpoFileName_known s holds.bounded]
  refine ⟨holds.congr, fun _ _ => rfl, ?_⟩
  intro _ append
  cases append

theorem wake_invariant {s : State} (control : EpoControl)
    (holds : Consistent s s.gpsEpoFileCount) : Invariant (wake s control) := by
  simp only [wake]
  split
  · exact .outside holds.congr rfl
  · split
    · exact startDownload_invariant .request holds.congr
    · exact .outside holds.congr rfl

theorem savePiece_invariant {s : State} {caller : Caller} (data : Data) (holds : Invariant s)
    (control : s.control = .download caller) :
    Invariant ((s.savePiece ⟨s.gpsEpoType, s.gpsEpoFileCount⟩ data).goto (.append caller)) := by
  have consistent := holds.counted (by rw [control]; rfl)
  rcases consistent with ⟨bounded, ⟨parts, length, session, hal⟩, lawful⟩
  refine ⟨⟨bounded, ⟨parts, length, ?_, hal⟩, ?_⟩, ?_, ?_⟩
  · intro i inside
    have other : (⟨s.gpsEpoType, s.gpsEpoFileCount⟩ : PieceName) ≠ ⟨s.gpsEpoType, i⟩ := by
      intro same
      have index : s.gpsEpoFileCount = i := congrArg PieceName.index same
      omega
    have unrelated : downloadOf ⟨s.gpsEpoType, i⟩
        (.downloaded ⟨s.gpsEpoType, s.gpsEpoFileCount⟩ data) = none := if_neg other
    exact (sessionPiece_quiet s.log _ rfl unrelated).trans (session i inside)
  · apply lawful.snoc
    intro epoType days hal completed
    cases completed
  · intro _ _
    exact holds.named caller (.inl control)
  · intro _ _
    exact ⟨data, Function.update_self _ _ _, sessionPiece_downloaded _ _ _⟩

theorem curlEasyDownloadEpo_invariant {s : State} {caller : Caller} (outcome : Download)
    (holds : Invariant s) (control : s.control = .download caller) :
    Invariant (curlEasyDownloadEpo s caller outcome) := by
  have consistent := holds.counted (by rw [control]; rfl)
  cases outcome with
  | noUrl => exact failUpdate_invariant caller consistent
  | failed =>
      rcases unlinkPiece_frame s with ⟨pieces, unlinked⟩
      rw [curlEasyDownloadEpo, unlinked]
      exact failUpdate_invariant caller consistent.congr
  | ok data =>
      simp only [curlEasyDownloadEpo, holds.named caller (.inl control)]
      exact savePiece_invariant data holds control

/-- A whole append puts the piece at the end of the file, or alone into it when it is the first. -/
theorem appendPiece_whole {s : State} (caller : Caller) {outcome : Merge}
    (whole : wholeAppend s outcome = true) :
    appendPiece s caller outcome =
      { s with
        epoHal := some ((if s.gpsEpoFileCount = 0 then [] else s.epoHal.getD []) ++ s.piece)
        control := .serverCheck caller } := by
  simp only [wholeAppend, Bool.and_eq_true] at whole
  rcases whole with ⟨⟨halOpens, pieceOpens⟩, copied⟩
  have piece := copyLoop_whole outcome.passes s.piece copied
  by_cases first : s.gpsEpoFileCount = 0
  · have same : s.unlinkHal.piece = s.piece := rfl
    simp only [appendPiece, if_pos first, ↓reduceIte, halOpens, pieceOpens, same, piece]
    rfl
  · simp only [appendPiece, if_neg first, ↓reduceIte, halOpens, pieceOpens, piece]
    rfl

theorem appendPiece_invariant {s : State} {caller : Caller} {outcome : Merge}
    (holds : Invariant s) (control : s.control = .append caller)
    (whole : wholeAppend s outcome = true) : Invariant (appendPiece s caller outcome) := by
  have consistent := holds.counted (by rw [control]; rfl)
  rcases consistent with ⟨bounded, ⟨parts, length, session, hal⟩, lawful⟩
  rcases holds.fetched caller control with ⟨data, onDisk, downloaded⟩
  have piece : s.piece = data := by
    simp [State.piece, holds.named caller (.inr control), onDisk]
  rw [appendPiece_whole caller whole, piece]
  refine ⟨⟨bounded, ⟨parts ++ [data], ?_, ?_, ?_⟩, lawful⟩, ?_, ?_⟩
  · simp [length, uncounted]
  · intro i inside
    rw [List.length_append, List.length_singleton, length] at inside
    by_cases last : i = s.gpsEpoFileCount
    · rw [last, ← length, List.getElem?_concat_length, length]
      exact downloaded
    · have earlier : i < parts.length := by omega
      rw [List.getElem?_append_left earlier]
      exact session i earlier
  · intro _
    by_cases first : s.gpsEpoFileCount = 0
    · obtain rfl : parts = [] := List.length_eq_zero_iff.mp (length.trans first)
      simp [first]
    · simp [first, hal (Nat.pos_of_ne_zero first)]
  · intro _ handled
    rcases handled with download | append
    · cases download
    · cases append
  · intro _ append
    cases append

theorem mtkGpsEpoServerDataIsChanged_invariant {s : State} {caller : Caller}
    {first last : PieceTime} (holds : Invariant s) (control : s.control = .serverCheck caller)
    (undisturbed : Undisturbed s (.serverCheck first last)) :
    Invariant (mtkGpsEpoServerDataIsChanged s caller first last) := by
  have consistent := holds.ahead (by rw [control]; rfl)
  rcases readPieceTimes_frame s first last with ⟨failed, name, checked⟩
  simp only [mtkGpsEpoServerDataIsChanged, checked]
  split
  · rcases unlinkPieces_frame (List.range (s.gpsEpoFileCount + 1)).reverse
      { s with epoDownloadFailed := failed, gpsEpoFileName := name } with
      ⟨lastName, pieces, unlinked⟩
    rw [unlinked]
    exact returnUpdate_invariant caller false (resetCount_consistent _ consistent.lawful)
  · rename_i unchanged
    split
    · rename_i readFails
      have first : s.gpsEpoFileCount = 0 := by
        rcases undisturbed readFails with first | updated
        · exact first
        · exact absurd updated unchanged
      have none : Consistent s s.gpsEpoFileCount := by
        rw [first]
        exact consistent.forget s.epoHal
      exact returnUpdate_invariant caller false none.congr
    · refine ⟨consistent.congr, ?_, ?_⟩
      · intro _ handled
        rcases handled with download | append
        · cases download
        · cases append
      · intro _ append
        cases append

theorem complete_required {count days : Nat} (needed : count < requiredPieces days)
    (complete : ¬(count + 1 < 10 ∧ count + 1 < countTemp days)) :
    count + 1 = requiredPieces days := by
  have rounded : countTemp days = (days + 2) / 3 := by
    rw [countTemp]
    split <;> omega
  rw [rounded] at complete
  rw [requiredPieces] at needed ⊢
  omega

theorem assembled_completed {s : State} {n : Nat} (holds : Consistent s n) (some : 0 < n)
    (required : n = requiredPieces s.gpsEpoDownloadDays) :
    Assembled (s.log ++ [.completed s.gpsEpoType s.gpsEpoDownloadDays s.epoHal]) := by
  rcases holds.pieces with ⟨parts, length, session, hal⟩
  apply holds.lawful.snoc
  intro epoType days file completed
  cases completed
  exact ⟨parts, length.trans required, session, hal some⟩

theorem countPiece_invariant {s : State} {caller : Caller} (holds : Invariant s)
    (control : s.control = .count caller) (undisturbed : Undisturbed s .count) :
    Invariant (countPiece s caller) := by
  have consistent := holds.ahead (by rw [control]; rfl)
  simp only [countPiece]
  split
  · rename_i further
    have counted : Consistent { s with gpsEpoFileCount := s.gpsEpoFileCount + 1 }
        (s.gpsEpoFileCount + 1) := ⟨further.1, consistent.pieces, consistent.lawful⟩
    exact returnUpdate_invariant caller true counted
  · rename_i complete
    have lawful := assembled_completed consistent (Nat.succ_pos _)
      (complete_required undisturbed complete)
    rcases unlinkPieces_frame (List.range (countTemp s.gpsEpoDownloadDays))
      { s with gpsEpoFileCount := s.gpsEpoFileCount + 1 } with ⟨name, pieces, unlinked⟩
    rw [unlinked]
    have reset := resetCount_consistent
      { s with log := s.log ++ [.completed s.gpsEpoType s.gpsEpoDownloadDays s.epoHal] } lawful
    split
    · have sent := reset.record updateEpoFileSent_incidental
      exact returnUpdate_invariant caller true sent.congr
    · exact returnUpdate_invariant caller true reset.congr

theorem requestDone_invariant {s : State} (holds : Consistent s s.gpsEpoFileCount) :
    Invariant (requestDone s) := by
  simp only [requestDone]
  split
  · exact .outside holds.congr rfl
  · exact .outside holds.congr rfl

theorem resume_invariant {s : State} (expired : Bool) (holds : Consistent s s.gpsEpoFileCount) :
    Invariant (resume s expired) := by
  have remembered : ∃ fileRetrying,
      (if s.fileRetrying = 50 then { s with fileRetrying := s.gpsEpoFileCount } else s) =
        { s with fileRetrying := fileRetrying } := by
    split
    · exact ⟨s.gpsEpoFileCount, rfl⟩
    · exact ⟨s.fileRetrying, rfl⟩
  rcases remembered with ⟨fileRetrying, remembered⟩
  simp only [resume, remembered]
  split
  · split
    · have reset := resetCount_consistent { s with fileRetrying := fileRetrying } holds.lawful
      exact .outside (reset.forget none).congr rfl
    · exact startDownload_invariant _ holds.congr
  · exact .outside holds.congr rfl

theorem countRetry_frame (s : State) : ∃ fileRetrying retryTime,
    countRetry s = { s with fileRetrying := fileRetrying, retryTime := retryTime } := by
  rw [countRetry]
  split
  · exact ⟨s.fileRetrying, _, rfl⟩
  · exact ⟨_, _, rfl⟩

theorem retryDone_invariant {s : State} (fileCountTemp : Nat)
    (holds : Consistent s s.gpsEpoFileCount) : Invariant (retryDone s fileCountTemp) := by
  rcases countRetry_frame s with ⟨fileRetrying, retryTime, counted⟩
  simp only [retryDone, counted]
  split
  · split
    · exact .outside holds.congr rfl
    · exact .outside (holds.record retryGaveUp_incidental).congr rfl
  · exact .outside holds.congr rfl

theorem wifiTrigger_invariant {s : State} (expired : Bool)
    (holds : Consistent s s.gpsEpoFileCount) : Invariant (wifiTrigger s expired) := by
  simp only [wifiTrigger]
  split
  · have requested := gpsDownloadEpo_consistent _
      (mtkEpoIsExpired_assembled s expired holds.lawful)
    exact .outside (requested.forget none).congr rfl
  · exact .outside holds.congr rfl

theorem create_invariant {s : State} {epoType : EpoType}
    (holds : Consistent s s.gpsEpoFileCount) (undisturbed : Undisturbed s (.create epoType)) :
    Invariant { s with gpsEpoType := epoType, threadEpoExitFlag := false, control := .sleep } := by
  apply Invariant.outside _ rfl
  rcases undisturbed with same | none
  · exact holds.congr same
  · have forgotten := noPieces s.log epoType s.epoHal
    refine ⟨holds.bounded, ?_, holds.lawful⟩
    simpa only [none] using forgotten

theorem step_invariant {s s' : State} {label : Label} (holds : Invariant s)
    (undisturbed : Undisturbed s label) (stepped : step s label = some s') : Invariant s' := by
  have outside (control : Control) (at_ : s.control = control)
      (plain : handling control = false) : Consistent s s.gpsEpoFileCount :=
    holds.counted (counted_outside (by rw [at_]; exact plain))
  cases label <;> simp only [step, Option.some.injEq] at stepped
  case create epoType =>
    split at stepped <;> cases stepped
    rename_i exited
    exact create_invariant (outside _ exited rfl) undisturbed
  case cleanup => exact stepped ▸ ⟨holds.consistent.congr, holds.named, holds.fetched⟩
  case start control epoFile expired =>
    exact stepped ▸ mtkGpsStart_invariant control epoFile expired holds undisturbed
  case updateDone => exact stepped ▸ updateEpoFileDone_invariant holds undisturbed
  case networkState connected type =>
    exact stepped ▸ ⟨holds.consistent.congr, holds.named, holds.fetched⟩
  case setStarted started =>
    exact stepped ▸ ⟨holds.consistent.congr, holds.named, holds.fetched⟩
  case retryAlarm =>
    exact stepped ▸ ⟨holds.consistent.congr, holds.named, holds.fetched⟩
  case wake control =>
    split at stepped <;> cases stepped
    rename_i sleeping
    exact wake_invariant control (outside _ sleeping rfl)
  case download outcome =>
    split at stepped <;> cases stepped
    rename_i caller control
    exact curlEasyDownloadEpo_invariant outcome holds control
  case append outcome =>
    split at stepped <;> cases stepped
    rename_i caller control
    exact appendPiece_invariant holds control undisturbed
  case serverCheck first last =>
    split at stepped <;> cases stepped
    rename_i caller control
    exact mtkGpsEpoServerDataIsChanged_invariant holds control undisturbed
  case count =>
    split at stepped <;> cases stepped
    rename_i caller control
    exact countPiece_invariant holds control undisturbed
  case requestDone =>
    split at stepped <;> cases stepped
    rename_i returned
    exact requestDone_invariant (outside _ returned rfl)
  case resume expired =>
    split at stepped <;> cases stepped
    rename_i resumed
    exact resume_invariant expired (outside _ resumed rfl)
  case retryDone =>
    split at stepped <;> cases stepped
    rename_i fileCountTemp returned
    exact retryDone_invariant fileCountTemp (outside _ returned rfl)
  case wifiTrigger expired =>
    split at stepped <;> cases stepped
    rename_i reached
    exact wifiTrigger_invariant expired (outside _ reached rfl)

def downloadDays (days : Int) : EpoControl := ⟨none, some days, none⟩

/-- Pieces of one record each, for the GPS hours 0 and 6. -/
def firstPiece : Data := List.replicate 72 0
def secondPiece : Data := 6 :: List.replicate 71 0

def gpsEpoch : Int := 315964800

/-- Six days are requested over Wi-Fi; the first download fails and is resumed by retries. -/
def retriedDownload : List Label :=
  [.create .gr, .networkState 1 nwWifi, .start (downloadDays 6) false false,
    .wake (downloadDays 6), .download .failed, .requestDone, .resume false,
    .download (.ok firstPiece), .append ⟨true, true, [⟨256, 256⟩]⟩,
    .serverCheck (.time gpsEpoch) .openFails, .count, .retryDone, .wifiTrigger false,
    .wake (downloadDays 6), .resume false, .download (.ok secondPiece),
    .append ⟨true, true, [⟨256, 256⟩]⟩,
    .serverCheck (.time (gpsEpoch + 21600)) (.time (gpsEpoch + 21600)), .count]

/-- The only piece is downloaded, but EPOHAL.DAT cannot be opened for the append. -/
def unopenedFile : List Label :=
  [.create .gr, .start (downloadDays 3) false false, .wake (downloadDays 3),
    .download (.ok firstPiece), .append ⟨false, true, []⟩,
    .serverCheck (.time gpsEpoch) .openFails, .count]

end X5MaxDevice.Gps.EpoAssembly
