import X5MaxDevice.Base.Transitions
import Mathlib.Logic.Function.Basic

/-! The EPO worker thread of the GPS HAL: it downloads the pieces of the EPO data one by one
and appends them to EPOHAL.DAT, while the framework and the HAL thread request downloads. -/

namespace X5MaxDevice.Gps.EpoWorker

abbrev Data := List UInt8

/-- `gps_epo_type`: GPS with GLONASS, or GPS only. -/
inductive EpoType where
  | gr
  | gps
  deriving DecidableEq, Repr

/-- The piece in `EPO_GR_3_1.DAT` has index 0. -/
structure PieceName where
  epoType : EpoType
  index : Nat
  deriving DecidableEq, Repr

inductive Event where
  | sessionReset
  | downloaded (piece : PieceName) (data : Data)
  | updateReturned (retry succeeded : Bool)
  | completed (epoType : EpoType) (days : Nat) (hal : Option Data)
  | updateEpoFileSent
  | retryGaveUp
  deriving DecidableEq, Repr

/-- Where `mtk_gps_epo_file_update` is called: for a request, or for a retry that has saved
the piece counter. -/
inductive Caller where
  | request
  | retry (fileCountTemp : Nat)
  deriving DecidableEq, Repr

/-- What the worker executes next. -/
inductive Control where
  | exited
  | sleep
  | download (caller : Caller)
  | append (caller : Caller)
  | serverCheck (caller : Caller)
  | count (caller : Caller)
  | requestDone
  | resume
  | retryDone (fileCountTemp : Nat)
  | wifiTrigger
  deriving DecidableEq, Repr

structure State where
  epoDataUpdated : Bool
  epoDownloadFailed : Bool
  epoDownloadRetry : Bool
  gpsEpoFileCount : Nat
  gpsEpoFileName : Option PieceName
  gpsEpoType : EpoType
  gpsEpoDownloadDays : Nat
  gpsEpoEnable : Bool
  gpsEpoWifiTrigger : Bool
  nwConnected : Int
  nwType : Int
  started : Bool
  fileRetrying : Nat
  retryTime : Nat
  threadEpoExitFlag : Bool
  pieces : PieceName → Option Data
  epoHal : Option Data
  control : Control
  log : List Event

def initial : State where
  epoDataUpdated := false
  epoDownloadFailed := false
  epoDownloadRetry := true
  gpsEpoFileCount := 0
  gpsEpoFileName := none
  gpsEpoType := .gr
  gpsEpoDownloadDays := 30
  gpsEpoEnable := true
  gpsEpoWifiTrigger := false
  nwConnected := 0
  nwType := 0
  started := false
  fileRetrying := 50
  retryTime := 0
  threadEpoExitFlag := false
  pieces := fun _ => none
  epoHal := none
  control := .exited
  log := []

/-- The settings found in the EPO control file. -/
structure EpoControl where
  epoEnable : Option Int
  dwDays : Option Int
  epoWifiTrigger : Option Int
  deriving DecidableEq, Repr

/-- How `curl_easy_download_epo` gets its piece: without a URL nothing is touched, and a
failed transfer removes the file. -/
inductive Download where
  | noUrl
  | failed
  | ok (data : Data)
  deriving DecidableEq, Repr

/-- One pass of the copy loop: what `fread` and `fwrite` can move. -/
structure Pass where
  bytesIn : Nat
  bytesOut : Nat
  deriving DecidableEq, Repr

/-- How the merge goes: whether EPOHAL.DAT and the piece open, and the passes over the piece. -/
structure Merge where
  halOpens : Bool
  pieceOpens : Bool
  passes : List Pass
  deriving DecidableEq, Repr

/-- What reading the time of a piece file gives. -/
inductive PieceTime where
  | openFails
  | readFails
  | time (seconds : Int)
  deriving DecidableEq, Repr

inductive Label where
  | create (epoType : EpoType)
  | cleanup
  | start (control : EpoControl) (epoFile expired : Bool)
  | updateDone
  | networkState (connected type : Int)
  | setStarted (started : Bool)
  | retryAlarm
  | wake (control : EpoControl)
  | download (outcome : Download)
  | append (outcome : Merge)
  | serverCheck (first last : PieceTime)
  | count
  | requestDone
  | resume (expired : Bool)
  | retryDone
  | wifiTrigger (expired : Bool)
  deriving DecidableEq, Repr

def nwWifi : Int := 1
def nwData : Int := 0
def bufSize : Nat := 256
def oneDay : Int := 24 * 60 * 60

def State.record (s : State) (event : Event) : State := { s with log := s.log ++ [event] }

def State.goto (s : State) (next : Control) : State := { s with control := next }

def State.unlinkHal (s : State) : State := { s with epoHal := none }

/-- `gps_epo_file_count` is set to 0. -/
def State.resetCount (s : State) : State :=
  { s with gpsEpoFileCount := 0, log := s.log ++ [.sessionReset] }

def gpsDownloadEpoEnable (s : State) (control : EpoControl) : State :=
  { s with
    gpsEpoEnable :=
      match control.epoEnable with
      | none => s.gpsEpoEnable
      | some value => decide (value ≠ 0)
    gpsEpoDownloadDays :=
      match control.dwDays with
      | none => s.gpsEpoDownloadDays
      | some days => if days > 30 ∨ days < 0 then 30 else days.toNat
    gpsEpoWifiTrigger :=
      match control.epoWifiTrigger with
      | none => s.gpsEpoWifiTrigger
      | some value => decide (value ≠ 0) }

/-- No name is known from the tenth piece on, and the last one stays. -/
def gpsDownloadEpoFileName (s : State) (count : Nat) : State :=
  if count < 10 then { s with gpsEpoFileName := some ⟨s.gpsEpoType, count⟩ } else s

def gpsDownloadEpo (s : State) : State := { s.resetCount with epoDataUpdated := true }

/-- An expired file also resets the piece counter. -/
def mtkEpoIsExpired (s : State) (expired : Bool) : State :=
  if expired then s.resetCount else s

/-- What `mtk_gps_start` decides about the EPO files. -/
inductive StartAction where
  | nothing
  | download
  | downloadExpired
  | replace
  | update
  deriving DecidableEq, Repr

def startAction (s : State) (epoFile expired : Bool) : StartAction :=
  if s.gpsEpoEnable then
    if s.epoHal = none then
      if !epoFile then .download
      else if expired then .downloadExpired
      else .nothing
    else if (s.nwType = nwData ∧ s.nwConnected = 1 ∧ s.epoDownloadFailed)
        ∨ (s.nwConnected = 0 ∧ s.epoDownloadFailed) ∨ !s.epoDownloadFailed then
      if expired then .replace else .update
    else .nothing
  else .nothing

def mtkGpsStart (s : State) (control : EpoControl) (epoFile expired : Bool) : State :=
  let s := gpsDownloadEpoEnable s control
  match startAction s epoFile expired with
  | .nothing => s
  | .download => gpsDownloadEpo s
  | .downloadExpired => gpsDownloadEpo (mtkEpoIsExpired s expired)
  | .replace => gpsDownloadEpo (mtkEpoIsExpired s expired).unlinkHal
  | .update => s.record .updateEpoFileSent

/-- `HAL_CMD_UPDATE_EPO_FILE_DONE`. -/
def updateEpoFileDone (s : State) : State :=
  if !s.epoDownloadFailed ∧ s.gpsEpoFileCount = 0 then s.unlinkHal else s

def wake (s : State) (control : EpoControl) : State :=
  if s.threadEpoExitFlag then s.goto .exited
  else
    let s := gpsDownloadEpoEnable s control
    if s.epoDataUpdated then
      let s := { s with epoDownloadFailed := false }
      (gpsDownloadEpoFileName s s.gpsEpoFileCount).goto (.download .request)
    else s.goto .resume

/-- `mtk_gps_epo_file_update` returns to its caller, which ignores the result. -/
def returnUpdate (s : State) (caller : Caller) (succeeded : Bool) : State :=
  match caller with
  | .request => (s.record (.updateReturned false succeeded)).goto .requestDone
  | .retry fileCountTemp =>
      (s.record (.updateReturned true succeeded)).goto (.retryDone fileCountTemp)

def State.unlinkPiece (s : State) : State :=
  match s.gpsEpoFileName with
  | none => s
  | some name => { s with pieces := Function.update s.pieces name none }

def State.savePiece (s : State) (name : PieceName) (data : Data) : State :=
  { s with
    pieces := Function.update s.pieces name (some data)
    log := s.log ++ [.downloaded name data] }

def failUpdate (s : State) (caller : Caller) : State :=
  returnUpdate { s with epoDownloadFailed := true } caller false

/-- The first half of `curl_easy_download_epo`, up to the result of the transfer. -/
def curlEasyDownloadEpo (s : State) (caller : Caller) : Download → State
  | .noUrl => failUpdate s caller
  | .failed => failUpdate s.unlinkPiece caller
  | .ok data =>
      match s.gpsEpoFileName with
      | none => failUpdate s caller
      | some name => (s.savePiece name data).goto (.append caller)

/-- The bytes that reach EPOHAL.DAT; the loop ends when `fread` gives nothing. -/
def copyLoop : List Pass → Data → Data
  | [], _ => []
  | pass :: passes, rest =>
      let data := rest.take (min pass.bytesIn bufSize)
      if data = [] then [] else data.take pass.bytesOut ++ copyLoop passes (rest.drop data.length)

def State.piece (s : State) : Data := (s.gpsEpoFileName.bind s.pieces).getD []

/-- The second half of `curl_easy_download_epo`, which returns `CURLE_OK` however it goes. -/
def appendPiece (s : State) (caller : Caller) (outcome : Merge) : State :=
  let s := if s.gpsEpoFileCount = 0 then s.unlinkHal else s
  let copied := if outcome.pieceOpens then copyLoop outcome.passes s.piece else []
  let s := if outcome.halOpens then { s with epoHal := some (s.epoHal.getD [] ++ copied) } else s
  s.goto (.serverCheck caller)

def PieceTime.seconds : PieceTime → Int
  | .time seconds => seconds
  | _ => 0

/-- Names the pieces one after the other and removes each. -/
def unlinkPieces : List Nat → State → State
  | [], s => s
  | i :: rest, s => unlinkPieces rest (gpsDownloadEpoFileName s i).unlinkPiece

def serverDataUpdated (s : State) (first last : PieceTime) : Prop :=
  oneDay ≤ first.seconds - (if 0 < s.gpsEpoFileCount then last.seconds else first.seconds)

instance (s : State) (first last : PieceTime) : Decidable (serverDataUpdated s first last) :=
  inferInstanceAs (Decidable (_ ≤ _))

def timeReadFails (s : State) (first last : PieceTime) : Prop :=
  first = .readFails ∨ 0 < s.gpsEpoFileCount ∧ last = .readFails

instance (s : State) (first last : PieceTime) : Decidable (timeReadFails s first last) :=
  inferInstanceAs (Decidable (_ ∨ _))

/-- An unreadable time counts as a failed download; the name becomes that of the piece before. -/
def readPieceTimes (s : State) (first last : PieceTime) : State :=
  let s := if timeReadFails s first last then { s with epoDownloadFailed := true } else s
  if 0 < s.gpsEpoFileCount then gpsDownloadEpoFileName s (s.gpsEpoFileCount - 1) else s

/-- `mtk_gps_epo_server_data_is_changed`, with the return that follows when it reports a change. -/
def mtkGpsEpoServerDataIsChanged (s : State) (caller : Caller) (first last : PieceTime) : State :=
  let checked := readPieceTimes s first last
  if serverDataUpdated s first last then
    let unlinked := unlinkPieces (List.range (checked.gpsEpoFileCount + 1)).reverse checked
    returnUpdate unlinked.unlinkHal.resetCount caller false
  else if timeReadFails s first last then returnUpdate checked caller false
  else checked.goto (.count caller)

def countTemp (days : Nat) : Nat := days / 3 + (if days % 3 > 0 then 1 else 0)

/-- The rest of `mtk_gps_epo_file_update`. -/
def countPiece (s : State) (caller : Caller) : State :=
  let s := { s with gpsEpoFileCount := s.gpsEpoFileCount + 1 }
  let needed := countTemp s.gpsEpoDownloadDays
  if s.gpsEpoFileCount < 10 ∧ s.gpsEpoFileCount < needed then returnUpdate s caller true
  else
    let s := unlinkPieces (List.range needed) s
    let s := s.record (.completed s.gpsEpoType s.gpsEpoDownloadDays s.epoHal)
    let s := { s.resetCount with epoDataUpdated := false, epoDownloadFailed := false }
    let s := if s.started then s.record .updateEpoFileSent else s
    returnUpdate s caller true

def requestDone (s : State) : State :=
  let s := if s.epoDownloadFailed then { s with epoDataUpdated := false } else s
  s.goto .resume

def resume (s : State) (expired : Bool) : State :=
  if (s.started ∨ s.nwType = nwWifi) ∧ s.nwConnected ≠ 0 ∧ s.epoDownloadFailed
      ∧ s.epoDownloadRetry then
    let s := if s.fileRetrying = 50 then { s with fileRetrying := s.gpsEpoFileCount } else s
    let fileCountTemp := s.gpsEpoFileCount
    if expired then
      let s := { s.resetCount with epoDownloadFailed := false, epoDataUpdated := true }
      s.unlinkHal.goto (.retryDone fileCountTemp)
    else (gpsDownloadEpoFileName s s.gpsEpoFileCount).goto (.download (.retry fileCountTemp))
  else s.goto .wifiTrigger

def countRetry (s : State) : State :=
  if s.fileRetrying = s.gpsEpoFileCount then { s with retryTime := s.retryTime + 1 }
  else { s with fileRetrying := s.gpsEpoFileCount, retryTime := 0 }

def retryDone (s : State) (fileCountTemp : Nat) : State :=
  let s :=
    if fileCountTemp = s.gpsEpoFileCount then
      let s := countRetry s
      if s.retryTime < 10 then { s with epoDownloadRetry := false }
      else
        { s.record .retryGaveUp with
          epoDownloadFailed := false, retryTime := 0, fileRetrying := 50 }
    else s
  s.goto .wifiTrigger

def wifiTrigger (s : State) (expired : Bool) : State :=
  let s :=
    if !s.epoDataUpdated ∧ s.gpsEpoWifiTrigger ∧ s.gpsEpoEnable ∧ !s.epoDownloadFailed
        ∧ s.nwConnected ≠ 0 ∧ s.nwType = nwWifi ∧ expired then
      (gpsDownloadEpo (mtkEpoIsExpired s expired)).unlinkHal
    else s
  s.goto .sleep

/-- One step of the worker at its point of control, or of another thread at any time. A worker
is created after the HAL has determined the EPO type. -/
def step (s : State) : Label → Option State
  | .create epoType =>
      if s.control = .exited then
        some { s with gpsEpoType := epoType, threadEpoExitFlag := false, control := .sleep }
      else none
  | .cleanup => some { s with threadEpoExitFlag := true }
  | .start control epoFile expired => some (mtkGpsStart s control epoFile expired)
  | .updateDone => some (updateEpoFileDone s)
  | .networkState connected type => some { s with nwConnected := connected, nwType := type }
  | .setStarted started => some { s with started := started }
  | .retryAlarm => some { s with epoDownloadRetry := true }
  | .wake control => if s.control = .sleep then some (wake s control) else none
  | .download outcome =>
      match s.control with
      | .download caller => some (curlEasyDownloadEpo s caller outcome)
      | _ => none
  | .append outcome =>
      match s.control with
      | .append caller => some (appendPiece s caller outcome)
      | _ => none
  | .serverCheck first last =>
      match s.control with
      | .serverCheck caller => some (mtkGpsEpoServerDataIsChanged s caller first last)
      | _ => none
  | .count =>
      match s.control with
      | .count caller => some (countPiece s caller)
      | _ => none
  | .requestDone => if s.control = .requestDone then some (requestDone s) else none
  | .resume expired => if s.control = .resume then some (resume s expired) else none
  | .retryDone =>
      match s.control with
      | .retryDone fileCountTemp => some (retryDone s fileCountTemp)
      | _ => none
  | .wifiTrigger expired =>
      if s.control = .wifiTrigger then some (wifiTrigger s expired) else none

theorem gpsDownloadEpoFileName_known (s : State) {count : Nat} (known : count < 10) :
    gpsDownloadEpoFileName s count =
      { s with gpsEpoFileName := some ⟨s.gpsEpoType, count⟩ } :=
  if_pos known

theorem gpsDownloadEpoFileName_frame (s : State) (count : Nat) :
    ∃ name, gpsDownloadEpoFileName s count = { s with gpsEpoFileName := name } := by
  by_cases known : count < 10
  · exact ⟨_, gpsDownloadEpoFileName_known s known⟩
  · exact ⟨s.gpsEpoFileName, if_neg known⟩

theorem unlinkPiece_frame (s : State) : ∃ pieces, s.unlinkPiece = { s with pieces := pieces } := by
  rw [State.unlinkPiece]
  split
  · exact ⟨s.pieces, rfl⟩
  · exact ⟨_, rfl⟩

theorem unlinkPieces_frame (indices : List Nat) (s : State) :
    ∃ name pieces, unlinkPieces indices s =
      { s with gpsEpoFileName := name, pieces := pieces } := by
  induction indices generalizing s with
  | nil => exact ⟨s.gpsEpoFileName, s.pieces, rfl⟩
  | cons index indices ih =>
      rcases gpsDownloadEpoFileName_frame s index with ⟨name, named⟩
      rcases unlinkPiece_frame { s with gpsEpoFileName := name } with ⟨pieces, unlinked⟩
      rcases ih { s with gpsEpoFileName := name, pieces := pieces } with
        ⟨finalName, finalPieces, rest⟩
      exact ⟨finalName, finalPieces, by rw [unlinkPieces, named, unlinked, rest]⟩

theorem readPieceTimes_frame (s : State) (first last : PieceTime) :
    ∃ failed name, readPieceTimes s first last =
      { s with epoDownloadFailed := failed, gpsEpoFileName := name } := by
  have marked : ∃ failed,
      (if timeReadFails s first last then { s with epoDownloadFailed := true } else s) =
        { s with epoDownloadFailed := failed } := by
    split
    · exact ⟨true, rfl⟩
    · exact ⟨s.epoDownloadFailed, rfl⟩
  rcases marked with ⟨failed, marked⟩
  simp only [readPieceTimes, marked]
  split
  · rcases gpsDownloadEpoFileName_frame { s with epoDownloadFailed := failed }
      (s.gpsEpoFileCount - 1) with ⟨name, named⟩
    exact ⟨failed, name, named⟩
  · exact ⟨failed, s.gpsEpoFileName, rfl⟩

end X5MaxDevice.Gps.EpoWorker
