import X5MaxDevice.Base.History
import X5MaxDevice.Gps.AtCommands
import X5MaxDevice.Gps.Codec
import X5MaxDevice.Gps.EpoWorker

/-! The requests for the EPO files: the key and the counter that they carry, over any number of
downloads. -/

namespace X5MaxDevice.Gps.EpoRequests

open X5MaxDevice.Gps.AtCommands (decimal)
open X5MaxDevice.Gps.Codec (cString)
open X5MaxDevice.Gps.EpoWorker (PieceName)
open X5MaxDevice.Gps.Tokenizer (Bytes bytes)
open X5MaxDevice.History
open X5MaxDevice.Transitions

inductive EpoFileName where
  | md (piece : PieceName)
  | data (piece : PieceName)
  deriving DecidableEq, Repr

/-- What `getEpoUrl` is called with, and how the transfers end. -/
inductive Event where
  | url (file : EpoFileName) (key : Bytes)
  | transfer (succeeded : Bool)
  deriving DecidableEq, Repr

structure State where
  counter : Nat
  log : List Event
  deriving DecidableEq, Repr

def initial : State := ⟨1, []⟩

def State.record (s : State) (event : Event) : State := { s with log := s.log ++ [event] }

/-- What a call of `curl_easy_download_epo` meets: the piece it names, whether there are URLs,
how the transfers go, and the contents of the MD5 file if it can be opened. -/
structure Call where
  piece : PieceName
  mdUrl : Bool
  mdTransferred : Bool
  md : Option Bytes
  dataUrl : Bool
  dataTransferred : Bool
  deriving DecidableEq, Repr

/-- `sprintf` into `count_str`, which has 5 bytes. -/
def countStr (counter : Nat) : Option Bytes :=
  if (decimal counter).length < 5 then some (decimal counter) else none

def zeroKey : Bytes := bytes "0000000000000000"

/-- The sixteen bytes behind the first 32, of up to 48 bytes read into a zeroed buffer. -/
def mdKey (contents : Bytes) : Bytes :=
  cString (((contents.take 48 ++ List.replicate 48 0).drop 32).take 16)

/-- No state is left where the counter does not fit. -/
def State.request (s : State) (file : EpoFileName) (key : Bytes) : Option State :=
  (countStr s.counter).map fun count => s.record (.url file (key ++ bytes "&counter=" ++ count))

def State.transferred (s : State) (succeeded : Bool) : State :=
  { counter := if succeeded then 1 else s.counter + 1
    log := s.log ++ [.transfer succeeded] }

/-- The second half, from the key on. -/
def downloadData (call : Call) (key : Bytes) (s : State) : Option State :=
  (s.request (.data call.piece) key).map fun s =>
    if call.dataUrl then s.transferred call.dataTransferred else s

def curlEasyDownloadEpo (s : State) (call : Call) : Option State :=
  (s.request (.md call.piece) zeroKey).bind fun s =>
    if call.mdUrl then
      let key := if call.mdTransferred then (call.md.map mdKey).getD zeroKey else zeroKey
      downloadData call key (s.transferred call.mdTransferred)
    else some s

def Event.succeeded : Event → Bool
  | .transfer true => true
  | _ => false

def Event.failed : Event → Bool
  | .transfer false => true
  | _ => false

/-- The transfers that have failed since the last one that succeeded. -/
def failuresInRow (log : List Event) : Nat :=
  (since Event.succeeded log).countP Event.failed

/-- The counter of a URL is one more than the failures in a row before it, and the text stays in
the 70 bytes of `gps_epo_md_key`. -/
def Told (before : List Event) : Event → Prop
  | .url _ key => ∃ front, front.length ≤ 16 ∧
      key = front ++ bytes "&counter=" ++ decimal (1 + failuresInRow before : Nat) ∧
      key.length < 70
  | .transfer _ => True

structure Counted (s : State) : Prop where
  counter : s.counter = 1 + failuresInRow s.log
  told : AtEach Told s.log

section Steps

variable {s s' : State} {call : Call} {file : EpoFileName} {key : Bytes}

theorem failuresInRow_url (log : List Event) (file : EpoFileName) (key : Bytes) :
    failuresInRow (log ++ [.url file key]) = failuresInRow log := by
  simp [failuresInRow, since_snoc, Event.succeeded, Event.failed]

theorem failuresInRow_transfer (log : List Event) (succeeded : Bool) :
    failuresInRow (log ++ [.transfer succeeded]) =
      if succeeded then 0 else failuresInRow log + 1 := by
  cases succeeded <;> simp [failuresInRow, since_snoc, Event.succeeded, Event.failed]

theorem counted_initial : Counted initial where
  counter := rfl
  told := atEach_nil Told

theorem countStr_eq (counter : Nat) :
    countStr counter = if counter < 10000 then some (decimal counter) else none := by
  have digits : (decimal counter).length < 5 ↔ counter < 10000 := by
    have natural : ¬ (counter : Int) < 0 := by omega
    have bound := @Nat.length_toDigits_le_iff 10 counter 4 (by decide) (by decide)
    simp only [decimal, natural, if_false, List.nil_append, List.length_map, Int.natAbs_natCast]
    omega
  simp only [countStr, digits]

theorem mdKey_length (contents : Bytes) : (mdKey contents).length ≤ 16 := by
  rw [mdKey, cString]
  apply le_trans (List.takeWhile_prefix _).length_le
  simp

theorem counted_transferred (counted : Counted s) (succeeded : Bool) :
    Counted (s.transferred succeeded) where
  counter := by
    rw [State.transferred, failuresInRow_transfer]
    cases succeeded
    · simp [counted.counter]
      omega
    · simp
  told := counted.told.snoc trivial

/-- A request is made as long as fewer than 9999 transfers have failed in a row. -/
theorem request_eq (counted : Counted s) (file : EpoFileName) (key : Bytes) :
    s.request file key =
      if failuresInRow s.log < 9999 then
        some (s.record (.url file (key ++ bytes "&counter=" ++
          decimal (1 + failuresInRow s.log : Nat))))
      else none := by
  rw [State.request, countStr_eq, counted.counter]
  by_cases few : failuresInRow s.log < 9999
  · rw [if_pos few, if_pos (by omega), Option.map_some]
  · rw [if_neg few, if_neg (by omega), Option.map_none]

theorem counted_request (counted : Counted s) (short : key.length ≤ 16)
    (requested : s.request file key = some s') :
    Counted s' ∧ failuresInRow s'.log = failuresInRow s.log := by
  rw [request_eq counted] at requested
  split at requested
  · rename_i few
    obtain rfl := Option.some.inj requested
    have digits : (decimal (1 + failuresInRow s.log : Nat)).length ≤ 4 := by
      have fits := countStr_eq (1 + failuresInRow s.log)
      rw [if_pos (by omega), countStr] at fits
      split at fits
      · omega
      · cases fits
    have same : failuresInRow (s.record (.url file (key ++ bytes "&counter=" ++
        decimal (1 + failuresInRow s.log : Nat)))).log = failuresInRow s.log :=
      failuresInRow_url _ _ _
    refine ⟨⟨?_, counted.told.snoc ⟨key, short, rfl, ?_⟩⟩, same⟩
    · rw [same]
      exact counted.counter
    · have middle : (bytes "&counter=").length = 9 := by decide +kernel
      simp only [List.length_append]
      omega
  · cases requested

theorem counted_downloadData (counted : Counted s) (short : key.length ≤ 16)
    (downloaded : downloadData call key s = some s') :
    Counted s' ∧ failuresInRow s'.log ≤ failuresInRow s.log + 1 := by
  simp only [downloadData, Option.map_eq_some_iff] at downloaded
  obtain ⟨asked, requested, rfl⟩ := downloaded
  obtain ⟨countedAsked, same⟩ := counted_request counted short requested
  split
  · refine ⟨counted_transferred countedAsked _, ?_⟩
    simp only [State.transferred, failuresInRow_transfer]
    split <;> omega
  · exact ⟨countedAsked, by omega⟩

/-- A download makes at most two more failures in a row. -/
theorem counted_step (counted : Counted s) (stepped : curlEasyDownloadEpo s call = some s') :
    Counted s' ∧ failuresInRow s'.log ≤ failuresInRow s.log + 2 := by
  simp only [curlEasyDownloadEpo, Option.bind_eq_some_iff] at stepped
  obtain ⟨asked, requested, rest⟩ := stepped
  have zero : zeroKey.length = 16 := by decide +kernel
  obtain ⟨countedAsked, same⟩ := counted_request counted (by omega) requested
  split at rest
  · have transferred := counted_transferred countedAsked call.mdTransferred
    have few : failuresInRow (asked.transferred call.mdTransferred).log ≤
        failuresInRow s.log + 1 := by
      simp only [State.transferred, failuresInRow_transfer]
      split <;> omega
    have short : (if call.mdTransferred = true then (call.md.map mdKey).getD zeroKey
        else zeroKey).length ≤ 16 := by
      split
      · cases call.md with
        | none => simp [zero]
        | some contents => simpa using mdKey_length contents
      · omega
    obtain ⟨countedAfter, bound⟩ := counted_downloadData transferred short rest
    exact ⟨countedAfter, by omega⟩
  · obtain rfl := Option.some.inj rest
    exact ⟨countedAsked, by omega⟩

/-- The counter no longer fits before the first URL, or before the second. -/
def Overflows (log : List Event) (call : Call) : Prop :=
  9999 ≤ failuresInRow log ∨
    failuresInRow log = 9998 ∧ call.mdUrl = true ∧ call.mdTransferred = false

theorem step_eq_none_iff (counted : Counted s) :
    curlEasyDownloadEpo s call = none ↔ Overflows s.log call := by
  rw [curlEasyDownloadEpo, request_eq counted, Overflows]
  by_cases few : failuresInRow s.log < 9999
  · rw [if_pos few, Option.bind_some]
    have zero : zeroKey.length = 16 := by decide +kernel
    have countedAsked := (@counted_request _ _ (.md call.piece) _ counted (by omega)
      ((request_eq counted _ zeroKey).trans (if_pos few))).1
    have same := failuresInRow_url s.log (.md call.piece)
      (zeroKey ++ bytes "&counter=" ++ decimal (1 + failuresInRow s.log : Nat))
    cases known : call.mdUrl with
    | false => simp; omega
    | true =>
        rw [if_pos rfl, downloadData, Option.map_eq_none_iff,
          request_eq (counted_transferred countedAsked call.mdTransferred)]
        simp only [State.transferred, State.record, failuresInRow_transfer, same]
        cases call.mdTransferred <;> simp <;> omega
  · simp [few]
    omega

end Steps

section Downloads

variable {s s' : State}

theorem counted_run (counted : Counted s) {calls : List Call}
    (executed : run curlEasyDownloadEpo s calls = some s') : Counted s' :=
  (reaches_of_run calls executed).invariant counted
    (fun _ _ _ counted stepped => (counted_step counted stepped).1)

/-- A run stops at the first call that overflows. -/
theorem run_eq_none_iff (counted : Counted s) (calls : List Call) :
    run curlEasyDownloadEpo s calls = none ↔
      ∃ before call after mid, calls = before ++ call :: after ∧
        run curlEasyDownloadEpo s before = some mid ∧ Overflows mid.log call := by
  induction calls generalizing s with
  | nil => simp [run]
  | cons first rest ih =>
      rw [run]
      cases stepped : curlEasyDownloadEpo s first with
      | none =>
          simp only [Option.bind_none, true_iff]
          exact ⟨[], first, rest, s, rfl, rfl, (step_eq_none_iff counted).mp stepped⟩
      | some next =>
          rw [Option.bind_some, ih (counted_step counted stepped).1]
          constructor
          · rintro ⟨before, call, after, mid, rfl, executed, overflows⟩
            exact ⟨first :: before, call, after, mid, rfl, by rw [run, stepped]; exact executed,
              overflows⟩
          · rintro ⟨before, call, after, mid, split, executed, overflows⟩
            cases before with
            | nil =>
                obtain ⟨rfl, rfl⟩ := List.cons.inj split
                obtain rfl : s = mid := by simpa [run] using executed
                rw [(step_eq_none_iff counted).mpr overflows] at stepped
                cases stepped
            | cons head before =>
                obtain ⟨rfl, rfl⟩ := List.cons.inj split
                rw [run, stepped] at executed
                exact ⟨before, call, after, mid, rfl, executed, overflows⟩

theorem run_of_few (counted : Counted s) (calls : List Call)
    (few : failuresInRow s.log + 2 * calls.length ≤ 9998) :
    ∃ s', run curlEasyDownloadEpo s calls = some s' := by
  induction calls generalizing s with
  | nil => exact ⟨s, rfl⟩
  | cons first rest ih =>
      rw [List.length_cons] at few
      cases stepped : curlEasyDownloadEpo s first with
      | none =>
          rcases (step_eq_none_iff counted).mp stepped with many | ⟨many, -⟩ <;> omega
      | some next =>
          obtain ⟨countedNext, bound⟩ := counted_step counted stepped
          rw [run, stepped, Option.bind_some]
          exact ih countedNext (by omega)

/-- Both transfers of the call fail. -/
def Call.Fails (call : Call) : Prop :=
  call.mdUrl = true ∧ call.mdTransferred = false ∧ call.dataUrl = true ∧
    call.dataTransferred = false

theorem failures_of_fails {call : Call} (counted : Counted s) (fails : call.Fails)
    (stepped : curlEasyDownloadEpo s call = some s') :
    failuresInRow s'.log = failuresInRow s.log + 2 := by
  obtain ⟨known, failed, dataKnown, dataFailed⟩ := fails
  have zero : zeroKey.length = 16 := by decide +kernel
  simp only [curlEasyDownloadEpo, known, failed, if_true, Bool.false_eq_true, if_false,
    Option.bind_eq_some_iff, downloadData, dataKnown, dataFailed, Option.map_eq_some_iff] at stepped
  obtain ⟨asked, requested, askedData, requestedData, rfl⟩ := stepped
  obtain ⟨countedAsked, same⟩ := counted_request counted (by omega) requested
  have countedFailed := counted_transferred countedAsked false
  obtain ⟨-, sameData⟩ := counted_request countedFailed (by omega) requestedData
  simp only [State.transferred, failuresInRow_transfer, Bool.false_eq_true, if_false] at sameData ⊢
  omega

theorem run_of_failing (counted : Counted s) (calls : List Call)
    (fails : ∀ call ∈ calls, call.Fails) (start : failuresInRow s.log ≤ 9999)
    (many : 10000 ≤ failuresInRow s.log + 2 * calls.length) :
    run curlEasyDownloadEpo s calls = none := by
  induction calls generalizing s with
  | nil => simp at many; omega
  | cons first rest ih =>
      rw [List.length_cons] at many
      cases stepped : curlEasyDownloadEpo s first with
      | none => rw [run, stepped, Option.bind_none]
      | some next =>
          have fits : ¬ Overflows s.log first := fun overflows => by
            rw [(step_eq_none_iff counted).mpr overflows] at stepped
            cases stepped
          have failing := fails first (by simp)
          have more := failures_of_fails counted failing stepped
          have few : failuresInRow s.log < 9998 := by
            by_contra enough
            exact fits (by
              rw [Overflows]
              rcases Nat.lt_or_ge (failuresInRow s.log) 9999 with last | past
              · exact .inr ⟨by omega, failing.1, failing.2.1⟩
              · exact .inl past)
          rw [run, stepped, Option.bind_some]
          exact ih (counted_step counted stepped).1
            (fun call member => fails call (by simp [member])) (by omega) (by omega)

end Downloads

end X5MaxDevice.Gps.EpoRequests
