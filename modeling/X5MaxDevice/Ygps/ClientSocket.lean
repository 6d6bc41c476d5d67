import X5MaxDevice.Base.Java

/-! The worker of the PMTK command socket, and what the response to a command depends on. -/

namespace X5MaxDevice.Ygps

open X5MaxDevice.Java

def SOCKET_TIME_OUT_TIME : Int := 2000
def LINE_OUT_SIZE : Nat := 10
def BUFFER_SIZE : Nat := 1024

def CMD_RESPONSE : List (JString × JString) :=
  [("PMTK605".toList, "$PMTK705".toList), ("PMTK837".toList, "PMTK001".toList)]

/-- How far `openClient` gets before an exception. -/
inductive Opening where
  | refused
  | withoutStreams
  | withoutInput
  | connected
  deriving DecidableEq, Repr

/-- The bytes of one read and the time after it. -/
structure Read where
  bytes : List UInt8
  receiveTime : Int

/-- How the reads end when the loop does not leave them before: the end of the stream, or
an exception, to which a read that takes too long belongs. -/
inductive Ending where
  | endOfStream
  | failed
  deriving DecidableEq, Repr

/-- A command, and what the connection, the writes and the reads made for it come to. -/
structure Exchange where
  command : JString
  opening : Opening
  written : Bool
  startTime : Int
  reads : List Read
  ending : Ending

/-- The fields of the client; sockets and streams are null or not. -/
structure ClientSocket where
  mClientSocket : Bool
  mDataInput : Bool
  mDataOutput : Bool
  mCommand : Option JString
  mResponse : Option JString
  mDataBuffer : List UInt8

def ClientSocket.create : ClientSocket :=
  ⟨false, false, false, none, none, List.replicate BUFFER_SIZE 0⟩

def ClientSocket.openClient (client : ClientSocket) (opening : Opening) : ClientSocket :=
  if client.mClientSocket then client
  else match opening with
    | .refused => client
    | .withoutStreams => { client with mClientSocket := true }
    | .withoutInput => { client with mClientSocket := true, mDataOutput := true }
    | .connected =>
        { client with mClientSocket := true, mDataOutput := true, mDataInput := true }

/-- The fields are null afterwards even if closing throws. -/
def ClientSocket.closeClient (client : ClientSocket) : ClientSocket :=
  { client with mClientSocket := false, mDataInput := false, mDataOutput := false }

def tarRes (mCommand : JString) : JString :=
  match CMD_RESPONSE.find? (fun pair => contains mCommand pair.1) with
  | some pair => pair.2
  | none => "PMTK".toList

def checkTimeOut (mCommand : JString) : Bool := contains mCommand "PMTK605".toList

/-- The response in a text that contains the target from the given index on. -/
def answer (result : JString) (startIndex : Nat) : JString :=
  let strTemp := result.drop startIndex
  match indexOf strTemp ['*'] with
  | some endIndex => strTemp.take endIndex
  | none => "ERROR".toList

section Worker

-- the decoding of bytes to characters on the platform
variable (decode : List UInt8 → JString)

/-- The read loop behind `line` lines, with the buffer and the response it leaves. -/
def readLoop (e : Exchange) (line : Nat) (buffer : List UInt8) (response : Option JString) :
    List Read → List UInt8 × Option JString
  | [] => match e.ending with
    | .endOfStream => (buffer, response)
    | .failed => (buffer, some "ERROR".toList)
  | read :: reads =>
      let filled := read.bytes ++ buffer.drop read.bytes.length
      let result := decode (filled.take read.bytes.length)
      match indexOf result (tarRes e.command) with
      | some startIndex => (filled, some (answer result startIndex))
      | none =>
          if checkTimeOut e.command then
            if SOCKET_TIME_OUT_TIME < read.receiveTime - e.startTime then
              (filled, some "TIMEOUT".toList)
            else readLoop e (line + 1) filled response reads
          else if LINE_OUT_SIZE < line + 1 then (filled, some "TIMEOUT".toList)
          else readLoop e (line + 1) filled response reads

/-- One turn of the worker: the client afterwards and the value passed to `onResponse`. -/
def ClientSocket.process (client : ClientSocket) (e : Exchange) :
    ClientSocket × Option JString :=
  let opened := { client with mCommand := some e.command }.openClient e.opening
  let answered :=
    if opened.mDataOutput && opened.mDataInput then
      if e.written then
        let (buffer, response) := readLoop decode e 0 opened.mDataBuffer opened.mResponse e.reads
        { opened with mDataBuffer := buffer, mResponse := response }
      else { opened with mResponse := some "ERROR".toList }
    else { opened with mResponse := some "ERROR".toList }
  ({ answered with mCommand := none }.closeClient, answered.mResponse)

/-- The client after a history of commands. -/
def ClientSocket.processAll (client : ClientSocket) (history : List Exchange) : ClientSocket :=
  history.foldl (fun client e => (client.process decode e).1) client

/-- Whatever commands came before, the same value is passed to `onResponse`. -/
def Isolated (e : Exchange) : Prop :=
  ∀ history history' : List Exchange,
    ((ClientSocket.create.processAll decode history).process decode e).2 =
      ((ClientSocket.create.processAll decode history').process decode e).2

/-- The server closes the connection before it has answered: no read has the target in it,
and the stream ends within the limit of time, or of reads, that holds for the command. -/
def EndsUnanswered (e : Exchange) : Prop :=
  e.opening = .connected ∧ e.written = true ∧ e.ending = .endOfStream ∧
    (∀ read ∈ e.reads, contains (decode read.bytes) (tarRes e.command) = false) ∧
    if checkTimeOut e.command then
      ∀ read ∈ e.reads, read.receiveTime - e.startTime ≤ SOCKET_TIME_OUT_TIME
    else e.reads.length ≤ LINE_OUT_SIZE

/-- The loop goes on behind a read that comes after `line` others. -/
def Passes (e : Exchange) (line : Nat) (read : Read) : Prop :=
  contains (decode read.bytes) (tarRes e.command) = false ∧
    if checkTimeOut e.command then read.receiveTime - e.startTime ≤ SOCKET_TIME_OUT_TIME
    else line + 1 ≤ LINE_OUT_SIZE

theorem readLoop_of_passes {e : Exchange} {line : Nat} {read : Read}
    (passes : Passes decode e line read) (buffer : List UInt8) (response : Option JString)
    (reads : List Read) :
    readLoop decode e line buffer response (read :: reads) =
      readLoop decode e (line + 1) (read.bytes ++ buffer.drop read.bytes.length) response
        reads := by
  obtain ⟨absent, within⟩ := passes
  have missing : indexOf (decode read.bytes) (tarRes e.command) = none := by
    simpa [contains] using absent
  rw [readLoop]
  simp only [List.take_left, missing]
  split at within
  · rename_i timed
    rw [if_pos timed, if_neg (by omega)]
  · rename_i untimed
    rw [if_neg untimed, if_neg (by omega)]

/-- A read that the loop does not pass determines the response. -/
theorem readLoop_of_not_passes {e : Exchange} {line : Nat} {read : Read}
    (stops : ¬ Passes decode e line read) (reads : List Read) :
    ∃ value, ∀ buffer response,
      (readLoop decode e line buffer response (read :: reads)).2 = some value := by
  cases found : indexOf (decode read.bytes) (tarRes e.command) with
  | some startIndex =>
      refine ⟨answer (decode read.bytes) startIndex, fun buffer response => ?_⟩
      rw [readLoop]
      simp only [List.take_left, found]
  | none =>
      have absent : contains (decode read.bytes) (tarRes e.command) = false := by
        simp [contains, found]
      refine ⟨"TIMEOUT".toList, fun buffer response => ?_⟩
      rw [readLoop]
      simp only [List.take_left, found]
      by_cases timed : checkTimeOut e.command = true
      · have late : SOCKET_TIME_OUT_TIME < read.receiveTime - e.startTime := by
          by_contra early
          exact stops ⟨absent, by rw [if_pos timed]; omega⟩
        rw [if_pos timed, if_pos late]
      · have long : LINE_OUT_SIZE < line + 1 := by
          by_contra short
          exact stops ⟨absent, by rw [if_neg timed]; omega⟩
        rw [if_neg timed, if_pos long]

/-- The loop passes all reads, each behind those before it. -/
def PassesAll (e : Exchange) : Nat → List Read → Prop
  | _, [] => True
  | line, read :: reads => Passes decode e line read ∧ PassesAll e (line + 1) reads

theorem passesAll_iff (e : Exchange) (reads : List Read) {line : Nat}
    (early : checkTimeOut e.command = false → line ≤ LINE_OUT_SIZE) :
    PassesAll decode e line reads ↔
      (∀ read ∈ reads, contains (decode read.bytes) (tarRes e.command) = false) ∧
        if checkTimeOut e.command then
          ∀ read ∈ reads, read.receiveTime - e.startTime ≤ SOCKET_TIME_OUT_TIME
        else line + reads.length ≤ LINE_OUT_SIZE := by
  induction reads generalizing line with
  | nil =>
      cases timed : checkTimeOut e.command with
      | true => simp [PassesAll]
      | false => simpa [PassesAll] using early timed
  | cons read reads ih =>
      cases timed : checkTimeOut e.command with
      | true =>
          have later := @ih (line + 1) (fun untimed => by simp [timed] at untimed)
          simp only [PassesAll, Passes, later, timed, if_true, List.forall_mem_cons]
          tauto
      | false =>
          by_cases room : line + 1 ≤ LINE_OUT_SIZE
          · have later := @ih (line + 1) (fun _ => room)
            have counted : line + 1 + reads.length = line + (reads.length + 1) := by omega
            simp only [PassesAll, Passes, later, timed, Bool.false_eq_true, if_false, room,
              and_true, List.forall_mem_cons, List.length_cons, counted, and_assoc]
          · have full : ¬ line + (reads.length + 1) ≤ LINE_OUT_SIZE := by omega
            simp only [PassesAll, Passes, timed, Bool.false_eq_true, if_false, room, and_false,
              false_and, List.length_cons, full]

/-- The loop keeps the response it finds when it passes all reads up to the end of the
stream; otherwise it assigns one that does not depend on what it finds. -/
theorem readLoop_response (e : Exchange) (reads : List Read) (line : Nat) :
    (¬ (PassesAll decode e line reads ∧ e.ending = .endOfStream) ∧
        ∃ value, ∀ buffer response,
          (readLoop decode e line buffer response reads).2 = some value) ∨
      ((PassesAll decode e line reads ∧ e.ending = .endOfStream) ∧
        ∀ buffer response, (readLoop decode e line buffer response reads).2 = response) := by
  induction reads generalizing line with
  | nil =>
      cases ending : e.ending with
      | endOfStream =>
          right
          refine ⟨⟨trivial, rfl⟩, fun buffer response => ?_⟩
          simp only [readLoop, ending]
      | failed =>
          left
          refine ⟨fun ends => Ending.noConfusion ends.2, "ERROR".toList,
            fun buffer response => ?_⟩
          simp only [readLoop, ending]
  | cons read reads ih =>
      by_cases passes : Passes decode e line read
      · rcases ih (line + 1) with ⟨stops, value, assigned⟩ | ⟨ends, kept⟩
        · left
          refine ⟨fun ends => stops ⟨ends.1.2, ends.2⟩, value, fun buffer response => ?_⟩
          rw [readLoop_of_passes decode passes, assigned]
        · right
          refine ⟨⟨⟨passes, ends.1⟩, ends.2⟩, fun buffer response => ?_⟩
          rw [readLoop_of_passes decode passes, kept]
      · exact Or.inl ⟨fun ends => passes ends.1.1, readLoop_of_not_passes decode passes reads⟩

/-- The socket and its streams are null. -/
structure ClientSocket.Closed (client : ClientSocket) : Prop where
  mClientSocket : client.mClientSocket = false
  mDataInput : client.mDataInput = false
  mDataOutput : client.mDataOutput = false

theorem processAll_closed (history : List Exchange) :
    (ClientSocket.create.processAll decode history).Closed := by
  rcases List.eq_nil_or_concat history with rfl | ⟨front, last, rfl⟩
  · exact ⟨rfl, rfl, rfl⟩
  · rw [ClientSocket.processAll, List.concat_eq_append, List.foldl_append]
    exact ⟨rfl, rfl, rfl⟩

theorem process_connected {e : Exchange} (connected : e.opening = .connected ∧ e.written = true)
    {client : ClientSocket} (closed : client.Closed) :
    (client.process decode e).2 =
      (readLoop decode e 0 client.mDataBuffer client.mResponse e.reads).2 := by
  simp [ClientSocket.process, ClientSocket.openClient, closed.mClientSocket, connected]

/-- What a closed client passes on: its last response when the server ends unanswered,
and otherwise a value that does not depend on the client. -/
theorem process_response (e : Exchange) :
    (¬ EndsUnanswered decode e ∧ ∃ value, ∀ client : ClientSocket, client.Closed →
        (client.process decode e).2 = some value) ∨
      (EndsUnanswered decode e ∧ ∀ client : ClientSocket, client.Closed →
        (client.process decode e).2 = client.mResponse) := by
  by_cases connected : e.opening = .connected ∧ e.written = true
  · have ends : EndsUnanswered decode e ↔
        PassesAll decode e 0 e.reads ∧ e.ending = .endOfStream := by
      rw [passesAll_iff decode e e.reads (fun _ => Nat.zero_le _), EndsUnanswered]
      simp only [connected, true_and, Nat.zero_add]
      tauto
    rw [ends]
    rcases readLoop_response decode e e.reads 0 with ⟨stops, value, assigned⟩ | ⟨passes, kept⟩
    · exact Or.inl ⟨stops, value, fun client closed => by
        rw [process_connected decode connected closed, assigned]⟩
    · exact Or.inr ⟨passes, fun client closed => by
        rw [process_connected decode connected closed, kept]⟩
  · left
    refine ⟨fun ends => connected ⟨ends.1, ends.2.1⟩, "ERROR".toList, ?_⟩
    intro client closed
    cases opening : e.opening with
    | connected =>
        have unwritten : e.written = false := by
          rw [← Bool.not_eq_true]
          exact fun written => connected ⟨opening, written⟩
        simp only [ClientSocket.process, ClientSocket.openClient, closed.mClientSocket, opening,
          unwritten, Bool.and_self, if_true, Bool.false_eq_true, if_false]
    | refused | withoutStreams | withoutInput =>
        simp only [ClientSocket.process, ClientSocket.openClient, closed.mClientSocket,
          closed.mDataInput, closed.mDataOutput, opening, Bool.and_false, Bool.and_self,
          Bool.false_eq_true, if_false]

/-- A command that cannot connect. -/
def refused : Exchange := ⟨"PMTK101".toList, .refused, false, 0, [], .failed⟩

/-- The response to a command is isolated from earlier commands exactly when the server
does not close the connection before it has answered. -/
theorem isolated_iff (e : Exchange) : Isolated decode e ↔ ¬ EndsUnanswered decode e := by
  have closed := processAll_closed decode
  rcases process_response decode e with ⟨answered, value, same⟩ | ⟨unanswered, kept⟩
  · simp only [answered, not_false_eq_true, iff_true]
    intro history history'
    rw [same _ (closed history), same _ (closed history')]
  · simp only [unanswered, not_true_eq_false, iff_false]
    intro isolated
    have equal := isolated [] [refused]
    rw [kept _ (closed []), kept _ (closed [refused])] at equal
    cases equal

end Worker

/-- The server closes the connection at once. -/
def closedAtOnce : Exchange := ⟨"PMTK605".toList, .connected, true, 0, [], .endOfStream⟩

theorem closed_at_once_repeats_response :
    ¬ ∀ (decode : List UInt8 → JString) (e : Exchange), Isolated decode e := by
  intro isolated
  have equal := isolated (fun _ => []) closedAtOnce [] [refused]
  revert equal
  decide +kernel

end X5MaxDevice.Ygps
