import X5MaxDevice.Base.Transitions
import X5MaxDevice.Gps.AtTest

/-! The AT commands of the production test: how a command is read, what it does to the test and
which answer goes back. -/

namespace X5MaxDevice.Gps.AtCommands

open X5MaxDevice.Gps.AtTest
open X5MaxDevice.Gps.Reader hiding nmeaReaderParse nmeaReaderFinish nmeaReaderAddc
open X5MaxDevice.Gps.Tokenizer
open X5MaxDevice.Transitions

/-- An answer: the text in its buffer, and the size of the buffer, which is sent as a whole. -/
structure Ack where
  text : Bytes
  size : Nat
  deriving DecidableEq, Repr

/-- The text and the zero behind it stay in the buffer. -/
def Ack.Fits (ack : Ack) : Prop := ack.text.length < ack.size

instance (ack : Ack) : Decidable ack.Fits := inferInstanceAs (Decidable (_ < _))

/-- A buffer as long as the text that initialises it. -/
def literal (text : String) : Ack := ⟨bytes text, (bytes text).length + 1⟩

def gpsOp : Bytes := bytes "AT%GPS"
def gnssOp : Bytes := bytes "AT%GNSS"
def gpsTestPrn : Int := 1
def gpsAtAckSize : Nat := 60

def isSpace (b : UInt8) : Bool := b = 32 || (9 ≤ b && b ≤ 13)
def isDigit (b : UInt8) : Bool := 48 ≤ b && b ≤ 57

/-- `%d`. -/
def decimal (n : Int) : Bytes :=
  (if n < 0 then [ascii '-'] else []) ++ (Nat.toDigits 10 n.natAbs).map ascii

/-- `strtoul` to the base 10 with the largest `unsigned long`: the value, and the text from the
end pointer on. -/
def strtoul (ulongMax : Nat) (text : Bytes) : Nat × Bytes :=
  let body := text.dropWhile isSpace
  let negative := body.head? = some (ascii '-')
  let unsigned := if negative ∨ body.head? = some (ascii '+') then body.tail else body
  let digits := unsigned.takeWhile isDigit
  let value := digits.foldl (fun n b => n * 10 + (b.toNat - 48)) 0
  if digits = [] then (0, text)
  else if ulongMax < value then (ulongMax, unsigned.drop digits.length)
  else if negative then ((ulongMax + 1 - value) % (ulongMax + 1), unsigned.drop digits.length)
  else (value, unsigned.drop digits.length)

def atCommandParseTestNum (ulongMax : Nat) (command : Bytes) : Int :=
  let (res, rest) := strtoul ulongMax (command.drop (if gnssOp.isPrefixOf command then 8 else 7))
  if res ≠ 0 ∧ rest = [] then int32 res else -1

def mtkGpsTestInprogress (t : Test) : TestState :=
  if t.testState = .done ∨ t.testState = .resultDone then .done
  else if t.testState = .inProgress then .inProgress
  else .unknown

/-- The text is printed into ten bytes. -/
def cnoAck (command : Bytes) (value : Int) : Ack :=
  if value = 0 then literal "0, NA"
  else
    ⟨decimal (value.tdiv 10) ++ if gnssOp.isPrefixOf command then bytes ", NA" else [], 10⟩

def atCommandSendCno (command : Bytes) (t : Test) : Ack :=
  if mtkGpsTestInprogress t = .inProgress then literal "GNSS Test In Progress"
  else if t.signalMode then cnoAck command t.cn
  else cnoAck command t.avgCNo

/-- The elements of `result`, separated by commas. -/
def resultValues (t : Test) : Bytes :=
  (bytes ", ").intercalate ((List.range 8).map (fun i => decimal (t.result.getD i 0)))

def resultAck (t : Test) : Ack :=
  ⟨ascii '[' :: resultValues t ++ bytes "][0, 0, 0, 0, 0, 0, 0, 0]", gpsAtAckSize⟩

def atCommandSendTestResult (t : Test) : Ack :=
  let ret := mtkGpsTestInprogress t
  if ret = .inProgress then literal "GNSS Test In Progress"
  else if ret = .done then resultAck t
  else if t.result.getD 0 0 ≠ 0 then resultAck t
  else if t.result.getD 5 0 ≠ 0 ∧ (t.signalMode || t.signalTestBegin) = false then resultAck t
  else literal "[0, 0, 0, 0, 0, 0, 0, 0][0, 0, 0, 0, 0, 0, 0, 0]"

/-- A test for the number in the command. -/
def startNumbered (start : Start) (started failed : String) (testNum : Int) (t : Test) :
    Test × List Ack :=
  if 0 ≤ testNum then
    let (t, ret) := mtkGpsTestStart start testNum gpsTestPrn 2 0 t
    (t, [literal (if ret = 0 then started else failed)])
  else (t, [literal "Invalid Test Num =0"])

/-- `command` ends before its terminating zero. -/
def atGpsCommandParser (ulongMax : Nat) (start : Start) (command : Bytes) (t : Test) :
    Test × List Ack :=
  let t := { t with testModeFlag := false }
  let c := fun i => command.getD i 0
  if c 6 = ascii '=' then
    if c 7 = ascii '?' ∧ c 8 = 0 then (t, [atCommandSendCno command t])
    else if (c 7 = ascii 'E' ∨ c 7 = ascii 'e') ∧ c 8 = 0 then (t, [])
    else if (c 7 = ascii 'D' ∨ c 7 = ascii 'd') ∧ c 8 = 0 then (t, [])
    else
      startNumbered start "GPS TEST START OK" "GPS ERROR" (atCommandParseTestNum ulongMax command) t
  else if c 6 = ascii '?' ∧ c 7 = 0 then
    let ret := mtkGpsTestInprogress t
    if ret = .inProgress then (t, [literal "GPS Test In Progress"])
    else if ret = .done then
      (t, [⟨ascii '<' :: resultValues t ++ [ascii '>'], gpsAtAckSize⟩])
    else (t, [literal "ERROR"])
  else if c 6 = 0 then (t, [atCommandSendCno command t])
  else (t, [literal "GPS ERROR"])

/-- `AT%GNSS=S`. -/
def setSignalMode (start : Start) (t : Test) : Test × Int :=
  if t.testFlag = false then mtkGpsTestStart start 0 1 2 1 t
  else
    ({ t with
        signalMode := true
        testFlag := false
        setAlarm := if t.cancelAlarm then t.setAlarm else false }, 0)

def endGnssTest (start : Start) (t : Test) : Test × Ack :=
  if t.testState = .unknown then (t, literal "GNSS Test is Not In Progress")
  else
    (mtkGpsTestStop start.stops t,
      literal (if start.stops then "GNSS TEST END OK" else "GNSS TEST END FAIL"))

def clearResult (t : Test) : Test :=
  { t with
    result := [1, 0, 0, 0, 0, 0, 0, 0]
    avgCNo := 0
    successNum := 0
    completedNum := 0
    cNo := 0
    devCNo := 0
    cn := 0 }

/-- `AT%GNSS=n`. -/
def numberedGnssTest (start : Start) (testNum : Int) (t : Test) : Test × List Ack :=
  let t := clearResult t
  if t.signalMode then
    if testNum ≤ 0 then
      (if t.testState ≠ .unknown then mtkGpsTestStop start.stops t else t,
        [literal "Invalid Test Num = 0"])
    else
      ({ t with signalTestBegin := true, testState := .inProgress, startTime := start.now },
        [literal "GNSS TEST START OK"])
  else startNumbered start "GNSS TEST START OK" "GNSS ERROR" testNum t

def atGnssCommandParser (ulongMax : Nat) (start : Start) (command : Bytes) (t : Test) :
    Test × List Ack :=
  let t := { t with testModeFlag := false }
  let c := fun i => command.getD i 0
  if c 7 = ascii '=' then
    if c 8 = ascii '?' ∧ c 9 = 0 then (t, [atCommandSendTestResult t])
    else if (c 8 = ascii 'S' ∨ c 8 = ascii 's') ∧ c 9 = 0 then
      let (t, ret) := setSignalMode start t
      (t, [literal (if ret = 0 then "GNSS START START OK" else "GNSS START START FAIL")])
    else if (c 8 = ascii 'E' ∨ c 8 = ascii 'e') ∧ c 9 = 0 then
      let (t, ack) := endGnssTest start t
      (t, [ack])
    else numberedGnssTest start (atCommandParseTestNum ulongMax command) t
  else if c 7 = ascii '?' ∧ c 8 = 0 then (t, [atCommandSendTestResult t])
  else if c 7 = 0 then (t, [atCommandSendCno command t])
  else (t, [literal "GNSS ERROR"])

def atCommandParser (ulongMax : Nat) (start : Start) (command : Bytes) (t : Test) :
    Test × List Ack :=
  if gpsOp.isPrefixOf command then atGpsCommandParser ulongMax start command t
  else if gnssOp.isPrefixOf command then atGnssCommandParser ulongMax start command t
  else (t, [literal "GPS ERROR"])

def cmdSize : Nat := 20

/-- The command in a datagram. A datagram that fills `cmd` puts the zero behind the buffer. -/
def receivedCommand (datagram : Bytes) : Option Bytes :=
  if datagram.length < cmdSize then some (datagram.takeWhile (· ≠ 0)) else none

/-- The reader, the test, and the answers so far. -/
structure Session where
  state : State
  acks : List Ack

/-- What happens: a byte from the GPS, a datagram with a command, and tests that the framework
starts and stops. -/
inductive Label where
  | byte (c : UInt8) (tick : Tick)
  | command (datagram : Bytes) (start : Start)
  | start (testNum prnNum timeDelay testMode : Int) (start : Start)
  | stop (stops : Bool)

def Session.setTest (s : Session) (t : Test) : Session := { s with state.test := t }

def step (platform : Platform) (ulongMax : Nat) (s : Session) : Label → Option Session
  | .byte c tick => some { s with state := nmeaReaderAddc platform tick s.state c }
  | .command datagram start =>
      (receivedCommand datagram).map fun command =>
        let (t, answers) := atCommandParser ulongMax start command s.state.test
        { s.setTest t with acks := s.acks ++ answers }
  | .start testNum prnNum timeDelay testMode start =>
      some (s.setTest (mtkGpsTestStart start testNum prnNum timeDelay testMode s.state.test).1)
  | .stop stops => some (s.setTest (mtkGpsTestStop stops s.state.test))

def Session.loaded (r : NmeaReader) : Session := ⟨⟨r, .loaded⟩, []⟩

/-- What holds of the test whatever the commands do to it. -/
structure Kept (P : Test → Prop) : Prop where
  mode : ∀ t flag, P t → P { t with testModeFlag := flag }
  started : ∀ t start testNum prnNum timeDelay testMode, P t →
    P (mtkGpsTestStart start testNum prnNum timeDelay testMode t).1
  stopped : ∀ t stops, P t → P (mtkGpsTestStop stops t)
  switched : ∀ t setAlarm, P t →
    P { t with signalMode := true, testFlag := false, setAlarm := setAlarm }
  cleared : ∀ t, P t → P (clearResult t)
  began : ∀ t now, t.signalMode = true → P t →
    P { t with signalTestBegin := true, testState := .inProgress, startTime := now }

section Keeping

variable {P : Test → Prop} (kept : Kept P) (start : Start)

include kept in
theorem startNumbered_keeps (started failed : String) (testNum : Int) (t : Test) (holds : P t) :
    P (startNumbered start started failed testNum t).1 := by
  rw [startNumbered]
  split
  · exact kept.started t start testNum gpsTestPrn 2 0 holds
  · exact holds

include kept in
theorem setSignalMode_keeps (t : Test) (holds : P t) : P (setSignalMode start t).1 := by
  rw [setSignalMode]
  split
  · exact kept.started t start 0 1 2 1 holds
  · exact kept.switched t _ holds

include kept in
theorem endGnssTest_keeps (t : Test) (holds : P t) : P (endGnssTest start t).1 := by
  rw [endGnssTest]
  split
  · exact holds
  · exact kept.stopped t start.stops holds

include kept in
theorem numberedGnssTest_keeps (testNum : Int) (t : Test) (holds : P t) :
    P (numberedGnssTest start testNum t).1 := by
  have clear := kept.cleared t holds
  simp only [numberedGnssTest]
  split
  · rename_i mode
    split
    · split
      · exact kept.stopped _ start.stops clear
      · exact clear
    · exact kept.began _ start.now mode clear
  · exact startNumbered_keeps kept start _ _ testNum _ clear

include kept in
theorem atGpsCommandParser_keeps (ulongMax : Nat) (command : Bytes) (t : Test) (holds : P t) :
    P (atGpsCommandParser ulongMax start command t).1 := by
  have usb := kept.mode t false holds
  simp only [atGpsCommandParser]
  split
  · split
    · exact usb
    · split
      · exact usb
      · split
        · exact usb
        · exact startNumbered_keeps kept start _ _ _ _ usb
  · split
    · split
      · exact usb
      · split <;> exact usb
    · split <;> exact usb

include kept in
theorem atGnssCommandParser_keeps (ulongMax : Nat) (command : Bytes) (t : Test) (holds : P t) :
    P (atGnssCommandParser ulongMax start command t).1 := by
  have usb := kept.mode t false holds
  simp only [atGnssCommandParser]
  split
  · split
    · exact usb
    · split
      · exact setSignalMode_keeps kept start _ usb
      · split
        · exact endGnssTest_keeps kept start _ usb
        · exact numberedGnssTest_keeps kept start _ _ usb
  · split
    · exact usb
    · split <;> exact usb

include kept in
theorem atCommandParser_keeps (ulongMax : Nat) (command : Bytes) (t : Test) (holds : P t) :
    P (atCommandParser ulongMax start command t).1 := by
  rw [atCommandParser]
  split
  · exact atGpsCommandParser_keeps kept start ulongMax command t holds
  · split
    · exact atGnssCommandParser_keeps kept start ulongMax command t holds
    · exact holds

include kept in
/-- An invariant of the test that the commands and the bytes keep. -/
theorem step_keeps {platform : Platform} {ulongMax : Nat} {s s' : Session} {label : Label}
    (holds : P s.state.test)
    (byte : ∀ c tick, label = .byte c tick → P (nmeaReaderAddc platform tick s.state c).test)
    (stepped : step platform ulongMax s label = some s') : P s'.state.test := by
  cases label with
  | byte c tick =>
      obtain rfl := Option.some.inj stepped
      exact byte c tick rfl
  | command datagram start =>
      rcases Option.map_eq_some_iff.mp stepped with ⟨command, -, rfl⟩
      exact atCommandParser_keeps kept start ulongMax command s.state.test holds
  | start testNum prnNum timeDelay testMode start =>
      obtain rfl := Option.some.inj stepped
      exact kept.started s.state.test start testNum prnNum timeDelay testMode holds
  | stop stops =>
      obtain rfl := Option.some.inj stepped
      exact kept.stopped s.state.test stops holds

end Keeping

/-- The switches for raw data, which are not answered. -/
def rawDataSwitches : List Bytes :=
  [bytes "AT%GPS=E", bytes "AT%GPS=e", bytes "AT%GPS=D", bytes "AT%GPS=d"]

/-- The answers to a command are one of the fixed texts or show the values of the test. -/
inductive Answers (t : Test) : List Ack → Prop where
  | none : Answers t []
  | fixed (text : String) : Answers t [literal text]
  | cno (command : Bytes) (value : Int) (shown : value = t.cn ∨ value = t.avgCNo) :
      Answers t [cnoAck command value]
  | result : Answers t [resultAck t]
  | brackets : Answers t [⟨ascii '<' :: resultValues t ++ [ascii '>'], gpsAtAckSize⟩]

theorem sendCno_answers (command : Bytes) (t : Test) : Answers t [atCommandSendCno command t] := by
  rw [atCommandSendCno]
  split
  · exact .fixed _
  · split
    · exact .cno command t.cn (.inl rfl)
    · exact .cno command t.avgCNo (.inr rfl)

theorem sendTestResult_answers (t : Test) : Answers t [atCommandSendTestResult t] := by
  simp only [atCommandSendTestResult]
  split
  · exact .fixed _
  · split
    · exact .result
    · split
      · exact .result
      · split
        · exact .result
        · exact .fixed _

/-- A test for a number is always answered, with a fixed text. -/
theorem startNumbered_answer (start : Start) (started failed : String) (testNum : Int) (t : Test) :
    ∃ text, (startNumbered start started failed testNum t).2 = [literal text] := by
  rw [startNumbered]
  split
  · exact ⟨_, rfl⟩
  · exact ⟨_, rfl⟩

theorem numberedGnssTest_answer (start : Start) (testNum : Int) (t : Test) :
    ∃ text, (numberedGnssTest start testNum t).2 = [literal text] := by
  simp only [numberedGnssTest]
  split
  · split
    · exact ⟨_, rfl⟩
    · exact ⟨_, rfl⟩
  · exact startNumbered_answer start _ _ testNum _

theorem endGnssTest_answer (start : Start) (t : Test) :
    ∃ text, (endGnssTest start t).2 = literal text := by
  rw [endGnssTest]
  split
  · exact ⟨_, rfl⟩
  · exact ⟨_, rfl⟩

theorem atGpsCommandParser_answers (ulongMax : Nat) (start : Start) (command : Bytes) (t : Test) :
    Answers t (atGpsCommandParser ulongMax start command t).2 := by
  simp only [atGpsCommandParser]
  split
  · split
    · exact sendCno_answers command _
    · split
      · exact .none
      · split
        · exact .none
        · rcases startNumbered_answer start "GPS TEST START OK" "GPS ERROR"
            (atCommandParseTestNum ulongMax command) { t with testModeFlag := false } with
            ⟨text, same⟩
          rw [same]
          exact .fixed text
  · split
    · split
      · exact .fixed _
      · split
        · exact .brackets
        · exact .fixed _
    · split
      · exact sendCno_answers command _
      · exact .fixed _

theorem atGnssCommandParser_answers (ulongMax : Nat) (start : Start) (command : Bytes) (t : Test) :
    Answers t (atGnssCommandParser ulongMax start command t).2 := by
  simp only [atGnssCommandParser]
  split
  · split
    · exact sendTestResult_answers _
    · split
      · exact .fixed _
      · split
        · rcases endGnssTest_answer start { t with testModeFlag := false } with ⟨text, same⟩
          rw [same]
          exact .fixed text
        · rcases numberedGnssTest_answer start (atCommandParseTestNum ulongMax command)
            { t with testModeFlag := false } with ⟨text, same⟩
          rw [same]
          exact .fixed text
  · split
    · exact sendTestResult_answers _
    · split
      · exact sendCno_answers command _
      · exact .fixed _

theorem atCommandParser_answers (ulongMax : Nat) (start : Start) (command : Bytes) (t : Test) :
    Answers t (atCommandParser ulongMax start command t).2 := by
  rw [atCommandParser]
  split
  · exact atGpsCommandParser_answers ulongMax start command t
  · split
    · exact atGnssCommandParser_answers ulongMax start command t
    · exact .fixed _

end X5MaxDevice.Gps.AtCommands
