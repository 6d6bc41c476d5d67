import Mathlib.Data.List.GetD
import X5MaxDevice.Gps.AtCommands

/-! How often AT commands are answered, and what an answer of progress tells. -/

namespace X5MaxDevice.Gps.AtProgress

open X5MaxDevice.Gps.AtCommands
open X5MaxDevice.Gps.AtTest
open X5MaxDevice.Gps.Reader hiding nmeaReaderParse nmeaReaderFinish nmeaReaderAddc
open X5MaxDevice.Gps.Tokenizer
open X5MaxDevice.Transitions

/-- A datagram with a command that is answered. -/
def answered : Label → Bool
  | .command datagram _ => decide (datagram.takeWhile (· ≠ 0) ∉ rawDataSwitches)
  | _ => false

/-- The zero behind a datagram stays in the buffer. -/
def Fitting : Label → Prop
  | .command datagram _ => datagram.length < cmdSize
  | _ => True

instance : (label : Label) → Decidable (Fitting label)
  | .command _ _ => inferInstanceAs (Decidable (_ < _))
  | .byte _ _ => isTrue trivial
  | .start .. => isTrue trivial
  | .stop _ => isTrue trivial

theorem getD_zero {rest : Bytes} (plain : 0 ∉ rest) (ended : rest.getD 0 0 = 0) : rest = [] := by
  cases rest with
  | nil => rfl
  | cons b rest =>
      have zero : b = 0 := ended
      exact absurd (zero ▸ List.mem_cons_self) plain

/-- A command that a letter ends, behind the equals sign. -/
theorem switch_eq {command : Bytes} (plain : 0 ∉ command) (named : gpsOp.isPrefixOf command = true)
    {letter : UInt8} (equals : command.getD 6 0 = ascii '=') (switch : command.getD 7 0 = letter)
    (present : letter ≠ 0) (ended : command.getD 8 0 = 0) :
    command = gpsOp ++ [ascii '=', letter] := by
  rcases List.isPrefixOf_iff_prefix.mp named with ⟨rest, rfl⟩
  have behind (i : Nat) : (gpsOp ++ rest).getD (gpsOp.length + i) 0 = rest.getD i 0 := by
    rw [List.getD_append_right _ _ _ _ (Nat.le_add_right _ _), Nat.add_sub_cancel_left]
  rw [show 6 = gpsOp.length + 0 by decide, behind 0] at equals
  rw [show 7 = gpsOp.length + 1 by decide, behind 1] at switch
  rw [show 8 = gpsOp.length + 2 by decide, behind 2] at ended
  have plainRest : 0 ∉ rest := fun member => plain (List.mem_append_right _ member)
  match rest, equals, switch, ended, plainRest with
  | [], equals, _, _, _ => exact absurd equals (by decide)
  | [_], _, switch, _, _ => exact absurd switch.symm present
  | first :: second :: rest, equals, switch, ended, plainRest =>
      have none : rest = [] := getD_zero (fun member => plainRest (by simp [member])) ended
      have one : first = ascii '=' := equals
      have two : second = letter := switch
      rw [one, two, none]

theorem mem_rawDataSwitches {command : Bytes} (plain : 0 ∉ command)
    (named : gpsOp.isPrefixOf command = true) (equals : command.getD 6 0 = ascii '=')
    (letter : command.getD 7 0 = ascii 'E' ∨ command.getD 7 0 = ascii 'e' ∨
      command.getD 7 0 = ascii 'D' ∨ command.getD 7 0 = ascii 'd')
    (ended : command.getD 8 0 = 0) : command ∈ rawDataSwitches := by
  rcases letter with switch | switch | switch | switch
  all_goals
    rw [switch_eq plain named equals switch (by decide) ended]
    decide

theorem singleton_length {answers : List Ack} (one : ∃ text, answers = [literal text]) :
    answers.length = 1 := by
  rcases one with ⟨text, rfl⟩
  rfl

/-- Commands other than the four switches get one answer, the switches get none. -/
theorem atCommandParser_length (ulongMax : Nat) (start : Start) {command : Bytes}
    (plain : 0 ∉ command) (t : Test) : (atCommandParser ulongMax start command t).2.length =
      if command ∈ rawDataSwitches then 0 else 1 := by
  by_cases switch : command ∈ rawDataSwitches
  · rw [if_pos switch]
    simp only [rawDataSwitches, List.mem_cons, List.not_mem_nil, or_false] at switch
    rcases switch with rfl | rfl | rfl | rfl <;> rfl
  · rw [if_neg switch, atCommandParser]
    split
    · rename_i named
      simp only [atGpsCommandParser]
      split
      · rename_i equals
        split
        · rfl
        · split
          · rename_i raised
            exact absurd (mem_rawDataSwitches plain named equals (by tauto) raised.2) switch
          · split
            · rename_i lowered
              exact absurd (mem_rawDataSwitches plain named equals (by tauto) lowered.2) switch
            · exact singleton_length (startNumbered_answer start _ _ _ _)
      · split
        · split
          · rfl
          · split <;> rfl
        · split <;> rfl
    · split
      · simp only [atGnssCommandParser]
        split
        · split
          · rfl
          · split
            · rfl
            · split
              · rfl
              · exact singleton_length (numberedGnssTest_answer start _ _)
        · split
          · rfl
          · split <;> rfl
      · rfl

/-- A state other than unknown belongs to a test that is switched on, and only in the signal mode
has a signal test begun. -/
structure Consistent (t : Test) : Prop where
  begun : t.signalTestBegin = true → t.signalMode = true
  on : t.testState ≠ .unknown → t.testFlag = true ∨ t.signalMode = true

theorem signal_consistent {t : Test} (holds : Consistent t) : Consistent t.signal := by
  rw [Test.signal]
  split
  · rename_i mode
    split
    · exact { holds with on := fun _ => .inr mode }
    · exact { holds with on := fun _ => .inr mode }
  · exact holds

theorem succeed_consistent {t : Test} (holds : Consistent t) (cNr : Int) :
    Consistent (t.succeed cNr) := by
  rw [Test.succeed]
  split
  · exact { holds with }
  · exact holds

theorem search_consistent (svCount : Int) {t : Test} (holds : Consistent t) :
    Consistent (gpsAtCommandSearchSatellite svCount t) := by
  have deviated {t : Test} (holds : Consistent t) :
      Consistent (if t.successNum ≠ 0 then { t with devCNo := t.deviation } else t) := by
    split
    · exact { holds with }
    · exact holds
  rw [gpsAtCommandSearchSatellite]
  split
  · exact holds
  · apply deviated
    split
    · exact { succeed_consistent (signal_consistent holds) _ with }
    · exact { holds with }

theorem testProc_consistent (svCount : Int) {t : Test} (holds : Consistent t) :
    Consistent (gpsAtCommandTestProc svCount t) := by
  rw [gpsAtCommandTestProc]
  split
  · exact holds
  · split
    · split
      · exact { search_consistent svCount holds with }
      · exact holds
    · exact search_consistent svCount holds

theorem slots_consistent {α : Type} (platform : Platform) (update : Counting α → Slot → Counting α)
    (slots : List Slot) (c : Counting α) {t : Test} (holds : Consistent t) :
    Consistent (slots.foldl (recordSlot platform update) (c, t)).2 := by
  induction slots generalizing c t with
  | nil => exact holds
  | cons slot slots ih =>
      rw [List.foldl_cons]
      exact ih _ { holds with }

theorem testGsv_consistent {α : Type} (platform : Platform)
    (update : Counting α → Slot → Counting α) (tzer : NmeaTokenizer) (c : Counting α) {t : Test}
    (holds : Consistent t) : Consistent (testGsv platform update tzer c t) := by
  have recorded := slots_consistent platform update
    (gsvSlots tzer (str2int (tzer.get 2)) (str2int (tzer.get 3)))
    (gsvFirst (str2int (tzer.get 2)) c) holds
  rw [testGsv]
  dsimp only
  split
  · exact testProc_consistent _ recorded
  · exact recorded

theorem testFields_consistent (platform : Platform) (r : NmeaReader) (tzer : NmeaTokenizer)
    {t : Test} (holds : Consistent t) : Consistent (testFields platform r tzer t) := by
  rw [testFields]
  split
  · exact testGsv_consistent platform _ tzer r.gnss holds
  · split
    · exact testGsv_consistent platform _ tzer r.gps holds
    · exact holds

theorem stop_consistent (stops : Bool) {t : Test} (holds : Consistent t) :
    Consistent (mtkGpsTestStop stops t) := by
  rw [mtkGpsTestStop]
  split
  · exact ⟨fun begun => absurd begun Bool.false_ne_true, fun other => absurd rfl other⟩
  · exact { holds with }

theorem compareCounters_consistent {t : Test} (holds : Consistent t) :
    Consistent (compareCounters t).1 := by
  rw [compareCounters]
  split
  · split
    · exact { holds with }
    · exact { holds with }
  · dsimp only
    split
    · exact { holds with }
    · exact { holds with }

theorem endTest_consistent (stops : Bool) {t : Test} (holds : Consistent t)
    (on : t.testFlag = true ∨ t.signalMode = true) : Consistent (endTest stops t) := by
  rw [endTest]
  dsimp only
  have done : Consistent { t with
      result := ((((t.result.set 0 t.errCode).set 3 t.successNum).set 4 t.completedNum).set 5
        t.avgCNo).set 6 t.devCNo
      waitNum := 0
      testState := .done
      errCode := 1 } := { holds with on := fun _ => on }
  split
  · exact { stop_consistent stops done with }
  · exact done

/-- A test is only ended while it is switched on. -/
theorem checkTest_consistent (now : Int) (endTag stops : Bool) {t : Test} (holds : Consistent t) :
    Consistent (checkTest now endTag stops t).1 := by
  have compared : Consistent { (compareCounters t).1 with
      prevSuccessNum := (compareCounters t).1.successNum } :=
    { compareCounters_consistent holds with }
  have same : (compareCounters t).1.testFlag = t.testFlag ∧
      (compareCounters t).1.signalMode = t.signalMode := by
    rw [compareCounters]
    split
    · split <;> exact ⟨rfl, rfl⟩
    · dsimp only
      split <;> exact ⟨rfl, rfl⟩
  rw [checkTest]
  split
  · rename_i going
    have on : t.testFlag = true ∨ t.signalMode = true :=
      (Bool.or_eq_true _ _ ▸ going).imp_right holds.begun
    split
    · split
      · dsimp only
        split
        · exact endTest_consistent stops compared (same.1 ▸ same.2 ▸ on)
        · exact compared
      · exact holds
    · exact holds
  · exact holds

theorem byte_consistent (platform : Platform) (tick : Tick) (s : State) (c : UInt8)
    (holds : Consistent s.test) : Consistent (nmeaReaderAddc platform tick s c).test := by
  have checked := checkTest_consistent tick.now tick.moment.gpsNmeaEndTag tick.stops holds
  rw [nmeaReaderAddc]
  split
  · exact holds
  · split
    · exact holds
    · dsimp only
      split
      · rw [nmeaReaderFinish, nmeaReaderParse]
        dsimp only
        split
        · exact checked
        · dsimp only
          split
          · exact checked
          · exact testFields_consistent platform s.reader _ checked
      · exact holds

theorem start_consistent (start : Start) (testNum prnNum timeDelay testMode : Int) {t : Test}
    (holds : Consistent t) :
    Consistent (mtkGpsTestStart start testNum prnNum timeDelay testMode t).1 := by
  have restarted : Consistent (restart start.stops t) := by
    rw [restart]
    split
    · exact stop_consistent start.stops holds
    · exact holds
  rw [mtkGpsTestStart]
  dsimp only
  generalize restart start.stops t = before at restarted
  split
  · exact { restarted with }
  · by_cases mode : testMode = 1
    · simp only [if_pos mode]
      split
      · exact ⟨fun _ => rfl, fun _ => .inr rfl⟩
      · split
        · exact ⟨fun _ => rfl, fun other => absurd rfl other⟩
        · exact ⟨fun _ => rfl, fun _ => .inr rfl⟩
    · simp only [if_neg mode]
      split
      · exact ⟨restarted.begun, fun _ => .inl rfl⟩
      · split
        · exact ⟨restarted.begun, fun other => absurd rfl other⟩
        · exact ⟨restarted.begun, fun _ => .inl rfl⟩

theorem consistent_kept : Kept Consistent where
  mode _ _ holds := { holds with }
  started _ start testNum prnNum timeDelay testMode holds :=
    start_consistent start testNum prnNum timeDelay testMode holds
  stopped _ stops holds := stop_consistent stops holds
  switched _ _ _ := ⟨fun _ => rfl, fun _ => .inr rfl⟩
  cleared _ holds := { holds with }
  began _ _ mode _ := ⟨fun _ => mode, fun _ => .inr mode⟩

theorem reached_consistent {platform : Platform} {ulongMax : Nat} {r : NmeaReader} {s : Session}
    (reached : Reaches (step platform ulongMax) (Session.loaded r) s) :
    Consistent s.state.test := by
  apply reached.invariant
  · exact ⟨fun begun => absurd begun Bool.false_ne_true, fun other => absurd rfl other⟩
  · intro s label s' holds stepped
    exact step_keeps consistent_kept holds
      (fun c tick _ => byte_consistent platform tick s.state c holds) stepped

/-- The answers that tell of a test. -/
def progressAnswers : List Ack := [literal "GNSS Test In Progress", literal "GPS Test In Progress"]

theorem mtkGpsTestInprogress_eq {t : Test} (told : mtkGpsTestInprogress t = .inProgress) :
    t.testState = .inProgress := by
  rw [mtkGpsTestInprogress] at told
  split at told
  · cases told
  · split at told
    · assumption
    · cases told

/-- The answers tell of no test unless one is in progress. -/
def Truthful (t : Test) (answers : List Ack) : Prop :=
  (∃ ack ∈ answers, ack ∈ progressAnswers) → t.testState = .inProgress

theorem truthful_of_not_mem {t : Test} {ack : Ack} (other : ack ∉ progressAnswers) :
    Truthful t [ack] := by
  rintro ⟨told, member, progress⟩
  exact absurd (List.mem_singleton.mp member ▸ progress) other

theorem truthful_of_told {t : Test} (told : mtkGpsTestInprogress t = .inProgress)
    (answers : List Ack) : Truthful t answers :=
  fun _ => mtkGpsTestInprogress_eq told

theorem not_progress_of_size {ack : Ack} (shorter : ack.size ≠ 21) (longer : ack.size ≠ 22) :
    ack ∉ progressAnswers := by
  intro member
  simp only [progressAnswers, List.mem_cons, List.not_mem_nil, or_false] at member
  rcases member with rfl | rfl
  · exact longer (by decide)
  · exact shorter (by decide)

theorem cnoAck_truthful (t : Test) (command : Bytes) (value : Int) :
    Truthful t [cnoAck command value] := by
  rw [cnoAck]
  split
  · exact truthful_of_not_mem (by decide)
  · exact truthful_of_not_mem (not_progress_of_size (by simp) (by simp))

theorem sendCno_truthful (command : Bytes) (t : Test) :
    Truthful t [atCommandSendCno command t] := by
  rw [atCommandSendCno]
  split
  · rename_i told
    exact truthful_of_told told _
  · split
    · exact cnoAck_truthful t command t.cn
    · exact cnoAck_truthful t command t.avgCNo

theorem sendTestResult_truthful (t : Test) : Truthful t [atCommandSendTestResult t] := by
  have result : Truthful t [resultAck t] :=
    truthful_of_not_mem (not_progress_of_size (by simp [resultAck, gpsAtAckSize])
      (by simp [resultAck, gpsAtAckSize]))
  simp only [atCommandSendTestResult]
  split
  · rename_i told
    exact truthful_of_told told _
  · split
    · exact result
    · split
      · exact result
      · split
        · exact result
        · exact truthful_of_not_mem (by decide)

theorem startNumbered_truthful {t : Test} (start : Start) {started failed : String} (testNum : Int)
    (t' : Test) (success : literal started ∉ progressAnswers)
    (failure : literal failed ∉ progressAnswers) :
    Truthful t (startNumbered start started failed testNum t').2 := by
  rw [startNumbered]
  split
  · dsimp only
    split
    · exact truthful_of_not_mem success
    · exact truthful_of_not_mem failure
  · exact truthful_of_not_mem (by decide)

theorem atGpsCommandParser_truthful (ulongMax : Nat) (start : Start) (command : Bytes) (t : Test) :
    Truthful t (atGpsCommandParser ulongMax start command t).2 := by
  have none : Truthful t [] := fun told => by simp at told
  simp only [atGpsCommandParser]
  split
  · split
    · exact sendCno_truthful command { t with testModeFlag := false }
    · split
      · exact none
      · split
        · exact none
        · exact startNumbered_truthful start _ _ (by decide) (by decide)
  · split
    · split
      · rename_i told
        exact truthful_of_told (t := { t with testModeFlag := false }) told _
      · split
        · exact truthful_of_not_mem (not_progress_of_size (by simp [gpsAtAckSize])
            (by simp [gpsAtAckSize]))
        · exact truthful_of_not_mem (by decide)
    · split
      · exact sendCno_truthful command { t with testModeFlag := false }
      · exact truthful_of_not_mem (by decide)

theorem numberedGnssTest_truthful {t : Test} (start : Start) (testNum : Int) (t' : Test) :
    Truthful t (numberedGnssTest start testNum t').2 := by
  simp only [numberedGnssTest]
  split
  · split
    · exact truthful_of_not_mem (by decide)
    · exact truthful_of_not_mem (by decide)
  · exact startNumbered_truthful start _ _ (by decide) (by decide)

theorem atGnssCommandParser_truthful (ulongMax : Nat) (start : Start) (command : Bytes)
    (t : Test) : Truthful t (atGnssCommandParser ulongMax start command t).2 := by
  simp only [atGnssCommandParser]
  split
  · split
    · exact sendTestResult_truthful { t with testModeFlag := false }
    · split
      · dsimp only
        split
        · exact truthful_of_not_mem (by decide)
        · exact truthful_of_not_mem (by decide)
      · split
        · rw [endGnssTest]
          split
          · exact truthful_of_not_mem
              (by decide : literal "GNSS Test is Not In Progress" ∉ progressAnswers)
          · dsimp only
            split
            · exact truthful_of_not_mem (by decide)
            · exact truthful_of_not_mem (by decide)
        · exact numberedGnssTest_truthful start _ _
  · split
    · exact sendTestResult_truthful { t with testModeFlag := false }
    · split
      · exact sendCno_truthful command { t with testModeFlag := false }
      · exact truthful_of_not_mem (by decide)

theorem atCommandParser_truthful (ulongMax : Nat) (start : Start) (command : Bytes) (t : Test) :
    Truthful t (atCommandParser ulongMax start command t).2 := by
  rw [atCommandParser]
  split
  · exact atGpsCommandParser_truthful ulongMax start command t
  · split
    · exact atGnssCommandParser_truthful ulongMax start command t
    · exact truthful_of_not_mem (by decide)

/-- A test for three values has been started. -/
def startThree : List Label := [.command (bytes "AT%GNSS=3") ⟨0, true, true, true⟩]

end X5MaxDevice.Gps.AtProgress
