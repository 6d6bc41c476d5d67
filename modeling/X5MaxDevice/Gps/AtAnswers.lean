import Mathlib.Algebra.Order.BigOperators.Group.List
import X5MaxDevice.Gps.AtCommands

/-! The buffers of the answers to AT commands, over runs in which every signal has at most two
digits. -/

namespace X5MaxDevice.Gps.AtAnswers

open X5MaxDevice.Gps.AtCommands
open X5MaxDevice.Gps.AtTest
open X5MaxDevice.Gps.Reader hiding nmeaReaderParse nmeaReaderFinish nmeaReaderAddc
open X5MaxDevice.Gps.Tokenizer
open X5MaxDevice.Transitions

def Within (bound x : Int) : Prop := 0 ≤ x ∧ x ≤ bound

instance (bound x : Int) : Decidable (Within bound x) := inferInstanceAs (Decidable (_ ∧ _))

/-- The results as the test writes them: an error code, two counters, a mean and a deviation. -/
structure ResultSound (result : List Int) : Prop where
  shape : ∃ error successes completed average deviation : Int,
    result = [error, 0, 0, successes, completed, average, deviation, 0] ∧ Within 32 error ∧
      0 ≤ successes ∧ 0 ≤ completed ∧ Within 990 average ∧ Within 990 deviation

/-- Signals are below 100 and are kept in tenths, so that no value has more than three digits. -/
structure Sound (t : Test) : Prop where
  cn : Within 990 t.cn
  snr : ∀ i, Within 99 (t.snr i)
  devCNr : ∀ i, Within 990 (t.devCNr i)
  average : Within 990 t.avgCNo
  deviation : Within 990 t.devCNo
  total : Within (990 * t.successNum) t.cNo
  successes : 0 ≤ t.successNum
  failures : 0 ≤ t.failureNum
  completed : 0 ≤ t.completedNum
  signal : Within 1 t.sigSucNum
  error : Within 32 t.errCode
  result : ResultSound t.result

/-- The satellites of a GSV sentence have signals of at most two digits. -/
def SignalsInRange (platform : Platform) (sentence : Bytes) : Prop :=
  let tzer := nmeaTokenizerInit sentence
  let kind := sentenceKind platform.gpsMode (tzer.get 0)
  kind = .gsvGnss ∨ kind = .gsvGps →
    ∀ slot ∈ gsvSlots tzer (str2int (tzer.get 2)) (str2int (tzer.get 3)),
      Within 99 (truncate (str2float platform.strtod slot.snr))

instance (platform : Platform) (sentence : Bytes) : Decidable (SignalsInRange platform sentence) :=
  inferInstanceAs (Decidable (_ → _))

/-- Sentences have signals in range, and the counters of a result that may be asked for have at
most four digits. -/
def Admitted (platform : Platform) (s : Session) : Label → Prop
  | .byte c _ => c = newline → SignalsInRange platform (s.state.reader.input ++ [c])
  | .command _ _ => s.state.test.result.getD 3 0 < 10000 ∧ s.state.test.result.getD 4 0 < 10000
  | .start .. => True
  | .stop _ => True

instance (platform : Platform) (s : Session) : (label : Label) →
    Decidable (Admitted platform s label)
  | .byte _ _ => inferInstanceAs (Decidable (_ → _))
  | .command _ _ => inferInstanceAs (Decidable (_ ∧ _))
  | .start .. => isTrue trivial
  | .stop _ => isTrue trivial

theorem mean_within {bound total count : Int} (some : 0 < count)
    (sum : Within (bound * count) total) : Within bound (total.tdiv count) := by
  rw [Int.tdiv_eq_ediv_of_nonneg sum.1]
  exact ⟨Int.ediv_nonneg sum.1 some.le, Int.ediv_le_of_le_mul some sum.2⟩

theorem square_within {x y : Int} (left : Within 990 x) (right : Within 990 y) :
    Within (990 * 990) ((x - y) * (x - y)) := by
  refine ⟨mul_self_nonneg _, ?_⟩
  have lower : -990 ≤ x - y := by
    have := left.1
    have := right.2
    omega
  have upper : x - y ≤ 990 := by
    have := left.2
    have := right.1
    omega
  nlinarith

/-- The root of a mean of squares of three-digit differences has three digits. -/
theorem deviation_within {t : Test} (values : ∀ i, Within 990 (t.devCNr i))
    (average : Within 990 t.avgCNo) (successes : 0 ≤ t.successNum) : Within 990 t.deviation := by
  let squares := (List.range t.successNum.toNat).map (fun j : Nat =>
    (t.devCNr j - t.avgCNo) * (t.devCNr j - t.avgCNo))
  have each : ∀ x ∈ squares, Within (990 * 990) x := by
    intro x member
    rcases List.mem_map.mp member with ⟨j, -, rfl⟩
    exact square_within (values j) average
  have count : (squares.length : Int) = t.successNum := by
    simp only [squares, List.length_map, List.length_range]
    omega
  have sum : squares.sum ≤ 990 * 990 * t.successNum := by
    have bound := List.sum_le_card_nsmul squares (990 * 990) (fun x member => (each x member).2)
    rw [nsmul_eq_mul, count] at bound
    omega
  have mean : squares.sum.tdiv t.successNum ≤ 990 * 990 := by
    rcases successes.eq_or_lt with none | some
    · rw [← none, Int.tdiv_zero]
      decide
    · exact (mean_within some ⟨List.sum_nonneg fun x member => (each x member).1, sum⟩).2
  have root : Nat.sqrt (squares.sum.tdiv t.successNum).toNat ≤ 990 := by
    calc
      Nat.sqrt (squares.sum.tdiv t.successNum).toNat ≤ Nat.sqrt (990 * 990) :=
        Nat.sqrt_le_sqrt (by omega)
      _ = 990 := Nat.sqrt_eq 990
  exact ⟨Int.natCast_nonneg _, Int.ofNat_le.mpr root⟩

theorem signal_sound {t : Test} (sound : Sound t) : Sound t.signal := by
  rw [Test.signal]
  split
  · split
    · exact { sound with signal := (by decide : Within 1 1) }
    · exact { sound with }
  · exact sound

theorem succeed_sound {t : Test} (sound : Sound t) {cNr : Int} (value : Within 990 cNr) :
    Sound (t.succeed cNr) := by
  rw [Test.succeed]
  split
  · have total : Within (990 * (t.successNum + 1)) (t.cNo + cNr) := by
      have before := sound.total
      have := before.1
      have := before.2
      have := value.1
      have := value.2
      constructor <;> omega
    have some : 0 < t.successNum + 1 := by
      have := sound.successes
      omega
    have stored (i : Int) : Within 990 (Function.update t.devCNr t.successNum cNr i) := by
      by_cases here : i = t.successNum
      · rw [here, Function.update_self]
        exact value
      · rw [Function.update_of_ne here]
        exact sound.devCNr i
    exact { sound with
      devCNr := stored
      average := mean_within some total
      total := total
      successes := some.le
      error := (by decide : Within 32 0) }
  · exact sound

theorem search_sound (svCount : Int) {t : Test} (sound : Sound t) :
    Sound (gpsAtCommandSearchSatellite svCount t) := by
  have deviated {t : Test} (sound : Sound t) :
      Sound (if t.successNum ≠ 0 then { t with devCNo := t.deviation } else t) := by
    split
    · exact { sound with
        deviation := deviation_within sound.devCNr sound.average sound.successes }
    · exact sound
  rw [gpsAtCommandSearchSatellite]
  split
  · exact sound
  · rename_i i _
    apply deviated
    split
    · have tenths : Within 990 (t.snr i * 10) := by
        have range := sound.snr i
        have := range.1
        have := range.2
        constructor <;> omega
      exact { succeed_sound (signal_sound sound) tenths with cn := tenths }
    · exact { sound with signal := (by decide : Within 1 0) }

theorem testProc_sound (svCount : Int) {t : Test} (sound : Sound t) :
    Sound (gpsAtCommandTestProc svCount t) := by
  rw [gpsAtCommandTestProc]
  split
  · exact sound
  · split
    · split
      · have searched := search_sound svCount sound
        rcases searched.result.shape with ⟨error, successes, completed, average, deviation, same, -⟩
        refine { searched with result := ⟨0, _, 1, _, 0, ?_, by decide, searched.signal.1,
          by decide, searched.cn, by decide⟩ }
        dsimp only
        rw [same]
        rfl
      · exact sound
    · exact search_sound svCount sound

variable {α : Type}

theorem slots_sound (platform : Platform) (update : Counting α → Slot → Counting α)
    (slots : List Slot)
    (range : ∀ slot ∈ slots, Within 99 (truncate (str2float platform.strtod slot.snr)))
    (c : Counting α) {t : Test} (sound : Sound t) :
    Sound (slots.foldl (recordSlot platform update) (c, t)).2 := by
  induction slots generalizing c t with
  | nil => exact sound
  | cons slot slots ih =>
      rw [List.foldl_cons]
      apply ih (fun other member => range other (List.mem_cons_of_mem slot member))
      refine { sound with snr := fun i => ?_ }
      dsimp only
      by_cases here : i = c.svCount
      · rw [here, Function.update_self]
        exact range slot List.mem_cons_self
      · rw [Function.update_of_ne here]
        exact sound.snr i

theorem testGsv_sound (platform : Platform) (update : Counting α → Slot → Counting α)
    (tzer : NmeaTokenizer)
    (range : ∀ slot ∈ gsvSlots tzer (str2int (tzer.get 2)) (str2int (tzer.get 3)),
      Within 99 (truncate (str2float platform.strtod slot.snr)))
    (c : Counting α) {t : Test} (sound : Sound t) : Sound (testGsv platform update tzer c t) := by
  have recorded := slots_sound platform update _ range (gsvFirst (str2int (tzer.get 2)) c) sound
  rw [testGsv]
  dsimp only
  split
  · exact testProc_sound _ recorded
  · exact recorded

theorem testFields_sound (platform : Platform) (r : NmeaReader) {sentence : Bytes}
    (range : SignalsInRange platform sentence) {t : Test} (sound : Sound t) :
    Sound (testFields platform r (nmeaTokenizerInit sentence) t) := by
  rw [testFields]
  split
  · rename_i kind
    exact testGsv_sound platform _ _ (range (.inl kind)) r.gnss sound
  · split
    · rename_i kind
      exact testGsv_sound platform _ _ (range (.inr kind)) r.gps sound
    · exact sound

theorem stop_sound (stops : Bool) {t : Test} (sound : Sound t) :
    Sound (mtkGpsTestStop stops t) := by
  rw [mtkGpsTestStop]
  split
  · exact { sound with
      deviation := (by decide : Within 990 0)
      total := (by decide : Within (990 * 0) 0)
      successes := le_rfl
      completed := le_rfl
      error := (by decide : Within 32 1) }
  · exact { sound with }

theorem compareCounters_sound {t : Test} (sound : Sound t) : Sound (compareCounters t).1 := by
  have sum : 0 ≤ t.successNum + t.failureNum := add_nonneg sound.successes sound.failures
  have more : 0 ≤ t.failureNum + 1 := by
    have := sound.failures
    omega
  rw [compareCounters]
  split
  · split
    · exact { sound with
        failures := more
        completed := add_nonneg sound.successes more }
    · exact { sound with completed := sum }
  · dsimp only
    split
    · exact { sound with
        completed := (by decide : (0 : Int) ≤ 1)
        error := (by decide : Within 32 32) }
    · exact { sound with }

theorem endTest_sound (stops : Bool) {t : Test} (sound : Sound t) : Sound (endTest stops t) := by
  have written : ResultSound (((((t.result.set 0 t.errCode).set 3 t.successNum).set 4
      t.completedNum).set 5 t.avgCNo).set 6 t.devCNo) := by
    rcases sound.result.shape with ⟨error, successes, completed, average, deviation, same, -⟩
    rw [same]
    exact ⟨_, _, _, _, _, rfl, sound.error, sound.successes, sound.completed, sound.average,
      sound.deviation⟩
  rw [endTest]
  dsimp only
  have done : Sound { t with
      result := ((((t.result.set 0 t.errCode).set 3 t.successNum).set 4 t.completedNum).set 5
        t.avgCNo).set 6 t.devCNo
      waitNum := 0
      testState := .done
      errCode := 1 } :=
    { sound with error := (by decide : Within 32 1), result := written }
  split
  · exact { stop_sound stops done with failures := le_rfl }
  · exact done

theorem checkTest_sound (now : Int) (endTag stops : Bool) {t : Test} (sound : Sound t) :
    Sound (checkTest now endTag stops t).1 := by
  have compared : Sound { (compareCounters t).1 with
      prevSuccessNum := (compareCounters t).1.successNum } :=
    { compareCounters_sound sound with }
  rw [checkTest]
  split
  · split
    · split
      · dsimp only
        split
        · exact endTest_sound stops compared
        · exact compared
      · exact sound
    · exact sound
  · exact sound

theorem byte_sound {platform : Platform} {tick : Tick} {s : State} {c : UInt8}
    (range : c = newline → SignalsInRange platform (s.reader.input ++ [c]))
    (sound : Sound s.test) : Sound (nmeaReaderAddc platform tick s c).test := by
  have checked := checkTest_sound tick.now tick.moment.gpsNmeaEndTag tick.stops sound
  rw [nmeaReaderAddc]
  split
  · exact sound
  · split
    · exact sound
    · dsimp only
      split
      · rename_i ends
        rw [nmeaReaderFinish, nmeaReaderParse]
        dsimp only
        split
        · exact checked
        · dsimp only
          split
          · exact checked
          · exact testFields_sound platform s.reader (range ends) checked
      · exact sound

theorem start_sound (start : Start) (testNum prnNum timeDelay testMode : Int) {t : Test}
    (sound : Sound t) : Sound (mtkGpsTestStart start testNum prnNum timeDelay testMode t).1 := by
  have restarted : Sound (restart start.stops t) := by
    rw [restart]
    split
    · exact stop_sound start.stops sound
    · exact sound
  have mode (t : Test) (sound : Sound t) : Sound
      (if testMode = 1 then { t with signalMode := true } else { t with testFlag := true }) := by
    split
    · exact { sound with }
    · exact { sound with }
  rw [mtkGpsTestStart]
  dsimp only
  have begun : Sound { restart start.stops t with
      halTestData := ⟨testNum, prnNum, timeDelay⟩
      startTime := start.now
      avgCNo := 0
      devCNr := fun _ => 0
      allocated := testNum } :=
    { restarted with
      devCNr := fun _ => (by decide : Within 990 0)
      average := (by decide : Within 990 0) }
  split
  · exact begun
  · split
    · exact mode _ begun
    · split
      · exact { mode _ begun with }
      · exact { mode _ begun with }

theorem sound_kept : Kept Sound where
  mode _ _ sound := { sound with }
  started _ start testNum prnNum timeDelay testMode sound :=
    start_sound start testNum prnNum timeDelay testMode sound
  stopped _ stops sound := stop_sound stops sound
  switched _ _ sound := { sound with }
  cleared _ sound :=
    { sound with
      cn := (by decide : Within 990 0)
      average := (by decide : Within 990 0)
      deviation := (by decide : Within 990 0)
      total := (by decide : Within (990 * 0) 0)
      successes := le_rfl
      completed := le_rfl
      result := ⟨1, 0, 0, 0, 0, rfl, by decide, by decide, by decide, by decide, by decide⟩ }
  began _ _ _ sound := { sound with }

theorem loaded_sound : Sound Test.loaded where
  cn := by decide
  snr _ := (by decide : Within 99 0)
  devCNr _ := (by decide : Within 990 0)
  average := by decide
  deviation := by decide
  total := by decide
  successes := by decide
  failures := by decide
  completed := by decide
  signal := by decide
  error := by decide
  result := ⟨1, 0, 0, 0, 0, rfl, by decide, by decide, by decide, by decide, by decide⟩

theorem decimal_length {n : Int} {k : Nat} (natural : 0 ≤ n) (some : 0 < k) (small : n < 10 ^ k) :
    (decimal n).length ≤ k := by
  have digits : (Nat.toDigits 10 n.natAbs).length ≤ k := by
    rw [Nat.length_toDigits_le_iff (by decide) some]
    zify
    rwa [abs_of_nonneg natural]
  simpa [decimal, not_lt.mpr natural] using digits

theorem literal_fits (text : String) : (literal text).Fits := Nat.lt_succ_self _

theorem cnoAck_fits (command : Bytes) {value : Int} (range : Within 990 value) :
    (cnoAck command value).Fits := by
  rw [cnoAck]
  split
  · exact literal_fits _
  · have tens : 0 ≤ value.tdiv 10 ∧ value.tdiv 10 < 10 ^ 2 := by
      rw [Int.tdiv_eq_ediv_of_nonneg range.1]
      have := range.1
      have := range.2
      omega
    have digits := decimal_length tens.1 (by decide) tens.2
    have suffix : (if gnssOp.isPrefixOf command then bytes ", NA" else []).length ≤ 4 := by
      split <;> decide
    calc
      _ = (decimal (value.tdiv 10)).length +
          (if gnssOp.isPrefixOf command then bytes ", NA" else []).length := List.length_append
      _ ≤ 2 + 4 := Nat.add_le_add digits suffix
      _ < 10 := by decide

/-- Eight values of which the counters have four digits at most. -/
theorem resultValues_length {t : Test} (sound : ResultSound t.result)
    (successes : t.result.getD 3 0 < 10000) (completed : t.result.getD 4 0 < 10000) :
    (resultValues t).length ≤ 33 := by
  rcases sound.shape with
    ⟨error, counted, finished, average, deviation, same, e, s, c, a, d⟩
  have zero : (decimal 0).length = 1 := by decide
  rw [same] at successes completed
  have eLength := decimal_length e.1 (k := 2) (by decide) (lt_of_le_of_lt e.2 (by decide))
  have sLength := decimal_length s (k := 4) (by decide) (by simpa using successes)
  have cLength := decimal_length c (k := 4) (by decide) (by simpa using completed)
  have aLength := decimal_length a.1 (k := 3) (by decide) (lt_of_le_of_lt a.2 (by decide))
  have dLength := decimal_length d.1 (k := 3) (by decide) (lt_of_le_of_lt d.2 (by decide))
  have separator : (bytes ", ").length = 2 := by decide
  have whole : (resultValues t).length = (decimal error).length + (decimal counted).length +
      (decimal finished).length + (decimal average).length + (decimal deviation).length + 17 := by
    rw [resultValues, same]
    simp only [List.range, List.range.loop, List.map_cons, List.map_nil, List.intercalate,
      List.intersperse, List.flatten_cons, List.flatten_nil, List.length_append, List.length_nil,
      List.getD_cons_zero, List.getD_cons_succ, separator, zero]
    omega
  omega

theorem answers_fit_of_sound {t : Test} (sound : Sound t) (successes : t.result.getD 3 0 < 10000)
    (completed : t.result.getD 4 0 < 10000) {acks : List Ack} (answers : Answers t acks) :
    ∀ ack ∈ acks, ack.Fits := by
  have values := resultValues_length sound.result successes completed
  intro ack member
  cases answers with
  | none => cases member
  | fixed text =>
      obtain rfl := List.mem_singleton.mp member
      exact literal_fits text
  | cno command value shown =>
      obtain rfl := List.mem_singleton.mp member
      rcases shown with rfl | rfl
      · exact cnoAck_fits command sound.cn
      · exact cnoAck_fits command sound.average
  | result =>
      obtain rfl := List.mem_singleton.mp member
      have tail : (bytes "][0, 0, 0, 0, 0, 0, 0, 0]").length = 25 := by decide
      simp only [Ack.Fits, resultAck, List.length_cons, List.length_append, tail, gpsAtAckSize]
      omega
  | brackets =>
      obtain rfl := List.mem_singleton.mp member
      simp only [Ack.Fits, List.length_cons, List.length_append, List.length_nil, gpsAtAckSize]
      omega

/-- Sound values, and answers that fitted. -/
structure Safe (s : Session) : Prop where
  sound : Sound s.state.test
  fit : ∀ ack ∈ s.acks, ack.Fits

theorem step_safe {platform : Platform} {ulongMax : Nat} {s s' : Session} {label : Label}
    (safe : Safe s) (admitted : Admitted platform s label)
    (stepped : step platform ulongMax s label = some s') : Safe s' := by
  have sound : Sound s'.state.test := by
    apply step_keeps sound_kept safe.sound _ stepped
    intro c tick same
    subst same
    exact byte_sound admitted safe.sound
  refine ⟨sound, ?_⟩
  cases label with
  | byte c tick =>
      obtain rfl := Option.some.inj stepped
      exact safe.fit
  | command datagram start =>
      rcases Option.map_eq_some_iff.mp stepped with ⟨command, -, rfl⟩
      intro ack member
      rcases List.mem_append.mp member with earlier | new
      · exact safe.fit ack earlier
      · exact answers_fit_of_sound safe.sound admitted.1 admitted.2
          (atCommandParser_answers ulongMax start command s.state.test) ack new
  | start testNum prnNum timeDelay testMode start =>
      obtain rfl := Option.some.inj stepped
      exact safe.fit
  | stop stops =>
      obtain rfl := Option.some.inj stepped
      exact safe.fit

/-- Everything that a start needs succeeds. -/
def readyAt (now : Int) : Start := ⟨now, true, true, true⟩

/-- A signal test of satellite 1, which is then received. -/
def signalTest : List Label :=
  [.command (bytes "AT%GNSS=S") (readyAt 0), .command (bytes "AT%GNSS=1") (readyAt 1)] ++
    (chunk epochMoment (bytes "$GPGSV,1,1,01,01,10,100,40*4A\n")).map
      (fun next => .byte next.1 ⟨next.2, 9, true⟩) ++
    [.command (bytes "AT%GNSS?") (readyAt 10)]

end X5MaxDevice.Gps.AtAnswers
