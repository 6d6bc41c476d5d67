import X5MaxDevice.Gps.FixFreshness

/-! When a location is reported: the reader's fix mode and flags, told from the sentences that
came before. -/

namespace X5MaxDevice.Gps.FixGating

open X5MaxDevice.Gps.Delivery
open X5MaxDevice.Gps.FixFreshness
open X5MaxDevice.Gps.Reader
open X5MaxDevice.Gps.Tokenizer

/-- A sentence that is long enough to be parsed at all. -/
def Parsed (sentence : Bytes) : Prop :=
  9 ≤ sentence.length ∧ 5 ≤ ((nmeaTokenizerInit sentence).get 0).length

instance (sentence : Bytes) : Decidable (Parsed sentence) := inferInstanceAs (Decidable (_ ∧ _))

/-- The fix mode of a sentence, if it is a GSA sentence that the mode of the platform reads. -/
def gsaMode (platform : Platform) (sentence : Bytes) : Option Int :=
  let tzer := nmeaTokenizerInit sentence
  if Parsed sentence then
    match sentenceKind platform.gpsMode (tzer.get 0) with
    | .gsaGnss | .gsaGps => some (str2int (tzer.get 2))
    | _ => none
  else none

/-- The byte completes a line that the reader has kept. -/
def Completes (r : NmeaReader) (c : UInt8) : Prop :=
  r.overflow = false ∧ r.input.length < nmeaMaxSize ∧ c = newline

instance (r : NmeaReader) (c : UInt8) : Decidable (Completes r c) :=
  inferInstanceAs (Decidable (_ ∧ _ ∧ _))

/-- A run with the mode of the last GSA sentence since the start or the last restart. -/
structure Gated where
  tracked : Tracked
  mode : Option Int

def start (svUsedInFix : Int → Int) : Gated := ⟨FixFreshness.start svUsedInFix, none⟩

/-- The mode after a byte. -/
def modeAfter (platform : Platform) (g : Gated) (c : UInt8) : Option Int :=
  if Completes g.tracked.reader c then
    (gsaMode platform (g.tracked.reader.input ++ [c])).or g.mode
  else g.mode

def advance (platform : Platform) (g : Gated) (label : Label) : Gated where
  tracked := FixFreshness.advance platform g.tracked label
  mode :=
    match label with
    | .byte c _ => modeAfter platform g c
    | .setCallback _ => g.mode
    | .restart => none

/-- The byte ends a read with a sentence, the last GSA sentence has told of a fix, and a value
has been decoded since the report before. -/
def Due (platform : Platform) (g : Gated) (c : UInt8) (moment : Moment) : Prop :=
  Completes g.tracked.reader c ∧ Parsed (g.tracked.reader.input ++ [c]) ∧
    moment.gpsNmeaEndTag = true ∧
    (modeAfter platform g c = some 2 ∨ modeAfter platform g c = some 3) ∧
    g.tracked.since ++ completedUpdates platform g.tracked.reader c ≠ []

section Mode

variable {platform : Platform} {moment : Moment} {r : NmeaReader} {sentence : Bytes}

theorem parseFields_fixMode (tzer : NmeaTokenizer) :
    (parseFields platform moment r tzer).fixMode =
      match sentenceKind platform.gpsMode (tzer.get 0) with
      | .gsaGnss | .gsaGps => str2int (tzer.get 2)
      | _ => r.fixMode := by
  have keeps {r' : NmeaReader} (only : FixOnly r r') : r'.fixMode = r.fixMode := by
    rcases only with ⟨utc, fix, rfl⟩
    rfl
  unfold parseFields
  dsimp only
  cases sentenceKind platform.gpsMode (tzer.get 0) with
  | gga => exact keeps (parseGga_fixOnly platform moment r tzer)
  | rmc => exact keeps (parseRmc_fixOnly platform moment r tzer)
  | accuracy =>
      dsimp only
      split
      · exact keeps (updateField_fixOnly platform r _ _ _)
      · rfl
  | gsaGnss =>
      dsimp only [parseGsaGnss]
      split <;> rfl
  | gsaGps =>
      dsimp only [parseGsaGps]
      split <;> rfl
  | gsvGnss | gsvGps | unknown => rfl

theorem reportLocation_fixMode (moment : Moment) (r : NmeaReader) :
    (reportLocation moment r).fixMode = r.fixMode := by
  obtain ⟨fix, events, same, -⟩ := reportLocation_cases moment r
  rw [same]

theorem reportSvStatus_fixMode (platform : Platform) (moment : Moment) (r : NmeaReader) :
    (reportSvStatus platform moment r).fixMode = r.fixMode := by
  rw [reportSvStatus]
  split
  · rw [reportGnss]
    split <;> rfl
  · rw [reportGps]
    split
    · split <;> rfl
    · rfl

/-- A parsed GSA sentence sets the fix mode, and nothing else does. -/
theorem nmeaReaderParse_fixMode :
    (nmeaReaderParse platform moment r sentence).fixMode =
      (gsaMode platform sentence).getD r.fixMode := by
  rw [nmeaReaderParse, gsaMode]
  by_cases long : sentence.length < 9
  · have skipped : ¬Parsed sentence := fun parsed => by
      have enough := parsed.1
      omega
    simp [long, skipped, NmeaReader.record]
  · by_cases named : ((nmeaTokenizerInit sentence).get 0).length < 5
    · have skipped : ¬Parsed sentence := fun parsed => by
        have enough := parsed.2
        omega
      simp [long, named, skipped, NmeaReader.record]
    · have parsed : Parsed sentence := ⟨by omega, by omega⟩
      simp only [if_neg long, if_neg named, if_pos parsed, reportSvStatus_fixMode,
        reportLocation_fixMode, parseFields_fixMode]
      cases sentenceKind platform.gpsMode ((nmeaTokenizerInit sentence).get 0) <;> rfl

theorem nmeaReaderAddc_fixMode (c : UInt8) :
    (nmeaReaderAddc platform moment r c).fixMode =
      if Completes r c then (gsaMode platform (r.input ++ [c])).getD r.fixMode else r.fixMode := by
  rcases nmeaReaderAddc_cases platform moment r c with
    ⟨collects, room, ends, finished⟩ | ⟨incomplete, overflow, input, moved⟩
  · have completes : Completes r c := ⟨collects, room, ends⟩
    rw [finished, if_pos completes, nmeaReaderFinish]
    exact nmeaReaderParse_fixMode
  · have silent : ¬Completes r c := incomplete
    rw [moved, if_neg silent]

end Mode

section Reports

variable {platform : Platform} {moment : Moment} {r : NmeaReader} {sentence : Bytes}

/-- The reader has a fix, with a flag, at the end of a read. -/
def Open (moment : Moment) (r : NmeaReader) : Prop :=
  r.locFixed = true ∧ r.fix.flags ≠ 0 ∧ moment.gpsNmeaEndTag = true

theorem reportLocation_payloads (moment : Moment) (r : NmeaReader) :
    locationPayloads (reportLocation moment r).log ≠ locationPayloads r.log ↔ Open moment r := by
  rw [reportLocation, Open]
  cases fixed : r.locFixed with
  | false => simp
  | true =>
      by_cases reports : r.fix.flags ≠ 0 ∧ moment.gpsNmeaEndTag = true
      · refine iff_of_true ?_ ⟨rfl, reports⟩
        rw [if_neg (by simp), if_pos reports]
        cases moment.mnlProp <;> simp [NmeaReader.record, locationPayloads, locationPayload]
      · rw [if_neg (by simp), if_neg reports]
        simpa using reports

theorem payloads_record_parse (r : NmeaReader) (sentence : Bytes) :
    locationPayloads (r.record (.parse sentence)).log = locationPayloads r.log := by
  simp [NmeaReader.record, locationPayloads, locationPayload]

/-- What a sentence makes of the fields of the reader. -/
def fieldsOf (platform : Platform) (moment : Moment) (r : NmeaReader) (sentence : Bytes) :
    NmeaReader :=
  parseFields platform moment (r.record (.parse sentence)) (nmeaTokenizerInit sentence)

theorem nmeaReaderParse_payloads (platform : Platform) (moment : Moment) (r : NmeaReader)
    (sentence : Bytes) :
    locationPayloads (nmeaReaderParse platform moment r sentence).log ≠ locationPayloads r.log ↔
      Parsed sentence ∧ Open moment (fieldsOf platform moment r sentence) := by
  rw [nmeaReaderParse]
  by_cases long : sentence.length < 9
  · have skipped : ¬Parsed sentence := fun parsed => by
      have enough := parsed.1
      omega
    simp [long, skipped, payloads_record_parse]
  · by_cases named : ((nmeaTokenizerInit sentence).get 0).length < 5
    · have skipped : ¬Parsed sentence := fun parsed => by
        have enough := parsed.2
        omega
      simp [long, named, skipped, payloads_record_parse]
    · have parsed : Parsed sentence := ⟨by omega, by omega⟩
      obtain ⟨-, events, log, others⟩ := reportSvStatus_extends platform moment
        (reportLocation moment (fieldsOf platform moment r sentence))
      have same : locationPayloads (reportSvStatus platform moment
          (reportLocation moment (fieldsOf platform moment r sentence))).log =
            locationPayloads (reportLocation moment (fieldsOf platform moment r sentence)).log := by
        rw [locationPayloads, locationPayloads] at *
        rw [log, List.filterMap_append, others, List.append_nil]
      have before : locationPayloads (fieldsOf platform moment r sentence).log =
          locationPayloads r.log := by
        rw [fieldsOf, parseFields_log, payloads_record_parse]
      have reports := reportLocation_payloads moment (fieldsOf platform moment r sentence)
      simp only [if_neg long, if_neg named]
      rw [before] at reports
      rw [fieldsOf] at same reports
      rw [same, reports, fieldsOf]
      simp [parsed]

theorem nmeaReaderAddc_payloads (platform : Platform) (moment : Moment) (r : NmeaReader)
    (c : UInt8) :
    locationPayloads (nmeaReaderAddc platform moment r c).log ≠ locationPayloads r.log ↔
      Completes r c ∧ Parsed (r.input ++ [c]) ∧
        Open moment (fieldsOf platform moment { r with input := r.input ++ [c] } (r.input ++ [c])) := by
  rcases nmeaReaderAddc_cases platform moment r c with
    ⟨collects, room, ends, finished⟩ | ⟨incomplete, overflow, input, moved⟩
  · have completes : Completes r c := ⟨collects, room, ends⟩
    have parsed := nmeaReaderParse_payloads platform moment { r with input := r.input ++ [c] }
      (r.input ++ [c])
    have finishes (r : NmeaReader) (sentence : Bytes) (timestamp : Int) :
        locationPayloads (r.record (.nmeaCb timestamp sentence)).log = locationPayloads r.log := by
      simp [NmeaReader.record, locationPayloads, locationPayload]
    rw [finished, nmeaReaderFinish]
    dsimp only
    rw [finishes, parsed]
    simp [completes]
  · have silent : ¬Completes r c := incomplete
    rw [moved]
    simp [silent]

end Reports

section Flags

theorem flag_ne_zero (field : Field) : field.flag ≠ 0#16 := by
  cases field <;> decide

/-- From a fix without flags, a flag comes with the first value and only so. -/
theorem follows_flags_ne_zero {base fix : GpsLocation} {updates : List Update}
    (unflagged : base.flags = 0) (follows : Follows base fix updates) :
    fix.flags ≠ 0 ↔ updates ≠ [] := by
  have fresh := follows.fresh unflagged
  constructor
  · rintro flagged rfl
    obtain ⟨timestamp, rfl⟩ := follows
    exact flagged unflagged
  · intro some_value cleared
    obtain ⟨front, update, rfl⟩ := List.eq_nil_or_concat updates |>.resolve_left some_value
    have last : latestOf update.field (front ++ [update]) = some update := by
      rw [latestOf_snoc, if_pos rfl]
    have flagged := (fresh update.field).1.mpr (by simp [List.concat_eq_append, last])
    rw [Flagged, cleared] at flagged
    exact flag_ne_zero update.field (by simpa using flagged.symm)

end Flags

section Runs

variable {platform : Platform} {g : Gated}

/-- The fix mode is that of the last GSA sentence, or 0. -/
structure Invariant (g : Gated) : Prop where
  tracked : FixFreshness.Invariant g.tracked
  mode : g.tracked.reader.fixMode = g.mode.getD 0

theorem start_invariant (svUsedInFix : Int → Int) : Invariant (start svUsedInFix) :=
  ⟨FixFreshness.start_invariant svUsedInFix, rfl⟩

theorem advance_byte_reader (t : Tracked) (c : UInt8) (moment : Moment) :
    (FixFreshness.advance platform t (.byte c moment)).reader =
      nmeaReaderAddc platform moment t.reader c := by
  rw [FixFreshness.advance]
  split <;> rfl

theorem advance_invariant (holds : Invariant g) (label : Label) :
    Invariant (advance platform g label) where
  tracked := FixFreshness.advance_invariant holds.tracked label
  mode := by
    cases label with
    | byte c moment =>
        rw [advance, advance_byte_reader, nmeaReaderAddc_fixMode, modeAfter, holds.mode]
        split
        · cases gsaMode platform (g.tracked.reader.input ++ [c]) <;> rfl
        · rfl
    | setCallback registers =>
        cases registers <;> exact holds.mode
    | restart => rfl

theorem run_invariant (svUsedInFix : Int → Int) (labels : List Label) :
    Invariant (labels.foldl (advance platform) (start svUsedInFix)) := by
  have kept (g : Gated) (holds : Invariant g) : Invariant (labels.foldl (advance platform) g) := by
    induction labels generalizing g with
    | nil => exact holds
    | cons label labels ih => exact ih _ (advance_invariant holds label)
  exact kept _ (start_invariant svUsedInFix)

/-- The reports grow with the locations that leave the reader. -/
theorem reports_grow_iff (t : Tracked) (c : UInt8) (moment : Moment) :
    (FixFreshness.advance platform t (.byte c moment)).reports ≠ t.reports ↔
      locationPayloads (nmeaReaderAddc platform moment t.reader c).log ≠
        locationPayloads t.reader.log := by
  rw [FixFreshness.advance]
  rcases nmeaReaderAddc_reported platform moment t.reader c with
    ⟨payloads, -⟩ | ⟨fix, -, payloads, -⟩
  · simp [payloads]
  · simp [payloads]

theorem sentenceUpdates_fixMode {r r' : NmeaReader} (same : r'.fixMode = r.fixMode)
    (tzer : NmeaTokenizer) :
    sentenceUpdates platform r' tzer = sentenceUpdates platform r tzer := by
  have fixed : r'.locFixed = r.locFixed := by rw [NmeaReader.locFixed, same, NmeaReader.locFixed]
  rw [sentenceUpdates, sentenceUpdates, fixed]

theorem fieldsOf_fixMode {moment : Moment} {sentence : Bytes} (r : NmeaReader)
    (parsed : Parsed sentence) :
    (fieldsOf platform moment r sentence).fixMode = (gsaMode platform sentence).getD r.fixMode := by
  rw [fieldsOf, parseFields_fixMode, gsaMode, if_pos parsed]
  cases sentenceKind platform.gpsMode ((nmeaTokenizerInit sentence).get 0) <;> rfl

theorem fieldsOf_follows (platform : Platform) (moment : Moment) (r : NmeaReader) (sentence : Bytes) :
    Follows r.fix (fieldsOf platform moment r sentence).fix
      (sentenceUpdates platform r (nmeaTokenizerInit sentence)) := by
  have follows := parseFields_follows platform moment (r.record (.parse sentence))
    (nmeaTokenizerInit sentence)
  have same : (r.record (.parse sentence)).fixMode = r.fixMode := rfl
  rw [sentenceUpdates_fixMode same] at follows
  exact follows

theorem completedUpdates_parsed {r : NmeaReader} {c : UInt8} (completes : Completes r c)
    (parsed : Parsed (r.input ++ [c])) :
    completedUpdates platform r c =
      sentenceUpdates platform r (nmeaTokenizerInit (r.input ++ [c])) := by
  have long : ¬((r.input ++ [c]).length < 9 ∨
      ((nmeaTokenizerInit (r.input ++ [c])).get 0).length < 5) := by
    have enough := parsed.1
    have named := parsed.2
    omega
  have once : completedUpdates platform r c = parsedUpdates platform r (r.input ++ [c]) :=
    if_pos completes
  rw [once, parsedUpdates]
  exact if_neg long

/-- The gate of a reader that has collected a sentence, told from the history. -/
theorem fieldsOf_open {r : NmeaReader} {moment : Moment} {sentence : Bytes} {since : List Update}
    {base : GpsLocation} (unflagged : base.flags = 0) (before : Follows base r.fix since)
    (parsed : Parsed sentence) :
    Open moment (fieldsOf platform moment r sentence) ↔
      moment.gpsNmeaEndTag = true ∧
        ((gsaMode platform sentence).getD r.fixMode = 2 ∨
          (gsaMode platform sentence).getD r.fixMode = 3) ∧
        since ++ sentenceUpdates platform r (nmeaTokenizerInit sentence) ≠ [] := by
  have flags := follows_flags_ne_zero unflagged
    (before.trans (fieldsOf_follows platform moment r sentence))
  rw [Open, NmeaReader.locFixed, fieldsOf_fixMode r parsed, flags]
  simp only [Bool.or_eq_true, decide_eq_true_eq]
  constructor
  · rintro ⟨fixed, flagged, ended⟩
    exact ⟨ended, fixed, flagged⟩
  · rintro ⟨ended, fixed, flagged⟩
    exact ⟨fixed, flagged, ended⟩

theorem modeAfter_cases {c : UInt8} (holds : Invariant g) (completes : Completes g.tracked.reader c)
    (mode : Int) (told : mode ≠ 0) :
    modeAfter platform g c = some mode ↔
      (gsaMode platform (g.tracked.reader.input ++ [c])).getD g.tracked.reader.fixMode = mode := by
  rw [modeAfter, if_pos completes, holds.mode]
  cases gsaMode platform (g.tracked.reader.input ++ [c]) with
  | some _ => simp
  | none =>
      cases g.mode with
      | some _ => simp
      | none => simpa using told.symm

/-- In every run, a byte makes a location report exactly if it ends a read with a sentence, the
last GSA sentence since the start or the last restart has told of a two- or three-dimensional
fix, and a value has been decoded since the report before it or since the registration. -/
theorem reported_iff_due (svUsedInFix : Int → Int) (labels : List Label) (c : UInt8)
    (moment : Moment) :
    let g := labels.foldl (advance platform) (start svUsedInFix)
    (advance platform g (.byte c moment)).tracked.reports ≠ g.tracked.reports ↔
      Due platform g c moment := by
  intro g
  have holds : Invariant g := run_invariant svUsedInFix labels
  obtain ⟨base, unflagged, before⟩ := holds.tracked.follows
  rw [advance, reports_grow_iff, nmeaReaderAddc_payloads, Due]
  refine and_congr_right fun completes => and_congr_right fun parsed => ?_
  rw [modeAfter_cases holds completes 2 (by decide), modeAfter_cases holds completes 3 (by decide),
    completedUpdates_parsed completes parsed]
  have same : ({ g.tracked.reader with input := g.tracked.reader.input ++ [c] }).fixMode =
      g.tracked.reader.fixMode := rfl
  rw [← sentenceUpdates_fixMode same]
  exact fieldsOf_open unflagged before parsed

end Runs

end X5MaxDevice.Gps.FixGating
