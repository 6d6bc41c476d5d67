import Mathlib.Data.List.Induction
import X5MaxDevice.Base.History
import X5MaxDevice.Gps.Delivery

/-! The fix in each location report against the values decoded since the previous report. -/

namespace X5MaxDevice.Gps.FixFreshness

open X5MaxDevice.Gps.Delivery
open X5MaxDevice.Gps.Reader
open X5MaxDevice.Gps.Tokenizer
open X5MaxDevice.History

/-- The fields that `fix.flags` announces. -/
inductive Field where
  | latLong
  | altitude
  | speed
  | bearing
  | accuracy
  deriving DecidableEq, Repr

def Field.flag : Field → BitVec 16
  | .latLong => hasLatLong
  | .altitude => hasAltitude
  | .speed => hasSpeed
  | .bearing => hasBearing
  | .accuracy => hasAccuracy

/-- A field with the value decoded from a sentence. -/
inductive Update where
  | latLong (latitude longitude : ℚ)
  | altitude (value : ℚ)
  | speed (value : ℚ)
  | bearing (value : ℚ)
  | accuracy (value : ℚ)
  deriving DecidableEq, Repr

def Update.field : Update → Field
  | .latLong _ _ => .latLong
  | .altitude _ => .altitude
  | .speed _ => .speed
  | .bearing _ => .bearing
  | .accuracy _ => .accuracy

/-- The fix has the value. -/
def Stored (fix : GpsLocation) : Update → Prop
  | .latLong latitude longitude => fix.latitude = latitude ∧ fix.longitude = longitude
  | .altitude value => fix.altitude = value
  | .speed value => fix.speed = value
  | .bearing value => fix.bearing = value
  | .accuracy value => fix.accuracy = value

def Flagged (fix : GpsLocation) (field : Field) : Prop := fix.flags &&& field.flag = field.flag

/-- The last update of a field. -/
def latestOf (field : Field) (updates : List Update) : Option Update :=
  latest (fun update => if update.field = field then some update else none) updates

/-- Exactly the fields with an update are flagged, and hold the value of the last one. -/
def Fresh (fix : GpsLocation) (updates : List Update) : Prop :=
  ∀ field, (Flagged fix field ↔ latestOf field updates ≠ none) ∧
    ∀ update, latestOf field updates = some update → Stored fix update

/-- The position of a sentence, if both coordinates are long enough. -/
def decodeLatlong (platform : Platform) (latitude latitudeHemi longitude longitudeHemi : Token) :
    Option Update :=
  if latitude.length < 6 ∨ longitude.length < 6 then none
  else
    let lat := convertFromHhmm platform latitude
    let lon := convertFromHhmm platform longitude
    some (.latLong (if latitudeHemi.head? = some (ascii 'S') then -lat else lat)
      (if longitudeHemi.head? = some (ascii 'W') then -lon else lon))

def decodeValue (platform : Platform) (tok : Token) (update : ℚ → Update) : Option Update :=
  if tok = [] then none else some (update (str2float platform.strtod tok))

/-- Knots to metres per second. -/
def decodeSpeed (platform : Platform) (tok : Token) : Option Update :=
  decodeValue platform tok (fun value => .speed (value / (1942795467 / 1000000000)))

/-- The values that a sentence has for the fix, in the order in which they are stored. -/
def sentenceUpdates (platform : Platform) (r : NmeaReader) (tzer : NmeaTokenizer) : List Update :=
  match sentenceKind platform.gpsMode (tzer.get 0) with
  | .gga =>
      (decodeLatlong platform (tzer.get 2) (tzer.get 3) (tzer.get 4) (tzer.get 5)).toList ++
        (decodeValue platform (tzer.get 9) .altitude).toList
  | .rmc =>
      if (tzer.get 2).head? = some (ascii 'A') then
        (decodeLatlong platform (tzer.get 3) (tzer.get 4) (tzer.get 5) (tzer.get 6)).toList ++
          ((decodeValue platform (tzer.get 8) .bearing).toList ++
            (decodeSpeed platform (tzer.get 7)).toList)
      else []
  | .accuracy =>
      if r.locFixed then (decodeValue platform (tzer.get 1) .accuracy).toList else []
  | .gsaGnss | .gsaGps | .gsvGnss | .gsvGps | .unknown => []

/-- The values of a sentence that is parsed at all. -/
def parsedUpdates (platform : Platform) (r : NmeaReader) (sentence : Bytes) : List Update :=
  let tzer := nmeaTokenizerInit sentence
  if sentence.length < 9 ∨ (tzer.get 0).length < 5 then [] else sentenceUpdates platform r tzer

/-- The values of the sentence that a byte completes, if it completes one. -/
def completedUpdates (platform : Platform) (r : NmeaReader) (c : UInt8) : List Update :=
  if r.overflow = false ∧ r.input.length < nmeaMaxSize ∧ c = newline then
    parsedUpdates platform r (r.input ++ [c])
  else []

/-- Without callbacks nothing is done. `MNL_AT_TEST_FLAG` is set in test builds only. -/
def nmeaReaderSetCallback (r : NmeaReader) (registers : Bool) : NmeaReader :=
  if registers then
    { r with
      fix := { r.fix with flags := 0 }
      svCount := 0
      svStatusGps := { r.svStatusGps with numSvs := 0 }
      svStatusGnss := { r.svStatusGnss with numSvs := 0 }
      svTrace := r.svTrace ++ [.drop] }
  else r

/-- A byte, a registration of the callbacks or its end, and `CMD_RESTART`. -/
inductive Label where
  | byte (c : UInt8) (moment : Moment)
  | setCallback (registers : Bool)
  | restart

/-- A reported fix, the values decoded since the report before it or since the callbacks were
registered, and the flags right after the sentence that led to it. -/
structure Report where
  fix : GpsLocation
  updates : List Update
  left : BitVec 16
  deriving DecidableEq, Repr

structure Tracked where
  reader : NmeaReader
  since : List Update
  reports : List Report

def start (svUsedInFix : Int → Int) : Tracked := ⟨nmeaReaderInit svUsedInFix, [], []⟩

def advance (platform : Platform) (t : Tracked) : Label → Tracked
  | .byte c moment =>
      let reader := nmeaReaderAddc platform moment t.reader c
      let updates := t.since ++ completedUpdates platform t.reader c
      let fixes := (locationPayloads reader.log).drop (locationPayloads t.reader.log).length
      if fixes = [] then { t with reader := reader, since := updates }
      else
        ⟨reader, [], t.reports ++ fixes.map (fun fix => ⟨fix, updates, reader.fix.flags⟩)⟩
  | .setCallback registers =>
      { t with
        reader := nmeaReaderSetCallback t.reader registers
        since := if registers then [] else t.since }
  | .restart => { t with reader := { t.reader with fixMode := 0 } }

def AllFresh (t : Tracked) : Prop :=
  ∀ report ∈ t.reports, Fresh report.fix report.updates ∧ report.left = 0

/-- Storing a value raises the flag of its field. -/
def Update.apply (fix : GpsLocation) : Update → GpsLocation
  | .latLong latitude longitude =>
      { fix with
        flags := fix.flags ||| hasLatLong, latitude := latitude, longitude := longitude }
  | .altitude value => { fix with flags := fix.flags ||| hasAltitude, altitude := value }
  | .speed value => { fix with flags := fix.flags ||| hasSpeed, speed := value }
  | .bearing value => { fix with flags := fix.flags ||| hasBearing, bearing := value }
  | .accuracy value => { fix with flags := fix.flags ||| hasAccuracy, accuracy := value }

/-- The fix with the values stored one after the other, and with some time. -/
def Follows (fix fix' : GpsLocation) (updates : List Update) : Prop :=
  ∃ timestamp, fix' = { updates.foldl Update.apply fix with timestamp := timestamp }

theorem foldl_apply_timestamp (updates : List Update) (fix : GpsLocation) (timestamp : Int) :
    ∃ timestamp', updates.foldl Update.apply { fix with timestamp := timestamp } =
      { updates.foldl Update.apply fix with timestamp := timestamp' } := by
  induction updates generalizing fix with
  | nil => exact ⟨timestamp, rfl⟩
  | cons update updates ih =>
      have applied : Update.apply { fix with timestamp := timestamp } update =
          { Update.apply fix update with timestamp := timestamp } := by cases update <;> rfl
      rw [List.foldl_cons, List.foldl_cons, applied]
      exact ih (update.apply fix)

theorem follows_refl (fix : GpsLocation) : Follows fix fix [] := ⟨fix.timestamp, rfl⟩

theorem Follows.trans {first second third : GpsLocation} {updates updates' : List Update}
    (before : Follows first second updates) (after : Follows second third updates') :
    Follows first third (updates ++ updates') := by
  rcases before with ⟨timestamp, rfl⟩
  rcases after with ⟨timestamp', rfl⟩
  rcases foldl_apply_timestamp updates' (updates.foldl Update.apply first) timestamp with
    ⟨timestamp'', applied⟩
  exact ⟨timestamp', by rw [applied, List.foldl_append]⟩

theorem updateTime_follows (platform : Platform) (moment : Moment) (r : NmeaReader) (tok : Token) :
    Follows r.fix (updateTime platform moment r tok).1.fix [] := by
  rw [updateTime]
  split
  · exact follows_refl r.fix
  · exact ⟨_, rfl⟩

theorem updateDate_follows (platform : Platform) (moment : Moment) (r : NmeaReader)
    (date time : Token) : Follows r.fix (updateDate platform moment r date time).1.fix [] := by
  rw [updateDate]
  split
  · exact follows_refl r.fix
  · dsimp only
    split
    · exact follows_refl r.fix
    · exact updateTime_follows platform moment _ time

/-- The update succeeds if and only if there is a position to decode, and stores it. -/
theorem updateLatlong_follows (platform : Platform) (r : NmeaReader)
    (latitude latitudeHemi longitude longitudeHemi : Token) :
    let decoded := decodeLatlong platform latitude latitudeHemi longitude longitudeHemi
    let updated := updateLatlong platform r latitude latitudeHemi longitude longitudeHemi
    (updated.2 = 0 ↔ decoded.isSome) ∧ Follows r.fix updated.1.fix decoded.toList := by
  simp only [decodeLatlong, updateLatlong]
  by_cases short : latitude.length < 6
  · rw [if_pos short, if_pos (.inl short)]
    exact ⟨by simp, follows_refl r.fix⟩
  · rw [if_neg short]
    by_cases short' : longitude.length < 6
    · rw [if_pos short', if_pos (.inr short')]
      exact ⟨by simp, follows_refl r.fix⟩
    · rw [if_neg short', if_neg (not_or.mpr ⟨short, short'⟩)]
      exact ⟨by simp, r.fix.timestamp, rfl⟩

theorem updateField_follows {platform : Platform} {flag : BitVec 16}
    {store : GpsLocation → ℚ → GpsLocation} {update : ℚ → Update}
    (stores : ∀ fix value, (update value).apply fix =
      store { fix with flags := fix.flags ||| flag } value)
    (r : NmeaReader) (tok : Token) :
    let decoded := decodeValue platform tok update
    let updated := updateField platform r tok flag store
    (updated.2 = 0 ↔ decoded.isSome) ∧ Follows r.fix updated.1.fix decoded.toList := by
  simp only [decodeValue, updateField]
  split
  · exact ⟨by simp, follows_refl r.fix⟩
  · have applied := stores r.fix (str2float platform.strtod tok)
    refine ⟨by simp, (Update.apply r.fix (update (str2float platform.strtod tok))).timestamp, ?_⟩
    exact applied.symm

theorem updateAltitude_follows (platform : Platform) (r : NmeaReader) (tok : Token) :
    Follows r.fix (updateAltitude platform r tok).1.fix
      (decodeValue platform tok .altitude).toList :=
  (updateField_follows (fun _ _ => rfl) r tok).2

theorem updateBearing_follows (platform : Platform) (r : NmeaReader) (tok : Token) :
    Follows r.fix (updateBearing platform r tok).1.fix
      (decodeValue platform tok .bearing).toList :=
  (updateField_follows (fun _ _ => rfl) r tok).2

theorem updateSpeed_follows (platform : Platform) (r : NmeaReader) (tok : Token) :
    Follows r.fix (updateSpeed platform r tok).1.fix (decodeSpeed platform tok).toList :=
  (updateField_follows (fun _ _ => rfl) r tok).2

theorem updateAccuracy_follows (platform : Platform) (r : NmeaReader) (tok : Token) :
    Follows r.fix (updateAccuracy platform r tok).1.fix
      (decodeValue platform tok .accuracy).toList :=
  (updateField_follows (fun _ _ => rfl) r tok).2

theorem parseGga_follows (platform : Platform) (moment : Moment) (r : NmeaReader)
    (tzer : NmeaTokenizer) :
    Follows r.fix (parseGga platform moment r tzer).fix
      ((decodeLatlong platform (tzer.get 2) (tzer.get 3) (tzer.get 4) (tzer.get 5)).toList ++
        (decodeValue platform (tzer.get 9) .altitude).toList) := by
  have timed := updateTime_follows platform moment r (tzer.get 1)
  have placed := (updateLatlong_follows platform (updateTime platform moment r (tzer.get 1)).1
    (tzer.get 2) (tzer.get 3) (tzer.get 4) (tzer.get 5)).2
  exact (timed.trans placed).trans (updateAltitude_follows platform _ (tzer.get 9))

theorem parseRmc_follows (platform : Platform) (moment : Moment) (r : NmeaReader)
    (tzer : NmeaTokenizer) (active : (tzer.get 2).head? = some (ascii 'A')) :
    Follows r.fix (parseRmc platform moment r tzer).fix
      ((decodeLatlong platform (tzer.get 3) (tzer.get 4) (tzer.get 5) (tzer.get 6)).toList ++
        ((decodeValue platform (tzer.get 8) .bearing).toList ++
          (decodeSpeed platform (tzer.get 7)).toList)) := by
  have dated := updateDate_follows platform moment r (tzer.get 9) (tzer.get 1)
  have placed := (updateLatlong_follows platform
    (updateDate platform moment r (tzer.get 9) (tzer.get 1)).1
    (tzer.get 3) (tzer.get 4) (tzer.get 5) (tzer.get 6)).2
  rw [parseRmc, if_pos active]
  exact (dated.trans placed).trans
    ((updateBearing_follows platform _ (tzer.get 8)).trans
      (updateSpeed_follows platform _ (tzer.get 7)))

/-- The fix follows the values of the sentence. -/
theorem parseFields_follows (platform : Platform) (moment : Moment) (r : NmeaReader)
    (tzer : NmeaTokenizer) :
    Follows r.fix (parseFields platform moment r tzer).fix (sentenceUpdates platform r tzer) := by
  unfold parseFields sentenceUpdates
  dsimp only
  cases sentenceKind platform.gpsMode (tzer.get 0) with
  | gga => exact parseGga_follows platform moment r tzer
  | rmc =>
      dsimp only
      split
      case isTrue active => exact parseRmc_follows platform moment r tzer active
      case isFalse inactive =>
        rw [parseRmc, if_neg inactive]
        exact follows_refl r.fix
  | accuracy =>
      dsimp only
      split
      · exact updateAccuracy_follows platform r (tzer.get 1)
      · exact follows_refl r.fix
  | gsaGnss =>
      have same : (parseGsaGnss r (startsWith (tzer.get 0) "BD") tzer).fix = r.fix := by
        simp only [parseGsaGnss]
        split <;> rfl
      exact same ▸ follows_refl r.fix
  | gsaGps =>
      have same : (parseGsaGps r tzer).fix = r.fix := by
        simp only [parseGsaGps]
        split <;> rfl
      exact same ▸ follows_refl r.fix
  | gsvGnss | gsvGps | unknown => exact follows_refl r.fix

theorem latestOf_snoc (field : Field) (updates : List Update) (update : Update) :
    latestOf field (updates ++ [update]) =
      if update.field = field then some update else latestOf field updates := by
  rw [latestOf, latest_snoc]
  split
  · rfl
  · rfl

theorem latestOf_field {field : Field} {updates : List Update} {update : Update}
    (last : latestOf field updates = some update) : update.field = field := by
  induction updates using List.reverseRecOn with
  | nil => cases last
  | append_singleton updates next ih =>
      rw [latestOf_snoc] at last
      split at last
      case isTrue same =>
        cases last
        exact same
      case isFalse => exact ih last

theorem apply_flags (fix : GpsLocation) (update : Update) :
    (update.apply fix).flags = fix.flags ||| update.field.flag := by
  cases update <;> rfl

/-- The flags of two fields have no bit in common. -/
theorem flag_disjoint {field other : Field} (different : other ≠ field) :
    other.flag &&& field.flag = 0#16 := by
  cases field <;> cases other <;> first | rfl | exact absurd rfl different

theorem flagged_apply (fix : GpsLocation) (update : Update) (field : Field) :
    Flagged (update.apply fix) field ↔ update.field = field ∨ Flagged fix field := by
  rw [Flagged, apply_flags, BitVec.and_or_distrib_right]
  by_cases same : update.field = field
  · have whole : (fix.flags &&& field.flag) ||| field.flag = field.flag := by
      apply BitVec.eq_of_getElem_eq
      intro bit inside
      rw [BitVec.getElem_or, BitVec.getElem_and]
      cases field.flag[bit] <;> simp
    rw [same, BitVec.and_self, whole]
    simp
  · rw [flag_disjoint same, BitVec.or_zero, or_iff_right same, Flagged]

theorem stored_apply (fix : GpsLocation) (update : Update) : Stored (update.apply fix) update := by
  cases update with
  | latLong latitude longitude => exact ⟨rfl, rfl⟩
  | altitude value | speed value | bearing value | accuracy value => exact rfl

/-- A value stored for one field leaves the other fields as they are. -/
theorem stored_other {fix : GpsLocation} {update other : Update}
    (different : update.field ≠ other.field) (stored : Stored fix other) :
    Stored (update.apply fix) other := by
  cases update <;> cases other <;> first | exact stored | exact absurd rfl different

theorem fresh_foldl {base : GpsLocation} (unflagged : base.flags = 0) (updates : List Update) :
    Fresh (updates.foldl Update.apply base) updates := by
  induction updates using List.reverseRecOn with
  | nil =>
      intro field
      refine ⟨?_, nofun⟩
      rw [List.foldl_nil, Flagged, unflagged]
      cases field <;> decide
  | append_singleton updates update ih =>
      intro field
      rw [List.foldl_append, List.foldl_cons, List.foldl_nil, latestOf_snoc, flagged_apply]
      by_cases same : update.field = field
      · rw [if_pos same]
        refine ⟨by simp [same], ?_⟩
        intro last found
        cases found
        exact stored_apply _ update
      · rw [if_neg same, or_iff_right same]
        refine ⟨(ih field).1, fun last found => ?_⟩
        have other : update.field ≠ last.field := latestOf_field found ▸ same
        exact stored_other other ((ih field).2 last found)

theorem Follows.fresh {base fix : GpsLocation} {updates : List Update}
    (unflagged : base.flags = 0) (follows : Follows base fix updates) : Fresh fix updates := by
  rcases follows with ⟨timestamp, rfl⟩
  intro field
  have fresh := fresh_foldl unflagged updates field
  refine ⟨fresh.1, fun update last => ?_⟩
  have stored := fresh.2 update last
  cases update <;> exact stored

/-- What a step leaves: either nothing was reported and the fix follows the values, or a fix
that follows them was reported and has lost its flags. -/
def Reported (r r' : NmeaReader) (updates : List Update) : Prop :=
  (locationPayloads r'.log = locationPayloads r.log ∧ Follows r.fix r'.fix updates) ∨
    ∃ fix, Follows r.fix fix updates ∧
      locationPayloads r'.log = locationPayloads r.log ++ [fix] ∧ r'.fix = { fix with flags := 0 }

theorem reportLocation_reported {r r' : NmeaReader} {updates : List Update} (moment : Moment)
    (log : r'.log = r.log) (follows : Follows r.fix r'.fix updates) :
    Reported r (reportLocation moment r') updates := by
  have unreported : Reported r r' updates := .inl ⟨by rw [log], follows⟩
  rw [reportLocation]
  split
  · exact unreported
  · split
    · refine .inr ⟨r'.fix, follows, ?_, ?_⟩
      · rw [← log]
        cases moment.mnlProp with
        | false => simp [NmeaReader.record, locationPayloads, locationPayload]
        | true =>
            simp [NmeaReader.record, locationPayloads]
            rfl
      · cases moment.mnlProp <;> rfl
    · exact unreported

/-- Events that are no location reports. -/
theorem Reported.extend {r middle r' : NmeaReader} {updates : List Update}
    (reported : Reported r middle updates) {events : List Event} (log : r'.log = middle.log ++ events)
    (others : locationPayloads events = []) (fix : r'.fix = middle.fix) :
    Reported r r' updates := by
  have same : locationPayloads r'.log = locationPayloads middle.log := by
    rw [locationPayloads, locationPayloads] at *
    rw [log, List.filterMap_append, others, List.append_nil]
  rw [Reported, same, fix]
  exact reported

theorem reportSvStatus_extends (platform : Platform) (moment : Moment) (r : NmeaReader) :
    (reportSvStatus platform moment r).fix = r.fix ∧
      ∃ events, (reportSvStatus platform moment r).log = r.log ++ events ∧
        locationPayloads events = [] := by
  have nothing : ∃ events, r.log = r.log ++ events ∧ locationPayloads events = [] :=
    ⟨[], (List.append_nil _).symm, rfl⟩
  rw [reportSvStatus]
  split
  · rw [reportGnss]
    split
    · exact ⟨rfl, [.gnssSvStatusCb r.gnss.listed], rfl, rfl⟩
    · exact ⟨rfl, nothing⟩
  · rw [reportGps]
    split
    · split
      · exact ⟨rfl, [.svStatusCb r.gps.listed r.usedInFixMask], rfl, rfl⟩
      · exact ⟨rfl, nothing⟩
    · exact ⟨rfl, nothing⟩

theorem parseFields_log (platform : Platform) (moment : Moment) (r : NmeaReader)
    (tzer : NmeaTokenizer) : (parseFields platform moment r tzer).log = r.log := by
  rcases parseFields_cases platform moment r tzer with
    ⟨utc, fix, same⟩ | ⟨mode, mask, used, same⟩ | ⟨_, same⟩ | ⟨_, same⟩
  · rw [same]
  · rw [same]
  · rw [same]
    rfl
  · rw [same]
    rfl

theorem nmeaReaderParse_reported (platform : Platform) (moment : Moment) (r : NmeaReader)
    (sentence : Bytes) :
    Reported r (nmeaReaderParse platform moment r sentence)
      (parsedUpdates platform r sentence) := by
  let begun := r.record (.parse sentence)
  let tzer := nmeaTokenizerInit sentence
  have payloads : locationPayloads begun.log = locationPayloads r.log := by
    simp [begun, NmeaReader.record, locationPayloads, locationPayload]
  have discarded : Reported r begun [] := .inl ⟨payloads, follows_refl r.fix⟩
  rw [nmeaReaderParse, parsedUpdates]
  by_cases long : sentence.length < 9
  · rw [if_pos long, if_pos (.inl long)]
    exact discarded
  · rw [if_neg long]
    by_cases named : (tzer.get 0).length < 5
    · rw [if_pos named, if_pos (.inr named)]
      exact discarded
    · rw [if_neg named, if_neg (not_or.mpr ⟨long, named⟩)]
      have located : Reported begun
          (reportLocation moment (parseFields platform moment begun tzer))
          (sentenceUpdates platform r tzer) :=
        reportLocation_reported moment (parseFields_log platform moment begun tzer)
          (parseFields_follows platform moment begun tzer)
      rw [Reported, payloads] at located
      rcases reportSvStatus_extends platform moment
        (reportLocation moment (parseFields platform moment begun tzer)) with
        ⟨fix, events, log, others⟩
      exact Reported.extend located log others fix

/-- A byte brings the values of the sentence that it completes, if any. -/
theorem nmeaReaderAddc_reported (platform : Platform) (moment : Moment) (r : NmeaReader)
    (c : UInt8) :
    Reported r (nmeaReaderAddc platform moment r c) (completedUpdates platform r c) := by
  rw [completedUpdates]
  rcases nmeaReaderAddc_cases platform moment r c with
    ⟨collects, room, ends, finished⟩ | ⟨incomplete, overflow, input, moved⟩
  · have parsed := nmeaReaderParse_reported platform moment
      { r with input := r.input ++ [c] } (r.input ++ [c])
    rw [if_pos ⟨collects, room, ends⟩, finished, nmeaReaderFinish]
    exact parsed.extend rfl rfl rfl
  · rw [if_neg incomplete, moved]
    exact .inl ⟨rfl, follows_refl r.fix⟩

/-- The values since the last report explain the flags and fields of the fix. -/
structure Invariant (t : Tracked) : Prop where
  follows : ∃ base : GpsLocation, base.flags = 0 ∧ Follows base t.reader.fix t.since
  reports : AllFresh t

theorem start_invariant (svUsedInFix : Int → Int) : Invariant (start svUsedInFix) :=
  ⟨⟨(nmeaReaderInit svUsedInFix).fix, rfl, follows_refl _⟩, nofun⟩

theorem byte_invariant {platform : Platform} {t : Tracked} (holds : Invariant t) (c : UInt8)
    (moment : Moment) : Invariant (advance platform t (.byte c moment)) := by
  rcases holds.follows with ⟨base, unflagged, before⟩
  rcases nmeaReaderAddc_reported platform moment t.reader c with
    ⟨payloads, follows⟩ | ⟨fix, follows, payloads, left⟩
  · have none : (locationPayloads (nmeaReaderAddc platform moment t.reader c).log).drop
        (locationPayloads t.reader.log).length = [] := by
      rw [payloads, List.drop_length]
    have same : advance platform t (.byte c moment) =
        { t with
          reader := nmeaReaderAddc platform moment t.reader c
          since := t.since ++ completedUpdates platform t.reader c } := by
      rw [advance]
      exact if_pos none
    rw [same]
    exact ⟨⟨base, unflagged, before.trans follows⟩, holds.reports⟩
  · have one : (locationPayloads (nmeaReaderAddc platform moment t.reader c).log).drop
        (locationPayloads t.reader.log).length = [fix] := by
      rw [payloads, List.drop_left]
    have same : advance platform t (.byte c moment) =
        ⟨nmeaReaderAddc platform moment t.reader c, [], t.reports ++
          [⟨fix, t.since ++ completedUpdates platform t.reader c,
            (nmeaReaderAddc platform moment t.reader c).fix.flags⟩]⟩ := by
      simp only [advance, one]
      rfl
    have emptied : (nmeaReaderAddc platform moment t.reader c).fix.flags = 0 := by rw [left]
    rw [same]
    refine ⟨⟨_, emptied, follows_refl _⟩, fun report member => ?_⟩
    rcases List.mem_append.mp member with earlier | now
    · exact holds.reports report earlier
    · rw [List.mem_singleton.mp now]
      exact ⟨(before.trans follows).fresh unflagged, emptied⟩

theorem advance_invariant {platform : Platform} {t : Tracked} (holds : Invariant t)
    (label : Label) : Invariant (advance platform t label) := by
  cases label with
  | byte c moment => exact byte_invariant holds c moment
  | restart => exact ⟨holds.follows, holds.reports⟩
  | setCallback registers =>
      cases registers with
      | false => exact ⟨holds.follows, holds.reports⟩
      | true => exact ⟨⟨_, rfl, follows_refl _⟩, holds.reports⟩

/-- In every run, each reported fix has exactly the fields decoded since the report before it
or since the registration, each with its last value, and no flags are left behind. -/
theorem reported_fixes_fresh (platform : Platform) (svUsedInFix : Int → Int)
    (labels : List Label) : AllFresh (labels.foldl (advance platform) (start svUsedInFix)) := by
  have kept (t : Tracked) (holds : Invariant t) :
      Invariant (labels.foldl (advance platform) t) := by
    induction labels generalizing t with
    | nil => exact holds
    | cons label labels ih => exact ih _ (advance_invariant holds label)
  exact (kept _ (start_invariant svUsedInFix)).reports

/-- The position of an earlier epoch is not reported again with a later altitude. -/
example :
    let position := chunk epochMoment (bytes "$GPGSA,A,3,07\r\n$GPRMC,,A,1200.0,N,3000.0,E\r\n")
    let altitude := chunk epochMoment (bytes "$GPGGA,,,,,,,,,55\r\n")
    ((position ++ altitude).map (fun next => Label.byte next.1 next.2)
      |>.foldl (advance gnssPlatform) (start fun _ => 0)).reports =
        [⟨⟨hasLatLong, 12, 30, 0, 0, 0, 0, 0⟩, [.latLong 12 30], 0⟩,
          ⟨⟨hasAltitude, 12, 30, 55, 0, 0, 0, 0⟩, [.altitude 55], 0⟩] := by
  decide +kernel

end X5MaxDevice.Gps.FixFreshness
