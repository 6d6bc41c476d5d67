import Mathlib.Data.List.Chain
import X5MaxDevice.Base.Calendar
import X5MaxDevice.Gps.Epochs
import X5MaxDevice.Gps.GpsTime
import X5MaxDevice.Gps.TokenSpans
import X5MaxDevice.Gps.Decimals

/-! The timestamps given to `nmea_cb` over epochs of a GGA and an RMC sentence. A GGA sentence
has a time of day only, and takes the date that the sentence before it left. -/

namespace X5MaxDevice.Gps.Timestamps

open X5MaxDevice.Calendar
open X5MaxDevice.Gps.Decimals
open X5MaxDevice.Gps.EpoConfig
open X5MaxDevice.Gps.Epochs (Line startsWith_length)
open X5MaxDevice.Gps.Framing (nmeaReaderFinish_collecting)
open X5MaxDevice.Gps.GpsTime (unixEpoch)
open X5MaxDevice.Gps.Reader
open X5MaxDevice.Gps.SatelliteReport (Idle feed_append feed_ended)
open X5MaxDevice.Gps.TokenSpans (two_tokens_length)
open X5MaxDevice.Gps.Tokenizer

def twoDigits (n : Nat) : List (Fin 10) := [lastDigit (n / 10), lastDigit n]

/-- Digits behind a point, or no point at all. -/
abbrev Fraction := Option (List (Fin 10))

def fractionText : Fraction → Bytes
  | none => []
  | some digits => point :: digitsText digits

def fractionValue : Fraction → ℚ
  | none => 0
  | some digits => digitsValue digits / 10 ^ digits.length

def secondsText (second : Nat) (fraction : Fraction) : Token :=
  digitsText (twoDigits second) ++ fractionText fraction

def timeText (time : CivilTime) (fraction : Fraction) : Token :=
  digitsText (twoDigits time.hour) ++ (digitsText (twoDigits time.minute) ++
    secondsText time.second fraction)

def dateText (date : Date) : Token :=
  digitsText (twoDigits date.day) ++ (digitsText (twoDigits date.month) ++
    digitsText (twoDigits (date.year - 2000)))

/-- A GGA and a valid RMC sentence of one instant, in the years that two digits write. -/
structure Epoch where
  time : CivilTime
  gga : Line
  ggaFraction : Fraction
  rmc : Line
  rmcFraction : Fraction
  from2000 : 2000 ≤ time.date.year
  before2100 : time.date.year < 2100
  gga_id : startsWith ((gga.tokens.get 0).drop 2) "GGA" = true
  gga_time : gga.tokens.get 1 = timeText time ggaFraction
  rmc_id : startsWith ((rmc.tokens.get 0).drop 2) "RMC" = true
  rmc_time : rmc.tokens.get 1 = timeText time rmcFraction
  rmc_valid : (rmc.tokens.get 2).head? = some (ascii 'A')
  rmc_date : rmc.tokens.get 9 = dateText time.date
  same : fractionValue ggaFraction = fractionValue rmcFraction

def Epoch.bytes (epoch : Epoch) : Bytes := epoch.gga.sentence ++ epoch.rmc.sentence

/-- The instant, in seconds of the calendar. -/
def Epoch.instant (epoch : Epoch) : ℚ := epoch.time.seconds + fractionValue epoch.ggaFraction

/-- The civil time as the C library takes it. -/
def tmOf (time : CivilTime) : Tm :=
  ⟨⟨time.date.year, time.date.month, time.date.day⟩, time.hour, time.minute, time.second⟩

def unixSeconds : Int := (unixEpoch.dayNumber * 86400 : Nat)

/-- `mktime` is the map from civil times to seconds, and the time zone is UTC. -/
structure Utc (platform : Platform) : Prop where
  gmtoff : ∀ time, platform.gmtoff time = 0
  mktime : ∀ time : CivilTime,
    platform.mktime (tmOf time) = time.seconds - unixSeconds

/-- `str2float` takes a text that does not fit its buffer for zero. -/
def readTime (time : CivilTime) (fraction : Fraction) : CivilTime :=
  { time with
    second := if 16 ≤ (secondsText time.second fraction).length then 0 else time.second
    second_lt := by
      split
      · decide
      · exact time.second_lt }

def Epoch.ggaRead (epoch : Epoch) : Nat := (readTime epoch.time epoch.ggaFraction).secondOfDay

def Epoch.rmcRead (epoch : Epoch) : Nat := (readTime epoch.time epoch.rmcFraction).secondOfDay

/-- The time of day that the later GGA sentence has does not lie before the one of the earlier RMC
sentence, nor behind the one of the RMC sentence of the same day. -/
def Timely (earlier later : Epoch) : Prop :=
  earlier.rmcRead ≤ later.ggaRead ∧
    (earlier.time.date.dayNumber = later.time.date.dayNumber → later.ggaRead ≤ later.rmcRead)

def Before (earlier later : Epoch) : Prop := earlier.instant < later.instant

def nmeaTimestamps (log : List Event) : List Int :=
  log.filterMap (fun event => match event with
    | .nmeaCb timestamp _ => some timestamp
    | _ => none)

theorem digitsValue_twoDigits {n : Nat} (small : n < 100) : digitsValue (twoDigits n) = n := by
  simp only [digitsValue, twoDigits, lastDigit, Fin.ofNat, List.foldl_cons, List.foldl_nil]
  omega

theorem twoDigits_length (n : Nat) : (digitsText (twoDigits n)).length = 2 := rfl

theorem str2int_twoDigits {n : Nat} (small : n < 100) :
    str2int (digitsText (twoDigits n)) = n := by
  have read := str2int_text false (twoDigits n)
  rw [digitsValue_twoDigits small] at read
  calc
    str2int (digitsText (twoDigits n)) = int32 n := read
    _ = n := int32_of_range (by omega) (by omega)

theorem truncate_natCast (n : Nat) : truncate (n : ℚ) = n := by
  rw [truncate_of_nonneg (Nat.cast_nonneg n), Int.floor_natCast]

/-- The seconds that `nmea_reader_update_time` reads. -/
theorem truncate_seconds {platform : Platform} (exact : ExactDecimals platform.strtod)
    (time : CivilTime) (fraction : Fraction) :
    truncate (str2float platform.strtod (secondsText time.second fraction)) =
      (readTime time fraction).second := by
  have small : time.second < 100 := time.second_lt.trans (by decide)
  rw [str2float, readTime]
  dsimp only
  split
  · rfl
  · cases fraction with
    | none =>
        rw [secondsText, fractionText, List.append_nil, exact.plain _ (by simp [twoDigits]),
          digitsValue_twoDigits small, truncate_natCast]
    | some digits =>
        have pointed := exact.pointed ⟨twoDigits time.second, digits, by simp [twoDigits]⟩
        rw [secondsText, fractionText]
        rw [Decimal.text] at pointed
        rw [pointed, truncate_of_nonneg (value_nonneg _), floor_value, digitsValue_twoDigits small]

/-- A text of two numbers of two digits each, and what follows, is cut as it is put together. -/
theorem pairs_cut (first second : Nat) (rest : Bytes) {text : Bytes}
    (parts : text = digitsText (twoDigits first) ++ (digitsText (twoDigits second) ++ rest)) :
    text.take 2 = digitsText (twoDigits first) ∧
      (text.drop 2).take 2 = digitsText (twoDigits second) ∧ text.drop 4 = rest := by
  have behind : text.drop 2 = digitsText (twoDigits second) ++ rest := by
    rw [parts]
    exact List.drop_left' (twoDigits_length first)
  refine ⟨?_, ?_, ?_⟩
  · rw [parts]
    exact List.take_left' (twoDigits_length first)
  · rw [behind]
    exact List.take_left' (twoDigits_length second)
  · rw [show 4 = 2 + 2 from rfl, ← List.drop_drop, behind]
    exact List.drop_left' (twoDigits_length second)

theorem timeText_length (time : CivilTime) (fraction : Fraction) :
    6 ≤ (timeText time fraction).length := by
  rw [timeText, secondsText]
  simp only [List.length_append, twoDigits_length]
  omega

/-- The timestamp of a date and a time of day. -/
def timestampOf (date : Date) (seconds : Nat) : Int :=
  (date.dayNumber * 86400 + seconds - unixSeconds) * 1000

theorem updateTime_timeText {platform : Platform} (utc : Utc platform)
    (exact : ExactDecimals platform.strtod) (moment : Moment) (r : NmeaReader) (date : Date)
    (known : r.utc = ⟨date.year, date.month, date.day⟩) (time : CivilTime) (fraction : Fraction) :
    (updateTime platform moment r (timeText time fraction)).1 =
      { r with fix := { r.fix with
          timestamp := timestampOf date (readTime time fraction).secondOfDay } } := by
  have hour := str2int_twoDigits (time.hour_lt.trans (by decide))
  have minute := str2int_twoDigits (time.minute_lt.trans (by decide))
  have long : ¬ (timeText time fraction).length < 6 := not_lt.mpr (timeText_length time fraction)
  have present : ¬ r.utc.year < 0 := by
    rw [known]
    exact not_lt.mpr (Int.natCast_nonneg date.year)
  obtain ⟨first, second, third⟩ :=
    pairs_cut time.hour time.minute (secondsText time.second fraction)
      (show timeText time fraction = _ from rfl)
  let onDate : CivilTime := { readTime time fraction with date := date }
  have stamped : platform.mktime (tmOf onDate) * 1000 =
      timestampOf date (readTime time fraction).secondOfDay := by
    rw [utc.mktime, timestampOf, CivilTime.seconds, Nat.cast_add, Nat.cast_mul]
    rfl
  have fields : (⟨r.utc, time.hour, time.minute, (readTime time fraction).second⟩ : Tm) =
      tmOf onDate := by
    rw [known]
    rfl
  rw [updateTime, if_neg long, if_neg present, first, second, third, hour, minute]
  dsimp only
  rw [truncate_seconds exact, fields, utc.gmtoff, add_zero, stamped]

theorem updateDate_dateText {platform : Platform} (utc : Utc platform)
    (exact : ExactDecimals platform.strtod) (moment : Moment) (r : NmeaReader) {date : Date}
    (low : 2000 ≤ date.year) (high : date.year < 2100) (time : CivilTime) (fraction : Fraction) :
    (updateDate platform moment r (dateText date) (timeText time fraction)).1 =
      { r with
        utc := ⟨date.year, date.month, date.day⟩
        fix := { r.fix with
          timestamp := timestampOf date (readTime time fraction).secondOfDay } } := by
  have days : daysInMonth date.year date.month ≤ 31 := daysInMonth_le date.year date.month
  have day := str2int_twoDigits (show date.day < 100 by have := date.day_le; omega)
  have month := str2int_twoDigits (show date.month < 100 by have := date.month_le; omega)
  have year := str2int_twoDigits (show date.year - 2000 < 100 by omega)
  have century : ((date.year - 2000 : Nat) : Int) + 2000 = date.year := by omega
  obtain ⟨first, second, behind⟩ :=
    pairs_cut date.day date.month (digitsText (twoDigits (date.year - 2000)))
      (show dateText date = _ from rfl)
  have third : ((dateText date).drop 4).take 2 = digitsText (twoDigits (date.year - 2000)) := by
    rw [behind, List.take_of_length_le]
    exact le_refl 2
  have six : (dateText date).length = 6 := rfl
  rw [updateDate, if_neg (not_not_intro six), first, second, third, day, month, year, century]
  dsimp only
  rw [if_neg (by omega)]
  exact updateTime_timeText utc exact moment { r with utc := ⟨date.year, date.month, date.day⟩ } date
    rfl time fraction

/-- The date, the timestamp and the callbacks so far. -/
def clock (r : NmeaReader) : UtcDate × Int × List Int :=
  (r.utc, r.fix.timestamp, nmeaTimestamps r.log)

theorem nmeaTimestamps_append (log events : List Event) :
    nmeaTimestamps (log ++ events) = nmeaTimestamps log ++ nmeaTimestamps events :=
  List.filterMap_append

theorem updateLatlong_clock (platform : Platform) (r : NmeaReader)
    (latitude latitudeHemi longitude longitudeHemi : Token) :
    clock (updateLatlong platform r latitude latitudeHemi longitude longitudeHemi).1 = clock r := by
  rw [updateLatlong]
  split
  · rfl
  · dsimp only
    split
    · rfl
    · rfl

theorem updateField_clock (platform : Platform) (r : NmeaReader) (tok : Token) (flag : BitVec 16)
    {store : GpsLocation → ℚ → GpsLocation}
    (keeps : ∀ fix value, (store fix value).timestamp = fix.timestamp) :
    clock (updateField platform r tok flag store).1 = clock r := by
  rw [updateField]
  split
  · rfl
  · simp only [clock, keeps]

theorem parseGga_clock (platform : Platform) (moment : Moment) (r : NmeaReader)
    (tzer : NmeaTokenizer) :
    clock (parseGga platform moment r tzer) = clock (updateTime platform moment r (tzer.get 1)).1 := by
  rw [parseGga, updateAltitude, updateField_clock _ _ _ _ (by intro _ _; rfl), updateLatlong_clock]

theorem parseRmc_clock (platform : Platform) (moment : Moment) (r : NmeaReader)
    {tzer : NmeaTokenizer} (valid : (tzer.get 2).head? = some (ascii 'A')) :
    clock (parseRmc platform moment r tzer) =
      clock (updateDate platform moment r (tzer.get 9) (tzer.get 1)).1 := by
  rw [parseRmc, if_pos valid]
  dsimp only
  rw [updateSpeed, updateField_clock _ _ _ _ (by intro _ _; rfl), updateBearing,
    updateField_clock _ _ _ _ (by intro _ _; rfl), updateLatlong_clock]

theorem reportLocation_clock (moment : Moment) (r : NmeaReader) :
    clock (reportLocation moment r) = clock r := by
  rw [reportLocation]
  split
  · rfl
  · split
    · cases moment.mnlProp with
      | true => simp [clock, NmeaReader.record, nmeaTimestamps]
      | false => simp [clock, NmeaReader.record, nmeaTimestamps]
    · rfl

theorem reportSvStatus_clock (platform : Platform) (moment : Moment) (r : NmeaReader) :
    clock (reportSvStatus platform moment r) = clock r := by
  unfold reportSvStatus reportGnss reportGps
  split
  · split
    · simp [clock, NmeaReader.setGnss, NmeaReader.record, nmeaTimestamps]
    · rfl
  · split
    · split
      · simp [clock, NmeaReader.setGps, NmeaReader.record, nmeaTimestamps]
      · rfl
    · rfl

/-- A line with an id and a time of day is long enough to be parsed. -/
theorem timed_line_parsed {line : Line} {id : String} (three : (bytes id).length = 3)
    (named : startsWith ((line.tokens.get 0).drop 2) id = true) {time : CivilTime}
    {fraction : Fraction} (timed : line.tokens.get 1 = timeText time fraction) : line.Parsed := by
  have name := startsWith_length named
  have both : (line.tokens.get 0).length + (line.tokens.get 1).length ≤ line.sentence.length :=
    two_tokens_length line.sentence
  have long := timeText_length time fraction
  rw [List.length_drop, three] at name
  rw [timed] at both
  exact ⟨by omega, by omega⟩

theorem sentenceKind_gga (gpsMode : Int) {mtok : Token}
    (named : startsWith (mtok.drop 2) "GGA" = true) : sentenceKind gpsMode mtok = .gga := by
  rw [sentenceKind, if_pos named]

theorem sentenceKind_rmc (gpsMode : Int) {mtok : Token}
    (named : startsWith (mtok.drop 2) "RMC" = true) : sentenceKind gpsMode mtok = .rmc := by
  rcases List.isPrefixOf_iff_prefix.mp named with ⟨rest, behind⟩
  match mtok, behind with
  | [], behind => simp [bytes] at behind
  | [_], behind => simp [bytes] at behind
  | first :: second :: tail, behind =>
      rw [List.drop_succ_cons, List.drop_succ_cons, List.drop_zero] at behind
      rw [← behind]
      simp [sentenceKind, startsWith, bytes, ascii]

theorem finish_idle {platform : Platform} {r : NmeaReader} (idle : Idle r) (last : Moment)
    (sentence : Bytes) : Idle (nmeaReaderFinish platform last { r with input := sentence }) := by
  have collected := nmeaReaderFinish_collecting platform last { r with input := sentence }
  exact ⟨(congrArg Prod.fst collected).trans idle.overflow,
    congrArg (fun parts => parts.2.1) collected⟩

/-- The callback gets the timestamp that the sentence leaves. -/
theorem finish_clock {platform : Platform} (last : Moment) (r : NmeaReader) {line : Line}
    (parsed : line.Parsed) :
    ∃ begun, clock begun = clock r ∧
      clock (nmeaReaderFinish platform last { r with input := line.sentence }) =
        ((parseFields platform last begun line.tokens).utc,
          (parseFields platform last begun line.tokens).fix.timestamp,
          nmeaTimestamps (parseFields platform last begun line.tokens).log ++
            [(parseFields platform last begun line.tokens).fix.timestamp]) := by
  let begun : NmeaReader := NmeaReader.record { r with input := line.sentence } (.parse line.sentence)
  have quiet : clock begun = clock r := by
    simp [begun, clock, NmeaReader.record, nmeaTimestamps]
  refine ⟨begun, quiet, ?_⟩
  have long : ¬ line.sentence.length < 9 := not_lt.mpr parsed.1
  have named : ¬ ((nmeaTokenizerInit line.sentence).get 0).length < 5 := not_lt.mpr parsed.2
  rw [nmeaReaderFinish, nmeaReaderParse]
  dsimp only
  rw [if_neg long, if_neg named]
  have reported := (reportSvStatus_clock platform last
    (reportLocation last (parseFields platform last begun line.tokens))).trans
      (reportLocation_clock last (parseFields platform last begun line.tokens))
  simp only [clock, Prod.mk.injEq] at reported
  rcases reported with ⟨utc, timestamp, stamps⟩
  have called (r : NmeaReader) (timestamp : Int) (sentence : Bytes) :
      nmeaTimestamps (r.record (.nmeaCb timestamp sentence)).log =
        nmeaTimestamps r.log ++ [timestamp] := nmeaTimestamps_append _ _
  simp only [clock, called]
  exact congr (congrArg Prod.mk utc) (congr (congrArg Prod.mk timestamp)
    (congr (congrArg HAppend.hAppend stamps) (congrArg (fun t => [t]) timestamp)))

/-- The bytes of a line, whatever the moments at which they come. -/
theorem feed_sentence (platform : Platform) {r : NmeaReader} (idle : Idle r) (line : Line)
    {stream : List (UInt8 × Moment)} (arrives : stream.map Prod.fst = line.sentence) :
    ∃ last, feed platform r stream =
      nmeaReaderFinish platform last { r with input := line.sentence } := by
  rcases List.map_eq_append_iff.mp arrives with ⟨front, back, rfl, text, ended⟩
  rcases List.map_eq_singleton_iff.mp ended with ⟨⟨_, last⟩, rfl, rfl⟩
  have length : front.length = line.text.length := by rw [← text, List.length_map]
  refine ⟨last, ?_⟩
  rw [feed_ended last idle (text ▸ line.plain) (length ▸ line.room), text]
  rfl

def dateOf (date : Date) : UtcDate := ⟨date.year, date.month, date.day⟩

/-- A GGA sentence keeps a known date. -/
theorem gga_fed {platform : Platform} (utc : Utc platform) (exact : ExactDecimals platform.strtod)
    {r : NmeaReader} (idle : Idle r) (epoch : Epoch) {stream : List (UInt8 × Moment)}
    (arrives : stream.map Prod.fst = epoch.gga.sentence) :
    Idle (feed platform r stream) ∧
      (∃ timestamp, nmeaTimestamps (feed platform r stream).log =
        nmeaTimestamps r.log ++ [timestamp]) ∧
      ∀ date : Date, r.utc = dateOf date →
        clock (feed platform r stream) = (dateOf date, timestampOf date epoch.ggaRead,
          nmeaTimestamps r.log ++ [timestampOf date epoch.ggaRead]) := by
  have parsed : epoch.gga.Parsed := timed_line_parsed rfl epoch.gga_id epoch.gga_time
  rcases feed_sentence platform idle epoch.gga arrives with ⟨last, fed⟩
  rcases @finish_clock platform last r _ parsed with ⟨begun, quiet, finished⟩
  have kind := sentenceKind_gga platform.gpsMode epoch.gga_id
  have fields : parseFields platform last begun epoch.gga.tokens =
      parseGga platform last begun epoch.gga.tokens := by simp only [parseFields, kind]
  have updated := parseGga_clock platform last begun epoch.gga.tokens
  have log : (updateTime platform last begun (epoch.gga.tokens.get 1)).1.log = begun.log := by
    rcases updateTime_fixOnly platform last begun (epoch.gga.tokens.get 1) with ⟨_, _, same⟩
    rw [same]
  have before : nmeaTimestamps begun.log = nmeaTimestamps r.log :=
    congrArg (fun parts => parts.2.2) quiet
  rw [fields] at finished
  rw [fed]
  refine ⟨finish_idle idle last epoch.gga.sentence,
    ⟨(parseGga platform last begun epoch.gga.tokens).fix.timestamp, ?_⟩, ?_⟩
  · have stamps : nmeaTimestamps (parseGga platform last begun epoch.gga.tokens).log =
        nmeaTimestamps r.log := by
      rw [← before, ← log]
      exact congrArg (fun parts => parts.2.2) updated
    rw [← stamps]
    exact congrArg (fun parts => parts.2.2) finished
  · intro date same
    have known : begun.utc = dateOf date := (congrArg Prod.fst quiet).trans same
    rw [epoch.gga_time, updateTime_timeText utc exact last begun date known] at updated
    simp only [clock, Prod.mk.injEq] at updated
    rcases updated with ⟨kept, timestamp, stamps⟩
    rw [finished, kept, timestamp, stamps, known, before]
    rfl

theorem rmc_fed {platform : Platform} (utc : Utc platform) (exact : ExactDecimals platform.strtod)
    {r : NmeaReader} (idle : Idle r) (epoch : Epoch) {stream : List (UInt8 × Moment)}
    (arrives : stream.map Prod.fst = epoch.rmc.sentence) :
    Idle (feed platform r stream) ∧
      clock (feed platform r stream) =
        (dateOf epoch.time.date, timestampOf epoch.time.date epoch.rmcRead,
          nmeaTimestamps r.log ++ [timestampOf epoch.time.date epoch.rmcRead]) := by
  have parsed : epoch.rmc.Parsed := timed_line_parsed rfl epoch.rmc_id epoch.rmc_time
  rcases feed_sentence platform idle epoch.rmc arrives with ⟨last, fed⟩
  rcases @finish_clock platform last r _ parsed with ⟨begun, quiet, finished⟩
  have kind := sentenceKind_rmc platform.gpsMode epoch.rmc_id
  have fields : parseFields platform last begun epoch.rmc.tokens =
      parseRmc platform last begun epoch.rmc.tokens := by simp only [parseFields, kind]
  have before : nmeaTimestamps begun.log = nmeaTimestamps r.log :=
    congrArg (fun parts => parts.2.2) quiet
  have updated := parseRmc_clock platform last begun epoch.rmc_valid
  rw [epoch.rmc_time, epoch.rmc_date, updateDate_dateText utc exact last begun epoch.from2000
    epoch.before2100] at updated
  simp only [clock, Prod.mk.injEq] at updated
  rcases updated with ⟨date, timestamp, stamps⟩
  refine ⟨fed ▸ finish_idle idle last epoch.rmc.sentence, ?_⟩
  rw [fed, finished, fields, date, timestamp, stamps, before]
  rfl

/-- The timestamps over epochs that follow a known date. -/
def stampsFrom (date : Date) : List Epoch → List Int
  | [] => []
  | epoch :: rest => timestampOf date epoch.ggaRead ::
      timestampOf epoch.time.date epoch.rmcRead :: stampsFrom epoch.time.date rest

/-- Each GGA sentence gets the date of the epoch before it. -/
theorem feed_epochs {platform : Platform} (utc : Utc platform)
    (exact : ExactDecimals platform.strtod) (epochs : List Epoch) {r : NmeaReader} (idle : Idle r)
    {date : Date} (known : r.utc = dateOf date) {stream : List (UInt8 × Moment)}
    (arrives : stream.map Prod.fst = epochs.flatMap Epoch.bytes) :
    nmeaTimestamps (feed platform r stream).log =
      nmeaTimestamps r.log ++ stampsFrom date epochs := by
  induction epochs generalizing r date stream with
  | nil =>
      rw [List.map_eq_nil_iff.mp arrives, stampsFrom, List.append_nil]
      rfl
  | cons epoch rest ih =>
      rw [List.flatMap_cons, Epoch.bytes, List.append_assoc] at arrives
      rcases List.map_eq_append_iff.mp arrives with ⟨gga, behind, rfl, first, arrives'⟩
      rcases List.map_eq_append_iff.mp arrives' with ⟨rmc, later, rfl, second, arrives''⟩
      rcases gga_fed utc exact idle epoch first with ⟨idle', -, dated⟩
      have stamped := dated date known
      rcases rmc_fed utc exact idle' epoch second with ⟨idle'', stamped'⟩
      have known' := congrArg Prod.fst stamped'
      rw [feed_append, feed_append, ih idle'' known' arrives'']
      have early : nmeaTimestamps (feed platform r gga).log =
          nmeaTimestamps r.log ++ [timestampOf date epoch.ggaRead] :=
        congrArg (fun parts => parts.2.2) stamped
      have late : nmeaTimestamps (feed platform (feed platform r gga) rmc).log =
          nmeaTimestamps (feed platform r gga).log ++
            [timestampOf epoch.time.date epoch.rmcRead] :=
        congrArg (fun parts => parts.2.2) stamped'
      rw [late, early, List.append_assoc, List.append_assoc]
      rfl

theorem timestampOf_le (date date' : Date) (seconds seconds' : Nat) :
    timestampOf date seconds ≤ timestampOf date' seconds' ↔
      date.dayNumber * 86400 + seconds ≤ date'.dayNumber * 86400 + seconds' := by
  rw [timestampOf, timestampOf]
  generalize unixSeconds = start
  omega

theorem secondOfDay_lt (time : CivilTime) : time.secondOfDay < 86400 := by
  have hour := time.hour_lt
  have minute := time.minute_lt
  have second := time.second_lt
  rw [CivilTime.secondOfDay]
  omega

theorem seconds_lt_next {time later : CivilTime} (next : later.date = time.date.next) :
    time.seconds < later.seconds := by
  have inDay := secondOfDay_lt time
  rw [CivilTime.seconds, CivilTime.seconds, next, dayNumber_next]
  omega

theorem fractionValue_range (fraction : Fraction) :
    0 ≤ fractionValue fraction ∧ fractionValue fraction < 1 := by
  cases fraction with
  | none => exact ⟨le_refl 0, one_pos⟩
  | some digits => exact fraction_range digits

/-- A later epoch is not of an earlier day. -/
theorem Before.days {earlier later : Epoch} (before : Before earlier later) :
    earlier.time.date.dayNumber ≤ later.time.date.dayNumber := by
  have first := fractionValue_range earlier.ggaFraction
  have second := fractionValue_range later.ggaFraction
  rw [Before, Epoch.instant, Epoch.instant] at before
  have seconds : (earlier.time.seconds : ℚ) < (later.time.seconds + 1 : Nat) := by
    push_cast
    linarith [first.1, second.2]
  have whole : earlier.time.seconds < later.time.seconds + 1 := by exact_mod_cast seconds
  have inDay := secondOfDay_lt earlier.time
  have inDay' := secondOfDay_lt later.time
  rw [CivilTime.seconds, CivilTime.seconds] at whole
  omega

theorem Before.of_seconds {earlier later : Epoch}
    (order : earlier.time.seconds < later.time.seconds) : Before earlier later := by
  have first := fractionValue_range earlier.ggaFraction
  have second := fractionValue_range later.ggaFraction
  have seconds : (earlier.time.seconds : ℚ) + 1 ≤ later.time.seconds := by exact_mod_cast order
  rw [Before, Epoch.instant, Epoch.instant]
  linarith [first.2, second.1]

/-- The two timestamps of the later epoch follow the earlier one exactly if it is timely. -/
theorem timely_iff {earlier later : Epoch} (before : Before earlier later) :
    (timestampOf earlier.time.date earlier.rmcRead ≤ timestampOf earlier.time.date later.ggaRead ∧
      timestampOf earlier.time.date later.ggaRead ≤ timestampOf later.time.date later.rmcRead) ↔
      Timely earlier later := by
  have days := before.days
  have inDay : later.ggaRead < 86400 := secondOfDay_lt _
  rw [timestampOf_le, timestampOf_le, Timely]
  omega

theorem readTime_short {time : CivilTime} {fraction : Fraction}
    (short : (secondsText time.second fraction).length < 16) : readTime time fraction = time := by
  rw [readTime]
  simp only [if_neg (not_le.mpr short)]

/-- Where all seconds are read, only the time of day must not go back. -/
theorem timely_short {earlier later : Epoch}
    (before : (secondsText earlier.time.second earlier.rmcFraction).length < 16)
    (gga : (secondsText later.time.second later.ggaFraction).length < 16)
    (rmc : (secondsText later.time.second later.rmcFraction).length < 16) :
    Timely earlier later ↔ earlier.time.secondOfDay ≤ later.time.secondOfDay := by
  rw [Timely, Epoch.rmcRead, Epoch.ggaRead, Epoch.rmcRead, readTime_short before, readTime_short gga,
    readTime_short rmc]
  exact and_iff_left (fun _ => le_refl _)

theorem stampsFrom_chain {first : Epoch} {rest : List Epoch}
    (increasing : (first :: rest).IsChain Before) :
    (timestampOf first.time.date first.rmcRead :: stampsFrom first.time.date rest).IsChain (· ≤ ·) ↔
      (first :: rest).IsChain Timely := by
  induction rest generalizing first with
  | nil => exact iff_of_true (List.isChain_singleton _) (List.isChain_singleton _)
  | cons second rest ih =>
      rw [List.isChain_cons_cons] at increasing
      rw [stampsFrom, List.isChain_cons_cons, List.isChain_cons_cons, List.isChain_cons_cons,
        ih increasing.2, ← timely_iff increasing.1, and_assoc]

/-- The timestamps from the RMC sentence of the first epoch on. -/
theorem feed_first_epoch {platform : Platform} (utc : Utc platform)
    (exact : ExactDecimals platform.strtod) {r : NmeaReader} (idle : Idle r) (first : Epoch)
    (rest : List Epoch) {stream : List (UInt8 × Moment)}
    (arrives : stream.map Prod.fst = (first :: rest).flatMap Epoch.bytes) :
    (nmeaTimestamps (feed platform r stream).log).drop ((nmeaTimestamps r.log).length + 1) =
      timestampOf first.time.date first.rmcRead :: stampsFrom first.time.date rest := by
  rw [List.flatMap_cons, Epoch.bytes, List.append_assoc] at arrives
  rcases List.map_eq_append_iff.mp arrives with ⟨gga, behind, rfl, text, arrives'⟩
  rcases List.map_eq_append_iff.mp arrives' with ⟨rmc, later, rfl, text', arrives''⟩
  rcases gga_fed utc exact idle first text with ⟨idle', ⟨undated, early⟩, -⟩
  rcases rmc_fed utc exact idle' first text' with ⟨idle'', stamped⟩
  have known := congrArg Prod.fst stamped
  have late : nmeaTimestamps (feed platform (feed platform r gga) rmc).log =
      nmeaTimestamps (feed platform r gga).log ++ [timestampOf first.time.date first.rmcRead] :=
    congrArg (fun parts => parts.2.2) stamped
  have length : (nmeaTimestamps r.log ++ [undated]).length = (nmeaTimestamps r.log).length + 1 := by
    rw [List.length_append, List.length_singleton]
  rw [feed_append, feed_append, feed_epochs utc exact rest idle'' known arrives'', late, early,
    List.append_assoc, List.drop_left' length]
  rfl

/-- From the RMC sentence of the first epoch on, the timestamps never decrease exactly if every
epoch is timely against the one before it. -/
theorem timestamps_monotone_iff {platform : Platform} (utc : Utc platform)
    (exact : ExactDecimals platform.strtod) {r : NmeaReader} (idle : Idle r) {epochs : List Epoch}
    (increasing : epochs.IsChain Before) {stream : List (UInt8 × Moment)}
    (arrives : stream.map Prod.fst = epochs.flatMap Epoch.bytes) :
    ((nmeaTimestamps (feed platform r stream).log).drop
        ((nmeaTimestamps r.log).length + 1)).Pairwise (· ≤ ·) ↔
      epochs.IsChain Timely := by
  cases epochs with
  | nil =>
      have nothing : (nmeaTimestamps (feed platform r stream).log).drop
          ((nmeaTimestamps r.log).length + 1) = [] := by
        rw [List.map_eq_nil_iff.mp arrives]
        exact List.drop_eq_nil_of_le (Nat.le_succ _)
      rw [nothing]
      exact iff_of_true List.Pairwise.nil List.IsChain.nil
  | cons first rest =>
      rw [feed_first_epoch utc exact idle first rest arrives, ← stampsFrom_chain increasing,
        List.isChain_iff_pairwise]

/-- In UTC, with decimal numbers. -/
def utcPlatform : Platform := { gnssPlatform with
  strtod := leadingDecimal
  mktime := fun tm => GpsTime.mktime
    ⟨tm.date.year - 1900, tm.date.month - 1, tm.date.day, tm.hour, tm.min, tm.sec, -1⟩ }

theorem utcPlatform_utc : Utc utcPlatform where
  gmtoff _ := rfl
  mktime time := by
    rw [unixSeconds, Nat.cast_mul]
    exact GpsTime.mktime_tmOf time

def july (day : Nat) (positive : 1 ≤ day) (inside : day ≤ 31) : Date :=
  ⟨2016, 7, day, by decide, by decide, positive, inside⟩

def line (text : String) (plain : newline ∉ bytes text) (room : (bytes text).length < nmeaMaxSize) :
    Line := ⟨bytes text, plain, room⟩

def noon : Epoch where
  time := (july 2 (by decide) (by decide)).at 43200 (by decide)
  gga := line "$GPGGA,120000.00,,,,,0" (by decide) (by decide)
  ggaFraction := some (twoDigits 0)
  rmc := line "$GPRMC,120000.00,A,,,,,,,020716" (by decide) (by decide)
  rmcFraction := some (twoDigits 0)
  from2000 := by decide
  before2100 := by decide
  gga_id := by decide +kernel
  gga_time := by decide +kernel
  rmc_id := by decide +kernel
  rmc_time := by decide +kernel
  rmc_valid := by decide +kernel
  rmc_date := by decide +kernel
  same := rfl

def lastSecond : Epoch where
  time := (july 2 (by decide) (by decide)).at 86399 (by decide)
  gga := line "$GPGGA,235959.00,,,,,0" (by decide) (by decide)
  ggaFraction := some (twoDigits 0)
  rmc := line "$GPRMC,235959.00,A,,,,,,,020716" (by decide) (by decide)
  rmcFraction := some (twoDigits 0)
  from2000 := by decide
  before2100 := by decide
  gga_id := by decide +kernel
  gga_time := by decide +kernel
  rmc_id := by decide +kernel
  rmc_time := by decide +kernel
  rmc_valid := by decide +kernel
  rmc_date := by decide +kernel
  same := rfl

theorem midnight_inside : 0 < 86400 := by decide

def midnight : Epoch where
  time := (july 3 (by decide) (by decide)).at 0 midnight_inside
  gga := line "$GPGGA,000000.00,,,,,0" (by decide) (by decide)
  ggaFraction := some (twoDigits 0)
  rmc := line "$GPRMC,000000.00,A,,,,,,,030716" (by decide) (by decide)
  rmcFraction := some (twoDigits 0)
  from2000 := by decide
  before2100 := by decide
  gga_id := by decide +kernel
  gga_time := by decide +kernel
  rmc_id := by decide +kernel
  rmc_time := by decide +kernel
  rmc_valid := by decide +kernel
  rmc_date := by decide +kernel
  same := rfl

def stream (epochs : List Epoch) : List (UInt8 × Moment) :=
  (epochs.flatMap Epoch.bytes).map (fun c => (c, epochMoment))

theorem stream_arrives (epochs : List Epoch) :
    (stream epochs).map Prod.fst = epochs.flatMap Epoch.bytes := by
  rw [stream, List.map_map]
  exact List.map_id _

theorem init_idle : Idle (nmeaReaderInit fun _ => 0) := ⟨rfl, rfl⟩

theorem noon_before_lastSecond : Before noon lastSecond := by
  apply Before.of_seconds
  have same : lastSecond.time.date = noon.time.date := rfl
  rw [CivilTime.seconds, CivilTime.seconds, same]
  exact Nat.add_lt_add_left (by decide) _

theorem lastSecond_before_midnight : Before lastSecond midnight :=
  Before.of_seconds (seconds_lt_next rfl)

theorem evening_monotone :
    ((nmeaTimestamps (feed utcPlatform (nmeaReaderInit fun _ => 0) (stream [noon, lastSecond])).log).drop
      ((nmeaTimestamps (nmeaReaderInit fun _ => 0).log).length + 1)).Pairwise (· ≤ ·) :=
  (timestamps_monotone_iff utcPlatform_utc leadingDecimal_exact init_idle
    (List.isChain_pair.mpr noon_before_lastSecond) (stream_arrives _)).mpr
      (List.isChain_pair.mpr ⟨by decide, fun _ => by decide⟩)

/-- The GGA sentence of midnight still has the date of the day before. -/
theorem midnight_goes_back :
    ¬ ∀ platform : Platform, Utc platform → ExactDecimals platform.strtod → ∀ r : NmeaReader, Idle r →
      ∀ epochs : List Epoch, epochs.IsChain Before → ∀ stream : List (UInt8 × Moment),
        stream.map Prod.fst = epochs.flatMap Epoch.bytes →
          ((nmeaTimestamps (feed platform r stream).log).drop
            ((nmeaTimestamps r.log).length + 1)).Pairwise (· ≤ ·) := by
  intro monotone
  have asserted := monotone utcPlatform utcPlatform_utc leadingDecimal_exact _ init_idle
    [lastSecond, midnight] (List.isChain_pair.mpr lastSecond_before_midnight) _ (stream_arrives _)
  rw [feed_first_epoch utcPlatform_utc leadingDecimal_exact init_idle lastSecond [midnight]
    (stream_arrives _), stampsFrom, List.pairwise_cons] at asserted
  have order := asserted.1 _ List.mem_cons_self
  rw [timestampOf_le, Nat.add_le_add_iff_left] at order
  exact absurd order (by decide)

end X5MaxDevice.Gps.Timestamps
