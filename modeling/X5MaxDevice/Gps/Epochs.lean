import X5MaxDevice.Gps.Framing
import X5MaxDevice.Gps.SatelliteList
import X5MaxDevice.Gps.SatelliteReport

/-! Whole lines delivered to the NMEA reader in one read chunk: what each does to the used
satellites and to the satellite lists, and where the report comes. -/

namespace X5MaxDevice.Gps.Epochs

open X5MaxDevice.Gps.Framing
open X5MaxDevice.Gps.Reader
open X5MaxDevice.Gps.SatelliteList
open X5MaxDevice.Gps.SatelliteReport
open X5MaxDevice.Gps.Tokenizer

/-- The text of a sentence, short enough for the buffer of the reader. -/
structure Line where
  text : Bytes
  plain : newline ∉ text
  room : text.length < nmeaMaxSize
  deriving DecidableEq

def Line.sentence (line : Line) : Bytes := line.text ++ [newline]

def Line.tokens (line : Line) : NmeaTokenizer := nmeaTokenizerInit line.sentence

def Line.bds (line : Line) : Bool := startsWith (line.tokens.get 0) "BD"

/-- A GSA sentence with a 2D or 3D fix. -/
def Line.Fixed (line : Line) : Prop :=
  str2int (line.tokens.get 2) = 2 ∨ str2int (line.tokens.get 2) = 3

instance (line : Line) : Decidable line.Fixed := inferInstanceAs (Decidable (_ ∨ _))

/-- The reader takes the line for a sentence of the kind. -/
def Line.Reads (line : Line) (gpsMode : Int) (kind : Sentence) : Prop :=
  9 ≤ line.sentence.length ∧ sentenceKind gpsMode (line.tokens.get 0) = kind

instance (line : Line) (gpsMode : Int) (kind : Sentence) : Decidable (line.Reads gpsMode kind) :=
  inferInstanceAs (Decidable (_ ∧ _))

/-- `sv_used_in_fix` after a line. -/
def markGsa (platform : Platform) (used : Int → Int) (line : Line) : Int → Int :=
  if line.Reads platform.gpsMode .gsaGnss ∧ line.Fixed then
    gsaUsedInFix line.bds (gsaFields line.tokens) used
  else used

/-- `used_in_fix_mask` after a line. -/
def maskGsa (platform : Platform) (mask : BitVec 32) (line : Line) : BitVec 32 :=
  if line.Reads platform.gpsMode .gsaGps then
    if line.Fixed then gsaMask (gsaFields line.tokens) 0 else 0
  else mask

def listGnss (platform : Platform) (used : Int → Int) (c : Counting GnssSvInfo) (line : Line) :
    Counting GnssSvInfo :=
  if line.Reads platform.gpsMode .gsvGnss then
    parseGsv (updateSvStatusGnss platform used line.bds) line.tokens c
  else c

def listGps (platform : Platform) (c : Counting GpsSvInfo) (line : Line) : Counting GpsSvInfo :=
  if line.Reads platform.gpsMode .gsvGps then
    parseGsv (updateSvStatusGps platform line.bds) line.tokens c
  else c

def svReport : Event → Prop
  | .gnssSvStatusCb _ => True
  | .svStatusCb _ _ => True
  | _ => False

/-- The reader has taken the line in, and nothing is reported yet. -/
structure Absorbed (platform : Platform) (r : NmeaReader) (line : Line) (r' : NmeaReader) :
    Prop where
  overflow : r'.overflow = r.overflow
  used : r'.svUsedInFix = markGsa platform r.svUsedInFix line
  mask : r'.usedInFixMask = maskGsa platform r.usedInFixMask line
  gnss : platform.gpsMode = 0 → r'.gnss = listGnss platform r.svUsedInFix r.gnss line
  gps : platform.gpsMode = 1 → r'.gps = listGps platform r.gps line
  log : ∃ events, r'.log = r.log ++ events ∧ ∀ event ∈ events, ¬ svReport event

theorem logs_nothing (log : List Event) (P : Event → Prop) :
    ∃ events, log = log ++ events ∧ ∀ event ∈ events, P event :=
  ⟨[], (List.append_nil log).symm, fun _ member => absurd member List.not_mem_nil⟩

theorem markGsa_other {platform : Platform} (used : Int → Int) {line : Line}
    (other : ¬ line.Reads platform.gpsMode .gsaGnss) : markGsa platform used line = used :=
  if_neg (fun reads => other reads.1)

theorem maskGsa_other {platform : Platform} (mask : BitVec 32) {line : Line}
    (other : ¬ line.Reads platform.gpsMode .gsaGps) : maskGsa platform mask line = mask :=
  if_neg other

theorem listGnss_other {platform : Platform} (used : Int → Int) (c : Counting GnssSvInfo)
    {line : Line} (other : ¬ line.Reads platform.gpsMode .gsvGnss) :
    listGnss platform used c line = c :=
  if_neg other

theorem listGps_other {platform : Platform} (c : Counting GpsSvInfo) {line : Line}
    (other : ¬ line.Reads platform.gpsMode .gsvGps) : listGps platform c line = c :=
  if_neg other

/-- A line that is none of the GSA and GSV sentences of the mode. -/
theorem other_absorbed {platform : Platform} {r r' : NmeaReader} {line : Line}
    (other : ∀ kind ∈ [Sentence.gsaGnss, .gsaGps, .gsvGnss, .gsvGps],
      ¬ line.Reads platform.gpsMode kind)
    (fix : FixOnly r r') : Absorbed platform r line r' := by
  rcases fix with ⟨utc, fix, rfl⟩
  refine ⟨rfl, ?_, ?_, fun _ => ?_, fun _ => ?_, logs_nothing _ _⟩
  · rw [markGsa_other _ (other .gsaGnss (by simp))]
  · rw [maskGsa_other _ (other .gsaGps (by simp))]
  · rw [listGnss_other _ _ (other .gsvGnss (by simp))]
    rfl
  · rw [listGps_other _ (other .gsvGps (by simp))]
    rfl

theorem Line.Reads.only {line : Line} {gpsMode : Int} {kind : Sentence}
    (reads : line.Reads gpsMode kind) {other : Sentence} (different : other ≠ kind) :
    ¬ line.Reads gpsMode other :=
  fun reads' => different (reads'.2.symm.trans reads.2)

/-- A line of a kind that is neither a GSA nor a GSV sentence. -/
theorem Line.Reads.absorbed {platform : Platform} {r r' : NmeaReader} {line : Line}
    {kind : Sentence} (reads : line.Reads platform.gpsMode kind)
    (other : kind ∉ [Sentence.gsaGnss, .gsaGps, .gsvGnss, .gsvGps]) (fix : FixOnly r r') :
    Absorbed platform r line r' := by
  apply other_absorbed _ fix
  intro listed member
  apply reads.only
  rintro rfl
  exact other member

theorem locFixed_iff (r : NmeaReader) (line : Line) :
    NmeaReader.locFixed { r with fixMode := str2int (line.tokens.get 2) } = true ↔ line.Fixed := by
  rw [NmeaReader.locFixed, Bool.or_eq_true, decide_eq_true_iff, decide_eq_true_iff, Line.Fixed]

theorem parseGsaGnss_absorbed {platform : Platform} (r : NmeaReader) {line : Line}
    (reads : line.Reads platform.gpsMode .gsaGnss) :
    Absorbed platform r line (parseGsaGnss r line.bds line.tokens) := by
  have used : ∃ mode, parseGsaGnss r line.bds line.tokens =
      { r with fixMode := mode, svUsedInFix := markGsa platform r.svUsedInFix line } := by
    simp only [parseGsaGnss]
    split
    case isTrue fixed =>
      have marks : line.Reads platform.gpsMode .gsaGnss ∧ line.Fixed :=
        ⟨reads, (locFixed_iff r line).mp fixed⟩
      exact ⟨_, by rw [markGsa, if_pos marks]⟩
    case isFalse unfixed =>
      have keeps : ¬ (line.Reads platform.gpsMode .gsaGnss ∧ line.Fixed) :=
        fun marks => unfixed ((locFixed_iff r line).mpr marks.2)
      exact ⟨_, by rw [markGsa, if_neg keeps]⟩
  rcases used with ⟨mode, parsed⟩
  rw [parsed]
  refine ⟨rfl, rfl, ?_, fun _ => ?_, fun _ => ?_, logs_nothing _ _⟩
  · rw [maskGsa_other _ (reads.only nofun)]
  · rw [listGnss_other _ _ (reads.only nofun)]
    rfl
  · rw [listGps_other _ (reads.only nofun)]
    rfl

theorem parseGsaGps_absorbed {platform : Platform} (r : NmeaReader) {line : Line}
    (reads : line.Reads platform.gpsMode .gsaGps) :
    Absorbed platform r line (parseGsaGps r line.tokens) := by
  have masked : ∃ mode, parseGsaGps r line.tokens =
      { r with fixMode := mode, usedInFixMask := maskGsa platform r.usedInFixMask line } := by
    rw [maskGsa, if_pos reads]
    simp only [parseGsaGps]
    split
    case isTrue fixed => exact ⟨_, by rw [if_pos ((locFixed_iff r line).mp fixed)]⟩
    case isFalse unfixed =>
      exact ⟨_, by rw [if_neg (fun fixed => unfixed ((locFixed_iff r line).mpr fixed))]⟩
  rcases masked with ⟨mode, parsed⟩
  rw [parsed]
  refine ⟨rfl, ?_, rfl, fun _ => ?_, fun _ => ?_, logs_nothing _ _⟩
  · rw [markGsa_other _ (reads.only nofun)]
  · rw [listGnss_other _ _ (reads.only nofun)]
    rfl
  · rw [listGps_other _ (reads.only nofun)]
    rfl

theorem parseGsvGnss_absorbed {platform : Platform} (r : NmeaReader) {line : Line}
    (reads : line.Reads platform.gpsMode .gsvGnss) :
    Absorbed platform r line (parseGsvGnss platform r line.bds line.tokens) := by
  have mode : platform.gpsMode = 0 := sentenceKind_mode.1 reads.2
  refine ⟨rfl, ?_, ?_, fun _ => ?_, fun other => ?_, logs_nothing _ _⟩
  · rw [markGsa_other _ (reads.only nofun)]
    rfl
  · rw [maskGsa_other _ (reads.only nofun)]
    rfl
  · rw [listGnss, if_pos reads]
    rfl
  · omega

theorem parseGsvGps_absorbed {platform : Platform} (r : NmeaReader) {line : Line}
    (reads : line.Reads platform.gpsMode .gsvGps) :
    Absorbed platform r line (parseGsvGps platform r line.bds line.tokens) := by
  have mode : platform.gpsMode = 1 := sentenceKind_mode.2 reads.2
  refine ⟨rfl, ?_, ?_, fun other => ?_, fun _ => ?_, logs_nothing _ _⟩
  · rw [markGsa_other _ (reads.only nofun)]
    rfl
  · rw [maskGsa_other _ (reads.only nofun)]
    rfl
  · omega
  · rw [listGps, if_pos reads]
    rfl

theorem parseFields_absorbed (platform : Platform) (moment : Moment) (r : NmeaReader) {line : Line}
    (long : 9 ≤ line.sentence.length) :
    Absorbed platform r line (parseFields platform moment r line.tokens) := by
  unfold parseFields
  dsimp only
  cases kind : sentenceKind platform.gpsMode (line.tokens.get 0) with
  | gsaGnss => exact parseGsaGnss_absorbed r ⟨long, kind⟩
  | gsaGps => exact parseGsaGps_absorbed r ⟨long, kind⟩
  | gsvGnss => exact parseGsvGnss_absorbed r ⟨long, kind⟩
  | gsvGps => exact parseGsvGps_absorbed r ⟨long, kind⟩
  | gga =>
      have reads : line.Reads platform.gpsMode .gga := ⟨long, kind⟩
      exact reads.absorbed (by simp) (parseGga_fixOnly platform moment r line.tokens)
  | rmc =>
      have reads : line.Reads platform.gpsMode .rmc := ⟨long, kind⟩
      exact reads.absorbed (by simp) (parseRmc_fixOnly platform moment r line.tokens)
  | accuracy =>
      have reads : line.Reads platform.gpsMode .accuracy := ⟨long, kind⟩
      apply reads.absorbed (by simp)
      dsimp only
      split
      · exact updateField_fixOnly platform r _ _ _
      · exact FixOnly.refl r
  | unknown =>
      have reads : line.Reads platform.gpsMode .unknown := ⟨long, kind⟩
      exact reads.absorbed (by simp) (FixOnly.refl r)

/-- The line is long enough for a sentence with an id. -/
def Line.Parsed (line : Line) : Prop :=
  9 ≤ line.sentence.length ∧ 5 ≤ (line.tokens.get 0).length

instance (line : Line) : Decidable line.Parsed := inferInstanceAs (Decidable (_ ∧ _))

theorem startsWith_length {tok : Token} {text : String} (starts : startsWith tok text = true) :
    (bytes text).length ≤ tok.length :=
  (List.isPrefixOf_iff_prefix.mp starts).length_le

/-- A sentence of a known kind has five characters of id. -/
theorem sentenceKind_length {gpsMode : Int} {mtok : Token}
    (known : sentenceKind gpsMode mtok ≠ .unknown) : 5 ≤ mtok.length := by
  by_contra short
  have whole (text : String) (long : 5 ≤ (bytes text).length) :
      ¬ startsWith mtok text = true :=
    fun starts => short (long.trans (startsWith_length starts))
  have behind (text : String) (long : 3 ≤ (bytes text).length) :
      ¬ startsWith (mtok.drop 2) text = true := by
    intro starts
    have rest := long.trans (startsWith_length starts)
    rw [List.length_drop] at rest
    omega
  apply known
  rw [sentenceKind]
  simp [whole "GPGSA" (by decide), whole "BDGSA" (by decide), whole "GLGSA" (by decide),
    whole "GPGSV" (by decide), whole "GLGSV" (by decide), behind "GGA" (by decide),
    behind "RMC" (by decide), behind "GSV" (by decide), behind "ACCURACY" (by decide)]

/-- A line that is not parsed is none of the sentences. -/
theorem unparsed_absorbed {platform : Platform} {r r' : NmeaReader} {line : Line}
    (unparsed : ¬ line.Parsed) (fix : FixOnly r r') : Absorbed platform r line r' := by
  apply other_absorbed _ fix
  intro kind member reads
  have known : sentenceKind platform.gpsMode (line.tokens.get 0) ≠ .unknown := by
    rw [reads.2]
    rintro rfl
    simp at member
  exact unparsed ⟨reads.1, sentenceKind_length known⟩

theorem Absorbed.of_parse {platform : Platform} {r r' : NmeaReader} {line : Line} {input : Bytes}
    (absorbed : Absorbed platform (NmeaReader.record { r with input := input } (.parse input)) line r') :
    Absorbed platform r line r' := by
  rcases absorbed.log with ⟨events, log, silent⟩
  refine ⟨absorbed.overflow, absorbed.used, absorbed.mask, absorbed.gnss, absorbed.gps,
    .parse input :: events, ?_, ?_⟩
  · rw [log, NmeaReader.record, List.append_assoc]
    rfl
  · intro event member
    rcases List.mem_cons.mp member with rfl | later
    · exact id
    · exact silent event later

theorem Absorbed.located {platform : Platform} {r r' : NmeaReader} {line : Line}
    (absorbed : Absorbed platform r line r') (moment : Moment) :
    Absorbed platform r line (reportLocation moment r') := by
  rcases absorbed.log with ⟨events, log, silent⟩
  rcases reportLocation_cases moment r' with ⟨fix, reports, located, locations⟩
  rw [located]
  refine ⟨absorbed.overflow, absorbed.used, absorbed.mask, absorbed.gnss, absorbed.gps,
    events ++ reports, ?_, ?_⟩
  · rw [log, List.append_assoc]
  · intro event member
    rcases List.mem_append.mp member with earlier | report
    · exact silent event earlier
    · have location := locations event report
      intro sv
      cases event <;> trivial

/-- What is left to do once a line is taken in: the report, the raw sentence, the next line. -/
def complete (platform : Platform) (last : Moment) (line : Line) (r : NmeaReader) : NmeaReader :=
  let reported := if line.Parsed then reportSvStatus platform last r else r
  { reported.record (.nmeaCb reported.fix.timestamp reported.input) with input := [] }

/-- A line delivered between two sentences is taken in and completed. -/
theorem feed_absorbed (platform : Platform) {r : NmeaReader} (idle : Idle r) (line : Line)
    (moment last : Moment) :
    ∃ r', Absorbed platform r line r' ∧
      feed platform r (unended moment line.text ++ [(newline, last)]) =
        complete platform last line r' := by
  have fed : feed platform r (unended moment line.text ++ [(newline, last)]) =
      nmeaReaderFinish platform last { r with input := line.sentence } :=
    feed_line moment last idle line.plain line.room
  let begun : NmeaReader := NmeaReader.record { r with input := line.sentence } (.parse line.sentence)
  rw [fed, nmeaReaderFinish, nmeaReaderParse]
  dsimp only
  by_cases long : line.sentence.length < 9
  · have unparsed : ¬ line.Parsed := fun parsed => absurd parsed.1 (not_le.mpr long)
    refine ⟨begun, ?_, ?_⟩
    · exact (unparsed_absorbed unparsed (FixOnly.refl begun)).of_parse
    · rw [if_pos long, complete, if_neg unparsed]
  · rw [if_neg long]
    by_cases short : (line.tokens.get 0).length < 5
    · have unparsed : ¬ line.Parsed := fun parsed => absurd parsed.2 (not_le.mpr short)
      refine ⟨begun, ?_, ?_⟩
      · exact (unparsed_absorbed unparsed (FixOnly.refl begun)).of_parse
      · rw [complete, if_neg unparsed]
        simp only [Line.tokens] at short
        rw [if_pos short]
    · have parsed : line.Parsed := ⟨not_lt.mp long, not_lt.mp short⟩
      refine ⟨reportLocation last (parseFields platform last begun line.tokens), ?_, ?_⟩
      · exact ((parseFields_absorbed platform last begun parsed.1).located last).of_parse
      · rw [complete, if_pos parsed]
        simp only [Line.tokens] at short ⊢
        rw [if_neg short]

theorem complete_idle {platform : Platform} {r r' : NmeaReader} {line : Line} (last : Moment)
    (idle : Idle r) (absorbed : Absorbed platform r line r') :
    Idle (complete platform last line r') := by
  have overflow : (reportSvStatus platform last r').overflow = r'.overflow := by
    have collected := reportSvStatus_collecting platform last r'
    exact congrArg Prod.fst collected
  refine ⟨?_, rfl⟩
  rw [complete]
  dsimp only
  split
  · exact overflow.trans (absorbed.overflow.trans idle.overflow)
  · exact absorbed.overflow.trans idle.overflow

/-- Before the end of the chunk nothing is reported. -/
theorem complete_unended {platform : Platform} {r r' : NmeaReader} {line : Line} {moment : Moment}
    (unended : moment.gpsNmeaEndTag = false) (absorbed : Absorbed platform r line r') :
    Absorbed platform r line (complete platform moment line r') := by
  have unreported : reportSvStatus platform moment r' = r' := by
    rw [reportSvStatus]
    split
    · exact reportGnss_unended unended
    · rw [reportGps, unended]
      simp
  rcases absorbed.log with ⟨events, log, silent⟩
  have completed : complete platform moment line r' =
      { r'.record (.nmeaCb r'.fix.timestamp r'.input) with input := [] } := by
    rw [complete, unreported, ite_self]
  rw [completed]
  refine ⟨absorbed.overflow, absorbed.used, absorbed.mask, absorbed.gnss, absorbed.gps,
    events ++ [.nmeaCb r'.fix.timestamp r'.input], ?_, ?_⟩
  · rw [NmeaReader.record, log, List.append_assoc]
  · intro event member
    rcases List.mem_append.mp member with earlier | raw
    · exact silent event earlier
    · cases List.mem_singleton.mp raw
      exact id

def Line.IsGsa (line : Line) : Prop :=
  9 ≤ line.sentence.length ∧ startsWith ((line.tokens.get 0).drop 2) "GSA" = true

def Line.IsGsv (line : Line) : Prop :=
  9 ≤ line.sentence.length ∧ startsWith ((line.tokens.get 0).drop 2) "GSV" = true

instance (line : Line) : Decidable line.IsGsa := inferInstanceAs (Decidable (_ ∧ _))

instance (line : Line) : Decidable line.IsGsv := inferInstanceAs (Decidable (_ ∧ _))

/-- Lines of which the GSA sentences, of whatever talker, come before the GSV sentences. -/
structure Epoch where
  lines : List Line
  ordered : lines.Pairwise (fun earlier later => earlier.IsGsv → ¬ later.IsGsa)
  deriving DecidableEq

def bytesOf (lines : List Line) : Bytes := (lines.map Line.sentence).flatten

def Epoch.bytes (epoch : Epoch) : Bytes := bytesOf epoch.lines

/-- A line in the middle of the chunk. -/
def absorb (platform : Platform) (moment : Moment) (r : NmeaReader) (line : Line) : NmeaReader :=
  feed platform r (unended moment line.sentence)

theorem absorb_absorbed (platform : Platform) (moment : Moment) {r : NmeaReader} (idle : Idle r)
    (line : Line) :
    Idle (absorb platform moment r line) ∧
      Absorbed platform r line (absorb platform moment r line) := by
  have split : unended moment line.sentence = unended moment line.text ++
      [(newline, { moment with gpsNmeaEndTag := false })] := by
    rw [Line.sentence, unended, List.map_append]
    rfl
  rcases feed_absorbed platform idle line moment { moment with gpsNmeaEndTag := false } with
    ⟨r', absorbed, fed⟩
  rw [absorb, split, fed]
  exact ⟨complete_idle _ idle absorbed, complete_unended rfl absorbed⟩

/-- The rule for a chunk of lines: what every line keeps holds before the report. -/
theorem feed_chunk {platform : Platform} {moment : Moment} {P : List Line → NmeaReader → Prop}
    (kept : ∀ line rest r r', P (line :: rest) r → Absorbed platform r line r' →
      (rest ≠ [] → r' = absorb platform moment r line) → P rest r')
    {lines : List Line} (present : lines ≠ []) {r : NmeaReader} (idle : Idle r) (start : P lines r) :
    ∃ line r', P [] r' ∧ r'.overflow = false ∧
      (∃ events, r'.log = r.log ++ events ∧ ∀ event ∈ events, ¬ svReport event) ∧
      feed platform r (chunk moment (bytesOf lines)) =
        complete platform { moment with gpsNmeaEndTag := true } line r' := by
  induction lines generalizing r with
  | nil => exact absurd rfl present
  | cons line lines ih =>
      cases lines with
      | nil =>
          rcases feed_absorbed platform idle line moment { moment with gpsNmeaEndTag := true } with
            ⟨r', absorbed, fed⟩
          have last : chunk moment (bytesOf [line]) = unended moment line.text ++
              [(newline, { moment with gpsNmeaEndTag := true })] := by
            rw [bytesOf, List.map_singleton, List.flatten_singleton, Line.sentence,
              chunk_append _ _ _ (List.cons_ne_nil _ _)]
            rfl
          rw [last]
          exact ⟨line, r', kept line [] r r' start absorbed (fun some => absurd rfl some),
            absorbed.overflow.trans idle.overflow, absorbed.log, fed⟩
      | cons next rest =>
          rcases absorb_absorbed platform moment idle line with ⟨idle', absorbed⟩
          have first := kept line (next :: rest) r _ start absorbed (fun _ => rfl)
          rcases ih (List.cons_ne_nil next rest) idle' first with
            ⟨last, r', holds, overflow, ⟨later, log', silent'⟩, fed⟩
          rcases absorbed.log with ⟨events, log, silent⟩
          have split : chunk moment (bytesOf (line :: next :: rest)) =
              unended moment line.sentence ++ chunk moment (bytesOf (next :: rest)) := by
            have more : bytesOf (next :: rest) ≠ [] := by simp [bytesOf, Line.sentence]
            rw [← chunk_append _ _ _ more]
            rfl
          refine ⟨last, r', holds, overflow, ⟨events ++ later, ?_, ?_⟩, ?_⟩
          · rw [log', log, List.append_assoc]
          · intro event member
            exact (List.mem_append.mp member).elim (silent event) (silent' event)
          · rw [split, feed_append]
            exact fed

end X5MaxDevice.Gps.Epochs
