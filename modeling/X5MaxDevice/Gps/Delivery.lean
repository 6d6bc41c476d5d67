import X5MaxDevice.Gps.Reader

/-! NMEA data on `gps_fd`: the reads of the HAL thread, the decimation of reports, and what
the splitting of the stream into reads can change. -/

namespace X5MaxDevice.Gps.Delivery

open X5MaxDevice.Gps.Reader
open X5MaxDevice.Gps.Tokenizer

def buffSize : Nat := 2048

/-- The end tags of a read: only its last byte has it. -/
def endTags : List (UInt8 × Moment) → List Bool
  | [] => []
  | [_] => [true]
  | _ :: rest => false :: endTags rest

/-- The bytes of one `read`, each with its moment. -/
structure Read where
  stream : List (UInt8 × Moment)
  nonempty : stream ≠ []
  fits : stream.length ≤ buffSize
  tagged : stream.map (fun next => next.2.gpsNmeaEndTag) = endTags stream

def Read.bytes (read : Read) : Bytes := read.stream.map Prod.fst

theorem chunk_eq_nil {moment : Moment} {text : Bytes} : chunk moment text = [] ↔ text = [] := by
  cases text with
  | nil => simp [chunk]
  | cons c rest => cases rest <;> simp [chunk]

theorem chunk_length (moment : Moment) (text : Bytes) :
    (chunk moment text).length = text.length := by
  induction text with
  | nil => rfl
  | cons c rest ih =>
      cases rest with
      | nil => rfl
      | cons d rest => simpa [chunk] using ih

theorem endTags_cons (head : UInt8 × Moment) {rest : List (UInt8 × Moment)}
    (more : rest ≠ []) : endTags (head :: rest) = false :: endTags rest := by
  cases rest with
  | nil => exact absurd rfl more
  | cons next rest => rfl

theorem chunk_tagged (moment : Moment) (text : Bytes) :
    (chunk moment text).map (fun next => next.2.gpsNmeaEndTag) = endTags (chunk moment text) := by
  induction text with
  | nil => rfl
  | cons c rest ih =>
      cases rest with
      | nil => rfl
      | cons d rest =>
          have more : chunk moment (d :: rest) ≠ [] := by simp [chunk_eq_nil]
          rw [chunk, endTags_cons _ more, List.map_cons, ih]
          simp

/-- The read of some bytes at one moment. -/
def Read.ofBytes (moment : Moment) (text : Bytes) (nonempty : text ≠ [])
    (fits : text.length ≤ buffSize) : Read where
  stream := chunk moment text
  nonempty := fun empty => nonempty (chunk_eq_nil.mp empty)
  fits := (chunk_length moment text).trans_le fits
  tagged := chunk_tagged moment text

/-- The reader of the HAL thread, the counter and the interval of the reports, and all that has
been read from `gps_fd`. The counter is a `float` that stays far below 2^24. -/
structure Thread where
  reader : NmeaReader
  count : Nat
  reportTimeInterval : ℚ
  received : Bytes

/-- `single` rounds to a `float`. -/
def mtkGpsSetPositionMode (single : ℚ → ℚ) (minInterval : Nat) (s : Thread) : Thread :=
  { s with
    reportTimeInterval :=
      if minInterval ≤ 1000 then 1 else single (single minInterval / 1000) }

/-- One read that is dropped. -/
def dropRead (s : Thread) (read : Read) : Thread :=
  { s with received := s.received ++ read.bytes }

/-- One read that goes to the reader. -/
def feedRead (platform : Platform) (s : Thread) (read : Read) : Thread :=
  { s with
    reader := feed platform s.reader read.stream
    received := s.received ++ read.bytes }

/-- An event on `gps_fd`, with what the reads return until they would block. While reports are
decimated only the first read is done. -/
def gpsFdEvent (platform : Platform) (s : Thread) (reads : List Read) : Thread :=
  if s.reportTimeInterval > (s.count + 1 : Nat) then
    (reads.take 1).foldl dropRead { s with count := s.count + 1 }
  else reads.foldl (feedRead platform) { s with count := 0 }

def gpsFdEvents (platform : Platform) (s : Thread) (events : List (List Read)) : Thread :=
  events.foldl (gpsFdEvent platform) s

def locationPayload : Event → Option GpsLocation
  | .locationCb fix => some fix
  | _ => none

/-- The payloads of `location_cb`. -/
def locationPayloads (log : List Event) : List GpsLocation := log.filterMap locationPayload

def svPayload : Event → Option (List GnssSvInfo ⊕ List GpsSvInfo × BitVec 32)
  | .gnssSvStatusCb svs => some (.inl svs)
  | .svStatusCb svs usedInFixMask => some (.inr (svs, usedInFixMask))
  | _ => none

/-- The payloads of the satellite-status callbacks of both modes. -/
def svPayloads (log : List Event) : List (List GnssSvInfo ⊕ List GpsSvInfo × BitVec 32) :=
  log.filterMap svPayload

/-- The stream that events bring, read by read. -/
def streamOf (events : List (List Read)) : List (UInt8 × Moment) :=
  events.flatten.flatMap Read.stream

/-- A byte with what the splitting into reads leaves alone. -/
def untagged (next : UInt8 × Moment) : UInt8 × Moment :=
  (next.1, { next.2 with gpsNmeaEndTag := false })

/-- For each newline of a stream, whether it ends its read. -/
def lineEnds (stream : List (UInt8 × Moment)) : List Bool :=
  (stream.filter (fun next => next.1 == newline)).map (fun next => next.2.gpsNmeaEndTag)

theorem chunk_untagged (moment : Moment) (text : Bytes) :
    (chunk moment text).map untagged = text.map (fun c => untagged (c, moment)) := by
  induction text with
  | nil => rfl
  | cons c rest ih =>
      cases rest with
      | nil => rfl
      | cons d rest =>
          rw [chunk, List.map_cons, ih]
          · rfl
          · simp

/-- The moment of a byte matters only where a sentence ends. -/
theorem addc_moment (platform : Platform) (moment other : Moment) (r : NmeaReader) {c : UInt8}
    (inside : c ≠ newline) :
    nmeaReaderAddc platform moment r c = nmeaReaderAddc platform other r c := by
  simp only [nmeaReaderAddc, if_neg inside]

/-- Streams that differ in the end tags inside lines only are read alike. -/
theorem feed_lineEnds (platform : Platform) (r : NmeaReader)
    {first second : List (UInt8 × Moment)}
    (same : first.map untagged = second.map untagged) (ends : lineEnds first = lineEnds second) :
    feed platform r first = feed platform r second := by
  induction first generalizing r second with
  | nil =>
      have empty : second = [] := by simpa using same.symm
      rw [empty]
  | cons head first ih =>
      cases second with
      | nil => simp at same
      | cons other second =>
          obtain ⟨c, moment⟩ := head
          obtain ⟨d, later⟩ := other
          simp only [List.map_cons, List.cons.injEq, untagged, Prod.mk.injEq] at same
          obtain ⟨⟨rfl, outside⟩, rest⟩ := same
          simp only [feed, List.foldl_cons]
          by_cases newlined : c = newline
          · simp only [lineEnds, newlined, beq_self_eq_true, List.filter_cons_of_pos, List.map_cons,
              List.cons.injEq] at ends
            have moments : moment = later := by
              cases moment
              cases later
              simp_all
            rw [moments]
            exact ih _ rest ends.2
          · have skipped : ((c, moment).1 == newline) = false := by simpa using newlined
            simp only [lineEnds, List.filter_cons, skipped, Bool.false_eq_true,
              ↓reduceIte] at ends
            rw [addc_moment platform moment later r newlined]
            exact ih _ rest ends

theorem feedReads_reader (platform : Platform) (s : Thread) (reads : List Read) :
    (reads.foldl (feedRead platform) s).reader =
      feed platform s.reader (reads.flatMap Read.stream) := by
  induction reads generalizing s with
  | nil => rfl
  | cons read reads ih =>
      have first : (feedRead platform s read).reader = feed platform s.reader read.stream := rfl
      calc
        _ = feed platform (feedRead platform s read).reader (reads.flatMap Read.stream) :=
          ih (feedRead platform s read)
        _ = feed platform s.reader (read.stream ++ reads.flatMap Read.stream) := by
          rw [first]
          exact (List.foldl_append ..).symm
        _ = _ := by rw [List.flatMap_cons]

theorem feedReads_interval (platform : Platform) (s : Thread) (reads : List Read) :
    (reads.foldl (feedRead platform) s).reportTimeInterval = s.reportTimeInterval := by
  induction reads generalizing s with
  | nil => rfl
  | cons read reads ih =>
      have first : (feedRead platform s read).reportTimeInterval = s.reportTimeInterval := rfl
      rw [List.foldl_cons, ih, first]

/-- Without decimation the whole stream goes to the reader. -/
theorem gpsFdEvents_reader (platform : Platform) (events : List (List Read)) (s : Thread)
    (off : s.reportTimeInterval ≤ 1) :
    (gpsFdEvents platform s events).reader = feed platform s.reader (streamOf events) := by
  induction events generalizing s with
  | nil => rfl
  | cons reads events ih =>
      have due : ¬ s.reportTimeInterval > ((s.count + 1 : Nat) : ℚ) := by
        have counted : (1 : ℚ) ≤ ((s.count + 1 : Nat) : ℚ) := by
          exact_mod_cast Nat.succ_le_succ (Nat.zero_le s.count)
        exact not_lt.mpr (le_trans off counted)
      have reader := feedReads_reader platform { s with count := 0 } reads
      have interval := feedReads_interval platform { s with count := 0 } reads
      have one : gpsFdEvent platform s reads =
          reads.foldl (feedRead platform) { s with count := 0 } := by
        rw [gpsFdEvent, if_neg due]
      have rest := ih (gpsFdEvent platform s reads) (by rw [one, interval]; exact off)
      calc
        _ = feed platform (gpsFdEvent platform s reads).reader (streamOf events) := rest
        _ = feed platform (feed platform s.reader (reads.flatMap Read.stream))
            (streamOf events) := by rw [one, reader]
        _ = feed platform s.reader (reads.flatMap Read.stream ++ streamOf events) :=
          (List.foldl_append ..).symm
        _ = _ := by rw [streamOf, streamOf, List.flatten_cons, List.flatMap_append]

/-- With decimation off, two splittings of a stream that end a read at the same newlines
deliver the same locations and the same satellite statuses. -/
theorem same_line_ends_same_payloads (platform : Platform) (s : Thread)
    (first second : List (List Read)) (off : s.reportTimeInterval ≤ 1)
    (same : (streamOf first).map untagged = (streamOf second).map untagged)
    (ends : lineEnds (streamOf first) = lineEnds (streamOf second)) :
    locationPayloads (gpsFdEvents platform s first).reader.log =
        locationPayloads (gpsFdEvents platform s second).reader.log ∧
      svPayloads (gpsFdEvents platform s first).reader.log =
        svPayloads (gpsFdEvents platform s second).reader.log := by
  have equal : (gpsFdEvents platform s first).reader = (gpsFdEvents platform s second).reader := by
    rw [gpsFdEvents_reader platform first s off, gpsFdEvents_reader platform second s off]
    exact feed_lineEnds platform s.reader same ends
  rw [equal]
  exact ⟨rfl, rfl⟩

/-- Two reads bring the stream of one read of the same bytes. -/
theorem two_reads_stream (moment : Moment) (front back : Bytes) {first second both : Read}
    (one : first.stream = chunk moment front) (two : second.stream = chunk moment back)
    (whole : both.stream = chunk moment (front ++ back)) :
    (first.stream ++ second.stream).map untagged = both.stream.map untagged := by
  rw [one, two, whole, List.map_append, chunk_untagged, chunk_untagged, chunk_untagged,
    List.map_append]

def idleThread : Thread := ⟨nmeaReaderInit fun _ => 0, 0, 1, []⟩

def wholeMessage : Read :=
  Read.ofBytes epochMoment (bytes "$GPGSV,1,1,01,07\r\n") (by decide) (by decide)

def messageFront : Read := Read.ofBytes epochMoment (bytes "$GPGSV,1,") (by decide) (by decide)

def messageBack : Read := Read.ofBytes epochMoment (bytes "1,01,07\r\n") (by decide) (by decide)

theorem message_in_two_reads :
    locationPayloads (gpsFdEvents gnssPlatform idleThread [[wholeMessage]]).reader.log =
        locationPayloads
          (gpsFdEvents gnssPlatform idleThread [[messageFront, messageBack]]).reader.log ∧
      svPayloads (gpsFdEvents gnssPlatform idleThread [[wholeMessage]]).reader.log =
        svPayloads (gpsFdEvents gnssPlatform idleThread [[messageFront, messageBack]]).reader.log :=
  same_line_ends_same_payloads gnssPlatform idleThread [[wholeMessage]]
    [[messageFront, messageBack]] le_rfl
    (@two_reads_stream epochMoment (bytes "$GPGSV,1,") (bytes "1,01,07\r\n") messageFront
      messageBack wholeMessage rfl rfl rfl).symm
    (by decide)

def nextDollar : Read := Read.ofBytes epochMoment (bytes "$") (by decide) (by decide)

def messageAndDollar : Read :=
  Read.ofBytes epochMoment (bytes "$GPGSV,1,1,01,07\r\n$") (by decide) (by decide)

/-- A read that goes on behind the newline of a message hides it from the status report. -/
theorem read_behind_newline_hides_report :
    ¬ ∀ platform (s : Thread) (first second : List (List Read)), s.reportTimeInterval ≤ 1 →
      (streamOf first).map untagged = (streamOf second).map untagged →
      locationPayloads (gpsFdEvents platform s first).reader.log =
          locationPayloads (gpsFdEvents platform s second).reader.log ∧
        svPayloads (gpsFdEvents platform s first).reader.log =
          svPayloads (gpsFdEvents platform s second).reader.log := by
  intro independent
  have same := @two_reads_stream epochMoment (bytes "$GPGSV,1,1,01,07\r\n") (bytes "$")
    wholeMessage nextDollar messageAndDollar rfl rfl rfl
  have asserted := (independent gnssPlatform idleThread [[wholeMessage], [nextDollar]]
    [[messageAndDollar]] le_rfl same).2
  rw [gpsFdEvents_reader _ _ _ le_rfl, gpsFdEvents_reader _ _ _ le_rfl] at asserted
  have lengths := congrArg List.length asserted
  revert lengths
  decide +kernel

end X5MaxDevice.Gps.Delivery
