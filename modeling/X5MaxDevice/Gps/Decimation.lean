import X5MaxDevice.Base.Transitions
import X5MaxDevice.Gps.Delivery
import X5MaxDevice.Gps.Framing

/-! Decimation of the reports drops whole reads of `gps_fd`. The sentences handed to the
parser, against the bytes received. -/

namespace X5MaxDevice.Gps.Decimation

open X5MaxDevice.Gps.Delivery
open X5MaxDevice.Gps.Framing
open X5MaxDevice.Gps.Reader
open X5MaxDevice.Gps.Tokenizer
open X5MaxDevice.Transitions

inductive Label where
  | setPositionMode (minInterval : Nat)
  | gpsFd (reads : List Read)

def advance (platform : Platform) (single : ℚ → ℚ) (s : Thread) : Label → Thread
  | .setPositionMode minInterval => mtkGpsSetPositionMode single minInterval s
  | .gpsFd reads => gpsFdEvent platform s reads

/-- The counter and the interval outlive the thread. -/
def startThread (svUsedInFix : Int → Int) (count : Nat) (reportTimeInterval : ℚ) : Thread :=
  ⟨nmeaReaderInit svUsedInFix, count, reportTimeInterval, []⟩

/-- Every sentence handed to the parser was received in one piece. -/
def InOnePiece (s : Thread) : Prop := ∀ sentence ∈ handed s.reader.log, sentence <:+: s.received

/-- The event comes too early for a report and drops a read. -/
def drops (s : Thread) (reads : List Read) : Bool :=
  decide (s.reportTimeInterval > (s.count + 1 : Nat)) && !reads.isEmpty

/-- A read is dropped only while no part of a sentence waits in the reader. -/
def DropsBetweenSentences (s : Thread) : Label → Prop
  | .setPositionMode _ => True
  | .gpsFd reads => drops s reads = true → s.reader.input = []

instance decidableDropsBetweenSentences (s : Thread) (label : Label) :
    Decidable (DropsBetweenSentences s label) :=
  match label with
  | .setPositionMode _ => isTrue trivial
  | .gpsFd reads => inferInstanceAs (Decidable (drops s reads = true → s.reader.input = []))

/-- What waits in the reader are the last bytes received, and the sentences handed over were
received in one piece. -/
structure Unspliced (r : NmeaReader) (received : Bytes) : Prop where
  skipping : r.overflow = true → r.input = []
  waiting : r.input <:+ received
  contiguous : ∀ sentence ∈ handed r.log, sentence <:+: received

theorem Unspliced.extend {r : NmeaReader} {received : Bytes} (kept : Unspliced r received)
    (more : Bytes) : ∀ sentence ∈ handed r.log, sentence <:+: received ++ more := by
  intro sentence member
  have before : sentence <:+: received := kept.contiguous sentence member
  exact before.trans (List.prefix_append received more).isInfix

/-- While nothing waits in the reader, bytes may be missed. -/
theorem Unspliced.miss {r : NmeaReader} {received : Bytes} (kept : Unspliced r received)
    (idle : r.input = []) (missed : Bytes) : Unspliced r (received ++ missed) := by
  constructor
  · exact kept.skipping
  · rw [idle]
    exact List.nil_suffix
  · exact kept.extend missed

theorem addc_unspliced (platform : Platform) (moment : Moment) {r : NmeaReader}
    {received : Bytes} (kept : Unspliced r received) (c : UInt8) :
    Unspliced (nmeaReaderAddc platform moment r c) (received ++ [c]) := by
  have earlier := kept.extend [c]
  have waiting : r.input ++ [c] <:+ received ++ [c] :=
    (List.suffix_append_inj_of_length_eq rfl).mpr ⟨kept.waiting, rfl⟩
  rw [nmeaReaderAddc]
  split
  · have idle : r.input = [] := kept.skipping (by assumption)
    constructor
    · intro _
      exact idle
    · rw [idle]
      exact List.nil_suffix
    · exact earlier
  · have collects : ¬ r.overflow = true := by assumption
    split
    · constructor
      · intro _
        rfl
      · exact List.nil_suffix
      · exact earlier
    · split
      · have collected := nmeaReaderFinish_collecting platform moment
          { r with input := r.input ++ [c] }
        simp only [collecting, Prod.mk.injEq] at collected
        rcases collected with ⟨_, emptied, sentences⟩
        constructor
        · intro _
          exact emptied
        · rw [emptied]
          exact List.nil_suffix
        · intro sentence member
          rw [sentences, List.mem_append, List.mem_singleton] at member
          rcases member with before | new
          · exact earlier sentence before
          · rw [new]
            exact waiting.isInfix
      · constructor
        · intro skips
          exact absurd skips collects
        · exact waiting
        · exact earlier

theorem feed_unspliced (platform : Platform) (stream : List (UInt8 × Moment)) {r : NmeaReader}
    {received : Bytes} (kept : Unspliced r received) :
    Unspliced (feed platform r stream) (received ++ stream.map Prod.fst) := by
  induction stream generalizing r received with
  | nil => simpa [feed] using kept
  | cons next stream ih =>
      have first := addc_unspliced platform next.2 kept next.1
      have rest := ih first
      rw [List.append_assoc] at rest
      exact rest

theorem feedReads_unspliced (platform : Platform) (reads : List Read) {s : Thread}
    (kept : Unspliced s.reader s.received) :
    Unspliced (reads.foldl (feedRead platform) s).reader
      (reads.foldl (feedRead platform) s).received := by
  induction reads generalizing s with
  | nil => exact kept
  | cons read reads ih => exact ih (feed_unspliced platform read.stream kept)

theorem dropReads_unspliced (reads : List Read) {s : Thread}
    (kept : Unspliced s.reader s.received) (idle : reads ≠ [] → s.reader.input = []) :
    Unspliced (reads.foldl dropRead s).reader (reads.foldl dropRead s).received := by
  induction reads generalizing s with
  | nil => exact kept
  | cons read reads ih =>
      have empty : s.reader.input = [] := idle (List.cons_ne_nil read reads)
      apply ih
      · exact kept.miss empty read.bytes
      · intro _
        exact empty

theorem advance_unspliced (platform : Platform) (single : ℚ → ℚ) {s : Thread} (label : Label)
    (kept : Unspliced s.reader s.received) (between : DropsBetweenSentences s label) :
    Unspliced (advance platform single s label).reader
      (advance platform single s label).received := by
  cases label with
  | setPositionMode minInterval => exact kept
  | gpsFd reads =>
      simp only [DropsBetweenSentences, drops] at between
      rw [advance, gpsFdEvent]
      split
      · have counted : Unspliced { s with count := s.count + 1 }.reader s.received := kept
        apply dropReads_unspliced (reads.take 1) (s := { s with count := s.count + 1 }) counted
        intro some
        apply between
        have early : s.reportTimeInterval > ((s.count + 1 : Nat) : ℚ) := by assumption
        cases reads with
        | nil => exact absurd rfl some
        | cons read reads =>
            rw [decide_eq_true early]
            rfl
      · exact feedReads_unspliced platform reads kept

/-- A run that drops reads only between sentences hands no spliced sentence to the parser. -/
theorem drops_between_sentences_never_splice (platform : Platform) (single : ℚ → ℚ)
    (svUsedInFix : Int → Int) (count : Nat) (reportTimeInterval : ℚ) {s : Thread}
    (reached : ReachesWhere DropsBetweenSentences
      (fun s label => some (advance platform single s label))
      (startThread svUsedInFix count reportTimeInterval) s) :
    InOnePiece s := by
  have invariant : Unspliced s.reader s.received := by
    apply reached.invariant (P := fun s => Unspliced s.reader s.received)
    · constructor
      · intro _
        rfl
      · exact List.suffix_rfl
      · intro sentence member
        exact absurd member List.not_mem_nil
    · intro before label after kept between stepped
      cases stepped
      exact advance_unspliced platform single label kept between
  exact invariant.contiguous

def oneRead (text : String) (nonempty : bytes text ≠ [])
    (fits : (bytes text).length ≤ buffSize) : Read :=
  Read.ofBytes epochMoment (bytes text) nonempty fits

/-- Every second read is dropped, each a whole sentence. -/
def wholeSentences : List Label :=
  [.setPositionMode 2000, .gpsFd [oneRead "$GPA\n" (by decide) (by decide)],
    .gpsFd [oneRead "$GPB\n" (by decide) (by decide)],
    .gpsFd [oneRead "$GPC\n" (by decide) (by decide)]]

theorem whole_sentences_unspliced :
    InOnePiece
      (wholeSentences.foldl (advance gnssPlatform id) (startThread (fun _ => 0) 0 0)) :=
  drops_between_sentences_never_splice gnssPlatform id (fun _ => 0) 0 0
    (reachesWhere_foldl (by decide +kernel))

/-- The second read delivered ends inside a sentence, and the read after it is dropped. -/
def halfSentences : List Label :=
  [.setPositionMode 2000, .gpsFd [oneRead "x" (by decide) (by decide)],
    .gpsFd [oneRead "$GPA" (by decide) (by decide)], .gpsFd [oneRead "BC" (by decide) (by decide)],
    .gpsFd [oneRead "D\n" (by decide) (by decide)]]

/-- The parser gets `$GPAD`, which was never received. -/
theorem dropped_read_splices :
    ¬ ∀ platform single svUsedInFix count reportTimeInterval s,
      Reaches (fun s label => some (advance platform single s label))
        (startThread svUsedInFix count reportTimeInterval) s →
      InOnePiece s := by
  intro contiguous
  have asserted := contiguous gnssPlatform id (fun _ => 0) 0 0 _
    (reaches_foldl (advance gnssPlatform id) halfSentences _) (bytes "$GPAD\n")
    (by decide +kernel)
  revert asserted
  decide +kernel

end X5MaxDevice.Gps.Decimation
