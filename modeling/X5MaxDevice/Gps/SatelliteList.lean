import X5MaxDevice.Base.History
import X5MaxDevice.Base.Transitions
import X5MaxDevice.Gps.Reader

/-! The counters and entries of the satellite list that the NMEA reader fills, over every
byte stream and every placement of the chunk ends. -/

namespace X5MaxDevice.Gps.SatelliteList

open X5MaxDevice.Gps.Reader
open X5MaxDevice.Gps.Tokenizer
open X5MaxDevice.History
open X5MaxDevice.Transitions

variable {α : Type}

def isReport : SvEvent → Bool
  | .report _ => true
  | _ => false

/-- Events that set `sv_count` to zero. -/
def startsOver : SvEvent → Bool
  | .restart | .drop | .report _ => true
  | _ => false

def commits : SvEvent → Bool
  | .commit count => decide (count ≠ 0)
  | _ => false

/-- A GSV sentence wrote the entry after the last report. -/
def Written (trace : List SvEvent) (index : Int) : Prop :=
  .write index ∈ since isReport trace

/-- The entries in `sv_count` are committed already. -/
def counted (trace : List SvEvent) : Bool := (since startsOver trace).any commits

/-- Every reported entry was written since the previous report. -/
def FreshReports (trace : List SvEvent) : Prop :=
  AtEach (fun before event => ∀ count, event = .report count →
    ∀ index, 0 ≤ index → index < count → Written before index) trace

/-- The committed counter and every write stay within the list, and reports are fresh. -/
structure Bounded (maxSvs : Int) (c : Counting α) : Prop where
  committed : 0 ≤ c.numSvs ∧ c.numSvs ≤ maxSvs
  writes : ∀ index, .write index ∈ c.trace → 0 ≤ index ∧ index < maxSvs
  reports : FreshReports c.trace

/-- A GSV sentence with a message number other than 1 is the last of its group while the
entries in `sv_count`, not more than its satellites in view, are committed already. -/
def recommits (gpsMode : Int) (r : NmeaReader) (sentence : Bytes) : Bool :=
  let tzer := nmeaTokenizerInit sentence
  let kind := sentenceKind gpsMode (tzer.get 0)
  (decide (kind = .gsvGnss) || decide (kind = .gsvGps)) &&
    decide (str2int (tzer.get 2) ≠ 1) &&
    decide (str2int (tzer.get 2) = str2int (tzer.get 1)) &&
    decide (r.svCount ≤ str2int (tzer.get 3)) && counted r.svTrace

/-- The byte does not complete such a sentence. -/
def CountsOnce (platform : Platform) (r : NmeaReader) (next : UInt8 × Moment) : Prop :=
  r.overflow = false → r.input.length < nmeaMaxSize → next.1 = newline →
    recommits platform.gpsMode r (r.input ++ [newline]) = false

instance (platform : Platform) (r : NmeaReader) (next : UInt8 × Moment) :
    Decidable (CountsOnce platform r next) :=
  inferInstanceAs (Decidable (_ → _ → _ → _))

def advance (platform : Platform) (r : NmeaReader) (next : UInt8 × Moment) : NmeaReader :=
  nmeaReaderAddc platform next.2 r next.1

def step (platform : Platform) (r : NmeaReader) (next : UInt8 × Moment) : Option NmeaReader :=
  some (advance platform r next)

/-- The invariant: uncommitted entries follow the committed ones, and both were written. -/
structure Filled (maxSvs : Int) (c : Counting α) : Prop where
  bounded : Bounded maxSvs c
  count : 0 ≤ c.svCount ∧ c.svCount ≤ maxSvs
  committed : ∀ index, 0 ≤ index → index < c.numSvs → Written c.trace index
  counting : counted c.trace = false → c.numSvs + c.svCount ≤ maxSvs ∧
    ∀ index, c.numSvs ≤ index → index < c.numSvs + c.svCount → Written c.trace index

theorem Written.snoc {trace : List SvEvent} {index : Int} (written : Written trace index)
    {event : SvEvent} (other : isReport event = false) : Written (trace ++ [event]) index := by
  rw [Written]
  rw [since_snoc, other]
  exact List.mem_append_left _ written

theorem written_write (trace : List SvEvent) (index : Int) :
    Written (trace ++ [.write index]) index := by
  rw [Written]
  rw [since_snoc]
  simp [isReport]

theorem counted_snoc (trace : List SvEvent) (event : SvEvent) :
    counted (trace ++ [event]) = (!startsOver event && (counted trace || commits event)) := by
  unfold counted
  rw [since_snoc]
  cases starts : startsOver event <;> simp

theorem restart_uncounted (c : Counting α) : counted c.restart.trace = false := by
  rw [Counting.restart, counted_snoc]
  rfl

/-- Storing a satellite counts nothing yet. -/
theorem put_counted (maxSvs : Int) (c : Counting α) (entry : α) :
    counted (c.put maxSvs entry).trace = counted c.trace := by
  simp only [Counting.put]
  split
  · rfl
  · split
    · rfl
    · simp [counted_snoc, startsOver, commits]

theorem put_grows (maxSvs : Int) (c : Counting α) (entry : α) :
    c.svCount ≤ (c.put maxSvs entry).svCount := by
  simp only [Counting.put]
  split
  · exact le_refl _
  · split
    · exact le_refl _
    · exact Int.le_add_one (le_refl _)

/-- Only a commit of no entries leaves the entries uncounted. -/
theorem commit_uncounted {c : Counting α} (uncounted : counted c.commit.trace = false) :
    c.svCount = 0 := by
  rw [Counting.commit, counted_snoc] at uncounted
  simp only [startsOver, commits, Bool.not_false, Bool.true_and, Bool.or_eq_false_iff,
    decide_eq_false_iff_not, not_not] at uncounted
  exact uncounted.2

/-- `update` stores at most one satellite. -/
def StoresOne (maxSvs : Int) (update : Counting α → Slot → Counting α) : Prop :=
  ∀ c slot, update c slot = c ∨ ∃ entry, update c slot = c.put maxSvs entry

/-- The slots of a sentence are counted by its commit only. -/
theorem slots_counted {maxSvs : Int} {update : Counting α → Slot → Counting α}
    (stores : StoresOne maxSvs update) (slots : List Slot) (c : Counting α) :
    counted (slots.foldl update c).trace = counted c.trace ∧
      c.svCount ≤ (slots.foldl update c).svCount := by
  induction slots generalizing c with
  | nil => exact ⟨rfl, le_refl _⟩
  | cons slot slots ih =>
      rw [List.foldl_cons]
      rcases stores c slot with same | ⟨entry, same⟩
      · rw [same]
        exact ih c
      · rcases ih (c.put maxSvs entry) with ⟨counted', grown⟩
        rw [same]
        exact ⟨counted'.trans (put_counted maxSvs c entry), (put_grows maxSvs c entry).trans grown⟩

theorem Bounded.snoc {maxSvs : Int} {c c' : Counting α} {event : SvEvent}
    (bounded : Bounded maxSvs c) (trace : c'.trace = c.trace ++ [event])
    (committed : 0 ≤ c'.numSvs ∧ c'.numSvs ≤ maxSvs)
    (inside : ∀ index, event = .write index → 0 ≤ index ∧ index < maxSvs)
    (fresh : ∀ count, event = .report count →
      ∀ index, 0 ≤ index → index < count → Written c.trace index) : Bounded maxSvs c' := by
  refine ⟨committed, ?_, ?_⟩
  · intro index member
    rw [trace, List.mem_append] at member
    rcases member with earlier | last
    · exact bounded.writes index earlier
    · exact inside index (List.mem_singleton.mp last).symm
  · rw [FreshReports, trace]
    exact bounded.reports.snoc fresh

theorem initial_filled {maxSvs : Int} (positive : 0 < maxSvs) (svList : Int → α) :
    Filled maxSvs ⟨0, 0, svList, []⟩ := by
  constructor
  · refine ⟨⟨le_refl 0, positive.le⟩, ?_, atEach_nil _⟩
    intro index member
    cases member
  · exact ⟨le_refl 0, positive.le⟩
  · intro index nonnegative below
    exact absurd below (not_lt.mpr nonnegative)
  · intro fresh
    refine ⟨positive.le, ?_⟩
    intro index nonnegative below
    exact absurd below (not_lt.mpr nonnegative)

theorem restart_filled {maxSvs : Int} {c : Counting α} (filled : Filled maxSvs c) :
    Filled maxSvs c.restart := by
  have room := filled.bounded.committed
  refine ⟨filled.bounded.snoc rfl room (by simp) (by simp), ?_, ?_, ?_⟩
  · exact ⟨le_refl 0, room.1.trans room.2⟩
  · intro index nonnegative below
    exact (filled.committed index nonnegative below).snoc rfl
  · intro fresh
    refine ⟨by simpa [Counting.restart] using room.2, ?_⟩
    intro index above below
    simp only [Counting.restart, add_zero] at above below
    exact absurd below (not_lt.mpr above)

/-- Storing a satellite appends its entry to the uncommitted ones. -/
theorem put_filled {maxSvs : Int} {c : Counting α} (filled : Filled maxSvs c) (entry : α) :
    Filled maxSvs (c.put maxSvs entry) := by
  have room := filled.bounded.committed
  have count := filled.count
  have same := put_counted maxSvs c entry
  unfold Counting.put at same ⊢
  dsimp only at same ⊢
  split
  · exact filled
  · rename_i below
    rw [if_neg below] at same
    split
    · exact filled
    · rename_i inside
      rw [if_neg inside] at same
      refine ⟨?_, ?_, ?_, ?_⟩
      · refine filled.bounded.snoc rfl ?_ ?_ ?_
        · exact room
        · intro index written
          cases written
          omega
        · intro report impossible
          cases impossible
      · dsimp only
        omega
      · intro index nonnegative below
        exact (filled.committed index nonnegative below).snoc rfl
      · intro fresh
        rw [same] at fresh
        rcases filled.counting fresh with ⟨_, written⟩
        refine ⟨by dsimp only; omega, ?_⟩
        intro index above below
        dsimp only at above below ⊢
        by_cases last : index = c.svCount + c.numSvs
        · rw [last]
          exact written_write _ _
        · exact (written index above (by omega)).snoc rfl

theorem commit_filled {maxSvs : Int} {c : Counting α} (filled : Filled maxSvs c)
    (fresh : counted c.trace = false) : Filled maxSvs c.commit := by
  have room := filled.bounded.committed
  have count := filled.count
  rcases filled.counting fresh with ⟨fits, written⟩
  have total : 0 ≤ c.numSvs + c.svCount := by omega
  refine ⟨filled.bounded.snoc rfl ⟨total, fits⟩ (by simp) (by simp), count, ?_, ?_⟩
  · intro index nonnegative below
    dsimp only [Counting.commit] at below ⊢
    by_cases earlier : index < c.numSvs
    · exact (filled.committed index nonnegative earlier).snoc rfl
    · exact (written index (by omega) below).snoc rfl
  · intro none
    have zero : c.svCount = 0 := commit_uncounted none
    dsimp only [Counting.commit]
    refine ⟨by omega, ?_⟩
    intro index above below
    omega

theorem drop_filled {maxSvs : Int} {c : Counting α} (filled : Filled maxSvs c) :
    Filled maxSvs c.drop := by
  have room := filled.bounded.committed
  have positive : 0 ≤ maxSvs := room.1.trans room.2
  refine ⟨filled.bounded.snoc rfl ⟨le_refl 0, positive⟩ (by simp) (by simp),
    ⟨le_refl 0, positive⟩, ?_, ?_⟩
  · intro index nonnegative below
    exact absurd below (not_lt.mpr nonnegative)
  · intro fresh
    refine ⟨positive, ?_⟩
    intro index above below
    exact absurd below (not_lt.mpr above)

theorem report_filled {maxSvs : Int} {c : Counting α} (filled : Filled maxSvs c) :
    Filled maxSvs c.report := by
  have room := filled.bounded.committed
  have positive : 0 ≤ maxSvs := room.1.trans room.2
  refine ⟨?_, ⟨le_refl 0, positive⟩, ?_, ?_⟩
  · apply filled.bounded.snoc rfl ⟨le_refl 0, positive⟩ (by simp)
    intro count reported index nonnegative below
    cases reported
    exact filled.committed index nonnegative below
  · intro index nonnegative below
    exact absurd below (not_lt.mpr nonnegative)
  · intro fresh
    refine ⟨positive, ?_⟩
    intro index above below
    exact absurd below (not_lt.mpr above)

theorem slots_filled {maxSvs : Int} {update : Counting α → Slot → Counting α}
    (stores : StoresOne maxSvs update) (slots : List Slot) {c : Counting α}
    (filled : Filled maxSvs c) : Filled maxSvs (slots.foldl update c) := by
  induction slots generalizing c with
  | nil => exact filled
  | cons slot slots ih =>
      rcases stores c slot with same | ⟨entry, same⟩
      · rw [List.foldl_cons, same]
        exact ih filled
      · rw [List.foldl_cons, same]
        exact ih (put_filled filled entry)

theorem gsvFirst_filled {maxSvs : Int} {c : Counting α} (seq : Int) (filled : Filled maxSvs c) :
    Filled maxSvs (gsvFirst seq c) := by
  rw [gsvFirst]
  split
  · exact restart_filled filled
  · exact filled

theorem gsvLast_filled {maxSvs : Int} {c : Counting α} {num seq cnt : Int}
    (filled : Filled maxSvs c)
    (fresh : seq = num → c.svCount ≤ cnt → counted c.trace = false) :
    Filled maxSvs (gsvLast num seq cnt c) := by
  rw [gsvLast]
  split
  · rename_i last
    split
    · rename_i within
      exact commit_filled filled (fresh last within)
    · exact drop_filled filled
  · exact filled

/-- A GSV sentence keeps the invariant unless it commits counted entries again. -/
theorem parseGsv_filled {maxSvs : Int} {update : Counting α → Slot → Counting α}
    (stores : StoresOne maxSvs update) (tzer : NmeaTokenizer) {c : Counting α}
    (filled : Filled maxSvs c)
    (once : str2int (tzer.get 2) ≠ 1 → str2int (tzer.get 2) = str2int (tzer.get 1) →
      c.svCount ≤ str2int (tzer.get 3) → counted c.trace = false) :
    Filled maxSvs (parseGsv update tzer c) := by
  have started := gsvFirst_filled (str2int (tzer.get 2)) filled
  have kept := slots_filled stores (gsvSlots tzer (str2int (tzer.get 2)) (str2int (tzer.get 3)))
    started
  rcases slots_counted stores (gsvSlots tzer (str2int (tzer.get 2)) (str2int (tzer.get 3)))
    (gsvFirst (str2int (tzer.get 2)) c) with ⟨same, grown⟩
  apply gsvLast_filled kept
  intro last within
  rw [same]
  have start : (gsvFirst (str2int (tzer.get 2)) c).svCount ≤ str2int (tzer.get 3) :=
    grown.trans within
  by_cases first : str2int (tzer.get 2) = 1
  · rw [gsvFirst, if_pos first]
    exact restart_uncounted c
  · simp only [gsvFirst, first, ↓reduceIte] at start ⊢
    exact once first last start

theorem updateSvStatusGps_storesOne (platform : Platform) (bds : Bool) :
    StoresOne platform.gpsMaxSvs (updateSvStatusGps platform bds) := by
  intro c slot
  unfold updateSvStatusGps
  dsimp only
  split
  · exact Or.inl rfl
  · exact Or.inr ⟨_, rfl⟩

theorem updateSvStatusGnss_storesOne (platform : Platform) (svUsedInFix : Int → Int)
    (bds : Bool) :
    StoresOne platform.gnssMaxSvs (updateSvStatusGnss platform svUsedInFix bds) := by
  intro c slot
  unfold updateSvStatusGnss
  dsimp only
  split
  · exact Or.inl rfl
  · exact Or.inr ⟨_, rfl⟩

/-- The invariant of the list that the mode uses. -/
structure Invariant (platform : Platform) (r : NmeaReader) : Prop where
  gnss : platform.gpsMode = 0 → Filled platform.gnssMaxSvs r.gnss
  gps : platform.gpsMode = 1 → Filled platform.gpsMaxSvs r.gps

theorem init_invariant (platform : Platform) (svUsedInFix : Int → Int) :
    Invariant platform (nmeaReaderInit svUsedInFix) := by
  constructor
  · intro mode
    exact initial_filled platform.gnssMaxSvs_pos _
  · intro mode
    exact initial_filled platform.gpsMaxSvs_pos _

/-- Steps that leave both lists alone. -/
theorem Invariant.congr {platform : Platform} {r r' : NmeaReader} (holds : Invariant platform r)
    (gnss : r'.gnss = r.gnss := by rfl) (gps : r'.gps = r.gps := by rfl) :
    Invariant platform r' := by
  constructor
  · intro mode
    rw [gnss]
    exact holds.gnss mode
  · intro mode
    rw [gps]
    exact holds.gps mode

theorem counted_of_once {gpsMode : Int} {r : NmeaReader} {sentence : Bytes}
    (kind : sentenceKind gpsMode ((nmeaTokenizerInit sentence).get 0) = .gsvGnss ∨
      sentenceKind gpsMode ((nmeaTokenizerInit sentence).get 0) = .gsvGps)
    (once : recommits gpsMode r sentence = false)
    (later : str2int ((nmeaTokenizerInit sentence).get 2) ≠ 1)
    (last : str2int ((nmeaTokenizerInit sentence).get 2) =
      str2int ((nmeaTokenizerInit sentence).get 1))
    (within : r.svCount ≤ str2int ((nmeaTokenizerInit sentence).get 3)) :
    counted r.svTrace = false := by
  have gsv : (decide (sentenceKind gpsMode ((nmeaTokenizerInit sentence).get 0) = .gsvGnss) ||
      decide (sentenceKind gpsMode ((nmeaTokenizerInit sentence).get 0) = .gsvGps)) = true := by
    rcases kind with gnss | gps
    · simp [gnss]
    · simp [gps]
  simp only [recommits, gsv, decide_eq_true later, decide_eq_true last, decide_eq_true within,
    Bool.true_and] at once
  exact once

theorem parseFields_invariant {platform : Platform} {r : NmeaReader} (moment : Moment)
    {sentence : Bytes} (holds : Invariant platform r)
    (once : recommits platform.gpsMode r sentence = false) :
    Invariant platform (parseFields platform moment r (nmeaTokenizerInit sentence)) := by
  rcases parseFields_cases platform moment r (nmeaTokenizerInit sentence) with
    ⟨utc, fix, same⟩ | ⟨mode, mask, used, same⟩ | ⟨kind, same⟩ | ⟨kind, same⟩
  · rw [same]
    exact holds.congr
  · rw [same]
    exact holds.congr
  · have mode : platform.gpsMode = 0 := sentenceKind_mode.1 kind
    rw [same]
    constructor
    · intro _
      apply parseGsv_filled (updateSvStatusGnss_storesOne _ _ _) _ (holds.gnss mode)
      intro later last within
      exact counted_of_once (Or.inl kind) once later last within
    · intro other
      omega
  · have mode : platform.gpsMode = 1 := sentenceKind_mode.2 kind
    rw [same]
    constructor
    · intro other
      omega
    · intro _
      apply parseGsv_filled (updateSvStatusGps_storesOne _ _) _ (holds.gps mode)
      intro later last within
      exact counted_of_once (Or.inr kind) once later last within

theorem reportSvStatus_invariant {platform : Platform} {r : NmeaReader} (moment : Moment)
    (holds : Invariant platform r) : Invariant platform (reportSvStatus platform moment r) := by
  rw [reportSvStatus]
  split
  · rename_i mode
    rw [reportGnss]
    split
    · constructor
      · intro _
        exact report_filled (holds.gnss mode)
      · intro other
        omega
    · exact holds
  · rename_i mode
    rw [reportGps]
    split
    · split
      · constructor
        · intro other
          exact absurd other mode
        · intro gps
          exact report_filled (holds.gps gps)
      · exact holds
    · exact holds

theorem nmeaReaderParse_invariant {platform : Platform} {r : NmeaReader} (moment : Moment)
    {sentence : Bytes} (holds : Invariant platform r)
    (once : recommits platform.gpsMode r sentence = false) :
    Invariant platform (nmeaReaderParse platform moment r sentence) := by
  have recorded : Invariant platform (r.record (.parse sentence)) := holds.congr
  unfold nmeaReaderParse
  dsimp only
  split
  · exact recorded
  · split
    · exact recorded
    · apply reportSvStatus_invariant
      have parsed := parseFields_invariant moment recorded once
      generalize parseFields platform moment (r.record (.parse sentence))
        (nmeaTokenizerInit sentence) = r' at parsed
      rcases reportLocation_cases moment r' with ⟨fix, events, same, _⟩
      rw [same]
      exact parsed.congr

theorem step_invariant {platform : Platform} {r r' : NmeaReader} {next : UInt8 × Moment}
    (holds : Invariant platform r) (once : CountsOnce platform r next)
    (stepped : step platform r next = some r') : Invariant platform r' := by
  obtain rfl := Option.some.inj stepped
  rw [advance]
  rcases nmeaReaderAddc_cases platform next.2 r next.1 with
    ⟨collecting, room, ends, finished⟩ | ⟨_, overflow, input, moved⟩
  · have completed := once collecting room ends
    rw [← ends] at completed
    have collected : Invariant platform { r with input := r.input ++ [next.1] } := holds.congr
    rw [finished, nmeaReaderFinish]
    exact (nmeaReaderParse_invariant next.2 collected completed).congr
  · rw [moved]
    exact holds.congr

/-- While no GSV sentence commits the entries in `sv_count` a second time, the list of the
mode is bounded and its reports are fresh, for every stream and every chunking. -/
theorem counted_once_bounded (platform : Platform) (svUsedInFix : Int → Int) (r : NmeaReader)
    (reached : ReachesWhere (CountsOnce platform) (step platform)
      (nmeaReaderInit svUsedInFix) r) :
    (platform.gpsMode = 0 → Bounded platform.gnssMaxSvs r.gnss) ∧
      (platform.gpsMode = 1 → Bounded platform.gpsMaxSvs r.gps) := by
  have kept : Invariant platform r :=
    reached.invariant (init_invariant platform svUsedInFix) (fun _ _ _ => step_invariant)
  exact ⟨fun mode => (kept.gnss mode).bounded, fun mode => (kept.gps mode).bounded⟩

def oneSatellite : Bytes := bytes "$GPGSV,1,1,01,07\r\n"

theorem one_satellite_bounded :
    Bounded 64 (feed gnssPlatform (nmeaReaderInit fun _ => 0) (chunk epochMoment oneSatellite)).gnss :=
  (counted_once_bounded gnssPlatform (fun _ => 0) _
    (reachesWhere_foldl (by decide +kernel))).1 rfl

def lastMessageAgain : Bytes := bytes "$GPGSV,1,1,01,07\r\n$GPGSV,2,2,01\r\n"

/-- A second last message commits the one counted satellite again: the report has two entries,
and only the first was written. -/
theorem last_message_again_reports_stale :
    ¬ ∀ platform svUsedInFix r, Reaches (step platform) (nmeaReaderInit svUsedInFix) r →
      (platform.gpsMode = 0 → Bounded platform.gnssMaxSvs r.gnss) ∧
        (platform.gpsMode = 1 → Bounded platform.gpsMaxSvs r.gps) := by
  intro bounded
  have reached := reaches_foldl (advance gnssPlatform) (chunk epochMoment lastMessageAgain)
    (nmeaReaderInit fun _ => 0)
  have trace : ((chunk epochMoment lastMessageAgain).foldl (advance gnssPlatform)
      (nmeaReaderInit fun _ => 0)).gnss.trace =
        [.restart, .write 0, .commit 1, .commit 1, .report 2] := by
    decide +kernel
  have fresh := ((bounded gnssPlatform (fun _ => 0) _ reached).1 rfl).reports
  rw [trace] at fresh
  have stale : Written [.restart, .write 0, .commit 1, .commit 1] 1 :=
    fresh [.restart, .write 0, .commit 1, .commit 1] (.report 2) [] rfl 2 rfl 1 (by decide) (by decide)
  revert stale
  rw [Written]
  decide

end X5MaxDevice.Gps.SatelliteList
