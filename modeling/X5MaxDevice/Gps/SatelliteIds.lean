import X5MaxDevice.Gps.SatelliteList

/-! The ids and constellations of the satellites that the NMEA reader reports in mode 0. -/

namespace X5MaxDevice.Gps.SatelliteIds

open X5MaxDevice.Gps.Reader
open X5MaxDevice.Gps.SatelliteList
open X5MaxDevice.Gps.Tokenizer
open X5MaxDevice.Transitions

/-- The id is one of its constellation. -/
def Consistent (sv : GnssSvInfo) : Prop :=
  (sv.constellation = .gps ∧ 1 ≤ sv.svid ∧ sv.svid ≤ 32) ∨
    (sv.constellation = .glonass ∧ 65 ≤ sv.svid ∧ sv.svid ≤ 96) ∨
    (sv.constellation = .beidou ∧ 201 ≤ sv.svid ∧ sv.svid ≤ 232)

instance (sv : GnssSvInfo) : Decidable (Consistent sv) :=
  inferInstanceAs (Decidable (_ ∨ _ ∨ _))

def ReportsConsistent (log : List Event) : Prop :=
  ∀ svs, .gnssSvStatusCb svs ∈ log → ∀ sv ∈ svs, Consistent sv

/-- The first entries of the list were all written at some time. -/
def Covered (trace : List SvEvent) (count : Int) : Prop :=
  ∀ index < count.toNat, .write (index : Int) ∈ trace

instance (trace : List SvEvent) (count : Int) : Decidable (Covered trace count) :=
  inferInstanceAs (Decidable (∀ index < count.toNat, _))

/-- The ids that a GSV sentence of mode 0 passes on. -/
def gsvIds (sentence : Bytes) : List Int :=
  let tzer := nmeaTokenizerInit sentence
  (gsvSlots tzer (str2int (tzer.get 2)) (str2int (tzer.get 3))).map
    (fun slot => svId (startsWith (tzer.get 0) "BD") slot.id)

/-- A GSV sentence passes no id 200 on, and counts entries a second time only within the part
of the list that was written since the reader was initialised. -/
def Clean (platform : Platform) (r : NmeaReader) (sentence : Bytes) : Prop :=
  9 ≤ sentence.length →
    sentenceKind platform.gpsMode ((nmeaTokenizerInit sentence).get 0) = .gsvGnss →
      200 ∉ gsvIds sentence ∧
        (recommits platform.gpsMode r sentence = true →
          Covered r.svTrace (r.svCount + r.svStatusGnss.numSvs))

instance (platform : Platform) (r : NmeaReader) (sentence : Bytes) :
    Decidable (Clean platform r sentence) :=
  inferInstanceAs (Decidable (_ → _ → _ ∧ (_ → _)))

/-- The byte completes a clean sentence or none. -/
def CompletesClean (platform : Platform) (r : NmeaReader) (next : UInt8 × Moment) : Prop :=
  r.overflow = false → r.input.length < nmeaMaxSize → next.1 = newline →
    Clean platform r (r.input ++ [newline])

instance (platform : Platform) (r : NmeaReader) (next : UInt8 × Moment) :
    Decidable (CompletesClean platform r next) :=
  inferInstanceAs (Decidable (_ → _ → _ → _))

/-- What was written is consistent, and what is committed was written. -/
structure Identified (c : Counting GnssSvInfo) : Prop where
  count : 0 ≤ c.svCount
  ids : ∀ index, .write index ∈ c.trace → Consistent (c.svList index)
  committed : Covered c.trace c.numSvs

/-- The counted entries follow the committed ones and were written too. -/
def Filling (c : Counting GnssSvInfo) : Prop := Covered c.trace (c.svCount + c.numSvs)

structure Invariant (r : NmeaReader) : Prop where
  reports : ReportsConsistent r.log
  identified : Identified r.gnss
  counting : counted r.svTrace = false → Filling r.gnss

theorem Covered.snoc {trace : List SvEvent} {count : Int} (covered : Covered trace count)
    (event : SvEvent) : Covered (trace ++ [event]) count :=
  fun index below => List.mem_append_left [event] (covered index below)

theorem covered_zero (trace : List SvEvent) : Covered trace 0 :=
  fun index below => absurd below (Nat.not_lt_zero index)

/-- The bounds of the filter leave the ids of the three constellations and 200. -/
theorem stored_consistent {id : Int} (gpsIds : ¬ (id ≤ 0 ∨ (id < 65 ∧ 32 < id) ∨
    (96 < id ∧ id < 200) ∨ 232 < id)) (other : id ≠ 200) {sv : GnssSvInfo} (svid : sv.svid = id)
    (kind : sv.constellation = constellation id) : Consistent sv := by
  rw [Consistent, svid, kind, constellation]
  by_cases gps : id < 33
  · rw [if_pos gps]
    exact .inl ⟨rfl, by omega, by omega⟩
  · rw [if_neg gps]
    by_cases beidou : 200 < id
    · rw [if_pos beidou]
      exact .inr (.inr ⟨rfl, by omega, by omega⟩)
    · rw [if_neg beidou]
      exact .inr (.inl ⟨rfl, by omega, by omega⟩)

theorem updateSvStatusGnss_cases {platform : Platform} (gpsIds : platform.gpsMaxSvs = 32)
    (svUsedInFix : Int → Int) (bds : Bool) (c : Counting GnssSvInfo) {slot : Slot}
    (other : svId bds slot.id ≠ 200) :
    updateSvStatusGnss platform svUsedInFix bds c slot = c ∨
      ∃ entry, Consistent entry ∧
        updateSvStatusGnss platform svUsedInFix bds c slot = c.put platform.gnssMaxSvs entry := by
  simp only [updateSvStatusGnss, gpsIds]
  split
  case isTrue => exact .inl rfl
  case isFalse passes => exact .inr ⟨_, stored_consistent passes other rfl rfl, rfl⟩

theorem put_identified {c : Counting GnssSvInfo} (holds : Identified c) (maxSvs : Int)
    {entry : GnssSvInfo} (consistent : Consistent entry) :
    Identified (c.put maxSvs entry) ∧ (Filling c → Filling (c.put maxSvs entry)) := by
  have count := holds.count
  simp only [Counting.put]
  split
  · exact ⟨holds, id⟩
  · split
    · exact ⟨holds, id⟩
    · refine ⟨⟨by dsimp only; omega, ?_, holds.committed.snoc _⟩, ?_⟩
      · intro index written
        dsimp only at written ⊢
        by_cases here : index = c.svCount + c.numSvs
        · rw [here, Function.update_self]
          exact consistent
        · rw [Function.update_of_ne here]
          rcases List.mem_append.mp written with earlier | last
          · exact holds.ids index earlier
          · cases List.mem_singleton.mp last
            exact absurd rfl here
      · intro filling index below
        dsimp only at below ⊢
        by_cases last : (index : Int) = c.svCount + c.numSvs
        · rw [last]
          exact List.mem_append_right _ (List.mem_singleton.mpr rfl)
        · exact List.mem_append_left _ (filling index (by omega))

theorem slots_identified {platform : Platform} (gpsIds : platform.gpsMaxSvs = 32)
    (svUsedInFix : Int → Int) (bds : Bool) (slots : List Slot)
    (others : ∀ slot ∈ slots, svId bds slot.id ≠ 200) {c : Counting GnssSvInfo}
    (holds : Identified c) :
    let c' := slots.foldl (updateSvStatusGnss platform svUsedInFix bds) c
    Identified c' ∧ (Filling c → Filling c') := by
  induction slots generalizing c with
  | nil => exact ⟨holds, id⟩
  | cons slot slots ih =>
      have later : ∀ other ∈ slots, svId bds other.id ≠ 200 :=
        fun other member => others other (List.mem_cons_of_mem _ member)
      rcases updateSvStatusGnss_cases gpsIds svUsedInFix bds c (others slot List.mem_cons_self) with
        same | ⟨entry, consistent, same⟩
      · rw [List.foldl_cons, same]
        exact ih later holds
      · rcases put_identified holds platform.gnssMaxSvs consistent with ⟨stored, filling⟩
        rcases ih later stored with ⟨kept, filling'⟩
        rw [List.foldl_cons, same]
        exact ⟨kept, filling' ∘ filling⟩

theorem commit_identified {c : Counting GnssSvInfo} (holds : Identified c) (filling : Filling c) :
    Identified c.commit ∧ (counted c.commit.trace = false → Filling c.commit) := by
  have all : Covered c.trace (c.numSvs + c.svCount) := by
    rw [add_comm]
    exact filling
  refine ⟨⟨holds.count, ?_, all.snoc _⟩, ?_⟩
  · intro index written
    rcases List.mem_append.mp written with earlier | last
    · exact holds.ids index earlier
    · cases List.mem_singleton.mp last
  · intro uncounted
    have zero : c.svCount = 0 := commit_uncounted uncounted
    intro index below
    simp only [Counting.commit, zero] at below
    exact (all.snoc _) index (by omega)

theorem restart_identified {c : Counting GnssSvInfo} (holds : Identified c) :
    Identified c.restart ∧ Filling c.restart := by
  refine ⟨⟨le_refl 0, ?_, holds.committed.snoc _⟩, ?_⟩
  · intro index written
    rcases List.mem_append.mp written with earlier | last
    · exact holds.ids index earlier
    · cases List.mem_singleton.mp last
  · rw [Filling, Counting.restart, zero_add]
    exact holds.committed.snoc _

theorem emptied_identified {c : Counting GnssSvInfo} (holds : Identified c) (event : SvEvent)
    (other : ∀ index, event ≠ .write index) :
    Identified ⟨0, 0, c.svList, c.trace ++ [event]⟩ := by
  refine ⟨le_refl 0, ?_, covered_zero _⟩
  intro index written
  rcases List.mem_append.mp written with earlier | last
  · exact holds.ids index earlier
  · exact absurd (List.mem_singleton.mp last).symm (other index)

/-- A GSV sentence stores consistent entries and commits only entries that were written. -/
theorem parseGsv_identified {platform : Platform} (gpsIds : platform.gpsMaxSvs = 32)
    (svUsedInFix : Int → Int) (bds : Bool) (tzer : NmeaTokenizer) {c : Counting GnssSvInfo}
    (holds : Identified c) (counting : counted c.trace = false → Filling c)
    (others : ∀ slot ∈ gsvSlots tzer (str2int (tzer.get 2)) (str2int (tzer.get 3)),
      svId bds slot.id ≠ 200)
    (again : str2int (tzer.get 2) ≠ 1 → str2int (tzer.get 2) = str2int (tzer.get 1) →
      c.svCount ≤ str2int (tzer.get 3) → counted c.trace = true → Filling c) :
    let c' := parseGsv (updateSvStatusGnss platform svUsedInFix bds) tzer c
    Identified c' ∧ (counted c'.trace = false → Filling c') := by
  have started : Identified (gsvFirst (str2int (tzer.get 2)) c) ∧
      (counted (gsvFirst (str2int (tzer.get 2)) c).trace = false →
        Filling (gsvFirst (str2int (tzer.get 2)) c)) ∧
      (str2int (tzer.get 2) = str2int (tzer.get 1) →
        (gsvFirst (str2int (tzer.get 2)) c).svCount ≤ str2int (tzer.get 3) →
          Filling (gsvFirst (str2int (tzer.get 2)) c)) := by
    rw [gsvFirst]
    split
    case isTrue =>
      rcases restart_identified holds with ⟨kept, filling⟩
      exact ⟨kept, fun _ => filling, fun _ _ => filling⟩
    case isFalse later =>
      refine ⟨holds, counting, fun last within => ?_⟩
      cases before : counted c.trace with
      | false => exact counting before
      | true => exact again later last within before
  rcases started with ⟨first, uncounted, whole⟩
  rcases slots_identified gpsIds svUsedInFix bds _ others first with ⟨kept, filling⟩
  rcases slots_counted (updateSvStatusGnss_storesOne platform svUsedInFix bds)
    (gsvSlots tzer (str2int (tzer.get 2)) (str2int (tzer.get 3)))
    (gsvFirst (str2int (tzer.get 2)) c) with ⟨same, grown⟩
  rw [← same] at uncounted
  simp only [parseGsv]
  rw [gsvLast]
  split
  case isFalse => exact ⟨kept, filling ∘ uncounted⟩
  case isTrue last =>
    split
    case isTrue within => exact commit_identified kept (filling (whole last (grown.trans within)))
    case isFalse => exact ⟨emptied_identified kept .drop (by simp), fun _ => covered_zero _⟩

theorem init_invariant (svUsedInFix : Int → Int) : Invariant (nmeaReaderInit svUsedInFix) :=
  ⟨nofun, ⟨le_refl 0, nofun, covered_zero _⟩, fun _ => covered_zero _⟩

/-- Steps that leave the list alone and report nothing. -/
theorem Invariant.congr {r r' : NmeaReader} (holds : Invariant r) {events : List Event}
    (log : r'.log = r.log ++ events) (quiet : ∀ svs, .gnssSvStatusCb svs ∉ events)
    (gnss : r'.gnss = r.gnss) : Invariant r' := by
  have trace : r'.svTrace = r.svTrace := congrArg Counting.trace gnss
  refine ⟨?_, gnss ▸ holds.identified, ?_⟩
  · intro svs member
    rw [log] at member
    rcases List.mem_append.mp member with earlier | new
    · exact holds.reports svs earlier
    · exact absurd new (quiet svs)
  · rw [trace, gnss]
    exact holds.counting

theorem parseFields_invariant {platform : Platform} (mode : platform.gpsMode = 0)
    (gpsIds : platform.gpsMaxSvs = 32) {r : NmeaReader} (moment : Moment) {sentence : Bytes}
    (long : 9 ≤ sentence.length) (holds : Invariant r) (clean : Clean platform r sentence) :
    Invariant (parseFields platform moment r (nmeaTokenizerInit sentence)) := by
  rcases parseFields_cases platform moment r (nmeaTokenizerInit sentence) with
    ⟨utc, fix, same⟩ | ⟨mode, mask, used, same⟩ | ⟨kind, same⟩ | ⟨kind, same⟩
  · rw [same]
    exact holds.congr (List.append_nil _).symm nofun rfl
  · rw [same]
    exact holds.congr (List.append_nil _).symm nofun rfl
  · rcases clean long kind with ⟨others, again⟩
    rw [same]
    have parsed := parseGsv_identified gpsIds r.svUsedInFix
      (startsWith ((nmeaTokenizerInit sentence).get 0) "BD") (nmeaTokenizerInit sentence)
      holds.identified holds.counting
      (fun slot member same => others (List.mem_map.mpr ⟨slot, member, same⟩))
      (by
        intro later last within before
        have fits : decide (r.svCount ≤ str2int ((nmeaTokenizerInit sentence).get 3)) = true :=
          decide_eq_true within
        apply again
        simp only [recommits, kind, decide_eq_true later, decide_eq_true last, fits]
        exact before)
    exact ⟨holds.reports, parsed.1, parsed.2⟩
  · have other : platform.gpsMode = 1 := sentenceKind_mode.2 kind
    omega

theorem listed_consistent {c : Counting GnssSvInfo} (holds : Identified c) :
    ∀ sv ∈ c.listed, Consistent sv := by
  intro sv member
  rcases List.mem_map.mp member with ⟨index, inside, rfl⟩
  exact holds.ids index (holds.committed index (List.mem_range.mp inside))

theorem reportSvStatus_invariant {platform : Platform} (mode : platform.gpsMode = 0)
    {r : NmeaReader} (moment : Moment) (holds : Invariant r) :
    Invariant (reportSvStatus platform moment r) := by
  rw [reportSvStatus, if_pos mode, reportGnss]
  split
  case isFalse => exact holds
  case isTrue =>
    refine ⟨?_, emptied_identified holds.identified (.report r.gnss.numSvs) (by simp),
      fun _ => covered_zero _⟩
    intro svs member
    rcases List.mem_append.mp member with earlier | new
    · exact holds.reports svs earlier
    · cases List.mem_singleton.mp new
      exact listed_consistent holds.identified

theorem nmeaReaderParse_invariant {platform : Platform} (mode : platform.gpsMode = 0)
    (gpsIds : platform.gpsMaxSvs = 32) {r : NmeaReader} (moment : Moment) {sentence : Bytes}
    (holds : Invariant r) (clean : Clean platform r sentence) :
    Invariant (nmeaReaderParse platform moment r sentence) := by
  have recorded : Invariant (r.record (.parse sentence)) := holds.congr rfl (by simp) rfl
  unfold nmeaReaderParse
  dsimp only
  split
  case isTrue => exact recorded
  case isFalse long =>
    split
    case isTrue => exact recorded
    case isFalse =>
      apply reportSvStatus_invariant mode
      have parsed := parseFields_invariant mode gpsIds moment (not_lt.mp long) recorded clean
      generalize parseFields platform moment (r.record (.parse sentence))
        (nmeaTokenizerInit sentence) = r' at parsed
      rcases reportLocation_cases moment r' with ⟨fix, events, same, locations⟩
      rw [same]
      exact parsed.congr rfl (fun svs member => locations _ member) rfl

theorem step_invariant {platform : Platform} (mode : platform.gpsMode = 0)
    (gpsIds : platform.gpsMaxSvs = 32) {r r' : NmeaReader} {next : UInt8 × Moment}
    (holds : Invariant r) (clean : CompletesClean platform r next)
    (stepped : step platform r next = some r') : Invariant r' := by
  have kept (overflow : Bool) (input : Bytes) :
      Invariant { r with overflow := overflow, input := input } :=
    holds.congr (List.append_nil _).symm nofun rfl
  obtain rfl := Option.some.inj stepped
  rw [advance]
  rcases nmeaReaderAddc_cases platform next.2 r next.1 with
    ⟨collecting, room, ends, finished⟩ | ⟨_, overflow, input, moved⟩
  · have completed := clean collecting room ends
    rw [← ends] at completed
    have parsed := nmeaReaderParse_invariant mode gpsIds next.2
      (kept r.overflow (r.input ++ [next.1])) completed
    rw [finished, nmeaReaderFinish]
    exact parsed.congr rfl (by simp) rfl
  · rw [moved]
    exact kept overflow input

/-- While no GSV sentence passes the id 200 on or counts entries again that were never written,
every reported satellite has an id of its constellation. -/
theorem clean_streams_report_consistent_ids (platform : Platform) (mode : platform.gpsMode = 0)
    (gpsIds : platform.gpsMaxSvs = 32) (svUsedInFix : Int → Int) (r : NmeaReader)
    (reached : ReachesWhere (CompletesClean platform) (step platform)
      (nmeaReaderInit svUsedInFix) r) : ReportsConsistent r.log := by
  have kept : Invariant r := reached.invariant (init_invariant svUsedInFix)
    (fun _ _ _ holds clean stepped => step_invariant mode gpsIds holds clean stepped)
  exact kept.reports

def threeConstellations : Bytes :=
  bytes "$GPGSV,1,1,01,07\r\n$GLGSV,1,1,01,65\r\n$BDGSV,1,1,01,05\r\n"

theorem three_constellations_consistent :
    ReportsConsistent
      (feed gnssPlatform (nmeaReaderInit fun _ => 0) (chunk epochMoment threeConstellations)).log :=
  clean_streams_report_consistent_ids gnssPlatform rfl rfl (fun _ => 0) _
    (reachesWhere_foldl (by decide +kernel))

def beidouWithoutId : Bytes := bytes "$BDGSV,1,1,01,,45,120,33\r\n"

/-- An empty id of a BD sentence becomes 200, which is reported as a GLONASS satellite. -/
theorem empty_beidou_id_reported :
    ¬ ∀ platform : Platform, platform.gpsMode = 0 → platform.gpsMaxSvs = 32 →
      ∀ svUsedInFix r, Reaches (step platform) (nmeaReaderInit svUsedInFix) r →
        ReportsConsistent r.log := by
  intro consistent
  have reached := reaches_foldl (advance gnssPlatform) (chunk epochMoment beidouWithoutId)
    (nmeaReaderInit fun _ => 0)
  have reported : Event.gnssSvStatusCb [⟨200, .glonass, 33, 45, 120, svFlagsNone⟩] ∈
      ((chunk epochMoment beidouWithoutId).foldl (advance gnssPlatform)
        (nmeaReaderInit fun _ => 0)).log := by
    decide +kernel
  have asserted := consistent gnssPlatform rfl rfl (fun _ => 0) _ reached _ reported _
    (List.mem_singleton.mpr rfl)
  revert asserted
  decide

end X5MaxDevice.Gps.SatelliteIds
