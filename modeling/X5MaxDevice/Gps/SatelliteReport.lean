import Mathlib.Algebra.Order.BigOperators.Group.List
import X5MaxDevice.Gps.Gsv

/-! Satellite groups encoded as GSV messages and delivered in one chunk come back in one
satellite status report. -/

namespace X5MaxDevice.Gps.SatelliteReport

open X5MaxDevice.Gps.Gsv
open X5MaxDevice.Gps.Reader
open X5MaxDevice.Gps.Tokenizer

variable {α : Type} {c : Counting α} {committed counted : List α}

/-- The front of the satellite list. -/
def Entries (c : Counting α) (front : List α) : Prop :=
  ∀ i < front.length, front[i]? = some (c.svList i)

structure Lists (c : Counting α) (committed : List α) : Prop where
  numSvs : c.numSvs = committed.length
  entries : Entries c committed

structure Holds (c : Counting α) (committed counted : List α) : Prop where
  numSvs : c.numSvs = committed.length
  svCount : c.svCount = counted.length
  entries : Entries c (committed ++ counted)

theorem Lists.listed (lists : Lists c committed) : c.listed = committed := by
  apply List.ext_getElem?
  intro i
  rw [Counting.listed]
  rw [lists.numSvs, Int.toNat_natCast, List.getElem?_map]
  by_cases inside : i < committed.length
  · rw [List.getElem?_range inside, lists.entries i inside]
    rfl
  · rw [List.getElem?_eq_none (by simpa using inside), List.getElem?_eq_none (by omega)]
    rfl

theorem Lists.restart (lists : Lists c committed) : Holds c.restart committed [] := by
  refine ⟨lists.numSvs, rfl, ?_⟩
  rw [List.append_nil]
  exact lists.entries

theorem Holds.commit (holds : Holds c committed counted) :
    Lists c.commit (committed ++ counted) := by
  refine ⟨?_, holds.entries⟩
  simp only [Counting.commit, holds.numSvs, holds.svCount, List.length_append]
  omega

theorem Holds.put {maxSvs : Int} (holds : Holds c committed counted)
    (room : (committed.length + counted.length : Int) < maxSvs) (entry : α) :
    Holds (c.put maxSvs entry) committed (counted ++ [entry]) := by
  have free : ¬ maxSvs ≤ c.svCount := by
    rw [holds.svCount]
    omega
  have inside : ¬ maxSvs ≤ c.svCount + c.numSvs := by
    rw [holds.svCount, holds.numSvs]
    omega
  have position : c.svCount + c.numSvs = ((committed ++ counted).length : Int) := by
    rw [holds.svCount, holds.numSvs, List.length_append]
    omega
  rw [Counting.put]
  simp only [if_neg free, if_neg inside]
  refine ⟨holds.numSvs, ?_, ?_⟩
  · simp [holds.svCount]
  · intro i below
    rw [← List.append_assoc] at below ⊢
    dsimp only
    rw [position]
    by_cases last : i = (committed ++ counted).length
    · rw [last, List.getElem?_concat_length, Function.update_self]
    · have earlier : i < (committed ++ counted).length := by
        simp only [List.length_append, List.length_singleton] at below last ⊢
        omega
      rw [List.getElem?_append_left earlier, Function.update_of_ne (by omega)]
      exact holds.entries i earlier

theorem Holds.puts {maxSvs : Int} (holds : Holds c committed counted) (entries : List α)
    (room : (committed.length + counted.length + entries.length : Int) ≤ maxSvs) :
    Holds (entries.foldl (fun c entry => c.put maxSvs entry) c) committed (counted ++ entries) := by
  induction entries generalizing c counted with
  | nil => simpa using holds
  | cons entry entries ih =>
      simp only [List.length_cons, Nat.cast_add, Nat.cast_one] at room
      have inside : (committed.length + counted.length : Int) < maxSvs := by omega
      have stored := holds.put inside entry
      have rest := ih stored (by simp only [List.length_append, List.length_singleton]; omega)
      simpa using rest

theorem Holds.slots {platform : Platform} {c : Counting GnssSvInfo}
    {committed counted : List GnssSvInfo} {talker : Talker}
    (gpsIds : platform.gpsMaxSvs = 32) (integers : ExactOnIntegers platform.strtod)
    (svUsedInFix : Int → Int) (satellites : List (Satellite talker))
    (holds : Holds c committed counted)
    (room : (committed.length + counted.length + satellites.length : Int) ≤ platform.gnssMaxSvs) :
    Holds ((satellites.map Satellite.slot).foldl
        (updateSvStatusGnss platform svUsedInFix (startsWith talker.sentenceId "BD")) c)
      committed (counted ++ satellites.map (fun satellite => satellite.info svUsedInFix)) := by
  have stored := holds.puts (satellites.map (fun satellite => satellite.info svUsedInFix))
    (by simpa using room)
  rw [List.foldl_map] at stored ⊢
  simpa only [updateSvStatusGnss_satellite gpsIds integers] using stored

/-- What a GSV sentence does to the list of mode 0. -/
def gsvMessage (platform : Platform) (svUsedInFix : Int → Int) (c : Counting GnssSvInfo)
    (sentence : Bytes) : Counting GnssSvInfo :=
  let tzer := nmeaTokenizerInit sentence
  parseGsv (updateSvStatusGnss platform svUsedInFix (startsWith (tzer.get 0) "BD")) tzer c

section Groups

variable {platform : Platform} (gpsIds : platform.gpsMaxSvs = 32)
  (integers : ExactOnIntegers platform.strtod) (svUsedInFix : Int → Int) (group : Group)

include gpsIds integers in
/-- One message stores its page behind the earlier ones, and the last one commits. -/
theorem gsvMessage_page {c : Counting GnssSvInfo} {committed : List GnssSvInfo} (index : Nat)
    (holds : Holds (gsvFirst ((index : Int) + 1) c) committed
      ((group.infos svUsedInFix).take (4 * index)))
    (inside : 4 * index < group.size)
    (room : (committed.length + group.size : Int) ≤ platform.gnssMaxSvs) :
    ∃ stored, Holds stored committed ((group.infos svUsedInFix).take (4 * (index + 1))) ∧
      gsvMessage platform svUsedInFix c (group.message index) =
        gsvLast group.messageCount ((index : Int) + 1) group.size stored := by
  have size : (group.size : Int) < 2 ^ 31 := by
    have limit := platform.gnssMaxSvs_int
    omega
  have count := messageCount_bounds group
  have taken : ((group.infos svUsedInFix).take (4 * index)).length = 4 * index := by
    simp only [Group.infos, List.length_take, List.length_map]
    rw [Group.size] at inside
    omega
  have page : (4 * index + (group.page index).length : Int) ≤ group.size := by
    simp only [Group.page, List.length_take, List.length_drop]
    rw [Group.size] at inside ⊢
    omega
  have stored := holds.slots gpsIds integers svUsedInFix (group.page index) (by omega)
  have together : (group.infos svUsedInFix).take (4 * index) ++
        (group.page index).map (fun satellite => satellite.info svUsedInFix) =
      (group.infos svUsedInFix).take (4 * (index + 1)) := by
    rw [show 4 * (index + 1) = 4 * index + 4 by omega, List.take_add]
    simp [Group.infos, Group.page, List.map_take, List.map_drop]
  rw [together] at stored
  refine ⟨_, stored, ?_⟩
  rcases message_header group index size inside with ⟨talker, num, seq, cnt⟩
  unfold gsvMessage parseGsv
  simp only [talker, num, seq, cnt, message_slots group index size inside]

include gpsIds integers in
theorem messages_hold {c : Counting GnssSvInfo} {committed : List GnssSvInfo}
    (lists : Lists c committed) (room : (committed.length + group.size : Int) ≤ platform.gnssMaxSvs)
    (count : Nat) (below : count < group.messageCount) :
    Holds (gsvFirst ((count : Int) + 1)
        (((List.range count).map group.message).foldl (gsvMessage platform svUsedInFix) c))
      committed ((group.infos svUsedInFix).take (4 * count)) := by
  induction count with
  | zero =>
      rw [gsvFirst, if_pos (by simp)]
      simpa using lists.restart
  | succ count ih =>
      have bounds := messageCount_bounds group
      have before := ih (by omega)
      rcases gsvMessage_page gpsIds integers svUsedInFix group count before (by omega) room with
        ⟨stored, holds, same⟩
      rw [List.range_succ, List.map_append, List.foldl_append]
      simp only [List.map_cons, List.map_nil, List.foldl_cons, List.foldl_nil, same]
      rw [gsvLast, if_neg (by omega), gsvFirst, if_neg (by omega)]
      exact holds

include gpsIds integers in
/-- The messages of a group commit exactly its satellites. -/
theorem group_lists {c : Counting GnssSvInfo} {committed : List GnssSvInfo}
    (lists : Lists c committed)
    (room : (committed.length + group.size : Int) ≤ platform.gnssMaxSvs) :
    Lists (group.messages.foldl (gsvMessage platform svUsedInFix) c)
      (committed ++ group.infos svUsedInFix) := by
  have bounds := messageCount_bounds group
  have last : group.messageCount = (group.messageCount - 1) + 1 := by omega
  have before := messages_hold gpsIds integers svUsedInFix group lists room
    (group.messageCount - 1) (by omega)
  rcases gsvMessage_page gpsIds integers svUsedInFix group _ before (by omega) room with
    ⟨stored, holds, same⟩
  have all : (group.infos svUsedInFix).take (4 * (group.messageCount - 1 + 1)) =
      group.infos svUsedInFix := by
    apply List.take_of_length_le
    simp only [Group.infos, List.length_map]
    rw [Group.size] at bounds
    omega
  rw [all] at holds
  have counted : stored.svCount = group.size := by
    rw [holds.svCount]
    simp [Group.infos, Group.size]
  rw [Group.messages, last, List.range_succ, List.map_append, List.foldl_append]
  simp only [List.map_cons, List.map_nil, List.foldl_cons, List.foldl_nil, same]
  rw [gsvLast, if_pos (by omega), if_pos counted.le]
  exact holds.commit

end Groups

/-- The messages of all groups commit the satellites of all groups. -/
theorem groups_list {platform : Platform} (gpsIds : platform.gpsMaxSvs = 32)
    (integers : ExactOnIntegers platform.strtod) (svUsedInFix : Int → Int) (groups : List Group)
    {c : Counting GnssSvInfo} {committed : List GnssSvInfo} (lists : Lists c committed)
    (room : (committed.length + (groups.map Group.size).sum : Int) ≤ platform.gnssMaxSvs) :
    Lists ((groups.flatMap Group.messages).foldl (gsvMessage platform svUsedInFix) c)
      (committed ++ groups.flatMap (fun group => group.infos svUsedInFix)) := by
  induction groups generalizing c committed with
  | nil => simpa using lists
  | cons group groups ih =>
      simp only [List.map_cons, List.sum_cons, Nat.cast_add] at room
      have size : (group.infos svUsedInFix).length = group.size := by
        simp [Group.infos, Group.size]
      have first := group_lists gpsIds integers svUsedInFix group lists (by omega)
      have rest := ih first (by simp only [List.length_append, size, Nat.cast_add]; omega)
      simpa only [List.flatMap_cons, List.foldl_append, List.append_assoc] using rest

/-- Between two sentences. -/
structure Idle (r : NmeaReader) : Prop where
  overflow : r.overflow = false
  input : r.input = []

def statusReport : Event → Option (List GnssSvInfo)
  | .gnssSvStatusCb svs => some svs
  | _ => none

/-- The lists passed to `gnss_sv_status_cb`. -/
def statusReports (log : List Event) : List (List GnssSvInfo) := log.filterMap statusReport

/-- Bytes that are not the last of their chunk. -/
def unended (moment : Moment) (content : Bytes) : List (UInt8 × Moment) :=
  content.map (fun b => (b, { moment with gpsNmeaEndTag := false }))

theorem feed_append (platform : Platform) (r : NmeaReader) (first second : List (UInt8 × Moment)) :
    feed platform r (first ++ second) = feed platform (feed platform r first) second :=
  List.foldl_append

theorem chunk_append (moment : Moment) (front back : Bytes) (present : back ≠ []) :
    chunk moment (front ++ back) = unended moment front ++ chunk moment back := by
  induction front with
  | nil => rfl
  | cons b front ih =>
      cases rest : front ++ back with
      | nil => simp [present] at rest
      | cons next tail =>
          rw [rest] at ih
          simp [unended, chunk, rest, ih]

/-- Bytes without a newline that fit are collected. -/
theorem feed_content (platform : Platform) (r : NmeaReader) (stream : List (UInt8 × Moment))
    (collecting : r.overflow = false) (plain : ∀ next ∈ stream, next.1 ≠ newline)
    (room : r.input.length + stream.length ≤ nmeaMaxSize) :
    feed platform r stream = { r with input := r.input ++ stream.map Prod.fst } := by
  induction stream generalizing r with
  | nil => simp [feed]
  | cons next stream ih =>
      have other : next.1 ≠ newline := plain next List.mem_cons_self
      have added : nmeaReaderAddc platform next.2 r next.1 =
          { r with input := r.input ++ [next.1] } := by
        simp only [List.length_cons] at room
        rw [nmeaReaderAddc]
        rw [collecting]
        simp only [Bool.false_eq_true, ↓reduceIte, if_neg (by omega : ¬ nmeaMaxSize ≤ r.input.length),
          if_neg other]
      have rest := ih { r with input := r.input ++ [next.1] } collecting
        (fun later member => plain later (List.mem_cons_of_mem _ member))
        (by simp only [List.length_append, List.length_cons, List.length_nil] at room ⊢; omega)
      simp only [feed, List.foldl_cons, added] at rest ⊢
      rw [rest]
      simp

theorem record_nmeaCb (r : NmeaReader) (timestamp : Int) (sentence : Bytes) :
    statusReports (r.record (.nmeaCb timestamp sentence)).log = statusReports r.log := by
  have quiet : statusReports [.nmeaCb timestamp sentence] = [] := rfl
  simp only [statusReports] at quiet ⊢
  simp only [NmeaReader.record, List.filterMap_append, quiet, List.append_nil]

theorem statusReports_locations {events : List Event}
    (locations : ∀ event ∈ events, locationEvent event) : statusReports events = [] := by
  apply List.filterMap_eq_nil_iff.mpr
  intro event member
  have kind := locations event member
  revert kind
  cases event <;> simp [locationEvent, statusReport]

theorem reportLocation_keeps (moment : Moment) (r : NmeaReader) :
    (reportLocation moment r).overflow = r.overflow ∧
      (reportLocation moment r).svUsedInFix = r.svUsedInFix ∧
      (reportLocation moment r).gnss = r.gnss ∧
      statusReports (reportLocation moment r).log = statusReports r.log := by
  rcases reportLocation_cases moment r with ⟨fix, events, located, locations⟩
  have quiet := statusReports_locations locations
  rw [located]
  refine ⟨rfl, rfl, rfl, ?_⟩
  simp only [statusReports] at quiet ⊢
  simp [quiet]

theorem kind_message {gpsMode : Int} (mode : gpsMode = 0) (talker : Talker) :
    sentenceKind gpsMode talker.sentenceId = .gsvGnss := by
  subst mode
  cases talker <;> decide

theorem reportGnss_ended {moment : Moment} {r : NmeaReader} (present : r.gnss.numSvs ≠ 0)
    (ended : moment.gpsNmeaEndTag = true) :
    (reportGnss moment r).overflow = r.overflow ∧ (reportGnss moment r).gnss = r.gnss.report ∧
      statusReports (reportGnss moment r).log = statusReports r.log ++ [r.gnss.listed] := by
  have reports : r.svStatusGnss.numSvs ≠ 0 ∧ moment.gpsNmeaEndTag = true := ⟨present, ended⟩
  rw [reportGnss]
  rw [if_pos reports]
  refine ⟨rfl, rfl, ?_⟩
  simp [NmeaReader.setGnss, NmeaReader.record, statusReports, statusReport]

theorem reportGnss_unended {moment : Moment} {r : NmeaReader}
    (unended : moment.gpsNmeaEndTag = false) : reportGnss moment r = r := by
  rw [reportGnss]
  rw [if_neg (by simp [unended])]

/-- A parsed message updates the list, and then the reports are due. -/
theorem parse_message {platform : Platform} (mode : platform.gpsMode = 0) (moment : Moment)
    (r : NmeaReader) (group : Group) (index : Nat) (small : (group.size : Int) < 2 ^ 31)
    (inside : 4 * index < group.size) :
    ∃ r₁, nmeaReaderParse platform moment r (group.message index) = reportGnss moment r₁ ∧
      r₁.overflow = r.overflow ∧ r₁.svUsedInFix = r.svUsedInFix ∧
      r₁.gnss = gsvMessage platform r.svUsedInFix r.gnss (group.message index) ∧
      statusReports r₁.log = statusReports r.log := by
  have header := (message_header group index small inside).1
  have long : ¬ (group.message index).length < 9 := by
    rcases message_line group index small inside with ⟨_, _, _, _, long⟩
    omega
  have named : ¬ ((nmeaTokenizerInit (group.message index)).get 0).length < 5 := by
    rw [header]
    cases group.talker <;> decide
  have kind : sentenceKind platform.gpsMode ((nmeaTokenizerInit (group.message index)).get 0) =
      .gsvGnss := by
    rw [header]
    exact kind_message mode group.talker
  have fields := parseFields_gsvGnss moment (r.record (.parse (group.message index))) kind
  rcases reportLocation_keeps moment
      (parseFields platform moment (r.record (.parse (group.message index)))
        (nmeaTokenizerInit (group.message index))) with
    ⟨overflow, used, gnss, reports⟩
  rw [fields] at overflow used gnss reports
  rw [parseGsvGnss_gnss] at gnss
  refine ⟨reportLocation moment (parseGsvGnss platform (r.record (.parse (group.message index)))
    (startsWith ((nmeaTokenizerInit (group.message index)).get 0) "BD")
    (nmeaTokenizerInit (group.message index))), ?_, overflow, used, ?_, ?_⟩
  · unfold nmeaReaderParse reportSvStatus
    simp only [if_neg long, if_neg named, fields, if_pos mode]
  · rw [gnss]
    rfl
  · rw [reports]
    simp [parseGsvGnss, NmeaReader.setGnss, NmeaReader.record, statusReports, statusReport]

/-- A message that does not end its chunk only updates the list. -/
theorem finish_unended {platform : Platform} (mode : platform.gpsMode = 0) {moment : Moment}
    (unended : moment.gpsNmeaEndTag = false) {r : NmeaReader} (group : Group) (index : Nat)
    (small : (group.size : Int) < 2 ^ 31) (inside : 4 * index < group.size)
    (collecting : r.overflow = false) (complete : r.input = group.message index) :
    let r' := nmeaReaderFinish platform moment r
    Idle r' ∧ r'.svUsedInFix = r.svUsedInFix ∧
      r'.gnss = gsvMessage platform r.svUsedInFix r.gnss (group.message index) ∧
      statusReports r'.log = statusReports r.log := by
  rcases parse_message mode moment r group index small inside with
    ⟨r₁, parsed, overflow, used, gnss, reports⟩
  rw [reportGnss_unended unended] at parsed
  rw [nmeaReaderFinish]
  dsimp only
  rw [complete, parsed]
  refine ⟨⟨overflow.trans collecting, rfl⟩, used, gnss, ?_⟩
  rw [record_nmeaCb]
  exact reports

/-- A message that ends its chunk also reports the list. -/
theorem finish_ended {platform : Platform} (mode : platform.gpsMode = 0) {moment : Moment}
    (ended : moment.gpsNmeaEndTag = true) {r : NmeaReader} (group : Group) (index : Nat)
    (small : (group.size : Int) < 2 ^ 31) (inside : 4 * index < group.size)
    (complete : r.input = group.message index)
    (present : (gsvMessage platform r.svUsedInFix r.gnss (group.message index)).numSvs ≠ 0) :
    statusReports (nmeaReaderFinish platform moment r).log = statusReports r.log ++
      [(gsvMessage platform r.svUsedInFix r.gnss (group.message index)).listed] := by
  rcases parse_message mode moment r group index small inside with
    ⟨r₁, parsed, overflow, used, gnss, reports⟩
  rw [← gnss] at present ⊢
  rcases reportGnss_ended (r := r₁) present ended with ⟨_, _, reported⟩
  rw [nmeaReaderFinish]
  dsimp only
  rw [complete, parsed, ← reports, ← reported]
  exact record_nmeaCb _ _ _

/-- A line that fits is collected and finished by its newline. -/
theorem feed_ended {platform : Platform} {r : NmeaReader} (last : Moment) (idle : Idle r)
    {stream : List (UInt8 × Moment)} (plain : newline ∉ stream.map Prod.fst)
    (room : stream.length < nmeaMaxSize) :
    feed platform r (stream ++ [(newline, last)]) =
      nmeaReaderFinish platform last { r with input := stream.map Prod.fst ++ [newline] } := by
  have collected := feed_content platform r stream idle.overflow
    (fun next member same => plain (same ▸ List.mem_map_of_mem member))
    (by
      rw [idle.input, List.length_nil]
      omega)
  have small : ¬ nmeaMaxSize ≤ (stream.map Prod.fst).length := by
    rw [List.length_map]
    omega
  rw [feed_append, collected, idle.input, List.nil_append]
  simp only [feed, List.foldl_cons, List.foldl_nil]
  rw [nmeaReaderAddc]
  simp only [idle.overflow, Bool.false_eq_true, ↓reduceIte, if_neg small]

theorem feed_line {platform : Platform} {r : NmeaReader} (moment last : Moment) {content : Bytes}
    (idle : Idle r) (plain : newline ∉ content) (room : content.length < nmeaMaxSize) :
    feed platform r (unended moment content ++ [(newline, last)]) =
      nmeaReaderFinish platform last { r with input := content ++ [newline] } := by
  have bytes : (unended moment content).map Prod.fst = content := by
    simp [unended, Function.comp_def]
  have fed := @feed_ended platform r last idle _ (bytes.symm ▸ plain)
    (by
      rw [← bytes, List.length_map] at room
      exact room)
  rw [bytes] at fed
  exact fed

/-- A message of some group. -/
def IsMessage (line : Bytes) : Prop :=
  ∃ (group : Group) (index : Nat), line = group.message index ∧ (group.size : Int) < 2 ^ 31 ∧
    4 * index < group.size

theorem messages_isMessage {group : Group} (small : (group.size : Int) < 2 ^ 31) :
    ∀ line ∈ group.messages, IsMessage line := by
  intro line member
  have bounds := messageCount_bounds group
  rcases List.mem_map.mp member with ⟨index, present, rfl⟩
  have below := List.mem_range.mp present
  exact ⟨group, index, rfl, small, by omega⟩

/-- Messages before the end of the chunk update the list one after the other. -/
theorem feed_messages {platform : Platform} (mode : platform.gpsMode = 0) (moment : Moment)
    (lines : List Bytes) (messages : ∀ line ∈ lines, IsMessage line) {r : NmeaReader}
    (idle : Idle r) :
    let r' := feed platform r (unended moment lines.flatten)
    Idle r' ∧ r'.svUsedInFix = r.svUsedInFix ∧
      r'.gnss = lines.foldl (gsvMessage platform r.svUsedInFix) r.gnss ∧
      statusReports r'.log = statusReports r.log := by
  induction lines generalizing r with
  | nil => exact ⟨idle, rfl, rfl, rfl⟩
  | cons line lines ih =>
      rcases messages line List.mem_cons_self with ⟨group, index, rfl, small, inside⟩
      rcases message_line group index small inside with ⟨content, framed, plain, room, _⟩
      have first : feed platform r (unended moment (group.message index)) =
          nmeaReaderFinish platform { moment with gpsNmeaEndTag := false }
            { r with input := group.message index } := by
        rw [framed, ← feed_line moment _ idle plain room]
        simp [unended]
      have untagged : Moment.gpsNmeaEndTag { moment with gpsNmeaEndTag := false } = false := rfl
      rcases finish_unended mode untagged group index small inside
          (r := { r with input := group.message index }) idle.overflow rfl with
        ⟨idle', used, gnss, reports⟩
      rcases ih (fun other member => messages other (List.mem_cons_of_mem _ member)) idle' with
        ⟨final, used', gnss', reports'⟩
      have split : unended moment (group.message index :: lines).flatten =
          unended moment (group.message index) ++ unended moment lines.flatten := by
        simp [unended]
      rw [split, feed_append, first]
      refine ⟨final, used'.trans used, ?_, reports'.trans reports⟩
      rw [gnss', used, gnss]
      rfl

/-- Groups that fit the list, encoded and delivered in one chunk between two sentences while
the list is empty, come back in exactly one report of exactly their satellites. -/
theorem encoded_groups_reported {platform : Platform} (mode : platform.gpsMode = 0)
    (gpsIds : platform.gpsMaxSvs = 32) (integers : ExactOnIntegers platform.strtod)
    (groups : List Group) (present : groups ≠ [])
    (room : ((groups.map Group.size).sum : Int) ≤ platform.gnssMaxSvs) (moment : Moment)
    (r : NmeaReader) (idle : Idle r) (empty : r.svStatusGnss.numSvs = 0) :
    statusReports (feed platform r (chunk moment (encode groups))).log =
      statusReports r.log ++ [groups.flatMap (fun group => group.infos r.svUsedInFix)] := by
  have small : ∀ group ∈ groups, (group.size : Int) < 2 ^ 31 := by
    intro group member
    have part := List.le_sum_of_mem (List.mem_map_of_mem (f := Group.size) member)
    have limit := platform.gnssMaxSvs_int
    omega
  have messages : ∀ line ∈ groups.flatMap Group.messages, IsMessage line := by
    intro line member
    rcases List.mem_flatMap.mp member with ⟨group, inGroups, inMessages⟩
    exact messages_isMessage (small group inGroups) line inMessages
  have start : Lists r.gnss [] := by
    refine ⟨empty, ?_⟩
    intro i below
    simp at below
  have lists := groups_list gpsIds integers r.svUsedInFix groups start (by simpa using room)
  rw [List.nil_append] at lists
  have listed : groups.flatMap (fun group => group.infos r.svUsedInFix) ≠ [] := by
    intro none
    rcases List.exists_mem_of_ne_nil groups present with ⟨group, member⟩
    have without := List.flatMap_eq_nil_iff.mp none group member
    exact group.nonempty (List.map_eq_nil_iff.mp without)
  rw [encode]
  rcases List.eq_nil_or_concat (groups.flatMap Group.messages) with none | ⟨earlier, last, split⟩
  · rw [none] at lists
    have count : (0 : Int) = _ := empty.symm.trans lists.numSvs
    have positive := List.length_pos_iff.mpr listed
    omega
  · rw [List.concat_eq_append] at split
    rw [split] at lists messages ⊢
    rw [List.foldl_append, List.foldl_cons, List.foldl_nil] at lists
    rcases messages last (by simp) with ⟨group, index, rfl, size, inside⟩
    rcases message_line group index size inside with ⟨content, framed, plain, fits, _⟩
    rcases feed_messages mode moment earlier (fun line member => messages line (by simp [member]))
      idle with ⟨idle', used, gnss, reports⟩
    have chunked : chunk moment (earlier ++ [group.message index]).flatten =
        unended moment earlier.flatten ++ (unended moment content ++
          [(newline, { moment with gpsNmeaEndTag := true })]) := by
      rw [List.flatten_append, List.flatten_singleton, chunk_append _ _ _ (by simp [framed]),
        framed, chunk_append _ _ _ (by simp)]
      rfl
    rw [chunked, feed_append, feed_line moment _ idle' plain fits, ← framed]
    generalize feed platform r (unended moment earlier.flatten) = r₁ at used gnss reports idle' ⊢
    rw [← gnss] at lists
    have tagged : Moment.gpsNmeaEndTag { moment with gpsNmeaEndTag := true } = true := rfl
    have ended := finish_ended mode tagged
      (r := { r₁ with input := group.message index }) group index size inside rfl
    have same : NmeaReader.gnss { r₁ with input := group.message index } = r₁.gnss := rfl
    rw [same, used, lists.numSvs, lists.listed, reports] at ended
    rw [used]
    exact ended (Int.natCast_ne_zero.mpr (List.length_pos_iff.mpr listed).ne')

def oneGps : Group := ⟨.gp, [⟨7, 45, 120, 33, by decide, by decide, by decide, by decide⟩], by simp⟩

theorem one_group_reported :
    statusReports (feed gnssPlatform (nmeaReaderInit fun _ => 0)
      (chunk epochMoment (encode [oneGps]))).log = [[⟨7, .gps, 33, 45, 120, svFlagsNone⟩]] :=
  encoded_groups_reported rfl rfl leadingDigits_exact [oneGps] (by simp) (by decide) epochMoment _
    ⟨rfl, rfl⟩ rfl

/-- A reader in the middle of a sentence takes the first message for the rest of it. -/
theorem partial_line_loses_group :
    ¬ ∀ (platform : Platform), platform.gpsMode = 0 → platform.gpsMaxSvs = 32 →
      ExactOnIntegers platform.strtod → ∀ groups : List Group, groups ≠ [] →
      ((groups.map Group.size).sum : Int) ≤ platform.gnssMaxSvs → ∀ moment r,
      r.svStatusGnss.numSvs = 0 →
      statusReports (feed platform r (chunk moment (encode groups))).log =
        statusReports r.log ++ [groups.flatMap (fun group => group.infos r.svUsedInFix)] := by
  intro reported
  have asserted := reported gnssPlatform rfl rfl leadingDigits_exact [oneGps] (by simp) (by decide)
    epochMoment (feed gnssPlatform (nmeaReaderInit fun _ => 0)
      (chunk epochMoment (bytes "$GPGGA,"))) (by decide +kernel)
  revert asserted
  decide +kernel

end X5MaxDevice.Gps.SatelliteReport
