import X5MaxDevice.Base.Decoding
import X5MaxDevice.Gps.Framing
import X5MaxDevice.Gps.SatelliteReport
import X5MaxDevice.Ygps.GsvMessages

/-! The satellites that the HAL holds after the messages of encoded groups, and those that YGPS
rebuilds from the sentences that the HAL passes on. -/

namespace X5MaxDevice.Ygps.HalSatellites

open X5MaxDevice.Decoding (chars toNat_ofNat_byte)
open X5MaxDevice.Gps
open X5MaxDevice.Gps.Reader
open X5MaxDevice.Gps.Tokenizer
open X5MaxDevice.Java

variable {L : Type} {talker : Gsv.Talker}

def passed : Event → Option Bytes
  | .nmeaCb _ sentence => some sentence
  | _ => none

/-- The sentences passed to `nmea_cb`. -/
def passedOn (log : List Event) : List Bytes := log.filterMap passed

def talkerOf : Gsv.Talker → Talker
  | .gp => .gp
  | .gl => .gl
  | .bd => .bd

/-- An entry of the HAL and one of YGPS for the same satellite; the HAL moves the ids of BeiDou
satellites. -/
structure SameSatellite (info : GnssSvInfo) (sv : SatelliteInfo) : Prop where
  id : info.svid = sv.mPrn + if info.constellation = .beidou then 200 else 0
  snr : sv.mSnr = .finite false info.cN0Dbhz
  elevation : sv.mElevation = .finite false info.elevation
  azimuth : sv.mAzimuth = .finite false info.azimuth

/-- A number that stands in `width` digits. -/
def padded (width n : Nat) : GsvMessages.Numeral := ⟨n, width - Gsv.digitCount n⟩

/-- A satellite of a group as the texts of its fields show it. -/
def satelliteOf (satellite : Gsv.Satellite talker) : GsvMessages.Satellite where
  prn := padded 2 satellite.id
  elevation := some (padded 2 satellite.elevation)
  azimuth := some (padded 3 satellite.azimuth)
  snr := some (padded 2 satellite.snr)
  prn_positive := by
    have range := satellite.id_range
    have first : 1 ≤ talker.firstId := by cases talker <;> decide
    simp only [padded]
    omega
  prn_int := by
    have range := satellite.id_range
    have first : talker.firstId ≤ 65 := by cases talker <;> decide
    simp only [padded]
    omega

theorem chars_append (first second : Bytes) :
    chars (first ++ second) = chars first ++ chars second :=
  List.map_append

theorem chars_join (fields : List Bytes) :
    chars ([comma].intercalate fields) = join ',' (fields.map chars) := by
  induction fields with
  | nil => rfl
  | cons first rest ih =>
      cases rest with
      | nil => simp [join, List.intercalate, chars]
      | cons second rest =>
          rw [List.map_cons, List.map_cons, intercalate_cons_cons, ← List.map_cons, ← ih]
          simp [List.intercalate, List.intersperse, chars]
          rfl

theorem digit_char {d : Nat} (small : d < 10) : Char.ofNat (Gsv.digit d).toNat = d.digitChar := by
  revert d
  decide

theorem numeral_zero (width : Nat) : chars (Gsv.numeral width 0) = List.replicate width '0' := by
  induction width with
  | zero => rfl
  | succ width ih =>
      rw [Gsv.numeral, chars_append, Nat.zero_div, ih, List.replicate_succ']
      rfl

theorem padded_text (width n : Nat) : (padded width n).text =
    List.replicate (width - Gsv.digitCount n) '0' ++ Nat.toDigits 10 n := by
  rw [GsvMessages.Numeral.text, if_neg (by simp [padded])]
  rfl

/-- The digits of a number behind leading zeros. -/
theorem chars_numeral {width n : Nat} (fits : Gsv.digitCount n ≤ width) :
    chars (Gsv.numeral width n) = (padded width n).text := by
  rw [padded_text]
  induction width generalizing n with
  | zero => simp [Gsv.digitCount] at fits
  | succ width ih =>
      have last : chars [Gsv.digit (n % 10)] = [(n % 10).digitChar] := by
        simp [chars, digit_char (Nat.mod_lt n (by decide))]
      rw [Gsv.numeral, chars_append, last]
      by_cases single : n < 10
      · have one : Gsv.digitCount n = 1 := by rw [Gsv.digitCount, Nat.log_of_lt single]
        rw [Nat.div_eq_of_lt single, numeral_zero, Nat.mod_eq_of_lt single,
          Nat.toDigits_of_lt_base single, one, Nat.add_sub_cancel]
      · have count : Gsv.digitCount n = Gsv.digitCount (n / 10) + 1 := by
          have positive : 0 < Nat.log 10 n := Nat.log_pos (by decide) (by omega)
          simp only [Gsv.digitCount, Nat.log_div_base]
          omega
        rw [ih (by omega), count, Nat.toDigits_of_base_le (n := n) (by decide) (by omega),
          List.append_assoc, Nat.add_sub_add_right]

theorem digitCount_le_of_lt {n width : Nat} (positive : 0 < width) (small : n < 10 ^ width) :
    Gsv.digitCount n ≤ width := by
  have below : Nat.log 10 n < width := Nat.log_lt_of_lt_pow' (by omega) small
  rw [Gsv.digitCount]
  omega

theorem chars_exact (n : Nat) : chars (Gsv.numeral (Gsv.digitCount n) n) = Nat.toDigits 10 n := by
  rw [chars_numeral le_rfl, padded_text, Nat.sub_self, List.replicate_zero, List.nil_append]

/-- The number of satellites in view has at least two digits on both sides. -/
theorem chars_total (n : Nat) : chars (Gsv.numeral (max 2 (Gsv.digitCount n)) n) =
    (GsvMessages.Numeral.mk n (if n < 10 then 1 else 0)).text := by
  rw [chars_numeral (le_max_right _ _), padded]
  by_cases single : n < 10
  · have one : Gsv.digitCount n = 1 := by rw [Gsv.digitCount, Nat.log_of_lt single]
    rw [one, if_pos single]
    rfl
  · have more : 0 < Nat.log 10 n := Nat.log_pos (by decide) (by omega)
    have two : 2 ≤ Gsv.digitCount n := by
      rw [Gsv.digitCount]
      omega
    rw [max_eq_right two, Nat.sub_self, if_neg single]

theorem chars_fields (satellite : Gsv.Satellite talker) :
    satellite.fields.map chars = (satelliteOf satellite).fields := by
  have id : satellite.id < 10 ^ 2 := by
    have range := satellite.id_range
    have first : talker.firstId ≤ 65 := by cases talker <;> decide
    omega
  have elevation := satellite.elevation_range
  have azimuth := satellite.azimuth_range
  have snr := satellite.snr_range
  simp only [Gsv.Satellite.fields, List.map_cons, List.map_nil, GsvMessages.Satellite.fields,
    satelliteOf, GsvMessages.fieldText]
  rw [chars_numeral (digitCount_le_of_lt (by decide) id),
    chars_numeral (digitCount_le_of_lt (by decide) (by omega : satellite.elevation < 10 ^ 2)),
    chars_numeral (digitCount_le_of_lt (by decide) (by omega : satellite.azimuth < 10 ^ 3)),
    chars_numeral (digitCount_le_of_lt (by decide) (by omega : satellite.snr < 10 ^ 2))]

theorem checksum_nat (body : Bytes) : (Gsv.checksum body).toNat =
    (chars body).foldl (fun sum c => sum ^^^ c.toNat) 0 := by
  have run : ∀ sum : UInt8, (body.foldl (fun sum b => sum ^^^ b) sum).toNat =
      (chars body).foldl (fun sum c => sum ^^^ c.toNat) sum.toNat := by
    induction body with
    | nil => exact fun sum => rfl
    | cons b rest ih =>
        intro sum
        rw [chars, List.map_cons, List.foldl_cons, List.foldl_cons, toNat_ofNat_byte,
          ← UInt8.toNat_xor]
        exact ih (sum ^^^ b)
  exact run 0

theorem hexDigit_char {d : Nat} (small : d < 16) :
    Char.ofNat (Gsv.hexDigit d).toNat = GsvMessages.upperHex d := by
  revert d
  decide

theorem chars_checksum (body : Bytes) : chars [Gsv.hexDigit ((Gsv.checksum body).toNat / 16),
    Gsv.hexDigit ((Gsv.checksum body).toNat % 16)] = GsvMessages.checksum (chars body) := by
  have bound : (Gsv.checksum body).toNat < 256 := (Gsv.checksum body).toNat_lt
  have high : (Gsv.checksum body).toNat / 16 % 16 = (Gsv.checksum body).toNat / 16 := by omega
  rw [GsvMessages.checksum, ← checksum_nat, high]
  simp only [chars, List.map_cons, List.map_nil]
  rw [hexDigit_char (by omega), hexDigit_char (Nat.mod_lt _ (by decide))]

/-- The bytes of a sentence are the sentence of the texts of its fields. -/
theorem chars_sentence (first : Token) (rest : List Token) :
    chars (Gsv.sentence (first :: rest)) =
      GsvMessages.sentence true (('$' :: chars first) :: rest.map chars) := by
  have named : join ',' (('$' :: chars first) :: rest.map chars) =
      '$' :: chars ([comma].intercalate (first :: rest)) := by
    rw [chars_join]
    cases rest with
    | nil => simp [join, List.intercalate]
    | cons second rest => simp only [List.map_cons, intercalate_cons_cons, List.cons_append]
  rw [GsvMessages.sentence, named, List.tail_cons, ← chars_checksum]
  simp [Gsv.sentence, chars]
  decide

theorem chars_sentenceId (talker : Gsv.Talker) :
    '$' :: chars talker.sentenceId = (talkerOf talker).text ++ "GSV".toList := by
  cases talker <;> decide

theorem chars_message (group : Gsv.Group) (index : Nat) :
    chars (group.message index) =
      GsvMessages.message true (talkerOf group.talker) group.messageCount (index + 1) group.size
        ((group.page index).map satelliteOf) := by
  have satellites : ((group.page index).flatMap Gsv.Satellite.fields).map chars =
      ((group.page index).map satelliteOf).flatMap GsvMessages.Satellite.fields := by
    rw [List.map_flatMap, List.flatMap_map]
    exact List.flatMap_congr fun satellite _ => chars_fields satellite
  rw [Gsv.Group.message, Gsv.Group.messageFields, List.cons_append, chars_sentence,
    chars_sentenceId, GsvMessages.message, List.cons_append]
  simp only [List.map_append, List.map_cons, List.map_nil, chars_exact, chars_total, satellites]
  rfl

/-- The pages of four satellites, counted from 0. -/
theorem pages_eq (satellites : List GsvMessages.Satellite) : GsvMessages.pages satellites =
    (List.range ((satellites.length + 3) / 4)).map
      (fun index => (satellites.drop (4 * index)).take 4) := by
  fun_induction GsvMessages.pages satellites with
  | case1 a b c d e rest ih =>
      have count : ((a :: b :: c :: d :: e :: rest).length + 3) / 4 =
          ((e :: rest).length + 3) / 4 + 1 := by
        simp only [List.length_cons]
        omega
      have later (index : Nat) : (a :: b :: c :: d :: e :: rest).drop (4 * (index + 1)) =
          (e :: rest).drop (4 * index) := by
        rw [show 4 * (index + 1) = 4 * index + 4 by omega]
        rfl
      rw [count, List.range_succ_eq_map, List.map_cons, List.map_map, ih]
      refine congrArg₂ List.cons rfl (List.map_congr_left fun index _ => ?_)
      rw [Function.comp_apply, later]
  | case2 => rfl
  | case3 final more present =>
      have short : final.length ≤ 4 := by
        rcases final with _ | ⟨a, _ | ⟨b, _ | ⟨c, _ | ⟨d, _ | ⟨e, rest⟩⟩⟩⟩⟩
        · simp
        · simp
        · simp
        · simp
        · simp
        · exact (more a b c d e rest rfl).elim
      have some : 0 < final.length := List.length_pos_iff.mpr present
      have one : (final.length + 3) / 4 = 1 := by omega
      rw [one]
      simp [List.take_of_length_le short]

theorem numbered_eq (terminated : Bool) (talker : Talker) (count total first : Nat)
    (group : List (List GsvMessages.Satellite)) :
    GsvMessages.numbered terminated talker count total first group =
      group.mapIdx (fun index page =>
        GsvMessages.message terminated talker count (first + index) total page) := by
  induction group generalizing first with
  | nil => rfl
  | cons page rest ih =>
      rw [GsvMessages.numbered, ih, List.mapIdx_cons]
      simp only [Nat.add_zero, Nat.add_assoc, Nat.add_comm 1]

/-- The messages of a group are those of its satellites for the parser. -/
theorem chars_messages (group : Gsv.Group) : group.messages.map chars =
    GsvMessages.messages true (talkerOf group.talker) (group.satellites.map satelliteOf) := by
  have pages := pages_eq (group.satellites.map satelliteOf)
  have page (index : Nat) : ((group.satellites.map satelliteOf).drop (4 * index)).take 4 =
      (group.page index).map satelliteOf := by
    rw [Gsv.Group.page, List.map_take, List.map_drop]
  simp only [page, List.length_map] at pages
  rw [GsvMessages.messages, numbered_eq, pages]
  apply List.ext_getElem
  · simp [Gsv.Group.messages, Gsv.Group.messageCount, Gsv.Group.size]
  · intro index left right
    simp [Gsv.Group.messages, chars_message, Gsv.Group.messageCount, Gsv.Group.size, Nat.add_comm]

/-- The messages of groups of different talkers leave the lists of the groups, and the lists of
the other talkers as they were. -/
theorem groups_shown (parser : NmeaParser L) (groups : List Gsv.Group)
    (distinct : (groups.map Gsv.Group.talker).Nodup)
    (arrayList : ∀ group ∈ groups, group.size ≤ 2147483647) :
    let after := parseAll parser ((groups.flatMap Gsv.Group.messages).map chars)
    (∀ group ∈ groups, ∃ used, after.mSatelInfoList (talkerOf group.talker) =
        (group.satellites.map satelliteOf).map (GsvMessages.listed used (talkerOf group.talker))) ∧
      ∀ talker, (∀ group ∈ groups, talkerOf group.talker ≠ talker) →
        after.mSatelInfoList talker = parser.mSatelInfoList talker := by
  induction groups generalizing parser with
  | nil => exact ⟨fun group member => absurd member List.not_mem_nil, fun talker _ => rfl⟩
  | cons group groups ih =>
      have present : group.satellites.map satelliteOf ≠ [] := by
        simpa using group.nonempty
      have fits : (group.satellites.map satelliteOf).length ≤ 2147483647 := by
        simpa [Gsv.Group.size] using arrayList group List.mem_cons_self
      have first := GsvMessages.messages_run parser true (talkerOf group.talker) present fits
      rw [List.map_cons, List.nodup_cons] at distinct
      rcases ih (parseAll parser (group.messages.map chars)) distinct.2
        (fun other member => arrayList other (List.mem_cons_of_mem _ member)) with ⟨shown, others⟩
      have split : parseAll parser (((group :: groups).flatMap Gsv.Group.messages).map chars) =
          parseAll (parseAll parser (group.messages.map chars))
            ((groups.flatMap Gsv.Group.messages).map chars) := by
        rw [List.flatMap_cons, List.map_append, parseAll, List.foldl_append]
        rfl
      rw [split]
      rw [← chars_messages] at first
      refine ⟨fun member inside => ?_, fun talker absent => ?_⟩
      · rcases List.mem_cons.mp inside with rfl | later
        · refine ⟨parser.mUsedFixIdMapList (some (talkerOf member.talker)), ?_⟩
          rw [others _ fun other there same => distinct.1 ?_, first, Function.update_self]
          have talkers : other.talker = member.talker := by
            revert same
            cases other.talker <;> cases member.talker <;> decide
          exact talkers ▸ List.mem_map_of_mem there
        · exact shown member later
      · rw [others talker fun other there => absent other (List.mem_cons_of_mem _ there), first,
          Function.update_of_ne (absent group List.mem_cons_self).symm]

/-- The entries of a constellation are those of the group of its talker. -/
theorem infos_filter (svUsedInFix : Int → Int) (groups : List Gsv.Group)
    (distinct : (groups.map Gsv.Group.talker).Nodup) :
    ∀ group ∈ groups, (groups.flatMap (fun group => group.infos svUsedInFix)).filter
        (fun info => info.constellation = group.talker.constellation) =
      group.infos svUsedInFix := by
  have kept (group : Gsv.Group) : (group.infos svUsedInFix).filter
      (fun info => info.constellation = group.talker.constellation) =
        group.infos svUsedInFix := by
    apply List.filter_eq_self.mpr
    intro info member
    rcases List.mem_map.mp member with ⟨satellite, -, rfl⟩
    simp [Gsv.Satellite.info]
  have dropped (group other : Gsv.Group) (differ : other.talker ≠ group.talker) :
      (other.infos svUsedInFix).filter
        (fun info => info.constellation = group.talker.constellation) = [] := by
    apply List.filter_eq_nil_iff.mpr
    intro info member
    rcases List.mem_map.mp member with ⟨satellite, -, rfl⟩
    have constellations : other.talker.constellation ≠ group.talker.constellation := by
      revert differ
      cases other.talker <;> cases group.talker <;> decide
    simp [Gsv.Satellite.info, constellations]
  induction groups with
  | nil => exact fun group member => absurd member List.not_mem_nil
  | cons first groups ih =>
      intro group member
      rw [List.map_cons, List.nodup_cons] at distinct
      rw [List.flatMap_cons, List.filter_append]
      rcases List.mem_cons.mp member with rfl | later
      · have none : (groups.flatMap (fun group => group.infos svUsedInFix)).filter
            (fun info => info.constellation = group.talker.constellation) = [] := by
          rw [List.filter_flatMap]
          apply List.flatMap_eq_nil_iff.mpr
          intro other there
          exact dropped group other fun same => distinct.1 (same ▸ List.mem_map_of_mem there)
        rw [kept, none, List.append_nil]
      · have differ : first.talker ≠ group.talker := fun same =>
          distinct.1 (same ▸ List.mem_map_of_mem later)
        rw [dropped group first differ, List.nil_append]
        exact ih distinct.2 group later

theorem sameSatellite (svUsedInFix : Int → Int) (used : List Int)
    (satellite : Gsv.Satellite talker) :
    SameSatellite (satellite.info svUsedInFix)
      (GsvMessages.listed used (talkerOf talker) (satelliteOf satellite)) := by
  have exact (n : Nat) (small : n ≤ 1000) : JFloat.ofInt (n : Int) = .finite false n := by
    rw [JFloat.ofInt_of_small (by omega), Int.natAbs_natCast, decide_eq_false (by omega)]
  have elevation := satellite.elevation_range
  have azimuth := satellite.azimuth_range
  have snr := satellite.snr_range
  refine ⟨?_, ?_, ?_, ?_⟩
  · simp only [Gsv.Satellite.info, GsvMessages.listed, satelliteOf, padded]
    cases talker <;> rfl
  · exact exact satellite.snr (by omega)
  · exact (exact satellite.elevation (by omega)).trans (by simp [Gsv.Satellite.info])
  · exact (exact satellite.azimuth (by omega)).trans (by simp [Gsv.Satellite.info])

section Passing

variable (platform : Platform) (moment : Moment)

theorem reportLocation_passedOn (r : NmeaReader) :
    passedOn (reportLocation moment r).log = passedOn r.log := by
  rcases reportLocation_cases moment r with ⟨fix, events, same, locations⟩
  have quiet : events.filterMap passed = [] := by
    apply List.filterMap_eq_nil_iff.mpr
    intro event member
    have kind := locations event member
    revert kind
    cases event <;> simp [locationEvent, passed]
  rw [same]
  simp [passedOn, quiet]

theorem reportSvStatus_passedOn (r : NmeaReader) :
    passedOn (reportSvStatus platform moment r).log = passedOn r.log := by
  unfold reportSvStatus reportGnss reportGps
  split
  · split
    · simp [NmeaReader.setGnss, NmeaReader.record, passedOn, passed]
    · rfl
  · split
    · split
      · simp [NmeaReader.setGps, NmeaReader.record, passedOn, passed]
      · rfl
    · rfl

theorem parseFields_passedOn (r : NmeaReader) (tzer : NmeaTokenizer) :
    passedOn (parseFields platform moment r tzer).log = passedOn r.log := by
  rcases parseFields_cases platform moment r tzer with ⟨utc, fix, same⟩ | ⟨mode, mask, used, same⟩ |
    ⟨_, same⟩ | ⟨_, same⟩
  · rw [same]
  · rw [same]
  · rw [same, parseGsvGnss, NmeaReader.setGnss]
  · rw [same, parseGsvGps, NmeaReader.setGps]

theorem nmeaReaderParse_passedOn (r : NmeaReader) (sentence : Bytes) :
    passedOn (nmeaReaderParse platform moment r sentence).log = passedOn r.log := by
  have recorded : passedOn (r.record (.parse sentence)).log = passedOn r.log := by
    simp [NmeaReader.record, passedOn, passed]
  unfold nmeaReaderParse
  dsimp only
  split
  · exact recorded
  · split
    · exact recorded
    · rw [reportSvStatus_passedOn, reportLocation_passedOn, parseFields_passedOn, recorded]

/-- A finished line is parsed and passed on. -/
theorem nmeaReaderFinish_passedOn (r : NmeaReader) :
    passedOn (nmeaReaderFinish platform moment r).log = passedOn r.log ++ [r.input] ∧
      Framing.handed (nmeaReaderFinish platform moment r).log =
        Framing.handed r.log ++ [r.input] := by
  have parsed := Framing.nmeaReaderParse_collecting platform moment r r.input
  have finished := Framing.nmeaReaderFinish_collecting platform moment r
  simp only [Framing.collecting, Prod.mk.injEq] at parsed finished
  refine ⟨?_, finished.2.2⟩
  have kept := nmeaReaderParse_passedOn platform moment r r.input
  rw [nmeaReaderFinish]
  dsimp only [NmeaReader.record]
  rw [parsed.2.1, ← kept, passedOn, List.filterMap_append]
  rfl

/-- What a byte hands to the parser it also passes on. -/
theorem nmeaReaderAddc_passedOn (r : NmeaReader) (c : UInt8) :
    ∃ sentences, passedOn (nmeaReaderAddc platform moment r c).log = passedOn r.log ++ sentences ∧
      Framing.handed (nmeaReaderAddc platform moment r c).log =
        Framing.handed r.log ++ sentences := by
  have nothing (r' : NmeaReader) (log : r'.log = r.log) : ∃ sentences,
      passedOn r'.log = passedOn r.log ++ sentences ∧
        Framing.handed r'.log = Framing.handed r.log ++ sentences :=
    ⟨[], by rw [log, List.append_nil], by rw [log, List.append_nil]⟩
  rw [nmeaReaderAddc]
  split
  · exact nothing _ rfl
  · split
    · exact nothing _ rfl
    · split
      · exact ⟨[r.input ++ [c]], nmeaReaderFinish_passedOn platform moment _⟩
      · exact nothing _ rfl

theorem feed_passedOn (r : NmeaReader) (stream : List (UInt8 × Moment)) :
    ∃ sentences, passedOn (feed platform r stream).log = passedOn r.log ++ sentences ∧
      Framing.handed (feed platform r stream).log = Framing.handed r.log ++ sentences := by
  induction stream generalizing r with
  | nil => exact ⟨[], by simp [feed], by simp [feed]⟩
  | cons next stream ih =>
      rcases nmeaReaderAddc_passedOn platform next.2 r next.1 with ⟨first, passed, handed⟩
      rcases ih (nmeaReaderAddc platform next.2 r next.1) with ⟨later, passedLater, handedLater⟩
      refine ⟨first ++ later, ?_, ?_⟩
      · rw [← List.append_assoc, ← passed, ← passedLater]
        rfl
      · rw [← List.append_assoc, ← handed, ← handedLater]
        rfl

end Passing

/-- Whole lines that fit are handed over one by one. -/
theorem deliver_lines (lines : List Bytes) (whole : ∀ line ∈ lines, ∃ content,
      line = content ++ [newline] ∧ newline ∉ content ∧ content.length < nmeaMaxSize) :
    Framing.deliver false (Framing.linesFrom [] lines.flatten) = lines := by
  have collect (content current rest : Bytes) (plain : newline ∉ content) :
      Framing.linesFrom current (content ++ newline :: rest) =
        (current ++ content ++ [newline]) :: Framing.linesFrom [] rest := by
    induction content generalizing current with
    | nil => simp [Framing.linesFrom]
    | cons b content ih =>
        rw [List.mem_cons, not_or] at plain
        rw [List.cons_append, Framing.linesFrom, if_neg (Ne.symm plain.1),
          ih (current ++ [b]) plain.2]
        simp
  induction lines with
  | nil => rfl
  | cons line lines ih =>
      rcases whole line List.mem_cons_self with ⟨content, rfl, plain, room⟩
      have fits : Framing.fits (content ++ [newline]) = true := by
        simp [Framing.fits]
        omega
      rw [List.flatten_cons, List.append_assoc, List.singleton_append, collect content [] _ plain,
        List.nil_append, Framing.deliver, if_pos fits,
        ih fun other member => whole other (List.mem_cons_of_mem _ member)]

end X5MaxDevice.Ygps.HalSatellites
