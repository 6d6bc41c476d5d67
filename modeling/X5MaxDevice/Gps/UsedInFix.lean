import Mathlib.Data.List.Infix
import X5MaxDevice.Gps.Epochs

/-! Which of the reported satellites the NMEA reader marks as used in the fix, epoch after
epoch. -/

namespace X5MaxDevice.Gps.UsedInFix

open X5MaxDevice.Gps.Epochs
open X5MaxDevice.Gps.Reader
open X5MaxDevice.Gps.SatelliteList
open X5MaxDevice.Gps.SatelliteReport
open X5MaxDevice.Gps.Tokenizer
open X5MaxDevice.Transitions

/-- The ids of all satellite fields that are not empty. -/
def listedIds (line : Line) : List Int :=
  ((gsaFields line.tokens).filter (fun tok => decide (tok ≠ []))).map (svId line.bds)

/-- One of the GSA sentences with a fix lists the id. -/
def Lists (epoch : Epoch) (id : Int) : Prop :=
  ∃ line ∈ epoch.lines, line.IsGsa ∧ line.Fixed ∧ id ∈ listedIds line

instance (epoch : Epoch) (id : Int) : Decidable (Lists epoch id) :=
  inferInstanceAs (Decidable (∃ line ∈ epoch.lines, _))

/-- The bit of a satellite in `used_in_fix_mask`. -/
def maskBit (mask : BitVec 32) (prn : Int) : Bool :=
  decide (1 ≤ prn) && mask.getLsbD (prn - 1).toNat

/-- Each satellite of the report is marked if and only if the epoch lists it. -/
def Marks (epoch : Epoch) : Event → Prop
  | .gnssSvStatusCb svs =>
      ∀ sv ∈ svs, sv.flags &&& svFlagsUsedInFix = svFlagsUsedInFix ↔ Lists epoch sv.svid
  | .svStatusCb svs mask => ∀ sv ∈ svs, maskBit mask sv.prn = true ↔ Lists epoch sv.prn
  | _ => True

/-- The reader, and the epochs delivered so far, each with the events it has led to. -/
structure History where
  reader : NmeaReader
  delivered : List (Epoch × List Event)

def deliver (platform : Platform) (h : History) (next : Epoch × Moment) : History :=
  let reader := feed platform h.reader (chunk next.2 next.1.bytes)
  ⟨reader, h.delivered ++ [(next.1, reader.log.drop h.reader.log.length)]⟩

def startHistory (svUsedInFix : Int → Int) : History := ⟨nmeaReaderInit svUsedInFix, []⟩

def AllMarked (h : History) : Prop :=
  ∀ epoch events, (epoch, events) ∈ h.delivered → ∀ event ∈ events, Marks epoch event

/-- The ids that a GSV sentence can store. -/
def Reportable (platform : Platform) (id : Int) : Prop :=
  0 < id ∧ (id < 65 → id ≤ platform.gpsMaxSvs) ∧
    (96 < id → platform.gpsMode = 0 ∧ 200 ≤ id ∧ id ≤ 232)

instance (platform : Platform) (id : Int) : Decidable (Reportable platform id) :=
  inferInstanceAs (Decidable (_ ∧ _ ∧ _))

def reportableIds (platform : Platform) : List Int :=
  ((List.range 233).map Int.ofNat).filter (fun id => decide (Reportable platform id))

/-- The ids that a GSA sentence of mode 0 can mark, and those of QZSS, which it passes over. -/
def SupportedGnss (id : Int) : Prop :=
  (1 ≤ id ∧ id ≤ 32) ∨ (193 ≤ id ∧ id ≤ 197) ∨ (65 ≤ id ∧ id ≤ 96) ∨ (201 ≤ id ∧ id ≤ 232)

instance (id : Int) : Decidable (SupportedGnss id) := inferInstanceAs (Decidable (_ ∨ _))

/-- The ids in front of the first empty field and of the first id that is not supported. -/
def reachedGnss (bds : Bool) (tokens : List Token) : List Int :=
  (tokens.takeWhile (fun tok => decide (tok ≠ [] ∧ SupportedGnss (svId bds tok)))).map (svId bds)

/-- Whatever can be reported is listed by sentences that the reader takes for GSA sentences,
in front of empty fields and of ids that are not supported. -/
def ReachedGnss (platform : Platform) (epoch : Epoch) : Prop :=
  ∀ line ∈ epoch.lines, line.IsGsa → line.Fixed →
    ∀ id ∈ listedIds line, Reportable platform id →
      line.Reads platform.gpsMode .gsaGnss ∧ id ∈ reachedGnss line.bds (gsaFields line.tokens)

instance (platform : Platform) (epoch : Epoch) : Decidable (ReachedGnss platform epoch) :=
  inferInstanceAs (Decidable (∀ line ∈ epoch.lines, _ → _ → ∀ id ∈ listedIds line, _ → _ ∧ _))

/-- The first GSV sentence is the first message of its group. -/
def Restarts (gpsMode : Int) (lines : List Line) : Prop :=
  (lines.find? (fun line => decide (line.Reads gpsMode .gsvGnss))).all
    (fun line => decide (str2int (line.tokens.get 2) = 1)) = true

instance (gpsMode : Int) (lines : List Line) : Decidable (Restarts gpsMode lines) :=
  inferInstanceAs (Decidable (_ = _))

/-- Nothing is left of earlier epochs: no stored satellites, and no marks of reportable ids
but those that the epoch lists again. -/
def NothingLeft (platform : Platform) (r : NmeaReader) (epoch : Epoch) : Prop :=
  (r.svStatusGnss.numSvs = 0 ∧ (r.svCount = 0 ∨ Restarts platform.gpsMode epoch.lines)) ∧
    ∀ id ∈ reportableIds platform, r.svUsedInFix id = 1 → Lists epoch id

instance (platform : Platform) (r : NmeaReader) (epoch : Epoch) :
    Decidable (NothingLeft platform r epoch) :=
  inferInstanceAs (Decidable ((_ ∧ _) ∧ ∀ id ∈ reportableIds platform, _ → _))

/-- The ids in front of the first empty field. -/
def reachedGps (tokens : List Token) : List Int :=
  (tokens.takeWhile (fun tok => decide (tok ≠ []))).map str2int

/-- The mask has a bit for the id, or the id is one of QZSS. -/
def SupportedGps (id : Int) : Prop := (1 ≤ id ∧ id ≤ 32) ∨ (193 ≤ id ∧ id ≤ 197)

instance (id : Int) : Decidable (SupportedGps id) := inferInstanceAs (Decidable (_ ∨ _))

def lastGpgsa (gpsMode : Int) (lines : List Line) : Option Line :=
  (lines.filter (fun line => decide (line.Reads gpsMode .gsaGps))).getLast?

/-- The last GPGSA sentence has supported ids only and lists whatever can be reported and is
listed in the epoch; without one, nothing is listed and no mark is left. -/
def MaskCovers (platform : Platform) (mask : BitVec 32) (epoch : Epoch) : Option Line → Prop
  | none => ∀ id ∈ reportableIds platform, ¬ maskBit mask id = true ∧ ¬ Lists epoch id
  | some line =>
      (line.Fixed → ∀ id ∈ reachedGps (gsaFields line.tokens), SupportedGps id) ∧
        ∀ id ∈ reportableIds platform, Lists epoch id →
          id ≤ 32 ∧ line.Fixed ∧ id ∈ reachedGps (gsaFields line.tokens)

instance (platform : Platform) (mask : BitVec 32) (epoch : Epoch) :
    (last : Option Line) → Decidable (MaskCovers platform mask epoch last)
  | none => inferInstanceAs (Decidable (∀ id ∈ reportableIds platform, _ ∧ _))
  | some line =>
      inferInstanceAs (Decidable ((_ → ∀ id ∈ reachedGps (gsaFields line.tokens), _) ∧
        ∀ id ∈ reportableIds platform, _ → _ ∧ _ ∧ _))

/-- No sentence of the epoch counts stored satellites a second time. -/
def CountsOnceAlong (platform : Platform) (r : NmeaReader) (next : Epoch × Moment) : Prop :=
  AdmittedAlong (fun r line => recommits platform.gpsMode r line.sentence = false)
    (absorb platform next.2) r next.1.lines

instance (platform : Platform) (r : NmeaReader) (next : Epoch × Moment) :
    Decidable (CountsOnceAlong platform r next) :=
  inferInstanceAs (Decidable (AdmittedAlong _ _ _ _))

def Regular (platform : Platform) (h : History) (next : Epoch × Moment) : Prop :=
  CountsOnceAlong platform h.reader next ∧
    (platform.gpsMode = 0 →
      NothingLeft platform h.reader next.1 ∧ ReachedGnss platform next.1) ∧
    (platform.gpsMode = 1 →
      MaskCovers platform h.reader.usedInFixMask next.1
        (lastGpgsa platform.gpsMode next.1.lines))

instance (platform : Platform) (h : History) (next : Epoch × Moment) :
    Decidable (Regular platform h next) :=
  inferInstanceAs (Decidable (_ ∧ (_ → _ ∧ _) ∧ (_ → _)))

theorem mem_reportableIds {platform : Platform} {id : Int} (reportable : Reportable platform id) :
    id ∈ reportableIds platform := by
  have below : id ≤ 232 := by
    rcases reportable with ⟨_, _, high⟩
    by_contra above
    have bound := (high (by omega)).2.2
    omega
  rw [reportableIds, List.mem_filter, List.mem_map]
  refine ⟨⟨id.toNat, ?_, ?_⟩, decide_eq_true reportable⟩
  · exact List.mem_range.mpr (by omega)
  · exact Int.toNat_of_nonneg reportable.1.le

theorem reachedGnss_stop {bds : Bool} {tok : Token} (rest : List Token)
    (stops : ¬ (tok ≠ [] ∧ SupportedGnss (svId bds tok))) : reachedGnss bds (tok :: rest) = [] := by
  rw [reachedGnss, List.takeWhile_cons, if_neg (by simpa using stops), List.map_nil]

theorem reachedGnss_cons {bds : Bool} {tok : Token} (rest : List Token)
    (reads : tok ≠ [] ∧ SupportedGnss (svId bds tok)) :
    reachedGnss bds (tok :: rest) = svId bds tok :: reachedGnss bds rest := by
  rw [reachedGnss, List.takeWhile_cons, if_pos (decide_eq_true reads)]
  rfl

/-- One satellite field marks its id, unless it is one of QZSS, and the next is read. -/
theorem gsaUsedInFix_cons {bds : Bool} {tok : Token} (rest : List Token) (used : Int → Int)
    (reads : tok ≠ [] ∧ SupportedGnss (svId bds tok)) :
    gsaUsedInFix bds (tok :: rest) used =
      gsaUsedInFix bds rest (Function.update used (svId bds tok)
        (if 193 ≤ svId bds tok ∧ svId bds tok ≤ 197 then 0 else 1)) := by
  rcases reads with ⟨present, supported⟩
  rw [gsaUsedInFix]
  simp only [if_neg present]
  rcases supported with gps | qzss | glonass | beidou
  · rw [if_pos gps, if_neg (by omega)]
  · rw [if_neg (by omega), if_pos qzss, if_pos qzss]
  · rw [if_neg (by omega), if_neg (by omega), if_pos glonass, if_neg (by omega)]
  · rw [if_neg (by omega), if_neg (by omega), if_neg (by omega), if_pos beidou, if_neg (by omega)]

theorem gsaUsedInFix_stop {bds : Bool} {tok : Token} (rest : List Token) (used : Int → Int)
    (stops : ¬ (tok ≠ [] ∧ SupportedGnss (svId bds tok))) :
    gsaUsedInFix bds (tok :: rest) used = used := by
  rw [gsaUsedInFix]
  split
  case isTrue => rfl
  case isFalse present =>
    have unsupported : ¬ SupportedGnss (svId bds tok) := fun supported => stops ⟨present, supported⟩
    rw [SupportedGnss] at unsupported
    rw [if_neg (by omega), if_neg (by omega), if_neg (by omega), if_neg (by omega)]

/-- A GSA sentence marks exactly the ids that it reaches. -/
theorem gsaUsedInFix_iff {bds : Bool} {id : Int} (plain : ¬ (193 ≤ id ∧ id ≤ 197))
    (tokens : List Token) (used : Int → Int) :
    gsaUsedInFix bds tokens used id = 1 ↔ used id = 1 ∨ id ∈ reachedGnss bds tokens := by
  induction tokens generalizing used with
  | nil => simp [gsaUsedInFix, reachedGnss]
  | cons tok rest ih =>
      by_cases reads : tok ≠ [] ∧ SupportedGnss (svId bds tok)
      · rw [gsaUsedInFix_cons rest used reads, reachedGnss_cons rest reads, ih, List.mem_cons]
        by_cases here : id = svId bds tok
        · rw [← here, Function.update_self, if_neg plain]
          simp
        · rw [Function.update_of_ne here]
          simp [here]
      · rw [gsaUsedInFix_stop rest used reads, reachedGnss_stop rest reads]
        simp

theorem reachedGnss_listed {line : Line} {id : Int}
    (reached : id ∈ reachedGnss line.bds (gsaFields line.tokens)) : id ∈ listedIds line := by
  rcases List.mem_map.mp reached with ⟨tok, taken, same⟩
  have reads := List.mem_takeWhile_imp taken
  have present : tok ≠ [] := (of_decide_eq_true reads).1
  exact List.mem_map.mpr ⟨tok, List.mem_filter.mpr
    ⟨(List.takeWhile_sublist _).subset taken, decide_eq_true present⟩, same⟩

/-- The marks after the lines of an epoch. -/
theorem foldl_markGsa_iff {platform : Platform} {id : Int} (plain : ¬ (193 ≤ id ∧ id ≤ 197))
    (lines : List Line) (used : Int → Int) :
    lines.foldl (markGsa platform) used id = 1 ↔ used id = 1 ∨
      ∃ line ∈ lines, (line.Reads platform.gpsMode .gsaGnss ∧ line.Fixed) ∧
        id ∈ reachedGnss line.bds (gsaFields line.tokens) := by
  induction lines generalizing used with
  | nil => simp
  | cons line lines ih =>
      have first : markGsa platform used line id = 1 ↔ used id = 1 ∨
          ((line.Reads platform.gpsMode .gsaGnss ∧ line.Fixed) ∧
            id ∈ reachedGnss line.bds (gsaFields line.tokens)) := by
        rw [markGsa]
        split
        case isTrue marks => rw [gsaUsedInFix_iff plain, and_iff_right marks]
        case isFalse keeps => simp [keeps]
      rw [List.foldl_cons, ih, first, or_assoc]
      simp

theorem maskBit_or (mask : BitVec 32) {bit id : Int} (inside : 1 ≤ bit ∧ bit ≤ 32) :
    maskBit (mask ||| 1 <<< (bit - 1).toNat) id = true ↔ maskBit mask id = true ∨ id = bit := by
  rw [maskBit, maskBit, BitVec.getLsbD_or, BitVec.natCast_eq_ofNat, BitVec.getLsbD_ofNat,
    Nat.one_shiftLeft, Nat.testBit_two_pow]
  by_cases low : 1 ≤ id
  · have place : (id - 1).toNat < 32 ∧ (bit - 1).toNat = (id - 1).toNat ↔ id = bit := by omega
    rw [← place]
    simp [low]
  · have other : id ≠ bit := by omega
    simp [low, other]

/-- The mask that a GSA sentence of supported ids leaves. -/
theorem gsaMask_iff {id : Int} (tokens : List Token) (mask : BitVec 32)
    (supported : ∀ reached ∈ reachedGps tokens, SupportedGps reached) :
    maskBit (gsaMask tokens mask) id = true ↔
      maskBit mask id = true ∨ (1 ≤ id ∧ id ≤ 32 ∧ id ∈ reachedGps tokens) := by
  induction tokens generalizing mask with
  | nil => simp [gsaMask, reachedGps]
  | cons tok rest ih =>
      by_cases present : tok = []
      · simp [gsaMask, reachedGps, present]
      · have reads : reachedGps (tok :: rest) = str2int tok :: reachedGps rest := by
          rw [reachedGps, List.takeWhile_cons, if_pos (decide_eq_true present)]
          rfl
        rw [reads] at supported ⊢
        have later := fun reached member => supported reached (List.mem_cons_of_mem _ member)
        rw [gsaMask, List.mem_cons]
        simp only [if_neg present]
        rcases supported (str2int tok) List.mem_cons_self with gps | qzss
        · rw [if_pos gps, ih _ later, maskBit_or mask gps]
          constructor
          · rintro ((before | rfl) | reached)
            · exact .inl before
            · exact .inr ⟨gps.1, gps.2, .inl rfl⟩
            · exact .inr ⟨reached.1, reached.2.1, .inr reached.2.2⟩
          · rintro (before | ⟨low, high, rfl | reached⟩)
            · exact .inl (.inl before)
            · exact .inl (.inr rfl)
            · exact .inr ⟨low, high, reached⟩
        · rw [if_neg (by omega), if_pos qzss, ih _ later]
          have other : id ≤ 32 → id ≠ str2int tok := by omega
          constructor
          · rintro (before | ⟨low, high, reached⟩)
            · exact .inl before
            · exact .inr ⟨low, high, .inr reached⟩
          · rintro (before | ⟨low, high, same | reached⟩)
            · exact .inl before
            · exact absurd same (other high)
            · exact .inr ⟨low, high, reached⟩

theorem foldl_maskGsa {platform : Platform} (lines : List Line) (mask : BitVec 32) :
    lines.foldl (maskGsa platform) mask =
      match lastGpgsa platform.gpsMode lines with
      | none => mask
      | some line => if line.Fixed then gsaMask (gsaFields line.tokens) 0 else 0 := by
  induction lines using List.reverseRecOn with
  | nil => rfl
  | append_singleton lines line ih =>
      rw [List.foldl_append, List.foldl_cons, List.foldl_nil, maskGsa]
      by_cases reads : line.Reads platform.gpsMode .gsaGps
      · have last : lastGpgsa platform.gpsMode (lines ++ [line]) = some line := by
          simp [lastGpgsa, reads]
        rw [last, if_pos reads]
      · have last : lastGpgsa platform.gpsMode (lines ++ [line]) =
            lastGpgsa platform.gpsMode lines := by
          simp [lastGpgsa, reads]
        rw [last, if_neg reads, ih]

section Lists

variable {α : Type} {Q : α → Prop} {c : Counting α} {maxSvs : Int}

/-- The committed entries have the property. -/
structure Kept (Q : α → Prop) (c : Counting α) : Prop where
  count : 0 ≤ c.svCount
  committed : ∀ index, 0 ≤ index → index < c.numSvs → Q (c.svList index)

/-- The counted entries behind them have it too. -/
def CountedKept (Q : α → Prop) (c : Counting α) : Prop :=
  ∀ index, c.numSvs ≤ index → index < c.svCount + c.numSvs → Q (c.svList index)

theorem put_kept (maxSvs : Int) (kept : Kept Q c) {entry : α} (has : Q entry) :
    Kept Q (c.put maxSvs entry) ∧ (CountedKept Q c → CountedKept Q (c.put maxSvs entry)) := by
  have count := kept.count
  simp only [Counting.put]
  split
  · exact ⟨kept, id⟩
  · split
    · exact ⟨kept, id⟩
    · refine ⟨⟨by dsimp only; omega, ?_⟩, ?_⟩
      · intro index nonnegative below
        dsimp only at below ⊢
        rw [Function.update_of_ne (by omega)]
        exact kept.committed index nonnegative below
      · intro counts index above below
        dsimp only at above below ⊢
        by_cases last : index = c.svCount + c.numSvs
        · rw [last, Function.update_self]
          exact has
        · rw [Function.update_of_ne last]
          exact counts index above (by omega)

/-- `update` stores entries with the property only. -/
def StoresOnly (Q : α → Prop) (maxSvs : Int) (update : Counting α → Slot → Counting α) : Prop :=
  ∀ c slot, update c slot = c ∨ ∃ entry, Q entry ∧ update c slot = c.put maxSvs entry

theorem StoresOnly.one {update : Counting α → Slot → Counting α}
    (stores : StoresOnly Q maxSvs update) : StoresOne maxSvs update := by
  intro c slot
  rcases stores c slot with same | ⟨entry, -, same⟩
  · exact .inl same
  · exact .inr ⟨entry, same⟩

theorem slots_kept {update : Counting α → Slot → Counting α} (stores : StoresOnly Q maxSvs update)
    (slots : List Slot) (kept : Kept Q c) :
    Kept Q (slots.foldl update c) ∧ (CountedKept Q c → CountedKept Q (slots.foldl update c)) := by
  induction slots generalizing c with
  | nil => exact ⟨kept, id⟩
  | cons slot slots ih =>
      rcases stores c slot with same | ⟨entry, has, same⟩
      · rw [List.foldl_cons, same]
        exact ih kept
      · rcases put_kept maxSvs kept has with ⟨stored, counts⟩
        rcases ih stored with ⟨kept', counts'⟩
        rw [List.foldl_cons, same]
        exact ⟨kept', counts' ∘ counts⟩

/-- A GSV sentence that counts nothing a second time keeps the property of the entries. -/
theorem parseGsv_kept {update : Counting α → Slot → Counting α}
    (stores : StoresOnly Q maxSvs update) (tzer : NmeaTokenizer) (kept : Kept Q c)
    (counts : str2int (tzer.get 2) ≠ 1 → counted c.trace = false → CountedKept Q c)
    (once : str2int (tzer.get 2) ≠ 1 → str2int (tzer.get 2) = str2int (tzer.get 1) →
      c.svCount ≤ str2int (tzer.get 3) → counted c.trace = false) :
    Kept Q (parseGsv update tzer c) ∧
      (counted (parseGsv update tzer c).trace = false → CountedKept Q (parseGsv update tzer c)) := by
  have started : Kept Q (gsvFirst (str2int (tzer.get 2)) c) ∧
      (counted (gsvFirst (str2int (tzer.get 2)) c).trace = false →
        CountedKept Q (gsvFirst (str2int (tzer.get 2)) c)) ∧
      (str2int (tzer.get 2) = str2int (tzer.get 1) →
        (gsvFirst (str2int (tzer.get 2)) c).svCount ≤ str2int (tzer.get 3) →
          counted (gsvFirst (str2int (tzer.get 2)) c).trace = false) := by
    rw [gsvFirst]
    split
    case isTrue =>
      have nothing : CountedKept Q c.restart := by
        intro index above below
        simp only [Counting.restart] at above below
        omega
      exact ⟨⟨le_refl 0, kept.committed⟩, fun _ => nothing, fun _ _ => restart_uncounted c⟩
    case isFalse later => exact ⟨kept, counts later, once later⟩
  rcases started with ⟨first, counts', once'⟩
  rcases slots_kept stores (gsvSlots tzer (str2int (tzer.get 2)) (str2int (tzer.get 3))) first with
    ⟨stored, carried⟩
  rcases slots_counted stores.one (gsvSlots tzer (str2int (tzer.get 2)) (str2int (tzer.get 3)))
    (gsvFirst (str2int (tzer.get 2)) c) with ⟨same, grown⟩
  rw [← same] at counts'
  simp only [parseGsv]
  rw [gsvLast]
  split
  case isFalse => exact ⟨stored, carried ∘ counts'⟩
  case isTrue last =>
    split
    case isFalse =>
      refine ⟨⟨le_refl 0, fun index nonnegative below => ?_⟩, fun _ index above below => ?_⟩
      · exact absurd below (not_lt.mpr nonnegative)
      · exact absurd below (not_lt.mpr above)
    case isTrue within =>
      have fresh := once' last (grown.trans within)
      rw [← same] at fresh
      have all := carried (counts' fresh)
      refine ⟨⟨stored.count, ?_⟩, ?_⟩
      · intro index nonnegative below
        simp only [Counting.commit] at below ⊢
        by_cases earlier : index < ((gsvSlots tzer (str2int (tzer.get 2))
          (str2int (tzer.get 3))).foldl update (gsvFirst (str2int (tzer.get 2)) c)).numSvs
        · exact stored.committed index nonnegative earlier
        · exact all index (by omega) (by omega)
      · intro uncounted index above below
        have zero := commit_uncounted uncounted
        simp only [Counting.commit] at above below
        omega

theorem report_kept (c : Counting α) : Kept Q c.report ∧ CountedKept Q c.report := by
  refine ⟨⟨le_refl 0, fun index nonnegative below => ?_⟩, fun index above below => ?_⟩
  · exact absurd below (not_lt.mpr nonnegative)
  · exact absurd below (not_lt.mpr above)

theorem Kept.listed (kept : Kept Q c) : ∀ entry ∈ c.listed, Q entry := by
  intro entry member
  rcases List.mem_map.mp member with ⟨index, inside, rfl⟩
  have below := List.mem_range.mp inside
  exact kept.committed index (Int.natCast_nonneg index) (by omega)

end Lists

theorem prefix_behind {tok : Token} {id : String} (kind : String)
    (named : (bytes id).drop 2 = bytes kind) (starts : startsWith tok id = true) :
    startsWith (tok.drop 2) kind = true := by
  apply List.isPrefixOf_iff_prefix.mpr
  rw [← named]
  exact List.IsPrefix.drop (List.isPrefixOf_iff_prefix.mp starts) 2

theorem reads_isGsa {line : Line} {gpsMode : Int}
    (reads : line.Reads gpsMode .gsaGnss ∨ line.Reads gpsMode .gsaGps) : line.IsGsa := by
  have named : startsWith (line.tokens.get 0) "GPGSA" = true ∨
      startsWith (line.tokens.get 0) "BDGSA" = true ∨
        startsWith (line.tokens.get 0) "GLGSA" = true := by
    rcases reads with ⟨_, kind⟩ | ⟨_, kind⟩
    · rw [sentenceKind] at kind
      grind
    · rw [sentenceKind] at kind
      grind
  have long : 9 ≤ line.sentence.length := reads.elim And.left And.left
  rcases named with gps | beidou | glonass
  · exact ⟨long, prefix_behind "GSA" (by decide) gps⟩
  · exact ⟨long, prefix_behind "GSA" (by decide) beidou⟩
  · exact ⟨long, prefix_behind "GSA" (by decide) glonass⟩

theorem reads_isGsv {line : Line} {gpsMode : Int} (reads : line.Reads gpsMode .gsvGnss) :
    line.IsGsv := by
  rcases reads with ⟨long, kind⟩
  have named : startsWith ((line.tokens.get 0).drop 2) "GSV" = true := by
    rw [sentenceKind] at kind
    grind
  exact ⟨long, named⟩

/-- Only a GPGSA sentence sets the mask, and its ids are not moved. -/
theorem gsaGps_plain {line : Line} {gpsMode : Int} (reads : line.Reads gpsMode .gsaGps) :
    line.bds = false := by
  have named : startsWith (line.tokens.get 0) "GPGSA" = true := by
    have kind := reads.2
    rw [sentenceKind] at kind
    grind
  rcases List.isPrefixOf_iff_prefix.mp named with ⟨rest, token⟩
  rw [Line.bds, ← token]
  rfl

theorem reachedGps_listed {line : Line} {id : Int} (plain : line.bds = false)
    (reached : id ∈ reachedGps (gsaFields line.tokens)) : id ∈ listedIds line := by
  rcases List.mem_map.mp reached with ⟨tok, taken, same⟩
  have present := List.mem_takeWhile_imp taken
  have field : tok ∈ gsaFields line.tokens := (List.takeWhile_sublist _).subset taken
  rw [listedIds, plain]
  exact List.mem_map.mpr ⟨tok, List.mem_filter.mpr ⟨field, present⟩, same⟩

/-- When nothing is left of earlier epochs and all listed ids are reached, the marks of the
reportable ids are those that the epoch lists. -/
theorem marks_listed {platform : Platform} {epoch : Epoch} {used : Int → Int} {id : Int}
    (left : ∀ id ∈ reportableIds platform, used id = 1 → Lists epoch id)
    (reaches : ReachedGnss platform epoch) (reportable : Reportable platform id) :
    epoch.lines.foldl (markGsa platform) used id = 1 ↔ Lists epoch id := by
  have plain : ¬ (193 ≤ id ∧ id ≤ 197) := by
    rcases reportable with ⟨_, _, high⟩
    intro qzss
    have bound := (high (by omega)).2.1
    omega
  rw [foldl_markGsa_iff plain]
  constructor
  · rintro (before | ⟨line, member, ⟨reads, fixed⟩, reached⟩)
    · exact left id (mem_reportableIds reportable) before
    · exact ⟨line, member, reads_isGsa (.inl reads), fixed, reachedGnss_listed reached⟩
  · rintro ⟨line, member, gsa, fixed, listed⟩
    rcases reaches line member gsa fixed id listed reportable with ⟨reads, reached⟩
    exact .inr ⟨line, member, ⟨reads, fixed⟩, reached⟩

theorem mask_listed {platform : Platform} {epoch : Epoch} {mask : BitVec 32} {id : Int}
    (covers : MaskCovers platform mask epoch (lastGpgsa platform.gpsMode epoch.lines))
    (reportable : Reportable platform id) :
    maskBit (epoch.lines.foldl (maskGsa platform) mask) id = true ↔ Lists epoch id := by
  have member := mem_reportableIds reportable
  rw [foldl_maskGsa]
  cases last : lastGpgsa platform.gpsMode epoch.lines with
  | none =>
      rw [last] at covers
      have neither := covers id member
      exact ⟨fun marked => absurd marked neither.1, fun listed => absurd listed neither.2⟩
  | some line =>
      rw [last] at covers
      rcases covers with ⟨supported, covers⟩
      have found := List.mem_of_getLast? last
      rcases List.mem_filter.mp found with ⟨present, reads⟩
      have reads : line.Reads platform.gpsMode .gsaGps := of_decide_eq_true reads
      have unmarked : ¬ maskBit 0 id = true := by simp [maskBit]
      dsimp only
      constructor
      · intro marked
        by_cases fixed : line.Fixed
        · rw [if_pos fixed, gsaMask_iff _ _ (supported fixed)] at marked
          rcases marked with before | ⟨_, _, reached⟩
          · exact absurd before unmarked
          · exact ⟨line, present, reads_isGsa (.inr reads), fixed,
              reachedGps_listed (gsaGps_plain reads) reached⟩
        · rw [if_neg fixed] at marked
          exact absurd marked unmarked
      · intro listed
        rcases covers id member listed with ⟨high, fixed, reached⟩
        rw [if_pos fixed, gsaMask_iff _ _ (supported fixed)]
        exact .inr ⟨reportable.1, high, reached⟩

/-- The marks of the stored satellites, when the GSA sentences lead to `marks`. -/
def StoredMarked (platform : Platform) (marks : Int → Int) (sv : GnssSvInfo) : Prop :=
  Reportable platform sv.svid ∧
    (sv.flags &&& svFlagsUsedInFix = svFlagsUsedInFix ↔ marks sv.svid = 1)

theorem updateSvStatusGnss_storesOnly (platform : Platform) (mode : platform.gpsMode = 0)
    (used : Int → Int) (bds : Bool) :
    StoresOnly (StoredMarked platform used) platform.gnssMaxSvs
      (updateSvStatusGnss platform used bds) := by
  intro c slot
  simp only [updateSvStatusGnss]
  split
  case isTrue => exact .inl rfl
  case isFalse passes =>
    refine .inr ⟨_, ⟨⟨by dsimp only; omega, by dsimp only; omega, ?_⟩, ?_⟩, rfl⟩
    · intro high
      dsimp only at high ⊢
      omega
    · dsimp only
      split
      case isTrue marked => simpa [marked] using by decide
      case isFalse unmarked => simpa [unmarked] using by decide

theorem updateSvStatusGps_storesOnly (platform : Platform) (bds : Bool) :
    StoresOnly (fun sv : GpsSvInfo => Reportable platform sv.prn) platform.gpsMaxSvs
      (updateSvStatusGps platform bds) := by
  intro c slot
  simp only [updateSvStatusGps]
  split
  case isTrue => exact .inl rfl
  case isFalse passes =>
    refine .inr ⟨_, ⟨by dsimp only; omega, by dsimp only; omega, ?_⟩, rfl⟩
    intro high
    dsimp only at high
    omega

theorem recommits_once {platform : Platform} {r : NmeaReader} {line : Line}
    (reads : line.Reads platform.gpsMode .gsvGnss ∨ line.Reads platform.gpsMode .gsvGps)
    (once : recommits platform.gpsMode r line.sentence = false) :
    str2int (line.tokens.get 2) ≠ 1 → str2int (line.tokens.get 2) = str2int (line.tokens.get 1) →
      r.svCount ≤ str2int (line.tokens.get 3) → counted r.svTrace = false :=
  counted_of_once (reads.imp And.right And.right) once

/-- Between two epochs: in mode 1 the stored satellites may stay. -/
structure Between (platform : Platform) (r : NmeaReader) : Prop where
  idle : Idle r
  count : platform.gpsMode = 0 → 0 ≤ r.svCount
  kept : platform.gpsMode = 1 → Kept (fun sv => Reportable platform sv.prn) r.gps ∧
    (counted r.svTrace = false → CountedKept (fun sv => Reportable platform sv.prn) r.gps)

/-- What holds before the remaining lines of an epoch in mode 0. -/
structure GnssAhead (platform : Platform) (moment : Moment) (marks : Int → Int)
    (lines : List Line) (r : NmeaReader) : Prop where
  once : AdmittedAlong (fun r line => recommits platform.gpsMode r line.sentence = false)
    (absorb platform moment) r lines
  ordered : lines.Pairwise (fun earlier later => earlier.IsGsv → ¬ later.IsGsa)
  leads : lines.foldl (markGsa platform) r.svUsedInFix = marks
  kept : Kept (StoredMarked platform marks) r.gnss
  counts : counted r.svTrace = false →
    CountedKept (StoredMarked platform marks) r.gnss ∨ Restarts platform.gpsMode lines

theorem foldl_markGsa_none {platform : Platform} {lines : List Line} (used : Int → Int)
    (none : ∀ line ∈ lines, ¬ line.IsGsa) : lines.foldl (markGsa platform) used = used := by
  induction lines with
  | nil => rfl
  | cons line lines ih =>
      have other : ¬ line.Reads platform.gpsMode .gsaGnss :=
        fun reads => none line List.mem_cons_self (reads_isGsa (.inl reads))
      rw [List.foldl_cons, markGsa_other used other]
      exact ih (fun line member => none line (List.mem_cons_of_mem _ member))

theorem restarts_cons {gpsMode : Int} {line : Line} {rest : List Line}
    (other : ¬ line.Reads gpsMode .gsvGnss) :
    Restarts gpsMode (line :: rest) ↔ Restarts gpsMode rest := by
  rw [Restarts, Restarts, List.find?_cons_of_neg (by simpa using other)]

theorem restarts_first {gpsMode : Int} {line : Line} {rest : List Line}
    (reads : line.Reads gpsMode .gsvGnss) (restarts : Restarts gpsMode (line :: rest)) :
    str2int (line.tokens.get 2) = 1 := by
  rw [Restarts, List.find?_cons_of_pos (by simpa using reads)] at restarts
  exact of_decide_eq_true restarts

theorem gnssAhead_step {platform : Platform} (mode : platform.gpsMode = 0) {moment : Moment}
    {marks : Int → Int} (line : Line) (rest : List Line) (r r' : NmeaReader)
    (ahead : GnssAhead platform moment marks (line :: rest) r) (absorbed : Absorbed platform r line r')
    (same : rest ≠ [] → r' = absorb platform moment r line) :
    GnssAhead platform moment marks rest r' := by
  have gnss := absorbed.gnss mode
  have trace : r'.svTrace = (listGnss platform r.svUsedInFix r.gnss line).trace :=
    congrArg Counting.trace gnss
  have ordered := List.pairwise_cons.mp ahead.ordered
  have leads : rest.foldl (markGsa platform) r'.svUsedInFix = marks := by
    rw [absorbed.used]
    exact ahead.leads
  have once := ahead.once.behind same
  by_cases reads : line.Reads platform.gpsMode .gsvGnss
  · -- No GSA sentence follows, so that the marks of now are those of the end.
    have quiet := ordered.1
    have now : r.svUsedInFix = marks := by
      have later : rest.foldl (markGsa platform) r.svUsedInFix = r.svUsedInFix :=
        foldl_markGsa_none _ (fun later member => quiet later member (reads_isGsv reads))
      have other : ¬ line.Reads platform.gpsMode .gsaGnss := reads.only nofun
      rw [← later, ← markGsa_other r.svUsedInFix other]
      exact ahead.leads
    have stored := parseGsv_kept (updateSvStatusGnss_storesOnly platform mode marks line.bds)
      line.tokens ahead.kept
      (by
        intro later uncounted
        rcases ahead.counts uncounted with counts | restarts
        · exact counts
        · exact absurd (restarts_first reads restarts) later)
      (recommits_once (.inl reads) ahead.once.1)
    have listed : listGnss platform r.svUsedInFix r.gnss line =
        parseGsv (updateSvStatusGnss platform marks line.bds) line.tokens r.gnss := by
      rw [listGnss, if_pos reads, now]
    rw [listed] at gnss trace
    refine ⟨once, ordered.2, leads, ?_, ?_⟩
    · rw [gnss]
      exact stored.1
    · rw [trace, gnss]
      exact fun uncounted => .inl (stored.2 uncounted)
  · rw [listGnss_other _ _ reads] at gnss trace
    refine ⟨once, ordered.2, leads, ?_, ?_⟩
    · rw [gnss]
      exact ahead.kept
    · rw [trace, gnss, ← restarts_cons reads]
      exact ahead.counts

/-- What holds before the remaining lines of an epoch in mode 1. -/
structure GpsAhead (platform : Platform) (moment : Moment) (mask : BitVec 32)
    (lines : List Line) (r : NmeaReader) : Prop where
  once : AdmittedAlong (fun r line => recommits platform.gpsMode r line.sentence = false)
    (absorb platform moment) r lines
  leads : lines.foldl (maskGsa platform) r.usedInFixMask = mask
  kept : Kept (fun sv => Reportable platform sv.prn) r.gps
  counts : counted r.svTrace = false → CountedKept (fun sv => Reportable platform sv.prn) r.gps

theorem gpsAhead_step {platform : Platform} (mode : platform.gpsMode = 1) {moment : Moment}
    {mask : BitVec 32} (line : Line) (rest : List Line) (r r' : NmeaReader)
    (ahead : GpsAhead platform moment mask (line :: rest) r) (absorbed : Absorbed platform r line r')
    (same : rest ≠ [] → r' = absorb platform moment r line) :
    GpsAhead platform moment mask rest r' := by
  have gps := absorbed.gps mode
  have trace : r'.svTrace = (listGps platform r.gps line).trace := congrArg Counting.trace gps
  have leads : rest.foldl (maskGsa platform) r'.usedInFixMask = mask := by
    rw [absorbed.mask]
    exact ahead.leads
  have once := ahead.once.behind same
  by_cases reads : line.Reads platform.gpsMode .gsvGps
  · have stored := parseGsv_kept (updateSvStatusGps_storesOnly platform line.bds) line.tokens
      ahead.kept (fun _ => ahead.counts) (recommits_once (.inr reads) ahead.once.1)
    rw [listGps, if_pos reads] at gps trace
    refine ⟨once, leads, ?_, ?_⟩
    · rw [gps]
      exact stored.1
    · rw [trace, gps]
      exact stored.2
  · rw [listGps_other _ reads] at gps trace
    refine ⟨once, leads, ?_, ?_⟩
    · rw [gps]
      exact ahead.kept
    · rw [trace, gps]
      exact ahead.counts

/-- What the end of an epoch leaves, with the events of the report. -/
structure Ended (platform : Platform) (report : Event → Prop) (r r' : NmeaReader) : Prop where
  between : Between platform r'
  log : ∃ events, r'.log = r.log ++ events ∧ ∀ event ∈ events, svReport event → report event

/-- The raw sentence follows the report. -/
theorem complete_ended {platform : Platform} {report : Event → Prop} {last : Moment} {line : Line}
    {r : NmeaReader}
    (unreported : Between platform { r with input := [] })
    (reported : Ended platform report r { reportSvStatus platform last r with input := [] }) :
    Ended platform report r (complete platform last line r) := by
  have done {r' : NmeaReader} (ended : Ended platform report r { r' with input := [] }) :
      Ended platform report r
        { r'.record (.nmeaCb r'.fix.timestamp r'.input) with input := [] } := by
    rcases ended with ⟨⟨idle, count, kept⟩, events, log, reports⟩
    refine ⟨⟨⟨idle.overflow, rfl⟩, count, kept⟩,
      events ++ [.nmeaCb r'.fix.timestamp r'.input], ?_, ?_⟩
    · have same : r'.log = r.log ++ events := log
      rw [NmeaReader.record, same, List.append_assoc]
    · intro event member sv
      rcases List.mem_append.mp member with earlier | raw
      · exact reports event earlier sv
      · cases List.mem_singleton.mp raw
        exact absurd sv id
  rw [complete]
  split
  · exact done reported
  · exact done ⟨unreported, logs_nothing _ _⟩

/-- The end of an epoch in mode 0 reports the list as it is, if anything. -/
theorem complete_gnss {platform : Platform} (mode : platform.gpsMode = 0) (last : Moment)
    (line : Line) {r : NmeaReader} (overflow : r.overflow = false) (count : 0 ≤ r.svCount) :
    Ended platform (fun event => event = .gnssSvStatusCb r.gnss.listed) r
      (complete platform last line r) := by
  have other : platform.gpsMode ≠ 1 := by omega
  have unreported : Between platform { r with input := [] } :=
    ⟨⟨overflow, rfl⟩, fun _ => count, fun mode' => absurd mode' other⟩
  refine complete_ended unreported ?_
  rw [reportSvStatus, if_pos mode, reportGnss]
  split
  · refine ⟨⟨⟨overflow, rfl⟩, fun _ => le_refl 0, fun mode' => absurd mode' other⟩,
      [.gnssSvStatusCb r.gnss.listed], rfl, fun event member _ => List.mem_singleton.mp member⟩
  · exact ⟨unreported, logs_nothing _ _⟩

theorem complete_gps {platform : Platform} (mode : platform.gpsMode = 1) (last : Moment)
    (line : Line) {r : NmeaReader} (overflow : r.overflow = false)
    (kept : Kept (fun sv => Reportable platform sv.prn) r.gps)
    (counts : counted r.svTrace = false →
      CountedKept (fun sv => Reportable platform sv.prn) r.gps) :
    Ended platform (fun event => event = .svStatusCb r.gps.listed r.usedInFixMask) r
      (complete platform last line r) := by
  have other : platform.gpsMode ≠ 0 := by omega
  have unreported : Between platform { r with input := [] } :=
    ⟨⟨overflow, rfl⟩, fun mode' => absurd mode' other, fun _ => ⟨kept, counts⟩⟩
  refine complete_ended unreported ?_
  rw [reportSvStatus, if_neg other, reportGps]
  split
  · split
    · have reported := @report_kept _ (fun sv => Reportable platform sv.prn) r.gps
      refine ⟨⟨⟨overflow, rfl⟩, fun mode' => absurd mode' other,
        fun _ => ⟨reported.1, fun _ => reported.2⟩⟩,
        [.svStatusCb r.gps.listed r.usedInFixMask], rfl,
        fun event member _ => List.mem_singleton.mp member⟩
    · exact ⟨unreported, logs_nothing _ _⟩
  · exact ⟨unreported, logs_nothing _ _⟩

theorem silent_marks (epoch : Epoch) {event : Event} (silent : ¬ svReport event) :
    Marks epoch event := by
  cases event with
  | gnssSvStatusCb svs => exact absurd trivial silent
  | svStatusCb svs mask => exact absurd trivial silent
  | parse | gpsLogWrite | locationCb | updateLocation | nmeaCb => trivial

/-- The events before the report and those of the report itself. -/
theorem ended_marks {platform : Platform} {epoch : Epoch} {report : Event → Prop}
    {before r r' : NmeaReader}
    (begun : ∃ events, r.log = before.log ++ events ∧ ∀ event ∈ events, ¬ svReport event)
    (ended : Ended platform report r r') (marks : ∀ event, report event → Marks epoch event) :
    ∃ events, r'.log = before.log ++ events ∧ ∀ event ∈ events, Marks epoch event := by
  rcases begun with ⟨earlier, log, silent⟩
  rcases ended.log with ⟨later, log', reports⟩
  refine ⟨earlier ++ later, by rw [log', log, List.append_assoc], fun event member => ?_⟩
  rcases List.mem_append.mp member with inEarlier | inLater
  · exact silent_marks epoch (silent event inEarlier)
  · by_cases sv : svReport event
    · exact marks event (reports event inLater sv)
    · exact silent_marks epoch sv

theorem gnss_epoch_marked {platform : Platform} (mode : platform.gpsMode = 0) {r : NmeaReader}
    {epoch : Epoch} {moment : Moment} (present : epoch.lines ≠ []) (between : Between platform r)
    (once : CountsOnceAlong platform r (epoch, moment)) (left : NothingLeft platform r epoch)
    (reaches : ReachedGnss platform epoch) :
    let r' := feed platform r (chunk moment epoch.bytes)
    Between platform r' ∧ ∃ events, r'.log = r.log ++ events ∧
      ∀ event ∈ events, Marks epoch event := by
  let marks := epoch.lines.foldl (markGsa platform) r.svUsedInFix
  rcases left with ⟨⟨committed, counts⟩, unmarked⟩
  have ahead : GnssAhead platform moment marks epoch.lines r := by
    refine ⟨once, epoch.ordered, rfl, ⟨between.count mode, ?_⟩, fun _ => ?_⟩
    · intro index nonnegative below
      have none : r.gnss.numSvs = 0 := committed
      omega
    · rcases counts with zero | restarts
      · refine .inl (fun index above below => ?_)
        have count : r.gnss.svCount = 0 := zero
        omega
      · exact .inr restarts
  rcases feed_chunk (gnssAhead_step mode) present between.idle ahead with
    ⟨line, r', holds, overflow, begun, fed⟩
  have ended := complete_gnss mode { moment with gpsNmeaEndTag := true } line overflow
    holds.kept.count
  rw [← fed] at ended
  refine ⟨ended.between, ended_marks begun ended ?_⟩
  rintro event rfl sv member
  have stored := holds.kept.listed sv member
  rw [stored.2, ← marks_listed unmarked reaches stored.1]

theorem gps_epoch_marked {platform : Platform} (mode : platform.gpsMode = 1) {r : NmeaReader}
    {epoch : Epoch} {moment : Moment} (present : epoch.lines ≠ []) (between : Between platform r)
    (once : CountsOnceAlong platform r (epoch, moment))
    (covers : MaskCovers platform r.usedInFixMask epoch
      (lastGpgsa platform.gpsMode epoch.lines)) :
    let r' := feed platform r (chunk moment epoch.bytes)
    Between platform r' ∧ ∃ events, r'.log = r.log ++ events ∧
      ∀ event ∈ events, Marks epoch event := by
  let mask := epoch.lines.foldl (maskGsa platform) r.usedInFixMask
  have ahead : GpsAhead platform moment mask epoch.lines r :=
    ⟨once, rfl, (between.kept mode).1, (between.kept mode).2⟩
  rcases feed_chunk (gpsAhead_step mode) present between.idle ahead with
    ⟨line, r', holds, overflow, begun, fed⟩
  have ended := complete_gps mode { moment with gpsNmeaEndTag := true } line overflow
    holds.kept holds.counts
  rw [← fed] at ended
  refine ⟨ended.between, ended_marks begun ended ?_⟩
  rintro event rfl sv member
  have final : r'.usedInFixMask = mask := holds.leads
  rw [final]
  exact mask_listed covers (holds.kept.listed sv member)

/-- A regular epoch marks its satellites, and the next one can follow. -/
theorem epoch_marked {platform : Platform} (mode : platform.gpsMode = 0 ∨ platform.gpsMode = 1)
    {h : History} {next : Epoch × Moment} (between : Between platform h.reader)
    (regular : Regular platform h next) :
    Between platform (deliver platform h next).reader ∧
      ∃ events, (deliver platform h next).reader.log = h.reader.log ++ events ∧
        ∀ event ∈ events, Marks next.1 event := by
  rcases next with ⟨epoch, moment⟩
  rcases regular with ⟨once, inGnss, inGps⟩
  by_cases empty : epoch.lines = []
  · have nothing : (deliver platform h (epoch, moment)).reader = h.reader := by
      simp [deliver, Epoch.bytes, bytesOf, empty, chunk, feed]
    rw [nothing]
    exact ⟨between, logs_nothing _ _⟩
  · rcases mode with gnss | gps
    · exact gnss_epoch_marked gnss empty between once (inGnss gnss).1 (inGnss gnss).2
    · exact gps_epoch_marked gps empty between once (inGps gps)

theorem start_between (platform : Platform) (svUsedInFix : Int → Int) :
    Between platform (nmeaReaderInit svUsedInFix) := by
  refine ⟨⟨rfl, rfl⟩, fun _ => le_refl 0, fun _ => ⟨⟨le_refl 0, ?_⟩, fun _ => ?_⟩⟩
  · exact fun index nonnegative below => absurd below (not_lt.mpr nonnegative)
  · exact fun index above below => absurd below (not_lt.mpr above)

/-- In every history of regular epochs, each reported satellite is marked as used in the fix if
and only if a GSA sentence of its epoch with a 2D or 3D fix lists it. -/
theorem regular_epochs_marked (platform : Platform)
    (mode : platform.gpsMode = 0 ∨ platform.gpsMode = 1) (svUsedInFix : Int → Int) (h : History)
    (reached : ReachesWhere (Regular platform) (fun h next => some (deliver platform h next))
      (startHistory svUsedInFix) h) : AllMarked h := by
  have kept : Between platform h.reader ∧ AllMarked h := by
    apply reached.invariant (P := fun h => Between platform h.reader ∧ AllMarked h)
    · exact ⟨start_between platform svUsedInFix, nofun⟩
    · rintro h next h' ⟨between, marked⟩ regular stepped
      cases stepped
      rcases epoch_marked mode between regular with ⟨between', events, log, marks⟩
      refine ⟨between', fun epoch events' member => ?_⟩
      rcases List.mem_append.mp member with earlier | now
      · exact marked epoch events' earlier
      · have added : (deliver platform h next).reader.log.drop h.reader.log.length = events := by
          rw [log, List.drop_left]
        cases List.mem_singleton.mp now
        intro event inEvents
        exact marks event (by rw [← added]; exact inEvents)
  exact kept.2

def fixOfSeven : Line := ⟨bytes "$GPGSA,A,3,07\r", by decide, by decide⟩

def sevenInView : Line := ⟨bytes "$GPGSV,1,1,01,07\r", by decide, by decide⟩

def beidouFixOfFive : Line := ⟨bytes "$BDGSA,A,3,05\r", by decide, by decide⟩

def beidouInView : Line := ⟨bytes "$BDGSV,1,1,02,05,,,,06\r", by decide, by decide⟩

/-- Two constellations in one epoch, and no fix in the next. -/
def fixThenNone : List (Epoch × Moment) :=
  [(⟨[fixOfSeven, beidouFixOfFive, sevenInView, beidouInView], by decide⟩, epochMoment),
    (⟨[sevenInView], by decide⟩, epochMoment)]

theorem two_constellations_marked :
    AllMarked (fixThenNone.foldl (deliver gnssPlatform) (startHistory fun _ => 0)) :=
  regular_epochs_marked gnssPlatform (.inl rfl) (fun _ => 0) _
    (reachesWhere_foldl (by decide +kernel))

/-- The epoch with the fix has no satellites in view, the next one has. -/
def fixWithoutView : List (Epoch × Moment) :=
  [(⟨[fixOfSeven], by decide⟩, epochMoment), (⟨[sevenInView], by decide⟩, epochMoment)]

/-- Without a report the mark stays, and the next epoch's satellite has it. -/
theorem mark_left_by_unreported_epoch :
    ¬ ∀ platform : Platform, platform.gpsMode = 0 ∨ platform.gpsMode = 1 → ∀ svUsedInFix h,
      Reaches (fun h next => some (deliver platform h next)) (startHistory svUsedInFix) h →
        AllMarked h := by
  intro marked
  have reached := reaches_foldl (deliver gnssPlatform) fixWithoutView (startHistory fun _ => 0)
  have delivered : (⟨[sevenInView], by decide⟩,
      [.parse sevenInView.sentence, .gnssSvStatusCb [⟨7, .gps, 0, 0, 0, svFlagsUsedInFix⟩],
        .nmeaCb 0 sevenInView.sentence]) ∈
      (fixWithoutView.foldl (deliver gnssPlatform) (startHistory fun _ => 0)).delivered := by
    decide +kernel
  have asserted := marked gnssPlatform (.inl rfl) (fun _ => 0) _ reached _ _ delivered
    (.gnssSvStatusCb [⟨7, .gps, 0, 0, 0, svFlagsUsedInFix⟩]) (by simp) _
    (List.mem_singleton.mpr rfl)
  have listed := asserted.mp (by decide)
  revert listed
  decide +kernel

end X5MaxDevice.Gps.UsedInFix
