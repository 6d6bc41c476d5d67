import Mathlib.Data.Nat.Log
import X5MaxDevice.Gps.Reader

/-! Satellite groups as standard GSV messages, and what the parser reads from one message. -/

namespace X5MaxDevice.Gps.Gsv

open X5MaxDevice.Gps.Reader
open X5MaxDevice.Gps.Tokenizer

def digit (d : Nat) : UInt8 := UInt8.ofNat (48 + d)

/-- The last `width` decimal digits. -/
def numeral : Nat → Nat → Bytes
  | 0, _ => []
  | width + 1, n => numeral width (n / 10) ++ [digit (n % 10)]

def digitCount (n : Nat) : Nat := Nat.log 10 n + 1

def hexDigit (d : Nat) : UInt8 := if d < 10 then UInt8.ofNat (48 + d) else UInt8.ofNat (55 + d)

def checksum (body : Bytes) : UInt8 := body.foldl (fun sum b => sum ^^^ b) 0

/-- Framed with `$`, the checksum and the line end. -/
def sentence (fields : List Token) : Bytes :=
  let body := [comma].intercalate fields
  let sum := (checksum body).toNat
  ascii '$' :: body ++ [ascii '*', hexDigit (sum / 16), hexDigit (sum % 16), ascii '\r', newline]

inductive Talker where
  | gp
  | gl
  | bd
  deriving DecidableEq, Repr

def Talker.sentenceId : Talker → Token
  | .gp => bytes "GPGSV"
  | .gl => bytes "GLGSV"
  | .bd => bytes "BDGSV"

def Talker.firstId : Talker → Nat
  | .gp => 1
  | .gl => 65
  | .bd => 1

def Talker.offset : Talker → Int
  | .bd => 200
  | _ => 0

def Talker.constellation : Talker → Constellation
  | .gp => .gps
  | .gl => .glonass
  | .bd => .beidou

/-- A satellite with its values in the NMEA ranges. -/
structure Satellite (talker : Talker) where
  id : Nat
  elevation : Nat
  azimuth : Nat
  snr : Nat
  id_range : talker.firstId ≤ id ∧ id < talker.firstId + 32
  elevation_range : elevation ≤ 90
  azimuth_range : azimuth ≤ 359
  snr_range : snr ≤ 99

structure Group where
  talker : Talker
  satellites : List (Satellite talker)
  nonempty : satellites ≠ []

def Group.size (group : Group) : Nat := group.satellites.length

variable {talker : Talker}

def Satellite.fields (satellite : Satellite talker) : List Token :=
  [numeral 2 satellite.id, numeral 2 satellite.elevation, numeral 3 satellite.azimuth,
    numeral 2 satellite.snr]

/-- How many messages the group takes. -/
def Group.messageCount (group : Group) : Nat := (group.size + 3) / 4

/-- The satellites of the message with index `index`, counted from 0. -/
def Group.page (group : Group) (index : Nat) : List (Satellite group.talker) :=
  (group.satellites.drop (4 * index)).take 4

def Group.messageFields (group : Group) (index : Nat) : List Token :=
  [group.talker.sentenceId, numeral (digitCount group.messageCount) group.messageCount,
    numeral (digitCount (index + 1)) (index + 1),
    numeral (max 2 (digitCount group.size)) group.size] ++
  (group.page index).flatMap Satellite.fields

def Group.message (group : Group) (index : Nat) : Bytes := sentence (group.messageFields index)

def Group.messages (group : Group) : List Bytes :=
  (List.range group.messageCount).map group.message

def encode (groups : List Group) : Bytes := (groups.flatMap Group.messages).flatten

theorem digit_toNat {d : Nat} (small : d < 10) : (digit d).toNat = 48 + d := by
  simp [digit]
  omega

theorem numeral_length (width n : Nat) : (numeral width n).length = width := by
  induction width generalizing n with
  | zero => rfl
  | succ width ih => simp [numeral, ih]

/-- Numerals consist of digits. -/
theorem numeral_digits {width n : Nat} {b : UInt8} (member : b ∈ numeral width n) :
    48 ≤ b.toNat ∧ b.toNat ≤ 57 := by
  induction width generalizing n with
  | zero => cases member
  | succ width ih =>
      rcases List.mem_append.mp member with earlier | last
      · exact ih earlier
      · rw [List.mem_singleton.mp last, digit_toNat (Nat.mod_lt n (by decide))]
        have small : n % 10 < 10 := Nat.mod_lt n (by decide)
        omega

theorem not_mem_numeral {width n : Nat} {b : UInt8} (other : b.toNat < 48) :
    b ∉ numeral width n := by
  intro member
  have inside := numeral_digits member
  omega

theorem str2intLoop_numeral (width n : Nat) (fits : n < 10 ^ width) (small : n < 2 ^ 31) :
    str2intLoop 0 (numeral width n) = some (n : Int) := by
  induction width generalizing n with
  | zero =>
      have zero : n = 0 := by simpa using fits
      rw [zero]
      rfl
  | succ width ih =>
      have front := ih (n / 10) (by rw [Nat.pow_succ] at fits; omega) (by omega)
      have last : (digit (n % 10)).toNat = 48 + n % 10 := digit_toNat (Nat.mod_lt n (by decide))
      have bounded : n % 10 < 10 := Nat.mod_lt n (by decide)
      have value : int32 (((n / 10 : Nat) : Int) * 10 + ((n % 10 : Nat) : Int)) = n := by
        rw [int32_of_range] <;> omega
      rw [numeral, str2intLoop_append, front, Option.bind_some, str2intLoop, last]
      simp only [str2intLoop]
      rw [if_pos (by omega)]
      rw [show ((48 + n % 10 : Nat) : Int) - 48 = ((n % 10 : Nat) : Int) by omega, value]

theorem str2int_numeral {width n : Nat} (fits : n < 10 ^ width) (small : n < 2 ^ 31) :
    str2int (numeral width n) = n := by
  have unsigned : (numeral width n).head? ≠ some (ascii '-') := by
    intro minus
    have member : ascii '-' ∈ numeral width n := List.mem_of_mem_head? minus
    exact absurd member (not_mem_numeral (by decide))
  rw [str2int, if_neg unsigned, str2intLoop_numeral width n fits small]

theorem lt_pow_digitCount (n : Nat) : n < 10 ^ digitCount n :=
  Nat.lt_pow_succ_log_self (by decide) n

theorem digitCount_le {n : Nat} (small : n < 2 ^ 31) : digitCount n ≤ 10 := by
  have bounded : Nat.log 10 n < 10 := by
    apply Nat.log_lt_of_lt_pow' (by decide)
    omega
  rw [digitCount]
  omega

theorem fields_plain {group : Group} {index : Nat} {b : UInt8} (other : b.toNat < 48) :
    ∀ field ∈ group.messageFields index, b ∉ field := by
  intro field member
  have ids : b ∉ group.talker.sentenceId := by
    intro present
    have letters : group.talker.sentenceId.all (fun letter => decide (48 ≤ letter.toNat)) := by
      cases group.talker <;> rfl
    have inside := of_decide_eq_true (List.all_eq_true.mp letters b present)
    omega
  simp only [Group.messageFields, List.cons_append, List.nil_append, List.mem_cons,
    List.mem_flatMap] at member
  rcases member with rfl | rfl | rfl | rfl | ⟨satellite, _, field_of⟩
  · exact ids
  · exact not_mem_numeral other
  · exact not_mem_numeral other
  · exact not_mem_numeral other
  · simp only [Satellite.fields, List.mem_cons, List.not_mem_nil, or_false] at field_of
    rcases field_of with rfl | rfl | rfl | rfl <;> exact not_mem_numeral other

theorem fields_nonempty {group : Group} {index : Nat} :
    ∀ field ∈ group.messageFields index, field ≠ [] := by
  have present : ∀ width n, 0 < width → numeral width n ≠ [] := by
    intro width n positive empty
    have none := numeral_length width n
    rw [empty, List.length_nil] at none
    omega
  intro field member
  simp only [Group.messageFields, List.cons_append, List.nil_append, List.mem_cons,
    List.mem_flatMap] at member
  rcases member with rfl | rfl | rfl | rfl | ⟨satellite, _, field_of⟩
  · cases group.talker <;> decide
  · exact present _ _ (Nat.succ_pos _)
  · exact present _ _ (Nat.succ_pos _)
  · exact present _ _ (by omega)
  · simp only [Satellite.fields, List.mem_cons, List.not_mem_nil, or_false] at field_of
    rcases field_of with rfl | rfl | rfl | rfl <;> exact present _ _ (by decide)

theorem page_length_le (group : Group) (index : Nat) : (group.page index).length ≤ 4 := by
  simp [Group.page]

theorem satelliteFields_length (satellites : List (Satellite talker)) :
    (satellites.flatMap Satellite.fields).length = 4 * satellites.length := by
  induction satellites with
  | nil => rfl
  | cons satellite satellites ih =>
      simp only [List.flatMap_cons, List.length_append, ih, List.length_cons]
      simp [Satellite.fields]
      omega

theorem messageFields_length (group : Group) (index : Nat) :
    (group.messageFields index).length = 4 + 4 * (group.page index).length := by
  simp only [Group.messageFields, List.length_append, satelliteFields_length]
  rfl

theorem message_tokens (group : Group) (index : Nat) :
    (nmeaTokenizerInit (group.message index)).tokens = group.messageFields index := by
  apply nmeaTokenizerInit_framed
  · exact fields_plain (by decide)
  · intro empty
    exact fields_nonempty [] (List.mem_of_getLast? empty) rfl
  · have short := page_length_le group index
    rw [messageFields_length]
    rw [maxNmeaTokens]
    omega

/-- Field `k` of the satellite with index `i`. -/
theorem satelliteFields_getD (satellites : List (Satellite talker)) (i k : Nat)
    (inside : i < satellites.length) (field : k < 4) :
    (satellites.flatMap Satellite.fields).getD (4 * i + k) [] =
      satellites[i].fields.getD k [] := by
  induction satellites generalizing i with
  | nil => simp at inside
  | cons satellite satellites ih =>
      have four : satellite.fields.length = 4 := rfl
      simp only [List.flatMap_cons, List.getD_eq_getElem?_getD]
      cases i with
      | zero =>
          rw [List.getElem?_append_left (by omega)]
          simp
      | succ i =>
          have rest := ih i (by simpa using inside)
          rw [List.getElem?_append_right (by omega), four]
          simp only [List.getD_eq_getElem?_getD] at rest
          rw [show 4 * (i + 1) + k - 4 = 4 * i + k by omega]
          simpa using rest

def Satellite.slot (satellite : Satellite talker) : Slot :=
  ⟨numeral 2 satellite.id, numeral 2 satellite.elevation, numeral 3 satellite.azimuth,
    numeral 2 satellite.snr⟩

theorem message_get (group : Group) (index i : Nat) :
    (nmeaTokenizerInit (group.message index)).get i =
      (group.messageFields index).getD i [] :=
  get_of_tokens (message_tokens group index) i

theorem message_slot (group : Group) (index i : Nat) (inside : i < (group.page index).length) :
    gsvSlot (nmeaTokenizerInit (group.message index)) i = (group.page index)[i].slot := by
  have field : ∀ k, k < 4 → (nmeaTokenizerInit (group.message index)).get ((4 * (i + 1) + k : Nat) : Int) =
      (group.page index)[i].fields.getD k [] := by
    intro k below
    rw [message_get]
    have header : ∀ rest : List Token, ([group.talker.sentenceId,
        numeral (digitCount group.messageCount) group.messageCount,
        numeral (digitCount (index + 1)) (index + 1),
        numeral (max 2 (digitCount group.size)) group.size] ++ rest).getD (4 * (i + 1) + k) [] =
          rest.getD (4 * i + k) [] := by
      intro rest
      rw [show 4 * (i + 1) + k = (4 * i + k) + 4 by omega]
      rfl
    rw [Group.messageFields, header]
    exact satelliteFields_getD (group.page index) i k inside below
  have id := field 0 (by decide)
  have elevation := field 1 (by decide)
  have azimuth := field 2 (by decide)
  have snr := field 3 (by decide)
  push_cast at id elevation azimuth snr
  unfold gsvSlot
  dsimp only
  rw [elevation, azimuth, snr]
  simp only [add_zero] at id
  rw [id]
  rfl

theorem messageCount_bounds (group : Group) : 4 * (group.messageCount - 1) < group.size ∧
    group.size ≤ 4 * group.messageCount ∧ 0 < group.messageCount := by
  have present : 0 < group.size := List.length_pos_iff.mpr group.nonempty
  rw [Group.messageCount]
  omega

/-- The sentence id and the three numbers of a message. -/
theorem message_header (group : Group) (index : Nat) (small : (group.size : Int) < 2 ^ 31)
    (inside : 4 * index < group.size) :
    let tzer := nmeaTokenizerInit (group.message index)
    tzer.get 0 = group.talker.sentenceId ∧ str2int (tzer.get 1) = group.messageCount ∧
      str2int (tzer.get 2) = (index : Int) + 1 ∧ str2int (tzer.get 3) = group.size := by
  have count := messageCount_bounds group
  have header : ∀ i : Nat, i < 4 → (nmeaTokenizerInit (group.message index)).get i =
      [group.talker.sentenceId, numeral (digitCount group.messageCount) group.messageCount,
        numeral (digitCount (index + 1)) (index + 1),
        numeral (max 2 (digitCount group.size)) group.size].getD i [] := by
    intro i below
    rw [message_get, Group.messageFields, List.getD_eq_getElem?_getD,
      List.getD_eq_getElem?_getD, List.getElem?_append_left (by simpa using below)]
  refine ⟨header 0 (by decide), ?_, ?_, ?_⟩
  · have num := header 1 (by decide)
    rw [Nat.cast_one] at num
    rw [num]
    exact str2int_numeral (lt_pow_digitCount _) (by omega)
  · have seq := header 2 (by decide)
    rw [Nat.cast_ofNat] at seq
    rw [seq]
    have value := str2int_numeral (lt_pow_digitCount (index + 1)) (by omega)
    push_cast at value
    exact value
  · have cnt := header 3 (by decide)
    rw [Nat.cast_ofNat] at cnt
    rw [cnt]
    apply str2int_numeral _ (by omega)
    exact (lt_pow_digitCount _).trans_le (Nat.pow_le_pow_right (by decide) (le_max_right _ _))

/-- The slots of a message are the satellites on its page. -/
theorem message_slots (group : Group) (index : Nat) (small : (group.size : Int) < 2 ^ 31)
    (inside : 4 * index < group.size) :
    gsvSlots (nmeaTokenizerInit (group.message index)) ((index : Int) + 1) group.size =
      (group.page index).map Satellite.slot := by
  have base : int32 (int32 ((index : Int) + 1 - 1) * 4) = 4 * index := by
    rw [int32_of_range (n := (index : Int) + 1 - 1) (by omega) (by omega),
      int32_of_range (by omega) (by omega)]
    omega
  have left : int32 ((group.size : Int) - 4 * index) = (group.size : Int) - 4 * index :=
    int32_of_range (by omega) (by omega)
  have count : (min ((group.size : Int) - 4 * index) 4).toNat = (group.page index).length := by
    simp only [Group.page, List.length_take, List.length_drop, Group.size] at inside ⊢
    omega
  unfold gsvSlots
  dsimp only
  rw [base, left, count]
  apply List.ext_getElem
  · simp
  · intro i inRange inPage
    simp only [List.getElem_map, List.getElem_range]
    exact message_slot group index i (by simpa using inRange)

/-- Decimal integers of up to 15 digits are read exactly. -/
def ExactOnIntegers (strtod : Bytes → ℚ) : Prop :=
  ∀ width n, 0 < width → width < 16 → n < 10 ^ width → strtod (numeral width n) = n

theorem leadingDigits_exact : ExactOnIntegers leadingDigits := by
  intro width n _ _ fits
  have all : (numeral width n).takeWhile (fun b => 48 ≤ b && b ≤ 57) = numeral width n := by
    apply List.takeWhile_eq_self_iff.mpr
    intro b member
    have range := numeral_digits member
    simp only [Bool.and_eq_true, decide_eq_true_eq, UInt8.le_iff_toNat_le]
    exact range
  have value : ∀ width n, n < 10 ^ width →
      (numeral width n).foldl (fun n b => n * 10 + (b.toNat - 48)) 0 = n := by
    intro width
    induction width with
    | zero =>
        intro n fits
        have zero : n = 0 := by simpa using fits
        rw [zero]
        rfl
    | succ width ih =>
        intro n fits
        have front := ih (n / 10) (by rw [Nat.pow_succ] at fits; omega)
        rw [numeral, List.foldl_append, front, List.foldl_cons, List.foldl_nil,
          digit_toNat (Nat.mod_lt n (by decide))]
        omega
  rw [leadingDigits]
  rw [all, value width n fits]

/-- The entry that the report must list for the satellite. -/
def Satellite.info (satellite : Satellite talker) (svUsedInFix : Int → Int) : GnssSvInfo :=
  let svid := (satellite.id : Int) + talker.offset
  { svid := svid
    constellation := talker.constellation
    cN0Dbhz := satellite.snr
    elevation := satellite.elevation
    azimuth := satellite.azimuth
    flags := if svUsedInFix svid = 1 then svFlagsNone ||| svFlagsUsedInFix else svFlagsNone }

def Group.infos (group : Group) (svUsedInFix : Int → Int) : List GnssSvInfo :=
  group.satellites.map (fun satellite => satellite.info svUsedInFix)

theorem svId_satellite (satellite : Satellite talker) :
    svId (startsWith talker.sentenceId "BD") (numeral 2 satellite.id) =
      (satellite.id : Int) + talker.offset := by
  have range := satellite.id_range
  have small : satellite.id < 100 := by
    cases talker <;> simp only [Talker.firstId] at range <;> omega
  have value : str2int (numeral 2 satellite.id) = satellite.id :=
    str2int_numeral (by omega) (by omega)
  rw [svId]
  cases talker with
  | gp =>
      rw [if_neg (by decide), value]
      exact (add_zero _).symm
  | gl =>
      rw [if_neg (by decide), value]
      exact (add_zero _).symm
  | bd =>
      rw [if_pos (by decide), value]
      exact int32_of_range (by omega) (by omega)

theorem constellation_satellite (satellite : Satellite talker) :
    constellation ((satellite.id : Int) + talker.offset) = talker.constellation := by
  have range := satellite.id_range
  cases talker with
  | gp =>
      have below : (satellite.id : Int) + Talker.gp.offset < 33 := by
        simp only [Talker.firstId, Talker.offset] at range ⊢
        omega
      rw [constellation, if_pos below]
      rfl
  | gl =>
      have above : ¬ (satellite.id : Int) + Talker.gl.offset < 33 := by
        simp only [Talker.firstId, Talker.offset] at range ⊢
        omega
      have below : ¬ 200 < (satellite.id : Int) + Talker.gl.offset := by
        simp only [Talker.firstId, Talker.offset] at range ⊢
        omega
      rw [constellation, if_neg above, if_neg below]
      rfl
  | bd =>
      have above : ¬ (satellite.id : Int) + Talker.bd.offset < 33 := by
        simp only [Talker.firstId, Talker.offset] at range ⊢
        omega
      have moved : 200 < (satellite.id : Int) + Talker.bd.offset := by
        simp only [Talker.firstId, Talker.offset] at range ⊢
        omega
      rw [constellation, if_neg above, if_pos moved]
      rfl

/-- Every satellite of a group is stored. -/
theorem updateSvStatusGnss_satellite {platform : Platform} (gpsIds : platform.gpsMaxSvs = 32)
    (integers : ExactOnIntegers platform.strtod) (svUsedInFix : Int → Int)
    (c : Counting GnssSvInfo) (satellite : Satellite talker) :
    updateSvStatusGnss platform svUsedInFix (startsWith talker.sentenceId "BD") c satellite.slot =
      c.put platform.gnssMaxSvs (satellite.info svUsedInFix) := by
  have range := satellite.id_range
  have elevation : str2int (numeral 2 satellite.elevation) = satellite.elevation :=
    str2int_numeral (by have := satellite.elevation_range; omega)
      (by have := satellite.elevation_range; omega)
  have azimuth : str2int (numeral 3 satellite.azimuth) = satellite.azimuth :=
    str2int_numeral (by have := satellite.azimuth_range; omega)
      (by have := satellite.azimuth_range; omega)
  have snr : str2float platform.strtod (numeral 2 satellite.snr) = satellite.snr := by
    rw [str2float, if_neg (by rw [numeral_length]; decide)]
    exact integers 2 satellite.snr (by decide) (by decide)
      (by have := satellite.snr_range; omega)
  have accepted : ¬ ((satellite.id : Int) + talker.offset ≤ 0 ∨
      ((satellite.id : Int) + talker.offset < 65 ∧
        platform.gpsMaxSvs < (satellite.id : Int) + talker.offset) ∨
      (96 < (satellite.id : Int) + talker.offset ∧
        (satellite.id : Int) + talker.offset < 200) ∨
      232 < (satellite.id : Int) + talker.offset) := by
    rw [gpsIds]
    cases talker <;> simp only [Talker.firstId, Talker.offset] at range ⊢ <;> omega
  have system := constellation_satellite satellite
  rw [updateSvStatusGnss]
  simp only [Satellite.slot, svId_satellite, if_neg accepted, system, snr, elevation, azimuth]
  rfl

theorem mem_intercalate {fields : List Token} {b : UInt8} (member : b ∈ [comma].intercalate fields) :
    b = comma ∨ ∃ field ∈ fields, b ∈ field := by
  induction fields with
  | nil => simp [List.intercalate] at member
  | cons field fields ih =>
      cases fields with
      | nil =>
          have inside : b ∈ field := by simpa [List.intercalate] using member
          exact Or.inr ⟨field, List.mem_cons_self, inside⟩
      | cons second fields =>
          rw [List.intercalate_cons_cons, List.mem_append, List.mem_append] at member
          rcases member with (inside | separator) | later
          · exact Or.inr ⟨field, List.mem_cons_self, inside⟩
          · exact Or.inl (List.mem_singleton.mp separator)
          · rcases ih later with separator | ⟨other, present, inside⟩
            · exact Or.inl separator
            · exact Or.inr ⟨other, List.mem_cons_of_mem _ present, inside⟩

theorem length_intercalate_le (fields : List Token) :
    ([comma].intercalate fields).length ≤ (fields.map (fun field => field.length + 1)).sum := by
  induction fields with
  | nil => simp [List.intercalate]
  | cons field fields ih =>
      cases fields with
      | nil => simp [List.intercalate]
      | cons second fields =>
          rw [List.intercalate_cons_cons]
          simp only [List.length_append, List.map_cons, List.sum_cons, List.length_singleton] at ih ⊢
          omega

theorem satelliteFields_width (satellites : List (Satellite talker)) :
    ((satellites.flatMap Satellite.fields).map (fun field => field.length + 1)).sum =
      13 * satellites.length := by
  induction satellites with
  | nil => rfl
  | cons satellite satellites ih =>
      simp only [List.flatMap_cons, List.map_append, List.sum_append, ih, List.length_cons]
      simp [Satellite.fields, numeral_length]
      omega

theorem hexDigit_ne_newline {d : Nat} (small : d < 16) : hexDigit d ≠ newline := by
  revert small
  revert d
  decide

/-- A message is one line that fits the buffer. -/
theorem message_line (group : Group) (index : Nat) (small : (group.size : Int) < 2 ^ 31)
    (inside : 4 * index < group.size) :
    ∃ content, group.message index = content ++ [newline] ∧ newline ∉ content ∧
      content.length < nmeaMaxSize ∧ 9 ≤ (group.message index).length := by
  have bounds := messageCount_bounds group
  let body := [comma].intercalate (group.messageFields index)
  let sum := (checksum body).toNat
  have sumBound : sum < 256 := (checksum body).toNat_lt
  refine ⟨ascii '$' :: body ++ [ascii '*', hexDigit (sum / 16), hexDigit (sum % 16), ascii '\r'],
    ?_, ?_, ?_, ?_⟩
  · simp [Group.message, sentence, body, sum]
  · have plain : newline ∉ body := by
      intro member
      rcases mem_intercalate member with separator | ⟨field, present, within⟩
      · exact absurd separator (by decide)
      · exact fields_plain (by decide) field present within
    have high : newline ≠ hexDigit (sum / 16) := (hexDigit_ne_newline (by omega)).symm
    have low : newline ≠ hexDigit (sum % 16) := (hexDigit_ne_newline (by omega)).symm
    simp only [List.cons_append, List.mem_cons, List.mem_append, List.not_mem_nil, or_false,
      not_or]
    exact ⟨by decide, plain, by decide, high, low, by decide⟩
  · have width := length_intercalate_le (group.messageFields index)
    have page := page_length_le group index
    have count := digitCount_le (n := group.messageCount) (by omega)
    have number := digitCount_le (n := index + 1) (by omega)
    have size := digitCount_le (n := group.size) (by omega)
    have id : group.talker.sentenceId.length = 5 := by cases group.talker <;> rfl
    have widths : ((group.messageFields index).map (fun field => field.length + 1)).sum ≤ 91 := by
      simp only [Group.messageFields, List.map_append, List.sum_append, satelliteFields_width,
        List.map_cons, List.map_nil, List.sum_cons, List.sum_nil, numeral_length, id]
      omega
    have total : body.length ≤ 91 := width.trans widths
    simp only [List.cons_append, List.length_cons, List.length_append, List.length_nil]
    rw [nmeaMaxSize]
    omega
  · have fields : 4 ≤ (group.messageFields index).length := by
      rw [messageFields_length]
      omega
    have body : (group.messageFields index).length ≤
        ([comma].intercalate (group.messageFields index)).length := by
      apply length_le_intercalate
      intro empty
      exact fields_nonempty [] (List.mem_of_getLast? empty) rfl
    simp only [Group.message, sentence, List.cons_append, List.length_cons, List.length_append,
      List.length_nil]
    omega

end X5MaxDevice.Gps.Gsv
