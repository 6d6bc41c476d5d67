import X5MaxDevice.Base.BoundedPrinting
import X5MaxDevice.Base.Memory
import X5MaxDevice.Base.Numerals
import X5MaxDevice.WpaSupplicant.TestMode

/-! The link counters of the driver: what is stored of its replies, and the report that is printed
of them. -/

namespace X5MaxDevice.WpaSupplicant.LinkReport

open X5MaxDevice.BoundedPrinting
open X5MaxDevice.Memory
open X5MaxDevice.Numerals
open X5MaxDevice.WpaSupplicant.TestMode

inductive LinkAttr where
  | txFailCnt
  | txRetryCnt
  | txMultiRetryCnt
  | ackFailCnt
  | fcsErrCnt
  | txCnt
  | txOkCnt
  | txOsCnt
  deriving DecidableEq, Repr

def LinkAttr.all : List LinkAttr :=
  [.txFailCnt, .txRetryCnt, .txMultiRetryCnt, .ackFailCnt, .fcsErrCnt, .txCnt, .txOkCnt, .txOsCnt]

/-- All attributes are 64 bits wide. -/
def policy (_ : LinkAttr) : Nat := 8

structure StaLinkDetect where
  txFailCnt : UInt64
  txRetryCnt : UInt64
  txMultiRetryCnt : UInt64
  ackFailCnt : UInt64
  fcsErrCnt : UInt64
  txCnt : UInt64
  txOkCnt : UInt64
  txOsCnt : UInt64
  deriving DecidableEq, Repr

def nlaGetU64 (payload : Bytes) : UInt64 := UInt64.ofNat (ofLittleEndian (payload.take 8))

/-- The count of failed acknowledgements comes with a sign, which is dropped. The least count has
no negation and stays as it is. -/
def ackCount (ackCnt : Int64) : UInt64 := if ackCnt < 0 then (-ackCnt).toUInt64 else ackCnt.toUInt64

def linkStore (i : LinkAttr) (payload : Bytes) (s : StaLinkDetect) : StaLinkDetect :=
  match i with
  | .txFailCnt => { s with txFailCnt := nlaGetU64 payload }
  | .txRetryCnt => { s with txRetryCnt := nlaGetU64 payload }
  | .txMultiRetryCnt => { s with txMultiRetryCnt := nlaGetU64 payload }
  | .ackFailCnt => { s with ackFailCnt := ackCount (nlaGetU64 payload).toInt64 }
  | .fcsErrCnt => { s with fcsErrCnt := nlaGetU64 payload }
  | .txCnt => { s with txCnt := nlaGetU64 payload }
  | .txOkCnt => { s with txOkCnt := nlaGetU64 payload }
  | .txOsCnt => { s with txOsCnt := nlaGetU64 payload }

def testmodeStaLinkDetectHandler :
    Option (Attributes LinkAttr policy) → StaLinkDetect → StaLinkDetect :=
  testmodeHandler LinkAttr.all linkStore

/-- `stack` is what the uninitialised counters hold. -/
def wpasGetStaLinkDetect (sent : Int) (calls : List (List (Message LinkAttr policy)))
    (stack : StaLinkDetect) : Option (Int × StaLinkDetect) :=
  sendAndRecvMsgs sent testmodeStaLinkDetectHandler calls stack

/-- A counter printed with `%llu`. -/
def llu (key : String) (count : UInt64) : Bytes :=
  line equals newline (bytes key, natural count.toNat)

def linkTexts (s : StaLinkDetect) : List Bytes :=
  [llu "rFailedCount" s.txFailCnt, llu "rRetryCount" s.txRetryCnt,
    llu "rMultipleRetryCount" s.txMultiRetryCnt, llu "rACKFailureCount" s.ackFailCnt,
    llu "rFCSErrorCount" s.fcsErrCnt, llu "tx_total" s.txCnt, llu "tx_ok" s.txOkCnt,
    llu "tx_os" s.txOsCnt]

/-- The lines up to the first that does not fit: their length and the buffer. -/
def linkReply (s : StaLinkDetect) (buf : Bytes) : Int × Bytes :=
  let cursor := (printAll 0 ⟨[], buf⟩ (linkTexts s)).1
  (cursor.front.length, cursor.buffer)

/-- The result and the buffer; none if the driver does not end its answer. -/
def wpaDriverGetStaLinkDetect (sent : Int) (calls : List (List (Message LinkAttr policy)))
    (stack : StaLinkDetect) (buf : Bytes) : Option (Int × Bytes) :=
  (wpasGetStaLinkDetect sent calls stack).map fun answer =>
    if answer.1 < 0 then (-1, buf) else linkReply answer.2 buf

def LinkAttr.get (i : LinkAttr) (s : StaLinkDetect) : UInt64 :=
  match i with
  | .txFailCnt => s.txFailCnt
  | .txRetryCnt => s.txRetryCnt
  | .txMultiRetryCnt => s.txMultiRetryCnt
  | .ackFailCnt => s.ackFailCnt
  | .fcsErrCnt => s.fcsErrCnt
  | .txCnt => s.txCnt
  | .txOkCnt => s.txOkCnt
  | .txOsCnt => s.txOsCnt

def LinkAttr.key : LinkAttr → Bytes
  | .txFailCnt => bytes "rFailedCount"
  | .txRetryCnt => bytes "rRetryCount"
  | .txMultiRetryCnt => bytes "rMultipleRetryCount"
  | .ackFailCnt => bytes "rACKFailureCount"
  | .fcsErrCnt => bytes "rFCSErrorCount"
  | .txCnt => bytes "tx_total"
  | .txOkCnt => bytes "tx_ok"
  | .txOsCnt => bytes "tx_os"

/-- The count that a payload stands for: of a signed one, the magnitude. -/
def LinkAttr.count (i : LinkAttr) (payload : Bytes) : Nat :=
  if i = .ackFailCnt then ((ofLittleEndian (payload.take 8) : Int).bmod (2 ^ 64)).natAbs
  else ofLittleEndian (payload.take 8)

/-- The counts that were received last, where any were. -/
def received (sinfos : List (Option (Attributes LinkAttr policy))) (stack : StaLinkDetect)
    (i : LinkAttr) : Nat :=
  ((lastPayload sinfos i).map i.count).getD (i.get stack).toNat

def readCounts (text : Bytes) : List (Bytes × Nat) :=
  (readFields equals newline text).map fun field => (field.1, readNatural field.2)

def table (counts : LinkAttr → Nat) : List (Bytes × Nat) :=
  LinkAttr.all.map fun i => (i.key, counts i)

def fieldOf (entry : Bytes × Nat) : Bytes × Bytes := (entry.1, natural entry.2)

def countLine (entry : Bytes × Nat) : Bytes := line equals newline (fieldOf entry)

/-- A report of leading counts, as many as fit with a terminator behind them. -/
structure Reports (counts : LinkAttr → Nat) (buf : Bytes) (reply : Int × Bytes) : Prop where
  inside : reply.2.length = buf.length
  range : 0 ≤ reply.1 ∧ reply.1.toNat ≤ buf.length - 1
  terminated : buf ≠ [] → 0 ∈ reply.2.drop reply.1.toNat
  leading : ∃ count, readCounts (reply.2.take reply.1.toNat) = (table counts).take count ∧
    (count < (table counts).length →
      buf.length ≤ (((table counts).take (count + 1)).map countLine).flatten.length)
  complete : 267 ≤ buf.length → readCounts (reply.2.take reply.1.toNat) = table counts

def blank : StaLinkDetect := ⟨0, 0, 0, 0, 0, 0, 0, 0⟩

theorem linkStore_separate :
    Separate linkStore LinkAttr.get (fun i payload => i.get (linkStore i payload blank)) where
  get_store i j payload s := by
    cases i <;> cases j <;> rfl

theorem toInt64_neg_iff (count : UInt64) :
    count.toInt64 < 0 ↔ (count.toNat : Int).bmod (2 ^ 64) < 0 := by
  have value : count.toInt64.toInt = (count.toNat : Int).bmod (2 ^ 64) :=
    BitVec.toInt_eq_toNat_bmod _
  rw [Int64.lt_iff_toInt_lt, value, Int64.toInt_zero]

theorem ackCount_toNat (count : UInt64) :
    (ackCount count.toInt64).toNat = ((count.toNat : Int).bmod (2 ^ 64)).natAbs := by
  have small := count.toNat_lt
  have sign := toInt64_neg_iff count
  have magnitude := Int.bmod_def (count.toNat : Int) (2 ^ 64)
  rw [ackCount]
  split
  · rename_i negative
    have below := sign.mp negative
    rw [Int64.toUInt64_neg, UInt64.toUInt64_toInt64, UInt64.toNat_neg, UInt64.size]
    omega
  · rename_i natural
    have above := mt sign.mpr natural
    rw [UInt64.toUInt64_toInt64]
    omega

theorem nlaGetU64_toNat (payload : Bytes) :
    (nlaGetU64 payload).toNat = ofLittleEndian (payload.take 8) := by
  have small : ofLittleEndian (payload.take 8) < 2 ^ 64 := by
    rw [ofLittleEndian_take]
    exact Nat.mod_lt _ (by decide)
  rw [nlaGetU64, UInt64.toNat_ofNat', Nat.mod_eq_of_lt small]

theorem count_eq (i : LinkAttr) (payload : Bytes) :
    (i.get (linkStore i payload blank)).toNat = i.count payload := by
  by_cases signed : i = .ackFailCnt
  · subst signed
    rw [LinkAttr.count, if_pos rfl, ← nlaGetU64_toNat]
    exact ackCount_toNat (nlaGetU64 payload)
  · rw [LinkAttr.count, if_neg signed, ← nlaGetU64_toNat]
    cases i with
    | ackFailCnt => exact absurd rfl signed
    | txFailCnt | txRetryCnt | txMultiRetryCnt | fcsErrCnt | txCnt | txOkCnt | txOsCnt => rfl

/-- What the handler leaves are the counts that were received last. -/
theorem handled_counts (sinfos : List (Option (Attributes LinkAttr policy)))
    (stack : StaLinkDetect) (i : LinkAttr) :
    (i.get (sinfos.foldl (fun s sinfo => testmodeStaLinkDetectHandler sinfo s) stack)).toNat =
      received sinfos stack i := by
  have member : i ∈ LinkAttr.all := by cases i <;> decide
  have last := get_replies linkStore_separate member sinfos stack
  rw [received]
  cases payload : lastPayload sinfos i with
  | none =>
      rw [payload, Option.map_none, Option.getD_none] at last
      exact congrArg UInt64.toNat last
  | some bytes =>
      rw [payload, Option.map_some, Option.getD_some] at last
      rw [Option.map_some, Option.getD_some, ← count_eq]
      exact congrArg UInt64.toNat last

theorem linkTexts_eq (s : StaLinkDetect) :
    linkTexts s = (table fun i => (i.get s).toNat).map countLine := rfl

theorem table_plain (counts : LinkAttr → Nat) :
    ∀ field ∈ (table counts).map fieldOf, Plain equals newline field := by
  have keys : ∀ i : LinkAttr, equals ∉ i.key ∧ newline ∉ i.key := by
    intro i
    cases i <;> decide
  intro field member
  rcases List.mem_map.mp member with ⟨entry, inside, rfl⟩
  rcases List.mem_map.mp inside with ⟨i, -, rfl⟩
  exact {
    key := (keys i).1
    keyLine := (keys i).2
    valueLine := fun digit => absurd (isDigit_natural digit) (by decide)
    separator := by decide }

theorem linkTexts_ne_nil (s : StaLinkDetect) : linkTexts s ≠ [] := List.cons_ne_nil _ _

theorem linkTexts_length (s : StaLinkDetect) : (linkTexts s).flatten.length ≤ 266 := by
  have digits : ∀ count : UInt64, (natural count.toNat).length ≤ 20 := fun count =>
    natural_length (by decide) (lt_trans count.toNat_lt (by decide))
  have first := digits s.txFailCnt
  have second := digits s.txRetryCnt
  have third := digits s.txMultiRetryCnt
  have fourth := digits s.ackFailCnt
  have fifth := digits s.fcsErrCnt
  have sixth := digits s.txCnt
  have seventh := digits s.txOkCnt
  have eighth := digits s.txOsCnt
  simp only [linkTexts, llu, line, List.flatten_cons, List.flatten_nil, List.length_append,
    List.length_cons, List.length_nil]
  have keys : (bytes "rFailedCount").length = 12 ∧ (bytes "rRetryCount").length = 11 ∧
      (bytes "rMultipleRetryCount").length = 19 ∧ (bytes "rACKFailureCount").length = 16 ∧
      (bytes "rFCSErrorCount").length = 14 ∧ (bytes "tx_total").length = 8 ∧
      (bytes "tx_ok").length = 5 ∧ (bytes "tx_os").length = 5 := by decide
  omega

theorem linkReply_length (s : StaLinkDetect) (buf : Bytes) :
    (linkReply s buf).1.toNat = (fitting buf.length (linkTexts s)).flatten.length := by
  calc
    _ = (printAll 0 ⟨[], buf⟩ (linkTexts s)).1.front.length := Int.toNat_natCast _
    _ = _ := by rw [printAll_front, List.nil_append]

theorem linkReply_text (s : StaLinkDetect) (buf : Bytes) :
    (linkReply s buf).2.take (linkReply s buf).1.toNat =
      (fitting buf.length (linkTexts s)).flatten :=
  printed 0 buf (linkTexts s)

theorem linkTexts_fields (s : StaLinkDetect) :
    linkTexts s = ((table fun i => (i.get s).toNat).map fieldOf).map (line equals newline) := by
  rw [linkTexts_eq, List.map_map]
  rfl

theorem read_fields (entries : List (Bytes × Nat)) :
    (entries.map fieldOf).map (fun field => (field.1, readNatural field.2)) = entries := by
  rw [List.map_map]
  calc
    _ = entries.map id := by
      apply List.map_congr_left
      intro entry _
      simp [fieldOf, readNatural_natural]
    _ = entries := List.map_id entries

/-- What is printed of the counters. -/
theorem linkReply_reports (s : StaLinkDetect) (buf : Bytes) :
    Reports (fun i => (i.get s).toNat) buf (linkReply s buf) where
  inside := by
    have length := printAll_length 0 ⟨[], buf⟩ (linkTexts s)
    exact length.trans (by simp [Cursor.buffer])
  range := by
    refine ⟨Int.natCast_nonneg _, ?_⟩
    rw [linkReply_length]
    exact fitting_length buf.length (linkTexts s)
  terminated := by
    intro present
    have cursor : (linkReply s buf).2.drop (linkReply s buf).1.toNat =
        (printAll 0 ⟨[], buf⟩ (linkTexts s)).1.room := List.drop_left
    rw [cursor]
    exact printAll_terminated 0 present (linkTexts_ne_nil s)
  leading := by
    rcases readFields_fitting buf.length (table_plain fun i => (i.get s).toNat) with
      ⟨count, read, full⟩
    refine ⟨count, ?_, ?_⟩
    · rw [readCounts, linkReply_text, linkTexts_fields, read, ← List.map_take, read_fields]
    · intro more
      have room := full (by rwa [List.length_map])
      rwa [← List.map_take, List.map_map] at room
  complete := by
    intro large
    have short := lt_of_le_of_lt (linkTexts_length s) large
    have all := (fitting_eq_self_iff (linkTexts_ne_nil s)).mpr short
    rw [readCounts, linkReply_text, all, linkTexts_fields,
      readFields_lines (table_plain fun i => (i.get s).toNat), read_fields]

/-- A reply that counts seven failed acknowledgements, with a sign, and nothing else. -/
def sevenFailures : Attributes LinkAttr policy where
  payload i := if i = .ackFailCnt then some [0xf9, 255, 255, 255, 255, 255, 255, 255] else none
  policy i payload present := by
    split at present
    · cases present
      exact Nat.le_refl 8
    · cases present

def sevenCalls : List (List (Message LinkAttr policy)) := [[.valid (some sevenFailures), .ack]]

end X5MaxDevice.WpaSupplicant.LinkReport
