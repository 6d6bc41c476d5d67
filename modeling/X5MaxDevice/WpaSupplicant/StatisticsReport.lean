import Mathlib.Data.List.OfFn
import Mathlib.Tactic.Linarith
import X5MaxDevice.Base.BoundedPrinting
import X5MaxDevice.Base.Memory
import X5MaxDevice.Base.Numerals
import X5MaxDevice.WpaSupplicant.TestMode

/-! The statistics of a station: what is stored of the replies of the driver, and the report that is
printed of them or not at all. -/

namespace X5MaxDevice.WpaSupplicant.StatisticsReport

open X5MaxDevice.BoundedPrinting
open X5MaxDevice.Memory
open X5MaxDevice.Numerals
open X5MaxDevice.WpaSupplicant.TestMode

inductive StatAttr where
  | version
  | mac
  | linkScore
  | flag
  | per
  | rssi
  | phyMode
  | txRate
  | totalCnt
  | thresholdCnt
  | avgProcessTime
  | failCnt
  | timeoutCnt
  | avgAirTime
  | tcEmptyCntArray
  | tcQueLenArray
  | tcAvgQueLenArray
  | tcCurQueLenArray
  | reservedArray
  deriving DecidableEq, Repr

/-- In the order of the attribute numbers. -/
def StatAttr.all : List StatAttr :=
  [.version, .mac, .linkScore, .flag, .per, .rssi, .phyMode, .txRate, .totalCnt, .thresholdCnt,
    .avgProcessTime, .failCnt, .timeoutCnt, .avgAirTime, .tcEmptyCntArray, .tcQueLenArray,
    .tcAvgQueLenArray, .tcCurQueLenArray, .reservedArray]

/-- The policy leaves the length of the arrays open. -/
def policy : StatAttr → Nat
  | .version | .linkScore | .per | .rssi => 1
  | .txRate => 2
  | .flag | .phyMode | .failCnt | .timeoutCnt | .avgAirTime | .totalCnt | .thresholdCnt
  | .avgProcessTime => 4
  | .mac | .tcEmptyCntArray | .tcQueLenArray | .tcAvgQueLenArray | .tcCurQueLenArray
  | .reservedArray => 0

/-- `txRate` counts halves: the rate is stored as the double that is exactly half of it. -/
structure StaStatistics where
  version : UInt8
  addr : Vector UInt8 6
  flag : UInt32
  linkScore : UInt8
  per : UInt8
  rssi : Int32
  phyMode : UInt32
  txRate : UInt16
  txTotalCnt : UInt32
  txExcThresholdCnt : UInt32
  txAvgProcessTime : UInt32
  txFailCnt : UInt32
  txTimeoutCnt : UInt32
  txAvgAirTime : UInt32
  tcBufFullCnt : Vector UInt32 4
  tcQueLen : Vector UInt32 4
  tcAvgQueLen : Vector UInt32 4
  tcCurQueLen : Vector UInt32 4
  reserved : Vector UInt8 32
  deriving DecidableEq

def nlaGetU8 (payload : Bytes) : UInt8 := UInt8.ofNat (ofLittleEndian (payload.take 1))
def nlaGetU16 (payload : Bytes) : UInt16 := UInt16.ofNat (ofLittleEndian (payload.take 2))
def nlaGetU32 (payload : Bytes) : UInt32 := UInt32.ofNat (ofLittleEndian (payload.take 4))

/-- A payload that is shorter than the array leaves the cells behind it. -/
def nlaMemcpy {n : Nat} (target : Vector UInt8 n) (payload : Bytes) : Vector UInt8 n :=
  Vector.ofFn fun i => (payload[i.val]?).getD target[i]

/-- The same for an array of words, whose bytes are copied. -/
def nlaMemcpyWords {n : Nat} (target : Vector UInt32 n) (payload : Bytes) : Vector UInt32 n :=
  Vector.ofFn fun i => UInt32.ofNat (ofLittleEndian ((List.range 4).map fun j =>
    (payload[4 * i.val + j]?).getD ((littleEndian 4 target[i].toNat).getD j 0)))

def statStore (i : StatAttr) (payload : Bytes) (s : StaStatistics) : StaStatistics :=
  match i with
  | .version => { s with version := nlaGetU8 payload }
  | .mac => { s with addr := nlaMemcpy s.addr payload }
  | .linkScore => { s with linkScore := nlaGetU8 payload }
  | .flag => { s with flag := nlaGetU32 payload }
  | .per => { s with per := nlaGetU8 payload }
  | .rssi => { s with rssi := Int32.ofInt (((nlaGetU8 payload).toNat - 220 : Int).tdiv 2) }
  | .phyMode => { s with phyMode := nlaGetU32 payload }
  | .txRate => { s with txRate := nlaGetU16 payload }
  | .failCnt => { s with txFailCnt := nlaGetU32 payload }
  | .timeoutCnt => { s with txTimeoutCnt := nlaGetU32 payload }
  | .avgAirTime => { s with txAvgAirTime := nlaGetU32 payload }
  | .totalCnt => { s with txTotalCnt := nlaGetU32 payload }
  | .thresholdCnt => { s with txExcThresholdCnt := nlaGetU32 payload }
  | .avgProcessTime => { s with txAvgProcessTime := nlaGetU32 payload }
  | .tcEmptyCntArray => { s with tcBufFullCnt := nlaMemcpyWords s.tcBufFullCnt payload }
  | .tcQueLenArray => { s with tcQueLen := nlaMemcpyWords s.tcQueLen payload }
  | .tcAvgQueLenArray => { s with tcAvgQueLen := nlaMemcpyWords s.tcAvgQueLen payload }
  | .tcCurQueLenArray => { s with tcCurQueLen := nlaMemcpyWords s.tcCurQueLen payload }
  | .reservedArray => { s with reserved := nlaMemcpy s.reserved payload }

def testmodeStaStatisticsHandler :
    Option (Attributes StatAttr policy) → StaStatistics → StaStatistics :=
  testmodeHandler StatAttr.all statStore

/-- `stack` is what the uninitialised statistics hold. -/
def wpasGetStaStatistics (sent : Int) (calls : List (List (Message StatAttr policy)))
    (stack : StaStatistics) : Option (Int × StaStatistics) :=
  sendAndRecvMsgs sent testmodeStaStatisticsHandler calls stack

def colon : UInt8 := ascii ':'
def space : UInt8 := ascii ' '

/-- `%02X`. -/
def hexByte (b : UInt8) : Bytes := hexadecimal true 2 b.toNat

/-- `MACSTR`. -/
def macText (addr : Vector UInt8 6) : Bytes :=
  [colon].intercalate (addr.toList.map fun b => hexadecimal false 2 b.toNat)

/-- `%d` of an unsigned counter. -/
def counterText (count : UInt32) : Bytes := integer count.toInt32.toInt

/-- `%d:%d:%d:%d`. -/
def countersText (counts : Vector UInt32 4) : Bytes :=
  [colon].intercalate (counts.toList.map counterText)

/-- `0x%08X`. -/
def wordText (word : UInt32) : Bytes := bytes "0x" ++ hexadecimal true 8 word.toNat

/-- `%.1f`. -/
def rateText (txRate : UInt16) : Bytes :=
  natural (txRate.toNat / 2) ++ bytes (if txRate.toNat % 2 = 0 then ".0" else ".5")

/-- A byte of the reserved ones and the blank behind every fourth. -/
def reservedByte (b : UInt8 × Nat) : List Bytes :=
  hexByte b.1 :: if (b.2 + 1) % 4 = 0 then [[space]] else []

def reservedTexts (key : String) (start : Nat) (reserved : Bytes) : List Bytes :=
  [bytes key ++ [equals]] ++ (reserved.zipIdx start).flatMap reservedByte ++ [[newline]]

def entry (key : String) (value : Bytes) : Bytes := line equals newline (bytes key, value)

def statTexts (s : StaStatistics) : List Bytes :=
  [entry "sta_addr" (macText s.addr),
    entry "link_score" (integer s.linkScore.toNat),
    entry "per" (integer s.per.toNat),
    entry "rssi" (integer s.rssi.toInt),
    entry "phy" (wordText s.phyMode),
    entry "rate" (rateText s.txRate),
    entry "total_cnt" (counterText s.txTotalCnt),
    entry "threshold_cnt" (counterText s.txExcThresholdCnt),
    entry "fail_cnt" (counterText s.txFailCnt),
    entry "timeout_cnt" (counterText s.txTimeoutCnt),
    entry "apt" (counterText s.txAvgProcessTime),
    entry "aat" (counterText s.txAvgAirTime),
    entry "TC_buf_full_cnt" (countersText s.tcBufFullCnt),
    entry "TC_sta_que_len" (countersText s.tcQueLen),
    entry "TC_avg_que_len" (countersText s.tcAvgQueLen),
    entry "TC_cur_que_len" (countersText s.tcCurQueLen),
    entry "flag" (wordText s.flag)] ++
  reservedTexts "reserved0" 0 (s.reserved.toList.take 16) ++
  reservedTexts "reserved1" 16 (s.reserved.toList.drop 16) ++
  [bytes "====\n"]

/-- A report that does not fit has the length 0. -/
def printStaStatistics (s : StaStatistics) (buf : Bytes) : Int × Bytes :=
  let ended := printAll 0 ⟨[], buf⟩ (statTexts s)
  (if ended.2 = true then ended.1.front.length else 0, ended.1.buffer)

/-- `address` tells whether `hwaddr_aton` accepts the address of the command. -/
def wpaDriverGetStaStatistics (address : Bool) (sent : Int)
    (calls : List (List (Message StatAttr policy))) (stack : StaStatistics) (buf : Bytes) :
    Option (Int × Bytes) :=
  if address = false then some (-1, buf)
  else (wpasGetStaStatistics sent calls stack).map fun answer =>
    if answer.1 < 0 then (-1, buf) else printStaStatistics answer.2 buf

def reservedText (start : Nat) (reserved : Bytes) : Bytes :=
  ((reserved.zipIdx start).flatMap reservedByte).flatten

/-- The bytes that an attribute stores. -/
def size : StatAttr → Nat
  | .mac => 6
  | .tcEmptyCntArray | .tcQueLenArray | .tcAvgQueLenArray | .tcCurQueLenArray => 16
  | .reservedArray => 32
  | i => policy i

/-- A reply with test data that has all attributes, and all of each. -/
def Complete (sinfo : Option (Attributes StatAttr policy)) : Prop :=
  ∃ attributes, sinfo = some attributes ∧
    ∀ i, ∃ payload, attributes.payload i = some payload ∧ size i ≤ payload.length

/-- What the replies leave on the stack. -/
def statistics (sinfos : List (Option (Attributes StatAttr policy))) (stack : StaStatistics) :
    StaStatistics :=
  sinfos.foldl (fun s sinfo => testmodeStaStatisticsHandler sinfo s) stack

/-- The report as a table. The line that ends it has no key. -/
def statFields (s : StaStatistics) : List (Bytes × Bytes) :=
  [(bytes "sta_addr", macText s.addr),
    (bytes "link_score", integer s.linkScore.toNat),
    (bytes "per", integer s.per.toNat),
    (bytes "rssi", integer s.rssi.toInt),
    (bytes "phy", wordText s.phyMode),
    (bytes "rate", rateText s.txRate),
    (bytes "total_cnt", counterText s.txTotalCnt),
    (bytes "threshold_cnt", counterText s.txExcThresholdCnt),
    (bytes "fail_cnt", counterText s.txFailCnt),
    (bytes "timeout_cnt", counterText s.txTimeoutCnt),
    (bytes "apt", counterText s.txAvgProcessTime),
    (bytes "aat", counterText s.txAvgAirTime),
    (bytes "TC_buf_full_cnt", countersText s.tcBufFullCnt),
    (bytes "TC_sta_que_len", countersText s.tcQueLen),
    (bytes "TC_avg_que_len", countersText s.tcAvgQueLen),
    (bytes "TC_cur_que_len", countersText s.tcCurQueLen),
    (bytes "flag", wordText s.flag),
    (bytes "reserved0", reservedText 0 (s.reserved.toList.take 16)),
    (bytes "reserved1", reservedText 16 (s.reserved.toList.drop 16)),
    ([], bytes "===")]

theorem reservedTexts_flatten (key : String) (start : Nat) (reserved : Bytes) :
    (reservedTexts key start reserved).flatten =
      line equals newline (bytes key, reservedText start reserved) := by
  simp [reservedTexts, reservedText, line]

theorem statTexts_flatten (s : StaStatistics) :
    (statTexts s).flatten = ((statFields s).map (line equals newline)).flatten := by
  have final : bytes "====\n" = line equals newline ([], bytes "===") := by decide
  rw [statTexts, List.flatten_append, List.flatten_append, List.flatten_append,
    reservedTexts_flatten, reservedTexts_flatten, final]
  simp only [statFields, entry, List.map_cons, List.map_nil, List.flatten_cons, List.flatten_nil,
    List.append_assoc, List.append_nil]

section Inline

@[simp] theorem integer_inline (n : Int) : newline ∉ integer n := by
  intro member
  rcases isDigit_integer member with sign | digit
  · exact absurd sign (by decide)
  · exact absurd digit (by decide)

@[simp] theorem hexadecimal_inline (upper : Bool) (width n : Nat) :
    newline ∉ hexadecimal upper width n := by
  intro member
  exact absurd (isHexDigit_hexadecimal member) (by decide)

theorem intercalate_inline {parts : List Bytes} (inline : ∀ part ∈ parts, newline ∉ part) :
    newline ∉ [colon].intercalate parts := by
  induction parts with
  | nil => simp
  | cons part rest ih =>
      have first := inline part List.mem_cons_self
      have later := ih fun other member => inline other (List.mem_cons_of_mem part member)
      cases rest with
      | nil => simpa using first
      | cons next rest =>
          have separator : newline ≠ colon := by decide
          rw [List.intercalate_cons_cons]
          simp [first, separator, later]

@[simp] theorem counterText_inline (count : UInt32) : newline ∉ counterText count :=
  integer_inline _

@[simp] theorem macText_inline (addr : Vector UInt8 6) : newline ∉ macText addr := by
  apply intercalate_inline
  intro part member
  rcases List.mem_map.mp member with ⟨b, -, rfl⟩
  exact hexadecimal_inline false 2 b.toNat

@[simp] theorem countersText_inline (counts : Vector UInt32 4) : newline ∉ countersText counts := by
  apply intercalate_inline
  intro part member
  rcases List.mem_map.mp member with ⟨count, -, rfl⟩
  exact counterText_inline count

@[simp] theorem wordText_inline (word : UInt32) : newline ∉ wordText word := by
  have marker : newline ∉ bytes "0x" := by decide
  simp [wordText, marker, hexadecimal_inline]

@[simp] theorem rateText_inline (txRate : UInt16) : newline ∉ rateText txRate := by
  have digits : newline ∉ natural (txRate.toNat / 2) := by
    intro member
    exact absurd (isDigit_natural member) (by decide)
  have halves : newline ∉ bytes (if txRate.toNat % 2 = 0 then ".0" else ".5") := by
    split <;> decide
  simp [rateText, digits, halves]

@[simp] theorem reservedText_inline (start : Nat) (reserved : Bytes) :
    newline ∉ reservedText start reserved := by
  intro member
  rcases List.mem_flatten.mp member with ⟨text, inside, here⟩
  rcases List.mem_flatMap.mp inside with ⟨b, -, printed⟩
  rcases List.mem_cons.mp printed with rfl | blank
  · exact hexadecimal_inline true 2 b.1.toNat here
  · split at blank
    · rw [List.mem_singleton.mp blank] at here
      exact absurd here (by decide)
    · simp at blank

def blank : StaStatistics where
  version := 0
  addr := Vector.replicate 6 0
  flag := 0
  linkScore := 0
  per := 0
  rssi := 0
  phyMode := 0
  txRate := 0
  txTotalCnt := 0
  txExcThresholdCnt := 0
  txAvgProcessTime := 0
  txFailCnt := 0
  txTimeoutCnt := 0
  txAvgAirTime := 0
  tcBufFullCnt := Vector.replicate 4 0
  tcQueLen := Vector.replicate 4 0
  tcAvgQueLen := Vector.replicate 4 0
  tcCurQueLen := Vector.replicate 4 0
  reserved := Vector.replicate 32 0

theorem statFields_keys (s : StaStatistics) :
    ∀ key ∈ (statFields s).map Prod.fst, equals ∉ key ∧ newline ∉ key := by
  have same : (statFields s).map Prod.fst = (statFields blank).map Prod.fst := rfl
  rw [same]
  decide

theorem statFields_values (s : StaStatistics) : ∀ field ∈ statFields s, newline ∉ field.2 := by
  have final : newline ∉ bytes "===" := by decide
  simp [statFields, final]

theorem statFields_plain (s : StaStatistics) :
    ∀ field ∈ statFields s, Plain equals newline field := by
  intro field member
  have key := statFields_keys s field.1 (List.mem_map_of_mem member)
  exact ⟨key.1, key.2, statFields_values s field member, by decide⟩

end Inline

section Apart

theorem joined_injective {α : Type} {f : α → Bytes} (separate : ∀ x, colon ∉ f x)
    (apart : ∀ x y, f x = f y → x = y) {n : Nat} {v w : Vector α (n + 1)}
    (same : [colon].intercalate (v.toList.map f) = [colon].intercalate (w.toList.map f)) :
    v = w := by
  have parts : ∀ u : Vector α (n + 1),
      ([colon].intercalate (u.toList.map f)).splitOn colon = u.toList.map f := by
    intro u
    apply List.splitOn_intercalate
    · intro part member
      rcases List.mem_map.mp member with ⟨x, -, rfl⟩
      exact separate x
    · intro none
      have length := congrArg List.length none
      simp at length
  have lists : v.toList.map f = w.toList.map f := by rw [← parts v, same, parts w]
  exact Vector.toList_inj.mp (List.map_injective_iff.mpr apart lists)

theorem macText_injective {addr addr' : Vector UInt8 6} (same : macText addr = macText addr') :
    addr = addr' := by
  apply joined_injective _ _ same
  · intro b member
    exact absurd (isHexDigit_hexadecimal member) (by decide)
  · intro b b' equal
    exact UInt8.toNat_inj.mp (hexadecimal_injective b.toNat_lt b'.toNat_lt equal)

theorem counterText_injective {count count' : UInt32}
    (same : counterText count = counterText count') : count = count' := by
  have signed := Int32.toInt_inj.mp (integer_injective same)
  calc
    count = count.toInt32.toUInt32 := rfl
    _ = count'.toInt32.toUInt32 := by rw [signed]
    _ = count' := rfl

theorem countersText_injective {counts counts' : Vector UInt32 4}
    (same : countersText counts = countersText counts') : counts = counts' := by
  apply joined_injective _ _ same
  · intro count member
    rcases isDigit_integer member with sign | digit
    · exact absurd sign (by decide)
    · exact absurd digit (by decide)
  · intro count count' equal
    exact counterText_injective equal

theorem wordText_injective {word word' : UInt32} (same : wordText word = wordText word') :
    word = word' :=
  UInt32.toNat_inj.mp (hexadecimal_injective word.toNat_lt word'.toNat_lt
    (List.append_cancel_left same))

theorem rateText_injective {rate rate' : UInt16} (same : rateText rate = rateText rate') :
    rate = rate' := by
  have lengths : ∀ rate : UInt16,
      (bytes (if rate.toNat % 2 = 0 then ".0" else ".5")).length = 2 := by
    intro rate
    split <;> decide
  rcases List.append_inj' same ((lengths rate).trans (lengths rate').symm) with ⟨whole, half⟩
  have wholes := natural_injective whole
  have halves : rate.toNat % 2 = 0 ↔ rate'.toNat % 2 = 0 := by
    by_cases even : rate.toNat % 2 = 0 <;> by_cases even' : rate'.toNat % 2 = 0
    · exact iff_of_true even even'
    · rw [if_pos even, if_neg even'] at half
      exact absurd half (by decide)
    · rw [if_neg even, if_pos even'] at half
      exact absurd half (by decide)
    · exact iff_of_false even even'
  apply UInt16.toNat_inj.mp
  omega

theorem reservedText_cons (start : Nat) (b : UInt8) (rest : Bytes) :
    reservedText start (b :: rest) =
      hexByte b ++ ((if (start + 1) % 4 = 0 then [space] else []) ++
        reservedText (start + 1) rest) := by
  rw [reservedText, List.zipIdx_cons, List.flatMap_cons, List.flatten_append, reservedText,
    reservedByte]
  split <;> simp

theorem reservedText_injective {start : Nat} {reserved reserved' : Bytes}
    (length : reserved.length = reserved'.length)
    (same : reservedText start reserved = reservedText start reserved') : reserved = reserved' := by
  induction reserved generalizing start reserved' with
  | nil => exact (List.length_eq_zero_iff.mp length.symm).symm
  | cons b rest ih =>
      cases reserved' with
      | nil => simp at length
      | cons b' rest' =>
          rw [reservedText_cons, reservedText_cons] at same
          have widths : (hexByte b).length = (hexByte b').length := by
            simp [hexByte, hexadecimal_length]
          rcases List.append_inj same widths with ⟨first, later⟩
          have equal : b = b' :=
            UInt8.toNat_inj.mp (hexadecimal_injective b.toNat_lt b'.toNat_lt first)
          have others := ih (by simpa using length) (List.append_cancel_left later)
          rw [equal, others]

/-- The report tells all statistics but the version. -/
theorem statFields_injective {s s' : StaStatistics} (same : statFields s = statFields s') :
    { s with version := 0 } = { s' with version := 0 } := by
  simp only [statFields, List.cons.injEq, Prod.mk.injEq, true_and, and_true] at same
  rcases same with ⟨addr, linkScore, per, rssi, phyMode, txRate, total, threshold, fail, timeout,
    process, air, full, queue, average, current, flag, front, back⟩
  have reserved : s.reserved = s'.reserved := by
    apply Vector.toList_inj.mp
    have first := reservedText_injective (by simp) front
    have second := reservedText_injective (by simp) back
    calc
      s.reserved.toList = s.reserved.toList.take 16 ++ s.reserved.toList.drop 16 :=
        (List.take_append_drop 16 _).symm
      _ = s'.reserved.toList.take 16 ++ s'.reserved.toList.drop 16 := by rw [first, second]
      _ = s'.reserved.toList := List.take_append_drop 16 _
  rcases s with ⟨_, _, _, _, _, _, _, _, _, _, _, _, _, _, _, _, _, _, _⟩
  rcases s' with ⟨_, _, _, _, _, _, _, _, _, _, _, _, _, _, _, _, _, _, _⟩
  dsimp only at *
  rw [macText_injective addr,
    UInt8.toNat_inj.mp (Int.natCast_inj.mp (integer_injective linkScore)),
    UInt8.toNat_inj.mp (Int.natCast_inj.mp (integer_injective per)),
    Int32.toInt_inj.mp (integer_injective rssi), wordText_injective phyMode,
    rateText_injective txRate, counterText_injective total, counterText_injective threshold,
    counterText_injective fail, counterText_injective timeout, counterText_injective process,
    counterText_injective air, countersText_injective full, countersText_injective queue,
    countersText_injective average, countersText_injective current, wordText_injective flag,
    reserved]

end Apart

section Length

theorem joined_length {parts : List Bytes} {width : Nat}
    (short : ∀ part ∈ parts, part.length ≤ width) (some : parts ≠ []) :
    ([colon].intercalate parts).length + 1 ≤ parts.length * (width + 1) := by
  induction parts with
  | nil => exact absurd rfl some
  | cons part rest ih =>
      have first := short part List.mem_cons_self
      cases rest with
      | nil => simpa using first
      | cons next rest =>
          have later := ih (fun other member => short other (List.mem_cons_of_mem part member))
            (List.cons_ne_nil next rest)
          rw [List.intercalate_cons_cons]
          simp only [List.length_append, List.length_cons, List.length_nil] at later ⊢
          rw [Nat.succ_mul]
          omega

theorem macText_length (addr : Vector UInt8 6) : (macText addr).length ≤ 17 := by
  let parts := addr.toList.map fun b => hexadecimal false 2 b.toNat
  have joined : ([colon].intercalate parts).length + 1 ≤ parts.length * (2 + 1) :=
    joined_length (by simp [parts, hexadecimal_length]) (by simp [parts, ← List.length_eq_zero_iff])
  rw [List.length_map, Vector.length_toList] at joined
  exact Nat.le_of_succ_le_succ joined

theorem intText_length (n : Int32) : (integer n.toInt).length ≤ 11 := by
  have low := n.le_toInt
  have high := n.toInt_lt
  apply integer_length (by decide)
  omega

theorem counterText_length (count : UInt32) : (counterText count).length ≤ 11 :=
  intText_length count.toInt32

theorem countersText_length (counts : Vector UInt32 4) : (countersText counts).length ≤ 47 := by
  let parts := counts.toList.map counterText
  have joined : ([colon].intercalate parts).length + 1 ≤ parts.length * (11 + 1) :=
    joined_length (by simp [parts, counterText_length]) (by simp [parts, ← List.length_eq_zero_iff])
  rw [List.length_map, Vector.length_toList] at joined
  exact Nat.le_of_succ_le_succ joined

theorem wordText_length (word : UInt32) : (wordText word).length = 10 := by
  have marker : (bytes "0x").length = 2 := by decide
  rw [wordText, List.length_append, hexadecimal_length, marker]

theorem rateText_length (txRate : UInt16) : (rateText txRate).length ≤ 7 := by
  have small := txRate.toNat_lt
  have digits : (natural (txRate.toNat / 2)).length ≤ 5 := natural_length (by decide) (by omega)
  have half : (bytes (if txRate.toNat % 2 = 0 then ".0" else ".5")).length = 2 := by
    split <;> decide
  rw [rateText, List.length_append, half]
  omega

theorem reservedText_length (start : Nat) (reserved : Bytes) :
    (reservedText start reserved).length ≤ 3 * reserved.length := by
  induction reserved generalizing start with
  | nil => exact Nat.le_refl 0
  | cons b rest ih =>
      have later := ih (start + 1)
      have blank : (if (start + 1) % 4 = 0 then [space] else []).length ≤ 1 := by
        split <;> simp
      rw [reservedText_cons, List.length_append, List.length_append, hexByte, hexadecimal_length,
        List.length_cons]
      omega

theorem byteText_length (b : UInt8) : (integer b.toNat).length ≤ 4 := by
  have small := b.toNat_lt
  apply integer_length (by decide)
  omega

theorem line_length (key value : Bytes) :
    (line equals newline (key, value)).length = key.length + value.length + 2 := by
  simp only [line, List.length_append, List.length_cons, List.length_nil]
  omega

theorem statTexts_length (s : StaStatistics) : (statTexts s).flatten.length ≤ 614 := by
  have keys : (bytes "sta_addr").length = 8 ∧ (bytes "link_score").length = 10 ∧
      (bytes "per").length = 3 ∧ (bytes "rssi").length = 4 ∧ (bytes "phy").length = 3 ∧
      (bytes "rate").length = 4 ∧ (bytes "total_cnt").length = 9 ∧
      (bytes "threshold_cnt").length = 13 ∧ (bytes "fail_cnt").length = 8 ∧
      (bytes "timeout_cnt").length = 11 ∧ (bytes "apt").length = 3 ∧ (bytes "aat").length = 3 ∧
      (bytes "TC_buf_full_cnt").length = 15 ∧ (bytes "TC_sta_que_len").length = 14 ∧
      (bytes "TC_avg_que_len").length = 14 ∧ (bytes "TC_cur_que_len").length = 14 ∧
      (bytes "flag").length = 4 ∧ (bytes "reserved0").length = 9 ∧
      (bytes "reserved1").length = 9 ∧ (bytes "===").length = 3 := by
    simp [bytes]
  have addr := macText_length s.addr
  have linkScore := byteText_length s.linkScore
  have per := byteText_length s.per
  have rssi := intText_length s.rssi
  have rate := rateText_length s.txRate
  have total := counterText_length s.txTotalCnt
  have threshold := counterText_length s.txExcThresholdCnt
  have fail := counterText_length s.txFailCnt
  have timeout := counterText_length s.txTimeoutCnt
  have process := counterText_length s.txAvgProcessTime
  have air := counterText_length s.txAvgAirTime
  have full := countersText_length s.tcBufFullCnt
  have queue := countersText_length s.tcQueLen
  have average := countersText_length s.tcAvgQueLen
  have current := countersText_length s.tcCurQueLen
  have front : (reservedText 0 (s.reserved.toList.take 16)).length ≤ 48 := by
    simpa using reservedText_length 0 (s.reserved.toList.take 16)
  have back : (reservedText 16 (s.reserved.toList.drop 16)).length ≤ 48 := by
    simpa using reservedText_length 16 (s.reserved.toList.drop 16)
  rw [statTexts_flatten]
  simp only [statFields, List.map_cons, List.map_nil, List.flatten_cons, List.flatten_nil,
    List.length_append, line_length, wordText_length, List.length_nil, keys]
  linarith

end Length

section Stack

theorem nlaMemcpy_full {n : Nat} {payload : Bytes} (full : n ≤ payload.length)
    (target target' : Vector UInt8 n) : nlaMemcpy target payload = nlaMemcpy target' payload := by
  rw [nlaMemcpy, nlaMemcpy]
  congr 1
  funext i
  rw [List.getElem?_eq_getElem (by omega), Option.getD_some, Option.getD_some]

theorem nlaMemcpyWords_full {n : Nat} {payload : Bytes} (full : 4 * n ≤ payload.length)
    (target target' : Vector UInt32 n) :
    nlaMemcpyWords target payload = nlaMemcpyWords target' payload := by
  rw [nlaMemcpyWords, nlaMemcpyWords]
  congr 1
  funext i
  congr 2
  apply List.map_congr_left
  intro j member
  have small := List.mem_range.mp member
  rw [List.getElem?_eq_getElem (by omega), Option.getD_some, Option.getD_some]

/-- A complete reply overwrites all that was on the stack. -/
theorem complete_overwrites {sinfo : Option (Attributes StatAttr policy)}
    (complete : Complete sinfo) (s s' : StaStatistics) :
    testmodeStaStatisticsHandler sinfo s = testmodeStaStatisticsHandler sinfo s' := by
  rcases complete with ⟨attributes, rfl, all⟩
  choose payload present full using all
  have stores : ∀ s, testmodeStaStatisticsHandler (some attributes) s =
      StatAttr.all.foldl (fun s i => statStore i (payload i) s) s := by
    intro s
    have each : storeIfPresent statStore attributes = fun s i => statStore i (payload i) s := by
      funext s i
      rw [storeIfPresent, present i]
    rw [testmodeStaStatisticsHandler, testmodeHandler, each]
  rw [stores, stores]
  simp only [StatAttr.all, List.foldl_cons, List.foldl_nil, statStore]
  rw [nlaMemcpy_full (show 6 ≤ _ from full .mac) s.addr s'.addr,
    nlaMemcpyWords_full (show 4 * 4 ≤ _ from full .tcEmptyCntArray) s.tcBufFullCnt s'.tcBufFullCnt,
    nlaMemcpyWords_full (show 4 * 4 ≤ _ from full .tcQueLenArray) s.tcQueLen s'.tcQueLen,
    nlaMemcpyWords_full (show 4 * 4 ≤ _ from full .tcAvgQueLenArray) s.tcAvgQueLen s'.tcAvgQueLen,
    nlaMemcpyWords_full (show 4 * 4 ≤ _ from full .tcCurQueLenArray) s.tcCurQueLen s'.tcCurQueLen,
    nlaMemcpy_full (show 32 ≤ _ from full .reservedArray) s.reserved s'.reserved]

theorem statistics_overwritten {sinfos : List (Option (Attributes StatAttr policy))}
    (complete : ∃ sinfo ∈ sinfos, Complete sinfo) (stack stack' : StaStatistics) :
    statistics sinfos stack = statistics sinfos stack' := by
  induction sinfos generalizing stack stack' with
  | nil => simp at complete
  | cons sinfo rest ih =>
      rw [statistics, statistics, List.foldl_cons, List.foldl_cons]
      by_cases first : Complete sinfo
      · rw [complete_overwrites first stack stack']
      · rcases complete with ⟨other, member, whole⟩
        rcases List.mem_cons.mp member with rfl | later
        · exact absurd whole first
        · exact ih ⟨other, later, whole⟩ _ _

end Stack

/-- The complete report or none: what is read of it are all statistics but the version. -/
structure Tells (s : StaStatistics) (buf : Bytes) (reply : Int × Bytes) : Prop where
  inside : reply.2.length = buf.length
  whole : (statTexts s).flatten.length < buf.length →
    reply.1 = (statTexts s).flatten.length ∧
      readFields equals newline (reply.2.take reply.1.toNat) = statFields s
  none : buf.length ≤ (statTexts s).flatten.length → reply.1 = 0
  large : 615 ≤ buf.length → 0 < reply.1
  apart : ∀ s', statFields s' = statFields s → { s' with version := 0 } = { s with version := 0 }

theorem statTexts_ne_nil (s : StaStatistics) : statTexts s ≠ [] := List.cons_ne_nil _ _

theorem printStaStatistics_whole {s : StaStatistics} {buf : Bytes}
    (fits : (statTexts s).flatten.length < buf.length) :
    (printStaStatistics s buf).1 = (statTexts s).flatten.length ∧
      readFields equals newline
        ((printStaStatistics s buf).2.take (printStaStatistics s buf).1.toNat) = statFields s := by
  have all := (fitting_eq_self_iff (statTexts_ne_nil s)).mpr fits
  have printedAll := (printAll_all 0 ⟨[], buf⟩ (statTexts s)).mpr all
  have front := printAll_front 0 ⟨[], buf⟩ (statTexts s)
  rw [List.nil_append, all] at front
  have length : (printStaStatistics s buf).1 = (statTexts s).flatten.length := by
    rw [printStaStatistics, if_pos printedAll, front]
  have text := printed 0 buf (statTexts s)
  rw [front, all] at text
  refine ⟨length, ?_⟩
  rw [length, Int.toNat_natCast, printStaStatistics, text, statTexts_flatten]
  exact readFields_lines (statFields_plain s)

theorem printStaStatistics_none {s : StaStatistics} {buf : Bytes}
    (long : buf.length ≤ (statTexts s).flatten.length) : (printStaStatistics s buf).1 = 0 := by
  have part : ¬ (printAll 0 ⟨[], buf⟩ (statTexts s)).2 = true := by
    rw [printAll_all, fitting_eq_self_iff (statTexts_ne_nil s)]
    exact Nat.not_lt.mpr long
  rw [printStaStatistics, if_neg part]

theorem printStaStatistics_tells (s : StaStatistics) (buf : Bytes) :
    Tells s buf (printStaStatistics s buf) where
  inside := by
    have length := printAll_length 0 ⟨[], buf⟩ (statTexts s)
    exact length.trans (by simp [Cursor.buffer])
  whole := printStaStatistics_whole
  none := printStaStatistics_none
  large := by
    intro large
    have short := lt_of_le_of_lt (statTexts_length s) large
    have some : 0 < (statTexts s).flatten.length := by
      simp only [statTexts, entry, line, List.cons_append, List.flatten_cons, List.length_append,
        List.length_cons]
      omega
    rw [(printStaStatistics_whole short).1]
    omega
  apart s' same := statFields_injective same

/-- A reply with all attributes, of bytes that are all 5. -/
def allFives : Attributes StatAttr policy where
  payload _ := some (List.replicate 32 5)
  policy i payload present := by
    cases present
    cases i <;> decide

def fiveCalls : List (List (Message StatAttr policy)) := [[.valid (some allFives), .ack]]

theorem allFives_complete : Complete (some allFives) := by
  refine ⟨allFives, rfl, ?_⟩
  intro i
  exact ⟨List.replicate 32 5, rfl, by cases i <;> decide⟩

end X5MaxDevice.WpaSupplicant.StatisticsReport
