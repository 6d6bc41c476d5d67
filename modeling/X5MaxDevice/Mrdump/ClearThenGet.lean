import X5MaxDevice.Mrdump.Status

/-! Reading the status of the ram dumper after clearing it. -/

namespace X5MaxDevice.Mrdump

section ControlBlock

theorem CblockResult.toBytes_length (block : CblockResult) : block.toBytes.length = cblockSize := by
  simp only [toBytes, List.length_append, block.sig_length, block.status_length,
    block.logBuf_length]
  rfl

theorem CblockResult.ofBytes_toBytes (block : CblockResult) :
    ofBytes block.toBytes = some block := by
  rw [ofBytes, dif_pos block.toBytes_length]
  rcases block with ⟨sig, status, logBuf, sigLength, statusLength, logLength⟩
  have front : (sig ++ status).length = 137 := by rw [List.length_append, sigLength, statusLength]
  have signature : (sig ++ status ++ logBuf).take 9 = sig := by
    rw [List.append_assoc, ← sigLength, List.take_left]
  have middle : ((sig ++ status ++ logBuf).drop 9).take 128 = status := by
    rw [List.append_assoc, ← sigLength, List.drop_left, ← statusLength, List.take_left]
  have log : (sig ++ status ++ logBuf).drop 137 = logBuf := by
    rw [← front, List.drop_left]
  simp only [toBytes, signature, middle, log]

theorem CblockResult.toBytes_of_ofBytes {data : Bytes} {block : CblockResult}
    (parsed : ofBytes data = some block) : block.toBytes = data := by
  unfold ofBytes at parsed
  split at parsed
  · obtain rfl := Option.some.inj parsed
    rw [toBytes, List.append_assoc]
    have tail : (data.drop 9).take 128 ++ data.drop 137 = data.drop 9 := by
      have later : data.drop 137 = (data.drop 9).drop 128 := by rw [List.drop_drop]
      rw [later, List.take_append_drop]
    rw [tail, List.take_append_drop]
  · cases parsed

/-- A block that is read stands in the partition between bytes of its own. -/
theorem split_of_readCblock {content : Bytes} {offset : Nat} {block : CblockResult}
    (present : readCblock content offset = some block) :
    ∃ before after, content = before ++ block.toBytes ++ after ∧ before.length = offset := by
  rw [readCblock, Option.bind_eq_some_iff] at present
  obtain ⟨data, done, parsed⟩ := present
  obtain ⟨before, after, same, position⟩ := Memory.split_of_read done
  refine ⟨before, after, ?_, by omega⟩
  rw [same, CblockResult.toBytes_of_ofBytes parsed]

theorem readCblock_middle (before after : Bytes) (block : CblockResult) :
    readCblock (before ++ block.toBytes ++ after) before.length = some block := by
  have done := Memory.read_middle before block.toBytes after
  rw [block.toBytes_length] at done
  rw [readCblock, done, Option.bind_some, block.ofBytes_toBytes]

/-- The cleared block differs from the block in the status field alone. -/
theorem clear_outside (before after : Bytes) (block : CblockResult) (index : Nat)
    (outside : index < before.length + 9 ∨ before.length + 137 ≤ index) :
    (before ++ block.clear.toBytes ++ after)[index]? =
      (before ++ block.toBytes ++ after)[index]? := by
  have same : block.status.length = clearedStatus.length := block.status_length
  have done := Memory.write_middle (before ++ block.sig) (block.logBuf ++ after) same
  have position : (before ++ block.sig).length = before.length + 9 := by
    rw [List.length_append, block.sig_length]
  have width : clearedStatus.length = 128 := rfl
  have aside : (index : Int) < ((before ++ block.sig).length : Int) ∨
      ((before ++ block.sig).length : Int) + clearedStatus.length ≤ index := by
    rw [position, width]
    omega
  have kept := Memory.write_outside done aside
  have cleared : before ++ block.clear.toBytes ++ after =
      before ++ block.sig ++ clearedStatus ++ (block.logBuf ++ after) := by
    simp [CblockResult.toBytes, CblockResult.clear]
  have original : before ++ block.toBytes ++ after =
      before ++ block.sig ++ block.status ++ (block.logBuf ++ after) := by
    simp [CblockResult.toBytes]
  rw [cleared, original]
  exact kept

end ControlBlock

section Texts

theorem cString_append {cells text : Bytes} (terminated : cString cells = some text)
    (more : Bytes) : cString (cells ++ more) = some text := by
  induction cells generalizing text with
  | nil => simp [cString] at terminated
  | cons byte rest ih =>
      rw [List.cons_append, cString]
      rw [cString] at terminated
      by_cases ended : byte = 0
      · simpa [ended] using terminated
      · rw [if_neg ended] at terminated ⊢
        obtain ⟨tail, stopped, rfl⟩ := Option.map_eq_some_iff.mp terminated
        rw [ih stopped]
        rfl

theorem cString_length {cells text : Bytes} (terminated : cString cells = some text) :
    text.length < cells.length := by
  induction cells generalizing text with
  | nil => simp [cString] at terminated
  | cons byte rest ih =>
      rw [cString] at terminated
      by_cases ended : byte = 0
      · obtain rfl : [] = text := by simpa [ended] using terminated
        simp
      · rw [if_neg ended] at terminated
        obtain ⟨tail, stopped, rfl⟩ := Option.map_eq_some_iff.mp terminated
        have shorter := ih stopped
        simp only [List.length_cons]
        omega

/-- A text terminated inside the source fits a destination of the source's size. -/
theorem strlcpy_of_cString {source text : Bytes} {size : Nat} (terminated : cString source = some text)
    (room : source.length ≤ size) : strlcpy size source = some text := by
  have shorter := cString_length terminated
  rw [strlcpy, terminated, Option.map_some, List.take_of_length_le (by omega)]

end Texts

/-- What the parser makes of a cleared block. -/
theorem parseCblock_clear {block : CblockResult} {text : Bytes}
    (signed : strcmpEq block.sig mrdumpSig = some true) (logged : cString block.logBuf = some text) :
    parseCblock block.clear =
      some (true, { emptyResult with statusLine := bytes "CLEAR", logBuf := text }) := by
  have terminated : cString clearedStatus = some (bytes "CLEAR") := by decide +kernel
  have closed : cString (clearedStatus.set 127 0) = some (bytes "CLEAR") := by decide +kernel
  have copied : strlcpy 128 (clearedStatus ++ block.logBuf) = some (bytes "CLEAR") := by
    rw [strlcpy, cString_append terminated]
    decide +kernel
  have log : strlcpy 2048 block.logBuf = some text :=
    strlcpy_of_cString logged (Nat.le_of_eq block.logBuf_length)
  have single : lines (bytes "CLEAR") = [bytes "CLEAR"] := by decide +kernel
  have none : ∀ result : MrdumpStatusResult,
      statusLines [bytes "CLEAR"] result = (true, { result with status := .none }) := fun _ => rfl
  simp only [parseCblock, CblockResult.clear, signed, copied, closed, single, none, log,
    Option.bind_some, Option.map_some, Bool.not_true, Bool.false_eq_true, if_false]
  rfl

/-- The control block of a partition, where the calls look for it. -/
def ControlBlock (content : Bytes) (offset : Nat) (block : CblockResult) : Prop :=
  seekCblock content.length = some offset ∧ readCblock content offset = some block

/-- The calls that a get makes report success. -/
structure Reports.Readable (reports : Reports) : Prop where
  blkGetSize64 : reports.blkGetSize64 = false
  blkSszGet : reports.blkSszGet = false
  seek : reports.seek = false
  read : reports.read = false

theorem expdbOpen_of_readable {reports : Reports} (readable : reports.Readable)
    (devices : Devices) : expdbOpen devices reports = expdbPartition devices := by
  simp [expdbOpen, readable.blkGetSize64, readable.blkSszGet]

/-- A get that finds the control block parses it. -/
theorem mrdumpStatusGet_of_control {devices : Devices} {reports : Reports}
    (readable : reports.Readable) {node : String} {content : Bytes}
    (partition : expdbPartition devices = some (node, content)) {offset : Nat}
    {block : CblockResult} (control : ControlBlock content offset block) :
    mrdumpStatusGet devices reports = parseCblock block := by
  rw [mrdumpStatusGet, expdbOpen_of_readable readable, partition]
  simp only [control.1, control.2, readable.seek, readable.read, Bool.false_eq_true, if_false]

/-- A clear whose calls succeed returns true. -/
theorem mrdumpStatusClear_of_control {devices : Devices} {reports : Reports}
    (readable : reports.Readable) (seekBack : reports.seekBack = false)
    (write : reports.write = none) {node : String} {content : Bytes}
    (partition : expdbPartition devices = some (node, content)) {offset : Nat}
    {block : CblockResult} (control : ControlBlock content offset block) {written : Bytes}
    (stored : Memory.write content offset block.clear.toBytes = some written) :
    mrdumpStatusClear devices reports = (true, devices.set node written) := by
  rw [mrdumpStatusClear, expdbOpen_of_readable readable, partition]
  simp only [control.1, control.2, readable.seek, readable.read, seekBack, write, stored,
    Bool.false_eq_true, if_false]

/-- A clear that returns true has replaced the control block by the cleared one. -/
theorem mrdumpStatusClear_cases {devices : Devices} {reports : Reports}
    (cleared : (mrdumpStatusClear devices reports).1 = true) {node : String} {content : Bytes}
    (partition : expdbPartition devices = some (node, content)) {offset : Nat}
    {block : CblockResult} (control : ControlBlock content offset block) :
    ∃ written, Memory.write content offset block.clear.toBytes = some written ∧
      (mrdumpStatusClear devices reports).2 = devices.set node written := by
  have opened : expdbOpen devices reports = some (node, content) := by
    cases failed : (reports.blkGetSize64 || reports.blkSszGet) with
    | true =>
        have missing : expdbOpen devices reports = none := by rw [expdbOpen, if_pos failed]
        simp [mrdumpStatusClear, missing] at cleared
    | false => simp [expdbOpen, failed, partition]
  rcases reports with ⟨blkGetSize64, blkSszGet, seek, read, seekBack, write⟩
  rw [mrdumpStatusClear, opened] at cleared ⊢
  simp only [control.1] at cleared ⊢
  cases seek with
  | true => simp at cleared
  | false =>
      simp only [control.2, Bool.false_eq_true, if_false] at cleared ⊢
      cases read with
      | true => simp at cleared
      | false =>
          simp only [Bool.false_eq_true, if_false] at cleared ⊢
          cases seekBack with
          | true => simp at cleared
          | false =>
              simp only [Bool.false_eq_true, if_false] at cleared ⊢
              cases write with
              | some transferred => simp at cleared
              | none =>
                  cases stored : Memory.write content offset block.clear.toBytes with
                  | none => simp [stored] at cleared
                  | some written => exact ⟨written, rfl, rfl⟩

theorem expdbPartition_set {devices : Devices} {node : String} {content : Bytes}
    (partition : expdbPartition devices = some (node, content)) (written : Bytes) :
    expdbPartition (devices.set node written) = some (node, written) := by
  unfold expdbPartition at partition ⊢
  obtain ⟨earlier, other, later, split, found, skipped⟩ := List.findSome?_eq_some_iff.mp partition
  obtain ⟨here, same⟩ : devices other = some content ∧ other = node := by
    simpa [Option.map_eq_some_iff, and_comm] using found
  subst same
  rw [split]
  refine List.findSome?_eq_some_iff.mpr ⟨earlier, other, later, rfl, by simp [Devices.set], ?_⟩
  intro absent member
  have missing : devices absent = none := by simpa using skipped absent member
  have distinct : absent ≠ other := by
    rintro rfl
    simp [here] at missing
  simp [Devices.set, distinct, missing]

/-- After a clear that returns true, a get whose calls succeed returns true with no dump and
the log of the old block, and the partition has changed in the status field alone. -/
theorem clear_then_get (devices : Devices) (reports later : Reports) (readable : later.Readable)
    {node : String} {content text : Bytes} {offset : Nat} {block : CblockResult}
    (partition : expdbPartition devices = some (node, content))
    (control : ControlBlock content offset block)
    (signed : strcmpEq block.sig mrdumpSig = some true) (logged : cString block.logBuf = some text)
    (cleared : (mrdumpStatusClear devices reports).1 = true) :
    (∃ result, mrdumpStatusGet (mrdumpStatusClear devices reports).2 later =
        some (true, result) ∧ result.status = .none ∧ result.logBuf = text) ∧
      ∃ written, (mrdumpStatusClear devices reports).2 = devices.set node written ∧
        written.length = content.length ∧
        ∀ index, index < offset + 9 ∨ offset + 137 ≤ index → written[index]? = content[index]? := by
  obtain ⟨written, stored, after⟩ := mrdumpStatusClear_cases cleared partition control
  obtain ⟨before, behind, rfl, rfl⟩ := split_of_readCblock control.2
  have same : block.toBytes.length = block.clear.toBytes.length := by
    rw [block.toBytes_length, block.clear.toBytes_length]
  rw [Memory.write_middle before behind same] at stored
  obtain rfl := Option.some.inj stored
  have kept : (before ++ block.clear.toBytes ++ behind).length =
      (before ++ block.toBytes ++ behind).length := by
    simp only [List.length_append, same]
  refine ⟨⟨{ emptyResult with statusLine := bytes "CLEAR", logBuf := text }, ?_, rfl, rfl⟩,
    _, after, kept, fun index outside => ?_⟩
  · have partition' := expdbPartition_set partition (before ++ block.clear.toBytes ++ behind)
    have control' : ControlBlock (before ++ block.clear.toBytes ++ behind) before.length
        block.clear := by
      refine ⟨?_, readCblock_middle before behind block.clear⟩
      rw [kept]
      exact control.1
    rw [after, mrdumpStatusGet_of_control readable partition' control']
    exact parseCblock_clear signed logged
  · exact clear_outside before behind block index outside

def expdbNode : String := "/dev/block/platform/mtk-msdc.0/11230000.msdc0/by-name/expdb"

/-- The smallest partition with that control block, on a device of its own. -/
def partitionOf (block : CblockResult) : Bytes :=
  [] ++ block.toBytes ++ List.replicate (mrdumpOffset - cblockSize) 0

def deviceOf (block : CblockResult) : Devices :=
  fun node => if node = expdbNode then some (partitionOf block) else none

theorem partitionOf_control (block : CblockResult) :
    ControlBlock (partitionOf block) 0 block := by
  constructor
  · have size : (partitionOf block).length = mrdumpOffset := by
      simp only [partitionOf, List.nil_append, List.length_append,
        CblockResult.toBytes_length, List.length_replicate]
      rfl
    rw [size]
    rfl
  · exact readCblock_middle [] _ block

theorem deviceOf_partition (block : CblockResult) :
    expdbPartition (deviceOf block) = some (expdbNode, partitionOf block) := by
  have here : deviceOf block expdbNode = some (partitionOf block) := if_pos rfl
  have nodes : expdbDevs = expdbNode :: expdbDevs.tail := rfl
  rw [expdbPartition, nodes, List.findSome?_cons, here]
  rfl

theorem noFailure_readable : noFailure.Readable := ⟨rfl, rfl, rfl, rfl⟩

/-- A block without dump information, its log empty. -/
def blankCblock : CblockResult :=
  ⟨mrdumpSig ++ [0], List.replicate 128 0, List.replicate 2048 0, rfl, List.length_replicate,
    List.length_replicate⟩

/-- The smallest partition that has room for the offset. -/
def smallPartition : Bytes :=
  [] ++ blankCblock.toBytes ++ List.replicate (mrdumpOffset - cblockSize) 0

def oneDevice : Devices := fun node => if node = expdbNode then some smallPartition else none

theorem smallPartition_control : ControlBlock smallPartition 0 blankCblock :=
  partitionOf_control blankCblock

theorem clear_then_get_blank :
    (∃ result, mrdumpStatusGet (mrdumpStatusClear oneDevice noFailure).2 noFailure =
        some (true, result) ∧ result.status = .none ∧ result.logBuf = []) ∧
      ∃ written, (mrdumpStatusClear oneDevice noFailure).2 =
          oneDevice.set expdbNode written ∧
        written.length = smallPartition.length ∧
        ∀ index, index < 0 + 9 ∨ 0 + 137 ≤ index → written[index]? = smallPartition[index]? := by
  have partition : expdbPartition oneDevice = some (expdbNode, smallPartition) :=
    deviceOf_partition blankCblock
  have same : blankCblock.toBytes.length = blankCblock.clear.toBytes.length := by
    rw [blankCblock.toBytes_length, blankCblock.clear.toBytes_length]
  have stored : Memory.write smallPartition (0 : Nat) blankCblock.clear.toBytes = some _ :=
    Memory.write_middle [] _ same
  refine clear_then_get oneDevice noFailure noFailure noFailure_readable partition smallPartition_control
    (by decide +kernel) (by decide +kernel) ?_
  rw [mrdumpStatusClear_of_control noFailure_readable rfl rfl partition smallPartition_control stored]

end X5MaxDevice.Mrdump
