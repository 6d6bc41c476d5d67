import Mathlib.Data.List.TakeWhile
import X5MaxDevice.Mrdump.ClearThenGet

/-! What `mrdump_status_get` reports of every control block, and when it stays inside it. -/

namespace X5MaxDevice.Mrdump

/-- The text in front of the first NUL, or all of it. -/
def textOf (cells : Bytes) : Bytes := cells.takeWhile (· != 0)

/-- The status text ends before the last byte of its field. -/
def CblockResult.statusText (block : CblockResult) : Bytes := textOf (block.status.take 127)

def nonEmptyLines (text : Bytes) : List Bytes :=
  (text.splitOn newline).filter (fun line => !line.isEmpty)

/-- The value of the last line with that key. -/
def lastValue (key : Bytes) (lines : List Bytes) : Option Bytes :=
  (lines.reverse.find? (fun line => key.isPrefixOf line)).map (fun line => line.drop key.length)

def outputKey : Bytes := bytes "OUTPUT:"
def modeKey : Bytes := bytes "MODE:"
def okLine : Bytes := bytes "OK"

def OutputsKnown (lines : List Bytes) : Prop :=
  ∀ line ∈ lines, outputKey.isPrefixOf line = true →
    (outputOf (line.drop outputKey.length)).isSome = true

instance (lines : List Bytes) : Decidable (OutputsKnown lines) :=
  inferInstanceAs (Decidable (∀ line ∈ lines, _ → _))

/-- What a caller learns from a get that returns true. -/
structure Report where
  status : MrdumpStatus
  output : MrdumpOutput
  mode : Bytes
  logBuf : Bytes
  deriving DecidableEq, Repr

/-- What the lines of the status text say; none if they say nothing that is known. -/
def statusReport (log : Bytes) : List Bytes → Option Report
  | [] => none
  | first :: rest =>
      if first = okLine then
        if OutputsKnown rest then
          some ⟨.ok, ((lastValue outputKey rest).bind outputOf).getD .null,
            ((lastValue modeKey rest).getD []).take 31, log⟩
        else none
      else if first = bytes "NONE" ∨ first = bytes "CLEAR" then some ⟨.none, .null, [], log⟩
      else some ⟨.failed, .null, [], log⟩

def CblockResult.Signed (block : CblockResult) : Prop := block.sig = mrdumpSig ++ [0]

instance (block : CblockResult) : Decidable block.Signed := inferInstanceAs (Decidable (_ = _))

/-- What a control block means, whatever its fields hold. -/
def CblockResult.report (block : CblockResult) : Option Report :=
  if block.Signed then statusReport (textOf block.logBuf) (nonEmptyLines block.statusText) else none

/-- The call stays inside the block, returns whether the block means something, and then
reports what it means. -/
def CblockResult.Tells (block : CblockResult) (outcome : Option (Bool × MrdumpStatusResult)) : Prop :=
  ∃ result, outcome = some (block.report.isSome, result) ∧
    ∀ report ∈ block.report, result.status = report.status ∧ result.output = report.output ∧
      result.mode = report.mode ∧ result.logBuf = report.logBuf

section StringFunctions

theorem strcmpEq_literal {cells wanted : Bytes} (room : cells.length = wanted.length + 1) :
    strcmpEq cells wanted = some (decide (cells = wanted ++ [0])) := by
  induction wanted generalizing cells with
  | nil =>
      rcases List.length_eq_one_iff.mp room with ⟨byte, rfl⟩
      simp [strcmpEq]
  | cons byte wanted ih =>
      cases cells with
      | nil => simp at room
      | cons first rest =>
          rw [strcmpEq]
          by_cases same : first = byte
          · rw [if_pos same, ih (by simpa using room), same]
            simp
          · rw [if_neg same]
            simp [same]

theorem cString_eq (cells : Bytes) :
    cString cells = if 0 ∈ cells then some (textOf cells) else none := by
  induction cells with
  | nil => rfl
  | cons byte rest ih =>
      rw [cString]
      by_cases ended : byte = 0
      · simp [ended, textOf]
      · have other : ¬ 0 = byte := fun same => ended same.symm
        rw [if_neg ended, ih]
        by_cases terminated : 0 ∈ rest
        · simp [terminated, textOf, ended]
        · simp [terminated, other]

theorem textOf_terminated (cells : Bytes) : cString (cells ++ [0]) = some (textOf cells) := by
  rw [cString_eq, if_pos (by simp), textOf, textOf, List.takeWhile_append]
  split
  · rename_i whole
    have all : cells.takeWhile (· != 0) = cells :=
      (List.takeWhile_prefix _).eq_of_length whole
    simp [all]
  · rfl

theorem nonEmptyLines_line {line : Bytes} (some : line ≠ [])
    (plain : ∀ byte ∈ line, (byte == newline) = false) : nonEmptyLines line = [line] := by
  rw [nonEmptyLines, List.splitOn_eq_singleton_of_beq_eq_false plain]
  simp [some]

theorem nonEmptyLines_append (before after : Bytes) :
    nonEmptyLines (before ++ newline :: after) = nonEmptyLines before ++ nonEmptyLines after := by
  rw [nonEmptyLines, List.splitOn_append_cons_self, List.filter_append]
  rfl

/-- Empty lines at the front do not count. -/
theorem nonEmptyLines_dropWhile (text : Bytes) :
    nonEmptyLines (text.dropWhile (· == newline)) = nonEmptyLines text := by
  induction text with
  | nil => rfl
  | cons byte text ih =>
      rw [List.dropWhile_cons]
      by_cases ended : (byte == newline) = true
      · have first := nonEmptyLines_append [] text
        rw [if_pos ended, ih, eq_of_beq ended]
        exact first.symm
      · rw [if_neg ended]

/-- The tokens are the lines that are not empty. -/
theorem strtokAll_eq {fuel : Nat} {text : Bytes} (enough : text.length < fuel) :
    strtokAll fuel text = nonEmptyLines text := by
  induction fuel generalizing text with
  | zero => omega
  | succ fuel ih =>
      rw [strtokAll, strtokR, ← nonEmptyLines_dropWhile]
      have shorter := (List.dropWhile_suffix (l := text) (· == newline)).length_le
      have stopped := List.head?_dropWhile_not (· == newline) text
      generalize text.dropWhile (· == newline) = started at shorter stopped ⊢
      cases started with
      | nil => rfl
      | cons byte started =>
          have first : (byte == newline) = false := by simpa using stopped
          have some : (byte :: started).takeWhile (· != newline) ≠ [] := by simp [bne, first]
          have plain : ∀ other ∈ (byte :: started).takeWhile (· != newline),
              (other == newline) = false := by
            intro other member
            simpa using List.mem_takeWhile_imp member
          have whole := @List.takeWhile_append_dropWhile _ (· != newline) (byte :: started)
          have behind := List.head?_dropWhile_not (· != newline) (byte :: started)
          rw [if_neg (List.cons_ne_nil byte started)]
          dsimp only
          generalize (byte :: started).takeWhile (· != newline) = token at some plain whole ⊢
          generalize (byte :: started).dropWhile (· != newline) = after at behind whole ⊢
          rw [← whole] at shorter ⊢
          rw [List.length_append] at shorter
          have length := List.length_pos_iff.mpr some
          cases after with
          | nil =>
              have rest := ih (show ([] : Bytes).length < fuel by rw [List.length_nil]; omega)
              rw [List.drop_nil, rest, List.append_nil, nonEmptyLines_line some plain]
              rfl
          | cons separator rest =>
              have ended : separator = newline := by simpa using behind
              have less : rest.length < fuel := by
                rw [List.length_cons] at shorter
                omega
              rw [ended, List.drop_one, List.tail_cons, ih less, nonEmptyLines_append,
                nonEmptyLines_line some plain]
              rfl

end StringFunctions

section Lines

theorem outputKey_length : outputKey.length = 7 := by decide +kernel

theorem modeKey_length : modeKey.length = 5 := by decide +kernel

/-- The two keys begin with different letters. -/
theorem not_mode_of_output {line : Bytes} (output : outputKey.isPrefixOf line = true) :
    modeKey.isPrefixOf line = false := by
  have first : outputKey = 79 :: outputKey.tail := by decide +kernel
  have other : modeKey = 77 :: modeKey.tail := by decide +kernel
  rw [first] at output
  rw [other]
  cases line with
  | nil => rfl
  | cons byte line =>
      simp only [List.isPrefixOf, Bool.and_eq_true, beq_iff_eq] at output ⊢
      rw [← output.1]
      rfl

theorem lastValue_cons (key line : Bytes) (lines : List Bytes) :
    lastValue key (line :: lines) =
      (lastValue key lines).or
        (if key.isPrefixOf line = true then some (line.drop key.length) else none) := by
  rw [lastValue, lastValue, List.reverse_cons, List.find?_append, List.find?_singleton]
  cases later : lines.reverse.find? (fun line => key.isPrefixOf line) with
  | none =>
      by_cases here : key.isPrefixOf line = true
      · simp [here]
      · simp [here]
  | some last => rfl

theorem lastValue_known {lines : List Bytes} (known : OutputsKnown lines) {value : Bytes}
    (last : lastValue outputKey lines = some value) : (outputOf value).isSome = true := by
  rcases Option.map_eq_some_iff.mp last with ⟨line, found, rfl⟩
  have member := List.mem_reverse.mp (List.mem_of_find?_eq_some found)
  exact known line member (List.find?_some found)

theorem okLines_output {line : Bytes} (rest : List Bytes) (result : MrdumpStatusResult)
    (output : outputKey.isPrefixOf line = true) {known : MrdumpOutput}
    (value : outputOf (line.drop outputKey.length) = some known) :
    okLines (line :: rest) result = okLines rest { result with output := known } := by
  rw [outputKey_length] at value
  have here : (bytes "OUTPUT:").isPrefixOf line = true := output
  rw [okLines, if_pos here, value]

theorem okLines_unknown {line : Bytes} (rest : List Bytes) (result : MrdumpStatusResult)
    (output : outputKey.isPrefixOf line = true)
    (value : outputOf (line.drop outputKey.length) = none) :
    okLines (line :: rest) result = (false, result) := by
  rw [outputKey_length] at value
  have here : (bytes "OUTPUT:").isPrefixOf line = true := output
  rw [okLines, if_pos here, value]

theorem okLines_mode {line : Bytes} (rest : List Bytes) (result : MrdumpStatusResult)
    (output : ¬ outputKey.isPrefixOf line = true) (mode : modeKey.isPrefixOf line = true) :
    okLines (line :: rest) result =
      okLines rest { result with mode := (line.drop modeKey.length).take 31 } := by
  rw [modeKey_length]
  have elsewhere : ¬ (bytes "OUTPUT:").isPrefixOf line = true := output
  have here : (bytes "MODE:").isPrefixOf line = true := mode
  rw [okLines, if_neg elsewhere, if_pos here]

theorem okLines_other {line : Bytes} (rest : List Bytes) (result : MrdumpStatusResult)
    (output : ¬ outputKey.isPrefixOf line = true) (mode : ¬ modeKey.isPrefixOf line = true) :
    okLines (line :: rest) result = okLines rest result := by
  have first : ¬ (bytes "OUTPUT:").isPrefixOf line = true := output
  have second : ¬ (bytes "MODE:").isPrefixOf line = true := mode
  rw [okLines, if_neg first, if_neg second]

theorem outputsKnown_cons (line : Bytes) (rest : List Bytes) :
    OutputsKnown (line :: rest) ↔
      (outputKey.isPrefixOf line = true →
        (outputOf (line.drop outputKey.length)).isSome = true) ∧ OutputsKnown rest :=
  List.forall_mem_cons

/-- What the lines behind `OK` make of a result. -/
def withLines (rest : List Bytes) (result : MrdumpStatusResult) : MrdumpStatusResult :=
  { result with
    output := ((lastValue outputKey rest).bind outputOf).getD result.output
    mode := ((lastValue modeKey rest).map (·.take 31)).getD result.mode }

theorem okLines_eq (rest : List Bytes) (result : MrdumpStatusResult) :
    (okLines rest result).1 = decide (OutputsKnown rest) ∧
      (OutputsKnown rest → (okLines rest result).2 = withLines rest result) := by
  induction rest generalizing result with
  | nil => exact ⟨rfl, fun _ => rfl⟩
  | cons line rest ih =>
      have split := outputsKnown_cons line rest
      by_cases output : outputKey.isPrefixOf line = true
      · have mode := not_mode_of_output output
        cases value : outputOf (line.drop outputKey.length) with
        | none =>
            have unknown : ¬ OutputsKnown (line :: rest) := by
              intro known
              have here := (split.mp known).1 output
              rw [value] at here
              cases here
            rw [okLines_unknown rest result output value, decide_eq_false unknown]
            exact ⟨rfl, fun known => absurd known unknown⟩
        | some known =>
            have same : OutputsKnown (line :: rest) ↔ OutputsKnown rest := by
              rw [split, value]
              simp
            rw [okLines_output rest result output value, decide_eq_decide.mpr same, same]
            rcases ih { result with output := known } with ⟨ended, rewritten⟩
            refine ⟨ended, fun all => (rewritten all).trans ?_⟩
            have last : ((lastValue outputKey (line :: rest)).bind outputOf).getD result.output =
                ((lastValue outputKey rest).bind outputOf).getD known := by
              rw [lastValue_cons, if_pos output]
              cases later : lastValue outputKey rest with
              | none => simp [value]
              | some found =>
                  rcases Option.isSome_iff_exists.mp (lastValue_known all later) with ⟨kind, kinds⟩
                  simp [kinds]
            simp [withLines, last, lastValue_cons modeKey, mode]
      · have same : OutputsKnown (line :: rest) ↔ OutputsKnown rest := by
          rw [split]
          simp [output]
        have unchanged : lastValue outputKey (line :: rest) = lastValue outputKey rest := by
          rw [lastValue_cons, if_neg output, Option.or_none]
        by_cases mode : modeKey.isPrefixOf line = true
        · rw [okLines_mode rest result output mode, decide_eq_decide.mpr same, same]
          rcases ih { result with mode := (line.drop modeKey.length).take 31 } with ⟨ended, rewritten⟩
          refine ⟨ended, fun all => (rewritten all).trans ?_⟩
          have last : ((lastValue modeKey (line :: rest)).map (·.take 31)).getD result.mode =
              ((lastValue modeKey rest).map (·.take 31)).getD
                ((line.drop modeKey.length).take 31) := by
            rw [lastValue_cons, if_pos mode]
            cases lastValue modeKey rest with
            | none => rfl
            | some found => rfl
          simp [withLines, last, unchanged]
        · have quiet : lastValue modeKey (line :: rest) = lastValue modeKey rest := by
            rw [lastValue_cons, if_neg mode, Option.or_none]
          rw [okLines_other rest result output mode, decide_eq_decide.mpr same, same]
          rcases ih result with ⟨ended, rewritten⟩
          refine ⟨ended, fun all => (rewritten all).trans ?_⟩
          rw [withLines, withLines, unchanged, quiet]

end Lines

/-- What the lines of the status text make of a fresh result. -/
theorem statusLines_report (log : Bytes) (lines : List Bytes) {result : MrdumpStatusResult}
    (output : result.output = .null) (mode : result.mode = []) :
    (statusLines lines result).1 = (statusReport log lines).isSome ∧
      ∀ report ∈ statusReport log lines,
        (statusLines lines result).2.status = report.status ∧
          (statusLines lines result).2.output = report.output ∧
          (statusLines lines result).2.mode = report.mode ∧ log = report.logBuf := by
  cases lines with
  | nil => exact ⟨rfl, fun report told => by cases told⟩
  | cons first rest =>
      rw [statusLines, statusReport]
      by_cases ok : first = okLine
      · have here : first = bytes "OK" := ok
        rw [if_pos here, if_pos ok]
        rcases okLines_eq rest { result with status := .ok, output := .null } with ⟨ended, rewritten⟩
        rw [ended]
        by_cases known : OutputsKnown rest
        · rw [if_pos known, decide_eq_true known, rewritten known]
          refine ⟨rfl, ?_⟩
          rintro report told
          cases told
          refine ⟨rfl, rfl, ?_, rfl⟩
          simp only [withLines, mode]
          cases lastValue modeKey rest with
          | none => rfl
          | some value => rfl
        · rw [if_neg known, decide_eq_false known]
          exact ⟨rfl, fun report told => by cases told⟩
      · have elsewhere : ¬ first = bytes "OK" := ok
        rw [if_neg elsewhere, if_neg ok]
        by_cases absent : first = bytes "NONE" ∨ first = bytes "CLEAR"
        · have quiet : (if first = bytes "NONE" then (true, { result with status := .none })
              else if first = bytes "CLEAR" then (true, { result with status := .none })
              else (true, { result with status := .failed })) =
              (true, { result with status := .none }) := by
            rcases absent with none | clear
            · rw [if_pos none]
            · rw [if_pos clear, ite_self]
          rw [quiet, if_pos absent]
          refine ⟨rfl, ?_⟩
          rintro report told
          cases told
          exact ⟨rfl, output, mode, rfl⟩
        · rw [if_neg (not_or.mp absent).1, if_neg (not_or.mp absent).2, if_neg absent]
          refine ⟨rfl, ?_⟩
          rintro report told
          cases told
          exact ⟨rfl, output, mode, rfl⟩

/-- The block is not signed, or its log is terminated, or its status text is terminated and
means nothing, so that the log is left alone. -/
def CblockResult.Terminated (block : CblockResult) : Prop :=
  block.Signed → 0 ∈ block.logBuf ∨ (0 ∈ block.status ∧ block.report = none)

section Parsing

variable (block : CblockResult)

theorem strcmpEq_sig : strcmpEq block.sig mrdumpSig = some (decide block.Signed) := by
  have room : block.sig.length = mrdumpSig.length + 1 := block.sig_length
  exact strcmpEq_literal room

theorem statusText_eq : cString (block.status.set 127 0) = some block.statusText := by
  have last : block.status.set 127 0 = block.status.take 127 ++ [0] := by
    have length := block.status_length
    have behind : block.status.drop 128 = [] := List.drop_eq_nil_of_le (Nat.le_of_eq length)
    rw [List.set_eq_take_append_cons_drop, if_pos (by omega), behind]
  rw [last, textOf_terminated]
  rfl

theorem lines_statusText : lines block.statusText = nonEmptyLines block.statusText :=
  strtokAll_eq (Nat.lt_succ_self _)

theorem strlcpy_log (terminated : 0 ∈ block.logBuf) :
    strlcpy 2048 block.logBuf = some (textOf block.logBuf) := by
  apply strlcpy_of_cString
  · rw [cString_eq, if_pos terminated]
  · exact Nat.le_of_eq block.logBuf_length

theorem strlcpy_unterminated {source : Bytes} (size : Nat) (unterminated : 0 ∉ source) :
    strlcpy size source = none := by
  rw [strlcpy, cString_eq, if_neg unterminated, Option.map_none]

theorem strlcpy_terminated {source : Bytes} (size : Nat) (terminated : 0 ∈ source) :
    strlcpy size source = some ((textOf source).take (size - 1)) := by
  rw [strlcpy, cString_eq, if_pos terminated, Option.map_some]

theorem report_signed (signed : block.Signed) :
    block.report = statusReport (textOf block.logBuf) (nonEmptyLines block.statusText) :=
  if_pos signed

/-- The result before the lines are read. -/
def freshResult : MrdumpStatusResult :=
  { emptyResult with statusLine := (textOf (block.status ++ block.logBuf)).take (128 - 1) }

/-- The parser on a signed block whose status line can be copied. -/
theorem parseCblock_signed (signed : block.Signed) (copied : 0 ∈ block.status ++ block.logBuf) :
    ∃ result : MrdumpStatusResult,
      parseCblock block =
          (if block.report.isSome then
            (strlcpy 2048 block.logBuf).map (fun log => (true, { result with logBuf := log }))
          else some (false, result)) ∧
        ∀ report ∈ block.report, result.status = report.status ∧ result.output = report.output ∧
          result.mode = report.mode ∧ textOf block.logBuf = report.logBuf := by
  have known := strcmpEq_sig block
  rw [decide_eq_true signed] at known
  have parsed := statusLines_report (textOf block.logBuf) (nonEmptyLines block.statusText)
    (show (freshResult block).output = .null from rfl) rfl
  rw [← report_signed block signed] at parsed
  refine ⟨(statusLines (nonEmptyLines block.statusText) (freshResult block)).2, ?_, parsed.2⟩
  rw [← parsed.1, parseCblock, known, Option.bind_some, strlcpy_terminated 128 copied,
    Option.bind_some, statusText_eq, Option.bind_some, lines_statusText,
    if_neg (show ¬ (!true) = true by decide), ← freshResult]
  rcases statusLines (nonEmptyLines block.statusText) (freshResult block) with ⟨ended, result⟩
  cases ended with
  | false => rfl
  | true => rfl

theorem not_tells_none : ¬ block.Tells none := by
  rintro ⟨result, reported, -⟩
  exact Option.some_ne_none _ reported.symm

/-- A call that reads past the block reports nothing of it. -/
theorem parseCblock_unterminated (signed : block.Signed)
    (unterminated : 0 ∉ block.status ++ block.logBuf) : parseCblock block = none := by
  have known := strcmpEq_sig block
  rw [decide_eq_true signed] at known
  rw [parseCblock, known, Option.bind_some, if_neg (show ¬ (!true) = true by decide),
    strlcpy_unterminated 128 unterminated, Option.bind_none]

theorem parseCblock_unsigned (unsigned : ¬ block.Signed) :
    parseCblock block = some (false, emptyResult) := by
  have known := strcmpEq_sig block
  rw [decide_eq_false unsigned] at known
  rw [parseCblock, known, Option.bind_some, if_pos (show (!false) = true by decide)]

/-- The parser tells what the block means exactly when the block is terminated. -/
theorem parseCblock_tells_iff : block.Tells (parseCblock block) ↔ block.Terminated := by
  by_cases signed : block.Signed
  · rw [CblockResult.Terminated, imp_iff_right signed]
    by_cases copied : 0 ∈ block.status ++ block.logBuf
    · rcases parseCblock_signed block signed copied with ⟨result, parsed, told⟩
      rw [parsed]
      cases meaning : block.report with
      | none =>
          apply iff_of_true
          · exact ⟨result, by rw [meaning]; rfl, fun report reported => by
              rw [meaning] at reported
              cases reported⟩
          · rcases List.mem_append.mp copied with status | log
            · exact Or.inr ⟨status, rfl⟩
            · exact Or.inl log
      | some report =>
          have here := told report meaning
          rw [if_pos (show (some report).isSome = true from rfl)]
          by_cases logged : 0 ∈ block.logBuf
          · rw [strlcpy_log block logged]
            apply iff_of_true
            · refine ⟨{ result with logBuf := textOf block.logBuf }, by rw [meaning]; rfl, ?_⟩
              intro other reported
              rw [meaning] at reported
              cases reported
              exact here
            · exact Or.inl logged
          · rw [strlcpy_unterminated 2048 logged, Option.map_none]
            apply iff_of_false (not_tells_none block)
            rintro (log | ⟨-, none⟩)
            · exact logged log
            · cases none
    · rw [parseCblock_unterminated block signed copied]
      apply iff_of_false (not_tells_none block)
      rintro (log | ⟨status, -⟩)
      · exact copied (List.mem_append_right _ log)
      · exact copied (List.mem_append_left _ status)
  · rw [parseCblock_unsigned block signed]
    have meaning : block.report = none := if_neg signed
    apply iff_of_true
    · exact ⟨emptyResult, by rw [meaning]; rfl, fun report reported => by
        rw [meaning] at reported
        cases reported⟩
    · exact fun asserted => absurd asserted signed

end Parsing

/-- A get that reads the control block reports what it means, without leaving it, exactly when
the block is terminated. -/
theorem mrdumpStatusGet_tells_iff (devices : Devices) (reports : Reports)
    (readable : reports.Readable) {node : String} {content : Bytes} {offset : Nat}
    {block : CblockResult} (partition : expdbPartition devices = some (node, content))
    (control : ControlBlock content offset block) :
    block.Tells (mrdumpStatusGet devices reports) ↔ block.Terminated := by
  rw [mrdumpStatusGet_of_control readable partition control]
  exact parseCblock_tells_iff block

/-- The block without dump information. -/
theorem blank_told : blankCblock.Tells (mrdumpStatusGet (deviceOf blankCblock) noFailure) := by
  apply (mrdumpStatusGet_tells_iff (deviceOf blankCblock) noFailure noFailure_readable
    (deviceOf_partition blankCblock) (partitionOf_control blankCblock)).mpr
  intro _
  exact Or.inl (List.mem_replicate.mpr ⟨by decide, rfl⟩)

/-- A signed block whose text fields hold the letter A throughout. -/
def unterminatedCblock : CblockResult :=
  { blankCblock with
    status := List.replicate 128 65
    logBuf := List.replicate 2048 65
    status_length := List.length_replicate
    logBuf_length := List.length_replicate }

theorem unterminated_left :
    ¬ ∀ (devices : Devices) (reports : Reports) (node : String) (content : Bytes) (offset : Nat)
      (block : CblockResult), reports.Readable →
        expdbPartition devices = some (node, content) → ControlBlock content offset block →
          block.Tells (mrdumpStatusGet devices reports) := by
  intro tells
  have told := tells (deviceOf unterminatedCblock) noFailure expdbNode _ 0 unterminatedCblock
    noFailure_readable (deviceOf_partition _) (partitionOf_control _)
  have absent : 0 ∉ unterminatedCblock.status ++ unterminatedCblock.logBuf := by
    intro member
    rcases List.mem_append.mp member with status | log
    · exact absurd (List.eq_of_mem_replicate status) (by decide)
    · exact absurd (List.eq_of_mem_replicate log) (by decide)
  rw [mrdumpStatusGet_of_control noFailure_readable (deviceOf_partition _) (partitionOf_control _),
    parseCblock_unterminated unterminatedCblock rfl absent] at told
  exact not_tells_none unterminatedCblock told

end X5MaxDevice.Mrdump
