import X5MaxDevice.Base.Java

/-! The frame of a PMTK command: how it is taken off a command and put on again, and the bytes
that go to the socket. -/

namespace X5MaxDevice.Ygps.PmtkFraming

open X5MaxDevice.Java

def COMMAND_START : JString := ['$']
def COMMAND_END : JString := ['*']

/-- The default locale, as far as it maps characters to upper case; in some the `i` keeps
its dot. -/
structure Locale where
  upper : Char → JString
  dotted : Bool
  upper_i : upper 'i' = if dotted then ['İ'] else ['I']
  upper_ascii : ∀ c : Char, c.toNat < 128 → c ≠ 'i' → upper c = [c.toUpper]

def toUpperCase (locale : Locale) (text : JString) : JString := text.flatMap locale.upper

/-- `String.getBytes` in UTF-8. -/
def getBytes (text : JString) : List UInt8 := text.flatMap String.utf8EncodeChar

/-- The UTF-16 units of a character. -/
def units (c : Char) : List Nat :=
  if c.toNat < 0x10000 then [c.toNat]
  else [0xD800 + (c.toNat - 0x10000) / 1024, 0xDC00 + (c.toNat - 0x10000) % 1024]

/-- `DataOutputStream.writeBytes` writes the low byte of each unit. -/
def writeBytes (text : JString) : List UInt8 := text.flatMap (fun c => (units c).map UInt8.ofNat)

def xorAll (bytes : List UInt8) : UInt8 := bytes.foldr (fun b sum => b ^^^ sum) 0

def lowerHex (d : Nat) : Char := if d < 10 then Char.ofNat (48 + d) else Char.ofNat (87 + d)

/-- `%1$02x` -/
def formatHex (b : UInt8) : JString := [lowerHex (b.toNat / 16), lowerHex (b.toNat % 16)]

def calcCS (locale : Locale) (command : JString) : JString :=
  if command = [] then []
  else toUpperCase locale (formatHex (xorAll (getBytes (toUpperCase locale command))))

/-- What `ClientSocket.sendCommand` makes of a command. -/
def sendComm (locale : Locale) (command : JString) : JString :=
  '$' :: command ++ '*' :: calcCS locale command

/-- `ClientSocket.sendCommand`, on the commands that wait. -/
def put (locale : Locale) (mCommandQueue : List JString) (command : JString) : List JString :=
  if command = sendComm locale command || mCommandQueue.contains (sendComm locale command) then
    mCommandQueue
  else mCommandQueue ++ [sendComm locale command]

def isBlank (c : Char) : Bool := decide (c.toNat ≤ 32)

def trim (text : JString) : JString := (text.dropWhile isBlank).rdropWhile isBlank

/-- The body that `YgpsActivity.sendCommand` takes out of a command, if it does not refuse it. -/
def strip (command : JString) : Option JString :=
  if (trim command).length = 0 then none
  else match indexOf command COMMAND_START, indexOf command COMMAND_END with
    | some index1, some index2 =>
        if index2 < index1 then none else some (trim ((command.take index2).drop (index1 + 1)))
    | some index1, none => some (trim (command.drop (index1 + 1)))
    | none, some index2 => some (trim (command.take index2))
    | none, none => some (trim command)

/-- `YgpsActivity.sendCommand`. -/
def sendCommand (locale : Locale) (mCommandQueue : List JString) (command : JString) :
    List JString :=
  match strip command with
  | none => mCommandQueue
  | some com => put locale mCommandQueue com

/-- The bytes that the worker writes for a command from the queue. -/
def wire (mCommand : JString) : List UInt8 := writeBytes mCommand ++ [13, 10]

/-- Two upper-case hexadecimal digits. -/
def hexPair (b : UInt8) : List UInt8 :=
  let digit (d : Nat) : UInt8 := if d < 10 then UInt8.ofNat (48 + d) else UInt8.ofNat (55 + d)
  [digit (b.toNat / 16), digit (b.toNat % 16)]

/-- `$`, a body, `*`, the exclusive or of the bytes of the body, and the line end. -/
def Framed (bytes : List UInt8) : Prop :=
  ∃ body, bytes = 36 :: (body ++ 42 :: (hexPair (xorAll body) ++ [13, 10]))

/-- The sentence that is queued for the command is written with its frame and checksum, and a
framed sentence is queued like its body. -/
structure FramesCommand (locale : Locale) (command : JString) : Prop where
  written : ∀ mCommandQueue sentence,
    sendCommand locale mCommandQueue command = mCommandQueue ++ [sentence] → Framed (wire sentence)
  framed : '$' ∉ command → '*' ∉ command → ∀ mCommandQueue checksum,
    sendCommand locale mCommandQueue ('$' :: command ++ '*' :: checksum) =
      sendCommand locale mCommandQueue command

/-- By how much the checksum and the bytes on the wire differ for a character. -/
def difference (locale : Locale) (c : Char) : UInt8 :=
  xorAll (getBytes (locale.upper c)) ^^^ xorAll (writeBytes [c])

/-- The differences of all characters cancel. -/
def Balanced (locale : Locale) (body : JString) : Prop :=
  xorAll (body.map (difference locale)) = 0

instance (locale : Locale) (body : JString) : Decidable (Balanced locale body) :=
  inferInstanceAs (Decidable (_ = _))

/-- The command is refused, or leaves a body whose differences cancel. -/
def Faithful (locale : Locale) (command : JString) : Prop :=
  ∀ body ∈ strip command, body ≠ [] ∧ Balanced locale body

theorem xorAll_append (front back : List UInt8) :
    xorAll (front ++ back) = xorAll front ^^^ xorAll back := by
  induction front with
  | nil => rw [List.nil_append, xorAll, xorAll, List.foldr_nil, UInt8.zero_xor]
  | cons b front ih =>
      rw [List.cons_append, xorAll, List.foldr_cons, ← xorAll, ih, ← UInt8.xor_assoc]
      rfl

theorem writeBytes_cons (c : Char) (text : JString) :
    writeBytes (c :: text) = writeBytes [c] ++ writeBytes text := by
  rw [writeBytes, List.flatMap_cons, writeBytes, List.flatMap_singleton, writeBytes]

theorem writeBytes_append (front back : JString) :
    writeBytes (front ++ back) = writeBytes front ++ writeBytes back := List.flatMap_append

theorem getBytes_append (front back : JString) :
    getBytes (front ++ back) = getBytes front ++ getBytes back := List.flatMap_append

/-- The differences add up over the characters. -/
theorem differences (locale : Locale) (body : JString) :
    xorAll (body.map (difference locale)) =
      xorAll (getBytes (toUpperCase locale body)) ^^^ xorAll (writeBytes body) := by
  induction body with
  | nil => simp [toUpperCase, getBytes, writeBytes, xorAll]
  | cons c body ih =>
      have upper : toUpperCase locale (c :: body) = locale.upper c ++ toUpperCase locale body :=
        List.flatMap_cons
      rw [List.map_cons, xorAll, List.foldr_cons, ← xorAll, ih, difference, upper, getBytes_append,
        xorAll_append, writeBytes_cons c body, xorAll_append]
      ac_rfl

theorem balanced_iff (locale : Locale) (body : JString) :
    Balanced locale body ↔
      xorAll (getBytes (toUpperCase locale body)) = xorAll (writeBytes body) := by
  rw [Balanced, differences, UInt8.xor_eq_zero_iff]

/-- The digits of a byte in upper case, as characters and on the wire. -/
theorem upper_formatHex (locale : Locale) (b : UInt8) :
    writeBytes (toUpperCase locale (formatHex b)) = hexPair b := by
  have digits : ∀ d : Fin 16, (lowerHex d).toNat < 128 ∧ lowerHex d ≠ 'i' ∧
      writeBytes [(lowerHex d).toUpper] =
        [if d.val < 10 then UInt8.ofNat (48 + d) else UInt8.ofNat (55 + d)] := by
    decide +kernel
  have bound := b.toNat_lt
  have high := digits ⟨b.toNat / 16, by omega⟩
  have low := digits ⟨b.toNat % 16, by omega⟩
  have split : toUpperCase locale (formatHex b) =
      [(lowerHex (b.toNat / 16)).toUpper] ++ [(lowerHex (b.toNat % 16)).toUpper] := by
    rw [toUpperCase, formatHex, List.flatMap_cons, List.flatMap_cons, List.flatMap_nil,
      List.append_nil, locale.upper_ascii _ high.1 high.2.1, locale.upper_ascii _ low.1 low.2.1]
  rw [split, writeBytes_append, high.2.2, low.2.2]
  rfl

theorem hexPair_injective {b b' : UInt8} (same : hexPair b = hexPair b') : b = b' := by
  have digits : ∀ d d' : Fin 16,
      (if d.val < 10 then UInt8.ofNat (48 + d) else UInt8.ofNat (55 + d)) =
        (if d'.val < 10 then UInt8.ofNat (48 + d') else UInt8.ofNat (55 + d')) → d = d' := by
    decide +kernel
  have bound := b.toNat_lt
  have bound' := b'.toNat_lt
  injection same with high rest
  injection rest with low _
  have upper := Fin.mk.inj (digits ⟨b.toNat / 16, by omega⟩ ⟨b'.toNat / 16, by omega⟩ high)
  have lower := Fin.mk.inj (digits ⟨b.toNat % 16, by omega⟩ ⟨b'.toNat % 16, by omega⟩ low)
  exact UInt8.toNat_inj.mp (by omega)

theorem wire_sendComm (locale : Locale) (command : JString) :
    wire (sendComm locale command) =
      36 :: (writeBytes command ++ 42 :: (writeBytes (calcCS locale command) ++ [13, 10])) := by
  have start : writeBytes ['$'] = [36] := by decide
  have star : writeBytes ['*'] = [42] := by decide
  rw [wire, sendComm, List.cons_append, writeBytes_cons, start, writeBytes_append, writeBytes_cons,
    star]
  simp

/-- Which bodies are written with their checksum. -/
theorem framed_iff (locale : Locale) (command : JString) :
    Framed (wire (sendComm locale command)) ↔ command ≠ [] ∧ Balanced locale command := by
  have length (b : UInt8) : (hexPair b).length = 2 := rfl
  rw [wire_sendComm]
  by_cases empty : command = []
  · refine iff_of_false ?_ (fun present => present.1 empty)
    rintro ⟨body, same⟩
    have lengths := congrArg List.length same
    rw [empty, calcCS, if_pos rfl] at lengths
    simp only [writeBytes, List.flatMap_nil, List.length_cons, List.length_append, length,
      List.length_nil] at lengths
    omega
  · rw [calcCS, if_neg empty, upper_formatHex, balanced_iff, and_iff_right empty]
    constructor
    · rintro ⟨body, same⟩
      have lengths := congrArg List.length same
      simp only [List.length_cons, List.length_append, length, List.length_nil] at lengths
      injection same with _ same
      rcases List.append_inj same (by omega) with ⟨rfl, rest⟩
      injection rest with _ rest
      exact hexPair_injective (List.append_inj rest rfl).1
    · intro same
      exact ⟨writeBytes command, by rw [same]⟩

theorem sendComm_longer (locale : Locale) (command : JString) : command ≠ sendComm locale command := by
  intro same
  have lengths := congrArg List.length same
  rw [sendComm, List.length_append, List.length_cons, List.length_cons] at lengths
  omega

theorem put_empty (locale : Locale) (command : JString) :
    put locale [] command = [] ++ [sendComm locale command] := by
  rw [put, if_neg]
  rw [Bool.or_eq_true, decide_eq_true_eq]
  rintro (same | waits)
  · exact sendComm_longer locale command same
  · exact Bool.noConfusion waits

theorem put_sentence {locale : Locale} {mCommandQueue : List JString} {command sentence : JString}
    (added : put locale mCommandQueue command = mCommandQueue ++ [sentence]) :
    sentence = sendComm locale command := by
  rw [put] at added
  split at added
  · simp at added
  · exact (List.singleton_inj.mp (List.append_cancel_left added)).symm

theorem trim_present {c : Char} {rest : JString} (letter : isBlank c = false) :
    ¬ (trim (c :: rest)).length = 0 := by
  have start : (c :: rest).dropWhile isBlank = c :: rest :=
    List.dropWhile_cons_of_neg (by rw [letter]; exact Bool.false_ne_true)
  rw [List.length_eq_zero_iff, trim, start, List.rdropWhile_eq_nil_iff]
  intro blank
  have first := blank c List.mem_cons_self
  rw [letter] at first
  cases first

/-- A framed sentence and its body leave the same. -/
theorem strip_framed {command : JString} (noStart : '$' ∉ command) (noEnd : '*' ∉ command)
    (checksum : JString) (present : trim command ≠ []) :
    strip ('$' :: command ++ '*' :: checksum) = strip command := by
  have bare : strip command = some (trim command) := by
    have length : ¬ (trim command).length = 0 := fun zero =>
      present (List.length_eq_zero_iff.mp zero)
    rw [strip, if_neg length, COMMAND_START, COMMAND_END, indexOf_char_absent noStart,
      indexOf_char_absent noEnd]
  have start : indexOf ('$' :: command ++ '*' :: checksum) COMMAND_START = some 0 :=
    @indexOf_char [] '$' List.not_mem_nil _
  have finish : indexOf ('$' :: command ++ '*' :: checksum) COMMAND_END =
      some ('$' :: command).length := by
    apply indexOf_char
    rw [List.mem_cons, not_or]
    exact ⟨by decide, noEnd⟩
  have length : ¬ (trim ('$' :: command ++ '*' :: checksum)).length = 0 := trim_present (by decide)
  have order : ¬ ('$' :: command).length < 0 := Nat.not_lt_zero _
  have body : (('$' :: command ++ '*' :: checksum).take ('$' :: command).length).drop (0 + 1) =
      command := by
    rw [List.take_left]
    rfl
  rw [bare, strip, if_neg length, start, finish]
  dsimp only
  rw [if_neg order, body]

theorem FramesCommand.faithful {locale : Locale} {command : JString}
    (frames : FramesCommand locale command) : Faithful locale command := by
  intro body stripped
  have queued : sendCommand locale [] command = [] ++ [sendComm locale body] := by
    rw [sendCommand, Option.mem_def.mp stripped]
    exact put_empty locale body
  exact (framed_iff locale body).mp (frames.written [] _ queued)

/-- A command that is not blank is framed faithfully exactly if it is refused or leaves a body that
checksum and wire treat alike. -/
theorem frames_command_iff (locale : Locale) {command : JString} (present : trim command ≠ []) :
    FramesCommand locale command ↔ Faithful locale command := by
  refine ⟨fun frames => frames.faithful, fun faithful => ?_⟩
  refine ⟨fun mCommandQueue sentence queued => ?_, fun noStart noEnd mCommandQueue checksum => ?_⟩
  · rw [sendCommand] at queued
    cases stripped : strip command with
    | none =>
        rw [stripped] at queued
        simp at queued
    | some body =>
        rw [stripped] at queued
        rw [put_sentence queued]
        exact (framed_iff locale body).mpr (faithful body stripped)
  · rw [sendCommand, strip_framed noStart noEnd checksum present]
    rfl

theorem xorAll_select {α : Type} (p : α → Bool) (k : UInt8) (items : List α) :
    xorAll (items.map (fun item => if p item then k else 0)) =
      if items.countP p % 2 = 0 then 0 else k := by
  induction items with
  | nil => rfl
  | cons item items ih =>
      rw [List.map_cons, xorAll, List.foldr_cons, ← xorAll, ih]
      cases chosen : p item with
      | false =>
          rw [List.countP_cons_of_neg (by rw [chosen]; exact Bool.false_ne_true)]
          simp
      | true =>
          rw [List.countP_cons_of_pos chosen, if_pos rfl]
          by_cases even : items.countP p % 2 = 0
          · rw [if_pos even, if_neg (by omega), UInt8.xor_zero]
          · rw [if_neg even, if_pos (by omega), UInt8.xor_self]

/-- A body in ASCII is treated alike exactly if it has an even number of lower-case letters. -/
theorem balanced_ascii {locale : Locale} (plain : locale.dotted = false) {body : JString}
    (ascii : ∀ c ∈ body, c.toNat < 128) :
    Balanced locale body ↔ body.countP Char.isLower % 2 = 0 := by
  have codes : ∀ n : Fin 128, xorAll (getBytes [(Char.ofNat n).toUpper]) ^^^
      xorAll (writeBytes [Char.ofNat n]) = if (Char.ofNat n).isLower then 0x20 else 0 := by
    decide +kernel
  have each : ∀ c ∈ body, difference locale c = if c.isLower then 0x20 else 0 := by
    intro c member
    have code := codes ⟨c.toNat, ascii c member⟩
    rw [Char.ofNat_toNat] at code
    have upper : locale.upper c = [c.toUpper] := by
      by_cases i : c = 'i'
      · rw [i, locale.upper_i, plain]
        rfl
      · exact locale.upper_ascii c (ascii c member) i
    rw [difference, upper]
    exact code
  rw [Balanced, List.map_congr_left each, xorAll_select]
  split
  · rename_i even
    exact iff_of_true rfl even
  · rename_i odd
    exact iff_of_false (by decide) odd

/-- The locale of an English system, on the characters of ASCII. -/
def english : Locale where
  upper c := [c.toUpper]
  dotted := false
  upper_i := rfl
  upper_ascii _ _ _ := rfl

theorem command_605_framed : FramesCommand english "PMTK605".toList :=
  (frames_command_iff english (by decide +kernel)).mpr (by
    have stripped : strip "PMTK605".toList = some "PMTK605".toList := by decide +kernel
    intro body member
    obtain rfl := Option.some.inj (stripped.symm.trans member)
    exact ⟨List.cons_ne_nil _ _, by decide +kernel⟩)

/-- One lower-case letter. -/
theorem lower_case_checksum :
    ¬ ∀ (locale : Locale) (command : JString), trim command ≠ [] → FramesCommand locale command := by
  intro frames
  have present : trim "PMTK605,x".toList ≠ [] := by decide +kernel
  have stripped : strip "PMTK605,x".toList = some "PMTK605,x".toList := by decide +kernel
  have balanced := ((frames english "PMTK605,x".toList present).faithful _ stripped).2
  revert balanced
  decide +kernel

end X5MaxDevice.Ygps.PmtkFraming
