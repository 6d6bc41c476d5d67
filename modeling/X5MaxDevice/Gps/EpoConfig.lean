import Mathlib.Data.List.Induction
import X5MaxDevice.Base.History
import X5MaxDevice.Gps.Codec

/-! The EPO settings that `gps_download_epo_enable` reads from `gps.conf`. -/

namespace X5MaxDevice.Gps.EpoConfig

open X5MaxDevice.Gps.Codec
open X5MaxDevice.Gps.Tokenizer
open X5MaxDevice.History

def gpsConfFileSize : Nat := 100

def isSpace (ch : UInt8) : Bool := ch == ascii ' ' || ch == ascii '\t' || ch == newline

def hash : UInt8 := ascii '#'
def equals : UInt8 := ascii '='
def minus : UInt8 := ascii '-'

/-- The variables that the file sets. -/
inductive Setting where
  | gpsEpoEnable
  | gpsEpoDownloadDays
  | gpsEpoPeriod
  | wifiEpoPeriod
  | gpsEpoWifiTrigger
  deriving DecidableEq, Repr

def Setting.key : Setting → Bytes
  | .gpsEpoEnable => bytes "EPO_ENABLE"
  | .gpsEpoDownloadDays => bytes "DW_DAYS"
  | .gpsEpoPeriod => bytes "GPS_EPO_PERIOD"
  | .wifiEpoPeriod => bytes "WIFI_EPO_PERIOD"
  | .gpsEpoWifiTrigger => bytes "EPO_WIFI_TRIGGER"

def Setting.Admits : Setting → Int → Prop
  | .gpsEpoEnable, value => ¬ (value ≠ 1 ∧ value ≠ 0)
  | .gpsEpoDownloadDays, value => ¬ (30 < value ∨ value < 0)
  | .gpsEpoPeriod, value => ¬ (value ≠ 30 ∧ value ≠ 3 ∧ value ≠ 15)
  | .wifiEpoPeriod, value => ¬ (value ≠ 30 ∧ value ≠ 3 ∧ value ≠ 15)
  | .gpsEpoWifiTrigger, value => ¬ (value ≠ 1 ∧ value ≠ 0)

instance : (setting : Setting) → (value : Int) → Decidable (setting.Admits value)
  | .gpsEpoEnable, _ => inferInstanceAs (Decidable (¬ (_ ∧ _)))
  | .gpsEpoDownloadDays, _ => inferInstanceAs (Decidable (¬ (_ ∨ _)))
  | .gpsEpoPeriod, _ => inferInstanceAs (Decidable (¬ (_ ∧ _ ∧ _)))
  | .wifiEpoPeriod, _ => inferInstanceAs (Decidable (¬ (_ ∧ _ ∧ _)))
  | .gpsEpoWifiTrigger, _ => inferInstanceAs (Decidable (¬ (_ ∧ _)))

def Setting.fallback : Setting → Int
  | .gpsEpoEnable => 1
  | .gpsEpoDownloadDays => 30
  | .gpsEpoPeriod => 3
  | .wifiEpoPeriod => 1
  | .gpsEpoWifiTrigger => 1

/-- What a value that was read sets the variable to. -/
def Setting.settle (setting : Setting) (value : Int) : Int :=
  if setting.Admits value then value else setting.fallback

abbrev Settings := Setting → Int

/-- The values at the start of the process. -/
def initialSettings : Settings
  | .gpsEpoEnable => 1
  | .gpsEpoDownloadDays => 30
  | .gpsEpoPeriod => 3
  | .wifiEpoPeriod => 1
  | .gpsEpoWifiTrigger => 0

/-- The bytes that one `fgets` reads into a buffer with that much room, and the rest. -/
def fgets : Nat → Bytes → Bytes × Bytes
  | 0, file => ([], file)
  | _ + 1, [] => ([], [])
  | room + 1, ch :: file =>
      if ch = newline then ([ch], file) else (ch :: (fgets room file).1, (fgets room file).2)

/-- A line is refused, is a comment, or has a key and a value. -/
inductive Entry where
  | error
  | comment
  | pair (key val : Bytes)
  deriving DecidableEq, Repr

/-- A missing newline is put behind the line, where no scan reaches. -/
def getVal (pStr : Bytes) : Entry :=
  if pStr = [] then .error
  else if pStr.head? = some hash then .comment
  else if pStr.getLast? ≠ some newline ∧ gpsConfFileSize - 1 ≤ pStr.length then .error
  else
    let key := pStr.takeWhile (fun ch => ch != equals)
    let rest := pStr.dropWhile (fun ch => ch != equals)
    if rest = [] then .error
    else
      let val := rest.tail.dropWhile isSpace
      .pair key (val.takeWhile (fun ch => !isSpace ch))

/-- The end that `str2int` is given lies one character before the end of the value. -/
def valInt (val : Bytes) : Int := str2int val.dropLast

/-- The variable is set if the key is its own. -/
def assign (key val : Bytes) (settings : Settings) (setting : Setting) : Settings :=
  if key = setting.key then Function.update settings setting (setting.settle (valInt val))
  else settings

def assignAll (settings : Settings) (key val : Bytes) : Settings :=
  [Setting.gpsEpoEnable, .gpsEpoDownloadDays, .gpsEpoPeriod, .wifiEpoPeriod,
    .gpsEpoWifiTrigger].foldl (assign key val) settings

/-- The loop over the lines, within a number of turns. -/
def readLines : Nat → Bytes → Settings → Settings × Int
  | 0, _, settings => (settings, settings .gpsEpoEnable)
  | turns + 1, file, settings =>
      if file = [] then (settings, settings .gpsEpoEnable)
      else
        let (result, rest) := fgets (gpsConfFileSize - 1) file
        match getVal (cString result) with
        | .error => (settings, 1)
        | .comment => readLines turns rest settings
        | .pair key val => readLines turns rest (assignAll settings key val)

/-- Each line takes at least one byte off the file. -/
def gpsDownloadEpoEnable (file : Option Bytes) (settings : Settings) : Settings × Int :=
  match file with
  | none => (settings, 1)
  | some file => readLines file.length file settings

/-- An integer in decimal digits. -/
structure Numeral where
  negative : Bool
  digits : List (Fin 10)
  nonempty : digits ≠ []
  deriving DecidableEq

def digitByte (digit : Fin 10) : UInt8 := UInt8.ofNat (48 + digit.val)

def signText (negative : Bool) : Bytes := if negative then [minus] else []

def Numeral.text (numeral : Numeral) : Bytes :=
  signText numeral.negative ++ numeral.digits.map digitByte

def digitsValue (digits : List (Fin 10)) : Nat :=
  digits.foldl (fun value digit => value * 10 + digit.val) 0

def signed (negative : Bool) (magnitude : Nat) : Int := if negative then -magnitude else magnitude

def Numeral.value (numeral : Numeral) : Int := signed numeral.negative (digitsValue numeral.digits)

structure Key where
  chars : Bytes
  noEquals : equals ∉ chars
  noNewline : newline ∉ chars
  noNul : 0 ∉ chars
  noComment : chars.head? ≠ some hash

inductive ConfigLine where
  | comment (text : Bytes) (noNewline : newline ∉ text)
  | setting (key : Key) (value : Numeral)

def ConfigLine.text : ConfigLine → Bytes
  | .comment text _ => hash :: text
  | .setting key value => key.chars ++ [equals] ++ value.text

/-- A configuration file: complete lines, and perhaps a last one without a newline, all of them
shorter than the line buffer. -/
structure ConfigFile where
  complete : List ConfigLine
  last : Option ConfigLine
  complete_short : ∀ line ∈ complete, (line.text ++ [newline]).length < gpsConfFileSize
  last_short : ∀ line ∈ last, line.text.length < gpsConfFileSize

def ConfigFile.lines (file : ConfigFile) : List ConfigLine := file.complete ++ file.last.toList

def ConfigFile.text (file : ConfigFile) : Bytes :=
  file.complete.flatMap (fun line => line.text ++ [newline]) ++ (file.last.elim [] ConfigLine.text)

/-- The value that a line writes for a setting. -/
def ConfigLine.valueOf (setting : Setting) : ConfigLine → Option Numeral
  | .comment _ _ => none
  | .setting key value => if key.chars = setting.key then some value else none

/-- A last line without a newline must leave room for one, unless it is a comment. -/
def ConfigLine.Readable : ConfigLine → Prop
  | .comment _ _ => True
  | .setting key value => (ConfigLine.setting key value).text.length + 1 < gpsConfFileSize

instance : (line : ConfigLine) → Decidable line.Readable
  | .comment _ _ => isTrue trivial
  | .setting _ _ => inferInstanceAs (Decidable (_ < _))

def ConfigFile.readable (file : ConfigFile) : List ConfigLine :=
  file.complete ++ file.last.toList.filter (fun line => decide line.Readable)

/-- The integer that is left of a value without its last digit, in an `int`. -/
def readValue (value : Int) : Int := int32 (value.tdiv 10)

/-- Both integers settle a setting alike. -/
def Setting.Alike (setting : Setting) (written read : Int) : Prop :=
  if setting.Admits written then
    read = written ∨ (¬ setting.Admits read ∧ written = setting.fallback)
  else setting.Admits read → read = setting.fallback

/-- A variable that the file mentions is set to the integer last written for it, or to its
fallback. -/
def SetAsWritten (file : ConfigFile) (settings : Settings) (setting : Setting) : Prop :=
  ∀ written, latest (ConfigLine.valueOf setting) file.lines = some written →
    (gpsDownloadEpoEnable (some file.text) settings).1 setting = setting.settle written.value

/-- The last value that is read counts like the last value that is written, or no value is read
and the variable has the right value already. -/
def ReadAsWritten (file : ConfigFile) (settings : Settings) (setting : Setting) : Prop :=
  ∀ written, latest (ConfigLine.valueOf setting) file.lines = some written →
    match latest (ConfigLine.valueOf setting) file.readable with
    | some last => setting.Alike written.value (readValue last.value)
    | none => settings setting = setting.settle written.value

theorem settle_eq_iff_alike (setting : Setting) (written read : Int) :
    setting.settle read = setting.settle written ↔ setting.Alike written read := by
  unfold Setting.settle Setting.Alike
  by_cases right : setting.Admits written
  · by_cases admitted : setting.Admits read
    · simp [right, admitted]
    · have different : read ≠ written := fun same => admitted (same ▸ right)
      simp [right, admitted, different, eq_comm]
  · by_cases admitted : setting.Admits read
    · simp [right, admitted]
    · simp [right, admitted]

theorem fgets_complete {line : Bytes} (rest : Bytes) {room : Nat} (plain : newline ∉ line)
    (short : line.length < room) :
    fgets room (line ++ newline :: rest) = (line ++ [newline], rest) := by
  induction line generalizing room with
  | nil =>
      cases room with
      | zero => simp at short
      | succ room => rfl
  | cons ch line ih =>
      cases room with
      | zero => simp at short
      | succ room =>
          rw [List.mem_cons, not_or] at plain
          rw [List.length_cons, Nat.succ_lt_succ_iff] at short
          rw [List.cons_append, fgets, if_neg (Ne.symm plain.1), ih plain.2 short]
          rfl

theorem fgets_last {line : Bytes} {room : Nat} (plain : newline ∉ line)
    (short : line.length ≤ room) : fgets room line = (line, []) := by
  induction line generalizing room with
  | nil => cases room <;> rfl
  | cons ch line ih =>
      cases room with
      | zero => simp at short
      | succ room =>
          rw [List.mem_cons, not_or] at plain
          rw [List.length_cons, Nat.succ_le_succ_iff] at short
          rw [fgets, if_neg (Ne.symm plain.1), ih plain.2 short]

theorem digitByte_toNat (digit : Fin 10) : (digitByte digit).toNat = 48 + digit.val := by
  have small := digit.isLt
  exact UInt8.toNat_ofNat_of_lt' (show 48 + digit.val < 256 by omega)

/-- The text of a numeral has no white space and no NUL. -/
theorem text_visible (numeral : Numeral) {ch : UInt8} (member : ch ∈ numeral.text) :
    isSpace ch = false ∧ ch ≠ 0 := by
  rcases List.mem_append.mp member with sign | digit
  · rw [signText] at sign
    split at sign
    · obtain rfl := List.mem_singleton.mp sign
      decide
    · cases sign
  · obtain ⟨value, -, rfl⟩ := List.mem_map.mp digit
    have code := digitByte_toNat value
    have different {other : UInt8} (low : other.toNat < 48) : digitByte value ≠ other := by
      intro same
      rw [same] at code
      omega
    constructor
    · simp only [isSpace, Bool.or_eq_false_iff, beq_eq_false_iff_ne]
      exact ⟨⟨different (by decide), different (by decide)⟩, different (by decide)⟩
    · exact different (by decide)

theorem text_ne_nil (numeral : Numeral) : numeral.text ≠ [] := by
  have digits := numeral.nonempty
  simp [Numeral.text, digits]

theorem digitsValue_concat (digits : List (Fin 10)) (digit : Fin 10) :
    digitsValue (digits ++ [digit]) = digitsValue digits * 10 + digit.val := by
  rw [digitsValue, List.foldl_append]
  rfl

/-- Without its last digit a numeral has a tenth of the value. -/
theorem digitsValue_dropLast {digits : List (Fin 10)} (nonempty : digits ≠ []) :
    digitsValue digits.dropLast = digitsValue digits / 10 := by
  have small := (digits.getLast nonempty).isLt
  have whole := digitsValue_concat digits.dropLast (digits.getLast nonempty)
  rw [List.dropLast_concat_getLast nonempty] at whole
  omega

theorem int32_mul_add (n : Nat) (digit : Fin 10) :
    int32 (int32 n * 10 + digit.val) = int32 ((n * 10 + digit.val : Nat) : Int) := by
  rw [int32, int32, int32, Int.natCast_add, Int.natCast_mul, ← Int.bmod_add_bmod, Int.bmod_mul_bmod,
    Int.bmod_add_bmod]
  rfl

theorem str2intLoop_digits (digits : List (Fin 10)) (n : Nat) :
    str2intLoop (int32 n) (digits.map digitByte) =
      some (int32 ((digits.foldl (fun value digit => value * 10 + digit.val) n : Nat) : Int)) := by
  induction digits generalizing n with
  | nil => rfl
  | cons digit digits ih =>
      have small := digit.isLt
      have code : ((digitByte digit).toNat : Int) - 48 = digit.val := by
        rw [digitByte_toNat]
        omega
      rw [List.map_cons, str2intLoop]
      simp only [code]
      rw [if_pos (by omega), int32_mul_add, ih]
      rfl

theorem str2int_text (negative : Bool) (digits : List (Fin 10)) :
    str2int (signText negative ++ digits.map digitByte) =
      int32 (signed negative (digitsValue digits)) := by
  have value := str2intLoop_digits digits 0
  rw [show int32 ((0 : Nat) : Int) = 0 from rfl] at value
  cases negative with
  | true =>
      have sign : (signText true ++ digits.map digitByte).head? = some (ascii '-') := rfl
      rw [str2int, if_pos sign]
      rw [show (signText true ++ digits.map digitByte).tail = digits.map digitByte from rfl, value]
      exact Int.bmod_neg_bmod
  | false =>
      have unsigned : (signText false ++ digits.map digitByte).head? ≠ some (ascii '-') := by
        intro sign
        obtain ⟨digit, -, same⟩ := List.mem_map.mp (List.mem_of_head? sign)
        have code := digitByte_toNat digit
        rw [same] at code
        rw [show (ascii '-').toNat = 45 from rfl] at code
        omega
      rw [str2int, if_neg unsigned, show signText false ++ digits.map digitByte =
        digits.map digitByte from rfl, value]
      rfl

/-- The digit before the computed end is the last one that is converted. -/
theorem valInt_text (numeral : Numeral) : valInt numeral.text = readValue numeral.value := by
  have digits := numeral.nonempty
  have cut : numeral.text.dropLast =
      signText numeral.negative ++ numeral.digits.dropLast.map digitByte := by
    rw [Numeral.text, List.dropLast_append_of_ne_nil (by simpa using digits), List.map_dropLast]
  rw [valInt, cut, str2int_text, digitsValue_dropLast digits, readValue, Numeral.value]
  congr 1
  cases numeral.negative with
  | true =>
      change -((digitsValue numeral.digits / 10 : Nat) : Int) = (-(digitsValue numeral.digits : Int)).tdiv 10
      rw [Int.neg_tdiv]
      rfl
  | false => rfl

theorem takeWhile_exact {α : Type} {p : α → Bool} {front rest : List α} (holds : ∀ x ∈ front, p x = true)
    (stops : ∀ x ∈ rest.head?, p x = false) :
    (front ++ rest).takeWhile p = front ∧ (front ++ rest).dropWhile p = rest := by
  rw [List.takeWhile_append_of_pos holds, List.dropWhile_append_of_pos holds]
  cases rest with
  | nil => simp
  | cons x rest =>
      have stop := stops x rfl
      simp [stop]

theorem setting_head (key : Key) (rest : Bytes) :
    (key.chars ++ (equals :: rest)).head? ≠ some hash := by
  have first := key.noComment
  cases chars : key.chars with
  | nil =>
      rw [List.nil_append, List.head?_cons]
      decide
  | cons ch chars' =>
      rw [chars] at first
      simpa using first

/-- A line with a key and a value is taken apart, whether a newline ends it or not. -/
theorem getVal_setting (key : Key) (value : Numeral) {ending : Bytes}
    (ended : ending = [newline] ∨
      ending = [] ∧ (key.chars ++ [equals] ++ value.text).length + 1 < gpsConfFileSize) :
    getVal (key.chars ++ [equals] ++ value.text ++ ending) = .pair key.chars value.text := by
  have shape : key.chars ++ [equals] ++ value.text ++ ending =
      key.chars ++ (equals :: (value.text ++ ending)) := by simp
  have present : key.chars ++ (equals :: (value.text ++ ending)) ≠ [] := by simp
  have fits : ¬ ((key.chars ++ (equals :: (value.text ++ ending))).getLast? ≠ some newline ∧
      gpsConfFileSize - 1 ≤ (key.chars ++ (equals :: (value.text ++ ending))).length) := by
    rintro ⟨noNewline, long⟩
    rcases ended with rfl | ⟨rfl, short⟩
    · exact noNewline (by rw [← shape, List.getLast?_concat])
    · simp only [List.length_append, List.length_cons, List.length_nil] at short long
      omega
  have split := @takeWhile_exact _ (fun ch => ch != equals) key.chars
    (equals :: (value.text ++ ending))
    (fun ch member => bne_iff_ne.mpr (fun same => key.noEquals (same ▸ member)))
    (fun ch first => by
      obtain rfl := Option.some.inj first
      decide)
  have noSpace : (value.text ++ ending).dropWhile isSpace = value.text ++ ending := by
    cases text : value.text with
    | nil => exact absurd text (text_ne_nil value)
    | cons ch text' =>
        have visible := (text_visible value (text ▸ List.mem_cons_self)).1
        rw [List.cons_append, List.dropWhile_cons, visible]
        rfl
  have token := @takeWhile_exact _ (fun ch => !isSpace ch) value.text ending
    (fun ch member => by rw [(text_visible value member).1]; rfl)
    (fun ch first => by
      rcases ended with rfl | ⟨rfl, -⟩
      · obtain rfl := Option.some.inj first
        decide
      · cases first)
  rw [shape, getVal, if_neg present, if_neg (setting_head key _), if_neg fits]
  simp only [split.1, split.2, List.tail_cons, noSpace, token.1]
  rw [if_neg (List.cons_ne_nil _ _)]

theorem getVal_comment (text : Bytes) : getVal (hash :: text) = .comment := by
  rw [getVal, if_neg (List.cons_ne_nil _ _), if_pos (show (hash :: text).head? = some hash from rfl)]

theorem cString_of_no_nul {object : Bytes} (plain : 0 ∉ object) : cString object = object := by
  have all : ∀ ch ∈ object, (ch != 0) = true :=
    fun ch member => bne_iff_ne.mpr (fun zero => plain (zero ▸ member))
  exact List.takeWhile_eq_self_iff.mpr all

theorem text_no_newline (line : ConfigLine) : newline ∉ line.text := by
  cases line with
  | comment text noNewline =>
      rw [ConfigLine.text, List.mem_cons, not_or]
      exact ⟨by decide, noNewline⟩
  | setting key value =>
      simp only [ConfigLine.text, List.mem_append, List.mem_singleton, not_or]
      refine ⟨⟨key.noNewline, by decide⟩, fun member => ?_⟩
      have visible := (text_visible value member).1
      revert visible
      decide

theorem text_no_nul (key : Key) (value : Numeral) {ending : Bytes} (plain : 0 ∉ ending) :
    0 ∉ (ConfigLine.setting key value).text ++ ending := by
  simp only [ConfigLine.text, List.mem_append, List.mem_singleton, not_or]
  exact ⟨⟨⟨key.noNul, by decide⟩, fun member => (text_visible value member).2 rfl⟩, plain⟩

/-- What one line does to the settings. -/
def ConfigLine.apply (settings : Settings) : ConfigLine → Settings
  | .comment _ _ => settings
  | .setting key value => assignAll settings key.chars value.text

/-- What `get_val` makes of a line. -/
def ConfigLine.entry : ConfigLine → Entry
  | .comment _ _ => .comment
  | .setting key value => .pair key.chars value.text

theorem getVal_line (line : ConfigLine) {ending : Bytes}
    (ended : ending = [newline] ∨ ending = [] ∧ line.Readable) :
    getVal (cString (line.text ++ ending)) = line.entry := by
  cases line with
  | comment text noNewline =>
      have first : cString ((ConfigLine.comment text noNewline).text ++ ending) =
          hash :: cString (text ++ ending) := rfl
      rw [first, getVal_comment]
      rfl
  | setting key value =>
      have plain : 0 ∉ ending := by
        rcases ended with rfl | ⟨rfl, -⟩
        · decide
        · simp
      rw [cString_of_no_nul (text_no_nul key value plain)]
      exact getVal_setting key value ended

theorem readLines_entry (line : ConfigLine) {file result rest : Bytes} (turns : Nat)
    (settings : Settings) (present : file ≠ [])
    (got : fgets (gpsConfFileSize - 1) file = (result, rest))
    (entry : getVal (cString result) = line.entry) :
    readLines (turns + 1) file settings = readLines turns rest (line.apply settings) := by
  rw [readLines, if_neg present, got]
  simp only [entry]
  cases line with
  | comment text noNewline => rfl
  | setting key value => rfl

/-- The complete lines are read one by one. -/
theorem readLines_complete {lines : List ConfigLine} {tail : Bytes}
    (short : ∀ line ∈ lines, (line.text ++ [newline]).length < gpsConfFileSize) {turns : Nat}
    (enough : (lines.flatMap (fun line => line.text ++ [newline]) ++ tail).length ≤ turns)
    (settings : Settings) :
    ∃ left, tail.length ≤ left ∧
      readLines turns (lines.flatMap (fun line => line.text ++ [newline]) ++ tail) settings =
        readLines left tail (lines.foldl ConfigLine.apply settings) := by
  induction lines generalizing turns settings with
  | nil => exact ⟨turns, enough, rfl⟩
  | cons line lines ih =>
      have fits := short line List.mem_cons_self
      have shape : (line :: lines).flatMap (fun line => line.text ++ [newline]) ++ tail =
          line.text ++ newline :: (lines.flatMap (fun line => line.text ++ [newline]) ++ tail) := by
        simp
      rw [shape] at enough ⊢
      rw [List.length_append, List.length_cons] at enough
      rw [List.length_append, List.length_singleton] at fits
      cases turns with
      | zero => omega
      | succ turns =>
          have got := @fgets_complete line.text
            (lines.flatMap (fun line => line.text ++ [newline]) ++ tail) (gpsConfFileSize - 1)
            (text_no_newline line) (by omega)
          rw [readLines_entry line turns settings (by simp) got (getVal_line line (.inl rfl))]
          exact ih (fun other member => short other (List.mem_cons_of_mem line member)) (by omega) _

/-- A last line without a newline counts only if it leaves room for one. -/
theorem readLines_last {last : Option ConfigLine}
    (short : ∀ line ∈ last, line.text.length < gpsConfFileSize) {turns : Nat}
    (enough : (last.elim [] ConfigLine.text).length ≤ turns) (settings : Settings) :
    (readLines turns (last.elim [] ConfigLine.text) settings).1 =
      (last.toList.filter (fun line => decide line.Readable)).foldl ConfigLine.apply settings := by
  cases last with
  | none =>
      cases turns with
      | zero => rfl
      | succ turns => rfl
  | some line =>
      have fits := short line rfl
      have present : line.text ≠ [] := by cases line <;> simp [ConfigLine.text]
      have got := fgets_last (text_no_newline line) (show line.text.length ≤ gpsConfFileSize - 1 by omega)
      rw [Option.elim_some] at enough ⊢
      cases turns with
      | zero => exact absurd (List.eq_nil_of_length_eq_zero (Nat.le_zero.mp enough)) present
      | succ turns =>
          by_cases readable : line.Readable
          · have entry := getVal_line line (.inr ⟨rfl, readable⟩)
            rw [List.append_nil] at entry
            rw [readLines_entry line turns settings present got entry]
            have stopped : (readLines turns [] (line.apply settings)).1 = line.apply settings := by
              cases turns <;> rfl
            rw [stopped]
            simp [readable]
          · -- `get_val` refuses the line, and nothing is set
            have refused : getVal (cString line.text) = .error := by
              cases line with
              | comment text noNewline => exact absurd trivial readable
              | setting key value =>
                  have plain := @text_no_nul key value [] List.not_mem_nil
                  have long : ¬ (ConfigLine.setting key value).text.length + 1 < gpsConfFileSize :=
                    readable
                  have shape : (ConfigLine.setting key value).text =
                      key.chars ++ (equals :: value.text) := by simp [ConfigLine.text]
                  have noNewline :
                      (ConfigLine.setting key value).text.getLast? ≠ some newline :=
                    fun same => text_no_newline _ (List.mem_of_getLast? same)
                  rw [List.append_nil] at plain
                  rw [cString_of_no_nul plain, getVal, if_neg present,
                    if_neg (shape ▸ setting_head key _), if_pos ⟨noNewline, by omega⟩]
            rw [readLines, if_neg present, got]
            simp [refused, readable]

theorem mem_allSettings (setting : Setting) :
    setting ∈ [Setting.gpsEpoEnable, .gpsEpoDownloadDays, .gpsEpoPeriod, .wifiEpoPeriod,
      .gpsEpoWifiTrigger] := by
  cases setting <;> decide

theorem assign_at (key val : Bytes) (settings : Settings) (target setting : Setting) :
    assign key val settings target setting =
      if setting = target ∧ key = setting.key then setting.settle (valInt val)
      else settings setting := by
  unfold assign
  by_cases own : setting = target
  · subst own
    by_cases hit : key = setting.key
    · simp [hit]
    · simp [hit]
  · have other : ¬ (setting = target ∧ key = setting.key) := fun both => own both.1
    rw [if_neg other]
    split
    · exact Function.update_of_ne own _ _
    · rfl

theorem foldl_assign (key val : Bytes) (settings : Settings) (targets : List Setting)
    (setting : Setting) :
    targets.foldl (assign key val) settings setting =
      if setting ∈ targets ∧ key = setting.key then setting.settle (valInt val)
      else settings setting := by
  induction targets generalizing settings with
  | nil => simp
  | cons target targets ih =>
      rw [List.foldl_cons, ih, assign_at]
      by_cases hit : key = setting.key
      · by_cases later : setting ∈ targets
        · simp [hit, later]
        · simp [hit, later]
      · simp [hit]

theorem apply_at (settings : Settings) (line : ConfigLine) (setting : Setting) :
    line.apply settings setting =
      ((line.valueOf setting).map (fun n => setting.settle (readValue n.value))).getD
        (settings setting) := by
  cases line with
  | comment text noNewline => rfl
  | setting key value =>
      rw [ConfigLine.apply, assignAll, foldl_assign, valInt_text, ConfigLine.valueOf]
      by_cases hit : key.chars = setting.key
      · rw [if_pos ⟨mem_allSettings setting, hit⟩, if_pos hit]
        rfl
      · rw [if_neg (fun both => hit both.2), if_neg hit]
        rfl

/-- After some lines a variable has what its last value settles, or what it had. -/
theorem foldl_apply (lines : List ConfigLine) (settings : Settings) (setting : Setting) :
    lines.foldl ConfigLine.apply settings setting =
      ((latest (ConfigLine.valueOf setting) lines).map
        (fun n => setting.settle (readValue n.value))).getD (settings setting) := by
  induction lines using List.reverseRecOn with
  | nil => rfl
  | append_singleton lines line ih =>
      rw [List.foldl_append, List.foldl_cons, List.foldl_nil, apply_at, ih, latest_snoc]
      cases line.valueOf setting with
      | none => rfl
      | some value => rfl

theorem gpsDownloadEpoEnable_settings (file : ConfigFile) (settings : Settings) :
    (gpsDownloadEpoEnable (some file.text) settings).1 =
      file.readable.foldl ConfigLine.apply settings := by
  obtain ⟨left, enough, reads⟩ := @readLines_complete file.complete
    (file.last.elim [] ConfigLine.text) file.complete_short _ (Nat.le_refl _) settings
  rw [gpsDownloadEpoEnable, ConfigFile.text, reads, readLines_last file.last_short enough,
    ConfigFile.readable, List.foldl_append]

/-- A variable is set as the file writes it exactly if the value without its last digit counts
like the whole value. -/
theorem setAsWritten_iff_readAsWritten (file : ConfigFile) (settings : Settings)
    (setting : Setting) :
    SetAsWritten file settings setting ↔ ReadAsWritten file settings setting := by
  refine forall₂_congr (fun written _ => ?_)
  rw [gpsDownloadEpoEnable_settings, foldl_apply]
  cases latest (ConfigLine.valueOf setting) file.readable with
  | none => exact Iff.rfl
  | some last => exact settle_eq_iff_alike setting written.value (readValue last.value)

/-- `GPS_EPO_PERIOD=30`. -/
def periodOfThirtyDays : ConfigFile where
  complete := [.setting ⟨bytes "GPS_EPO_PERIOD", by decide +kernel, by decide +kernel,
    by decide +kernel, by decide +kernel⟩ ⟨false, [3, 0], by decide⟩]
  last := none
  complete_short := by
    intro line member
    obtain rfl := List.mem_singleton.mp member
    decide +kernel
  last_short := by
    intro line member
    cases member

theorem period_of_thirty_days_misread :
    ¬ ∀ file settings setting, SetAsWritten file settings setting := by
  intro right
  have period := right periodOfThirtyDays initialSettings .gpsEpoPeriod ⟨false, [3, 0], by decide⟩
    (by decide +kernel)
  revert period
  decide +kernel

/-- Every variable has a value that its own check lets pass or its fallback. -/
def Settled (settings : Settings) : Prop :=
  ∀ setting, setting.Admits (settings setting) ∨ settings setting = setting.fallback

theorem settle_settled (setting : Setting) (value : Int) :
    setting.Admits (setting.settle value) ∨ setting.settle value = setting.fallback := by
  unfold Setting.settle
  by_cases admitted : setting.Admits value
  · exact .inl (by rw [if_pos admitted]; exact admitted)
  · exact .inr (if_neg admitted)

theorem initialSettings_settled : Settled initialSettings := by
  intro setting
  cases setting <;> decide

theorem assignAll_settled {settings : Settings} (settled : Settled settings) (key val : Bytes) :
    Settled (assignAll settings key val) := by
  intro setting
  rw [assignAll, foldl_assign]
  split
  · exact settle_settled setting _
  · exact settled setting

theorem readLines_settled {settings : Settings} (settled : Settled settings) (turns : Nat)
    (file : Bytes) : Settled (readLines turns file settings).1 := by
  induction turns generalizing file settings with
  | zero => exact settled
  | succ turns ih =>
      rw [readLines]
      by_cases ended : file = []
      · rw [if_pos ended]
        exact settled
      · rw [if_neg ended]
        simp only
        split
        · exact settled
        · exact ih settled _
        · exact ih (assignAll_settled settled _ _) _

/-- Whatever the file contains, the variables stay within their ranges. -/
theorem gpsDownloadEpoEnable_settled {settings : Settings} (settled : Settled settings)
    (file : Option Bytes) : Settled (gpsDownloadEpoEnable file settings).1 := by
  cases file with
  | none => exact settled
  | some file => exact readLines_settled settled file.length file

end X5MaxDevice.Gps.EpoConfig
