import X5MaxDevice.Ygps.NmeaParser

/-! Satellite lists encoded as GSV messages, and the lists that `NmeaParser` rebuilds. -/

namespace X5MaxDevice.Ygps.GsvMessages

open X5MaxDevice.Java

variable {L : Type}

/-- An integer as it stands in a field, behind some leading zeros. -/
structure Numeral where
  value : Int
  zeros : Nat

def Numeral.digits (n : Numeral) : JString :=
  List.replicate n.zeros '0' ++ Nat.toDigits 10 n.value.natAbs

def Numeral.text (n : Numeral) : JString :=
  if n.value < 0 then '-' :: n.digits else n.digits

def fieldText : Option Numeral → JString
  | none => []
  | some n => n.text

def fieldValue : Option Numeral → JFloat
  | none => .zero
  | some n => JFloat.ofInt n.value

/-- A satellite with a positive `int` for its PRN; a field without a numeral is empty. -/
structure Satellite where
  prn : Numeral
  elevation : Option Numeral
  azimuth : Option Numeral
  snr : Option Numeral
  prn_positive : 0 < prn.value
  prn_int : prn.value ≤ 2147483647

def Satellite.fields (s : Satellite) : List JString :=
  [s.prn.text, fieldText s.elevation, fieldText s.azimuth, fieldText s.snr]

/-- The entry for a satellite in the list of a talker with the given used-in-fix set. -/
def listed (used : List Int) (talker : Talker) (s : Satellite) : SatelliteInfo :=
  { mPrn := s.prn.value
    mSnr := fieldValue s.snr
    mElevation := fieldValue s.elevation
    mAzimuth := fieldValue s.azimuth
    mUsedInFix := decide (s.prn.value ∈ used)
    mColor := checkTalkerColor talker.text }

def upperHex (d : Nat) : Char := if d < 10 then Char.ofNat (48 + d) else Char.ofNat (55 + d)

/-- Two hexadecimal digits of the exclusive or of all characters. -/
def checksum (body : JString) : JString :=
  let sum := body.foldl (fun sum c => sum ^^^ c.toNat) 0
  [upperHex (sum / 16 % 16), upperHex (sum % 16)]

/-- A sentence from its fields, the dollar sign before the first one included; the line
end behind the checksum may have been taken off. -/
def sentence (terminated : Bool) (fields : List JString) : JString :=
  join ',' fields ++
    '*' :: (checksum (join ',' fields).tail ++ if terminated then "\r\n".toList else [])

/-- Four satellites to a message, the last message with one to four. -/
def pages : List Satellite → List (List Satellite)
  | a :: b :: c :: d :: e :: rest => [a, b, c, d] :: pages (e :: rest)
  | [] => []
  | final => [final]

def message (terminated : Bool) (talker : Talker) (count index total : Nat)
    (page : List Satellite) : JString :=
  sentence terminated ([talker.text ++ "GSV".toList, Nat.toDigits 10 count,
    Nat.toDigits 10 index, (Numeral.mk total (if total < 10 then 1 else 0)).text] ++
      page.flatMap Satellite.fields)

/-- The messages for the given pages, numbered from `index` on. -/
def numbered (terminated : Bool) (talker : Talker) (count total : Nat) :
    Nat → List (List Satellite) → List JString
  | _, [] => []
  | index, page :: rest =>
      message terminated talker count index total page ::
        numbered terminated talker count total (index + 1) rest

def messages (terminated : Bool) (talker : Talker) (satellites : List Satellite) :
    List JString :=
  numbered terminated talker (pages satellites).length satellites.length 1 (pages satellites)

theorem Numeral.digits_isDigit (n : Numeral) : ∀ c ∈ n.digits, c.isDigit = true := by
  intro c member
  rcases List.mem_append.mp member with zero | digit
  · obtain rfl := List.eq_of_mem_replicate zero
    rfl
  · exact Nat.isDigit_of_mem_toDigits (by decide) (by decide) digit

theorem Numeral.digits_ne_nil (n : Numeral) : n.digits ≠ [] := by
  simp [Numeral.digits, Nat.toDigits_ne_nil]

theorem Numeral.digits_value (n : Numeral) :
    Nat.ofDigitChars 10 n.digits 0 = n.value.natAbs := by
  rw [Numeral.digits, Nat.ofDigitChars_append, Nat.ofDigitChars_replicate_zero, Nat.mul_zero,
    Nat.ofDigitChars_ten_toDigits]

/-- Stripping zeros leaves a numeral of the same value. -/
theorem removeFirstZero_digits {text : JString} (ascii : ∀ c ∈ text, c.isDigit = true) :
    (∀ c ∈ removeFirstZero text, c.isDigit = true) ∧ removeFirstZero text ≠ [] ∧
      Nat.ofDigitChars 10 (removeFirstZero text) 0 = Nat.ofDigitChars 10 text 0 := by
  have same : Nat.ofDigitChars 10 (text.dropWhile (· = '0')) 0 = Nat.ofDigitChars 10 text 0 := by
    clear ascii
    induction text with
    | nil => rfl
    | cons c rest ih =>
        by_cases zero : c = '0'
        · subst zero
          rw [List.dropWhile_cons_of_pos (by simp), ih, Nat.ofDigitChars_cons]
          rfl
        · rw [List.dropWhile_cons_of_neg (by simpa using zero)]
  unfold removeFirstZero
  split
  · rename_i none
    rw [none] at same
    refine ⟨by simp [Char.isDigit], by simp, ?_⟩
    rw [← same]
    rfl
  · rename_i other
    refine ⟨fun c member => ascii c (List.dropWhile_subset _ member), other, same⟩

theorem removeFirstZero_minus (rest : JString) : removeFirstZero ('-' :: rest) = '-' :: rest := rfl

theorem parseFloat_numeral (n : Numeral) : parseFloat n.text = JFloat.ofInt n.value := by
  rw [parseFloat, number, Numeral.text, JFloat.ofInt]
  by_cases negative : n.value < 0
  · have read := (parseFloating_of_digits binary32 n.digits_ne_nil n.digits_isDigit).2
    simp only [negative, if_true, List.cons_ne_nil, if_false, removeFirstZero_minus,
      Java.parseFloat, read, n.digits_value, decide_true]
  · obtain ⟨ascii, nonempty, value⟩ := removeFirstZero_digits n.digits_isDigit
    have read := (parseFloating_of_digits binary32 nonempty ascii).1
    simp only [negative, if_false, n.digits_ne_nil, Java.parseFloat, read, value, n.digits_value,
      decide_false]

theorem parseFloat_fieldText (field : Option Numeral) :
    parseFloat (fieldText field) = fieldValue field := by
  cases field with
  | none => rfl
  | some n => exact parseFloat_numeral n

theorem parseInt_numeral {n : Numeral} (natural : 0 ≤ n.value) (fits : n.value ≤ 2147483647) :
    parseInt n.text = n.value := by
  obtain ⟨ascii, nonempty, value⟩ := removeFirstZero_digits n.digits_isDigit
  have magnitude : Nat.ofDigitChars 10 (removeFirstZero n.digits) 0 = n.value.natAbs := by
    rw [value, n.digits_value]
  have read := decimalInt_of_digits nonempty ascii (by omega)
  simp only [parseInt, number, Numeral.text, not_lt.mpr natural, if_false, n.digits_ne_nil,
    Java.parseInt, read, magnitude]
  omega

theorem parseInt_toDigits {n : Nat} (fits : n ≤ 2147483647) :
    parseInt (Nat.toDigits 10 n) = n := by
  have read := parseInt_numeral (n := ⟨n, 0⟩) (by simp) (by simpa using fits)
  simpa [Numeral.text, Numeral.digits, not_lt.mpr (Int.natCast_nonneg n)] using read

/-- The fields with the text that ends the sentence behind the last of them. -/
def appendLast (tail : JString) : List JString → List JString
  | [] => [tail]
  | [final] => [final ++ tail]
  | field :: second :: rest => field :: appendLast tail (second :: rest)

theorem appendLast_concat (tail final : JString) (front : List JString) :
    appendLast tail (front ++ [final]) = front ++ [final ++ tail] := by
  induction front with
  | nil => rfl
  | cons field front ih =>
      cases front with
      | nil => rfl
      | cons second front => exact congrArg (List.cons field) ih

theorem join_appendLast (tail : JString) {fields : List JString} (nonempty : fields ≠ []) :
    join ',' (appendLast tail fields) = join ',' fields ++ tail := by
  fun_induction appendLast tail fields with
  | case1 => exact absurd rfl nonempty
  | case2 final => simp [join, List.intercalate]
  | case3 field second rest ih =>
      have later := ih (List.cons_ne_nil second rest)
      cases glued : appendLast tail (second :: rest) with
      | nil => cases rest <;> simp [appendLast] at glued
      | cons first others =>
          rw [glued] at later
          rw [intercalate_cons_cons, later, intercalate_cons_cons, List.append_assoc,
            List.cons_append]

theorem appendLast_parts (tail : JString) (fields : List JString) :
    ∃ front final, appendLast tail fields = front ++ [final ++ tail] ∧
      ∀ part ∈ front ++ [final], part = [] ∨ part ∈ fields := by
  fun_induction appendLast tail fields with
  | case1 => exact ⟨[], [], rfl, by simp⟩
  | case2 final => exact ⟨[], final, rfl, by simp⟩
  | case3 field second rest ih =>
      obtain ⟨front, final, same, parts⟩ := ih
      refine ⟨field :: front, final, by rw [same, List.cons_append], ?_⟩
      intro part member
      rcases List.mem_cons.mp member with rfl | later
      · exact Or.inr List.mem_cons_self
      · exact (parts part later).imp_right (List.mem_cons_of_mem field)

theorem split_appendLast {tail : JString} {fields : List JString} (nonempty : fields ≠ [])
    (present : tail ≠ []) (plainTail : ',' ∉ tail) (plain : ∀ part ∈ fields, ',' ∉ part) :
    split ',' (join ',' fields ++ tail) = appendLast tail fields := by
  obtain ⟨front, final, same, parts⟩ := appendLast_parts tail fields
  have clean (part : JString) (member : part ∈ front ++ [final]) : ',' ∉ part := by
    rcases parts part member with rfl | inside
    · simp
    · exact plain part inside
  rw [← join_appendLast tail nonempty]
  apply split_join_of_last
  · simp [same, present]
  · intro part member
    rw [same] at member
    rcases List.mem_append.mp member with before | last
    · exact clean part (List.mem_append_left _ before)
    · obtain rfl := List.mem_singleton.mp last
      have := clean final (by simp)
      simp [this, plainTail]
  · simp [same]

theorem Numeral.text_chars {n : Numeral} {c : Char} (member : c ∈ n.text) :
    c.isDigit = true ∨ c = '-' := by
  rw [Numeral.text] at member
  split at member
  · rcases List.mem_cons.mp member with rfl | digit
    · exact Or.inr rfl
    · exact Or.inl (n.digits_isDigit c digit)
  · exact Or.inl (n.digits_isDigit c member)

theorem fieldText_chars {field : Option Numeral} {c : Char} (member : c ∈ fieldText field) :
    c.isDigit = true ∨ c = '-' := by
  cases field with
  | none => simp [fieldText] at member
  | some n => exact n.text_chars member

theorem Satellite.fields_chars {s : Satellite} {part : JString} (member : part ∈ s.fields)
    {c : Char} (inside : c ∈ part) : c.isDigit = true ∨ c = '-' := by
  simp only [Satellite.fields, List.mem_cons, List.not_mem_nil, or_false] at member
  rcases member with rfl | rfl | rfl | rfl
  · exact s.prn.text_chars inside
  · exact fieldText_chars inside
  · exact fieldText_chars inside
  · exact fieldText_chars inside

theorem snrText_plain {text : JString} (plain : '*' ∉ text) : snrText text = .ok text := by
  simp [snrText, contains_char, plain]

theorem snrText_checksum {text rest : JString} (plain : '*' ∉ text) (present : rest ≠ [])
    (plainRest : '*' ∉ rest) : snrText (text ++ '*' :: rest) = .ok text := by
  have parts : split '*' (join '*' [text, rest]) = [text, rest] := by
    apply split_join_of_last (List.cons_ne_nil _ _)
    · simpa using present
    · intro part member
      simp only [List.mem_cons, List.not_mem_nil, or_false] at member
      rcases member with rfl | rfl
      · exact plain
      · exact plainRest
  have joined : join '*' [text, rest] = text ++ '*' :: rest := by
    rw [intercalate_cons_cons]
    simp [join, List.intercalate]
  rw [joined] at parts
  have starred : contains (text ++ '*' :: rest) ['*'] = true := by simp [contains_char]
  simp [snrText, starred, parts, field]

theorem fieldText_no_star (field : Option Numeral) : '*' ∉ fieldText field := by
  intro member
  rcases fieldText_chars member with digit | minus
  · exact absurd digit (by decide)
  · exact absurd minus (by decide)

theorem satellite_eq_listed (parser : NmeaParser L) {talker : Talker}
    (current : parser.mCurrentTalker = some talker) (s : Satellite) :
    satellite parser talker (parseInt s.prn.text) (parseFloat (fieldText s.elevation))
      (parseFloat (fieldText s.azimuth)) (parseFloat (fieldText s.snr)) =
        listed (parser.mUsedFixIdMapList (some talker)) talker s := by
  have prn := parseInt_numeral s.prn_positive.le s.prn_int
  simp [satellite, listed, prn, parseFloat_fieldText, NmeaParser.isUsedInFix, current]

/-- One turn of the loop for a satellite whose SNR field is read. -/
theorem readSatellites_cons (parser : NmeaParser L) {talker : Talker}
    (current : parser.mCurrentTalker = some talker) (s : Satellite) {snr : JString}
    (read : snrText snr = .ok (fieldText s.snr)) (rest : List JString) :
    readSatellites talker parser
        (s.prn.text :: fieldText s.elevation :: fieldText s.azimuth :: snr :: rest) =
      readSatellites talker (parser.setSatellites talker (parser.mSatelInfoList talker ++
        [listed (parser.mUsedFixIdMapList (some talker)) talker s])) rest := by
  rw [readSatellites, read]
  simp only [satellite_eq_listed parser current, listed, s.prn_positive, if_true]

theorem setSatellites_twice (parser : NmeaParser L) (talker : Talker)
    (first second : List SatelliteInfo) :
    (parser.setSatellites talker first).setSatellites talker second =
      parser.setSatellites talker second := by
  simp [NmeaParser.setSatellites]

theorem readSatellites_page {rest : JString} (present : rest ≠ []) (plain : '*' ∉ rest)
    (parser : NmeaParser L) {talker : Talker} (current : parser.mCurrentTalker = some talker)
    {page : List Satellite} (nonempty : page ≠ []) :
    readSatellites talker parser (appendLast ('*' :: rest) (page.flatMap Satellite.fields)) =
      (parser.setSatellites talker (parser.mSatelInfoList talker ++
        page.map (listed (parser.mUsedFixIdMapList (some talker)) talker)), .ok ()) := by
  induction page generalizing parser with
  | nil => exact absurd rfl nonempty
  | cons s others ih =>
      cases others with
      | nil =>
          have read := snrText_checksum (fieldText_no_star s.snr) present plain
          simp only [List.flatMap_cons, List.flatMap_nil, Satellite.fields, List.append_nil,
            appendLast, readSatellites_cons parser current s read, readSatellites, List.map_cons,
            List.map_nil]
      | cons second more =>
          have read := snrText_plain (fieldText_no_star s.snr)
          have later := ih (parser.setSatellites talker (parser.mSatelInfoList talker ++
            [listed (parser.mUsedFixIdMapList (some talker)) talker s])) current
            (List.cons_ne_nil second more)
          have glued : appendLast ('*' :: rest)
              ((s :: second :: more).flatMap Satellite.fields) =
              s.prn.text :: fieldText s.elevation :: fieldText s.azimuth :: fieldText s.snr ::
                appendLast ('*' :: rest) ((second :: more).flatMap Satellite.fields) := rfl
          rw [glued, readSatellites_cons parser current s read, later, setSatellites_twice]
          simp [NmeaParser.setSatellites]

/-- The letters by which records and talkers are told apart, apart from those that are
hexadecimal digits. -/
def markers : JString := ['G', 'S', 'R', '$']

theorem not_marker_of_field {c : Char} (plain : c.isDigit = true ∨ c = '-') : c ∉ markers := by
  intro marker
  simp only [markers, List.mem_cons, List.not_mem_nil, or_false] at marker
  rcases marker with rfl | rfl | rfl | rfl <;> exact absurd plain (by decide)

theorem upperHex_chars : ∀ d < 16,
    upperHex d ∉ markers ∧ upperHex d ≠ ',' ∧ upperHex d ≠ '*' := by
  decide

theorem checksum_chars {body : JString} {c : Char} (member : c ∈ checksum body) :
    c ∉ markers ∧ c ≠ ',' ∧ c ≠ '*' := by
  simp only [checksum, List.mem_cons, List.not_mem_nil, or_false] at member
  rcases member with rfl | rfl
  · exact upperHex_chars _ (Nat.mod_lt _ (by decide))
  · exact upperHex_chars _ (Nat.mod_lt _ (by decide))

theorem ending_chars {terminated : Bool} {body : JString} {c : Char}
    (member : c ∈ checksum body ++ if terminated then "\r\n".toList else []) :
    c ∉ markers ∧ c ≠ ',' ∧ c ≠ '*' := by
  rcases List.mem_append.mp member with digit | lineEnd
  · exact checksum_chars digit
  · cases terminated with
    | false => simp at lineEnd
    | true =>
        have either : c = '\r' ∨ c = '\n' := by simpa using lineEnd
        rcases either with rfl | rfl <;> decide

theorem comma_absent (terminated : Bool) (body : JString) :
    ',' ∉ '*' :: (checksum body ++ if terminated then "\r\n".toList else []) := by
  intro member
  rcases List.mem_cons.mp member with star | behind
  · exact absurd star (by decide)
  · exact (ending_chars behind).2.1 rfl

theorem dispatch_gsv (talker : Talker) {rest : JString} (plain : ∀ c ∈ markers, c ∉ rest) :
    dispatch (talker.text ++ "GSV".toList ++ rest) = .gsv := by
  have rmc : contains rest ['R', 'M', 'C'] = false :=
    not_contains_of_absent (c := 'R') (by decide) (plain 'R' (by decide))
  have gsa : contains rest ['G', 'S', 'A'] = false :=
    not_contains_of_absent (c := 'G') (by decide) (plain 'G' (by decide))
  have gga : contains rest ['G', 'G', 'A'] = false :=
    not_contains_of_absent (c := 'G') (by decide) (plain 'G' (by decide))
  cases talker <;>
    simp [dispatch, Talker.text, contains_cons, rmc, gsa, gga, List.isPrefixOf]

theorem checkTalker_text (talker : Talker) {rest : JString} (plain : '$' ∉ rest) :
    checkTalker (talker.text ++ rest) = some talker := by
  have absent (a b : Char) : contains rest ['$', a, b] = false :=
    not_contains_of_absent (c := '$') (by simp) plain
  cases talker <;>
    simp [checkTalker, mTalker, Talker.text, contains_cons, absent, List.isPrefixOf]

theorem checkTalker_gsv (talker : Talker) {rest : JString} (plain : ∀ c ∈ markers, c ∉ rest) :
    checkTalker (talker.text ++ "GSV".toList ++ rest) = some talker := by
  have behind : '$' ∉ "GSV".toList ++ rest := by
    intro member
    rcases List.mem_append.mp member with name | later
    · exact absurd name (by decide)
    · exact plain '$' (by decide) later
  rw [List.append_assoc]
  exact checkTalker_text talker behind

theorem digits_chars {n : Nat} {c : Char} (member : c ∈ Nat.toDigits 10 n) :
    c.isDigit = true ∨ c = '-' :=
  Or.inl (Nat.isDigit_of_mem_toDigits (by decide) (by decide) member)

/-- The fields of a message behind its name. -/
def numberFields (count index total : Nat) (page : List Satellite) : List JString :=
  [Nat.toDigits 10 count, Nat.toDigits 10 index,
    (Numeral.mk total (if total < 10 then 1 else 0)).text] ++ page.flatMap Satellite.fields

theorem numberFields_chars {count index total : Nat} {page : List Satellite} {part : JString}
    (member : part ∈ numberFields count index total page) {c : Char} (inside : c ∈ part) :
    c.isDigit = true ∨ c = '-' := by
  simp only [numberFields, List.cons_append, List.nil_append, List.mem_cons] at member
  rcases member with rfl | rfl | rfl | later
  · exact digits_chars inside
  · exact digits_chars inside
  · exact Numeral.text_chars inside
  · obtain ⟨s, -, listed⟩ := List.mem_flatMap.mp later
    exact s.fields_chars listed inside

theorem parse_gsv (parser : NmeaParser L) {record : JString} (dispatched : dispatch record = .gsv) :
    (parse parser record).parser =
      (parseGSV { parser with mCurrentTalker := checkTalker record
                              mParseState := .gsv } record).1 := by
  simp only [parse, dispatched]

theorem parseGSV_fields (parser : NmeaParser L) {record : JString} {talker : Talker}
    (current : parser.mCurrentTalker = some talker) {name total index inView : JString}
    {rest : List JString} (values : split ',' record = name :: total :: index :: inView :: rest) :
    parseGSV parser record = readSatellites talker
      (if 0 < parseInt total ∧ parseInt index = 1 then parser.setSatellites talker [] else parser)
      rest := by
  simp only [parseGSV, current, values, field, List.getElem?_cons_succ, List.getElem?_cons_zero,
    List.drop_succ_cons, List.drop_zero]

section Message

variable (terminated : Bool) (talker : Talker) (count index total : Nat) (page : List Satellite)

/-- The text of a message behind its last field and the star. -/
def ending : JString :=
  checksum (join ',' ((talker.text ++ "GSV".toList) :: numberFields count index total page)).tail ++
    if terminated then "\r\n".toList else []

theorem message_eq : message terminated talker count index total page =
    join ',' ((talker.text ++ "GSV".toList) :: numberFields count index total page) ++
      '*' :: ending terminated talker count index total page :=
  rfl

theorem message_named : ∃ rest, (∀ c ∈ markers, c ∉ rest) ∧
    message terminated talker count index total page = talker.text ++ "GSV".toList ++ rest := by
  refine ⟨',' :: (join ',' (numberFields count index total page) ++
    '*' :: ending terminated talker count index total page), ?_, ?_⟩
  · intro c marker member
    rcases List.mem_cons.mp member with rfl | behind
    · exact absurd marker (by decide)
    rcases List.mem_append.mp behind with joined | closing
    · rcases mem_join joined with rfl | ⟨part, listed, inside⟩
      · exact absurd marker (by decide)
      · exact not_marker_of_field (numberFields_chars listed inside) marker
    · rcases List.mem_cons.mp closing with rfl | behindStar
      · exact absurd marker (by decide)
      · exact (ending_chars behindStar).1 marker
  · rw [message_eq, numberFields, List.cons_append, intercalate_cons_cons, List.append_assoc,
      List.append_assoc, List.cons_append, List.append_assoc]

theorem message_values (nonempty : page ≠ []) :
    split ',' (message terminated talker count index total page) =
      (talker.text ++ "GSV".toList) :: Nat.toDigits 10 count :: Nat.toDigits 10 index ::
        (Numeral.mk total (if total < 10 then 1 else 0)).text ::
          appendLast ('*' :: ending terminated talker count index total page)
            (page.flatMap Satellite.fields) := by
  rw [message_eq, split_appendLast (List.cons_ne_nil _ _) (List.cons_ne_nil _ _)]
  · obtain ⟨s, rest, rfl⟩ := List.exists_cons_of_ne_nil nonempty
    rfl
  · exact comma_absent terminated _
  · intro part member inside
    rcases List.mem_cons.mp member with rfl | later
    · cases talker <;> exact absurd inside (by decide)
    · exact absurd (numberFields_chars later inside) (by decide)

/-- What a message does to the satellite lists. -/
theorem parse_message (parser : NmeaParser L) (nonempty : page ≠ []) (counted : 0 < count)
    (count_int : count ≤ 2147483647) (index_int : index ≤ 2147483647) :
    (parse parser (message terminated talker count index total page)).parser.mSatelInfoList =
        Function.update parser.mSatelInfoList talker
          ((if index = 1 then [] else parser.mSatelInfoList talker) ++
            page.map (listed (parser.mUsedFixIdMapList (some talker)) talker)) ∧
      (parse parser (message terminated talker count index total page)).parser.mUsedFixIdMapList =
        parser.mUsedFixIdMapList := by
  obtain ⟨rest, plain, named⟩ := message_named terminated talker count index total page
  have values := message_values terminated talker count index total page nonempty
  have closing : ending terminated talker count index total page ≠ [] := by
    simp [ending, checksum]
  have starless : '*' ∉ ending terminated talker count index total page :=
    fun member => (ending_chars member).2.2 rfl
  have dispatched : dispatch (message terminated talker count index total page) = .gsv := by
    rw [named]
    exact dispatch_gsv talker plain
  have addressed : checkTalker (message terminated talker count index total page) =
      some talker := by
    rw [named]
    exact checkTalker_gsv talker plain
  have started (p : NmeaParser L) :
      (if 0 < parseInt (Nat.toDigits 10 count) ∧ parseInt (Nat.toDigits 10 index) = 1 then
        p.setSatellites talker [] else p) =
      p.setSatellites talker (if index = 1 then [] else p.mSatelInfoList talker) := by
    rw [parseInt_toDigits count_int, parseInt_toDigits index_int]
    by_cases first : index = 1
    · simp [first, counted.ne']
    · have other : ¬ (index : Int) = 1 := by exact_mod_cast first
      simp [first, other, NmeaParser.setSatellites]
  have read := readSatellites_page closing starless
    (NmeaParser.setSatellites { parser with mCurrentTalker := some talker
                                            mParseState := .gsv } talker
      (if index = 1 then [] else parser.mSatelInfoList talker)) rfl nonempty
  rw [parse_gsv parser dispatched, addressed, parseGSV_fields _ rfl values, started, read]
  simp [NmeaParser.setSatellites]

/-- The messages behind the first one extend the list of their talker and nothing else. -/
theorem numbered_run (parser : NmeaParser L) (group : List (List Satellite))
    (filled : ∀ page ∈ group, page ≠ []) (counted : 0 < count) (count_int : count ≤ 2147483647)
    (later : 1 < index) (index_int : index + group.length ≤ 2147483648) :
    let after := parseAll parser (numbered terminated talker count total index group)
    after.mSatelInfoList = Function.update parser.mSatelInfoList talker
        (parser.mSatelInfoList talker ++
          group.flatten.map (listed (parser.mUsedFixIdMapList (some talker)) talker)) ∧
      after.mUsedFixIdMapList = parser.mUsedFixIdMapList := by
  induction group generalizing parser index with
  | nil => simp [parseAll, numbered]
  | cons page rest ih =>
      rw [List.length_cons] at index_int
      obtain ⟨lists, used⟩ := parse_message terminated talker count index total page parser
        (filled page List.mem_cons_self) counted count_int (by omega)
      obtain ⟨restLists, restUsed⟩ := ih (index + 1)
        (parse parser (message terminated talker count index total page)).parser
        (fun other member => filled other (List.mem_cons_of_mem page member))
        (by omega) (by omega)
      rw [used] at restUsed
      refine ⟨?_, restUsed⟩
      have extended := restLists
      rw [lists, used, if_neg (by omega)] at extended
      simpa [parseAll, numbered] using extended

end Message

theorem pages_flatten (satellites : List Satellite) : (pages satellites).flatten = satellites := by
  fun_induction pages satellites with
  | case1 a b c d e rest ih => simp [ih]
  | case2 => rfl
  | case3 => simp

theorem pages_filled (satellites : List Satellite) : ∀ page ∈ pages satellites, page ≠ [] := by
  fun_induction pages satellites with
  | case1 a b c d e rest ih =>
      intro page member
      rcases List.mem_cons.mp member with rfl | later
      · exact List.cons_ne_nil _ _
      · exact ih page later
  | case2 => simp
  | case3 final short nonempty =>
      intro page member
      obtain rfl := List.mem_singleton.mp member
      exact fun none => nonempty none

theorem pages_length_le (satellites : List Satellite) :
    (pages satellites).length ≤ satellites.length := by
  fun_induction pages satellites with
  | case1 a b c d e rest ih =>
      simp only [List.length_cons] at ih ⊢
      omega
  | case2 => rfl
  | case3 final short nonempty =>
      have : final.length ≠ 0 := by simpa using nonempty
      simp only [List.length_singleton]
      omega

theorem messages_run (parser : NmeaParser L) (terminated : Bool) (talker : Talker)
    {satellites : List Satellite} (nonempty : satellites ≠ [])
    (arrayList : satellites.length ≤ 2147483647) :
    (parseAll parser (messages terminated talker satellites)).mSatelInfoList =
      Function.update parser.mSatelInfoList talker
        (satellites.map (listed (parser.mUsedFixIdMapList (some talker)) talker)) := by
  have whole := pages_flatten satellites
  have filled := pages_filled satellites
  have bound := pages_length_le satellites
  rw [messages]
  generalize pages satellites = group at whole filled bound
  cases group with
  | nil => exact absurd whole.symm nonempty
  | cons page rest =>
      have counted : 0 < (page :: rest).length := Nat.succ_pos rest.length
      obtain ⟨lists, used⟩ := parse_message terminated talker (page :: rest).length 1
        satellites.length page parser (filled page List.mem_cons_self) counted (by omega)
        (by omega)
      obtain ⟨restLists, -⟩ := numbered_run terminated talker (page :: rest).length 2
        satellites.length
        (parse parser (message terminated talker (page :: rest).length 1 satellites.length
          page)).parser rest (fun other member => filled other (List.mem_cons_of_mem page member))
        counted (by omega) (by omega) (by simp only [List.length_cons] at bound; omega)
      rw [lists, used, if_pos rfl] at restLists
      have joined : satellites.map (listed (parser.mUsedFixIdMapList (some talker)) talker) =
          page.map (listed (parser.mUsedFixIdMapList (some talker)) talker) ++
            rest.flatten.map (listed (parser.mUsedFixIdMapList (some talker)) talker) := by
        rw [← whole, List.flatten_cons, List.map_append]
      rw [joined]
      simpa [parseAll, numbered] using restLists

/-- The messages for a list of satellites, which an array list can hold, rebuild it as the
list of their talker and leave the lists of the other talkers alone. -/
theorem messages_rebuild_list (parser : NmeaParser L) (terminated : Bool) (talker : Talker)
    (satellites : List Satellite) (nonempty : satellites ≠ [])
    (arrayList : satellites.length ≤ 2147483647) :
    let after := parseAll parser (messages terminated talker satellites)
    after.mSatelInfoList talker =
        satellites.map (listed (parser.mUsedFixIdMapList (some talker)) talker) ∧
      ∀ other ≠ talker, after.mSatelInfoList other = parser.mSatelInfoList other := by
  intro after
  have now : after.mSatelInfoList = _ := messages_run parser terminated talker nonempty arrayList
  rw [now]
  exact ⟨Function.update_self _ _ _, fun other distinct => Function.update_of_ne distinct _ _⟩

/-- One satellite that is tracked, and one of which only the PRN is known. -/
def trackedAndNot : List Satellite :=
  [⟨⟨7, 1⟩, some ⟨-3, 0⟩, some ⟨5, 2⟩, some ⟨40, 0⟩, by decide, by decide⟩,
   ⟨⟨68, 0⟩, none, none, none, by decide, by decide⟩]

theorem tracked_and_not_rebuilt :
    (parseAll (NmeaParser.create ([] : List Unit))
      (messages true .gl trackedAndNot)).mSatelInfoList .gl =
        [⟨7, .finite false 40, .finite true 3, .finite false 5, false, 0xffff0000⟩,
         ⟨68, .zero, .zero, .zero, false, 0xffff0000⟩] := by
  rw [(messages_rebuild_list (NmeaParser.create ([] : List Unit)) true .gl trackedAndNot
    (List.cons_ne_nil _ _) (by decide)).1]
  have exact (n : Int) (small : n.natAbs ≤ 2 ^ 24) := JFloat.ofInt_of_small small
  simp only [trackedAndNot, List.map_cons, List.map_nil, listed, fieldValue, exact 40 (by decide),
    exact (-3) (by decide), exact 5 (by decide)]
  decide

end X5MaxDevice.Ygps.GsvMessages
