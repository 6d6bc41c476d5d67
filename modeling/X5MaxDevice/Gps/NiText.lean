import X5MaxDevice.Gps.MnldMessages

/-! The text of an NI notification: an ASCII string as UCS2 with a byte order mark, written in
hexadecimal. -/

namespace X5MaxDevice.Gps.NiText

open X5MaxDevice.Gps.Codec
open X5MaxDevice.Gps.MnldMessages
open X5MaxDevice.Gps.Tokenizer
open X5MaxDevice.Memory

def expand (string : Bytes) : Bytes := string.flatMap (fun char => [0, char])

/-- The bytes FE FF, then two bytes for each character. -/
def ucs2 (string : Bytes) : Bytes := 0xfe :: 0xff :: expand string

/-- A `char` as an `int`; whether it has a sign depends on the platform. -/
def promote (signed : Bool) (char : UInt8) : BitVec 32 :=
  if signed then char.toBitVec.signExtend 32 else char.toBitVec.setWidth 32

/-- The two characters of a byte, by the shift and the mask of `raw_data_to_hex_string`. -/
def hexPair (signed : Bool) (char : UInt8) : Bytes :=
  [hexDigit ((promote signed char).sshiftRight 4 &&& 0xf).toNat,
    hexDigit (promote signed char &&& 0xf).toNat]

def hexText (signed : Bool) (string : Bytes) : Bytes := (ucs2 string).flatMap (hexPair signed)

def upperHex (char : UInt8) : Bool := 48 ≤ char && char ≤ 57 || 65 ≤ char && char ≤ 70

def hexValue (char : UInt8) : Option Nat :=
  if 48 ≤ char ∧ char ≤ 57 then some (char.toNat - 48)
  else if 65 ≤ char ∧ char ≤ 70 then some (char.toNat - 55)
  else none

def decodeHex : Bytes → Option Bytes
  | [] => some []
  | [_] => none
  | first :: second :: rest => do
      let high ← hexValue first
      let low ← hexValue second
      let bytes ← decodeHex rest
      some (UInt8.ofNat (high * 16 + low) :: bytes)

/-- With or without a sign, the nibbles are those of the byte. -/
theorem hexPair_eq (signed : Bool) (char : UInt8) :
    hexPair signed char = [hexDigit (char.toNat / 16), hexDigit (char.toNat % 16)] := by
  have nibbles : ∀ byte : BitVec 8,
      ((byte.signExtend 32).sshiftRight 4 &&& 0xf).toNat = byte.toNat / 16 ∧
        (byte.signExtend 32 &&& 0xf).toNat = byte.toNat % 16 ∧
        ((byte.setWidth 32).sshiftRight 4 &&& 0xf).toNat = byte.toNat / 16 ∧
        (byte.setWidth 32 &&& 0xf).toNat = byte.toNat % 16 := by decide +kernel
  rcases nibbles char.toBitVec with ⟨high, low, high', low'⟩
  cases signed with
  | true => simp only [hexPair, promote, if_true, high, low, UInt8.toNat_toBitVec]
  | false =>
      simp only [hexPair, promote, Bool.false_eq_true, if_false, high', low', UInt8.toNat_toBitVec]

theorem hexPair_length (signed : Bool) (char : UInt8) : (hexPair signed char).length = 2 := rfl

theorem upperHex_hexDigit {tmp : Nat} (small : tmp < 16) : upperHex (hexDigit tmp) = true := by
  have all : ∀ tmp : Fin 16, upperHex (hexDigit tmp) = true := by decide
  exact all ⟨tmp, small⟩

theorem hexValue_hexDigit {tmp : Nat} (small : tmp < 16) : hexValue (hexDigit tmp) = some tmp := by
  have all : ∀ tmp : Fin 16, hexValue (hexDigit tmp) = some tmp.val := by decide
  exact all ⟨tmp, small⟩

theorem decodeHex_pairs (signed : Bool) (bytes : Bytes) :
    decodeHex (bytes.flatMap (hexPair signed)) = some bytes := by
  induction bytes with
  | nil => rfl
  | cons byte bytes ih =>
      have small : byte.toNat / 16 < 16 := by
        have bound := byte.toNat_lt
        omega
      have whole : byte.toNat / 16 * 16 + byte.toNat % 16 = byte.toNat := Nat.div_add_mod' _ _
      rw [List.flatMap_cons, hexPair_eq]
      simp only [List.cons_append, List.nil_append, decodeHex, ih, hexValue_hexDigit small,
        hexValue_hexDigit (Nat.mod_lt byte.toNat (by decide : 16 > 0)), Option.bind_eq_bind,
        Option.bind_some, whole, UInt8.ofNat_toNat]

theorem pairs_upperHex (signed : Bool) (bytes : Bytes) :
    ∀ char ∈ bytes.flatMap (hexPair signed), upperHex char = true := by
  intro char member
  rcases List.mem_flatMap.mp member with ⟨byte, -, digit⟩
  have bound := byte.toNat_lt
  rw [hexPair_eq, List.mem_cons, List.mem_singleton] at digit
  rcases digit with rfl | rfl
  · exact upperHex_hexDigit (by omega)
  · exact upperHex_hexDigit (by omega)

theorem flatMap_pair_length {f : UInt8 → Bytes} (pair : ∀ char, (f char).length = 2)
    (bytes : Bytes) : (bytes.flatMap f).length = 2 * bytes.length := by
  induction bytes with
  | nil => rfl
  | cons byte bytes ih =>
      rw [List.flatMap_cons, List.length_append, pair, ih, List.length_cons]
      omega

theorem ucs2_length (string : Bytes) : (ucs2 string).length = 2 + 2 * string.length := by
  have expanded : (expand string).length = 2 * string.length := flatMap_pair_length (fun _ => rfl) _
  rw [ucs2, List.length_cons, List.length_cons, expanded]
  omega

theorem hexText_length (signed : Bool) (string : Bytes) :
    (hexText signed string).length = 4 + 4 * string.length := by
  rw [hexText, flatMap_pair_length (hexPair_length signed), ucs2_length]
  omega

theorem expand_injective {string other : Bytes} (same : expand string = expand other) :
    string = other := by
  induction string generalizing other with
  | nil =>
      cases other with
      | nil => rfl
      | cons char other => cases same
  | cons first string ih =>
      cases other with
      | nil => cases same
      | cons char other =>
          injection same with _ same
          injection same with first rest
          rw [first, ih rest]

/-- Two cells in a row. -/
theorem store_pair (front back : Bytes) (first second char next : UInt8) :
    (do
      let output ← write (front ++ first :: second :: back) front.length [char]
      write output (front.length + 1) [next]) = some (front ++ char :: next :: back) := by
  have position : (front.length : Int) + 1 = (front ++ [char]).length := by
    rw [List.length_append]
    rfl
  have wrote := write_cell (front ++ [char]) back second next
  rw [List.append_assoc, List.append_assoc] at wrote
  rw [write_cell, Option.bind_eq_bind, Option.bind_some, position]
  exact wrote

theorem two_of_length {α : Type} {items : List α} (long : 2 ≤ items.length) :
    ∃ first second rest, items = first :: second :: rest := by
  cases items with
  | nil => simp at long
  | cons first others =>
      cases others with
      | nil => simp at long
      | cons second rest => exact ⟨first, second, rest, rfl⟩

/-- The loop expands the characters from its position on. -/
theorem usc2Loop_eq {string : Bytes} (plain : 0 ∉ string) (rest front back : Bytes)
    (room : 2 * string.length ≤ back.length) :
    usc2Loop (string ++ 0 :: rest) (front ++ back) front.length =
      some (front ++ (expand string ++ back.drop (2 * string.length)),
        ((front.length + 2 * string.length : Nat) : Int)) := by
  induction string generalizing front back with
  | nil =>
      rw [List.nil_append, usc2Loop, if_pos rfl]
      rfl
  | cons char string ih =>
      rw [List.mem_cons, not_or] at plain
      obtain ⟨first, second, back, rfl⟩ : ∃ first second rest, back = first :: second :: rest :=
        two_of_length (by rw [List.length_cons] at room; omega)
      have next := ih plain.2 (front ++ [0, char]) back
        (by simp only [List.length_cons] at room; omega)
      have length : (front ++ [0, char]).length = front.length + 2 := List.length_append
      have stored := store_pair front back first second 0 char
      rw [length, List.append_assoc, List.append_assoc, Int.natCast_add] at next
      obtain ⟨output, wrote, wrote'⟩ := Option.bind_eq_some_iff.mp stored
      rw [List.cons_append, usc2Loop, if_neg (Ne.symm plain.1), wrote, Option.bind_eq_bind,
        Option.bind_some, wrote', Option.bind_some]
      refine next.trans ?_
      have total : front.length + 2 + 2 * string.length =
          front.length + 2 * (char :: string).length := by
        rw [List.length_cons]
        omega
      rw [total]
      rfl

theorem ascStrToUsc2Str_eq {string : Bytes} (plain : 0 ∉ string) (rest : Bytes) {size : Nat}
    (room : 2 * string.length + 5 ≤ size) :
    ∃ behind, ascStrToUsc2Str (zeros size) (string ++ 0 :: rest) =
      some (ucs2 string ++ behind, ((2 + 2 * string.length : Nat) : Int)) := by
  have marked := store_pair [] (zeros (size - 2)) 0 0 0xfe 0xff
  have blank : zeros size = [] ++ 0 :: 0 :: zeros (size - 2) := by
    rw [zeros, show size = size - 2 + 2 by omega]
    rfl
  have looped := usc2Loop_eq plain rest [0xfe, 0xff] (zeros (size - 2))
    (by rw [zeros_length]; omega)
  have left : (zeros (size - 2)).drop (2 * string.length) =
      0 :: 0 :: 0 :: zeros (size - 5 - 2 * string.length) := by
    rw [zeros, List.drop_replicate,
      show size - 2 - 2 * string.length = size - 5 - 2 * string.length + 3 by omega]
    rfl
  have last : ((ucs2 string ++ [0]).length : Int) = (2 + 2 * string.length : Nat) + 1 := by
    rw [List.length_append, ucs2_length]
    rfl
  have ended := store_pair (ucs2 string ++ [0]) (zeros (size - 5 - 2 * string.length)) 0 0 0 0
  rw [← blank] at marked
  rw [left] at looped
  rw [List.append_assoc, last] at ended
  obtain ⟨first, wroteFirst, wroteSecond⟩ := Option.bind_eq_some_iff.mp marked
  obtain ⟨third, wroteThird, wroteFourth⟩ := Option.bind_eq_some_iff.mp ended
  have one : write (zeros size) 0 [0xfe] = some first := wroteFirst
  have two : write first 1 [0xff] = some ([0xfe, 0xff] ++ zeros (size - 2)) := wroteSecond
  have three : usc2Loop (string ++ 0 :: rest) ([0xfe, 0xff] ++ zeros (size - 2)) 2 =
      some (ucs2 string ++ ([0] ++ 0 :: 0 :: zeros (size - 5 - 2 * string.length)),
        ((2 + 2 * string.length : Nat) : Int)) := looped
  have four : write third (((2 + 2 * string.length : Nat) : Int) + 2) [0] =
      some (ucs2 string ++ ([0] ++ 0 :: 0 :: zeros (size - 5 - 2 * string.length))) := wroteFourth
  refine ⟨[0] ++ 0 :: 0 :: zeros (size - 5 - 2 * string.length), ?_⟩
  rw [ascStrToUsc2Str]
  simp only [Option.bind_eq_bind, one, two, three, wroteThird, four, Option.bind_some]

/-- The loop writes two characters for each byte from its position on. -/
theorem hexLoop_eq (signed : Bool) (before bytes behind : Bytes) (front back : Bytes)
    (position : front.length = 2 * before.length) (room : 2 * bytes.length ≤ back.length) :
    hexLoop (before ++ (bytes ++ behind)) bytes.length before.length (front ++ back) =
      some (front ++ (bytes.flatMap (hexPair signed) ++ back.drop (2 * bytes.length))) := by
  induction bytes generalizing before front back with
  | nil => rfl
  | cons byte bytes ih =>
      obtain ⟨first, second, back, rfl⟩ : ∃ first second rest, back = first :: second :: rest :=
        two_of_length (by rw [List.length_cons] at room; omega)
      have next := ih (before ++ [byte]) (front ++ hexPair signed byte) back
        (by rw [List.length_append, List.length_append, hexPair_length, position,
          List.length_singleton]; omega)
        (by simp only [List.length_cons] at room; omega)
      have stored := store_pair front back first second (hexDigit (byte.toNat / 16))
        (hexDigit (byte.toNat % 16))
      obtain ⟨output, wrote, wrote'⟩ := Option.bind_eq_some_iff.mp stored
      have got := read_cell before (bytes ++ behind) byte
      have value : ofLittleEndian [byte] = byte.toNat := by simp [ofLittleEndian]
      have start : (before.length : Int) * 2 = front.length := by omega
      rw [List.length_append, List.length_singleton, List.append_assoc, List.append_assoc,
        hexPair_eq] at next
      rw [List.length_cons, List.cons_append, hexLoop, got, Option.bind_eq_bind, Option.bind_some,
        value, start, wrote, Option.bind_some, wrote', Option.bind_some]
      refine next.trans ?_
      rw [List.flatMap_cons, hexPair_eq, List.append_assoc]
      rfl

theorem hexOfString_eq (signed : Bool) {string : Bytes} (plain : 0 ∉ string) (rest : Bytes)
    {output : Bytes} (short : string.length ≤ 509) (room : 4 + 4 * string.length ≤ output.length) :
    hexOfString output (string ++ 0 :: rest) =
      some (hexText signed string ++ output.drop (4 + 4 * string.length)) := by
  obtain ⟨behind, expanded⟩ := ascStrToUsc2Str_eq plain rest
    (show 2 * string.length + 5 ≤ 1024 by omega)
  have written := hexLoop_eq signed [] (ucs2 string) behind [] output rfl
    (by rw [ucs2_length]; omega)
  have count : 2 * (ucs2 string).length = 4 + 4 * string.length := by
    rw [ucs2_length]
    omega
  rw [count, ucs2_length] at written
  rw [hexOfString, expanded, Option.bind_eq_bind, Option.bind_some]
  exact written

theorem takeWhile_plain {string : Bytes} (plain : 0 ∉ string) (rest : Bytes) :
    (string ++ rest).takeWhile (fun char => char != 0) =
      string ++ rest.takeWhile (fun char => char != 0) := by
  apply List.takeWhile_append_of_pos
  intro char member
  rw [bne_iff_ne]
  rintro rfl
  exact plain member

theorem cString_plain {string : Bytes} (plain : 0 ∉ string) (rest : Bytes) :
    cString (string ++ 0 :: rest) = string := by
  rw [cString, takeWhile_plain plain]
  simp

theorem hexText_injective {signed : Bool} {string other : Bytes}
    (same : hexText signed string = hexText signed other) : string = other := by
  have decoded := decodeHex_pairs signed (ucs2 string)
  have decoded' := decodeHex_pairs signed (ucs2 other)
  rw [← hexText, same, hexText, decoded'] at decoded
  injection decoded with bytes
  injection bytes with _ bytes
  injection bytes with _ expanded
  exact (expand_injective expanded).symm

/-- No digit is a NUL, so the text ends where the zeros of the buffer begin. -/
theorem hexText_plain (signed : Bool) (string : Bytes) : 0 ∉ hexText signed string := by
  intro member
  have digit := pairs_upperHex signed (ucs2 string) 0 member
  exact absurd digit (by decide)

theorem text_of_buffer {text other : Bytes} (plain : 0 ∉ text) (plain' : 0 ∉ other)
    {count count' : Nat} (same : text ++ zeros count = other ++ zeros count') : text = other := by
  have nonzero {bytes : Bytes} (plain : 0 ∉ bytes) (count : Nat) :
      (bytes ++ zeros count).takeWhile (fun char => char != 0) = bytes := by
    rw [takeWhile_plain plain]
    simp [zeros]
  rw [← nonzero plain count, same, nonzero plain' count']

/-- The text of a string that fits the buffers: upper-case digits, four more than four for each
character, that decode to the UCS2 bytes; so no two strings leave one text. -/
theorem ni_text_encoding (signed : Bool) {string : Bytes} (plain : 0 ∉ string) (rest : Bytes)
    {size : Nat} (fits : (hexOfString (zeros size) (string ++ 0 :: rest)).isSome) :
    let text := hexText signed string
    hexOfString (zeros size) (string ++ 0 :: rest) =
        some (text ++ zeros (size - (4 + 4 * string.length))) ∧
      text.length = 4 + 4 * string.length ∧ (∀ char ∈ text, upperHex char = true) ∧
      decodeHex text = some (ucs2 string) ∧
      ∀ other rest' : Bytes, 0 ∉ other → hexOfString (zeros size) (other ++ 0 :: rest') =
        hexOfString (zeros size) (string ++ 0 :: rest) → other = string := by
  have written {string : Bytes} (plain : 0 ∉ string) (rest : Bytes)
      (fits : (hexOfString (zeros size) (string ++ 0 :: rest)).isSome) :
      hexOfString (zeros size) (string ++ 0 :: rest) =
        some (hexText signed string ++ zeros (size - (4 + 4 * string.length))) := by
    have room := (hexOfString_isSome (zeros size) (string ++ 0 :: rest)).mp fits
    rw [Terminated, cString_plain plain] at room
    rw [hexOfString_eq signed plain rest room.1.2 room.2, zeros, List.drop_replicate]
    rfl
  refine ⟨written plain rest fits, hexText_length signed string, pairs_upperHex signed (ucs2 string),
    decodeHex_pairs signed (ucs2 string), ?_⟩
  intro other rest' plain' same
  have fits' : (hexOfString (zeros size) (other ++ 0 :: rest')).isSome := by
    rw [same]
    exact fits
  have buffers := (written plain' rest' fits').symm.trans (same.trans (written plain rest fits))
  rw [Option.some_inj] at buffers
  exact hexText_injective
    (text_of_buffer (hexText_plain signed other) (hexText_plain signed string) buffers)

/-- A character above 127 where `char` has a sign. -/
theorem accented_text_encoding :
    hexOfString (zeros 256) [0x41, 0xe9, 0] =
      some (bytes "FEFF004100E9" ++ zeros (256 - (4 + 4 * 2))) :=
  (ni_text_encoding true (show 0 ∉ [0x41, 0xe9] by decide) []
    ((hexOfString_isSome (zeros 256) [0x41, 0xe9, 0]).mpr
      ⟨⟨by decide, by decide⟩, by rw [zeros_length]; decide⟩)).1

end X5MaxDevice.Gps.NiText
