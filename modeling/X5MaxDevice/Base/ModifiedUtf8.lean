import Mathlib.Data.List.Basic

/-! Modified UTF-8: the bytes in which a Java string is handed to C. -/

namespace X5MaxDevice.ModifiedUtf8

/-- The UTF-16 units of a Java string. -/
abbrev Units := List UInt16

/-- The NUL takes two bytes and a surrogate is encoded like any other unit. -/
def encodeCode (code : Nat) : List UInt8 :=
  if code = 0 then [0xC0, 0x80]
  else if code < 0x80 then [UInt8.ofNat code]
  else if code < 0x800 then [UInt8.ofNat (0xC0 + code / 64), UInt8.ofNat (0x80 + code % 64)]
  else
    [UInt8.ofNat (0xE0 + code / 4096), UInt8.ofNat (0x80 + code / 64 % 64),
      UInt8.ofNat (0x80 + code % 64)]

def encodeUnit (unit : UInt16) : List UInt8 := encodeCode unit.toNat

def encode (text : Units) : List UInt8 := text.flatMap encodeUnit

/-- The units that are encoded in the byte of the same value. -/
def IsPlain (unit : UInt16) : Prop := 0 < unit.toNat ∧ unit.toNat < 0x80

instance (unit : UInt16) : Decidable (IsPlain unit) := inferInstanceAs (Decidable (_ ∧ _))

theorem encodeUnit_plain {unit : UInt16} (plain : IsPlain unit) :
    encodeUnit unit = [UInt8.ofNat unit.toNat] := by
  have nonzero : unit.toNat ≠ 0 := by have low := plain.1; omega
  rw [encodeUnit, encodeCode, if_neg nonzero, if_pos plain.2]

theorem ofNat_ne_zero {n : Nat} (low : 0 < n) (high : n < 256) : UInt8.ofNat n ≠ 0 := by
  intro zero
  have value := congrArg UInt8.toNat zero
  rw [UInt8.toNat_ofNat_of_lt' high] at value
  exact absurd value (by simp; omega)

/-- The encoding of a string is a C string. -/
theorem zero_not_mem_encode (text : Units) : 0 ∉ encode text := by
  intro member
  obtain ⟨unit, -, member⟩ := List.mem_flatMap.mp member
  have range := unit.toNat_lt
  unfold encodeUnit encodeCode at member
  split at member
  · simp at member
  · rename_i nonzero
    split at member
    · rename_i small
      exact ofNat_ne_zero (by omega) (by omega) (List.mem_singleton.mp member).symm
    · split at member
      · rename_i middle
        rcases List.mem_pair.mp member with first | second
        · exact ofNat_ne_zero (by omega) (by omega) first.symm
        · exact ofNat_ne_zero (by omega) (by omega) second.symm
      · simp only [List.mem_cons, List.not_mem_nil, or_false] at member
        rcases member with first | second | third
        · exact ofNat_ne_zero (by omega) (by omega) first.symm
        · exact ofNat_ne_zero (by omega) (by omega) second.symm
        · exact ofNat_ne_zero (by omega) (by omega) third.symm

/-- An encoding starts with an ASCII byte only if the unit is that byte. -/
theorem head_encodeUnit {unit : UInt16} {byte : UInt8} (low : byte ≠ 0) (high : byte.toNat < 0x80) :
    (encodeUnit unit).head? = some byte ↔ unit.toNat = byte.toNat := by
  have range := unit.toNat_lt
  have positive : byte.toNat ≠ 0 := fun zero => low (UInt8.toNat_inj.mp zero)
  have first {n : Nat} (small : n < 256) : UInt8.ofNat n = byte ↔ n = byte.toNat := by
    rw [← UInt8.toNat_inj, UInt8.toNat_ofNat_of_lt' small]
  unfold encodeUnit encodeCode
  split
  · rename_i zero
    have other : (0xC0 : UInt8) = byte ↔ 0xC0 = byte.toNat := @first 0xC0 (by decide)
    simp only [List.head?_cons, Option.some.injEq, other]
    omega
  · split
    · simp only [List.head?_cons, Option.some.injEq, first (show unit.toNat < 256 by omega)]
    · split
      · rename_i middle
        simp only [List.head?_cons, Option.some.injEq,
          first (show 0xC0 + unit.toNat / 64 < 256 by omega)]
        omega
      · simp only [List.head?_cons, Option.some.injEq,
          first (show 0xE0 + unit.toNat / 4096 < 256 by omega)]
        omega

theorem encodeUnit_length (unit : UInt16) :
    0 < (encodeUnit unit).length ∧ (encodeUnit unit).length ≤ 3 := by
  unfold encodeUnit encodeCode
  split
  · simp
  · split
    · simp
    · split <;> simp

theorem encodeUnit_ne_nil (unit : UInt16) : encodeUnit unit ≠ [] :=
  List.ne_nil_of_length_pos (encodeUnit_length unit).1

theorem encode_eq_nil_iff {text : Units} : encode text = [] ↔ text = [] := by
  cases text with
  | nil => simp [encode]
  | cons unit text => simp [encode, encodeUnit_ne_nil]

theorem encode_cons_length (unit : UInt16) (text : Units) :
    (encode (unit :: text)).length = (encodeUnit unit).length + (encode text).length := by
  rw [encode, List.flatMap_cons, List.length_append, encode]

theorem encode_plain_length {text : Units} (plain : ∀ unit ∈ text, IsPlain unit) :
    (encode text).length = text.length := by
  induction text with
  | nil => rfl
  | cons unit text ih =>
      have tail := ih (fun other member => plain other (List.mem_cons_of_mem unit member))
      have head := encodeUnit_plain (plain unit List.mem_cons_self)
      calc
        (encode (unit :: text)).length = (encodeUnit unit).length + (encode text).length :=
          encode_cons_length unit text
        _ = (unit :: text).length := by
          rw [head, tail, List.length_singleton, List.length_cons]
          omega

/-- A unit that takes the place of another changes the length by the difference of the two. -/
theorem encode_set_length {text : Units} {index : Nat} {old : UInt16}
    (stands : text[index]? = some old) (unit : UInt16) :
    (encode (text.set index unit)).length + (encodeUnit old).length =
      (encode text).length + (encodeUnit unit).length := by
  induction text generalizing index with
  | nil => cases stands
  | cons first text ih =>
      cases index with
      | zero =>
          obtain rfl := Option.some.inj stands
          rw [List.set_cons_zero, encode_cons_length, encode_cons_length]
          omega
      | succ index =>
          have rest := ih stands
          rw [List.set_cons_succ, encode_cons_length, encode_cons_length]
          omega

/-- Behind plain units the bytes stand where the units do. -/
theorem encode_getElem_iff {text : Units} {index : Nat} {byte : UInt8}
    (plain : ∀ unit ∈ text.take index, IsPlain unit) (long : index < text.length)
    (low : byte ≠ 0) (high : byte.toNat < 0x80) :
    (encode text)[index]? = some byte ↔ text[index]?.map UInt16.toNat = some byte.toNat := by
  have front : (encode (text.take index)).length = index := by
    rw [encode_plain_length plain, List.length_take]
    omega
  have parts : encode text =
      encode (text.take index) ++ (encodeUnit text[index] ++ encode (text.drop (index + 1))) := by
    conv_lhs => rw [← List.take_append_drop index text, List.drop_eq_getElem_cons long]
    simp only [encode, List.flatMap_append, List.flatMap_cons]
  have same : (encode text)[index]? = (encodeUnit text[index]).head? := by
    rw [parts, List.getElem?_append_right (by omega), front, Nat.sub_self, ← List.head?_eq_getElem?,
      List.head?_append_of_ne_nil _ (encodeUnit_ne_nil _)]
  rw [same, head_encodeUnit low high, List.getElem?_eq_getElem long, Option.map_some,
    Option.some.injEq]

end X5MaxDevice.ModifiedUtf8
