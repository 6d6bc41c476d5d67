import X5MaxDevice.Base.ModifiedUtf8
import X5MaxDevice.Gps.Codec

/-! The property `persist.radio.mnl.prop` as its two readers see it: `get_prop` of the GPS HAL
and `GpsMnlSetting` of the GPS test application. -/

namespace X5MaxDevice.Gps.MnlProperty

open X5MaxDevice.Gps.Codec
open X5MaxDevice.Gps.Tokenizer
open X5MaxDevice.ModifiedUtf8

def propertyValueMax : Nat := 92

/-- A value that the property store accepts; an absent property reads as the empty value. -/
structure PropertyValue where
  text : Units
  fits : (encode text).length < propertyValueMax

/-- The value as the C library knows it. -/
def PropertyValue.stored (value : PropertyValue) : CString :=
  ⟨encode value.text, zero_not_mem_encode value.text⟩

/-- The buffer after `property_get`, and the length that it returns. -/
def propertyGet (value : CString) (result : Bytes) : Bytes × Nat :=
  if value.chars = [] then (result, 0)
  else (value.chars ++ [0] ++ result.drop (value.chars.length + 1), value.chars.length)

/-- A `char` is unsigned on ARM. -/
def getProp (value : CString) : Int :=
  let (result, length) := propertyGet value (List.replicate propertyValueMax 0)
  if length ≠ 0 then ((result.getD 6 0).toNat : Int) - 0x30 else 0

def keyDebugDbg2socket : String := "debug.dbg2socket"
def keyDebugNmea2socket : String := "debug.nmea2socket"
def keyDebugDbg2file : String := "debug.dbg2file"
def keyDebugDebugNmea : String := "debug.debug_nmea"
def keyBeeEnabled : String := "BEE_enabled"
def keyTestMode : String := "test.mode"
def keySupllogEnabled : String := "SUPPLOG_enabled"
def keyGpsEpo : String := "gps.epo"

def sKeyList : List String :=
  [keyDebugDbg2socket, keyDebugNmea2socket, keyDebugDbg2file, keyDebugDebugNmea, keyBeeEnabled,
    keyTestMode, keySupllogEnabled, keyGpsEpo]

def propValue0 : Units := [0x30]

def getMnlProp (prop : Units) (key : String) (defaultValue : Units) : Units :=
  match sKeyList.idxOf? key with
  | none => defaultValue
  | some index => (prop[index]?.map (fun c => [c])).getD defaultValue

/-- Both readers take the supplementary log for off, or both take it for on. -/
def ReadersAgree (value : PropertyValue) : Prop :=
  getProp value.stored ≠ 0 ↔ getMnlProp value.text keySupllogEnabled propValue0 ≠ propValue0

/-- The byte and the unit at index 6 are both the digit 0, the missing unit counted as one. -/
def SameSwitch (text : Units) : Prop :=
  (encode text)[6]? = some 0x30 ↔ text[6]? = none ∨ text[6]? = some 0x30

/-- The text is empty, or reaches index 6 behind units of one byte each; behind a unit of more
bytes the readers look at different characters. -/
def Unambiguous (text : Units) : Prop :=
  text = [] ∨ ((∀ unit ∈ text.take 6, IsPlain unit) ∧ 7 ≤ text.length) ∨
    ((∃ unit ∈ text.take 6, ¬ IsPlain unit) ∧ SameSwitch text)

/-- The buffer was zero before the value was copied into it. -/
theorem propertyGet_byte {value : CString} (present : value.chars ≠ []) (index size : Nat) :
    (propertyGet value (List.replicate size 0)).1.getD index 0 = value.chars.getD index 0 := by
  rw [propertyGet, if_neg present, List.getD_eq_getElem?_getD, List.getD_eq_getElem?_getD]
  rcases Nat.lt_or_ge index value.chars.length with inside | outside
  · rw [List.append_assoc, List.getElem?_append_left inside]
  · rw [List.append_assoc, List.getElem?_append_right outside, List.getElem?_eq_none outside,
      List.drop_replicate, ← List.replicate_one, ← List.replicate_add, List.getElem?_replicate]
    split <;> rfl

theorem getProp_of_nonempty {value : CString} (present : value.chars ≠ []) :
    getProp value = ((value.chars.getD 6 0).toNat : Int) - 0x30 := by
  have counted : (propertyGet value (List.replicate propertyValueMax 0)).2 ≠ 0 := by
    rw [propertyGet, if_neg present]
    exact fun zero => present (List.eq_nil_of_length_eq_zero zero)
  calc
    getProp value =
        (((propertyGet value (List.replicate propertyValueMax 0)).1.getD 6 0).toNat : Int) - 0x30 :=
      if_pos counted
    _ = ((value.chars.getD 6 0).toNat : Int) - 0x30 := by rw [propertyGet_byte present]

theorem getProp_eq_zero_iff (value : CString) :
    getProp value = 0 ↔ value.chars = [] ∨ value.chars[6]? = some 0x30 := by
  by_cases absent : value.chars = []
  · simp [getProp, propertyGet, absent]
  · have digit {byte : UInt8} : (byte.toNat : Int) - 0x30 = 0 ↔ byte = 0x30 := by
      rw [← UInt8.toNat_inj]
      have code : (0x30 : UInt8).toNat = 48 := rfl
      omega
    rw [getProp_of_nonempty absent, digit, List.getD_eq_getElem?_getD]
    cases value.chars[6]? with
    | none => simp [absent]
    | some byte => simp [absent]

theorem getMnlProp_supllog (prop defaultValue : Units) :
    getMnlProp prop keySupllogEnabled defaultValue =
      (prop[6]?.map (fun c => [c])).getD defaultValue := by
  have position : sKeyList.idxOf? keySupllogEnabled = some 6 := by decide +kernel
  rw [getMnlProp, position]

theorem getMnlProp_supllog_off_iff (prop : Units) :
    getMnlProp prop keySupllogEnabled propValue0 = propValue0 ↔
      prop[6]? = none ∨ prop[6]? = some 0x30 := by
  rw [getMnlProp_supllog]
  cases prop[6]? with
  | none => simp
  | some unit => simp [propValue0]

theorem readersAgree_of_nonempty {value : PropertyValue} (present : value.text ≠ []) :
    ReadersAgree value ↔ SameSwitch value.text := by
  have stored : value.stored.chars ≠ [] := fun empty => present (encode_eq_nil_iff.mp empty)
  rw [ReadersAgree, ne_eq, ne_eq, not_iff_not, getProp_eq_zero_iff, getMnlProp_supllog_off_iff,
    SameSwitch]
  simp only [stored, false_or]
  rfl

theorem sameSwitch_of_plain {text : Units} (plain : ∀ unit ∈ text.take 6, IsPlain unit) :
    SameSwitch text ↔ 7 ≤ text.length := by
  constructor
  · intro same
    by_contra short
    have whole : text.take 6 = text := List.take_of_length_le (by omega)
    rw [whole] at plain
    have bytes : (encode text)[6]? = none :=
      List.getElem?_eq_none (by rw [encode_plain_length plain]; omega)
    have units : text[6]? = none := List.getElem?_eq_none (by omega)
    have contradiction := same.mpr (.inl units)
    rw [bytes] at contradiction
    cases contradiction
  · intro long
    have shifted := @encode_getElem_iff text 6 0x30 plain (by omega) (by decide) (by decide)
    rw [SameSwitch, shifted, List.getElem?_eq_getElem (by omega)]
    simp only [Option.map_some, Option.some.injEq, reduceCtorEq, false_or]
    exact ⟨fun same => UInt16.toNat_inj.mp same, fun same => congrArg UInt16.toNat same⟩

/-- The readers agree exactly on the unambiguous values. -/
theorem readers_agree_iff_unambiguous (value : PropertyValue) :
    ReadersAgree value ↔ Unambiguous value.text := by
  by_cases absent : value.text = []
  · refine iff_of_true ?_ (.inl absent)
    have stored : value.stored.chars = [] := encode_eq_nil_iff.mpr absent
    have off : getProp value.stored = 0 := (getProp_eq_zero_iff _).mpr (.inl stored)
    have byDefault : getMnlProp value.text keySupllogEnabled propValue0 = propValue0 :=
      (getMnlProp_supllog_off_iff _).mpr (.inl (by rw [absent]; rfl))
    exact iff_of_false (fun on => on off) (fun on => on byDefault)
  · rw [readersAgree_of_nonempty absent, Unambiguous]
    simp only [absent, false_or]
    by_cases plain : ∀ unit ∈ value.text.take 6, IsPlain unit
    · have one : ¬ ∃ unit ∈ value.text.take 6, ¬ IsPlain unit := by simpa using plain
      rw [sameSwitch_of_plain plain]
      simp only [one, false_and, or_false, and_iff_right plain]
    · have shifted : ∃ unit ∈ value.text.take 6, ¬ IsPlain unit := by simpa using plain
      simp only [plain, shifted, false_and, true_and, false_or]

/-- A value of one character: the HAL reads the byte behind its end. -/
def oneDigit : PropertyValue := ⟨[0x31], by decide⟩

theorem readers_disagree_on_one_digit :
    ¬ ∀ value : PropertyValue,
      getProp value.stored ≠ 0 ↔
        getMnlProp value.text keySupllogEnabled propValue0 ≠ propValue0 := by
  intro agree
  have on : getProp oneDigit.stored ≠ 0 := by decide
  exact (agree oneDigit).mp on (by decide +kernel)

end X5MaxDevice.Gps.MnlProperty
