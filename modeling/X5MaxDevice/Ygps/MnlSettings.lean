import Mathlib.Logic.Function.Basic
import X5MaxDevice.Gps.MnlProperty

/-! The MNL property as the map from keys to characters that the settings write and read. -/

namespace X5MaxDevice.Ygps.MnlSettings

open X5MaxDevice.Gps.MnlProperty
open X5MaxDevice.ModifiedUtf8

def defaultMnlProp : Units := [0x30, 0x30, 0x30, 0x31, 0x31, 0x30, 0x30, 0x31]

/-- `SystemProperties.set`; it throws on a value that the property store does not accept. -/
def store (text : Units) : Option PropertyValue :=
  if fits : (encode text).length < propertyValueMax then some ⟨text, fits⟩ else none

/-- The text that a character is put into. -/
def current (prop : PropertyValue) : Units := if prop.text = [] then defaultMnlProp else prop.text

/-- The property afterwards; `none` is an exception. -/
def setMnlProp (prop : PropertyValue) (key : String) (value : Units) : Option PropertyValue :=
  match sKeyList.idxOf? key with
  | none => some prop
  | some index =>
      if index < (current prop).length then
        match value with
        | [] => none
        | c :: _ => store ((current prop).set index c)
      else some prop

/-- An exception leaves the property as it was. -/
def after (prop : PropertyValue) (key : String) (value : Units) : PropertyValue :=
  (setMnlProp prop key value).getD prop

/-- The character of the default property for a key. -/
def defaultOf (key : String) : Units := getMnlProp defaultMnlProp key []

/-- The laws of a map: the key has the value, and the other keys keep theirs. -/
structure PutsLikeMap (prop : PropertyValue) (key : String) (value : UInt16) : Prop where
  same : ∀ defaultValue, getMnlProp (after prop key [value]).text key defaultValue =
    [value]
  others : ∀ other ∈ sKeyList, other ≠ key →
    getMnlProp (after prop key [value]).text other (defaultOf other) =
      getMnlProp prop.text other (defaultOf other)

/-- The property is absent, or has a character for the key that can be exchanged within the
capacity of the store. -/
def Settable (prop : PropertyValue) (key : String) (value : UInt16) : Prop :=
  prop.text = [] ∨ ∃ old, prop.text[sKeyList.idxOf key]? = some old ∧
    (encode prop.text).length + (encodeUnit value).length <
      propertyValueMax + (encodeUnit old).length

theorem idxOf_known {key : String} (known : key ∈ sKeyList) :
    sKeyList.idxOf? key = some (sKeyList.idxOf key) := by
  obtain ⟨index, found⟩ := Option.isSome_iff_exists.mp (List.isSome_idxOf?.mpr known)
  rw [List.idxOf_eq_getD_idxOf?, found, Option.getD_some]

theorem getMnlProp_known {key : String} (known : key ∈ sKeyList) (prop defaultValue : Units) :
    getMnlProp prop key defaultValue =
      (prop[sKeyList.idxOf key]?.map (fun c => [c])).getD defaultValue := by
  rw [getMnlProp, idxOf_known known]

theorem getMnlProp_unknown {key : String} (unknown : key ∉ sKeyList) (prop defaultValue : Units) :
    getMnlProp prop key defaultValue = defaultValue := by
  rw [getMnlProp, List.idxOf?_eq_none_iff.mpr unknown]

/-- With its character of the default property, a key reads as it is before a character is put. -/
theorem getMnlProp_current (prop : PropertyValue) (key : String) :
    getMnlProp (current prop) key (defaultOf key) = getMnlProp prop.text key (defaultOf key) := by
  rw [current]
  split
  · rename_i absent
    rw [absent, defaultOf]
    by_cases known : key ∈ sKeyList
    · rw [getMnlProp_known known, getMnlProp_known known, getMnlProp_known known]
      cases defaultMnlProp[sKeyList.idxOf key]? <;> rfl
    · rw [getMnlProp_unknown known, getMnlProp_unknown known, getMnlProp_unknown known]
  · rfl

theorem getMnlProp_set {key : String} (known : key ∈ sKeyList) {text : Units} {old : UInt16}
    (stands : text[sKeyList.idxOf key]? = some old) (value : UInt16) (other : String)
    (defaultValue : Units) :
    getMnlProp (text.set (sKeyList.idxOf key) value) other defaultValue =
      if other = key then [value] else getMnlProp text other defaultValue := by
  obtain ⟨inside, -⟩ := List.getElem?_eq_some_iff.mp stands
  split
  · rename_i same
    rw [same, getMnlProp_known known, List.getElem?_set_self inside]
    rfl
  · rename_i different
    by_cases listed : other ∈ sKeyList
    · have apart : sKeyList.idxOf key ≠ sKeyList.idxOf other :=
        fun equal => different ((List.idxOf_inj known).mp equal).symm
      rw [getMnlProp_known listed, getMnlProp_known listed, List.getElem?_set_ne apart]
    · rw [getMnlProp_unknown listed, getMnlProp_unknown listed]

/-- What a put character finds: the one it takes the place of, and room for itself. -/
theorem Settable.room {prop : PropertyValue} {key : String} (known : key ∈ sKeyList)
    {value : UInt16} (settable : Settable prop key value) :
    ∃ old, (current prop)[sKeyList.idxOf key]? = some old ∧
      (encode (current prop)).length + (encodeUnit value).length <
        propertyValueMax + (encodeUnit old).length := by
  rw [current]
  rcases settable with absent | ⟨old, stands, room⟩
  · have place : sKeyList.idxOf key < defaultMnlProp.length := List.idxOf_lt_length_of_mem known
    have wide := (encodeUnit_length value).2
    have length : (encode defaultMnlProp).length = 8 := by decide
    rw [if_pos absent]
    refine ⟨_, List.getElem?_eq_getElem place, ?_⟩
    rw [length, propertyValueMax]
    omega
  · have present : prop.text ≠ [] := by
      intro absent
      rw [absent] at stands
      cases stands
    rw [if_neg present]
    exact ⟨old, stands, room⟩

theorem after_text {prop : PropertyValue} {key : String} (known : key ∈ sKeyList) {value : UInt16}
    (settable : Settable prop key value) :
    (after prop key [value]).text =
      (current prop).set (sKeyList.idxOf key) value := by
  obtain ⟨old, stands, room⟩ := settable.room known
  obtain ⟨inside, -⟩ := List.getElem?_eq_some_iff.mp stands
  have length := encode_set_length stands value
  have fits : (encode ((current prop).set (sKeyList.idxOf key) value)).length <
      propertyValueMax := by omega
  rw [after, setMnlProp, idxOf_known known]
  dsimp only
  rw [if_pos inside, store, dif_pos fits]
  rfl

theorem getMnlProp_after {prop : PropertyValue} {key : String} (known : key ∈ sKeyList)
    {value : UInt16} (settable : Settable prop key value) (other : String) (defaultValue : Units) :
    getMnlProp (after prop key [value]).text other defaultValue =
      if other = key then [value] else getMnlProp (current prop) other defaultValue := by
  obtain ⟨old, stands, -⟩ := settable.room known
  rw [after_text known settable, getMnlProp_set known stands]

/-- Otherwise the property stays as it is. -/
theorem after_of_not_settable {prop : PropertyValue} {key : String} (known : key ∈ sKeyList)
    {value : UInt16} (refused : ¬ Settable prop key value) :
    after prop key [value] = prop := by
  rw [Settable, not_or] at refused
  obtain ⟨present, refused⟩ := refused
  rw [after, setMnlProp, idxOf_known known, current, if_neg present]
  dsimp only
  split
  · rename_i inside
    have stands := List.getElem?_eq_getElem inside
    have length := encode_set_length stands value
    have full : ¬ (encode (prop.text.set (sKeyList.idxOf key) value)).length <
        propertyValueMax := by
      intro fits
      exact refused ⟨_, stands, by omega⟩
    rw [store, dif_neg full]
    rfl
  · rfl

/-- Setting a key acts on the property as on a map exactly when the property is settable. -/
theorem puts_like_map_iff {key : String} (known : key ∈ sKeyList) (prop : PropertyValue)
    (value : UInt16) : PutsLikeMap prop key value ↔ Settable prop key value := by
  constructor
  · intro puts
    by_contra refused
    have same := puts.same
    rw [after_of_not_settable known refused] at same
    cases stands : prop.text[sKeyList.idxOf key]? with
    | none =>
        have byDefault := same []
        rw [getMnlProp_known known, stands] at byDefault
        cases byDefault
    | some old =>
        have kept := same []
        rw [getMnlProp_known known, stands] at kept
        obtain rfl : old = value := List.singleton_inj.mp kept
        have fits := prop.fits
        exact refused (Or.inr ⟨old, stands, by omega⟩)
  · intro settable
    refine ⟨fun defaultValue => ?_, fun other listed different => ?_⟩
    · rw [getMnlProp_after known settable, if_pos rfl]
    · rw [getMnlProp_after known settable, if_neg different, getMnlProp_current]

theorem empty_puts_like_map : PutsLikeMap ⟨[], by decide⟩ keyTestMode 0x31 :=
  (puts_like_map_iff (by decide +kernel) _ _).mpr (Or.inl rfl)

/-- A property that ends before the key. -/
theorem short_property_not_set :
    ¬ ∀ (prop : PropertyValue) (key : String) (value : UInt16), key ∈ sKeyList →
      PutsLikeMap prop key value := by
  intro puts
  have same := (puts ⟨[0x30, 0x30, 0x30], by decide⟩ keyTestMode 0x31 (by decide +kernel)).same []
  revert same
  decide +kernel

/-- The map that the property stands for. -/
def settings (prop : PropertyValue) (key : String) : Units :=
  getMnlProp prop.text key (defaultOf key)

/-- The property is absent, or has a character for each key. -/
def Complete (prop : PropertyValue) : Prop := prop.text = [] ∨ sKeyList.length ≤ prop.text.length

theorem settable_of_complete {prop : PropertyValue} (complete : Complete prop) {key : String}
    (known : key ∈ sKeyList) {value : UInt16} (plain : IsPlain value) :
    Settable prop key value := by
  refine complete.imp_right (fun long => ?_)
  have place : sKeyList.idxOf key < prop.text.length :=
    Nat.lt_of_lt_of_le (List.idxOf_lt_length_of_mem known) long
  have one : (encodeUnit value).length = 1 := by
    rw [encodeUnit_plain plain, List.length_singleton]
  have taken := (encodeUnit_length prop.text[sKeyList.idxOf key]).1
  have fits := prop.fits
  exact ⟨_, List.getElem?_eq_getElem place, by omega⟩

theorem settings_after {prop : PropertyValue} {key : String} (known : key ∈ sKeyList)
    {value : UInt16} (settable : Settable prop key value) :
    settings (after prop key [value]) =
      Function.update (settings prop) key [value] := by
  funext other
  rw [settings, getMnlProp_after known settable, getMnlProp_current, Function.update_apply,
    settings]

theorem complete_after {prop : PropertyValue} (complete : Complete prop) {key : String}
    (known : key ∈ sKeyList) {value : UInt16} (settable : Settable prop key value) :
    Complete (after prop key [value]) := by
  right
  rw [after_text known settable, List.length_set, current]
  rcases complete with absent | long
  · rw [if_pos absent]
    exact Nat.le_refl _
  · have present : prop.text ≠ [] := by
      intro absent
      rw [absent] at long
      exact absurd long (by decide)
    rw [if_neg present]
    exact long

/-- From an absent or complete property, any series of settings of one byte each has the effect
that it has on a map. -/
theorem settings_run {prop : PropertyValue} (complete : Complete prop)
    {series : List (String × UInt16)}
    (listed : ∀ setting ∈ series, setting.1 ∈ sKeyList ∧ IsPlain setting.2) :
    settings (series.foldl
        (fun prop setting => after prop setting.1 [setting.2]) prop) =
      series.foldl (fun (map : String → Units) setting => Function.update map setting.1 [setting.2])
        (settings prop) := by
  induction series generalizing prop with
  | nil => rfl
  | cons setting series ih =>
      obtain ⟨⟨known, plain⟩, others⟩ := List.forall_mem_cons.mp listed
      have settable := settable_of_complete complete known plain
      rw [List.foldl_cons, List.foldl_cons, ih (complete_after complete known settable) others,
        settings_after known settable]

end X5MaxDevice.Ygps.MnlSettings
