import Mathlib.Data.Nat.Find
import X5MaxDevice.Base.Java

/-! Where a word first stands in a text, and decodings of bytes that keep the words of ASCII. -/

namespace X5MaxDevice.Decoding

open X5MaxDevice.Java

section Words

variable {α : Type}

/-- The word stands in the text between `front` and `back`, and nowhere before. -/
structure FirstIn (word text front back : List α) : Prop where
  split : text = front ++ word ++ back
  first : ∀ front' back', text = front' ++ word ++ back' → front.length ≤ front'.length

theorem exists_firstIn {word text : List α} (occurs : word <:+: text) :
    ∃ front back, FirstIn word text front back := by
  classical
  have starts : ∃ n, ∃ front back, text = front ++ word ++ back ∧ front.length = n := by
    obtain ⟨front, back, whole⟩ := occurs
    exact ⟨front.length, front, back, whole.symm, rfl⟩
  obtain ⟨front, back, whole, least⟩ := Nat.find_spec starts
  refine ⟨front, back, whole, fun front' back' whole' => ?_⟩
  rw [least]
  exact Nat.find_min' starts ⟨front', back', whole', rfl⟩

/-- Of two places where a word stands, the first begins the front of the other. -/
theorem FirstIn.front_prefix {word text front back front' back' : List α}
    (stands : FirstIn word text front back) (other : text = front' ++ word ++ back') :
    front <+: front' := by
  have order := stands.first front' back' other
  have left : front <+: text := ⟨word ++ back, by rw [stands.split, List.append_assoc]⟩
  have right : front' <+: text := ⟨word ++ back', by rw [other, List.append_assoc]⟩
  exact List.prefix_of_prefix_length_le left right order

/-- A word that stands first in a text stands first in any part that holds it there. -/
theorem FirstIn.within {word front back before inner behind after : List α}
    (stands : FirstIn word (before ++ inner ++ behind) (before ++ front) back)
    (split : inner = front ++ word ++ after) : FirstIn word inner front after := by
  refine ⟨split, fun front' back' other => ?_⟩
  have order := stands.first (before ++ front') (back' ++ behind) (by simp [other])
  rw [List.length_append, List.length_append] at order
  exact Nat.le_of_add_le_add_left order

end Words

theorem contains_iff_infix {text needle : JString} :
    contains text needle = true ↔ needle <:+: text := by
  induction text with
  | nil =>
      rw [contains, indexOf, List.infix_nil]
      cases needle with
      | nil => exact iff_of_true rfl rfl
      | cons c needle => exact iff_of_false Bool.false_ne_true (List.cons_ne_nil c needle)
  | cons c rest ih =>
      rw [contains_cons, Bool.or_eq_true, List.isPrefixOf_iff_prefix, ih, List.infix_cons_iff]

theorem indexOf_firstIn {text needle front back : JString}
    (stands : FirstIn needle text front back) : indexOf text needle = some front.length := by
  induction front generalizing text with
  | nil =>
      have starts : needle.isPrefixOf text = true :=
        List.isPrefixOf_iff_prefix.mpr ⟨back, stands.split.symm⟩
      rw [indexOf.eq_def, if_pos starts]
      rfl
  | cons c front ih =>
      have elsewhere : ¬ needle.isPrefixOf text = true := by
        intro starts
        obtain ⟨back', whole⟩ := List.isPrefixOf_iff_prefix.mp starts
        have order := stands.first [] back' whole.symm
        simp at order
      have later : FirstIn needle (front ++ needle ++ back) front back := by
        refine ⟨rfl, fun front' back' other => ?_⟩
        have order := stands.first (c :: front') back' (by simp [stands.split, other])
        rw [List.length_cons, List.length_cons] at order
        exact Nat.le_of_succ_le_succ order
      have found := ih later
      rw [indexOf.eq_def, if_neg elsewhere, stands.split]
      simp only [List.cons_append, found, Option.map_some, List.length_cons]

/-- The characters whose codes are the bytes. -/
def chars (bytes : List UInt8) : JString := bytes.map (fun b => Char.ofNat b.toNat)

def IsAscii (bytes : List UInt8) : Prop := ∀ b ∈ bytes, b.toNat < 128

/-- ASCII stands for itself, whatever stands around it, and nothing else decodes to it. -/
structure AsciiTransparent (decode : List UInt8 → JString) : Prop where
  empty : decode [] = []
  ascii : ∀ front b back, b.toNat < 128 →
    decode (front ++ b :: back) = decode front ++ Char.ofNat b.toNat :: decode back
  other : ∀ bytes, (∀ b ∈ bytes, 128 ≤ b.toNat) → ∀ c ∈ decode bytes, 128 ≤ c.toNat
  present : ∀ bytes, decode bytes = [] → bytes = []

theorem toNat_ofNat_byte (b : UInt8) : (Char.ofNat b.toNat).toNat = b.toNat := by
  have codes : ∀ n : Fin 256, (Char.ofNat n).toNat = n.val := by decide +kernel
  exact codes ⟨b.toNat, b.toNat_lt⟩

theorem char_injective {b b' : UInt8} (same : Char.ofNat b.toNat = Char.ofNat b'.toNat) :
    b = b' := by
  have codes := congrArg Char.toNat same
  rw [toNat_ofNat_byte, toNat_ofNat_byte] at codes
  exact UInt8.toNat_inj.mp codes

/-- Bytes are not in ASCII, or have a first byte that is. -/
theorem ascii_cases (bytes : List UInt8) :
    (∀ b ∈ bytes, 128 ≤ b.toNat) ∨
      ∃ front b back, bytes = front ++ b :: back ∧
        (∀ b ∈ front, 128 ≤ b.toNat) ∧ b.toNat < 128 := by
  induction bytes with
  | nil => exact Or.inl (fun b member => absurd member List.not_mem_nil)
  | cons b bytes ih =>
      by_cases small : b.toNat < 128
      · exact Or.inr ⟨[], b, bytes, rfl, fun b member => absurd member List.not_mem_nil, small⟩
      · rcases ih with high | ⟨front, first, back, rfl, high, low⟩
        · exact Or.inl (List.forall_mem_cons.mpr ⟨Nat.le_of_not_lt small, high⟩)
        · exact Or.inr ⟨b :: front, first, back, rfl,
            List.forall_mem_cons.mpr ⟨Nat.le_of_not_lt small, high⟩, low⟩

section Transparent

variable {decode : List UInt8 → JString} (transparent : AsciiTransparent decode)

include transparent

theorem decode_word {word : List UInt8} (ascii : IsAscii word) (back : List UInt8) :
    decode (word ++ back) = chars word ++ decode back := by
  induction word with
  | nil => rfl
  | cons b word ih =>
      have rest := ih (fun other member => ascii other (List.mem_cons_of_mem b member))
      have first := transparent.ascii [] b (word ++ back) (ascii b List.mem_cons_self)
      rw [transparent.empty, List.nil_append, List.nil_append, rest] at first
      exact first

theorem decode_around {word : List UInt8} (ascii : IsAscii word) (nonempty : word ≠ [])
    (front back : List UInt8) :
    decode (front ++ word ++ back) = decode front ++ chars word ++ decode back := by
  cases word with
  | nil => exact absurd rfl nonempty
  | cons b word =>
      have rest := decode_word transparent
        (fun other member => ascii other (List.mem_cons_of_mem b member)) back
      rw [List.append_assoc, List.cons_append, transparent.ascii _ _ _ (ascii b List.mem_cons_self),
        rest, List.append_assoc]
      rfl

/-- A character of ASCII comes from its byte, and the texts around it from the bytes around. -/
theorem split_at_ascii {bytes : List UInt8} {f rest : JString} {b : UInt8} (small : b.toNat < 128)
    (same : decode bytes = f ++ Char.ofNat b.toNat :: rest) :
    ∃ front back, bytes = front ++ b :: back ∧ decode front = f ∧ decode back = rest := by
  have code := toNat_ofNat_byte b
  induction length : bytes.length using Nat.strong_induction_on generalizing bytes f with
  | _ n ih =>
    rcases ascii_cases bytes with high | ⟨front, first, back, rfl, high, low⟩
    · have large := transparent.other bytes high (Char.ofNat b.toNat) (by simp [same])
      omega
    · rw [transparent.ascii _ _ _ low, List.append_eq_append_iff] at same
      rcases same with ⟨f', rfl, tail⟩ | ⟨g, whole, tail⟩
      · cases f' with
        | nil =>
            obtain ⟨equal, rfl⟩ := List.cons.inj tail
            obtain rfl := char_injective equal
            exact ⟨front, back, rfl, (List.append_nil _).symm, rfl⟩
        | cons c f' =>
            obtain ⟨rfl, later⟩ := List.cons.inj tail
            have shorter : back.length < n := by
              rw [← length, List.length_append, List.length_cons]
              omega
            obtain ⟨front', back', rfl, before, behind⟩ := ih _ shorter later rfl
            refine ⟨front ++ first :: front', back', by simp, ?_, behind⟩
            rw [transparent.ascii _ _ _ low, before]
      · cases g with
        | nil =>
            obtain ⟨equal, rfl⟩ := List.cons.inj tail
            obtain rfl := char_injective equal
            exact ⟨front, back, rfl, whole.trans (List.append_nil f), rfl⟩
        | cons c g =>
            obtain ⟨rfl, -⟩ := List.cons.inj tail
            have large := transparent.other front high (Char.ofNat b.toNat) (by simp [whole])
            omega

theorem split_at_word {word bytes : List UInt8} (ascii : IsAscii word) (nonempty : word ≠ [])
    {f r : JString} (same : decode bytes = f ++ chars word ++ r) :
    ∃ front back, bytes = front ++ word ++ back ∧ decode front = f ∧ decode back = r := by
  induction word generalizing bytes f with
  | nil => exact absurd rfl nonempty
  | cons b word ih =>
      have small := ascii b List.mem_cons_self
      rw [List.append_assoc] at same
      obtain ⟨front, back, rfl, before, behind⟩ := split_at_ascii transparent small same
      by_cases last : word = []
      · subst last
        exact ⟨front, back, by simp, before, behind⟩
      · have rest : IsAscii word := fun other member => ascii other (List.mem_cons_of_mem b member)
        have later : decode back = [] ++ chars word ++ r := behind
        obtain ⟨gap, back', rfl, blank, behind'⟩ := ih rest last later
        obtain rfl := transparent.present gap blank
        exact ⟨front, back', by simp, before, behind'⟩

theorem infix_decode_iff {word : List UInt8} (ascii : IsAscii word) (nonempty : word ≠ [])
    (bytes : List UInt8) : chars word <:+: decode bytes ↔ word <:+: bytes := by
  constructor
  · rintro ⟨f, r, same⟩
    obtain ⟨front, back, whole, -, -⟩ := split_at_word transparent ascii nonempty same.symm
    exact ⟨front, back, whole.symm⟩
  · rintro ⟨front, back, rfl⟩
    exact ⟨decode front, decode back, (decode_around transparent ascii nonempty front back).symm⟩

/-- A word of ASCII stands first in the text where it stands first in the bytes. -/
theorem firstIn_decode {word bytes front back : List UInt8} (ascii : IsAscii word)
    (nonempty : word ≠ []) (stands : FirstIn word bytes front back) :
    FirstIn (chars word) (decode bytes) (decode front) (decode back) := by
  refine ⟨by rw [stands.split, decode_around transparent ascii nonempty], fun f r same => ?_⟩
  obtain ⟨front', back', whole, rfl, -⟩ := split_at_word transparent ascii nonempty same
  obtain ⟨gap, rfl⟩ := stands.front_prefix whole
  cases gap with
  | nil => rw [List.append_nil]
  | cons b gap =>
      -- the gap begins with the word that stands first
      have small : b.toNat < 128 := by
        cases word with
        | nil => exact absurd rfl nonempty
        | cons w word =>
            have both := stands.split.symm.trans whole
            simp only [List.append_assoc, List.cons_append, List.append_cancel_left_eq,
              List.cons.injEq] at both
            rw [← both.1]
            exact ascii w List.mem_cons_self
      rw [transparent.ascii _ _ _ small, List.length_append]
      exact Nat.le_add_right _ _

end Transparent

theorem chars_transparent : AsciiTransparent chars where
  empty := rfl
  ascii front b back _ := List.map_append
  other bytes high c member := by
    obtain ⟨b, inside, rfl⟩ := List.mem_map.mp member
    rw [toNat_ofNat_byte]
    exact high b inside
  present bytes blank := List.map_eq_nil_iff.mp blank

end X5MaxDevice.Decoding
