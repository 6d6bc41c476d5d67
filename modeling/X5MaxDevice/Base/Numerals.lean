import Mathlib.Data.List.Basic
import Mathlib.Tactic.IntervalCases

/-! Numbers in the bytes of a text: decimal numerals, with a sign where there is one, and
hexadecimal numerals of fixed width. -/

namespace X5MaxDevice.Numerals

def ascii (c : Char) : UInt8 := UInt8.ofNat c.toNat

def bytes (text : String) : List UInt8 := text.toList.map ascii

def isDigit (b : UInt8) : Bool := 48 ≤ b && b ≤ 57

def isHexDigit (b : UInt8) : Bool := isDigit b || (65 ≤ b && b ≤ 70) || (97 ≤ b && b ≤ 102)

def natural (n : Nat) : List UInt8 := (Nat.toDigits 10 n).map ascii

def readNatural (text : List UInt8) : Nat :=
  Nat.ofDigitChars 10 (text.map fun b => Char.ofNat b.toNat) 0

def integer (n : Int) : List UInt8 :=
  (if n < 0 then [ascii '-'] else []) ++ natural n.natAbs

def hexDigit (upper : Bool) (d : Nat) : UInt8 :=
  if d < 10 then UInt8.ofNat (48 + d) else UInt8.ofNat ((if upper then 55 else 87) + d)

/-- The last `width` digits to the base 16. -/
def hexadecimal (upper : Bool) : (width n : Nat) → List UInt8
  | 0, _ => []
  | width + 1, n => hexadecimal upper width (n / 16) ++ [hexDigit upper (n % 16)]

theorem digit_codes {c : Char} (digit : c.isDigit = true) :
    isDigit (ascii c) = true ∧ Char.ofNat (ascii c).toNat = c := by
  have small : c.toNat ≤ 57 ∧ 48 ≤ c.toNat := by
    rw [Char.isDigit, Bool.and_eq_true, decide_eq_true_iff, decide_eq_true_iff] at digit
    exact ⟨digit.2, digit.1⟩
  have code : (ascii c).toNat = c.toNat := by
    rw [ascii, UInt8.toNat_ofNat']
    omega
  constructor
  · rw [isDigit, Bool.and_eq_true, decide_eq_true_iff, decide_eq_true_iff, UInt8.le_iff_toNat_le,
      UInt8.le_iff_toNat_le, code]
    exact ⟨small.2, small.1⟩
  · rw [code, Char.ofNat_toNat]

theorem isDigit_natural {n : Nat} {b : UInt8} (member : b ∈ natural n) : isDigit b = true := by
  rcases List.mem_map.mp member with ⟨c, inside, rfl⟩
  exact (digit_codes (Nat.isDigit_of_mem_toDigits (by decide) (by decide) inside)).1

/-- A numeral is read back. -/
theorem readNatural_natural (n : Nat) : readNatural (natural n) = n := by
  have chars : (natural n).map (fun b => Char.ofNat b.toNat) = Nat.toDigits 10 n := by
    calc
      _ = (Nat.toDigits 10 n).map ((fun b => Char.ofNat b.toNat) ∘ ascii) := List.map_map
      _ = (Nat.toDigits 10 n).map id := by
        apply List.map_congr_left
        intro c inside
        exact (digit_codes (Nat.isDigit_of_mem_toDigits (by decide) (by decide) inside)).2
      _ = Nat.toDigits 10 n := List.map_id _
  rw [readNatural, chars, Nat.ofDigitChars_ten_toDigits]

theorem natural_injective {n m : Nat} (same : natural n = natural m) : n = m := by
  rw [← readNatural_natural n, same, readNatural_natural]

theorem natural_length {n width : Nat} (some : 0 < width) (small : n < 10 ^ width) :
    (natural n).length ≤ width := by
  rwa [natural, List.length_map, Nat.length_toDigits_le_iff (by decide) some]

theorem integer_length {n : Int} {width : Nat} (some : 0 < width) (small : n.natAbs < 10 ^ width) :
    (integer n).length ≤ width + 1 := by
  have digits := natural_length some small
  rw [integer, List.length_append]
  split
  · rw [List.length_singleton]
    omega
  · rw [List.length_nil]
    omega

theorem isDigit_integer {n : Int} {b : UInt8} (member : b ∈ integer n) :
    b = ascii '-' ∨ isDigit b = true := by
  rcases List.mem_append.mp member with sign | digit
  · split at sign
    · exact Or.inl (List.mem_singleton.mp sign)
    · simp at sign
  · exact Or.inr (isDigit_natural digit)

/-- A sign is told from a digit. -/
theorem integer_injective {n m : Int} (same : integer n = integer m) : n = m := by
  have unsigned : ∀ k l : Nat, ascii '-' :: natural k ≠ natural l := by
    intro k l equal
    have first : ascii '-' ∈ natural l := by simp [← equal]
    exact absurd (isDigit_natural first) (by decide)
  by_cases left : n < 0
  · by_cases right : m < 0
    · simp only [integer, if_pos left, if_pos right, List.singleton_append, List.cons.injEq,
        true_and] at same
      have magnitude := natural_injective same
      omega
    · simp only [integer, if_pos left, if_neg right, List.singleton_append, List.nil_append] at same
      exact absurd same (unsigned _ _)
  · by_cases right : m < 0
    · simp only [integer, if_neg left, if_pos right, List.singleton_append, List.nil_append] at same
      exact absurd same.symm (unsigned _ _)
    · simp only [integer, if_neg left, if_neg right, List.nil_append] at same
      have magnitude := natural_injective same
      omega

theorem isHexDigit_hexDigit (upper : Bool) {d : Nat} (small : d < 16) :
    isHexDigit (hexDigit upper d) = true := by
  interval_cases d <;> revert upper <;> decide

theorem hexDigit_injective {upper : Bool} {d e : Nat} (left : d < 16) (right : e < 16)
    (same : hexDigit upper d = hexDigit upper e) : d = e := by
  have all : ∀ (upper : Bool) (d e : Fin 16), hexDigit upper d = hexDigit upper e → d = e := by
    decide
  exact congrArg Fin.val (all upper ⟨d, left⟩ ⟨e, right⟩ same)

theorem hexadecimal_length (upper : Bool) (width n : Nat) :
    (hexadecimal upper width n).length = width := by
  induction width generalizing n with
  | zero => rfl
  | succ width ih => rw [hexadecimal, List.length_append, ih, List.length_singleton]

theorem isHexDigit_hexadecimal {upper : Bool} {width n : Nat} {b : UInt8}
    (member : b ∈ hexadecimal upper width n) : isHexDigit b = true := by
  induction width generalizing n with
  | zero => simp [hexadecimal] at member
  | succ width ih =>
      rcases List.mem_append.mp member with leading | last
      · exact ih leading
      · rw [List.mem_singleton.mp last]
        exact isHexDigit_hexDigit upper (Nat.mod_lt n (by decide))

theorem hexadecimal_injective {upper : Bool} {width n m : Nat} (left : n < 16 ^ width)
    (right : m < 16 ^ width) (same : hexadecimal upper width n = hexadecimal upper width m) :
    n = m := by
  induction width generalizing n m with
  | zero => omega
  | succ width ih =>
      rcases List.append_inj' same rfl with ⟨leading, last⟩
      have high : n / 16 = m / 16 := ih (by omega) (by omega) leading
      have low : n % 16 = m % 16 :=
        hexDigit_injective (Nat.mod_lt n (by decide)) (Nat.mod_lt m (by decide))
          (List.singleton_inj.mp last)
      omega

end X5MaxDevice.Numerals
