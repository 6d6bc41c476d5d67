import Mathlib.Algebra.Order.Field.Basic
import Mathlib.Data.Rat.Floor
import Mathlib.Tactic.Linarith
import X5MaxDevice.Gps.EpoConfig
import X5MaxDevice.Gps.Reader

/-! Decimal numbers as they stand in the tokens of a sentence, and `strtod` on them. -/

namespace X5MaxDevice.Gps.Decimals

open X5MaxDevice.Gps.EpoConfig
open X5MaxDevice.Gps.Reader
open X5MaxDevice.Gps.Tokenizer

theorem ten_neZero : NeZero 10 := ⟨by decide⟩

/-- The last decimal digit of a number. -/
def lastDigit (n : Nat) : Fin 10 := @Fin.ofNat 10 ten_neZero n

def digitsText (digits : List (Fin 10)) : Bytes := digits.map digitByte

/-- A number with a decimal point; there may be no digit behind it. -/
structure Decimal where
  whole : List (Fin 10)
  fraction : List (Fin 10)
  present : whole ≠ []

def point : UInt8 := ascii '.'

def Decimal.text (d : Decimal) : Bytes := digitsText d.whole ++ point :: digitsText d.fraction

def Decimal.value (d : Decimal) : ℚ :=
  digitsValue d.whole + digitsValue d.fraction / 10 ^ d.fraction.length

/-- Numbers in decimal digits, with or without a point, are read exactly. -/
structure ExactDecimals (strtod : Bytes → ℚ) : Prop where
  pointed : ∀ d : Decimal, strtod d.text = d.value
  plain : ∀ digits : List (Fin 10), digits ≠ [] → strtod (digitsText digits) = digitsValue digits

def isDigit (b : UInt8) : Bool := 48 ≤ b && b ≤ 57

/-- The number at the front of a text, as `strtod` reads it when it has no sign and no exponent. -/
def leadingDecimal (text : Bytes) : ℚ :=
  let rest := text.dropWhile isDigit
  leadingDigits text +
    if rest.head? = some point then
      leadingDigits rest.tail / 10 ^ (rest.tail.takeWhile isDigit).length
    else 0

theorem isDigit_digitByte (digit : Fin 10) : isDigit (digitByte digit) = true := by
  have code := digitByte_toNat digit
  have small := digit.isLt
  simp only [isDigit, Bool.and_eq_true, decide_eq_true_eq, UInt8.le_iff_toNat_le]
  constructor
  · rw [code]
    exact Nat.le_add_right 48 _
  · rw [code]
    exact Nat.add_le_add_left (Nat.le_of_lt_succ small) 48

theorem isDigit_digitsText {digits : List (Fin 10)} :
    ∀ b ∈ digitsText digits, isDigit b = true := by
  intro b member
  obtain ⟨digit, -, rfl⟩ := List.mem_map.mp member
  exact isDigit_digitByte digit

theorem digitsText_length (digits : List (Fin 10)) : (digitsText digits).length = digits.length :=
  List.length_map _

theorem takeWhile_digitsText (digits : List (Fin 10)) {rest : Bytes}
    (stops : ∀ b ∈ rest.head?, isDigit b = false) :
    (digitsText digits ++ rest).takeWhile isDigit = digitsText digits ∧
      (digitsText digits ++ rest).dropWhile isDigit = rest := by
  rw [List.takeWhile_append_of_pos isDigit_digitsText, List.dropWhile_append_of_pos
    isDigit_digitsText]
  cases rest with
  | nil => simp
  | cons b rest =>
      have stopped := stops b rfl
      simp [stopped]

theorem foldl_digitsText (digits : List (Fin 10)) (n : Nat) :
    (digitsText digits).foldl (fun n b => n * 10 + (b.toNat - 48)) n =
      digits.foldl (fun value digit => value * 10 + digit.val) n := by
  induction digits generalizing n with
  | nil => rfl
  | cons digit digits ih =>
      have code : (digitByte digit).toNat - 48 = digit.val := by
        rw [digitByte_toNat]
        exact Nat.add_sub_cancel_left 48 digit.val
      rw [digitsText, List.map_cons, List.foldl_cons, code]
      exact ih _

theorem leadingDigits_digitsText (digits : List (Fin 10)) {rest : Bytes}
    (stops : ∀ b ∈ rest.head?, isDigit b = false) :
    leadingDigits (digitsText digits ++ rest) = digitsValue digits := by
  have taken := (takeWhile_digitsText digits stops).1
  rw [leadingDigits, show (fun b : UInt8 => 48 ≤ b && b ≤ 57) = isDigit from rfl]
  rw [taken, foldl_digitsText]
  rfl

theorem leadingDecimal_exact : ExactDecimals leadingDecimal := by
  have stops : ∀ b ∈ ([] : Bytes).head?, isDigit b = false := by simp
  constructor
  · intro d
    have pointed : ∀ b ∈ (point :: digitsText d.fraction).head?, isDigit b = false := by
      intro b same
      cases same
      decide
    have whole := leadingDigits_digitsText d.whole pointed
    have behind := (takeWhile_digitsText d.whole pointed).2
    have fraction := leadingDigits_digitsText d.fraction stops
    have taken := (takeWhile_digitsText d.fraction stops).1
    rw [List.append_nil] at fraction taken
    rw [leadingDecimal, Decimal.text]
    simp only [whole, behind, List.head?_cons, List.tail_cons, if_true, fraction, taken,
      digitsText_length]
    rfl
  · intro digits _
    have whole := leadingDigits_digitsText digits stops
    have behind := (takeWhile_digitsText digits stops).2
    rw [List.append_nil] at whole behind
    simp [leadingDecimal, whole, behind]

theorem digitsValue_lt (digits : List (Fin 10)) : digitsValue digits < 10 ^ digits.length := by
  induction digits using List.reverseRecOn with
  | nil => exact Nat.one_pos
  | append_singleton digits digit ih =>
      have small := digit.isLt
      rw [digitsValue_concat, List.length_append, List.length_singleton, Nat.pow_succ]
      omega

theorem digitsValue_eq_zero {digits : List (Fin 10)} (zero : digitsValue digits = 0) :
    ∀ digit ∈ digits, digit.val = 0 := by
  induction digits using List.reverseRecOn with
  | nil => simp
  | append_singleton digits last ih =>
      rw [digitsValue_concat] at zero
      intro digit member
      rcases List.mem_append.mp member with earlier | now
      · exact ih (by omega) digit earlier
      · rw [List.mem_singleton.mp now]
        omega

theorem digitsValue_zeros {digits : List (Fin 10)} (zeros : ∀ digit ∈ digits, digit.val = 0) :
    digitsValue digits = 0 := by
  induction digits using List.reverseRecOn with
  | nil => rfl
  | append_singleton digits last ih =>
      have earlier := ih (fun digit member => zeros digit (List.mem_append_left _ member))
      have now : last.val = 0 := zeros last (List.mem_append_right _ (List.mem_singleton.mpr rfl))
      rw [digitsValue_concat, earlier, now]

/-- More digits behind the first ones move them up. -/
theorem digitsValue_append (first second : List (Fin 10)) :
    digitsValue (first ++ second) =
      digitsValue first * 10 ^ second.length + digitsValue second := by
  induction second using List.reverseRecOn with
  | nil => simp [digitsValue]
  | append_singleton second digit ih =>
      rw [← List.append_assoc, digitsValue_concat, ih, digitsValue_concat, List.length_append,
        List.length_singleton, Nat.pow_succ]
      ring

/-- The part behind the point is less than one. -/
theorem fraction_range (digits : List (Fin 10)) :
    0 ≤ (digitsValue digits : ℚ) / 10 ^ digits.length ∧
      (digitsValue digits : ℚ) / 10 ^ digits.length < 1 := by
  have positive : (0 : ℚ) < 10 ^ digits.length := by positivity
  have below : (digitsValue digits : ℚ) < 10 ^ digits.length := by
    exact_mod_cast digitsValue_lt digits
  exact ⟨by positivity, (div_lt_one positive).mpr below⟩

theorem floor_value (d : Decimal) : ⌊d.value⌋ = digitsValue d.whole := by
  have range := fraction_range d.fraction
  rw [Decimal.value, Int.floor_eq_iff]
  constructor
  · push_cast
    linarith [range.1]
  · push_cast
    linarith [range.2]

theorem value_nonneg (d : Decimal) : 0 ≤ d.value := by
  rw [Decimal.value]
  positivity

/-- Rounding towards zero is rounding down for what is not negative. -/
theorem truncate_of_nonneg {x : ℚ} (nonneg : 0 ≤ x) : truncate x = ⌊x⌋ := by
  rw [truncate, Rat.floor_def', Int.tdiv_eq_ediv_of_nonneg (Rat.num_nonneg.mpr nonneg)]

end X5MaxDevice.Gps.Decimals
