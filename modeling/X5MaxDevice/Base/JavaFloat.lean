import X5MaxDevice.Base.Java
import Mathlib.Algebra.Order.Field.Power
import Mathlib.Algebra.Order.Round
import Mathlib.Data.Int.Log
import Mathlib.Data.Rat.Floor
import Mathlib.Tactic.FieldSimp
import Mathlib.Tactic.Linarith
import Mathlib.Tactic.Positivity
import Mathlib.Tactic.Ring

/-! The Java types `float` and `double` as signed rational magnitudes, with the operations
and conversions that are used on them. -/

namespace X5MaxDevice.Java

inductive Floating where
  | nan
  | infinity (negative : Bool)
  | finite (negative : Bool) (magnitude : ℚ)
  deriving DecidableEq

/-- A binary format: the bits of a significand, the exponent of the smallest subnormal
number, and the power of two from which on magnitudes overflow. -/
structure BinaryFormat where
  precision : ℤ
  minExponent : ℤ
  overflow : ℤ

def binary32 : BinaryFormat := ⟨24, -149, 128⟩
def binary64 : BinaryFormat := ⟨53, -1074, 1024⟩

abbrev JFloat := Floating
abbrev JDouble := Floating

/-- The nearest integer, the even one of two that are equally near. -/
def roundEven (q : ℚ) : ℤ :=
  let low := ⌊q⌋
  if q - low < 1 / 2 then low
  else if 1 / 2 < q - low then low + 1
  else if low % 2 = 0 then low
  else low + 1

/-- The distance between neighbouring values of the format around a magnitude. -/
def BinaryFormat.spacing (format : BinaryFormat) (magnitude : ℚ) : ℚ :=
  (2 : ℚ) ^ max (Int.log 2 magnitude - (format.precision - 1)) format.minExponent

def BinaryFormat.round (format : BinaryFormat) (negative : Bool) (magnitude : ℚ) : Floating :=
  let rounded := roundEven (magnitude / format.spacing magnitude) * format.spacing magnitude
  if 2 ^ format.overflow ≤ rounded then .infinity negative else .finite negative rounded

def Floating.zero : Floating := .finite false 0

/-- The conversion of an integer to `float`. -/
def JFloat.ofInt (n : Int) : JFloat := binary32.round (decide (n < 0)) n.natAbs

/-- The conversion from `double` to `float`. -/
def JFloat.ofDouble : JDouble → JFloat
  | .finite negative magnitude => binary32.round negative magnitude
  | special => special

def Floating.neg : Floating → Floating
  | .nan => .nan
  | .infinity negative => .infinity (!negative)
  | .finite negative magnitude => .finite (!negative) magnitude

def Floating.mul (format : BinaryFormat) : Floating → Floating → Floating
  | .finite n₁ m₁, .finite n₂ m₂ => format.round (n₁ ^^ n₂) (m₁ * m₂)
  | .infinity n₁, .infinity n₂ => .infinity (n₁ ^^ n₂)
  | .infinity n₁, .finite n₂ m₂ => if m₂ = 0 then .nan else .infinity (n₁ ^^ n₂)
  | .finite n₁ m₁, .infinity n₂ => if m₁ = 0 then .nan else .infinity (n₁ ^^ n₂)
  | _, _ => .nan

/-- The comparison with zero by `>`. -/
def Floating.isPositive : Floating → Bool
  | .nan => false
  | .infinity negative => !negative
  | .finite negative magnitude => !negative && decide (0 < magnitude)

/-- The comparison with zero by `<`. -/
def Floating.isNegative (value : Floating) : Bool := value.neg.isPositive

/-- The conversion to an integer type: towards zero, to the nearest bound, and 0 for a NaN. -/
def Floating.toInteger (bits : Nat) : Floating → Int
  | .nan => 0
  | .infinity negative => if negative then -2 ^ (bits - 1) else 2 ^ (bits - 1) - 1
  | .finite negative magnitude =>
      if negative then max (-2 ^ (bits - 1)) (-⌊magnitude⌋) else min (2 ^ (bits - 1) - 1) ⌊magnitude⌋

/-- `String.trim` drops all characters up to the blank at both ends. -/
def trim (text : JString) : JString :=
  (text.dropWhile (fun c => c.toNat ≤ 32)).rdropWhile (fun c => c.toNat ≤ 32)

def decimalDigit (c : Char) : Option Nat := if c.isDigit then some (c.toNat - 48) else none

def hexDigit (c : Char) : Option Nat :=
  if c.isDigit then some (c.toNat - 48)
  else if 'a' ≤ c ∧ c ≤ 'f' then some (c.toNat - 87)
  else if 'A' ≤ c ∧ c ≤ 'F' then some (c.toNat - 55)
  else none

/-- The value of the leading digits, their number, and the text behind them. -/
def scanDigits (digitOf : Char → Option Nat) (base value count : Nat) :
    JString → Nat × Nat × JString
  | [] => (value, count, [])
  | c :: rest => match digitOf c with
    | some d => scanDigits digitOf base (value * base + d) (count + 1) rest
    | none => (value, count, c :: rest)

/-- Digits with at most one point among them, and at least one digit. -/
def significand (digitOf : Char → Option Nat) (base : Nat) (text : JString) :
    Option (ℚ × JString) :=
  let (whole, wholeCount, behindWhole) := scanDigits digitOf base 0 0 text
  match behindWhole with
  | '.' :: fraction =>
      let (value, count, rest) := scanDigits digitOf base whole 0 fraction
      if wholeCount + count = 0 then none else some ((value : ℚ) / (base : ℚ) ^ count, rest)
  | rest => if wholeCount = 0 then none else some ((whole : ℚ), rest)

def signedInteger (text : JString) : Option (Int × JString) :=
  let unsigned (body : JString) : Option (Nat × JString) :=
    let (value, count, rest) := scanDigits decimalDigit 10 0 0 body
    if count = 0 then none else some (value, rest)
  match text with
  | '-' :: body => (unsigned body).map (fun (value, rest) => (-(value : Int), rest))
  | '+' :: body => (unsigned body).map (fun (value, rest) => ((value : Int), rest))
  | body => (unsigned body).map (fun (value, rest) => ((value : Int), rest))

/-- An optional type suffix and the end of the text. -/
def ended : JString → Bool
  | [] => true
  | [c] => "fFdD".toList.contains c
  | _ => false

def decimalLiteral (text : JString) : Option ℚ := do
  let (value, rest) ← significand decimalDigit 10 text
  match rest with
  | c :: exponent =>
      if c = 'e' ∨ c = 'E' then
        let (power, rest) ← signedInteger exponent
        if ended rest then some (value * 10 ^ power) else none
      else if ended rest then some value else none
  | [] => some value

/-- The text behind `0x`; the binary exponent is not optional. -/
def hexLiteral (text : JString) : Option ℚ := do
  let (value, rest) ← significand hexDigit 16 text
  match rest with
  | c :: exponent =>
      if c = 'p' ∨ c = 'P' then
        let (power, rest) ← signedInteger exponent
        if ended rest then some (value * 2 ^ power) else none
      else none
  | [] => none

def literal : JString → Option ℚ
  | '0' :: 'x' :: text => hexLiteral text
  | '0' :: 'X' :: text => hexLiteral text
  | text => decimalLiteral text

/-- The value that a text denotes in a format; a text without one throws. -/
def parseFloating (format : BinaryFormat) (text : JString) : Except Exception Floating :=
  let unsigned (negative : Bool) (body : JString) : Except Exception Floating :=
    if body = "NaN".toList then .ok .nan
    else if body = "Infinity".toList then .ok (.infinity negative)
    else match literal body with
      | some magnitude => .ok (format.round negative magnitude)
      | none => .error .numberFormat
  match trim text with
  | '-' :: body => unsigned true body
  | '+' :: body => unsigned false body
  | body => unsigned false body

def parseFloat : JString → Except Exception JFloat := parseFloating binary32

def parseDouble : JString → Except Exception JDouble := parseFloating binary64

theorem roundEven_intCast (n : Int) : roundEven (n : ℚ) = n := by
  simp [roundEven]

/-- The integers of at most 24 bits are `float` values. -/
theorem round_binary32_of_small (negative : Bool) {n : Nat} (small : n ≤ 2 ^ 24) :
    binary32.round negative n = .finite negative n := by
  by_cases zero : n = 0
  · subst zero
    have even : roundEven 0 = 0 := by simpa using roundEven_intCast 0
    simp [BinaryFormat.round, binary32, even]
  · have log : Int.log 2 (n : ℚ) = (Nat.log 2 n : ℤ) := Int.log_natCast 2 n
    have atMost : Nat.log 2 n ≤ 24 := by
      calc
        Nat.log 2 n ≤ Nat.log 2 (2 ^ 24) := Nat.log_mono_right small
        _ = 24 := Nat.log_pow (by decide) 24
    -- a number of 25 bits in this range is 2 ^ 24, an even multiple of the spacing
    have whole : ∃ k : ℤ, (n : ℚ) / binary32.spacing n = k := by
      by_cases top : Nat.log 2 n = 24
      · have least : 2 ^ 24 ≤ n := by
          rw [← top]
          exact Nat.pow_log_le_self 2 zero
        have exact : n = 2 ^ 24 := le_antisymm small least
        refine ⟨2 ^ 23, ?_⟩
        rw [BinaryFormat.spacing, binary32, log, top, exact]
        norm_num
      · have fine : max ((Nat.log 2 n : ℤ) - (24 - 1)) (-149) ≤ 0 := by omega
        refine ⟨n * 2 ^ (-max ((Nat.log 2 n : ℤ) - (24 - 1)) (-149)).toNat, ?_⟩
        rw [BinaryFormat.spacing, binary32, log, div_eq_mul_inv, ← zpow_neg]
        push_cast
        rw [← zpow_natCast, Int.toNat_of_nonneg (by omega)]
    obtain ⟨k, division⟩ := whole
    have positive : binary32.spacing n ≠ 0 := by
      rw [BinaryFormat.spacing]
      positivity
    have restored : (k : ℚ) * binary32.spacing n = n := by
      rw [← division]
      exact div_mul_cancel₀ _ positive
    have below : ¬ (2 : ℚ) ^ binary32.overflow ≤ n := by
      have : (n : ℚ) ≤ 2 ^ 24 := by exact_mod_cast small
      have : (2 : ℚ) ^ 24 < (2 : ℚ) ^ (128 : ℤ) := by norm_num
      simp only [binary32]
      linarith
    simp only [BinaryFormat.round, division, roundEven_intCast, restored, if_neg below]

theorem JFloat.ofInt_of_small {n : Int} (small : n.natAbs ≤ 2 ^ 24) :
    JFloat.ofInt n = .finite (decide (n < 0)) n.natAbs :=
  round_binary32_of_small _ small

theorem scanDigits_of_isDigit {text : JString} (ascii : ∀ c ∈ text, c.isDigit = true)
    (value count : Nat) :
    scanDigits decimalDigit 10 value count text =
      (Nat.ofDigitChars 10 text value, count + text.length, []) := by
  induction text generalizing value count with
  | nil => simp [scanDigits]
  | cons c rest ih =>
      have next := ih (fun other member => ascii other (List.mem_cons_of_mem c member))
        (value * 10 + (c.toNat - 48)) (count + 1)
      have isDigit : decimalDigit c = some (c.toNat - 48) := if_pos (ascii c List.mem_cons_self)
      have shifted : count + 1 + rest.length = count + (rest.length + 1) := by omega
      simp only [scanDigits, isDigit, next, Nat.ofDigitChars_cons, Nat.mul_comm, List.length_cons,
        shifted, Char.reduceToNat]

theorem literal_of_digits {text : JString} (nonempty : text ≠ [])
    (ascii : ∀ c ∈ text, c.isDigit = true) :
    literal text = some (Nat.ofDigitChars 10 text 0 : ℚ) := by
  have counted : text.length ≠ 0 := by simpa using nonempty
  have decimal : decimalLiteral text = some (Nat.ofDigitChars 10 text 0 : ℚ) := by
    simp [decimalLiteral, significand, scanDigits_of_isDigit ascii, counted]
  unfold literal
  split
  · exact absurd (ascii 'x' (by simp)) (by decide)
  · exact absurd (ascii 'X' (by simp)) (by decide)
  · exact decimal

theorem trim_of_visible {text : JString} (visible : ∀ c ∈ text, 32 < c.toNat) :
    trim text = text := by
  have kept (c : Char) (member : c ∈ text) : ¬ (decide (c.toNat ≤ 32) = true) := by
    have := visible c member
    simpa using this
  have left : text.dropWhile (fun c => decide (c.toNat ≤ 32)) = text := by
    rw [List.dropWhile_eq_self_iff]
    exact fun inside => kept _ (List.getElem_mem inside)
  rw [trim, left, List.rdropWhile_eq_self_iff]
  exact fun nonempty => kept _ (List.getLast_mem nonempty)

theorem visible_of_isDigit {c : Char} (isDigit : c.isDigit = true) : 32 < c.toNat := by
  simp only [Char.isDigit, Bool.and_eq_true, decide_eq_true_eq, UInt32.le_iff_toNat_le] at isDigit
  have : 48 ≤ c.toNat := isDigit.1
  omega

/-- A numeral of ASCII digits, with or without a minus sign, is read as its rounded value. -/
theorem parseFloating_of_digits (format : BinaryFormat) {text : JString} (nonempty : text ≠ [])
    (ascii : ∀ c ∈ text, c.isDigit = true) :
    parseFloating format text = .ok (format.round false (Nat.ofDigitChars 10 text 0)) ∧
      parseFloating format ('-' :: text) =
        .ok (format.round true (Nat.ofDigitChars 10 text 0)) := by
  have visible : ∀ c ∈ text, 32 < c.toNat := fun c member => visible_of_isDigit (ascii c member)
  have plain : trim text = text := trim_of_visible visible
  have signed : trim ('-' :: text) = '-' :: text := by
    apply trim_of_visible
    intro c member
    rcases List.mem_cons.mp member with rfl | later
    · decide
    · exact visible c later
  have unnamed : text ≠ "NaN".toList ∧ text ≠ "Infinity".toList := by
    constructor <;> rintro rfl
    · exact absurd (ascii 'N' (by decide)) (by decide)
    · exact absurd (ascii 'I' (by decide)) (by decide)
  have value := literal_of_digits nonempty ascii
  constructor
  · unfold parseFloating
    rw [plain]
    split
    · exact absurd (ascii '-' (by simp)) (by decide)
    · exact absurd (ascii '+' (by simp)) (by decide)
    · simp only [if_neg unnamed.1, if_neg unnamed.2, value]
  · unfold parseFloating
    rw [signed]
    simp only [if_neg unnamed.1, if_neg unnamed.2, value]

end X5MaxDevice.Java
