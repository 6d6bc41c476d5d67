import X5MaxDevice.Gps.Decimals

/-! What `str2int` makes of every token, with an overflow of its accumulation as an outcome of
its own. -/

namespace X5MaxDevice.Gps.TokenIntegers

open X5MaxDevice.Gps.Decimals
open X5MaxDevice.Gps.EpoConfig (minus signText signed digitByte digitByte_toNat digitsValue)
open X5MaxDevice.Gps.Tokenizer hiding str2int str2intLoop

def intMax : Int := 2 ^ 31 - 1

/-- How the loop is left early: at `Fail`, or with an overflow, which C leaves undefined. -/
inductive Stop where
  | fail
  | overflow
  deriving DecidableEq, Repr

def str2intLoop (result : Int) : Bytes → Except Stop Int
  | [] => .ok result
  | p :: rest =>
      let c : Int := p.toNat - 48
      if c < 0 ∨ 10 ≤ c then .error .fail
      else if intMax < result * 10 + c then .error .overflow
      else str2intLoop (result * 10 + c) rest

def signedResult (sign : Int) (loop : Except Stop Int) : Option Int :=
  match loop with
  | .ok result => some (sign * result)
  | .error .fail => some (-1)
  | .error .overflow => none

/-- `behind` is the byte at `end`, which is read when the token is empty. -/
def str2int (token : Token) (behind : UInt8) : Option Int :=
  if (token ++ [behind]).head? = some minus then signedResult (-1) (str2intLoop 0 token.tail)
  else signedResult 1 (str2intLoop 0 token)

/-- An optional minus sign and at least one digit. -/
def Denotes (token : Token) (n : Int) : Prop :=
  ∃ negative digits, digits ≠ [] ∧ token = signText negative ++ digitsText digits ∧
    n = signed negative (digitsValue digits)

def FitsInt (n : Int) : Prop := -2 ^ 31 ≤ n ∧ n < 2 ^ 31

/-- Without overflow, the result is what the token denotes, 0 for nothing, and -1 otherwise. -/
structure Converts (token : Token) (outcome : Option Int) : Prop where
  empty : token = [] → outcome = some 0
  integer : ∀ n, Denotes token n → FitsInt n → outcome = some n
  other : token ≠ [] → (¬ ∃ n, Denotes token n ∧ FitsInt n) → outcome = some (-1)

def withoutSign (token : Token) : Bytes := if token.head? = some minus then token.tail else token

def runValue (n : Nat) (digits : Bytes) : Nat :=
  digits.foldl (fun n b => n * 10 + (b.toNat - 48)) n

/-- The token is not a lone minus sign, and the digits at its front stay in an `int`. -/
def InRange (token : Token) : Prop :=
  token ≠ [minus] ∧ (runValue 0 ((withoutSign token).takeWhile isDigit) : Int) ≤ intMax

instance (token : Token) : Decidable (InRange token) := inferInstanceAs (Decidable (_ ∧ _))

theorem isDigit_iff (b : UInt8) : isDigit b = true ↔ 48 ≤ b.toNat ∧ b.toNat ≤ 57 := by
  rw [isDigit, Bool.and_eq_true, decide_eq_true_eq, decide_eq_true_eq, UInt8.le_iff_toNat_le,
    UInt8.le_iff_toNat_le]
  rfl

theorem le_runValue (n : Nat) (digits : Bytes) : n ≤ runValue n digits := by
  induction digits generalizing n with
  | nil => exact Nat.le_refl n
  | cons b digits ih =>
      have next : n ≤ n * 10 + (b.toNat - 48) := by omega
      exact next.trans (ih _)

/-- The loop overflows exactly when the digits at the front are too many, and otherwise fails at
the first other character. -/
theorem str2intLoop_eq (text : Bytes) {n : Nat} (small : (n : Int) ≤ intMax) :
    str2intLoop n text =
      if intMax < runValue n (text.takeWhile isDigit) then .error .overflow
      else if text.all isDigit then .ok (runValue n text) else .error .fail := by
  induction text generalizing n with
  | nil =>
      have within : ¬ intMax < (n : Int) := by omega
      simp [str2intLoop, runValue, within]
  | cons b text ih =>
      rw [str2intLoop]
      by_cases digit : isDigit b = true
      · have range := (isDigit_iff b).mp digit
        have value : (n : Int) * 10 + (b.toNat - 48) = (n * 10 + (b.toNat - 48) : Nat) := by omega
        have inside : ¬ ((b.toNat : Int) - 48 < 0 ∨ 10 ≤ (b.toNat : Int) - 48) := by omega
        have more : runValue n (b :: text.takeWhile isDigit) =
            runValue (n * 10 + (b.toNat - 48)) (text.takeWhile isDigit) := rfl
        simp only [List.takeWhile_cons, digit, if_true, List.all_cons, Bool.true_and, inside,
          if_false, value, more]
        by_cases large : intMax < (n * 10 + (b.toNat - 48) : Nat)
        · have grown := le_runValue (n * 10 + (b.toNat - 48)) (text.takeWhile isDigit)
          rw [if_pos large, if_pos (by omega)]
        · rw [if_neg large, ih (by omega)]
          rfl
      · have range := (isDigit_iff b).not.mp digit
        have outside : (b.toNat : Int) - 48 < 0 ∨ 10 ≤ (b.toNat : Int) - 48 := by omega
        have within : ¬ intMax < (n : Int) := by omega
        rw [if_pos outside]
        simp [digit, runValue, within]

theorem str2int_eq (token : Token) (behind : UInt8) (present : token ≠ []) :
    str2int token behind =
      signedResult (if token.head? = some minus then -1 else 1)
        (str2intLoop 0 (withoutSign token)) := by
  have first : (token ++ [behind]).head? = token.head? := by
    cases token with
    | nil => exact absurd rfl present
    | cons b token => rfl
  rw [str2int, first, withoutSign]
  by_cases negative : token.head? = some minus
  · simp only [negative, if_true]
  · simp only [negative, if_false]

theorem str2int_nil (behind : UInt8) : str2int [] behind = some 0 := by
  rw [str2int]
  split
  · rfl
  · rfl

theorem exists_digits {text : Bytes} (plain : text.all isDigit = true) :
    ∃ digits, text = digitsText digits := by
  induction text with
  | nil => exact ⟨[], rfl⟩
  | cons b text ih =>
      rw [List.all_cons, Bool.and_eq_true] at plain
      rcases ih plain.2 with ⟨digits, rfl⟩
      have range := (isDigit_iff b).mp plain.1
      refine ⟨⟨b.toNat - 48, by omega⟩ :: digits, ?_⟩
      have code : digitByte ⟨b.toNat - 48, by omega⟩ = b := by
        rw [← UInt8.toNat_inj, digitByte_toNat]
        dsimp only
        omega
      rw [digitsText, digitsText, List.map_cons, code]

theorem digitsText_head (digits : List (Fin 10)) : (digitsText digits).head? ≠ some minus := by
  intro sign
  have digit := isDigit_digitsText minus (List.mem_of_mem_head? sign)
  revert digit
  decide

/-- What a token denotes, by its first byte and the rest. -/
theorem denotes_iff {token : Token} {n : Int} :
    Denotes token n ↔
      withoutSign token ≠ [] ∧ (withoutSign token).all isDigit = true ∧
        n = signed (decide (token.head? = some minus)) (runValue 0 (withoutSign token)) := by
  constructor
  · rintro ⟨negative, digits, some, rfl, rfl⟩
    have plain : (digitsText digits).all isDigit = true := List.all_eq_true.mpr isDigit_digitsText
    have present : digitsText digits ≠ [] := by simpa [digitsText] using some
    have value : runValue 0 (digitsText digits) = digitsValue digits := foldl_digitsText digits 0
    cases negative with
    | true =>
        have first : (signText true ++ digitsText digits).head? = Option.some minus := rfl
        have rest : withoutSign (signText true ++ digitsText digits) = digitsText digits := by
          rw [withoutSign, if_pos first]
          rfl
        rw [rest, value, first]
        exact ⟨present, plain, rfl⟩
    | false =>
        have first := digitsText_head digits
        have rest : withoutSign (signText false ++ digitsText digits) = digitsText digits := by
          rw [withoutSign]
          exact if_neg first
        have unsigned : decide ((signText false ++ digitsText digits).head? = Option.some minus) =
            false := decide_eq_false first
        rw [rest, value, unsigned]
        exact ⟨present, plain, rfl⟩
  · rintro ⟨present, plain, rfl⟩
    rcases exists_digits plain with ⟨digits, text⟩
    have value : runValue 0 (digitsText digits) = digitsValue digits := foldl_digitsText digits 0
    refine ⟨decide (token.head? = some minus), digits, ?_, ?_, ?_⟩
    · rintro rfl
      exact present text
    · rw [← text, withoutSign]
      by_cases sign : token.head? = some minus
      · rw [if_pos sign, decide_eq_true sign]
        exact (List.cons_head?_tail sign).symm
      · rw [if_neg sign, decide_eq_false sign]
        rfl
    · rw [text, value]

theorem withoutSign_eq_nil {token : Token} (present : token ≠ []) :
    withoutSign token = [] ↔ token = [minus] := by
  rw [withoutSign]
  by_cases sign : token.head? = some minus
  · rw [if_pos sign]
    constructor
    · intro none
      have whole := List.cons_head?_tail sign
      rw [none] at whole
      exact whole.symm
    · rintro rfl
      rfl
  · rw [if_neg sign]
    apply iff_of_false present
    rintro rfl
    exact sign rfl

theorem signed_fits (negative : Bool) {n : Nat} (small : (n : Int) ≤ intMax) :
    FitsInt (signed negative n) := by
  rw [intMax] at small
  cases negative with
  | true =>
      simp only [signed, if_true, FitsInt]
      omega
  | false =>
      simp only [signed, Bool.false_eq_true, if_false, FitsInt]
      omega

/-- A token is converted as it should be exactly when it is no lone minus sign and the digits
at its front stay in an `int`. -/
theorem str2int_converts_iff (token : Token) (behind : UInt8) :
    Converts token (str2int token behind) ↔ InRange token := by
  by_cases empty : token = []
  · subst empty
    apply iff_of_true
    · rw [str2int_nil]
      refine ⟨fun _ => rfl, ?_, fun present => absurd rfl present⟩
      intro n denotes
      exact absurd rfl (denotes_iff.mp denotes).1
    · decide
  · have zero : ((0 : Nat) : Int) ≤ intMax := by decide
    have loop := str2intLoop_eq (withoutSign token) zero
    have lone := withoutSign_eq_nil empty
    rw [str2int_eq token behind empty]
    rw [Nat.cast_zero] at loop
    rw [loop, InRange]
    by_cases large : intMax < runValue 0 ((withoutSign token).takeWhile isDigit)
    · rw [if_pos large]
      apply iff_of_false
      · intro converts
        by_cases fits : ∃ n, Denotes token n ∧ FitsInt n
        · rcases fits with ⟨n, denotes, fits⟩
          exact Option.some_ne_none n (converts.integer n denotes fits).symm
        · exact Option.some_ne_none (-1) (converts.other empty fits).symm
      · rintro ⟨-, within⟩
        omega
    · rw [if_neg large]
      have within : (runValue 0 ((withoutSign token).takeWhile isDigit) : Int) ≤ intMax := by omega
      cases plain : (withoutSign token).all isDigit with
      | false =>
          apply iff_of_true
          · refine ⟨fun none => absurd none empty, ?_, fun _ _ => rfl⟩
            intro n denotes
            exact absurd (plain.symm.trans (denotes_iff.mp denotes).2.1) (by decide)
          · refine ⟨?_, within⟩
            intro single
            rw [lone.mpr single] at plain
            exact absurd plain (by decide)
      | true =>
          rw [List.takeWhile_eq_self_iff.mpr (List.all_eq_true.mp plain)] at within
          have value : signedResult (if token.head? = some minus then -1 else 1)
              (.ok (runValue 0 (withoutSign token))) =
                some (signed (decide (token.head? = some minus)) (runValue 0 (withoutSign token))) := by
            by_cases sign : token.head? = some minus
            · simp [signedResult, signed, sign]
            · simp [signedResult, signed, sign]
          rw [if_pos rfl, value]
          by_cases single : token = [minus]
          · apply iff_of_false
            · intro converts
              have undenoted : ¬ ∃ n, Denotes token n ∧ FitsInt n := by
                rintro ⟨n, denotes, -⟩
                exact (denotes_iff.mp denotes).1 (lone.mpr single)
              have wrong := converts.other empty undenoted
              rw [single] at wrong
              exact absurd wrong (by decide)
            · exact fun right => right.1 single
          · rw [List.takeWhile_eq_self_iff.mpr (List.all_eq_true.mp plain)]
            have present : withoutSign token ≠ [] := fun none => single (lone.mp none)
            apply iff_of_true
            · constructor
              · exact fun none => absurd none empty
              · intro n denotes _
                rw [(denotes_iff.mp denotes).2.2]
              · intro _ undenoted
                exact absurd ⟨_, denotes_iff.mpr ⟨present, plain, rfl⟩, signed_fits _ within⟩
                  undenoted
            · exact ⟨single, within⟩

/-- A lone minus sign is 0. -/
theorem lone_minus_is_zero : ¬ ∀ (token : Token) (behind : UInt8), token.length ≤ 127 →
    Converts token (str2int token behind) := by
  intro converts
  have undenoted : ¬ ∃ n, Denotes [minus] n ∧ FitsInt n := by
    rintro ⟨n, denotes, -⟩
    exact (denotes_iff.mp denotes).1 rfl
  have wrong := (converts [minus] comma (by decide)).other (by decide) undenoted
  revert wrong
  decide

/-- Without overflow the loop that wraps its sums does the same. -/
theorem wrapping_loop (text : Bytes) {n : Int} (positive : 0 ≤ n)
    (defined : str2intLoop n text ≠ .error .overflow) :
    Tokenizer.str2intLoop n text = (str2intLoop n text).toOption := by
  induction text generalizing n with
  | nil => rfl
  | cons p text ih =>
      rw [str2intLoop] at defined ⊢
      rw [Tokenizer.str2intLoop]
      by_cases outside : (p.toNat : Int) - 48 < 0 ∨ 10 ≤ (p.toNat : Int) - 48
      · rw [if_pos outside, if_neg (by omega)]
        rfl
      · rw [if_neg outside] at defined ⊢
        rw [if_pos (by omega)]
        by_cases large : intMax < n * 10 + ((p.toNat : Int) - 48)
        · rw [if_pos large] at defined
          exact absurd rfl defined
        · rw [if_neg large] at defined ⊢
          have bounded : n * 10 + ((p.toNat : Int) - 48) < 2 ^ 31 := by
            rw [intMax] at large
            omega
          rw [int32_of_range (by omega) bounded]
          exact ih (by omega) defined

theorem str2intLoop_range {text : Bytes} {result : Int} (returned : str2intLoop 0 text = .ok result) :
    0 ≤ result ∧ result ≤ intMax := by
  have loop := str2intLoop_eq text (show ((0 : Nat) : Int) ≤ intMax by decide)
  rw [Nat.cast_zero, returned] at loop
  by_cases large : intMax < runValue 0 (text.takeWhile isDigit)
  · rw [if_pos large] at loop
    cases loop
  · rw [if_neg large] at loop
    cases plain : text.all isDigit with
    | false =>
        rw [plain] at loop
        cases loop
    | true =>
        rw [plain, if_pos rfl] at loop
        cases loop
        rw [List.takeWhile_eq_self_iff.mpr (List.all_eq_true.mp plain)] at large
        omega

theorem signedResult_wrapping {text : Bytes} {sign result : Int}
    (returned : signedResult sign (str2intLoop 0 text) = some result) :
    (∃ value, Tokenizer.str2intLoop 0 text = some value ∧ 0 ≤ value ∧ value ≤ intMax ∧
        result = sign * value) ∨
      (Tokenizer.str2intLoop 0 text = none ∧ result = -1) := by
  have wrapped := wrapping_loop text (Int.le_refl 0)
  cases loop : str2intLoop 0 text with
  | ok value =>
      rw [loop] at returned wrapped
      have range := str2intLoop_range loop
      exact Or.inl ⟨value, wrapped (by simp), range.1, range.2, (Option.some.inj returned).symm⟩
  | error stop =>
      rw [loop] at returned wrapped
      cases stop with
      | fail => exact Or.inr ⟨wrapped (by simp), (Option.some.inj returned).symm⟩
      | overflow => exact absurd returned.symm (Option.some_ne_none result)

/-- Where C says what `str2int` returns, the reading that wraps its sums returns it too. -/
theorem wrapping_agrees {token : Token} {behind : UInt8} {result : Int}
    (returned : str2int token behind = some result) : Tokenizer.str2int token = result := by
  by_cases empty : token = []
  · subst empty
    rw [str2int_nil] at returned
    exact Option.some.inj returned
  · rw [str2int_eq token behind empty, withoutSign] at returned
    by_cases sign : token.head? = some minus
    · rw [if_pos sign, if_pos sign] at returned
      have negative : token.head? = some (ascii '-') := sign
      rw [Tokenizer.str2int, if_pos negative]
      rcases signedResult_wrapping returned with ⟨value, loop, low, high, rfl⟩ | ⟨loop, rfl⟩
      · rw [intMax] at high
        rw [loop]
        dsimp only
        rw [int32_of_range (by omega) (by omega)]
        omega
      · rw [loop]
    · rw [if_neg sign, if_neg sign] at returned
      have unsigned : ¬ token.head? = some (ascii '-') := sign
      rw [Tokenizer.str2int, if_neg unsigned]
      rcases signedResult_wrapping returned with ⟨value, loop, -, -, rfl⟩ | ⟨loop, rfl⟩
      · rw [loop]
        exact (one_mul value).symm
      · rw [loop]

end X5MaxDevice.Gps.TokenIntegers
