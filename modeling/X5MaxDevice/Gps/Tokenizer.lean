import Mathlib.Algebra.Group.Int.Defs
import Mathlib.Algebra.Group.Nat.Defs
import Mathlib.Data.Int.Basic
import Mathlib.Data.List.TakeWhile
import Mathlib.Data.Rat.Defs

/-! The NMEA tokenizer and the number conversions of the GPS HAL. -/

namespace X5MaxDevice.Gps.Tokenizer

abbrev Bytes := List UInt8

def ascii (c : Char) : UInt8 := UInt8.ofNat c.toNat

def bytes (text : String) : Bytes := text.toList.map ascii

def comma : UInt8 := ascii ','
def newline : UInt8 := ascii '\n'

/-- A C `int`: signed overflow is modelled as wrapping. -/
def int32 (n : Int) : Int := n.bmod (2 ^ 32)

theorem int32_of_range {n : Int} (low : -2 ^ 31 ≤ n) (high : n < 2 ^ 31) : int32 n = n := by
  rw [int32]
  apply Int.bmod_eq_of_le <;> omega

/-- The bytes from `p` to `end`. The byte behind an empty token is a comma or NUL, so no test
on `p[0]` takes it for a sign or a letter. -/
abbrev Token := Bytes

def maxNmeaTokens : Nat := 24

structure NmeaTokenizer where
  tokens : List Token
  bounded : tokens.length ≤ maxNmeaTokens
  deriving DecidableEq, Repr

def dropDollar (p : Bytes) : Bytes := if p.head? = some (ascii '$') then p.tail else p

def dropNewline (p : Bytes) : Bytes :=
  if p.getLast? = some newline then
    if p.dropLast.getLast? = some (ascii '\r') then p.dropLast.dropLast else p.dropLast
  else p

def dropChecksum (p : Bytes) : Bytes :=
  if 3 ≤ p.length ∧ p[p.length - 3]? = some (ascii '*') then p.take (p.length - 3) else p

def inField (b : UInt8) : Bool := b != comma

/-- The loop of `nmea_tokenizer_init`; each turn consumes at least one byte. -/
def tokenLoop : Nat → Bytes → List Token
  | 0, _ => []
  | fuel + 1, p =>
      if p = [] then []
      else p.takeWhile inField :: tokenLoop fuel ((p.dropWhile inField).drop 1)

def sentenceBody (sentence : Bytes) : Bytes :=
  dropChecksum (dropNewline (dropDollar sentence))

def nmeaTokenizerInit (sentence : Bytes) : NmeaTokenizer :=
  let p := sentenceBody sentence
  ⟨(tokenLoop p.length p).take maxNmeaTokens, List.length_take_le _ _⟩

def NmeaTokenizer.get (t : NmeaTokenizer) (index : Int) : Token :=
  if index < 0 ∨ t.tokens.length ≤ index then [] else t.tokens.getD index.toNat []

def str2intLoop (result : Int) : Bytes → Option Int
  | [] => some result
  | p :: rest =>
      let c : Int := p.toNat - 48
      if 0 ≤ c ∧ c < 10 then str2intLoop (int32 (result * 10 + c)) rest else none

def str2int (token : Token) : Int :=
  if token.head? = some (ascii '-') then
    match str2intLoop 0 token.tail with
    | some result => int32 (-result)
    | none => -1
  else
    match str2intLoop 0 token with
    | some result => result
    | none => -1

/-- Tokens that do not fit the 16-byte buffer count as 0. -/
def str2float (strtod : Bytes → ℚ) (token : Token) : ℚ :=
  if 16 ≤ token.length then 0 else strtod token

theorem inField_of_plain {field : Bytes} (plain : comma ∉ field) :
    ∀ b ∈ field, inField b = true := by
  intro b member
  simp only [inField, bne_iff_ne, ne_eq]
  intro same
  exact plain (same ▸ member)

theorem tokenLoop_field {field rest : Bytes} (fuel : Nat) (plain : comma ∉ field) :
    tokenLoop (fuel + 1) (field ++ comma :: rest) = field :: tokenLoop fuel rest := by
  have passed := inField_of_plain plain
  have stopped : inField comma = false := by decide
  simp [tokenLoop, List.takeWhile_append_of_pos passed, List.dropWhile_append_of_pos passed,
    stopped]

theorem tokenLoop_last {field : Bytes} (fuel : Nat) (plain : comma ∉ field)
    (present : field ≠ []) : tokenLoop (fuel + 1) field = [field] := by
  have passed := inField_of_plain plain
  have taken : field.takeWhile inField = field := List.takeWhile_eq_self_iff.mpr passed
  have dropped : field.dropWhile inField = [] := List.dropWhile_eq_nil_iff.mpr passed
  cases fuel <;> simp [tokenLoop, present, taken, dropped]

theorem tokenLoop_nil (fuel : Nat) : tokenLoop fuel [] = [] := by
  cases fuel <;> rfl

/-- Joined fields come back, when the last one is not empty. -/
theorem tokenLoop_intercalate {fields : List Token} (fuel : Nat)
    (plain : ∀ field ∈ fields, comma ∉ field) (ended : fields.getLast? ≠ some [])
    (enough : fields.length ≤ fuel) :
    tokenLoop fuel ([comma].intercalate fields) = fields := by
  induction fields generalizing fuel with
  | nil => exact tokenLoop_nil fuel
  | cons field fields ih =>
      have first : comma ∉ field := plain field List.mem_cons_self
      have later : ∀ other ∈ fields, comma ∉ other :=
        fun other member => plain other (List.mem_cons_of_mem _ member)
      cases fuel with
      | zero => simp at enough
      | succ fuel =>
          cases fields with
          | nil =>
              have present : field ≠ [] := by simpa using ended
              simpa [List.intercalate] using tokenLoop_last fuel first present
          | cons second fields =>
              have joined : [comma].intercalate (field :: second :: fields) =
                  field ++ comma :: [comma].intercalate (second :: fields) := by
                simp [List.intercalate_cons_cons]
              have rest := ih fuel later (by simpa using ended) (by simpa using enough)
              rw [joined, tokenLoop_field fuel first, rest]

theorem length_le_intercalate {fields : List Token} (ended : fields.getLast? ≠ some []) :
    fields.length ≤ ([comma].intercalate fields).length := by
  induction fields with
  | nil => simp
  | cons field fields ih =>
      cases fields with
      | nil =>
          have present : field ≠ [] := by simpa using ended
          simpa [List.intercalate] using Nat.succ_le_of_lt (List.length_pos_iff.mpr present)
      | cons second fields =>
          have rest := ih (by simpa using ended)
          have joined : [comma].intercalate (field :: second :: fields) =
              field ++ comma :: [comma].intercalate (second :: fields) := by
            simp [List.intercalate_cons_cons]
          rw [joined]
          simp only [List.length_cons, List.length_append] at rest ⊢
          omega

/-- A framed sentence has its body back. -/
theorem sentenceBody_framed (body : Bytes) (high low : UInt8) :
    sentenceBody (ascii '$' :: body ++ [ascii '*', high, low, ascii '\r', newline]) = body := by
  have opened : dropDollar (ascii '$' :: body ++ [ascii '*', high, low, ascii '\r', newline]) =
      body ++ [ascii '*', high, low, ascii '\r', newline] := by
    simp [dropDollar]
  have closed : dropNewline (body ++ [ascii '*', high, low, ascii '\r', newline]) =
      body ++ [ascii '*', high, low] := by
    simp [dropNewline]
  have summed : dropChecksum (body ++ [ascii '*', high, low]) = body := by
    simp [dropChecksum]
  rw [sentenceBody, opened, closed, summed]

/-- The tokens of a framed sentence are its fields. -/
theorem nmeaTokenizerInit_framed {fields : List Token} (high low : UInt8)
    (plain : ∀ field ∈ fields, comma ∉ field) (ended : fields.getLast? ≠ some [])
    (few : fields.length ≤ maxNmeaTokens) :
    (nmeaTokenizerInit (ascii '$' :: [comma].intercalate fields ++
      [ascii '*', high, low, ascii '\r', newline])).tokens = fields := by
  simp only [nmeaTokenizerInit, sentenceBody_framed]
  rw [tokenLoop_intercalate _ plain ended (length_le_intercalate ended)]
  exact List.take_of_length_le few

theorem get_of_tokens {t : NmeaTokenizer} {fields : List Token} (same : t.tokens = fields)
    (index : Nat) : t.get index = fields.getD index [] := by
  rw [NmeaTokenizer.get]
  rw [same]
  by_cases inside : index < fields.length
  · have here : ¬ ((index : Int) < 0 ∨ (fields.length : Int) ≤ index) := by omega
    rw [if_neg here, Int.toNat_natCast]
  · have outside : (index : Int) < 0 ∨ (fields.length : Int) ≤ index := by omega
    have missing : fields[index]? = none := List.getElem?_eq_none (by omega)
    rw [if_pos outside, List.getD_eq_getElem?_getD, missing, Option.getD_none]

theorem str2intLoop_append (result : Int) (first second : Bytes) :
    str2intLoop result (first ++ second) =
      (str2intLoop result first).bind (fun middle => str2intLoop middle second) := by
  induction first generalizing result with
  | nil => rfl
  | cons p rest ih =>
      simp only [List.cons_append, str2intLoop]
      split
      · exact ih _
      · rfl

end X5MaxDevice.Gps.Tokenizer
