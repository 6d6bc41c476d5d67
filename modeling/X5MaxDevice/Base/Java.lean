import Mathlib.Data.List.DropRight

/-! The parts of the Java string library and of the Android property store that
telephony code is written against. -/

namespace X5MaxDevice.Java

abbrev JString := List Char

/-- `SystemProperties`: an absent property reads as the empty string. -/
abbrev SystemProperties := String → JString

def SystemProperties.set (properties : SystemProperties) (key : String) (value : JString) :
    SystemProperties :=
  fun other => if other = key then value else properties other

@[simp] theorem set_same (properties : SystemProperties) (key : String) (value : JString) :
    properties.set key value key = value := by
  simp [SystemProperties.set]

theorem set_other (properties : SystemProperties) {key other : String} (value : JString)
    (distinct : other ≠ key) : properties.set key value other = properties other := by
  simp [SystemProperties.set, distinct]

inductive Exception where
  | numberFormat
  | indexOutOfBounds
  deriving DecidableEq, Repr

/-- `String.split` on one literal character: a string without the separator is its own
only part, otherwise trailing empty parts are dropped. -/
def split (separator : Char) (text : JString) : List JString :=
  if separator ∈ text then (text.splitOn separator).rdropWhile (fun part => part.isEmpty)
  else [text]

/-- `TextUtils.join`. -/
def join (separator : Char) (parts : List JString) : JString :=
  [separator].intercalate parts

/-- The zeros of the decimal digit blocks that `Character.digit` knows for a `char`. -/
def digitZeros : List Nat :=
  [0x30, 0x660, 0x6F0, 0x7C0, 0x966, 0x9E6, 0xA66, 0xAE6, 0xB66, 0xBE6, 0xC66, 0xCE6, 0xD66,
   0xDE6, 0xE50, 0xED0, 0xF20, 0x1040, 0x1090, 0x17E0, 0x1810, 0x1946, 0x19D0, 0x1A80, 0x1A90,
   0x1B50, 0x1BB0, 0x1C40, 0x1C50, 0xA620, 0xA8D0, 0xA900, 0xA9D0, 0xA9F0, 0xAA50, 0xABF0, 0xFF10]

def digit (c : Char) : Option Nat :=
  (digitZeros.find? (fun first => first ≤ c.toNat ∧ c.toNat < first + 10)).map (c.toNat - ·)

def digits (value : Nat) : JString → Option Nat
  | [] => some value
  | c :: rest => (digit c).bind (fun d => digits (value * 10 + d) rest)

/-- The value of a decimal numeral that fits an `int`; `Integer.parseInt` throws otherwise. -/
def decimalInt (text : JString) : Option Int :=
  let magnitude (body : JString) : Option Nat := if body = [] then none else digits 0 body
  let value : Option Int := match text with
    | '-' :: body => (magnitude body).map (fun n => -(n : Int))
    | '+' :: body => (magnitude body).map (fun n => (n : Int))
    | body => (magnitude body).map (fun n => (n : Int))
  value.filter (fun n => -2147483648 ≤ n ∧ n ≤ 2147483647)

def parseInt (text : JString) : Except Exception Int :=
  match decimalInt text with
  | some value => .ok value
  | none => .error .numberFormat

/-- `String.indexOf`; `none` is the -1 of a text that does not occur. -/
def indexOf (text needle : JString) : Option Nat :=
  if needle.isPrefixOf text then some 0
  else match text with
    | [] => none
    | _ :: rest => (indexOf rest needle).map (· + 1)

def contains (text needle : JString) : Bool := (indexOf text needle).isSome

theorem contains_cons (c : Char) (rest needle : JString) :
    contains (c :: rest) needle = (needle.isPrefixOf (c :: rest) || contains rest needle) := by
  rw [contains, indexOf]
  cases needle.isPrefixOf (c :: rest) <;> simp [contains]

theorem contains_char (text : JString) (c : Char) : contains text [c] = decide (c ∈ text) := by
  induction text with
  | nil => rfl
  | cons head rest ih =>
      rw [contains_cons, ih]
      by_cases same : c = head
      · simp [same]
      · simp [same]

theorem indexOf_char_absent {text : JString} {c : Char} (absent : c ∉ text) :
    indexOf text [c] = none := by
  have missing := contains_char text c
  rw [decide_eq_false absent, contains, Option.isSome_eq_false_iff, Option.isNone_iff_eq_none]
    at missing
  exact missing

theorem indexOf_char {front : JString} {c : Char} (absent : c ∉ front) (rest : JString) :
    indexOf (front ++ c :: rest) [c] = some front.length := by
  induction front with
  | nil =>
      rw [List.nil_append, indexOf, if_pos (by simp)]
      rfl
  | cons head front ih =>
      rw [List.mem_cons, not_or] at absent
      have elsewhere : ¬ [c].isPrefixOf (head :: (front ++ c :: rest)) = true := by
        simp [absent.1]
      rw [List.cons_append, indexOf, if_neg elsewhere]
      rw [ih absent.2]
      rfl

/-- A text that lacks one character of the needle does not contain the needle. -/
theorem not_contains_of_absent {text needle : JString} {c : Char} (wanted : c ∈ needle)
    (absent : c ∉ text) : contains text needle = false := by
  induction text with
  | nil =>
      cases needle with
      | nil => simp at wanted
      | cons first others => rfl
  | cons head rest ih =>
      have later : contains rest needle = false :=
        ih (fun member => absent (List.mem_cons_of_mem head member))
      have elsewhere : needle.isPrefixOf (head :: rest) = false := by
        rw [Bool.eq_false_iff]
        intro starts
        exact absent ((List.isPrefixOf_iff_prefix.mp starts).subset wanted)
      rw [contains_cons, later, elsewhere, Bool.or_false]

theorem digit_of_isDigit {c : Char} (ascii : c.isDigit = true) :
    digit c = some (c.toNat - '0'.toNat) := by
  have bounds : 0x30 ≤ c.toNat ∧ c.toNat < 0x30 + 10 := by
    simp only [Char.isDigit, Bool.and_eq_true, decide_eq_true_eq, UInt32.le_iff_toNat_le] at ascii
    exact ⟨ascii.1, Nat.lt_succ_of_le ascii.2⟩
  rw [digit, digitZeros, List.find?_cons_of_pos (by simpa using bounds)]
  rfl

theorem digits_of_isDigit {text : JString} (ascii : ∀ c ∈ text, c.isDigit = true) (value : Nat) :
    digits value text = some (Nat.ofDigitChars 10 text value) := by
  induction text generalizing value with
  | nil => simp [digits]
  | cons c rest ih =>
      have next := ih (fun other member => ascii other (List.mem_cons_of_mem c member))
        (value * 10 + (c.toNat - '0'.toNat))
      rw [digits, digit_of_isDigit (ascii c List.mem_cons_self), Option.bind_some, next,
        Nat.ofDigitChars_cons, Nat.mul_comm]

/-- A numeral of ASCII digits whose value fits an `int` is read as that value. -/
theorem decimalInt_of_digits {text : JString} (nonempty : text ≠ [])
    (ascii : ∀ c ∈ text, c.isDigit = true) (fits : Nat.ofDigitChars 10 text 0 ≤ 2147483647) :
    decimalInt text = some (Nat.ofDigitChars 10 text 0 : Int) := by
  cases text with
  | nil => exact absurd rfl nonempty
  | cons c rest =>
      have isDigit : c.isDigit = true := ascii c List.mem_cons_self
      have unsigned : c ≠ '-' ∧ c ≠ '+' := by
        constructor <;> rintro rfl <;> simp [Char.isDigit] at isDigit
      have value := digits_of_isDigit ascii 0
      generalize Nat.ofDigitChars 10 (c :: rest) 0 = n at fits value ⊢
      unfold decimalInt
      split
      · rename_i same
        exact absurd (List.cons.inj same).1 unsigned.1
      · rename_i same
        exact absurd (List.cons.inj same).1 unsigned.2
      · have inside : (-2147483648 : Int) ≤ n ∧ (n : Int) ≤ 2147483647 := by omega
        simp [value, inside]

theorem intercalate_cons_cons (separator : Char) (first second : JString) (rest : List JString) :
    join separator (first :: second :: rest) =
      first ++ separator :: join separator (second :: rest) := by
  simp [join, List.intercalate, List.intersperse]

/-- A character of joined parts is the separator or stands in a part. -/
theorem mem_join {separator c : Char} {parts : List JString} (member : c ∈ join separator parts) :
    c = separator ∨ ∃ part ∈ parts, c ∈ part := by
  induction parts with
  | nil => simp [join, List.intercalate] at member
  | cons first rest ih =>
      cases rest with
      | nil =>
          have inside : c ∈ first := by simpa [join, List.intercalate] using member
          exact Or.inr ⟨first, List.mem_cons_self, inside⟩
      | cons second others =>
          rw [intercalate_cons_cons] at member
          rcases List.mem_append.mp member with inside | later
          · exact Or.inr ⟨first, List.mem_cons_self, inside⟩
          · rcases List.mem_cons.mp later with rfl | behind
            · exact Or.inl rfl
            · rcases ih behind with same | ⟨part, listed, inside⟩
              · exact Or.inl same
              · exact Or.inr ⟨part, List.mem_cons_of_mem first listed, inside⟩

theorem separator_not_mem_splitOn {separator : Char} {text part : JString}
    (member : part ∈ text.splitOn separator) : separator ∉ part := by
  induction text generalizing part with
  | nil =>
      obtain rfl : part = [] := by simpa using member
      simp
  | cons c rest ih =>
      rw [List.splitOn_cons_eq_if_modifyHead] at member
      split at member
      · rcases List.mem_cons.mp member with rfl | later
        · simp
        · exact ih later
      · rename_i differs
        cases parts : rest.splitOn separator with
        | nil => exact absurd parts (List.splitOn_ne_nil separator rest)
        | cons first others =>
            rw [parts, List.modifyHead_cons] at member
            rcases List.mem_cons.mp member with rfl | later
            · have plain : separator ∉ first := ih (by simp [parts])
              have distinct : separator ≠ c := by
                intro same
                simp [same] at differs
              simp [plain, distinct]
            · exact ih (by simp [parts, later])

theorem separator_not_mem_split {separator : Char} {text part : JString}
    (member : part ∈ split separator text) : separator ∉ part := by
  rw [split] at member
  split at member
  · exact separator_not_mem_splitOn ((List.rdropWhile_prefix _ _).subset member)
  · rename_i absent
    obtain rfl := List.mem_singleton.mp member
    exact absent

theorem join_eq_nil_iff {separator : Char} {parts : List JString}
    (present : ∀ part ∈ parts, part ≠ []) : join separator parts = [] ↔ parts = [] := by
  cases parts with
  | nil => simp [join, List.intercalate]
  | cons first rest =>
      cases rest with
      | nil =>
          have := present first (by simp)
          simpa [join, List.intercalate] using this
      | cons second rest => simp [intercalate_cons_cons]

theorem mem_splitOn_of_repeated {separator : Char} {text : JString}
    (repeated : ∀ c ∈ text, c = separator) : ∀ part ∈ text.splitOn separator, part = [] := by
  induction text with
  | nil => simp
  | cons c rest ih =>
      obtain rfl : c = separator := repeated c List.mem_cons_self
      rw [List.splitOn_cons_eq_if_modifyHead, beq_self_eq_true, if_pos rfl]
      intro part member
      rcases List.mem_cons.mp member with rfl | later
      · rfl
      · exact ih (fun other inside => repeated other (List.mem_cons_of_mem c inside)) part later

/-- A split without parts comes from the separator alone. -/
theorem split_eq_nil_iff {separator : Char} {text : JString} :
    split separator text = [] ↔ text ≠ [] ∧ ∀ c ∈ text, c = separator := by
  rw [split]
  split
  · rename_i present
    rw [List.rdropWhile_eq_nil_iff]
    constructor
    · intro empty
      refine ⟨List.ne_nil_of_mem present, ?_⟩
      have restored : [separator].intercalate (text.splitOn separator) = text :=
        List.intercalate_splitOn separator
      rw [← restored]
      intro c member
      rcases mem_join member with same | ⟨part, inside, letter⟩
      · exact same
      · have blank : part = [] := List.isEmpty_iff.mp (empty part inside)
        rw [blank] at letter
        exact absurd letter List.not_mem_nil
    · rintro ⟨-, repeated⟩ part member
      exact List.isEmpty_iff.mpr (mem_splitOn_of_repeated repeated part member)
  · rename_i absent
    simp only [List.cons_ne_nil, false_iff, not_and]
    intro nonempty repeated
    cases text with
    | nil => exact nonempty rfl
    | cons c rest => exact absent (repeated c List.mem_cons_self ▸ List.mem_cons_self)

/-- Parts without the separator, the last of them not empty, survive being joined and split. -/
theorem split_join_of_last {separator : Char} {parts : List JString} (nonempty : parts ≠ [])
    (ended : parts.getLast nonempty ≠ []) (plain : ∀ part ∈ parts, separator ∉ part) :
    split separator (join separator parts) = parts := by
  have recovered : (join separator parts).splitOn separator = parts :=
    List.splitOn_intercalate separator plain nonempty
  rw [split]
  split
  · rw [recovered, List.rdropWhile_eq_self_iff]
    intro _
    simpa using ended
  · rename_i absent
    cases parts with
    | nil => exact absurd rfl nonempty
    | cons first rest =>
        cases rest with
        | nil => simp [join, List.intercalate]
        | cons second rest => simp [intercalate_cons_cons] at absent

/-- A list of non-empty parts without the separator survives being joined and split. -/
theorem split_join {separator : Char} {parts : List JString} (nonempty : parts ≠ [])
    (present : ∀ part ∈ parts, part ≠ []) (plain : ∀ part ∈ parts, separator ∉ part) :
    split separator (join separator parts) = parts :=
  split_join_of_last nonempty (present _ (List.getLast_mem nonempty)) plain

end X5MaxDevice.Java
