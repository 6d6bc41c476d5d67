import X5MaxDevice.Gps.Decimals

/-! When `nmea_reader_update_date` accepts its tokens, and what a refusal leaves behind. -/

namespace X5MaxDevice.Gps.DateUpdate

open X5MaxDevice.Gps.Decimals
open X5MaxDevice.Gps.Reader
open X5MaxDevice.Gps.Tokenizer

def SixDigits (date : Token) : Prop := date.length = 6 ∧ ∀ b ∈ date, isDigit b = true

/-- Only six digits and an accepted time succeed, and a refusal changes neither the date nor
the timestamp. -/
def Careful (platform : Platform) (moment : Moment) (r : NmeaReader) (date time : Token) : Prop :=
  let updated := updateDate platform moment r date time
  (updated.2 = 0 → SixDigits date ∧ (updateTime platform moment r time).2 = 0) ∧
    (updated.2 = -1 → updated.1.utc = r.utc ∧ updated.1.fix.timestamp = r.fix.timestamp)

def dayField (date : Token) : Token := date.take 2

def monthField (date : Token) : Token := (date.drop 2).take 2

def yearField (date : Token) : Token := (date.drop 4).take 2

/-- What `str2int` does not take for a failure: two digits or a negative zero. -/
def Passes (field : Token) : Prop := (∀ b ∈ field, isDigit b = true) ∨ field = bytes "-0"

instance (field : Token) : Decidable (Passes field) := inferInstanceAs (Decidable (_ ∨ _))

/-- The date of six characters, whatever the last two of them are. -/
def writtenDate (date : Token) : UtcDate :=
  ⟨str2int (yearField date) + 2000, str2int (monthField date), str2int (dayField date)⟩

/-- When day and month pass, either the time is long enough and the date is made of digits, or
the time is too short and the date is the known one. -/
def Harmless (r : NmeaReader) (date time : Token) : Prop :=
  date.length = 6 → Passes (dayField date) → Passes (monthField date) →
    (6 ≤ time.length ∧ ∀ b ∈ date, isDigit b = true) ∨
      (time.length < 6 ∧ writtenDate date = r.utc)

instance (r : NmeaReader) (date time : Token) : Decidable (Harmless r date time) :=
  inferInstanceAs (Decidable (_ → _ → _ → _ ∨ _))

theorem str2intLoop_digit {n : Int} {b : UInt8} (rest : Bytes) (digit : isDigit b = true)
    (low : 0 ≤ n) (high : n < 10) :
    str2intLoop n (b :: rest) = str2intLoop (n * 10 + (b.toNat - 48)) rest := by
  simp only [isDigit, Bool.and_eq_true, decide_eq_true_eq, UInt8.le_iff_toNat_le] at digit
  have first : 48 ≤ b.toNat := digit.1
  have last : b.toNat ≤ 57 := digit.2
  rw [str2intLoop, if_pos (by omega), int32_of_range (by omega) (by omega)]

theorem str2intLoop_stop (n : Int) {b : UInt8} (rest : Bytes) (other : isDigit b = false) :
    str2intLoop n (b :: rest) = none := by
  have outside : ¬ (48 ≤ b.toNat ∧ b.toNat ≤ 57) := by
    intro inside
    have digit : isDigit b = true := by
      simp only [isDigit, Bool.and_eq_true, decide_eq_true_eq, UInt8.le_iff_toNat_le]
      exact inside
    rw [other] at digit
    cases digit
  rw [str2intLoop, if_neg (by omega)]

theorem digit_range {b : UInt8} (digit : isDigit b = true) :
    (0 : Int) ≤ b.toNat - 48 ∧ (b.toNat : Int) - 48 < 10 := by
  simp only [isDigit, Bool.and_eq_true, decide_eq_true_eq, UInt8.le_iff_toNat_le] at digit
  have first : 48 ≤ b.toNat := digit.1
  have last : b.toNat ≤ 57 := digit.2
  omega

/-- A field behind a minus sign. -/
theorem str2int_minus (b : UInt8) :
    str2int [ascii '-', b] = if isDigit b then -((b.toNat : Int) - 48) else -1 := by
  have sign : [ascii '-', b].head? = some (ascii '-') := rfl
  rw [str2int, if_pos sign, List.tail_cons]
  cases digit : isDigit b with
  | true =>
      have range := digit_range digit
      rw [str2intLoop_digit [] digit (le_refl 0) (by decide), str2intLoop]
      dsimp only
      rw [int32_of_range (by omega) (by omega), if_pos rfl]
      omega
  | false =>
      rw [str2intLoop_stop 0 [] digit]
      rfl

theorem str2int_pair {a : UInt8} (b : UInt8) (unsigned : a ≠ ascii '-') :
    str2int [a, b] =
      if isDigit a ∧ isDigit b then ((a.toNat : Int) - 48) * 10 + (b.toNat - 48) else -1 := by
  have positive : ¬ [a, b].head? = some (ascii '-') := fun same => unsigned (Option.some.inj same)
  rw [str2int, if_neg positive]
  cases first : isDigit a with
  | true =>
      have range := digit_range first
      rw [str2intLoop_digit [b] first (le_refl 0) (by decide), zero_mul, zero_add]
      cases second : isDigit b with
      | true =>
          have range' := digit_range second
          rw [str2intLoop_digit [] second range.1 range.2, str2intLoop]
          rfl
      | false =>
          rw [str2intLoop_stop _ [] second]
          rfl
  | false =>
      rw [str2intLoop_stop 0 [b] first]
      rfl

/-- A field of two characters: it passes exactly if its value is no failure, and no value is
below -9. -/
theorem str2int_field {field : Token} (two : field.length = 2) :
    (0 ≤ str2int field ↔ Passes field) ∧ -9 ≤ str2int field := by
  obtain ⟨a, b, rfl⟩ := List.length_eq_two.mp two
  by_cases minus : a = ascii '-'
  · have sign : isDigit (ascii '-') = false := by decide
    have passes : Passes [a, b] ↔ b = ascii '0' := by
      rw [minus, Passes]
      simp [sign, bytes]
    rw [passes, minus, str2int_minus]
    cases digit : isDigit b with
    | true =>
        have range := digit_range digit
        have zero : b = ascii '0' ↔ b.toNat = 48 := by
          rw [← UInt8.toNat_inj]
          rfl
        rw [if_pos rfl, zero]
        omega
    | false =>
        have other : b ≠ ascii '0' := by
          rintro rfl
          cases digit
        simp [other]
  · have passes : Passes [a, b] ↔ isDigit a = true ∧ isDigit b = true := by
      rw [Passes]
      simp [bytes, minus]
    rw [passes, str2int_pair b minus]
    split
    · rename_i digits
      have range := digit_range digits.1
      have range' := digit_range digits.2
      exact ⟨iff_of_true (by omega) digits, by omega⟩
    · rename_i other
      exact ⟨iff_of_false (by decide) other, by decide⟩

theorem fields_length {date : Token} (six : date.length = 6) :
    (dayField date).length = 2 ∧ (monthField date).length = 2 ∧ (yearField date).length = 2 := by
  simp [dayField, monthField, yearField, six]

/-- The two ways through the update. -/
theorem updateDate_cases (platform : Platform) (moment : Moment) (r : NmeaReader)
    (date time : Token) :
    (¬ (date.length = 6 ∧ Passes (dayField date) ∧ Passes (monthField date)) ∧
      updateDate platform moment r date time = (r, -1)) ∨
    ((date.length = 6 ∧ Passes (dayField date) ∧ Passes (monthField date)) ∧
      updateDate platform moment r date time =
        updateTime platform moment { r with utc := writtenDate date } time) := by
  rw [updateDate]
  by_cases six : date.length = 6
  · rcases fields_length six with ⟨dayLength, monthLength, yearLength⟩
    have day := (str2int_field dayLength).1
    have month := (str2int_field monthLength).1
    have year := (str2int_field yearLength).2
    rw [if_neg (not_not_intro six), ← day, ← month]
    simp only [dayField, monthField, yearField] at year ⊢
    split
    · left
      refine ⟨?_, rfl⟩
      rintro ⟨-, positive, positive'⟩
      omega
    · right
      exact ⟨⟨six, by omega, by omega⟩, rfl⟩
  · left
    exact ⟨fun fields => six fields.1, if_pos six⟩

theorem updateTime_cases (platform : Platform) (moment : Moment) (r : NmeaReader) (time : Token) :
    (time.length < 6 ∧ updateTime platform moment r time = (r, -1)) ∨
      (6 ≤ time.length ∧ (updateTime platform moment r time).2 = 0) := by
  rw [updateTime]
  by_cases short : time.length < 6
  · exact .inl ⟨short, if_pos short⟩
  · right
    rw [if_neg short]
    exact ⟨not_lt.mp short, rfl⟩

/-- The update is careful exactly with the harmless tokens. -/
theorem careful_iff_harmless (platform : Platform) (moment : Moment) (r : NmeaReader)
    (date time : Token) : Careful platform moment r date time ↔ Harmless r date time := by
  rw [Careful, Harmless]
  rcases updateDate_cases platform moment r date time with ⟨refused, same⟩ | ⟨passed, same⟩
  · rw [same]
    refine iff_of_true ⟨fun success => absurd success (by simp), fun _ => ⟨rfl, rfl⟩⟩ ?_
    exact fun six day month => absurd ⟨six, day, month⟩ refused
  · rcases passed with ⟨six, day, month⟩
    rw [same]
    simp only [six, day, month, SixDigits, true_and, true_implies]
    rcases updateTime_cases platform moment { r with utc := writtenDate date } time with
      ⟨short, failed⟩ | ⟨long, succeeded⟩
    · have late : ¬ 6 ≤ time.length := not_le.mpr short
      rw [failed]
      simp [short, late]
    · have accepted : (updateTime platform moment r time).2 = 0 := by
        rcases updateTime_cases platform moment r time with ⟨short, -⟩ | ⟨-, accepted⟩
        · omega
        · exact accepted
      rw [succeeded]
      simp [long, not_lt.mpr long, accepted]

/-- A good date before a time of four digits. -/
theorem date_stored_before_bad_time :
    ¬ ∀ (platform : Platform) (moment : Moment) (r : NmeaReader) (date time : Token),
      0 ≤ r.utc.year → Careful platform moment r date time := by
  intro careful
  have asserted := careful gnssPlatform epochMoment
    { nmeaReaderInit (fun _ => 0) with utc := ⟨2016, 7, 1⟩ } (bytes "020716") (bytes "1200") (by decide)
  have kept := (asserted.2 (by decide +kernel)).1
  revert kept
  decide +kernel

end X5MaxDevice.Gps.DateUpdate
