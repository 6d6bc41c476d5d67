import X5MaxDevice.Gps.Decimals

/-! The coordinates that `nmea_reader_update_latlong` stores for the tokens of a position. -/

namespace X5MaxDevice.Gps.Coordinates

open X5MaxDevice.Gps.Decimals
open X5MaxDevice.Gps.EpoConfig
open X5MaxDevice.Gps.Reader
open X5MaxDevice.Gps.Tokenizer

/-- A coordinate in degrees, of `width` digits, and minutes; `nmea_reader_update_latlong` wants
six characters of it. -/
structure Coordinate (width : Nat) where
  degrees : List (Fin 10)
  minutes : List (Fin 10)
  fraction : List (Fin 10)
  degrees_length : degrees.length = width
  minutes_length : minutes.length = 2
  minutes_lt : digitsValue minutes < 60
  long : 6 ≤ width + 3 + fraction.length
  deriving DecidableEq

/-- `ddmm.mmm` for a latitude, `dddmm.mmm` for a longitude. -/
def Coordinate.decimal {width : Nat} (c : Coordinate width) : Decimal where
  whole := c.degrees ++ c.minutes
  fraction := c.fraction
  present := List.append_ne_nil_of_right_ne_nil _ (List.ne_nil_of_length_eq_add_one c.minutes_length)

def Coordinate.text {width : Nat} (c : Coordinate width) : Token := c.decimal.text

def Coordinate.minutesValue {width : Nat} (c : Coordinate width) : ℚ :=
  digitsValue c.minutes + digitsValue c.fraction / 10 ^ c.fraction.length

def Coordinate.value {width : Nat} (c : Coordinate width) : ℚ :=
  digitsValue c.degrees + c.minutesValue / 60

abbrev Latitude := Coordinate 2
abbrev Longitude := Coordinate 3

/-- The value on its hemisphere; only the given letter makes it negative. -/
def hemisphere (letter : Char) (hemi : Token) (value : ℚ) : ℚ :=
  if hemi.head? = some (ascii letter) then -value else value

/-- The update stores both coordinates and flags the position. -/
def Decoded (platform : Platform) (r : NmeaReader) (latitude : Latitude) (latitudeHemi : Token)
    (longitude : Longitude) (longitudeHemi : Token) : Prop :=
  let updated := updateLatlong platform r latitude.text latitudeHemi longitude.text longitudeHemi
  updated.2 = 0 ∧ updated.1.fix.flags &&& hasLatLong = hasLatLong ∧
    updated.1.fix.latitude = hemisphere 'S' latitudeHemi latitude.value ∧
    updated.1.fix.longitude = hemisphere 'W' longitudeHemi longitude.value

/-- The token fits the buffer of `str2float` with its NUL, or is made of zeros. -/
def Coordinate.Read {width : Nat} (c : Coordinate width) : Prop :=
  c.text.length < 16 ∨ ∀ digit ∈ c.degrees ++ c.minutes ++ c.fraction, digit.val = 0

instance {width : Nat} (c : Coordinate width) : Decidable c.Read :=
  inferInstanceAs (Decidable (_ ∨ _))

theorem Coordinate.text_length {width : Nat} (c : Coordinate width) :
    c.text.length = width + 3 + c.fraction.length := by
  rw [Coordinate.text, Decimal.text, List.length_append, List.length_cons, digitsText_length,
    digitsText_length, Coordinate.decimal, List.length_append, c.degrees_length, c.minutes_length]
  exact Nat.add_right_comm (width + 2) c.fraction.length 1

theorem Coordinate.decimal_value {width : Nat} (c : Coordinate width) :
    c.decimal.value = digitsValue c.degrees * 100 + c.minutesValue := by
  have whole := digitsValue_append c.degrees c.minutes
  rw [c.minutes_length] at whole
  rw [Decimal.value, Coordinate.minutesValue, Coordinate.decimal, whole]
  push_cast
  ring

theorem Coordinate.degrees_eq {width : Nat} (c : Coordinate width) :
    truncate (⌊c.decimal.value⌋ / 100) = digitsValue c.degrees := by
  have minutes := c.minutes_lt
  have whole := digitsValue_append c.degrees c.minutes
  rw [c.minutes_length] at whole
  have floored : ⌊c.decimal.value⌋ = (digitsValue c.degrees * 100 + digitsValue c.minutes : Nat) := by
    rw [floor_value, Coordinate.decimal, whole]
    rfl
  have hundredth : ((100 : Nat) : ℚ) = 100 := rfl
  rw [floored, truncate_of_nonneg (by positivity), ← hundredth, Rat.floor_intCast_div_natCast]
  omega

/-- A token that is read gives its degrees and minutes. -/
theorem convertFromHhmm_short {platform : Platform} (exact : ExactDecimals platform.strtod)
    {width : Nat} (c : Coordinate width) (short : c.text.length < 16) :
    convertFromHhmm platform c.text = c.value := by
  have val : str2float platform.strtod c.text = c.decimal.value := by
    rw [str2float, if_neg (not_le.mpr short)]
    exact exact.pointed c.decimal
  calc
    convertFromHhmm platform c.text =
        truncate (⌊c.decimal.value⌋ / 100) +
          (c.decimal.value - truncate (⌊c.decimal.value⌋ / 100) * 100) / 60 := by
      rw [convertFromHhmm, val]
    _ = c.value := by
      rw [c.degrees_eq, c.decimal_value, Coordinate.value]
      push_cast
      ring

theorem convertFromHhmm_long (platform : Platform) {width : Nat} (c : Coordinate width)
    (long : 16 ≤ c.text.length) : convertFromHhmm platform c.text = 0 := by
  have val : str2float platform.strtod c.text = 0 := by rw [str2float, if_pos long]
  rw [convertFromHhmm, val]
  simp [truncate]

theorem Coordinate.value_eq_zero_iff {width : Nat} (c : Coordinate width) :
    c.value = 0 ↔ ∀ digit ∈ c.degrees ++ c.minutes ++ c.fraction, digit.val = 0 := by
  constructor
  · intro zero
    have range := (fraction_range c.fraction).1
    have degrees : (0 : ℚ) ≤ digitsValue c.degrees := Nat.cast_nonneg _
    have minutes : (0 : ℚ) ≤ digitsValue c.minutes := Nat.cast_nonneg _
    rw [Coordinate.value, Coordinate.minutesValue] at zero
    have noDegrees : (digitsValue c.degrees : ℚ) = 0 := by linarith
    have noMinutes : (digitsValue c.minutes : ℚ) = 0 := by linarith
    have noFraction : (digitsValue c.fraction : ℚ) / 10 ^ c.fraction.length = 0 := by linarith
    have nothing : (digitsValue c.fraction : ℚ) = 0 := by
      rcases div_eq_zero_iff.mp noFraction with zero | power
      · exact zero
      · exact absurd power (by positivity)
    intro digit member
    rcases List.mem_append.mp member with front | behind
    · rcases List.mem_append.mp front with first | second
      · exact digitsValue_eq_zero (by exact_mod_cast noDegrees) digit first
      · exact digitsValue_eq_zero (by exact_mod_cast noMinutes) digit second
    · exact digitsValue_eq_zero (by exact_mod_cast nothing) digit behind
  · intro zeros
    have degrees := digitsValue_zeros (fun digit member => zeros digit
      (List.mem_append_left _ (List.mem_append_left c.minutes member)))
    have minutes := digitsValue_zeros (fun digit member => zeros digit
      (List.mem_append_left _ (List.mem_append_right c.degrees member)))
    have fraction := digitsValue_zeros (fun digit member => zeros digit
      (List.mem_append_right (c.degrees ++ c.minutes) member))
    simp [Coordinate.value, Coordinate.minutesValue, degrees, minutes, fraction]

/-- A coordinate is converted exactly when it is read. -/
theorem convertFromHhmm_eq_iff {platform : Platform} (exact : ExactDecimals platform.strtod)
    {width : Nat} (c : Coordinate width) : convertFromHhmm platform c.text = c.value ↔ c.Read := by
  rw [Coordinate.Read, ← c.value_eq_zero_iff]
  by_cases short : c.text.length < 16
  · exact iff_of_true (convertFromHhmm_short exact c short) (.inl short)
  · rw [convertFromHhmm_long platform c (not_lt.mp short), or_iff_right short]
    exact eq_comm

theorem hemisphere_eq_iff (letter : Char) (hemi : Token) (first second : ℚ) :
    hemisphere letter hemi first = hemisphere letter hemi second ↔ first = second := by
  rw [hemisphere, hemisphere]
  split
  · exact neg_inj
  · exact Iff.rfl

theorem updateLatlong_long (platform : Platform) (r : NmeaReader) {latitude longitude : Token}
    (latitudeHemi longitudeHemi : Token) (enough : 6 ≤ latitude.length)
    (enough' : 6 ≤ longitude.length) :
    updateLatlong platform r latitude latitudeHemi longitude longitudeHemi =
      ({ r with fix := { r.fix with
          flags := r.fix.flags ||| hasLatLong
          latitude := hemisphere 'S' latitudeHemi (convertFromHhmm platform latitude)
          longitude := hemisphere 'W' longitudeHemi (convertFromHhmm platform longitude) } }, 0) := by
  rw [updateLatlong, if_neg (not_lt.mpr enough)]
  dsimp only
  rw [if_neg (not_lt.mpr enough')]
  rfl

/-- A failed update leaves the whole reader as it was. -/
theorem updateLatlong_failed {platform : Platform} {r : NmeaReader}
    {latitude latitudeHemi longitude longitudeHemi : Token}
    (failed : (updateLatlong platform r latitude latitudeHemi longitude longitudeHemi).2 = -1) :
    (updateLatlong platform r latitude latitudeHemi longitude longitudeHemi).1 = r := by
  rw [updateLatlong] at failed ⊢
  split
  · rfl
  · rename_i enough
    rw [if_neg enough] at failed
    dsimp only at failed ⊢
    split
    · rfl
    · rename_i enough'
      rw [if_neg enough'] at failed
      cases failed

theorem flag_set (flags : BitVec 16) : (flags ||| hasLatLong) &&& hasLatLong = hasLatLong := by
  apply BitVec.eq_of_getElem_eq
  intro bit inside
  rw [BitVec.getElem_and, BitVec.getElem_or]
  cases hasLatLong[bit] <;> simp

/-- A position is decoded exactly when both coordinates are read, and a failed update changes
nothing. -/
theorem coordinates_decoded_iff (platform : Platform) (exact : ExactDecimals platform.strtod)
    (r : NmeaReader) :
    (∀ latitude latitudeHemi longitude longitudeHemi : Token,
      (updateLatlong platform r latitude latitudeHemi longitude longitudeHemi).2 = -1 →
        (updateLatlong platform r latitude latitudeHemi longitude longitudeHemi).1 = r) ∧
    ∀ (latitude : Latitude) (latitudeHemi : Token) (longitude : Longitude) (longitudeHemi : Token),
      Decoded platform r latitude latitudeHemi longitude longitudeHemi ↔
        latitude.Read ∧ longitude.Read := by
  refine ⟨fun _ _ _ _ failed => updateLatlong_failed failed, ?_⟩
  intro latitude latitudeHemi longitude longitudeHemi
  have enough : 6 ≤ latitude.text.length := latitude.text_length ▸ latitude.long
  have enough' : 6 ≤ longitude.text.length := longitude.text_length ▸ longitude.long
  rw [Decoded, updateLatlong_long platform r latitudeHemi longitudeHemi enough enough']
  simp only [flag_set, hemisphere_eq_iff, convertFromHhmm_eq_iff exact, true_and]

def decimalPlatform : Platform := { gnssPlatform with strtod := leadingDecimal }

/-- 48° 7.038' and 11° 31.000'. -/
def munichLatitude : Latitude :=
  ⟨[4, 8].map lastDigit, [0, 7].map lastDigit, [0, 3, 8].map lastDigit, rfl, rfl, by decide,
    by decide⟩

def munichLongitude : Longitude :=
  ⟨[0, 1, 1].map lastDigit, [3, 1].map lastDigit, [0, 0, 0].map lastDigit, rfl, rfl, by decide,
    by decide⟩

theorem munich_decoded :
    Decoded decimalPlatform (nmeaReaderInit fun _ => 0) munichLatitude (bytes "N") munichLongitude
      (bytes "E") :=
  ((coordinates_decoded_iff decimalPlatform leadingDecimal_exact (nmeaReaderInit fun _ => 0)).2
    munichLatitude (bytes "N") munichLongitude (bytes "E")).mpr (by decide)

/-- The same latitude to eleven digits behind the point. -/
def fineLatitude : Latitude :=
  ⟨[4, 8].map lastDigit, [0, 7].map lastDigit, [0, 3, 8, 0, 0, 0, 0, 0, 0, 0, 0].map lastDigit, rfl,
    rfl, by decide, by decide⟩

theorem fine_latitude_stored_as_zero :
    ¬ ∀ (platform : Platform), ExactDecimals platform.strtod → ∀ (r : NmeaReader)
      (latitude : Latitude) (latitudeHemi : Token) (longitude : Longitude) (longitudeHemi : Token),
      Decoded platform r latitude latitudeHemi longitude longitudeHemi := by
  intro decoded
  have asserted := decoded decimalPlatform leadingDecimal_exact (nmeaReaderInit fun _ => 0)
    fineLatitude (bytes "N") munichLongitude (bytes "E")
  have positive : hemisphere 'S' (bytes "N") fineLatitude.value ≠ 0 := by decide +kernel
  have stored : (updateLatlong decimalPlatform (nmeaReaderInit fun _ => 0) fineLatitude.text
      (bytes "N") munichLongitude.text (bytes "E")).1.fix.latitude = 0 := by decide +kernel
  exact positive (asserted.2.2.1.symm.trans stored)

end X5MaxDevice.Gps.Coordinates
