import Mathlib.Data.Rat.Floor
import Mathlib.Logic.Function.Basic
import X5MaxDevice.Gps.Tokenizer

/-! The NMEA reader of the GPS HAL: sentences are collected byte by byte, parsed, and
reported to the framework. -/

namespace X5MaxDevice.Gps.Reader

open X5MaxDevice.Gps.Tokenizer

structure UtcDate where
  year : Int
  month : Int
  day : Int
  deriving DecidableEq, Repr

structure Tm where
  date : UtcDate
  hour : Int
  min : Int
  sec : Int
  deriving DecidableEq, Repr

/-- The constants of `gps.h`, the chosen mode, and the C library. Doubles are exact. -/
structure Platform where
  gpsMaxSvs : Int
  gnssMaxSvs : Int
  gpsMode : Int
  strtod : Bytes → ℚ
  mktime : Tm → Int
  gmtoff : Int → Int
  gpsMaxSvs_pos : 0 < gpsMaxSvs
  gnssMaxSvs_pos : 0 < gnssMaxSvs
  gpsMaxSvs_int : gpsMaxSvs < 2 ^ 31
  gnssMaxSvs_int : gnssMaxSvs < 2 ^ 31

/-- What may differ from one byte to the next outside the reader. -/
structure Moment where
  gpsNmeaEndTag : Bool
  today : UtcDate
  mnlProp : Bool
  started : Bool

structure GpsLocation where
  flags : BitVec 16
  latitude : ℚ
  longitude : ℚ
  altitude : ℚ
  speed : ℚ
  bearing : ℚ
  accuracy : ℚ
  timestamp : Int
  deriving DecidableEq, Repr

def hasLatLong : BitVec 16 := 0x0001
def hasAltitude : BitVec 16 := 0x0002
def hasSpeed : BitVec 16 := 0x0004
def hasBearing : BitVec 16 := 0x0008
def hasAccuracy : BitVec 16 := 0x0010

structure GpsSvInfo where
  prn : Int
  snr : ℚ
  elevation : Int
  azimuth : Int
  deriving DecidableEq, Repr

inductive Constellation where
  | gps
  | glonass
  | beidou
  deriving DecidableEq, Repr

structure GnssSvInfo where
  svid : Int
  constellation : Constellation
  cN0Dbhz : ℚ
  elevation : Int
  azimuth : Int
  flags : UInt8
  deriving DecidableEq, Repr

def svFlagsNone : UInt8 := 0
def svFlagsUsedInFix : UInt8 := 4

structure NlpContext where
  latitude : ℚ
  longitude : ℚ
  accuracy : ℚ
  seconds : Int
  nanoseconds : Int
  started : Bool
  deriving DecidableEq, Repr

/-- A sentence handed to `nmea_reader_parse`, and what leaves the reader. -/
inductive Event where
  | parse (sentence : Bytes)
  | gpsLogWrite (latitude longitude : ℚ)
  | locationCb (fix : GpsLocation)
  | updateLocation (context : NlpContext)
  | gnssSvStatusCb (svs : List GnssSvInfo)
  | svStatusCb (svs : List GpsSvInfo) (usedInFixMask : BitVec 32)
  | nmeaCb (timestamp : Int) (sentence : Bytes)
  deriving DecidableEq, Repr

/-- What happens to a satellite list: an entry is written, `sv_count` starts again, counted
entries are committed or dropped, and the committed ones are reported. -/
inductive SvEvent where
  | write (index : Int)
  | restart
  | commit (count : Int)
  | drop
  | report (numSvs : Int)
  deriving DecidableEq, Repr

structure SvStatus (α : Type) where
  numSvs : Int
  svList : Int → α

structure NmeaReader where
  overflow : Bool
  input : Bytes
  utc : UtcDate
  fix : GpsLocation
  fixMode : Int
  usedInFixMask : BitVec 32
  svUsedInFix : Int → Int
  svCount : Int
  svStatusGps : SvStatus GpsSvInfo
  svStatusGnss : SvStatus GnssSvInfo
  svTrace : List SvEvent
  log : List Event

/-- `sv_used_in_fix` is global and keeps its contents. -/
def nmeaReaderInit (svUsedInFix : Int → Int) : NmeaReader where
  overflow := false
  input := []
  utc := ⟨-1, -1, -1⟩
  fix := ⟨0, 0, 0, 0, 0, 0, 0, 0⟩
  fixMode := 0
  usedInFixMask := 0
  svUsedInFix := svUsedInFix
  svCount := 0
  svStatusGps := ⟨0, fun _ => ⟨0, 0, 0, 0⟩⟩
  svStatusGnss := ⟨0, fun _ => ⟨0, .gps, 0, 0, 0, svFlagsNone⟩⟩
  svTrace := []
  log := []

def NmeaReader.record (r : NmeaReader) (event : Event) : NmeaReader :=
  { r with log := r.log ++ [event] }

def NmeaReader.locFixed (r : NmeaReader) : Bool :=
  decide (r.fixMode = 2) || decide (r.fixMode = 3)

/-- Conversion of a double to `int`. -/
def truncate (x : ℚ) : Int := x.num.tdiv x.den

def updateTime (platform : Platform) (moment : Moment) (r : NmeaReader) (tok : Token) :
    NmeaReader × Int :=
  if tok.length < 6 then (r, -1)
  else
    let utc := if r.utc.year < 0 then moment.today else r.utc
    let hour := str2int (tok.take 2)
    let minute := str2int ((tok.drop 2).take 2)
    let seconds := str2float platform.strtod (tok.drop 4)
    let fixTime := platform.mktime ⟨utc, hour, minute, truncate seconds⟩
    let fixTime := fixTime + platform.gmtoff fixTime
    ({ r with utc := utc, fix := { r.fix with timestamp := fixTime * 1000 } }, 0)

def updateDate (platform : Platform) (moment : Moment) (r : NmeaReader) (date time : Token) :
    NmeaReader × Int :=
  if date.length ≠ 6 then (r, -1)
  else
    let day := str2int (date.take 2)
    let mon := str2int ((date.drop 2).take 2)
    let year := str2int ((date.drop 4).take 2) + 2000
    if day < 0 ∨ mon < 0 ∨ year < 0 then (r, -1)
    else updateTime platform moment { r with utc := ⟨year, mon, day⟩ } time

def convertFromHhmm (platform : Platform) (tok : Token) : ℚ :=
  let val := str2float platform.strtod tok
  let degrees := truncate (⌊val⌋ / 100)
  let minutes := val - degrees * 100
  degrees + minutes / 60

def updateLatlong (platform : Platform) (r : NmeaReader) (latitude latitudeHemi longitude
    longitudeHemi : Token) : NmeaReader × Int :=
  if latitude.length < 6 then (r, -1)
  else
    let lat := convertFromHhmm platform latitude
    let lat := if latitudeHemi.head? = some (ascii 'S') then -lat else lat
    if longitude.length < 6 then (r, -1)
    else
      let lon := convertFromHhmm platform longitude
      let lon := if longitudeHemi.head? = some (ascii 'W') then -lon else lon
      ({ r with fix := { r.fix with
          flags := r.fix.flags ||| hasLatLong, latitude := lat, longitude := lon } }, 0)

/-- The updates of a single field differ in its flag and in how they store it. -/
def updateField (platform : Platform) (r : NmeaReader) (tok : Token) (flag : BitVec 16)
    (store : GpsLocation → ℚ → GpsLocation) : NmeaReader × Int :=
  if tok = [] then (r, -1)
  else
    let fix := { r.fix with flags := r.fix.flags ||| flag }
    ({ r with fix := store fix (str2float platform.strtod tok) }, 0)

def updateAltitude (platform : Platform) (r : NmeaReader) (altitude : Token) :
    NmeaReader × Int :=
  updateField platform r altitude hasAltitude (fun fix value => { fix with altitude := value })

def updateBearing (platform : Platform) (r : NmeaReader) (bearing : Token) : NmeaReader × Int :=
  updateField platform r bearing hasBearing (fun fix value => { fix with bearing := value })

/-- The speed comes in knots. -/
def updateSpeed (platform : Platform) (r : NmeaReader) (speed : Token) : NmeaReader × Int :=
  updateField platform r speed hasSpeed
    (fun fix value => { fix with speed := value / (1942795467 / 1000000000) })

def updateAccuracy (platform : Platform) (r : NmeaReader) (accuracy : Token) :
    NmeaReader × Int :=
  updateField platform r accuracy hasAccuracy (fun fix value => { fix with accuracy := value })

def parseGga (platform : Platform) (moment : Moment) (r : NmeaReader) (tzer : NmeaTokenizer) :
    NmeaReader :=
  let r := (updateTime platform moment r (tzer.get 1)).1
  let r := (updateLatlong platform r (tzer.get 2) (tzer.get 3) (tzer.get 4) (tzer.get 5)).1
  (updateAltitude platform r (tzer.get 9)).1

def parseRmc (platform : Platform) (moment : Moment) (r : NmeaReader) (tzer : NmeaTokenizer) :
    NmeaReader :=
  if (tzer.get 2).head? = some (ascii 'A') then
    let r := (updateDate platform moment r (tzer.get 9) (tzer.get 1)).1
    let r := (updateLatlong platform r (tzer.get 3) (tzer.get 4) (tzer.get 5) (tzer.get 6)).1
    let r := (updateBearing platform r (tzer.get 8)).1
    (updateSpeed platform r (tzer.get 7)).1
  else r

/-- Ids of BD sentences are moved up by 200. -/
def svId (bds : Bool) (tok : Token) : Int :=
  if bds then int32 (str2int tok + 200) else str2int tok

/-- The twelve satellite fields of a GSA sentence. -/
def gsaFields (tzer : NmeaTokenizer) : List Token :=
  (List.range 12).map (fun idx : Nat => tzer.get ((idx : Int) + 3))

def gsaUsedInFix (bds : Bool) : List Token → (Int → Int) → Int → Int
  | [], used => used
  | tok :: rest, used =>
      let sateId := svId bds tok
      if tok = [] then used
      else if 1 ≤ sateId ∧ sateId ≤ 32 then
        gsaUsedInFix bds rest (Function.update used sateId 1)
      else if 193 ≤ sateId ∧ sateId ≤ 197 then
        gsaUsedInFix bds rest (Function.update used sateId 0)
      else if 65 ≤ sateId ∧ sateId ≤ 96 then
        gsaUsedInFix bds rest (Function.update used sateId 1)
      else if 201 ≤ sateId ∧ sateId ≤ 232 then
        gsaUsedInFix bds rest (Function.update used sateId 1)
      else used

def gsaMask : List Token → BitVec 32 → BitVec 32
  | [], mask => mask
  | tok :: rest, mask =>
      let sateId := str2int tok
      if tok = [] then mask
      else if 1 ≤ sateId ∧ sateId ≤ 32 then gsaMask rest (mask ||| 1 <<< (sateId - 1).toNat)
      else if 193 ≤ sateId ∧ sateId ≤ 197 then gsaMask rest mask
      else 0

def parseGsaGnss (r : NmeaReader) (bds : Bool) (tzer : NmeaTokenizer) : NmeaReader :=
  let r := { r with fixMode := str2int (tzer.get 2) }
  if r.locFixed then { r with svUsedInFix := gsaUsedInFix bds (gsaFields tzer) r.svUsedInFix }
  else r

def parseGsaGps (r : NmeaReader) (tzer : NmeaTokenizer) : NmeaReader :=
  let r := { r with fixMode := str2int (tzer.get 2), usedInFixMask := 0 }
  if r.locFixed then { r with usedInFixMask := gsaMask (gsaFields tzer) 0 } else r

/-- One satellite list with the counter of the entries that are not committed yet. -/
structure Counting (α : Type) where
  svCount : Int
  numSvs : Int
  svList : Int → α
  trace : List SvEvent

variable {α : Type}

def Counting.restart (c : Counting α) : Counting α :=
  { c with svCount := 0, trace := c.trace ++ [.restart] }

def Counting.put (c : Counting α) (maxSvs : Int) (entry : α) : Counting α :=
  let svIndex := c.svCount + c.numSvs
  if maxSvs ≤ c.svCount then c
  else if maxSvs ≤ svIndex then c
  else
    { c with
      svCount := c.svCount + 1
      svList := Function.update c.svList svIndex entry
      trace := c.trace ++ [.write svIndex] }

def Counting.commit (c : Counting α) : Counting α :=
  { c with numSvs := c.numSvs + c.svCount, trace := c.trace ++ [.commit c.svCount] }

def Counting.drop (c : Counting α) : Counting α :=
  { c with svCount := 0, numSvs := 0, trace := c.trace ++ [.drop] }

def Counting.report (c : Counting α) : Counting α :=
  { c with svCount := 0, numSvs := 0, trace := c.trace ++ [.report c.numSvs] }

/-- What the receiver of the status reads. -/
def Counting.listed (c : Counting α) : List α :=
  (List.range c.numSvs.toNat).map (fun i : Nat => c.svList (i : Int))

/-- The fields of one slot of a GSV sentence. -/
structure Slot where
  id : Token
  elevation : Token
  azimuth : Token
  snr : Token
  deriving DecidableEq, Repr

def gsvSlot (tzer : NmeaTokenizer) (idx : Nat) : Slot :=
  let baseIdx : Int := 4 * (idx + 1)
  ⟨tzer.get baseIdx, tzer.get (baseIdx + 1), tzer.get (baseIdx + 2), tzer.get (baseIdx + 3)⟩

/-- The slots that the message `seq` of `cnt` satellites in view fills. -/
def gsvSlots (tzer : NmeaTokenizer) (seq cnt : Int) : List Slot :=
  let svBase := int32 (int32 (seq - 1) * 4)
  let svNum := min (int32 (cnt - svBase)) 4
  (List.range svNum.toNat).map (gsvSlot tzer)

def gsvFirst (seq : Int) (c : Counting α) : Counting α := if seq = 1 then c.restart else c

def gsvLast (num seq cnt : Int) (c : Counting α) : Counting α :=
  if seq = num then
    if c.svCount ≤ cnt then c.commit else c.drop
  else c

/-- A GSV sentence of either mode; `update` stores one satellite. -/
def parseGsv (update : Counting α → Slot → Counting α) (tzer : NmeaTokenizer)
    (c : Counting α) : Counting α :=
  let num := str2int (tzer.get 1)
  let seq := str2int (tzer.get 2)
  let cnt := str2int (tzer.get 3)
  gsvLast num seq cnt ((gsvSlots tzer seq cnt).foldl update (gsvFirst seq c))

def updateSvStatusGps (platform : Platform) (bds : Bool) (c : Counting GpsSvInfo)
    (slot : Slot) : Counting GpsSvInfo :=
  let prn := svId bds slot.id
  if prn ≤ 0 ∨ (prn < 65 ∧ platform.gpsMaxSvs < prn) ∨ 96 < prn then c
  else c.put platform.gpsMaxSvs
    ⟨prn, str2float platform.strtod slot.snr, str2int slot.elevation, str2int slot.azimuth⟩

def constellation (id : Int) : Constellation :=
  if id < 33 then .gps else if 200 < id then .beidou else .glonass

def updateSvStatusGnss (platform : Platform) (svUsedInFix : Int → Int) (bds : Bool)
    (c : Counting GnssSvInfo) (slot : Slot) : Counting GnssSvInfo :=
  let prn := svId bds slot.id
  if prn ≤ 0 ∨ (prn < 65 ∧ platform.gpsMaxSvs < prn) ∨ (96 < prn ∧ prn < 200) ∨ 232 < prn then c
  else c.put platform.gnssMaxSvs
    { svid := prn
      constellation := constellation prn
      cN0Dbhz := str2float platform.strtod slot.snr
      elevation := str2int slot.elevation
      azimuth := str2int slot.azimuth
      flags := if svUsedInFix prn = 1 then svFlagsNone ||| svFlagsUsedInFix else svFlagsNone }

def NmeaReader.gps (r : NmeaReader) : Counting GpsSvInfo :=
  ⟨r.svCount, r.svStatusGps.numSvs, r.svStatusGps.svList, r.svTrace⟩

def NmeaReader.gnss (r : NmeaReader) : Counting GnssSvInfo :=
  ⟨r.svCount, r.svStatusGnss.numSvs, r.svStatusGnss.svList, r.svTrace⟩

def NmeaReader.setGps (r : NmeaReader) (c : Counting GpsSvInfo) : NmeaReader :=
  { r with svCount := c.svCount, svStatusGps := ⟨c.numSvs, c.svList⟩, svTrace := c.trace }

def NmeaReader.setGnss (r : NmeaReader) (c : Counting GnssSvInfo) : NmeaReader :=
  { r with svCount := c.svCount, svStatusGnss := ⟨c.numSvs, c.svList⟩, svTrace := c.trace }

def parseGsvGnss (platform : Platform) (r : NmeaReader) (bds : Bool) (tzer : NmeaTokenizer) :
    NmeaReader :=
  r.setGnss (parseGsv (updateSvStatusGnss platform r.svUsedInFix bds) tzer r.gnss)

def parseGsvGps (platform : Platform) (r : NmeaReader) (bds : Bool) (tzer : NmeaTokenizer) :
    NmeaReader :=
  r.setGps (parseGsv (updateSvStatusGps platform bds) tzer r.gps)

def startsWith (tok : Token) (text : String) : Bool := (bytes text).isPrefixOf tok

inductive Sentence where
  | gga
  | gsaGnss
  | gsaGps
  | rmc
  | gsvGnss
  | gsvGps
  | accuracy
  | unknown
  deriving DecidableEq, Repr

/-- The branch that the sentence id selects. -/
def sentenceKind (gpsMode : Int) (mtok : Token) : Sentence :=
  let tok := mtok.drop 2
  if startsWith tok "GGA" then .gga
  else if gpsMode = 0 ∧
      (startsWith mtok "GPGSA" ∨ startsWith mtok "BDGSA" ∨ startsWith mtok "GLGSA") then .gsaGnss
  else if gpsMode = 1 ∧ startsWith mtok "GPGSA" then .gsaGps
  else if startsWith tok "RMC" then .rmc
  else if gpsMode = 0 ∧ startsWith tok "GSV" then .gsvGnss
  else if gpsMode = 1 ∧ (startsWith mtok "GPGSV" ∨ startsWith mtok "GLGSV") then .gsvGps
  else if startsWith tok "ACCURACY" then .accuracy
  else .unknown

def parseFields (platform : Platform) (moment : Moment) (r : NmeaReader) (tzer : NmeaTokenizer) :
    NmeaReader :=
  let mtok := tzer.get 0
  let bds := startsWith mtok "BD"
  match sentenceKind platform.gpsMode mtok with
  | .gga => parseGga platform moment r tzer
  | .gsaGnss => parseGsaGnss r bds tzer
  | .gsaGps => parseGsaGps r tzer
  | .rmc => parseRmc platform moment r tzer
  | .gsvGnss => parseGsvGnss platform r bds tzer
  | .gsvGps => parseGsvGps platform r bds tzer
  | .accuracy => if r.locFixed then (updateAccuracy platform r (tzer.get 1)).1 else r
  | .unknown => r

def NmeaReader.nlpContext (r : NmeaReader) (moment : Moment) : NlpContext where
  latitude := r.fix.latitude
  longitude := r.fix.longitude
  accuracy := r.fix.accuracy
  seconds := r.fix.timestamp.tdiv 1000
  nanoseconds := r.fix.timestamp.tmod 1000 * 1000 * 1000
  started := moment.started

def reportLocation (moment : Moment) (r : NmeaReader) : NmeaReader :=
  if !r.locFixed then r
  else if r.fix.flags ≠ 0 ∧ moment.gpsNmeaEndTag then
    let r := if moment.mnlProp then r.record (.gpsLogWrite r.fix.latitude r.fix.longitude) else r
    let r := r.record (.locationCb r.fix)
    let r := r.record (.updateLocation (r.nlpContext moment))
    { r with fix := { r.fix with flags := 0 } }
  else r

def reportGnss (moment : Moment) (r : NmeaReader) : NmeaReader :=
  if r.svStatusGnss.numSvs ≠ 0 ∧ moment.gpsNmeaEndTag then
    let reported := (r.record (.gnssSvStatusCb r.gnss.listed)).setGnss r.gnss.report
    { reported with svUsedInFix := fun _ => 0 }
  else r

/-- The loop over the entries reports in its first turn and clears its own bound. -/
def reportGps (moment : Moment) (r : NmeaReader) : NmeaReader :=
  if r.svStatusGps.numSvs ≠ 0 ∧ moment.gpsNmeaEndTag then
    if 0 < r.svStatusGps.numSvs then
      let reported := (r.record (.svStatusCb r.gps.listed r.usedInFixMask)).setGps r.gps.report
      { reported with usedInFixMask := 0 }
    else r
  else r

def reportSvStatus (platform : Platform) (moment : Moment) (r : NmeaReader) : NmeaReader :=
  if platform.gpsMode = 0 then reportGnss moment r else reportGps moment r

def nmeaReaderParse (platform : Platform) (moment : Moment) (r : NmeaReader)
    (sentence : Bytes) : NmeaReader :=
  let r := r.record (.parse sentence)
  let tzer := nmeaTokenizerInit sentence
  if sentence.length < 9 then r
  else if (tzer.get 0).length < 5 then r
  else reportSvStatus platform moment (reportLocation moment (parseFields platform moment r tzer))

def nmeaMaxSize : Nat := 128

def nmeaReaderFinish (platform : Platform) (moment : Moment) (r : NmeaReader) : NmeaReader :=
  let r := nmeaReaderParse platform moment r r.input
  { r.record (.nmeaCb r.fix.timestamp r.input) with input := [] }

/-- `input` holds `in` up to `pos`. -/
def nmeaReaderAddc (platform : Platform) (moment : Moment) (r : NmeaReader) (c : UInt8) :
    NmeaReader :=
  if r.overflow then { r with overflow := decide (c ≠ newline) }
  else if nmeaMaxSize ≤ r.input.length then { r with overflow := true, input := [] }
  else
    let r := { r with input := r.input ++ [c] }
    if c = newline then nmeaReaderFinish platform moment r else r

/-- Feeds bytes, each with its moment. -/
def feed (platform : Platform) (r : NmeaReader) (stream : List (UInt8 × Moment)) : NmeaReader :=
  stream.foldl (fun r next => nmeaReaderAddc platform next.2 r next.1) r

/-- The value of the digits at the front, as `strtod` reads an integer. -/
def leadingDigits (text : Bytes) : ℚ :=
  ((text.takeWhile (fun b => 48 ≤ b && b ≤ 57)).foldl (fun n b => n * 10 + (b.toNat - 48)) 0 : ℕ)

/-- Mode 0 with the list sizes of the platform, the clock at the epoch. -/
def gnssPlatform : Platform where
  gpsMaxSvs := 32
  gnssMaxSvs := 64
  gpsMode := 0
  strtod := leadingDigits
  mktime := fun _ => 0
  gmtoff := fun _ => 0
  gpsMaxSvs_pos := by decide
  gnssMaxSvs_pos := by decide
  gpsMaxSvs_int := by decide
  gnssMaxSvs_int := by decide

/-- One `read` from the GPS descriptor: only its last byte carries the end tag. -/
def chunk (moment : Moment) : Bytes → List (UInt8 × Moment)
  | [] => []
  | [c] => [(c, { moment with gpsNmeaEndTag := true })]
  | c :: rest => (c, { moment with gpsNmeaEndTag := false }) :: chunk moment rest

def epochMoment : Moment := ⟨false, ⟨1970, 1, 1⟩, false, true⟩

/-- Only the date and the fix differ. -/
def FixOnly (r r' : NmeaReader) : Prop := ∃ utc fix, r' = { r with utc := utc, fix := fix }

theorem FixOnly.refl (r : NmeaReader) : FixOnly r r := ⟨r.utc, r.fix, rfl⟩

theorem FixOnly.trans {first second third : NmeaReader} (before : FixOnly first second)
    (after : FixOnly second third) : FixOnly first third := by
  rcases before with ⟨utc, fix, rfl⟩
  rcases after with ⟨utc', fix', rfl⟩
  exact ⟨utc', fix', rfl⟩

theorem updateTime_fixOnly (platform : Platform) (moment : Moment) (r : NmeaReader) (tok : Token) :
    FixOnly r (updateTime platform moment r tok).1 := by
  rw [updateTime]
  split
  · exact FixOnly.refl r
  · exact ⟨_, _, rfl⟩

theorem updateDate_fixOnly (platform : Platform) (moment : Moment) (r : NmeaReader)
    (date time : Token) : FixOnly r (updateDate platform moment r date time).1 := by
  rw [updateDate]
  split
  · exact FixOnly.refl r
  · dsimp only
    split
    · exact FixOnly.refl r
    · apply FixOnly.trans _ (updateTime_fixOnly platform moment _ time)
      exact ⟨_, r.fix, rfl⟩

theorem updateLatlong_fixOnly (platform : Platform) (r : NmeaReader)
    (latitude latitudeHemi longitude longitudeHemi : Token) :
    FixOnly r (updateLatlong platform r latitude latitudeHemi longitude longitudeHemi).1 := by
  rw [updateLatlong]
  split
  · exact FixOnly.refl r
  · dsimp only
    split
    · exact FixOnly.refl r
    · exact ⟨r.utc, _, rfl⟩

theorem updateField_fixOnly (platform : Platform) (r : NmeaReader) (tok : Token)
    (flag : BitVec 16) (store : GpsLocation → ℚ → GpsLocation) :
    FixOnly r (updateField platform r tok flag store).1 := by
  rw [updateField]
  split
  · exact FixOnly.refl r
  · exact ⟨r.utc, _, rfl⟩

theorem parseGga_fixOnly (platform : Platform) (moment : Moment) (r : NmeaReader)
    (tzer : NmeaTokenizer) : FixOnly r (parseGga platform moment r tzer) := by
  apply FixOnly.trans (updateTime_fixOnly platform moment r (tzer.get 1))
  apply FixOnly.trans (updateLatlong_fixOnly platform _ _ _ _ _)
  exact updateField_fixOnly platform _ _ _ _

theorem parseRmc_fixOnly (platform : Platform) (moment : Moment) (r : NmeaReader)
    (tzer : NmeaTokenizer) : FixOnly r (parseRmc platform moment r tzer) := by
  rw [parseRmc]
  split
  · apply FixOnly.trans (updateDate_fixOnly platform moment r (tzer.get 9) (tzer.get 1))
    apply FixOnly.trans (updateLatlong_fixOnly platform _ _ _ _ _)
    apply FixOnly.trans (updateField_fixOnly platform _ _ _ _)
    exact updateField_fixOnly platform _ _ _ _
  · exact FixOnly.refl r

/-- What the fields of a sentence can change: the fix, the fix mode with the used satellites,
or one satellite list. -/
theorem parseFields_cases (platform : Platform) (moment : Moment) (r : NmeaReader)
    (tzer : NmeaTokenizer) :
    FixOnly r (parseFields platform moment r tzer) ∨
      (∃ mode mask used, parseFields platform moment r tzer =
        { r with fixMode := mode, usedInFixMask := mask, svUsedInFix := used }) ∨
      (sentenceKind platform.gpsMode (tzer.get 0) = .gsvGnss ∧
        parseFields platform moment r tzer =
          parseGsvGnss platform r (startsWith (tzer.get 0) "BD") tzer) ∨
      (sentenceKind platform.gpsMode (tzer.get 0) = .gsvGps ∧
        parseFields platform moment r tzer =
          parseGsvGps platform r (startsWith (tzer.get 0) "BD") tzer) := by
  unfold parseFields
  dsimp only
  cases kind : sentenceKind platform.gpsMode (tzer.get 0) with
  | gga => exact Or.inl (parseGga_fixOnly platform moment r tzer)
  | rmc => exact Or.inl (parseRmc_fixOnly platform moment r tzer)
  | unknown => exact Or.inl (FixOnly.refl r)
  | gsvGnss => exact Or.inr (Or.inr (Or.inl ⟨rfl, rfl⟩))
  | gsvGps => exact Or.inr (Or.inr (Or.inr ⟨rfl, rfl⟩))
  | accuracy =>
      apply Or.inl
      dsimp only
      split
      · exact updateField_fixOnly platform r _ _ _
      · exact FixOnly.refl r
  | gsaGnss =>
      apply Or.inr (Or.inl _)
      dsimp only [parseGsaGnss]
      split <;> exact ⟨_, _, _, rfl⟩
  | gsaGps =>
      apply Or.inr (Or.inl _)
      dsimp only [parseGsaGps]
      split <;> exact ⟨_, _, _, rfl⟩

theorem parseGsvGnss_gnss (platform : Platform) (r : NmeaReader) (bds : Bool)
    (tzer : NmeaTokenizer) :
    (parseGsvGnss platform r bds tzer).gnss =
      parseGsv (updateSvStatusGnss platform r.svUsedInFix bds) tzer r.gnss := rfl

theorem parseFields_gsvGnss {platform : Platform} (moment : Moment) (r : NmeaReader)
    {tzer : NmeaTokenizer} (kind : sentenceKind platform.gpsMode (tzer.get 0) = .gsvGnss) :
    parseFields platform moment r tzer =
      parseGsvGnss platform r (startsWith (tzer.get 0) "BD") tzer := by
  simp only [parseFields, kind]

/-- A GNSS list is read in mode 0 only, a GPS list in mode 1 only. -/
theorem sentenceKind_mode {gpsMode : Int} {mtok : Token} :
    (sentenceKind gpsMode mtok = .gsvGnss → gpsMode = 0) ∧
      (sentenceKind gpsMode mtok = .gsvGps → gpsMode = 1) := by
  rw [sentenceKind]
  grind

def locationEvent : Event → Prop
  | .gpsLogWrite _ _ | .locationCb _ | .updateLocation _ => True
  | _ => False

/-- A location report appends its own kinds of events and clears the flags of the fix. -/
theorem reportLocation_cases (moment : Moment) (r : NmeaReader) :
    ∃ fix events, reportLocation moment r = { r with fix := fix, log := r.log ++ events } ∧
      ∀ event ∈ events, locationEvent event := by
  rw [reportLocation]
  split
  · exact ⟨r.fix, [], by simp, by simp⟩
  · split
    · cases logged : moment.mnlProp
      · exact ⟨{ r.fix with flags := 0 }, [.locationCb r.fix, .updateLocation (r.nlpContext moment)],
          by simp [NmeaReader.record, NmeaReader.nlpContext],
          by simp [locationEvent]⟩
      · exact ⟨{ r.fix with flags := 0 }, [.gpsLogWrite r.fix.latitude r.fix.longitude, .locationCb r.fix,
          .updateLocation (r.nlpContext moment)],
          by simp [NmeaReader.record, NmeaReader.nlpContext],
          by simp [locationEvent]⟩
    · exact ⟨r.fix, [], by simp, by simp⟩

/-- A byte either completes a sentence or moves the line only. -/
theorem nmeaReaderAddc_cases (platform : Platform) (moment : Moment) (r : NmeaReader) (c : UInt8) :
    (r.overflow = false ∧ r.input.length < nmeaMaxSize ∧ c = newline ∧
      nmeaReaderAddc platform moment r c =
        nmeaReaderFinish platform moment { r with input := r.input ++ [c] }) ∨
      (¬ (r.overflow = false ∧ r.input.length < nmeaMaxSize ∧ c = newline) ∧
        ∃ overflow input, nmeaReaderAddc platform moment r c =
          { r with overflow := overflow, input := input }) := by
  rw [nmeaReaderAddc]
  split
  case isTrue skips =>
    right
    exact ⟨by simp [skips], _, r.input, rfl⟩
  case isFalse collects =>
    split
    case isTrue full =>
      right
      exact ⟨by omega, true, [], rfl⟩
    case isFalse room =>
      dsimp only
      split
      case isTrue ends =>
        left
        exact ⟨Bool.eq_false_iff.mpr collects, not_le.mp room, ends, rfl⟩
      case isFalse inside =>
        right
        exact ⟨by simp [inside], r.overflow, r.input ++ [c], rfl⟩

end X5MaxDevice.Gps.Reader
