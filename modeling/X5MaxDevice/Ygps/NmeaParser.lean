import X5MaxDevice.Base.JavaFloat
import Mathlib.Logic.Function.Basic

/-! The NMEA parser of the YGPS application: its records, its satellite lists and the
notification of its listeners. -/

namespace X5MaxDevice.Ygps

open X5MaxDevice.Java

inductive Talker where
  | gp | gl | ga | bd
  deriving DecidableEq, Repr

def Talker.text : Talker → JString
  | .gp => "$GP".toList
  | .gl => "$GL".toList
  | .ga => "$GA".toList
  | .bd => "$BD".toList

def mTalker : List Talker := [.gp, .gl, .ga, .bd]

inductive ParseState where
  | uninit | gga | gsa | gsv | rmc | others
  deriving DecidableEq, Repr

structure SatelliteInfo where
  mPrn : Int
  mSnr : JFloat
  mElevation : JFloat
  mAzimuth : JFloat
  mUsedInFix : Bool
  mColor : Nat
  deriving DecidableEq

structure SVExtraInfro where
  mPdop : JString
  mHdop : JString
  mVdop : JString
  mfixtype : JString
  deriving DecidableEq

/-- What the setters of a `Location` were last called with. -/
structure Location where
  time : Int
  latitude : JDouble
  longitude : JDouble
  altitude : JDouble
  bearing : JFloat
  speed : JFloat
  deriving DecidableEq

/-- The parser; the talker `none` is the unsupported one. An absent used-in-fix list
reads as an empty one. -/
structure NmeaParser (L : Type) where
  mCurrentTalker : Option Talker
  mParseState : ParseState
  mSatelInfoList : Talker → List SatelliteInfo
  mExtraInfoList : Talker → SVExtraInfro
  mLocRecord : Talker → Location
  mUsedFixIdMapList : Option Talker → List Int
  mListener : List L

/-- One call of `onViewupdateNotify`, with the lists that the listener finds. -/
structure Notification (L : Type) where
  listener : L
  satellites : Talker → List SatelliteInfo
  usedFixIds : Option Talker → List Int

/-- What one call of `parse` leaves behind. -/
structure Outcome (L : Type) where
  parser : NmeaParser L
  notified : List (Notification L)
  result : Except Exception Unit

section

variable {L : Type}

/-- The constructor; the given listeners were added before the first record. -/
def NmeaParser.create (listeners : List L) : NmeaParser L :=
  ⟨none, .uninit, fun _ => [], fun _ => ⟨[], [], [], []⟩,
    fun _ => ⟨0, .zero, .zero, .zero, .zero, .zero⟩, fun _ => [], listeners⟩

def NmeaParser.isUsedInFix (parser : NmeaParser L) (prn : Int) : Bool :=
  (parser.mUsedFixIdMapList parser.mCurrentTalker).contains prn

def NmeaParser.setUsedFixIds (parser : NmeaParser L) (ids : List Int) : NmeaParser L :=
  { parser with
    mUsedFixIdMapList := Function.update parser.mUsedFixIdMapList parser.mCurrentTalker ids }

def NmeaParser.addUsedFixId (parser : NmeaParser L) (prn : Int) : NmeaParser L :=
  parser.setUsedFixIds (parser.mUsedFixIdMapList parser.mCurrentTalker ++ [prn])

def NmeaParser.clearUsedFixList (parser : NmeaParser L) : NmeaParser L :=
  parser.setUsedFixIds []

def NmeaParser.setSatellites (parser : NmeaParser L) (talker : Talker)
    (satellites : List SatelliteInfo) : NmeaParser L :=
  { parser with mSatelInfoList := Function.update parser.mSatelInfoList talker satellites }

/-- The merged list in the order in which the hash map iterates over its talkers. -/
def NmeaParser.getSatelliteList (keys : List Talker) (parser : NmeaParser L) :
    List SatelliteInfo :=
  keys.flatMap parser.mSatelInfoList

/-- `clearSatelliteList()`. -/
def NmeaParser.clearSatelliteList (parser : NmeaParser L) : NmeaParser L :=
  { parser with mSatelInfoList := fun _ => [] }

/-- `clearSatelliteList(talker)` keeps the satellites and takes their flags away. -/
def NmeaParser.clearUsedInFix (parser : NmeaParser L) (talker : Talker) : NmeaParser L :=
  parser.setSatellites talker
    ((parser.mSatelInfoList talker).map (fun sv => { sv with mUsedInFix := false }))

def NmeaParser.setExtra (parser : NmeaParser L) (talker : Talker) (info : SVExtraInfro) :
    NmeaParser L :=
  { parser with mExtraInfoList := Function.update parser.mExtraInfoList talker info }

def NmeaParser.setLocation (parser : NmeaParser L) (talker : Talker) (loc : Location) :
    NmeaParser L :=
  { parser with mLocRecord := Function.update parser.mLocRecord talker loc }

def checkTalker (record : JString) : Option Talker :=
  mTalker.find? (fun talker => contains record talker.text)

/-- The talkers are compared without their dollar sign here. -/
def checkTalkerColor (record : JString) : Nat :=
  if record = "GP".toList then 0xff00ffff
  else if record = "GL".toList then 0xffffff00
  else if record = "GA".toList then 0xffffffff
  else if record = "BD".toList then 0xff0000ff
  else 0xffff0000

def removeFirstZero (record : JString) : JString :=
  match record.dropWhile (· = '0') with
  | [] => ['0']
  | rest => rest

/-- The value of a field by a conversion of the library; zero when it is empty, and zero
again for the caught `NumberFormatException`. -/
def number {α : Type} (convert : JString → Except Exception α) (zero : α) (str : JString) : α :=
  if str = [] then zero
  else match convert (removeFirstZero str) with
    | .ok d => d
    | .error _ => zero

def parseFloat : JString → JFloat := number Java.parseFloat .zero

def parseDouble : JString → JDouble := number Java.parseDouble .zero

def parseInt : JString → Int := number Java.parseInt 0

/-- `values[index]`. -/
def field (values : List JString) (index : Nat) : Except Exception JString :=
  match values[index]? with
  | some value => .ok value
  | none => .error .indexOutOfBounds

/-- A coordinate, negative unless its direction is the given one. -/
def coordinate (value : JDouble) (direction positive : JString) : JDouble :=
  if direction = positive then value else value.neg

structure RmcFields where
  warning : JString
  latitude : JString
  latitudeDirection : JString
  longitude : JString
  longitudeDirection : JString
  groundSpeed : JString
  courseString : JString

def readRMC (values : List JString) : Except Exception RmcFields := do
  let warning ← field values 2
  let latitude ← field values 3
  let latitudeDirection ← field values 4
  let longitude ← field values 5
  let longitudeDirection ← field values 6
  let groundSpeed ← field values 7
  let courseString ← field values 8
  return ⟨warning, latitude, latitudeDirection, longitude, longitudeDirection, groundSpeed,
    courseString⟩

/-- The speed in km/h, where knots that are not positive count as 0. -/
def kilometres (groundSpeed : JDouble) : JDouble :=
  let speed := if groundSpeed.isPositive then
      groundSpeed.mul binary64 (binary64.round false (1852 / 1000))
    else .finite true 2
  if speed.isNegative then .zero else speed

def RmcFields.location (fields : RmcFields) (loc : Location) : Location :=
  let located := decide (fields.longitude ≠ [] ∧ fields.latitude ≠ [])
  let course := if fields.courseString ≠ [] then
      (parseDouble fields.courseString).toInteger 32
    else 0
  { loc with
    latitude := if located then
        coordinate (parseDouble fields.latitude) fields.latitudeDirection ['N']
      else .zero
    longitude := if located then
        coordinate (parseDouble fields.longitude) fields.longitudeDirection ['E']
      else .zero
    bearing := JFloat.ofInt course
    speed := (JFloat.ofDouble (kilometres (parseDouble fields.groundSpeed))).mul binary32
      (JFloat.ofInt 1000) }

def parseRMC (parser : NmeaParser L) (record : JString) : NmeaParser L × Except Exception Unit :=
  match readRMC (split ',' record) with
  | .error e => (parser, .error e)
  | .ok fields =>
      match parser.mCurrentTalker with
      | none => (parser, .ok ())
      | some talker =>
          if fields.warning = ['A'] then
            (parser.setLocation talker (fields.location (parser.mLocRecord talker)), .ok ())
          else (parser, .ok ())

def addUsedFixIds (parser : NmeaParser L) (values : List JString) : NmeaParser L :=
  values.foldl (fun parser value =>
    if 0 < parseInt value then parser.addUsedFixId (parseInt value) else parser) parser

/-- The length test admits records that have no `values[17]`. -/
def parseGSA (parser : NmeaParser L) (record : JString) : NmeaParser L × Except Exception Unit :=
  let values := split ',' record
  let cleared := parser.clearUsedFixList
  match parser.mCurrentTalker with
  | none => (cleared, .ok ())
  | some talker =>
      if 17 ≤ values.length then
        let fixtype := values.getD 2 []
        if fixtype = ['1'] then (cleared.clearUsedInFix talker, .ok ())
        else
          let used := addUsedFixIds (cleared.clearUsedInFix talker) ((values.drop 2).take 13)
          let info : SVExtraInfro :=
            { parser.mExtraInfoList talker with
              mfixtype := fixtype
              mPdop := values.getD 15 []
              mHdop := values.getD 16 [] }
          match field values 17 with
          | .ok vdop => (used.setExtra talker { info with mVdop := vdop }, .ok ())
          | .error e => (used.setExtra talker info, .error e)
      else (cleared.clearUsedInFix talker, .ok ())

structure GgaFields where
  utcTime : JString
  lat : JString
  longt : JString
  alti : JString
  latDirection : JString
  longtDirection : JString

def readGGA (values : List JString) : Except Exception GgaFields := do
  let utcTime ← field values 1
  let lat ← field values 2
  let longt ← field values 4
  let alti ← field values 9
  let latDirection ← field values 3
  let longtDirection ← field values 5
  return ⟨utcTime, lat, longt, alti, latDirection, longtDirection⟩

def GgaFields.location (fields : GgaFields) (loc : Location) : Location :=
  { loc with
    time := (parseDouble fields.utcTime).toInteger 64
    latitude := coordinate (parseDouble fields.lat) fields.latDirection ['N']
    longitude := coordinate (parseDouble fields.longt) fields.longtDirection ['E']
    altitude := parseDouble fields.alti }

/-- All lists are cleared before the first field is read. -/
def parseGGA (parser : NmeaParser L) (record : JString) : NmeaParser L × Except Exception Unit :=
  let cleared := parser.clearSatelliteList
  match readGGA (split ',' record) with
  | .error e => (cleared, .error e)
  | .ok fields =>
      match parser.mCurrentTalker with
      | none => (cleared, .ok ())
      | some talker =>
          (cleared.setLocation talker (fields.location (parser.mLocRecord talker)), .ok ())

/-- The SNR field of a satellite; the part before the checksum when it carries one. -/
def snrText (value : JString) : Except Exception JString :=
  if contains value ['*'] then field (split '*' value) 0 else .ok value

def satellite (parser : NmeaParser L) (talker : Talker)
    (satelliteNumber : Int) (elevation azimuth satelliteSnr : JFloat) : SatelliteInfo :=
  ⟨satelliteNumber, satelliteSnr, elevation, azimuth, parser.isUsedInFix satelliteNumber,
    checkTalkerColor talker.text⟩

/-- The loop over the groups of four fields. -/
def readSatellites (talker : Talker) (parser : NmeaParser L) :
    List JString → NmeaParser L × Except Exception Unit
  | prn :: elevation :: azimuth :: snr :: rest =>
      match snrText snr with
      | .error e => (parser, .error e)
      | .ok text =>
          let sat := satellite parser talker (parseInt prn) (parseFloat elevation)
            (parseFloat azimuth) (parseFloat text)
          let extended := if 0 < sat.mPrn then
              parser.setSatellites talker (parser.mSatelInfoList talker ++ [sat])
            else parser
          readSatellites talker extended rest
  | _ => (parser, .ok ())

def parseGSV (parser : NmeaParser L) (record : JString) : NmeaParser L × Except Exception Unit :=
  let values := split ',' record
  match parser.mCurrentTalker with
  | none => (parser, .ok ())
  | some talker =>
      match field values 1, field values 2 with
      | .ok total, .ok index =>
          let started := if 0 < parseInt total ∧ parseInt index = 1 then
              parser.setSatellites talker []
            else parser
          readSatellites talker started (values.drop 4)
      | _, _ => (parser, .error .indexOutOfBounds)

def NmeaParser.reportSVupdate (parser : NmeaParser L) : List (Notification L) :=
  parser.mListener.map (fun listener =>
    ⟨listener, parser.mSatelInfoList, parser.mUsedFixIdMapList⟩)

/-- The parser that a record is handed to, as the state that `parse` enters. -/
def dispatch (record : JString) : ParseState :=
  if contains record "RMC".toList then .rmc
  else if contains record "GSA".toList then .gsa
  else if contains record "GGA".toList then .gga
  else if contains record "GSV".toList then .gsv
  else .others

/-- The `catch` around each of the four parsers. -/
def caught : Except Exception Unit → Except Exception Unit
  | .error .numberFormat => .ok ()
  | result => result

def parse (parser : NmeaParser L) (record : JString) : Outcome L :=
  let addressed := { parser with mCurrentTalker := checkTalker record }
  let notified := if parser.mParseState = .gsv ∧ contains record "GSV".toList = false then
      addressed.reportSVupdate
    else []
  let entered := { addressed with mParseState := dispatch record }
  let (after, result) := match dispatch record with
    | .rmc => parseRMC entered record
    | .gsa => parseGSA entered record
    | .gga => parseGGA entered record
    | .gsv => parseGSV entered record
    | _ => (entered, .ok ())
  ⟨after, notified, caught result⟩

/-- The parser after the records. -/
def parseAll (parser : NmeaParser L) (records : List JString) : NmeaParser L :=
  records.foldl (fun parser record => (parse parser record).parser) parser

/-- The part of a parser that none of the four record parsers changes. -/
structure SameContext (before after : NmeaParser L) : Prop where
  mCurrentTalker : after.mCurrentTalker = before.mCurrentTalker
  mParseState : after.mParseState = before.mParseState
  mListener : after.mListener = before.mListener

theorem SameContext.refl (parser : NmeaParser L) : SameContext parser parser := ⟨rfl, rfl, rfl⟩

theorem SameContext.trans {first second third : NmeaParser L} (one : SameContext first second)
    (two : SameContext second third) : SameContext first third :=
  ⟨two.1.trans one.1, two.2.trans one.2, two.3.trans one.3⟩

theorem setSatellites_context (parser : NmeaParser L) (talker : Talker)
    (satellites : List SatelliteInfo) :
    SameContext parser (parser.setSatellites talker satellites) :=
  ⟨rfl, rfl, rfl⟩

theorem setUsedFixIds_context (parser : NmeaParser L) (ids : List Int) :
    SameContext parser (parser.setUsedFixIds ids) :=
  ⟨rfl, rfl, rfl⟩

theorem setExtra_context (parser : NmeaParser L) (talker : Talker) (info : SVExtraInfro) :
    SameContext parser (parser.setExtra talker info) :=
  ⟨rfl, rfl, rfl⟩

theorem readSatellites_context (talker : Talker) (parser : NmeaParser L)
    (values : List JString) : SameContext parser (readSatellites talker parser values).1 := by
  fun_induction readSatellites talker parser values with
  | case1 parser => exact .refl parser
  | case2 parser prn elevation azimuth snr rest text read sat extended ih =>
      have kept : SameContext parser extended := by
        simp only [extended]
        split
        · exact ⟨rfl, rfl, rfl⟩
        · exact .refl parser
      exact kept.trans ih
  | case3 => exact .refl _

theorem addUsedFixIds_context (parser : NmeaParser L) (values : List JString) :
    SameContext parser (addUsedFixIds parser values) := by
  induction values generalizing parser with
  | nil => exact .refl parser
  | cons value rest ih =>
      rw [addUsedFixIds, List.foldl_cons]
      split
      · exact (setUsedFixIds_context parser _).trans (ih (parser.addUsedFixId (parseInt value)))
      · exact ih parser

theorem parseRMC_context (parser : NmeaParser L) (record : JString) :
    SameContext parser (parseRMC parser record).1 := by
  unfold parseRMC
  repeat' split
  all_goals exact ⟨rfl, rfl, rfl⟩

theorem parseGSA_context (parser : NmeaParser L) (record : JString) :
    SameContext parser (parseGSA parser record).1 := by
  have used (talker : Talker) (values : List JString) : SameContext parser
      (addUsedFixIds (parser.clearUsedFixList.clearUsedInFix talker) values) :=
    (setUsedFixIds_context parser []).trans <|
      (setSatellites_context _ talker _).trans (addUsedFixIds_context _ values)
  simp only [parseGSA]
  split
  · exact ⟨rfl, rfl, rfl⟩
  · rename_i talker _
    repeat' split
    · exact ⟨rfl, rfl, rfl⟩
    · exact (used talker _).trans (setExtra_context _ talker _)
    · exact (used talker _).trans (setExtra_context _ talker _)
    · exact ⟨rfl, rfl, rfl⟩

theorem parseGGA_context (parser : NmeaParser L) (record : JString) :
    SameContext parser (parseGGA parser record).1 := by
  simp only [parseGGA]
  repeat' split
  all_goals exact ⟨rfl, rfl, rfl⟩

theorem parseGSV_context (parser : NmeaParser L) (record : JString) :
    SameContext parser (parseGSV parser record).1 := by
  simp only [parseGSV]
  split
  · exact .refl parser
  · split
    · split
      · exact (setSatellites_context parser _ []).trans (readSatellites_context _ _ _)
      · exact readSatellites_context _ _ _
    · exact .refl parser

/-- The record parser that was entered last is the state of the parser. -/
theorem parse_mParseState (parser : NmeaParser L) (record : JString) :
    (parse parser record).parser.mParseState = dispatch record := by
  simp only [parse]
  cases dispatched : dispatch record with
  | rmc => exact (parseRMC_context _ record).mParseState
  | gsa => exact (parseGSA_context _ record).mParseState
  | gga => exact (parseGGA_context _ record).mParseState
  | gsv => exact (parseGSV_context _ record).mParseState
  | uninit => rfl
  | others => rfl

theorem parse_mListener (parser : NmeaParser L) (record : JString) :
    (parse parser record).parser.mListener = parser.mListener := by
  simp only [parse]
  cases dispatched : dispatch record with
  | rmc => exact (parseRMC_context _ record).mListener
  | gsa => exact (parseGSA_context _ record).mListener
  | gga => exact (parseGGA_context _ record).mListener
  | gsv => exact (parseGSV_context _ record).mListener
  | uninit => rfl
  | others => rfl

end

end X5MaxDevice.Ygps
