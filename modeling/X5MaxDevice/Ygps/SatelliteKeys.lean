import X5MaxDevice.Base.Transitions
import X5MaxDevice.Ygps.NmeaParser
import Mathlib.Data.List.Nodup

/-! The merged satellite list that the views look up by PRN. -/

namespace X5MaxDevice.Ygps.SatelliteKeys

open X5MaxDevice.Java
open X5MaxDevice.Transitions

variable {L : Type}

/-- `SatelliteInfoManager`; its entries are copies of the parser's. -/
abbrev SatelliteInfoManager := List SatelliteInfo

def PRN_ANY : Int := -1
def PRN_ALL : Int := -2

def updateSatelliteInfo (_ : SatelliteInfoManager) (adapter : List SatelliteInfo) :
    SatelliteInfoManager :=
  adapter.foldl (fun satellites si => satellites ++ [si]) []

def usedInFixLoop (prn : Int) (result : Bool) : SatelliteInfoManager → Bool
  | [] => result
  | si :: rest =>
      if prn = PRN_ALL then
        if si.mUsedInFix = false then false else usedInFixLoop prn result rest
      else if prn = PRN_ANY then
        if si.mUsedInFix then true else usedInFixLoop prn result rest
      else if prn = si.mPrn then si.mUsedInFix
      else usedInFixLoop prn result rest

def isUsedInFix (manager : SatelliteInfoManager) (prn : Int) : Bool :=
  usedInFixLoop prn (decide (prn = PRN_ALL ∧ 0 < manager.length)) manager

/-- No PRN is published twice, and a lookup by PRN finds the flag of each published entry. -/
def KeyedByPrn (keys : List Talker) (parser : NmeaParser L) : Prop :=
  let published := parser.getSatelliteList keys
  (published.map SatelliteInfo.mPrn).Nodup ∧ ∀ (manager : SatelliteInfoManager),
    ∀ si ∈ published, isUsedInFix (updateSatelliteInfo manager published) si.mPrn = si.mUsedInFix

/-- The PRNs that a GSV record lists. -/
def satelliteNumbers : List JString → List Int
  | prn :: _ :: _ :: _ :: rest =>
      if 0 < parseInt prn then parseInt prn :: satelliteNumbers rest else satelliteNumbers rest
  | _ => []

/-- A message with number 1, which empties the list of its talker. -/
def restarts (values : List JString) : Bool :=
  decide (0 < parseInt (values.getD 1 []) ∧ parseInt (values.getD 2 []) = 1)

/-- A GSV record lists no PRN twice, and none that is in the list of some talker already,
unless the record empties this list. -/
def ListsNewPrns (parser : NmeaParser L) (record : JString) : Prop :=
  match dispatch record, checkTalker record with
  | .gsv, some talker =>
      let values := split ',' record
      let numbers := satelliteNumbers (values.drop 4)
      numbers.Nodup ∧ ∀ other ∈ mTalker, (other = talker ∧ restarts values = true) ∨
        ∀ sv ∈ parser.mSatelInfoList other, sv.mPrn ∉ numbers
  | _, _ => True

instance (parser : NmeaParser L) (record : JString) : Decidable (ListsNewPrns parser record) := by
  unfold ListsNewPrns
  split <;> infer_instance

def step (parser : NmeaParser L) (record : JString) : Option (NmeaParser L) :=
  some (parse parser record).parser

/-- All listed PRNs are positive and different, within a list and across the lists. -/
structure Keyed (lists : Talker → List SatelliteInfo) : Prop where
  positive : ∀ talker, ∀ sv ∈ lists talker, 0 < sv.mPrn
  distinct : ∀ talker, ((lists talker).map SatelliteInfo.mPrn).Nodup
  disjoint : ∀ talker other, talker ≠ other → ∀ sv ∈ lists talker, ∀ sv' ∈ lists other,
    sv.mPrn ≠ sv'.mPrn

theorem keyed_empty : Keyed fun _ => [] :=
  ⟨by simp, by simp, by simp⟩

/-- Only the PRNs matter. -/
theorem Keyed.congr {lists lists' : Talker → List SatelliteInfo} (keyed : Keyed lists)
    (same : ∀ talker, (lists' talker).map SatelliteInfo.mPrn =
      (lists talker).map SatelliteInfo.mPrn) : Keyed lists' := by
  have source (talker : Talker) (sv : SatelliteInfo) (member : sv ∈ lists' talker) :
      ∃ sv' ∈ lists talker, sv'.mPrn = sv.mPrn := by
    have mapped : sv.mPrn ∈ (lists talker).map SatelliteInfo.mPrn := by
      rw [← same]
      exact List.mem_map_of_mem member
    exact List.mem_map.mp mapped
  constructor
  · intro talker sv member
    obtain ⟨sv', listed, prn⟩ := source talker sv member
    exact prn ▸ keyed.positive talker sv' listed
  · intro talker
    rw [same]
    exact keyed.distinct talker
  · intro talker other apart sv member sv' member'
    obtain ⟨first, listed, prn⟩ := source talker sv member
    obtain ⟨second, listed', prn'⟩ := source other sv' member'
    rw [← prn, ← prn']
    exact keyed.disjoint talker other apart first listed second listed'

theorem keyed_setEmpty {parser : NmeaParser L} (keyed : Keyed parser.mSatelInfoList)
    (talker : Talker) : Keyed (parser.setSatellites talker []).mSatelInfoList := by
  have subset (other : Talker) :
      (parser.setSatellites talker []).mSatelInfoList other = [] ∨
        (parser.setSatellites talker []).mSatelInfoList other = parser.mSatelInfoList other := by
    by_cases same : other = talker
    · exact Or.inl (by simp [NmeaParser.setSatellites, same])
    · exact Or.inr (by simp [NmeaParser.setSatellites, same])
  have source (other : Talker) (sv : SatelliteInfo)
      (member : sv ∈ (parser.setSatellites talker []).mSatelInfoList other) :
      sv ∈ parser.mSatelInfoList other := by
    rcases subset other with none | same
    · rw [none] at member
      exact absurd member List.not_mem_nil
    · exact same ▸ member
  constructor
  · exact fun other sv member => keyed.positive other sv (source other sv member)
  · intro other
    rcases subset other with none | same
    · simp [none]
    · rw [same]
      exact keyed.distinct other
  · exact fun first second apart sv member sv' member' =>
      keyed.disjoint first second apart sv (source first sv member) sv' (source second sv' member')

/-- A new PRN can be appended to the list of any talker. -/
theorem keyed_append {parser : NmeaParser L} (keyed : Keyed parser.mSatelInfoList)
    (talker : Talker) {sat : SatelliteInfo} (positive : 0 < sat.mPrn)
    (fresh : ∀ other, ∀ sv ∈ parser.mSatelInfoList other, sv.mPrn ≠ sat.mPrn) :
    Keyed (parser.setSatellites talker (parser.mSatelInfoList talker ++ [sat])).mSatelInfoList := by
  have source (other : Talker) (sv : SatelliteInfo) (member : sv ∈ (parser.setSatellites talker
      (parser.mSatelInfoList talker ++ [sat])).mSatelInfoList other) :
      sv ∈ parser.mSatelInfoList other ∨ (other = talker ∧ sv = sat) := by
    by_cases same : other = talker
    · subst same
      simpa [NmeaParser.setSatellites] using member
    · exact Or.inl (by simpa [NmeaParser.setSatellites, same] using member)
  constructor
  · intro other sv member
    rcases source other sv member with old | ⟨-, rfl⟩
    · exact keyed.positive other sv old
    · exact positive
  · intro other
    by_cases same : other = talker
    · subst same
      have absent : sat.mPrn ∉ (parser.mSatelInfoList other).map SatelliteInfo.mPrn := by
        intro member
        obtain ⟨sv, listed, prn⟩ := List.mem_map.mp member
        exact fresh other sv listed prn
      simpa [NmeaParser.setSatellites, List.nodup_append] using
        ⟨keyed.distinct other, fun sv listed prn => absent (prn ▸ List.mem_map_of_mem listed)⟩
    · simpa [NmeaParser.setSatellites, same] using keyed.distinct other
  · intro first second apart sv member sv' member'
    rcases source first sv member with old | ⟨same, rfl⟩
    · rcases source second sv' member' with old' | ⟨-, rfl⟩
      · exact keyed.disjoint first second apart sv old sv' old'
      · exact fresh first sv old
    · rcases source second sv' member' with old' | ⟨same', -⟩
      · exact (fresh second sv' old').symm
      · exact absurd (same.trans same'.symm) apart

theorem readSatellites_keyed (talker : Talker) (parser : NmeaParser L) (values : List JString)
    (keyed : Keyed parser.mSatelInfoList) (distinct : (satelliteNumbers values).Nodup)
    (fresh : ∀ other, ∀ sv ∈ parser.mSatelInfoList other, sv.mPrn ∉ satelliteNumbers values) :
    Keyed (readSatellites talker parser values).1.mSatelInfoList := by
  fun_induction readSatellites talker parser values with
  | case1 => exact keyed
  | case2 parser prn elevation azimuth snr rest text read sat extended ih =>
      by_cases positive : 0 < parseInt prn
      · rw [satelliteNumbers, if_pos positive] at distinct fresh
        have grown : extended =
            parser.setSatellites talker (parser.mSatelInfoList talker ++ [sat]) := if_pos positive
        have apart (other : Talker) (sv : SatelliteInfo)
            (member : sv ∈ parser.mSatelInfoList other) :
            sv.mPrn ≠ parseInt prn ∧ sv.mPrn ∉ satelliteNumbers rest := by
          simpa using fresh other sv member
        apply ih
        · rw [grown]
          exact keyed_append keyed talker positive (fun other sv member => (apart other sv member).1)
        · exact (List.nodup_cons.mp distinct).2
        · intro other sv member
          rw [grown] at member
          by_cases same : other = talker
          · subst same
            have split : sv ∈ parser.mSatelInfoList other ∨ sv = sat := by
              simpa [NmeaParser.setSatellites] using member
            rcases split with old | rfl
            · exact (apart other sv old).2
            · exact (List.nodup_cons.mp distinct).1
          · have old : sv ∈ parser.mSatelInfoList other := by
              simpa [NmeaParser.setSatellites, same] using member
            exact (apart other sv old).2
      · rw [satelliteNumbers, if_neg positive] at distinct fresh
        have kept : extended = parser := if_neg positive
        apply ih
        · rw [kept]
          exact keyed
        · exact distinct
        · rw [kept]
          exact fresh
  | case3 => exact keyed

theorem parseRMC_satellites (parser : NmeaParser L) (record : JString) :
    (parseRMC parser record).1.mSatelInfoList = parser.mSatelInfoList := by
  unfold parseRMC
  repeat' split
  all_goals rfl

theorem parseGGA_satellites (parser : NmeaParser L) (record : JString) :
    (parseGGA parser record).1.mSatelInfoList = fun _ => [] := by
  simp only [parseGGA]
  repeat' split
  all_goals rfl

theorem addUsedFixIds_satellites (parser : NmeaParser L) (values : List JString) :
    (addUsedFixIds parser values).mSatelInfoList = parser.mSatelInfoList := by
  induction values generalizing parser with
  | nil => rfl
  | cons value rest ih =>
      rw [addUsedFixIds, List.foldl_cons]
      split
      · exact ih (parser.addUsedFixId (parseInt value))
      · exact ih parser

theorem clearUsedInFix_prns (parser : NmeaParser L) (talker other : Talker) :
    ((parser.clearUsedInFix talker).mSatelInfoList other).map SatelliteInfo.mPrn =
      (parser.mSatelInfoList other).map SatelliteInfo.mPrn := by
  by_cases same : other = talker
  · subst same
    simp [NmeaParser.clearUsedInFix, NmeaParser.setSatellites, Function.comp_def]
  · simp [NmeaParser.clearUsedInFix, NmeaParser.setSatellites, same]

/-- GSA records change flags only. -/
theorem parseGSA_prns (parser : NmeaParser L) (record : JString) (other : Talker) :
    ((parseGSA parser record).1.mSatelInfoList other).map SatelliteInfo.mPrn =
      (parser.mSatelInfoList other).map SatelliteInfo.mPrn := by
  have unflagged (talker : Talker) := clearUsedInFix_prns parser.clearUsedFixList talker other
  have used (talker : Talker) (values : List JString) :
      ((addUsedFixIds (parser.clearUsedFixList.clearUsedInFix talker) values).mSatelInfoList
        other).map SatelliteInfo.mPrn = (parser.mSatelInfoList other).map SatelliteInfo.mPrn := by
    rw [addUsedFixIds_satellites]
    exact unflagged talker
  simp only [parseGSA]
  split
  · rfl
  · rename_i talker _
    repeat' split
    · exact unflagged talker
    · exact used talker _
    · exact used talker _
    · exact unflagged talker

theorem field_eq_getD {values : List JString} {index : Nat} {value : JString}
    (read : field values index = .ok value) : values.getD index [] = value := by
  unfold field at read
  cases found : values[index]? with
  | none => simp [found] at read
  | some other =>
      obtain rfl : other = value := by simpa [found] using read
      simp [found]

theorem parseGSV_keyed {parser : NmeaParser L} {record : JString} {talker : Talker}
    (current : parser.mCurrentTalker = some talker) (keyed : Keyed parser.mSatelInfoList)
    (distinct : (satelliteNumbers ((split ',' record).drop 4)).Nodup)
    (fresh : ∀ other ∈ mTalker, (other = talker ∧ restarts (split ',' record) = true) ∨
      ∀ sv ∈ parser.mSatelInfoList other,
        sv.mPrn ∉ satelliteNumbers ((split ',' record).drop 4)) :
    Keyed (parseGSV parser record).1.mSatelInfoList := by
  have all (other : Talker) : other ∈ mTalker := by cases other <;> decide
  simp only [parseGSV, current]
  split
  · rename_i total index readTotal readIndex
    have restarting : restarts (split ',' record) =
        decide (0 < parseInt total ∧ parseInt index = 1) := by
      rw [restarts, field_eq_getD readTotal, field_eq_getD readIndex]
    by_cases first : 0 < parseInt total ∧ parseInt index = 1
    · rw [if_pos first]
      apply readSatellites_keyed talker _ _ (keyed_setEmpty keyed talker) distinct
      intro other sv member
      by_cases same : other = talker
      · subst same
        simp [NmeaParser.setSatellites] at member
      · have old : sv ∈ parser.mSatelInfoList other := by
          simpa [NmeaParser.setSatellites, same] using member
        rcases fresh other (all other) with own | absent
        · exact absurd own.1 same
        · exact absent sv old
    · rw [if_neg first]
      apply readSatellites_keyed talker _ _ keyed distinct
      intro other sv member
      rcases fresh other (all other) with own | absent
      · rw [restarting, decide_eq_true_iff] at own
        exact absurd own.2 first
      · exact absent sv member
  · exact keyed

/-- Every record that lists new PRNs only keeps the lists keyed. -/
theorem parse_keyed {parser : NmeaParser L} {record : JString}
    (keyed : Keyed parser.mSatelInfoList) (new : ListsNewPrns parser record) :
    Keyed (parse parser record).parser.mSatelInfoList := by
  simp only [parse]
  cases dispatched : dispatch record with
  | rmc =>
      rw [parseRMC_satellites]
      exact keyed
  | gsa => exact keyed.congr (fun other => parseGSA_prns _ record other)
  | gga =>
      rw [parseGGA_satellites]
      exact keyed_empty
  | gsv =>
      cases addressed : checkTalker record with
      | none => exact keyed
      | some talker =>
          simp only [ListsNewPrns, dispatched, addressed] at new
          exact parseGSV_keyed rfl keyed new.1 new.2
  | uninit => exact keyed
  | others => exact keyed

theorem updateSatelliteInfo_eq (manager : SatelliteInfoManager) (adapter : List SatelliteInfo) :
    updateSatelliteInfo manager adapter = adapter := by
  have copied (front : List SatelliteInfo) :
      adapter.foldl (fun satellites si => satellites ++ [si]) front = front ++ adapter := by
    induction adapter generalizing front with
    | nil => simp
    | cons si rest ih => simp [ih]
  exact copied []

/-- Among different PRNs, a lookup by a positive one finds the entry itself. -/
theorem usedInFixLoop_of_distinct {satellites : List SatelliteInfo} {si : SatelliteInfo}
    (distinct : (satellites.map SatelliteInfo.mPrn).Nodup) (member : si ∈ satellites)
    (positive : 0 < si.mPrn) (result : Bool) :
    usedInFixLoop si.mPrn result satellites = si.mUsedInFix := by
  have notAll : si.mPrn ≠ PRN_ALL := by simp only [PRN_ALL]; omega
  have notAny : si.mPrn ≠ PRN_ANY := by simp only [PRN_ANY]; omega
  induction satellites with
  | nil => exact absurd member List.not_mem_nil
  | cons first rest ih =>
      rw [List.map_cons, List.nodup_cons] at distinct
      rw [usedInFixLoop, if_neg notAll, if_neg notAny]
      rcases List.mem_cons.mp member with rfl | later
      · rw [if_pos rfl]
      · have other : si.mPrn ≠ first.mPrn := by
          intro same
          exact distinct.1 (same ▸ List.mem_map_of_mem later)
        rw [if_neg other]
        exact ih distinct.2 later

theorem Keyed.keyedByPrn {keys : List Talker} {parser : NmeaParser L}
    (keyed : Keyed parser.mSatelInfoList) (permuted : keys.Perm mTalker) :
    KeyedByPrn keys parser := by
  have unrepeated : keys.Nodup := permuted.nodup_iff.mpr (by decide)
  have distinct : ((parser.getSatelliteList keys).map SatelliteInfo.mPrn).Nodup := by
    rw [NmeaParser.getSatelliteList, List.map_flatMap, List.nodup_flatMap]
    refine ⟨fun talker _ => keyed.distinct talker, unrepeated.imp ?_⟩
    intro first second apart prn member member'
    obtain ⟨sv, listed, here⟩ := List.mem_map.mp member
    obtain ⟨sv', listed', there⟩ := List.mem_map.mp member'
    exact keyed.disjoint first second apart sv listed sv' listed' (here.trans there.symm)
  refine ⟨distinct, ?_⟩
  intro manager si member
  obtain ⟨talker, -, listed⟩ := List.mem_flatMap.mp member
  rw [updateSatelliteInfo_eq, isUsedInFix]
  exact usedInFixLoop_of_distinct distinct member (keyed.positive talker si listed) _

/-- In every run of records whose GSV records list new PRNs only, the published list is
keyed by PRN, in whatever order the hash map iterates. -/
theorem new_prns_stay_keyed {listeners : List L} {parser : NmeaParser L} {keys : List Talker}
    (permuted : keys.Perm mTalker)
    (reached : ReachesWhere ListsNewPrns step (.create listeners) parser) :
    KeyedByPrn keys parser := by
  have keyed : Keyed parser.mSatelInfoList := by
    apply reached.invariant (P := fun parser => Keyed parser.mSatelInfoList) keyed_empty
    intro before record after holds new stepped
    obtain rfl := Option.some.inj stepped
    exact parse_keyed holds new
  exact keyed.keyedByPrn permuted

def gpsAndBeidou : List JString :=
  ["$GPGSV,1,1,01,05,40,083,46*42".toList, "$BDGSV,1,1,01,06,30,120,31*6E".toList]

theorem gps_and_beidou_keyed : KeyedByPrn mTalker (parseAll (.create ([] : List Unit))
    gpsAndBeidou) :=
  new_prns_stay_keyed (.refl mTalker) (reachesWhere_foldl (by decide +kernel))

/-- GPS and BeiDou number their satellites from 1. -/
def sameNumber : List JString :=
  ["$GPGSV,1,1,01,05,40,083,46*42".toList, "$BDGSV,1,1,01,05,30,120,31*6D".toList]

theorem same_number_published_twice :
    ¬ ∀ (L : Type) (listeners : List L) (parser : NmeaParser L) (keys : List Talker),
      keys.Perm mTalker → Reaches step (.create listeners) parser → KeyedByPrn keys parser := by
  intro always
  have keyed := always Unit [] _ mTalker (.refl mTalker)
    (reaches_foldl (fun parser record => (parse parser record).parser) sameNumber _)
  have twice : ¬ (((parseAll (.create ([] : List Unit)) sameNumber).getSatelliteList mTalker).map
      SatelliteInfo.mPrn).Nodup := by
    decide +kernel
  exact twice keyed.1

end X5MaxDevice.Ygps.SatelliteKeys
