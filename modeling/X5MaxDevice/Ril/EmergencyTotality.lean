import Mathlib.Data.List.Perm.Basic
import X5MaxDevice.Ril.EccList

/-! The property strings and customized entries on which the emergency lookups return. -/

namespace X5MaxDevice.Ril.EmergencyTotality

open X5MaxDevice.Java
open X5MaxDevice.Ril.EccList

def Returns {α : Type} (result : Except Exception α) : Prop := ∃ value, result = .ok value

theorem returns_map {α β : Type} (f : α → β) (result : Except Exception α) :
    Returns (result.map f) ↔ Returns result := by
  cases result <;> simp [Returns, Except.map]

/-- `Integer.parseInt` accepts the text. -/
def Numeric (text : JString) : Prop := (decimalInt text).isSome = true

theorem returns_parseInt (text : JString) : Returns (parseInt text) ↔ Numeric text := by
  unfold Returns Numeric parseInt
  cases decimalInt text <;> simp

/-- The entries of `ril.ecc.service.category.list`. -/
def networkEntries (properties : SystemProperties) : List JString :=
  split ';' (properties categoryListProperty)

/-- The entry has the two parts of a number and its category. -/
def HasParts (strEccCategory ecc category : JString) : Prop :=
  split ',' strEccCategory = [ecc, category]

/-- Every network entry of two parts ends in a decimal `int`. -/
def NumericCategories (properties : SystemProperties) : Prop :=
  ∀ part ∈ networkEntries properties, ∀ ecc category, HasParts part ecc category → Numeric category

/-- A network entry of two parts spells the number. -/
def NetworkSpelled (properties : SystemProperties) (number : JString) : Prop :=
  ∃ part ∈ networkEntries properties, ∃ ecc category,
    HasParts part ecc category ∧ matchesNumber ecc number = true

/-- The first customized entry that spells the number, if there is one, has a decimal category. -/
def CustomizedNumeric (customized : List EccEntry) (number : JString) : Prop :=
  ∀ entry, customized.find? (fun entry => matchesNumber entry.ecc number) = some entry →
    Numeric entry.category

section NetworkMap

theorem mem_keys_put (map : CategoryMap) (ecc : JString) (value : Int) (key : JString) :
    key ∈ (map.put ecc value).map Prod.fst ↔ key ∈ map.map Prod.fst ∨ key = ecc := by
  rw [CategoryMap.put]
  split
  · rename_i present
    have kept : (map.map (fun entry => if entry.1 = ecc then (ecc, value) else entry)).map Prod.fst =
        map.map Prod.fst := by
      rw [List.map_map]
      refine List.map_congr_left fun entry _ => ?_
      by_cases same : entry.1 = ecc <;> simp [same]
    rw [kept]
    constructor
    · exact Or.inl
    · rintro (member | rfl)
      · exact member
      · exact present
  · simp

theorem not_hasParts_nil (ecc category : JString) : ¬ HasParts [] ecc category := by
  simp [HasParts, split]

theorem putCategory_of_hasParts {strEccCategory ecc category : JString}
    (parts : HasParts strEccCategory ecc category) (map : CategoryMap) :
    putCategory map strEccCategory = (parseInt category).map (map.put ecc) := by
  cases strEccCategory with
  | nil => exact absurd parts (not_hasParts_nil ecc category)
  | cons c rest =>
      rw [HasParts] at parts
      simp [putCategory, parts]

theorem putCategory_of_not_hasParts {strEccCategory : JString}
    (parts : ∀ ecc category, ¬ HasParts strEccCategory ecc category) (map : CategoryMap) :
    putCategory map strEccCategory = .ok map := by
  rw [putCategory]
  split
  · rfl
  · split
    · rename_i ecc category same
      exact absurd same (parts ecc category)
    · rfl

theorem putCategory_returns (map : CategoryMap) (strEccCategory : JString) :
    Returns (putCategory map strEccCategory) ↔
      ∀ ecc category, HasParts strEccCategory ecc category → Numeric category := by
  by_cases parted : ∃ ecc category, HasParts strEccCategory ecc category
  · rcases parted with ⟨ecc, category, parts⟩
    rw [putCategory_of_hasParts parts, returns_map, returns_parseInt]
    constructor
    · intro numeric ecc' category' parts'
      have same : [ecc, category] = [ecc', category'] := parts.symm.trans parts'
      simp only [List.cons.injEq, and_true] at same
      exact same.2 ▸ numeric
    · intro numeric
      exact numeric ecc category parts
  · have absent : ∀ ecc category, ¬ HasParts strEccCategory ecc category :=
      fun ecc category parts => parted ⟨ecc, category, parts⟩
    rw [putCategory_of_not_hasParts absent]
    exact ⟨fun _ ecc category parts => absurd parts (absent ecc category), fun _ => ⟨map, rfl⟩⟩

theorem mem_keys_putCategory {map filled : CategoryMap} {strEccCategory : JString}
    (put : putCategory map strEccCategory = .ok filled) (key : JString) :
    key ∈ filled.map Prod.fst ↔
      key ∈ map.map Prod.fst ∨ ∃ category, HasParts strEccCategory key category := by
  by_cases parted : ∃ ecc category, HasParts strEccCategory ecc category
  · rcases parted with ⟨ecc, category, parts⟩
    rw [putCategory_of_hasParts parts] at put
    cases parsed : parseInt category with
    | error e => simp [parsed, Except.map] at put
    | ok value =>
        obtain rfl : map.put ecc value = filled := by simpa [parsed, Except.map] using put
        rw [mem_keys_put]
        refine or_congr Iff.rfl ⟨fun same => ⟨category, same ▸ parts⟩, ?_⟩
        rintro ⟨category', parts'⟩
        have same : [ecc, category] = [key, category'] := parts.symm.trans parts'
        simp only [List.cons.injEq, and_true] at same
        exact same.1.symm
  · have absent : ∀ ecc category, ¬ HasParts strEccCategory ecc category :=
      fun ecc category parts => parted ⟨ecc, category, parts⟩
    rw [putCategory_of_not_hasParts absent] at put
    obtain rfl : map = filled := by simpa using put
    simp [absent]

theorem foldlM_returns (parts : List JString) (map : CategoryMap) :
    Returns (parts.foldlM putCategory map) ↔
      ∀ part ∈ parts, ∀ ecc category, HasParts part ecc category → Numeric category := by
  induction parts generalizing map with
  | nil => exact ⟨fun _ part member => absurd member List.not_mem_nil, fun _ => ⟨map, rfl⟩⟩
  | cons part parts ih =>
      rw [List.forall_mem_cons, ← putCategory_returns map part, List.foldlM_cons]
      cases put : putCategory map part with
      | error e => simp [Returns, bind, Except.bind]
      | ok next =>
          have settled : Returns (Except.ok next : Except Exception CategoryMap) := ⟨next, rfl⟩
          have rest := ih next
          simpa [settled, bind, Except.bind] using rest

theorem mem_keys_foldlM {parts : List JString} {map filled : CategoryMap}
    (folded : parts.foldlM putCategory map = .ok filled) (key : JString) :
    key ∈ filled.map Prod.fst ↔
      key ∈ map.map Prod.fst ∨ ∃ part ∈ parts, ∃ category, HasParts part key category := by
  induction parts generalizing map with
  | nil =>
      obtain rfl : map = filled := by simpa [pure, Except.pure] using folded
      simp
  | cons part parts ih =>
      rw [List.foldlM_cons] at folded
      cases put : putCategory map part with
      | error e => simp [put, bind, Except.bind] at folded
      | ok next =>
          have rest : parts.foldlM putCategory next = .ok filled := by
            simpa [put, bind, Except.bind] using folded
          rw [ih rest, mem_keys_putCategory put, or_assoc]
          simp

/-- An empty property is one empty entry, which adds nothing to the map. -/
theorem networkCategories_eq (properties : SystemProperties) :
    networkCategories properties = (networkEntries properties).foldlM putCategory [] := by
  rw [networkCategories, networkEntries]
  cases properties categoryListProperty with
  | nil => rfl
  | cons c rest => rfl

theorem networkCategories_returns (properties : SystemProperties) :
    Returns (networkCategories properties) ↔ NumericCategories properties := by
  rw [networkCategories_eq, foldlM_returns]
  rfl

theorem mem_keys_networkCategories {properties : SystemProperties} {filled : CategoryMap}
    (parsed : networkCategories properties = .ok filled) (key : JString) :
    key ∈ filled.map Prod.fst ↔
      ∃ part ∈ networkEntries properties, ∃ category, HasParts part key category := by
  rw [networkCategories_eq] at parsed
  rw [mem_keys_foldlM parsed]
  simp

end NetworkMap

section Lookups

variable (env : Environment) (order : HashOrder) (properties : SystemProperties)
  (map : CategoryMap) (number : JString)

theorem findMatch_returns :
    Returns (findMatch env order properties map (some number)) ↔ NumericCategories properties := by
  rw [findMatch, returns_map, networkCategories_returns]

/-- The category lookup on the map that a returning match leaves behind. -/
theorem getServiceCategoryFromEcc_returns {filled : CategoryMap}
    (parsed : networkCategories properties = .ok filled) :
    Returns (getServiceCategoryFromEcc env order filled number) ↔
      NetworkSpelled properties number ∨ CustomizedNumeric env.customized number := by
  have spelled : NetworkSpelled properties number ↔
      ∃ entry ∈ order.iterate filled, matchesNumber entry.1 number = true := by
    constructor
    · rintro ⟨part, member, ecc, category, parts, here⟩
      have key : ecc ∈ filled.map Prod.fst :=
        (mem_keys_networkCategories parsed ecc).mpr ⟨part, member, category, parts⟩
      rcases List.mem_map.mp key with ⟨entry, inside, rfl⟩
      exact ⟨entry, (order.iterate_perm filled).mem_iff.mpr inside, here⟩
    · rintro ⟨entry, inside, here⟩
      have key : entry.1 ∈ filled.map Prod.fst :=
        List.mem_map.mpr ⟨entry, (order.iterate_perm filled).mem_iff.mp inside, rfl⟩
      rcases (mem_keys_networkCategories parsed entry.1).mp key with ⟨part, member, category, parts⟩
      exact ⟨part, member, entry.1, category, parts, here⟩
  rw [spelled, getServiceCategoryFromEcc]
  cases network : (order.iterate filled).find? (fun entry => matchesNumber entry.1 number) with
  | some entry =>
      have here : matchesNumber entry.1 number = true := by
        simpa using List.find?_some network
      exact ⟨fun _ => Or.inl ⟨entry, List.mem_of_find?_eq_some network, here⟩,
        fun _ => ⟨entry.2, rfl⟩⟩
  | none =>
      have absent : ¬ ∃ entry ∈ order.iterate filled, matchesNumber entry.1 number = true := by
        rintro ⟨entry, inside, here⟩
        exact List.find?_eq_none.mp network entry inside here
      simp only [absent, false_or, CustomizedNumeric]
      cases custom : env.customized.find? (fun entry => matchesNumber entry.ecc number) with
      | none => exact ⟨fun _ _ found => by simp at found, fun _ => ⟨0, rfl⟩⟩
      | some entry => simp [returns_parseInt]

/-- The match, the category lookup on the map it leaves, and the whole dial return. -/
structure CallsReturn (clirMode : Int) (uusInfo : Option UusInfo) : Prop where
  matched : Returns (isEmergencyNumberExt env order properties map (some number))
  looked : ∀ found filled, findMatch env order properties map (some number) = .ok (found, filled) →
    Returns (getServiceCategoryFromEcc env order filled number)
  dialled : Returns (dial env order properties map (some number) clirMode uusInfo)

theorem callsReturn_iff (clirMode : Int) (uusInfo : Option UusInfo) :
    CallsReturn env order properties map number clirMode uusInfo ↔
      NumericCategories properties ∧
        (NetworkSpelled properties number ∨ CustomizedNumeric env.customized number) := by
  constructor
  · rintro ⟨matched, looked, -⟩
    rw [isEmergencyNumberExt, returns_map, findMatch_returns] at matched
    rcases (networkCategories_returns properties).mpr matched with ⟨filled, parsed⟩
    have left := looked _ filled (by rw [findMatch, parsed]; rfl)
    exact ⟨matched, (getServiceCategoryFromEcc_returns env order properties number parsed).mp left⟩
  · rintro ⟨numeric, category⟩
    rcases (networkCategories_returns properties).mpr numeric with ⟨filled, parsed⟩
    have found : ∃ hit, findMatch env order properties map (some number) = .ok (hit, filled) :=
      ⟨_, by rw [findMatch, parsed]; rfl⟩
    rcases found with ⟨hit, found⟩
    have looked : Returns (getServiceCategoryFromEcc env order filled number) :=
      (getServiceCategoryFromEcc_returns env order properties number parsed).mpr category
    refine ⟨⟨hit.isSome, by rw [isEmergencyNumberExt, found]; rfl⟩, ?_, ?_⟩
    · intro other others same
      obtain ⟨-, rfl⟩ : hit = other ∧ filled = others := by simpa [found] using same
      exact looked
    · rw [dial, found]
      cases hit with
      | none => exact ⟨_, rfl⟩
      | some entry => exact (returns_map _ _).mpr looked

end Lookups

/-- Whatever `ecc_list.xml` holds, the calls return exactly when the network categories are
decimal and the dialled number is spelled by the network or has no customized entry without a
decimal category in front. -/
theorem emergency_calls_return_iff (sIsCtaSet : Bool) (events : List XmlEvent) (completed : Bool)
    (extractNetworkPortionAlt : JString → JString) (order : HashOrder)
    (properties : SystemProperties) (map : CategoryMap) (number : JString) (clirMode : Int)
    (uusInfo : Option UusInfo) :
    CallsReturn ⟨parseEccList sIsCtaSet events completed, extractNetworkPortionAlt⟩ order properties
        map number clirMode uusInfo ↔
      NumericCategories properties ∧
        (NetworkSpelled properties number ∨
          CustomizedNumeric (parseEccList sIsCtaSet events completed) number) :=
  callsReturn_iff _ order properties map number clirMode uusInfo

section CtaNumbers

theorem matchesNumber_of_no_plus {number : JString} (plain : '+' ∉ number) (ecc : JString) :
    matchesNumber ecc number = decide (ecc = number) := by
  have other : ecc ++ ['+'] ≠ number := by
    rintro rfl
    simp at plain
  simp [matchesNumber, other]

/-- Placing a record decides the search for its own number and no other. -/
theorem find?_setOrAdd (record : EccEntry) (list : List EccEntry) (number : JString) :
    (setOrAdd record list).find? (fun entry => decide (entry.ecc = number)) =
      if record.ecc = number then some record
      else list.find? (fun entry => decide (entry.ecc = number)) := by
  induction list with
  | nil =>
      by_cases wanted : record.ecc = number <;> simp [setOrAdd, wanted]
  | cons eccEntry rest ih =>
      rw [setOrAdd]
      by_cases replaced : eccEntry.ecc = record.ecc
      · by_cases wanted : record.ecc = number <;> simp [replaced, wanted]
      · rw [if_neg replaced]
        by_cases wanted : record.ecc = number
        · have skipped : eccEntry.ecc ≠ number := fun same => replaced (same.trans wanted.symm)
          simpa [skipped, wanted] using ih
        · by_cases first : eccEntry.ecc = number
          · simp [first, wanted]
          · simpa [first, wanted] using ih

theorem foldl_addCta_numeric {number : JString} {nums : List JString} (member : number ∈ nums)
    (list : List EccEntry) :
    (nums.foldl addCta list).find? (fun entry => decide (entry.ecc = number)) =
      some ⟨number, "0".toList, eccForMmi⟩ := by
  induction nums using List.reverseRecOn with
  | nil => simp at member
  | append_singleton nums last ih =>
      rw [List.foldl_append, List.foldl_cons, List.foldl_nil, addCta, find?_setOrAdd]
      by_cases same : last = number
      · subst same
        exact if_pos rfl
      · rw [if_neg same]
        apply ih
        rcases List.mem_append.mp member with earlier | final
        · exact earlier
        · exact absurd (List.mem_singleton.mp final).symm same

/-- A completed load in CTA mode gives the CTA numbers a decimal category, whatever the file
says about them. -/
theorem cta_number_numeric (events : List XmlEvent) {number : JString}
    (member : number ∈ emergencyCTAList) :
    CustomizedNumeric (parseEccList true events true) number := by
  have plain : ∀ emergencyNum ∈ emergencyCTAList, '+' ∉ emergencyNum := by decide +kernel
  intro entry found
  simp only [matchesNumber_of_no_plus (plain number member), parseEccList, Bool.and_self,
    if_true, foldl_addCta_numeric member] at found
  obtain rfl := Option.some.inj found
  show (decimalInt "0".toList).isSome = true
  decide +kernel

end CtaNumbers

/-- An entry for 112 without a category. -/
def uncategorized : List XmlEvent :=
  [.startTag eccEntryTag [(eccAttr, "112".toList), (conditionAttr, "1".toList)], .endTag eccEntryTag]

/-- Dialling 112 fails in `Integer.parseInt` when its entry in `ecc_list.xml` has no category. -/
theorem missing_category_escapes :
    ¬ ∀ sIsCtaSet events completed extractNetworkPortionAlt order properties map number clirMode
        uusInfo,
      CallsReturn ⟨parseEccList sIsCtaSet events completed, extractNetworkPortionAlt⟩ order
        properties map number clirMode uusInfo := by
  intro returns
  rcases (returns false uncategorized true id insertionOrder (fun _ => []) [] "112".toList 0
    none).dialled with ⟨requests, sent⟩
  have thrown : dial ⟨parseEccList false uncategorized true, id⟩ insertionOrder (fun _ => []) []
      (some "112".toList) 0 none = .error .numberFormat := by
    decide +kernel
  rw [thrown] at sent
  simp at sent

end X5MaxDevice.Ril.EmergencyTotality
