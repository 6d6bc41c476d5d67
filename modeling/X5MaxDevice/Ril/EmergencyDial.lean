import X5MaxDevice.Ril.EccList

/-! The service category that `MT6735.dial` sends before an emergency call, against the
entry by which the matcher accepted the number. -/

namespace X5MaxDevice.Ril.EmergencyDial

open X5MaxDevice.Java
open X5MaxDevice.Ril.EccList

/-- The category of a matching entry; a SIM list carries none. -/
def category : Match → Option Int
  | .network _ value => some value
  | .sim _ => none
  | .customized entry => decimalInt entry.category

def FromSim : Match → Prop
  | .sim _ => True
  | _ => False

/-- Whenever a network or customized entry makes the address an emergency number, the
category of that entry is sent, and then the emergency dial. -/
def CategoryAgrees (env : Environment) (order : HashOrder) (properties : SystemProperties)
    (map : CategoryMap) (address : JString) (clirMode : Int) (uusInfo : Option UusInfo) : Prop :=
  ∀ entry filled, findMatch env order properties map (some address) = .ok (some entry, filled) →
    ¬ FromSim entry → ∃ value, category entry = some value ∧
      dial env order properties map (some address) clirMode uusInfo =
        .ok [.setEccServiceCategory value, .emergencyDial address clirMode uusInfo]

/-- All entries with a category, network ones first, whatever their condition. -/
def categoryEntries (env : Environment) (order : HashOrder) (map : CategoryMap) :
    List (JString × Option Int) :=
  (order.iterate map).map (fun entry => (entry.1, some entry.2)) ++
    env.customized.map (fun entry => (entry.ecc, decimalInt entry.category))

/-- The first entry that spells the address as it was dialled has this category. -/
def FirstSpelled (entries : List (JString × Option Int)) (address : JString)
    (value : Option Int) : Prop :=
  ∃ before ecc after, entries = before ++ (ecc, value) :: after ∧
    matchesNumber ecc address = true ∧ ∀ other ∈ before, matchesNumber other.1 address = false

/-- No entry spells the address as it was dialled. -/
def Unspelled (entries : List (JString × Option Int)) (address : JString) : Prop :=
  ∀ entry ∈ entries, matchesNumber entry.1 address = false

/-- The accepted entry and the first entry that spells the address as dialled share a
category; an address that no entry spells so goes with the category 0. -/
def CategoryFits (env : Environment) (order : HashOrder) (map : CategoryMap) (address : JString)
    (entry : Match) : Prop :=
  ∃ value, category entry = some value ∧
    (FirstSpelled (categoryEntries env order map) address (some value) ∨
      (Unspelled (categoryEntries env order map) address ∧ value = 0))

theorem firstSpelled_iff_find (entries : List (JString × Option Int)) (address : JString)
    (value : Option Int) :
    FirstSpelled entries address value ↔
      (entries.find? (fun entry => matchesNumber entry.1 address)).map Prod.snd = some value := by
  constructor
  · intro spelled
    rcases spelled with ⟨before, ecc, after, split, here, earlier⟩
    have found : entries.find? (fun entry => matchesNumber entry.1 address) = some (ecc, value) :=
      List.find?_eq_some_iff_append.mpr
        ⟨here, before, after, split, fun other member => by simp [earlier other member]⟩
    simp [found]
  · intro found
    rcases Option.map_eq_some_iff.mp found with ⟨⟨ecc, other⟩, first, same⟩
    rcases List.find?_eq_some_iff_append.mp first with ⟨here, before, after, split, earlier⟩
    have equal : other = value := same
    subst equal
    exact ⟨before, ecc, after, split, here, fun entry member => by simpa using earlier entry member⟩

theorem unspelled_iff_find (entries : List (JString × Option Int)) (address : JString) :
    Unspelled entries address ↔
      entries.find? (fun entry => matchesNumber entry.1 address) = none := by
  simp [Unspelled, List.find?_eq_none]

/-- `getServiceCategoryFromEcc` returns the category of the first entry that spells its
argument, and 0 when there is none. -/
theorem getServiceCategoryFromEcc_iff (env : Environment) (order : HashOrder) (map : CategoryMap)
    (address : JString) (value : Int) :
    getServiceCategoryFromEcc env order map address = .ok value ↔
      FirstSpelled (categoryEntries env order map) address (some value) ∨
        (Unspelled (categoryEntries env order map) address ∧ value = 0) := by
  rw [firstSpelled_iff_find, unspelled_iff_find]
  unfold getServiceCategoryFromEcc categoryEntries
  simp only [List.find?_append, List.find?_map, Function.comp_def]
  cases network : (order.iterate map).find? (fun entry => matchesNumber entry.1 address) with
  | some entry => simp
  | none =>
      cases custom : env.customized.find? (fun entry => matchesNumber entry.ecc address) with
      | none => simp [eq_comm]
      | some entry =>
          cases parsed : decimalInt entry.category <;> simp [parseInt, parsed]

theorem dial_of_match {env : Environment} {order : HashOrder} {properties : SystemProperties}
    {map filled : CategoryMap} {address : JString} {entry : Match} (clirMode : Int)
    (uusInfo : Option UusInfo) (value : Int)
    (matched : findMatch env order properties map (some address) = .ok (some entry, filled)) :
    dial env order properties map (some address) clirMode uusInfo =
        .ok [.setEccServiceCategory value, .emergencyDial address clirMode uusInfo] ↔
      getServiceCategoryFromEcc env order filled address = .ok value := by
  rw [dial]
  rw [matched]
  cases looked : getServiceCategoryFromEcc env order filled address <;> simp [Except.map, looked]

/-- 112 is an emergency number of category 5, and hyphens are separators. -/
def hyphenEnvironment : Environment :=
  ⟨[⟨"112".toList, "5".toList, "1".toList⟩], fun number => number.filter (· ≠ '-')⟩

end X5MaxDevice.Ril.EmergencyDial
