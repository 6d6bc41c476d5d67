import Mathlib.Data.List.Perm.Basic
import X5MaxDevice.Ril.EccList

/-! Whether publishing the emergency numbers in the SIM properties changes the verdict of
the matcher, which reads the same properties. -/

namespace X5MaxDevice.Ril.EccPublication

open X5MaxDevice.Java
open X5MaxDevice.Ril.EccList

/-- The number is one of the list, with or without a plus behind it. -/
def Dialled (list : List JString) (number : JString) : Prop :=
  ∃ ecc ∈ list, matchesNumber ecc number = true

instance (list : List JString) (number : JString) : Decidable (Dialled list number) :=
  inferInstanceAs (Decidable (∃ ecc ∈ list, matchesNumber ecc number = true))

/-- The non-blank numbers of a SIM property. -/
def numbersOf (numbers : JString) : List JString :=
  (split ',' numbers).filter (fun emergencyNum => !emergencyNum.isEmpty)

/-- Every customized entry has a number, without a comma. -/
def WellFormed (customized : List EccEntry) : Prop :=
  ∀ entry ∈ customized, entry.ecc ≠ [] ∧ ',' ∉ entry.ecc

theorem not_dialled_nil (number : JString) : ¬ Dialled [] number := by
  simp [Dialled]

/-- Dropping the duplicates and appending the list again keeps the set of numbers. -/
theorem mem_removeAll_append (list others : List JString) (ecc : JString) :
    ecc ∈ removeAll list others ++ others ↔ ecc ∈ list ∨ ecc ∈ others := by
  simp only [removeAll, List.mem_append, List.mem_filter, decide_eq_true_eq]
  by_cases present : ecc ∈ others <;> simp [present]

theorem mem_slotList (customized : List EccEntry) (numbers ecc : JString) :
    ecc ∈ slotList customized numbers ↔
      ecc ∈ numbersOf numbers ∨ ecc ∈ fixedList customized ∨
        (numbers = [] ∧ ecc ∈ fixedListNoSim customized) := by
  unfold slotList
  simp only
  split
  · rename_i empty
    rw [mem_removeAll_append, mem_removeAll_append]
    have blank : numbers = [] := by simpa using empty
    simp [blank, numbersOf, or_assoc]
  · rename_i filled
    rw [mem_removeAll_append]
    have present : numbers ≠ [] := by simpa using filled
    simp [present, numbersOf]

theorem mem_numbersOf {numbers ecc : JString} :
    ecc ∈ numbersOf numbers ↔ ecc ∈ split ',' numbers ∧ ecc ≠ [] := by
  simp [numbersOf, List.mem_filter]

theorem mem_fixedList {customized : List EccEntry} {ecc : JString} :
    ecc ∈ fixedList customized ↔
      ∃ entry ∈ customized, entry.noSim = false ∧ entry.ecc = ecc := by
  simp [fixedList, List.mem_filter, and_assoc]

theorem mem_fixedListNoSim {customized : List EccEntry} {ecc : JString} :
    ecc ∈ fixedListNoSim customized ↔
      ∃ entry ∈ customized, entry.noSim = true ∧ entry.ecc ≠ [] ∧ entry.ecc = ecc := by
  simp [fixedListNoSim, List.mem_filter, and_assoc]

section WellFormedList

variable {customized : List EccEntry} (wellFormed : WellFormed customized)
include wellFormed

/-- What is published for a slot consists of non-empty numbers without commas. -/
theorem slotList_parts (numbers : JString) :
    (∀ ecc ∈ slotList customized numbers, ecc ≠ []) ∧
      ∀ ecc ∈ slotList customized numbers, ',' ∉ ecc := by
  have each : ∀ ecc ∈ slotList customized numbers, ecc ≠ [] ∧ ',' ∉ ecc := by
    intro ecc member
    rcases (mem_slotList customized numbers ecc).mp member with listed | fixed | ⟨_, noSim⟩
    · have part := mem_numbersOf.mp listed
      exact ⟨part.2, separator_not_mem_split part.1⟩
    · rcases mem_fixedList.mp fixed with ⟨entry, present, _, rfl⟩
      exact wellFormed entry present
    · rcases mem_fixedListNoSim.mp noSim with ⟨entry, present, _, _, rfl⟩
      exact wellFormed entry present
  exact ⟨fun ecc member => (each ecc member).1, fun ecc member => (each ecc member).2⟩

theorem join_slotList_eq_nil (numbers : JString) :
    join ',' (slotList customized numbers) = [] ↔ slotList customized numbers = [] :=
  join_eq_nil_iff (slotList_parts wellFormed numbers).1

theorem dialled_entries (number : JString) :
    (∃ entry ∈ customized, matchesNumber entry.ecc number = true) ↔
      Dialled (fixedList customized) number ∨ Dialled (fixedListNoSim customized) number := by
  constructor
  · rintro ⟨entry, present, here⟩
    cases restricted : entry.noSim with
    | false => exact Or.inl ⟨_, mem_fixedList.mpr ⟨entry, present, restricted, rfl⟩, here⟩
    | true =>
        have filled := (wellFormed entry present).1
        exact Or.inr ⟨_, mem_fixedListNoSim.mpr ⟨entry, present, restricted, filled, rfl⟩, here⟩
  · rintro (⟨ecc, member, here⟩ | ⟨ecc, member, here⟩)
    · rcases mem_fixedList.mp member with ⟨entry, present, _, rfl⟩
      exact ⟨entry, present, here⟩
    · rcases mem_fixedListNoSim.mp member with ⟨entry, present, _, _, rfl⟩
      exact ⟨entry, present, here⟩

end WellFormedList

theorem matchSim_isSome (numbers number : JString) :
    (matchSim numbers number).isSome = true ↔
      numbers ≠ [] ∧ Dialled (split ',' numbers) number := by
  rw [matchSim]
  cases numbers with
  | nil => simp
  | cons c rest => simp [Dialled, List.find?_isSome]

theorem matchNetwork_isSome (order : HashOrder) (map : CategoryMap) (number : JString) :
    (matchNetwork order map number).isSome = true ↔ Dialled (map.map Prod.fst) number := by
  simp only [matchNetwork, Option.isSome_map, List.find?_isSome, Dialled, List.mem_map,
    (order.iterate_perm map).mem_iff]
  constructor
  · rintro ⟨entry, member, here⟩
    exact ⟨_, ⟨entry, member, rfl⟩, here⟩
  · rintro ⟨_, ⟨entry, member, rfl⟩, here⟩
    exact ⟨entry, member, here⟩

theorem matchCustomized_isSome {customized : List EccEntry} (wellFormed : WellFormed customized)
    (bSIMInserted : Bool) (number : JString) :
    (matchCustomized customized bSIMInserted number).isSome = true ↔
      Dialled (fixedList customized) number ∨
        (bSIMInserted = false ∧ Dialled (fixedListNoSim customized) number) := by
  rw [matchCustomized]
  cases bSIMInserted with
  | true =>
      simp only [↓reduceIte, Option.isSome_map, List.find?_isSome, Bool.and_eq_true,
        Bool.not_eq_eq_eq_not, Bool.not_true, Bool.true_eq_false, false_and, or_false]
      constructor
      · rintro ⟨entry, present, unrestricted, here⟩
        exact ⟨_, mem_fixedList.mpr ⟨entry, present, unrestricted, rfl⟩, here⟩
      · rintro ⟨ecc, member, here⟩
        rcases mem_fixedList.mp member with ⟨entry, present, unrestricted, rfl⟩
        exact ⟨entry, present, unrestricted, here⟩
  | false =>
      simp only [Bool.false_eq_true, ↓reduceIte, Option.isSome_map, List.find?_isSome, true_and]
      exact dialled_entries wellFormed number

/-- The verdict of the three lookups, in terms of the lists that they search. -/
theorem lookup_isSome {env : Environment} (wellFormed : WellFormed env.customized)
    (order : HashOrder) (properties : SystemProperties) (map : CategoryMap) (number : JString) :
    (lookup env order properties map number).isSome = true ↔
      Dialled (map.map Prod.fst) number ∨
        (properties ecclistProperty ≠ [] ∧
          Dialled (split ',' (properties ecclistProperty)) number) ∨
        (properties ecclist1Property ≠ [] ∧
          Dialled (split ',' (properties ecclist1Property)) number) ∨
        Dialled (fixedList env.customized) number ∨
        ((properties ecclistProperty = [] ∧ properties ecclist1Property = []) ∧
          Dialled (fixedListNoSim env.customized) number) := by
  simp only [lookup, Option.isSome_or, Bool.or_eq_true, matchNetwork_isSome, matchSim_isSome,
    matchCustomized_isSome wellFormed, Bool.or_eq_false_iff, Bool.not_eq_eq_eq_not,
    Bool.not_false, List.isEmpty_iff]

section Published

variable (properties : SystemProperties) (env : Environment)

theorem update_ecclist :
    updateEmergencyNumbersProperty env properties ecclistProperty =
      join ',' (slotList env.customized (properties ecclistProperty)) := by
  have distinct : ecclistProperty ≠ ecclist1Property := by decide
  simp [updateEmergencyNumbersProperty, updateSlot, set_other _ _ distinct]

theorem update_ecclist1 :
    updateEmergencyNumbersProperty env properties ecclist1Property =
      join ',' (slotList env.customized (properties ecclist1Property)) := by
  have distinct : ecclist1Property ≠ ecclistProperty := by decide
  simp [updateEmergencyNumbersProperty, updateSlot, set_other _ _ distinct]

theorem update_categories :
    networkCategories (updateEmergencyNumbersProperty env properties) =
      networkCategories properties := by
  have first : categoryListProperty ≠ ecclistProperty := by decide
  have second : categoryListProperty ≠ ecclist1Property := by decide
  simp only [networkCategories, updateEmergencyNumbersProperty, updateSlot,
    set_other _ _ first, set_other _ _ second]

end Published

/-- Reading a published slot back finds exactly the numbers that were joined. -/
theorem published_dialled {customized : List EccEntry} (wellFormed : WellFormed customized)
    (numbers number : JString) :
    (join ',' (slotList customized numbers) ≠ [] ∧
        Dialled (split ',' (join ',' (slotList customized numbers))) number) ↔
      Dialled (slotList customized numbers) number := by
  have parts := slotList_parts wellFormed numbers
  rw [Ne, join_slotList_eq_nil wellFormed]
  constructor
  · rintro ⟨nonempty, here⟩
    rwa [split_join nonempty parts.1 parts.2] at here
  · intro here
    have nonempty : slotList customized numbers ≠ [] := by
      intro empty
      exact not_dialled_nil number (empty ▸ here)
    exact ⟨nonempty, by rwa [split_join nonempty parts.1 parts.2]⟩

theorem dialled_slotList (customized : List EccEntry) (numbers number : JString) :
    Dialled (slotList customized numbers) number ↔
      Dialled (numbersOf numbers) number ∨ Dialled (fixedList customized) number ∨
        (numbers = [] ∧ Dialled (fixedListNoSim customized) number) := by
  constructor
  · rintro ⟨ecc, member, here⟩
    rcases (mem_slotList customized numbers ecc).mp member with listed | fixed | ⟨empty, noSim⟩
    · exact Or.inl ⟨ecc, listed, here⟩
    · exact Or.inr (Or.inl ⟨ecc, fixed, here⟩)
    · exact Or.inr (Or.inr ⟨empty, ecc, noSim, here⟩)
  · rintro (⟨ecc, listed, here⟩ | ⟨ecc, fixed, here⟩ | ⟨empty, ecc, noSim, here⟩)
    · exact ⟨ecc, (mem_slotList customized numbers ecc).mpr (Or.inl listed), here⟩
    · exact ⟨ecc, (mem_slotList customized numbers ecc).mpr (Or.inr (Or.inl fixed)), here⟩
    · exact ⟨ecc, (mem_slotList customized numbers ecc).mpr (Or.inr (Or.inr ⟨empty, noSim⟩)), here⟩

/-- A blank field of a SIM property, which only the empty number and "+" are equal to. -/
def BlankField (numbers number : JString) : Prop :=
  numbers ≠ [] ∧ [] ∈ split ',' numbers ∧ matchesNumber [] number = true

instance (numbers number : JString) : Decidable (BlankField numbers number) :=
  inferInstanceAs (Decidable (_ ∧ _ ∧ _))

theorem dialled_split {numbers : JString} (filled : numbers ≠ []) (number : JString) :
    Dialled (split ',' numbers) number ↔
      Dialled (numbersOf numbers) number ∨ BlankField numbers number := by
  constructor
  · rintro ⟨ecc, member, here⟩
    by_cases blank : ecc = []
    · subst blank
      exact Or.inr ⟨filled, member, here⟩
    · exact Or.inl ⟨ecc, mem_numbersOf.mpr ⟨member, blank⟩, here⟩
  · rintro (⟨ecc, member, here⟩ | ⟨_, member, here⟩)
    · exact ⟨ecc, (mem_numbersOf.mp member).1, here⟩
    · exact ⟨[], member, here⟩

theorem numbersOf_nil : numbersOf [] = [] := by
  decide

/-- A slot property read by the matcher: its numbers, and its blank fields. -/
theorem slot_dialled (numbers number : JString) :
    (numbers ≠ [] ∧ Dialled (split ',' numbers) number) ↔
      Dialled (numbersOf numbers) number ∨ BlankField numbers number := by
  by_cases filled : numbers = []
  · subst filled
    simp [numbersOf_nil, not_dialled_nil, BlankField]
  · simp only [Ne, filled, not_false_eq_true, true_and]
    exact dialled_split filled number

theorem slotList_eq_nil_iff (customized : List EccEntry) (numbers : JString) :
    slotList customized numbers = [] ↔
      numbersOf numbers = [] ∧ fixedList customized = [] ∧
        (numbers = [] → fixedListNoSim customized = []) := by
  simp only [List.eq_nil_iff_forall_not_mem, mem_slotList, not_or, not_and, forall_and]
  constructor
  · rintro ⟨listed, fixed, noSim⟩
    exact ⟨listed, fixed, fun empty ecc => noSim ecc empty⟩
  · rintro ⟨listed, fixed, noSim⟩
    exact ⟨listed, fixed, fun ecc empty => noSim empty ecc⟩

/-- Listed by the network, by a SIM or by a customized entry that is not restricted to
the case without a SIM. -/
def Listed (env : Environment) (properties : SystemProperties) (map : CategoryMap)
    (number : JString) : Prop :=
  Dialled (map.map Prod.fst) number ∨ Dialled (numbersOf (properties ecclistProperty)) number ∨
    Dialled (numbersOf (properties ecclist1Property)) number ∨
    Dialled (fixedList env.customized) number

/-- The update lists the no-SIM numbers for one slot at least, or leaves both slots empty. -/
def NoSimPublished (env : Environment) (properties : SystemProperties) : Prop :=
  properties ecclistProperty = [] ∨ properties ecclist1Property = [] ∨
    (numbersOf (properties ecclistProperty) = [] ∧
      numbersOf (properties ecclist1Property) = [] ∧ fixedList env.customized = [])

def BlankListed (properties : SystemProperties) (number : JString) : Prop :=
  BlankField (properties ecclistProperty) number ∨ BlankField (properties ecclist1Property) number

def NoSimNumber (env : Environment) (number : JString) : Prop :=
  Dialled (fixedListNoSim env.customized) number

/-- A no-SIM number, published although a SIM property was set. -/
def SwitchedOn (env : Environment) (properties : SystemProperties) (number : JString) : Prop :=
  NoSimNumber env number ∧ NoSimPublished env properties ∧
    ¬ (properties ecclistProperty = [] ∧ properties ecclist1Property = []) ∧
    ¬ BlankListed properties number

/-- A blank field, which the update drops. -/
def SwitchedOff (env : Environment) (properties : SystemProperties) (number : JString) : Prop :=
  BlankListed properties number ∧ ¬ (NoSimNumber env number ∧ NoSimPublished env properties)

def VerdictKept (env : Environment) (properties : SystemProperties) (map : CategoryMap)
    (number : JString) : Prop :=
  Listed env properties map number ∨
    (¬ SwitchedOn env properties number ∧ ¬ SwitchedOff env properties number)

section Verdicts

variable {env : Environment} (wellFormed : WellFormed env.customized) (order : HashOrder)
  (properties : SystemProperties) (map : CategoryMap) (number : JString)
include wellFormed

theorem verdict_before :
    (lookup env order properties map number).isSome = true ↔
      Listed env properties map number ∨ BlankListed properties number ∨
        ((properties ecclistProperty = [] ∧ properties ecclist1Property = []) ∧
          NoSimNumber env number) := by
  rw [lookup_isSome wellFormed, slot_dialled, slot_dialled]
  unfold Listed BlankListed NoSimNumber
  grind

theorem verdict_after :
    (lookup env order (updateEmergencyNumbersProperty env properties) map number).isSome = true ↔
      Listed env properties map number ∨
        (NoSimNumber env number ∧ NoSimPublished env properties) := by
  rw [lookup_isSome wellFormed, update_ecclist, update_ecclist1,
    published_dialled wellFormed, published_dialled wellFormed,
    join_slotList_eq_nil wellFormed, join_slotList_eq_nil wellFormed,
    dialled_slotList, dialled_slotList, slotList_eq_nil_iff, slotList_eq_nil_iff]
  unfold Listed NoSimPublished NoSimNumber
  have restricted : Dialled (fixedListNoSim env.customized) number →
      fixedListNoSim env.customized ≠ [] := by
    intro here empty
    exact not_dialled_nil number (empty ▸ here)
  grind

/-- Publishing keeps the verdict on a number exactly when it is listed anyway, or is
neither switched on nor switched off. -/
theorem lookup_kept_iff (other : HashOrder) :
    (lookup env other (updateEmergencyNumbersProperty env properties) map number).isSome =
        (lookup env order properties map number).isSome ↔
      VerdictKept env properties map number := by
  rw [Bool.eq_iff_iff, verdict_after wellFormed, verdict_before wellFormed]
  unfold VerdictKept SwitchedOn SwitchedOff NoSimPublished
  grind

end Verdicts

/-- One entry that applies without a SIM only, and no separators in the dialled number. -/
def noSimEnvironment : Environment :=
  ⟨[⟨"999".toList, "0".toList, "0".toList⟩], id⟩

/-- The first slot lists 112, the second slot nothing. -/
def oneSim : SystemProperties :=
  SystemProperties.set (fun _ => []) ecclistProperty "112".toList

end X5MaxDevice.Ril.EccPublication
