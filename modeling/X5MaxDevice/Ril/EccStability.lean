import X5MaxDevice.Ril.EccPublication

/-! The numbers of the SIM properties after one publication of the emergency numbers and after
two. -/

namespace X5MaxDevice.Ril.EccStability

open X5MaxDevice.Java
open X5MaxDevice.Ril.EccList
open X5MaxDevice.Ril.EccPublication

def slots : List String := [ecclistProperty, ecclist1Property]

/-- The new value lists the old numbers, the unrestricted ones, and those for no SIM if the old
value was empty. -/
def Preserves (customized : List EccEntry) (old new : JString) : Prop :=
  ∀ number, number ∈ numbersOf new ↔
    number ∈ numbersOf old ∨
      (∃ entry ∈ customized, entry.noSim = false ∧ entry.ecc = number) ∨
      (old = [] ∧ ∃ entry ∈ customized, entry.noSim = true ∧ entry.ecc = number)

def SameNumbers (first second : JString) : Prop :=
  ∀ number, number ∈ numbersOf first ↔ number ∈ numbersOf second

/-- A value of separators only, with nothing but numbers for no SIM to publish. -/
def Separators (customized : List EccEntry) (old : JString) : Prop :=
  (old ≠ [] ∧ numbersOf old = []) ∧ customized ≠ [] ∧ ∀ entry ∈ customized, entry.noSim = true

instance (customized : List EccEntry) (old : JString) : Decidable (Separators customized old) :=
  inferInstanceAs (Decidable (_ ∧ _))

theorem update_slot (env : Environment) (properties : SystemProperties) {key : String}
    (slot : key ∈ slots) :
    updateEmergencyNumbersProperty env properties key =
      join ',' (slotList env.customized (properties key)) := by
  rcases List.mem_pair.mp slot with rfl | rfl
  · exact update_ecclist properties env
  · exact update_ecclist1 properties env

theorem numbersOf_nil : numbersOf [] = [] := by decide

section WellFormedList

variable {customized : List EccEntry} (wellFormed : WellFormed customized)
include wellFormed

/-- What is published reads back as it was joined. -/
theorem numbersOf_published (old : JString) :
    numbersOf (join ',' (slotList customized old)) = slotList customized old := by
  have parts := slotList_parts wellFormed old
  by_cases nothing : slotList customized old = []
  · rw [nothing]
    exact numbersOf_nil
  · rw [numbersOf, split_join nothing parts.1 parts.2]
    apply List.filter_eq_self.mpr
    intro number member
    simpa using parts.1 number member

theorem published_preserves (old : JString) :
    Preserves customized old (join ',' (slotList customized old)) := by
  intro number
  rw [numbersOf_published wellFormed, mem_slotList, mem_fixedList, mem_fixedListNoSim]
  apply or_congr_right
  apply or_congr_right
  apply and_congr_right
  intro _
  constructor
  · rintro ⟨entry, present, restricted, -, same⟩
    exact ⟨entry, present, restricted, same⟩
  · rintro ⟨entry, present, restricted, same⟩
    exact ⟨entry, present, restricted, (wellFormed entry present).1, same⟩

/-- Publishing again adds at most the numbers for no SIM, to a value left empty. -/
theorem published_twice (old : JString) (number : JString) :
    let once := join ',' (slotList customized old)
    number ∈ numbersOf (join ',' (slotList customized once)) ↔
      number ∈ numbersOf once ∨ (once = [] ∧ number ∈ fixedListNoSim customized) := by
  intro once
  have listed := numbersOf_published wellFormed old
  rw [numbersOf_published wellFormed, mem_slotList, listed, mem_slotList]
  tauto

/-- Nothing is published exactly when nothing was listed and no entry applies. -/
theorem published_eq_nil (old : JString) :
    join ',' (slotList customized old) = [] ↔
      numbersOf old = [] ∧ (∀ entry ∈ customized, entry.noSim = true) ∧
        (old = [] → customized = []) := by
  rw [join_slotList_eq_nil wellFormed, List.eq_nil_iff_forall_not_mem]
  simp only [mem_slotList, mem_fixedList, mem_fixedListNoSim]
  constructor
  · intro nothing
    have restricted : ∀ entry ∈ customized, entry.noSim = true := by
      intro entry present
      cases limited : entry.noSim with
      | true => rfl
      | false => exact absurd (Or.inr (Or.inl ⟨entry, present, limited, rfl⟩)) (nothing entry.ecc)
    refine ⟨?_, restricted, ?_⟩
    · apply List.eq_nil_iff_forall_not_mem.mpr
      intro number listed
      exact nothing number (Or.inl listed)
    · intro blank
      apply List.eq_nil_iff_forall_not_mem.mpr
      intro entry present
      have filled := (wellFormed entry present).1
      exact nothing entry.ecc
        (Or.inr (Or.inr ⟨blank, entry, present, restricted entry present, filled, rfl⟩))
  · rintro ⟨unlisted, restricted, none⟩ number
      (listed | ⟨entry, present, free, -⟩ | ⟨blank, entry, present, -⟩)
    · rw [unlisted] at listed
      exact List.not_mem_nil listed
    · exact absurd ((restricted entry present).symm.trans free) (by decide)
    · rw [none blank] at present
      exact List.not_mem_nil present

theorem published_stable_iff (old : JString) :
    let once := join ',' (slotList customized old)
    SameNumbers (join ',' (slotList customized once)) once ↔ ¬ Separators customized old := by
  intro once
  constructor
  · rintro same ⟨⟨present, unlisted⟩, some, restricted⟩
    have empty : once = [] :=
      (published_eq_nil wellFormed old).mpr ⟨unlisted, restricted, fun blank => absurd blank present⟩
    rcases List.exists_mem_of_ne_nil customized some with ⟨entry, member⟩
    have added : entry.ecc ∈ fixedListNoSim customized :=
      mem_fixedListNoSim.mpr
        ⟨entry, member, restricted entry member, (wellFormed entry member).1, rfl⟩
    have listed : entry.ecc ∈ numbersOf once :=
      (same entry.ecc).mp ((published_twice wellFormed old entry.ecc).mpr (Or.inr ⟨empty, added⟩))
    rw [empty, numbersOf_nil] at listed
    exact List.not_mem_nil listed
  · intro lists number
    refine (published_twice wellFormed old number).trans (or_iff_left ?_)
    rintro ⟨empty, added⟩
    rcases (published_eq_nil wellFormed old).mp empty with ⟨unlisted, restricted, none⟩
    rcases mem_fixedListNoSim.mp added with ⟨entry, member, -⟩
    have some : customized ≠ [] := List.ne_nil_of_mem member
    exact lists ⟨⟨fun blank => some (none blank), unlisted⟩, some, restricted⟩

end WellFormedList

/-- An update preserves the numbers of both properties. A second one changes their sets
exactly where a value of separators only is left empty and numbers for no SIM are waiting. -/
theorem update_preserves_and_stabilises (env : Environment) (wellFormed : WellFormed env.customized)
    (properties : SystemProperties) :
    let once := updateEmergencyNumbersProperty env properties
    let twice := updateEmergencyNumbersProperty env once
    ∀ key ∈ slots,
      Preserves env.customized (properties key) (once key) ∧
        (∀ number ∈ numbersOf (properties key), number ∈ numbersOf (once key)) ∧
        (SameNumbers (twice key) (once key) ↔ ¬ Separators env.customized (properties key)) := by
  intro once twice key slot
  have first : once key = join ',' (slotList env.customized (properties key)) :=
    update_slot env properties slot
  have second : twice key = join ',' (slotList env.customized (once key)) :=
    update_slot env once slot
  have preserved := published_preserves wellFormed (properties key)
  rw [second, first]
  refine ⟨preserved, ?_, published_stable_iff wellFormed (properties key)⟩
  intro number listed
  exact (preserved number).mpr (Or.inl listed)

/-- One SIM lists 112, and 999 applies without a SIM. -/
theorem one_sim_preserved :
    let once := updateEmergencyNumbersProperty noSimEnvironment oneSim
    let twice := updateEmergencyNumbersProperty noSimEnvironment once
    ∀ key ∈ slots,
      Preserves noSimEnvironment.customized (oneSim key) (once key) ∧
        (∀ number ∈ numbersOf (oneSim key), number ∈ numbersOf (once key)) ∧
        (SameNumbers (twice key) (once key) ↔
          ¬ Separators noSimEnvironment.customized (oneSim key)) := by
  apply update_preserves_and_stabilises
  intro entry member
  obtain rfl := List.mem_singleton.mp member
  decide

/-- A property that holds one comma is left empty by the first update, and 999 is added by
the second. -/
theorem second_update_adds :
    ¬ ∀ env properties, WellFormed env.customized → ∀ key ∈ slots,
      SameNumbers
        (updateEmergencyNumbersProperty env (updateEmergencyNumbersProperty env properties) key)
        (updateEmergencyNumbersProperty env properties key) := by
  intro stable
  have same := stable noSimEnvironment (SystemProperties.set (fun _ => []) ecclistProperty [','])
    (by
      intro entry member
      obtain rfl := List.mem_singleton.mp member
      decide) ecclistProperty (by decide) "999".toList
  revert same
  decide

end X5MaxDevice.Ril.EccStability
