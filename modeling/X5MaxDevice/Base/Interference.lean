import Mathlib.Data.List.Basic

/-! Straight-line code that is executed statement by statement while others interfere: what the
statements that are left lead to, on a summary of the state that each of them changes. -/

namespace X5MaxDevice.Interference

variable {A X : Type*}

/-- `effect` lists what a statement can make of a summary. Whatever the statements do, `always`
holds before each of them and `last` when none is left. -/
def Leads (effect : A → X → List X) (always last : X → Prop) : List A → X → Prop
  | [], x => last x
  | statement :: rest, x =>
      always x ∧ ∀ y ∈ effect statement x, Leads effect always last rest y

variable {effect : A → X → List X} {always last : X → Prop} {x x' : X}

theorem leads_append (front rest : List A) : Leads effect always last (front ++ rest) x ↔
    Leads effect always (Leads effect always last rest) front x := by
  induction front generalizing x with
  | nil => rfl
  | cons statement front ih => simp [Leads, ih]

theorem Leads.now {statements : List A} (leads : Leads effect always last statements x)
    (ends : ∀ x, last x → always x) : always x := by
  cases statements with
  | nil => exact ends x leads
  | cons statement rest => exact leads.1

/-- Statements that leave the summary as it is. -/
theorem leads_neutral {statements : List A}
    (neutral : ∀ statement ∈ statements, effect statement x = [x]) (now : always x)
    (ends : last x) : Leads effect always last statements x := by
  induction statements with
  | nil => exact ends
  | cons statement rest ih =>
      refine ⟨now, ?_⟩
      intro y outcome
      rw [neutral statement (by simp)] at outcome
      obtain rfl : y = x := by simpa using outcome
      exact ih fun other member => neutral other (by simp [member])

/-- A statement that puts a branch in front of the rest does what the branch does. -/
theorem Leads.branch {statement : A} {front rest : List A}
    (leads : Leads effect always last (statement :: rest) x)
    (does : ∀ after, (∀ y ∈ effect statement x, after y) → Leads effect always after front x') :
    Leads effect always last (front ++ rest) x' :=
  (leads_append front rest).mpr (does _ leads.2)

/-- Interference that `always` and `last` allow, and that no statement brings to light. -/
structure Harmless (effect : A → X → List X) (always last : X → Prop) (interferes : X → X → Prop) :
    Prop where
  kept : ∀ x x', interferes x x' → always x → always x'
  ended : ∀ x x', interferes x x' → last x → last x'
  matched : ∀ statement x x', interferes x x' → ∀ y' ∈ effect statement x',
    ∃ y ∈ effect statement x, interferes y y'

theorem Harmless.leads {interferes : X → X → Prop}
    (harmless : Harmless effect always last interferes) {statements : List A}
    (leads : Leads effect always last statements x) (interfered : interferes x x') :
    Leads effect always last statements x' := by
  induction statements generalizing x x' with
  | nil => exact harmless.ended x x' interfered leads
  | cons statement rest ih =>
      refine ⟨harmless.kept x x' interfered leads.1, ?_⟩
      intro y' outcome
      obtain ⟨y, possible, later⟩ := harmless.matched statement x x' interfered y' outcome
      exact ih (leads.2 y possible) later

end X5MaxDevice.Interference
