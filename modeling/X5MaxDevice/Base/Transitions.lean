import Mathlib.Logic.Relation
import Mathlib.Data.List.Basic

/-! Labelled transition systems given by a partial step function, and the runs
whose steps all satisfy a side condition on the state before the step. -/

namespace X5MaxDevice.Transitions

variable {S A B : Type*}

/-- One step of `step` whose label is admitted in the state it leaves. -/
def StepWhere (allowed : S → A → Prop) (step : S → A → Option S) (s s' : S) : Prop :=
  ∃ label, allowed s label ∧ step s label = some s'

/-- States at the end of a run from `start` whose steps are all admitted. -/
def ReachesWhere (allowed : S → A → Prop) (step : S → A → Option S) (start : S) : S → Prop :=
  Relation.ReflTransGen (StepWhere allowed step) start

/-- Reachability without a side condition on the steps. -/
def Reaches (step : S → A → Option S) (start : S) : S → Prop :=
  ReachesWhere (fun _ _ => True) step start

variable {allowed : S → A → Prop} {step : S → A → Option S} {start s : S}

theorem reachesWhere_refl (s : S) : ReachesWhere allowed step s s :=
  Relation.ReflTransGen.refl

/-- The invariant rule: what holds at the start and is kept by every admitted step
holds at the end of every admitted run. -/
theorem ReachesWhere.invariant {P : S → Prop} (reached : ReachesWhere allowed step start s)
    (initial : P start)
    (preserved : ∀ s label s', P s → allowed s label → step s label = some s' → P s') : P s := by
  induction reached with
  | refl => exact initial
  | tail _ moved ih =>
      obtain ⟨label, admitted, stepped⟩ := moved
      exact preserved _ label _ ih admitted stepped

theorem Reaches.invariant {P : S → Prop} (reached : Reaches step start s) (initial : P start)
    (preserved : ∀ s label s', P s → step s label = some s' → P s') : P s :=
  ReachesWhere.invariant reached initial
    (fun s label s' holds _ stepped => preserved s label s' holds stepped)

/-- Executes a list of labels, failing at the first label that is not enabled. -/
def run (step : S → A → Option S) : S → List A → Option S
  | s, [] => some s
  | s, label :: labels => (step s label).bind (fun s' => run step s' labels)

/-- Every executed run is a run of the system. -/
theorem reaches_of_run (labels : List A) (executed : run step start labels = some s) :
    Reaches step start s := by
  induction labels generalizing start with
  | nil =>
      cases executed
      exact reachesWhere_refl _
  | cons label labels ih =>
      simp only [run] at executed
      cases moved : step start label with
      | none => simp [moved] at executed
      | some next =>
          simp only [moved, Option.bind_some] at executed
          exact Relation.ReflTransGen.head ⟨label, trivial, moved⟩ (ih executed)

/-- The step function that also refuses the labels that are not admitted. -/
def guarded (allowed : S → A → Prop) [∀ s label, Decidable (allowed s label)]
    (step : S → A → Option S) (s : S) (label : A) : Option S :=
  if allowed s label then step s label else none

theorem reachesWhere_of_run [∀ s label, Decidable (allowed s label)] (labels : List A)
    (executed : run (guarded allowed step) start labels = some s) :
    ReachesWhere allowed step start s := by
  have reached := reaches_of_run labels executed
  refine Relation.ReflTransGen.mono ?_ _ _ reached
  rintro before after ⟨label, -, stepped⟩
  simp only [guarded] at stepped
  split at stepped
  · rename_i admitted
    exact ⟨label, admitted, stepped⟩
  · cases stepped

/-- An executed run is admitted, or has a first label that is not. -/
theorem reachesWhere_or_refused (allowed : S → A → Prop) (labels : List A)
    (executed : run step start labels = some s) :
    ReachesWhere allowed step start s ∨ ∃ before label after s', labels = before ++ label :: after ∧
      run step start before = some s' ∧ ¬allowed s' label := by
  induction labels generalizing start with
  | nil =>
      cases executed
      exact .inl (reachesWhere_refl _)
  | cons label labels ih =>
      simp only [run, Option.bind_eq_some_iff] at executed
      obtain ⟨next, moved, rest⟩ := executed
      by_cases admitted : allowed start label
      · rcases ih rest with reached | ⟨before, refused, after, s', rfl, ran, denied⟩
        · exact .inl (Relation.ReflTransGen.head ⟨label, admitted, moved⟩ reached)
        · exact .inr ⟨label :: before, refused, after, s', rfl, by simp [run, moved, ran], denied⟩
      · exact .inr ⟨[], label, labels, start, rfl, rfl, admitted⟩

/-- Every label is admitted in the state that a total step function has reached by then. -/
def AdmittedAlong (allowed : S → A → Prop) (advance : S → A → S) : S → List A → Prop
  | _, [] => True
  | s, label :: labels =>
      allowed s label ∧ AdmittedAlong allowed advance (advance s label) labels

instance decidableAdmittedAlong [∀ s label, Decidable (allowed s label)] (advance : S → A → S) :
    (s : S) → (labels : List A) → Decidable (AdmittedAlong allowed advance s labels)
  | _, [] => isTrue trivial
  | s, label :: labels =>
      have : Decidable (AdmittedAlong allowed advance (advance s label) labels) :=
        decidableAdmittedAlong advance (advance s label) labels
      inferInstanceAs (Decidable (_ ∧ _))

/-- What follows the last label does not matter. -/
theorem AdmittedAlong.behind {advance : S → A → S} {s s' : S} {label : A} {labels : List A}
    (admitted : AdmittedAlong allowed advance s (label :: labels))
    (same : labels ≠ [] → s' = advance s label) : AdmittedAlong allowed advance s' labels := by
  cases labels with
  | nil => trivial
  | cons next labels =>
      rw [same (List.cons_ne_nil next labels)]
      exact admitted.2

theorem reachesWhere_foldl {advance : S → A → S} {labels : List A}
    (admitted : AdmittedAlong allowed advance start labels) :
    ReachesWhere allowed (fun s label => some (advance s label)) start
      (labels.foldl advance start) := by
  induction labels generalizing start with
  | nil => exact reachesWhere_refl start
  | cons label labels ih =>
      exact Relation.ReflTransGen.head ⟨label, admitted.1, rfl⟩ (ih admitted.2)

theorem reaches_foldl (advance : S → A → S) (labels : List A) (start : S) :
    Reaches (fun s label => some (advance s label)) start (labels.foldl advance start) := by
  apply reachesWhere_foldl
  induction labels generalizing start with
  | nil => trivial
  | cons label labels ih => exact ⟨trivial, ih (advance start label)⟩

end X5MaxDevice.Transitions
