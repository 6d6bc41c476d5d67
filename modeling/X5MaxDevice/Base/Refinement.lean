import X5MaxDevice.Base.Transitions

/-! Forward simulation between two transition systems that show events of one kind: each
step of the lower system is matched by a run of the upper one with the same events. -/

namespace X5MaxDevice.Refinement

variable {S A T B E : Type*}

/-- Runs with the events they show, in order. -/
inductive Execution (step : S → A → Option S) (shown : S → A → Option E) :
    S → List E → S → Prop
  | refl (s : S) : Execution step shown s [] s
  | tail {start s s' : S} {history : List E} {label : A} :
      Execution step shown start history s → step s label = some s' →
      Execution step shown start (history ++ (shown s label).toList) s'

section Runs

variable {step : S → A → Option S} {shown : S → A → Option E} {start s s' : S}
  {history : List E}

theorem Execution.trans {later : List E} (first : Execution step shown start history s)
    (second : Execution step shown s later s') :
    Execution step shown start (history ++ later) s' := by
  induction second with
  | refl => simpa using first
  | tail _ moved ih =>
      rw [← List.append_assoc]
      exact ih.tail moved

theorem Execution.single {label : A} (moved : step s label = some s') :
    Execution step shown s (shown s label).toList s' :=
  Execution.tail (Execution.refl s) moved

theorem Execution.reaches (executed : Execution step shown start history s) :
    Transitions.Reaches step start s := by
  induction executed with
  | refl => exact Transitions.reachesWhere_refl _
  | tail _ moved ih => exact Relation.ReflTransGen.tail ih ⟨_, trivial, moved⟩

theorem exists_execution (reached : Transitions.Reaches step start s) :
    ∃ history, Execution step shown start history s := by
  induction reached with
  | refl => exact ⟨[], Execution.refl _⟩
  | tail _ moved ih =>
      obtain ⟨history, executed⟩ := ih
      obtain ⟨label, -, stepped⟩ := moved
      exact ⟨_, executed.tail stepped⟩

/-- A property of the state and of the events so far that every step keeps. -/
theorem Execution.invariant {P : List E → S → Prop}
    (executed : Execution step shown start history s) (initial : P [] start)
    (preserved : ∀ history s label s', P history s → step s label = some s' →
      P (history ++ (shown s label).toList) s') : P history s := by
  induction executed with
  | refl => exact initial
  | tail _ moved ih => exact preserved _ _ _ _ ih moved

/-- Executes a list of labels and collects the events it shows. -/
def perform (step : S → A → Option S) (shown : S → A → Option E) :
    S → List A → Option (List E × S)
  | s, [] => some ([], s)
  | s, label :: labels =>
      (step s label).bind fun next =>
        (perform step shown next labels).map fun (later, last) =>
          ((shown s label).toList ++ later, last)

theorem execution_of_perform (labels : List A)
    (performed : perform step shown start labels = some (history, s)) :
    Execution step shown start history s := by
  induction labels generalizing start history with
  | nil =>
      cases performed
      exact Execution.refl s
  | cons label labels ih =>
      simp only [perform, Option.bind_eq_some_iff, Option.map_eq_some_iff] at performed
      obtain ⟨next, moved, ⟨later, last⟩, rest, same⟩ := performed
      cases same
      exact (Execution.single moved).trans (ih rest)

/-- A run whose steps all lower a measure is no longer than the measure at its start. -/
theorem length_le_of_lowered (measure : S → Nat) {P : S → Prop} {allowed : A → Prop}
    (kept : ∀ s label s', P s → step s label = some s' → P s')
    (lowered : ∀ s label s', P s → allowed label → step s label = some s' → measure s' < measure s)
    (labels : List A) (holds : P start) (admitted : ∀ label ∈ labels, allowed label)
    (executed : Transitions.run step start labels = some s) :
    labels.length + measure s ≤ measure start := by
  induction labels generalizing start with
  | nil =>
      cases executed
      simp
  | cons label labels ih =>
      simp only [Transitions.run, Option.bind_eq_some_iff] at executed
      obtain ⟨next, moved, rest⟩ := executed
      have lower := lowered _ _ _ holds (admitted label (by simp)) moved
      have later := ih (kept _ _ _ holds moved)
        (fun label member => admitted label (by simp [member])) rest
      simp only [List.length_cons]
      omega

end Runs

/-- `R` relates the states of the lower system with those of the upper one, and every lower
step from related states leads to related states through an upper run with the same events. -/
structure Simulation (low : S → A → Option S) (shownLow : S → A → Option E)
    (high : T → B → Option T) (shownHigh : T → B → Option E) (R : S → T → Prop) : Prop where
  matched : ∀ s t label s', R s t → low s label = some s' →
    ∃ t', Execution high shownHigh t (shownLow s label).toList t' ∧ R s' t'

/-- Every history of the lower system is a history of the upper one. -/
theorem Simulation.execution {low : S → A → Option S} {shownLow : S → A → Option E}
    {high : T → B → Option T} {shownHigh : T → B → Option E} {R : S → T → Prop}
    (simulation : Simulation low shownLow high shownHigh R) {start s : S} {t : T}
    {history : List E} (related : R start t)
    (executed : Execution low shownLow start history s) :
    ∃ t', Execution high shownHigh t history t' ∧ R s t' := by
  induction executed with
  | refl => exact ⟨t, Execution.refl t, related⟩
  | tail _ moved ih =>
      obtain ⟨before, sofar, relatedBefore⟩ := ih
      obtain ⟨after, matching, relatedAfter⟩ :=
        simulation.matched _ _ _ _ relatedBefore moved
      exact ⟨after, sofar.trans matching, relatedAfter⟩

end X5MaxDevice.Refinement
