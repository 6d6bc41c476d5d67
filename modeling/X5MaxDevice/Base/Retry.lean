import Mathlib.Data.Nat.Count

/-! Loops that repeat an operation: at once while it is interrupted, and after a pause as long as
pauses are left. -/

namespace X5MaxDevice.Retry

variable {β : Type*}

/-- What an attempt comes to; a pause gives the result for the case that none is left. -/
inductive Attempt (β : Type*) where
  | done (result : β)
  | again
  | pause (result : β)
  deriving DecidableEq

def Attempt.isDone : Attempt β → Bool
  | .done _ => true
  | _ => false

def Attempt.isPause : Attempt β → Bool
  | .pause _ => true
  | _ => false

/-- The result of the loop and the number of the attempt that gives it. -/
def loop (attempt : Nat → Attempt β) : (fuel pauses : Nat) → Option (β × Nat)
  | 0, _ => none
  | fuel + 1, pauses =>
      let rest := fun pauses =>
        (loop (fun i => attempt (i + 1)) fuel pauses).map fun ended => (ended.1, ended.2 + 1)
      match attempt 0 with
      | .done result => some (result, 0)
      | .again => rest pauses
      | .pause result =>
          match pauses with
          | 0 => some (result, 0)
          | pauses + 1 => rest pauses

/-- The pauses that come before attempt `n`. -/
def pausesBefore (attempt : Nat → Attempt β) (n : Nat) : Nat :=
  Nat.count (fun i => (attempt i).isPause = true) n

/-- Attempt `n` is the first that is not repeated. -/
structure Ends (attempt : Nat → Attempt β) (pauses n : Nat) (result : β) : Prop where
  before : ∀ i < n, (attempt i).isDone = false
  within : pausesBefore attempt n ≤ pauses
  last : attempt n = .done result ∨ attempt n = .pause result ∧ pausesBefore attempt n = pauses

section Loop

variable {attempt : Nat → Attempt β} {pauses n : Nat} {result : β}

theorem pausesBefore_zero (attempt : Nat → Attempt β) : pausesBefore attempt 0 = 0 := by
  simp [pausesBefore]

theorem pausesBefore_first (attempt : Nat → Attempt β) (n : Nat) :
    pausesBefore attempt (n + 1) =
      pausesBefore (fun i => attempt (i + 1)) n + if (attempt 0).isPause = true then 1 else 0 := by
  simp [pausesBefore, Nat.count_succ']

theorem pausesBefore_succ (attempt : Nat → Attempt β) (n : Nat) :
    pausesBefore attempt (n + 1) =
      pausesBefore attempt n + if (attempt n).isPause = true then 1 else 0 := by
  simp [pausesBefore, Nat.count_succ]

theorem Ends.first (done : attempt 0 = .done result) : Ends attempt pauses 0 result where
  before := by simp
  within := by simp [pausesBefore_zero]
  last := .inl done

theorem Ends.spent (paused : attempt 0 = .pause result) : Ends attempt 0 0 result where
  before := by simp
  within := by simp [pausesBefore_zero]
  last := .inr ⟨paused, pausesBefore_zero attempt⟩

/-- An attempt that is repeated leaves the rest of the loop as it is. -/
theorem ends_again (again : attempt 0 = .again) :
    Ends attempt pauses (n + 1) result ↔ Ends (fun i => attempt (i + 1)) pauses n result := by
  have counted : pausesBefore attempt (n + 1) = pausesBefore (fun i => attempt (i + 1)) n := by
    simp [pausesBefore_first, again, Attempt.isPause]
  constructor
  · rintro ⟨before, within, last⟩
    exact ⟨fun i less => before (i + 1) (by omega), by omega, by rwa [counted] at last⟩
  · rintro ⟨before, within, last⟩
    refine ⟨?_, by omega, by rwa [counted]⟩
    intro i less
    cases i with
    | zero => simp [again, Attempt.isDone]
    | succ i => exact before i (by omega)

theorem ends_pause {otherwise : β} (paused : attempt 0 = .pause otherwise) :
    Ends attempt (pauses + 1) (n + 1) result ↔
      Ends (fun i => attempt (i + 1)) pauses n result := by
  have counted : pausesBefore attempt (n + 1) = pausesBefore (fun i => attempt (i + 1)) n + 1 := by
    simp [pausesBefore_first, paused, Attempt.isPause]
  constructor
  · rintro ⟨before, within, last⟩
    refine ⟨fun i less => before (i + 1) (by omega), by omega, ?_⟩
    rcases last with done | ⟨final, all⟩
    · exact .inl done
    · exact .inr ⟨final, by omega⟩
  · rintro ⟨before, within, last⟩
    refine ⟨?_, by omega, ?_⟩
    · intro i less
      cases i with
      | zero => simp [paused, Attempt.isDone]
      | succ i => exact before i (by omega)
    · rcases last with done | ⟨final, all⟩
      · exact .inl done
      · exact .inr ⟨final, by omega⟩

theorem ends_zero_iff : Ends attempt pauses 0 result ↔
    attempt 0 = .done result ∨ attempt 0 = .pause result ∧ pauses = 0 := by
  constructor
  · rintro ⟨-, -, done | ⟨paused, all⟩⟩
    · exact .inl done
    · exact .inr ⟨paused, by simpa [pausesBefore_zero] using all.symm⟩
  · rintro (done | ⟨paused, rfl⟩)
    · exact Ends.first done
    · exact Ends.spent paused

/-- With enough attempts the loop gives the result of the attempt that ends it. -/
theorem loop_eq_some_iff (fuel : Nat) :
    loop attempt fuel pauses = some (result, n) ↔ n < fuel ∧ Ends attempt pauses n result := by
  induction fuel generalizing attempt pauses n with
  | zero => simp [loop]
  | succ fuel ih =>
      have rest : ∀ left, ((loop (fun i => attempt (i + 1)) fuel left).map fun ended =>
          (ended.1, ended.2 + 1)) = some (result, n) ↔
            ∃ m, n = m + 1 ∧ m < fuel ∧ Ends (fun i => attempt (i + 1)) left m result := by
        intro left
        rw [Option.map_eq_some_iff]
        constructor
        · rintro ⟨⟨value, m⟩, looped, same⟩
          obtain ⟨rfl, rfl⟩ := Prod.mk.inj same
          exact ⟨m, rfl, ih.mp looped⟩
        · rintro ⟨m, rfl, ended⟩
          exact ⟨(result, m), ih.mpr ended, rfl⟩
      simp only [loop]
      cases first : attempt 0 with
      | done value =>
          constructor
          · intro same
            obtain ⟨rfl, rfl⟩ := Prod.mk.inj (Option.some.inj same)
            exact ⟨by omega, Ends.first first⟩
          · rintro ⟨-, ended⟩
            cases n with
            | zero => simpa [ends_zero_iff, first] using ended
            | succ n => simpa [first, Attempt.isDone] using ended.before 0 (by omega)
      | again =>
          simp only [rest]
          cases n with
          | zero => simp [ends_zero_iff, first]
          | succ n => simp [ends_again first]
      | pause value =>
          cases pauses with
          | zero =>
              constructor
              · intro same
                obtain ⟨rfl, rfl⟩ := Prod.mk.inj (Option.some.inj same)
                exact ⟨by omega, Ends.spent first⟩
              · rintro ⟨-, ended⟩
                cases n with
                | zero => simpa [ends_zero_iff, first] using ended
                | succ n =>
                    have within := ended.within
                    simp [pausesBefore_first, first, Attempt.isPause] at within
          | succ pauses =>
              simp only [rest]
              cases n with
              | zero => simp [ends_zero_iff, first]
              | succ n => simp [ends_pause first]

theorem loop_returns_iff :
    (∃ fuel, loop attempt fuel pauses = some (result, n)) ↔ Ends attempt pauses n result := by
  constructor
  · rintro ⟨fuel, looped⟩
    exact ((loop_eq_some_iff fuel).mp looped).2
  · intro ended
    exact ⟨n + 1, (loop_eq_some_iff (n + 1)).mpr ⟨by omega, ended⟩⟩

/-- The loop ends in one way at most. -/
theorem Ends.unique {m : Nat} {other : β} (first : Ends attempt pauses n result)
    (second : Ends attempt pauses m other) : result = other ∧ n = m := by
  have one := (loop_eq_some_iff (n + m + 1)).mpr ⟨by omega, first⟩
  have two := (loop_eq_some_iff (n + m + 1)).mpr ⟨by omega, second⟩
  rw [one] at two
  exact Prod.mk.inj (Option.some.inj two)

/-- Where the loop has not ended, it has neither met a result nor used up its pauses. -/
theorem unended (never : ∀ result n, ¬ Ends attempt pauses n result) (n : Nat) :
    (∀ i < n, (attempt i).isDone = false) ∧ pausesBefore attempt n ≤ pauses := by
  induction n with
  | zero => simp [pausesBefore_zero]
  | succ n ih =>
      obtain ⟨before, within⟩ := ih
      cases now : attempt n with
      | done result => exact absurd ⟨before, within, .inl now⟩ (never result n)
      | again =>
          rw [pausesBefore_succ]
          refine ⟨?_, by simpa [now, Attempt.isPause] using within⟩
          intro i less
          rcases Nat.lt_succ_iff_lt_or_eq.mp less with earlier | rfl
          · exact before i earlier
          · simp [now, Attempt.isDone]
      | pause result =>
          have left : pausesBefore attempt n ≠ pauses := fun all =>
            never result n ⟨before, within, .inr ⟨now, all⟩⟩
          rw [pausesBefore_succ]
          refine ⟨?_, by simp [now, Attempt.isPause]; omega⟩
          intro i less
          rcases Nat.lt_succ_iff_lt_or_eq.mp less with earlier | rfl
          · exact before i earlier
          · simp [now, Attempt.isDone]

/-- As many pauses as there ever are have been made at some point. -/
theorem exists_last_pause (bounded : ∀ n, pausesBefore attempt n ≤ pauses) :
    ∃ n, ∀ i ≥ n, (attempt i).isPause = false := by
  by_contra! endless
  have grows : ∀ k, ∃ n, k ≤ pausesBefore attempt n := by
    intro k
    induction k with
    | zero => exact ⟨0, by omega⟩
    | succ k ih =>
        obtain ⟨n, reached⟩ := ih
        obtain ⟨i, later, paused⟩ := endless n
        have monotone : pausesBefore attempt n ≤ pausesBefore attempt i :=
          Nat.count_monotone _ later
        refine ⟨i + 1, ?_⟩
        rw [pausesBefore_succ, if_pos (by simpa using paused)]
        omega
  obtain ⟨n, beyond⟩ := grows (pauses + 1)
  exact absurd (bounded n) (by omega)

/-- The loop goes on for ever exactly if from some point on it is always interrupted. -/
theorem never_ends_iff : (∀ result n, ¬ Ends attempt pauses n result) ↔
    ∃ n, (∀ i < n, (attempt i).isDone = false) ∧ pausesBefore attempt n ≤ pauses ∧
      ∀ i ≥ n, attempt i = .again := by
  constructor
  · intro never
    obtain ⟨n, quiet⟩ := exists_last_pause fun n => (unended never n).2
    refine ⟨n, (unended never n).1, (unended never n).2, ?_⟩
    intro i later
    have undone := (unended never (i + 1)).1 i (by omega)
    have unpaused := quiet i later
    cases now : attempt i with
    | done result => simp [now, Attempt.isDone] at undone
    | again => rfl
    | pause result => simp [now, Attempt.isPause] at unpaused
  · rintro ⟨n, before, within, interrupted⟩ result m ended
    by_cases earlier : m < n
    · rcases ended.last with done | ⟨paused, all⟩
      · simpa [done, Attempt.isDone] using before m earlier
      · have counted : pausesBefore attempt (m + 1) ≤ pausesBefore attempt n :=
          Nat.count_monotone _ earlier
        rw [pausesBefore_succ, paused] at counted
        simp [Attempt.isPause] at counted
        omega
    · have again := interrupted m (by omega)
      rcases ended.last with done | ⟨paused, -⟩
      · simp [again] at done
      · simp [again] at paused

theorem loop_hangs_iff : (∀ fuel, loop attempt fuel pauses = none) ↔
    ∃ n, (∀ i < n, (attempt i).isDone = false) ∧ pausesBefore attempt n ≤ pauses ∧
      ∀ i ≥ n, attempt i = .again := by
  rw [← never_ends_iff]
  constructor
  · intro hangs result n ended
    obtain ⟨fuel, returned⟩ := loop_returns_iff.mpr ended
    simp [hangs fuel] at returned
  · intro never fuel
    cases returned : loop attempt fuel pauses with
    | none => rfl
    | some ended => exact absurd (loop_returns_iff.mp ⟨fuel, returned⟩) (never ended.1 ended.2)

end Loop

end X5MaxDevice.Retry
