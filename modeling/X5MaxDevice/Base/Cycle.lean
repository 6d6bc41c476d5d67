import Mathlib.Data.List.Basic

/-! Words that run round a fixed cycle of letters. -/

namespace X5MaxDevice.Cycle

variable {α : Type*}

/-- `rounds` full turns of the cycle. -/
def turns (cycle : List α) (rounds : Nat) : List α :=
  (List.replicate rounds cycle).flatten

/-- The word is a prefix of some repetition of the cycle. -/
def PrefixOfRepetition (cycle word : List α) : Prop :=
  ∃ rounds, word <+: turns cycle rounds

/-- The word consists of full turns and then the first `phase` letters of the cycle. -/
def AtPhase (cycle : List α) (phase : Nat) (word : List α) : Prop :=
  ∃ rounds, word = turns cycle rounds ++ cycle.take phase

theorem turns_succ (cycle : List α) (rounds : Nat) :
    turns cycle (rounds + 1) = turns cycle rounds ++ cycle := by
  simp [turns, List.replicate_succ']

theorem atPhase_nil (cycle : List α) : AtPhase cycle 0 [] :=
  ⟨0, by simp [turns]⟩

theorem AtPhase.snoc {cycle word : List α} {phase : Nat} {letter : α}
    (at_phase : AtPhase cycle phase word) (next : cycle[phase]? = some letter) :
    AtPhase cycle (phase + 1) (word ++ [letter]) := by
  obtain ⟨rounds, rfl⟩ := at_phase
  refine ⟨rounds, ?_⟩
  rw [List.take_add_one, next, List.append_assoc]
  rfl

/-- A completed turn is the start of the next one. -/
theorem AtPhase.wrap {cycle word : List α} (at_phase : AtPhase cycle cycle.length word) :
    AtPhase cycle 0 word := by
  obtain ⟨rounds, rfl⟩ := at_phase
  exact ⟨rounds + 1, by simp [turns_succ]⟩

theorem AtPhase.prefixOfRepetition {cycle word : List α} {phase : Nat}
    (at_phase : AtPhase cycle phase word) : PrefixOfRepetition cycle word := by
  obtain ⟨rounds, rfl⟩ := at_phase
  refine ⟨rounds + 1, ?_⟩
  rw [turns_succ]
  exact (List.prefix_append_right_inj _).mpr (List.take_prefix phase cycle)

/-- The letters at the front of a word are those at the front of the cycle. -/
theorem PrefixOfRepetition.getElem?_eq {cycle word : List α} {index : Nat}
    (inside : index < cycle.length) (present : index < word.length)
    (follows : PrefixOfRepetition cycle word) : word[index]? = cycle[index]? := by
  obtain ⟨rounds, before⟩ := follows
  cases rounds with
  | zero =>
      have empty : word = [] := List.prefix_nil.mp (by simpa [turns] using before)
      simp [empty] at present
  | succ rounds =>
      have split : turns cycle (rounds + 1) = cycle ++ turns cycle rounds := by
        simp [turns, List.replicate_succ]
      have agrees := List.prefix_iff_getElem?.mp before index present
      rw [split, List.getElem?_append_left inside] at agrees
      rw [List.getElem?_eq_getElem present, agrees]

end X5MaxDevice.Cycle
