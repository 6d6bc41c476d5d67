import Mathlib.Data.List.Basic

/-! Laws that every event of a log obeys with respect to the events before it. -/

namespace X5MaxDevice.History

variable {α : Type*}

/-- Each event of the log satisfies `law` against the part of the log that precedes it. -/
def AtEach (law : List α → α → Prop) (log : List α) : Prop :=
  ∀ before event after, log = before ++ event :: after → law before event

theorem atEach_nil (law : List α → α → Prop) : AtEach law [] := by
  intro before event after split
  simp at split

theorem AtEach.snoc {law : List α → α → Prop} {log : List α} {event : α}
    (lawful : AtEach law log) (next : law log event) : AtEach law (log ++ [event]) := by
  intro before other after split
  rcases List.eq_nil_or_concat after with rfl | ⟨front, final, rfl⟩
  · obtain ⟨same, last⟩ := List.append_inj' split rfl
    obtain rfl : event = other := by simpa using last
    exact same ▸ next
  · have regrouped : log ++ [event] = (before ++ other :: front) ++ [final] := by
      simpa using split
    obtain ⟨same, -⟩ := List.append_inj' regrouped rfl
    exact lawful before other front same

/-- The events after the last one that satisfies `stop`. -/
def since (stop : α → Bool) (log : List α) : List α :=
  (log.reverse.takeWhile (fun event => !stop event)).reverse

theorem since_snoc (stop : α → Bool) (log : List α) (event : α) :
    since stop (log ++ [event]) = if stop event then [] else since stop log ++ [event] := by
  cases stops : stop event <;> simp [since, stops]

/-- The value that the last event with one has. -/
def latest {β : Type*} (value : α → Option β) (log : List α) : Option β :=
  log.reverse.findSome? value

theorem latest_snoc {β : Type*} (value : α → Option β) (log : List α) (event : α) :
    latest value (log ++ [event]) = (value event).or (latest value log) := by
  cases found : value event <;> simp [latest, found]

end X5MaxDevice.History
