import X5MaxDevice.Fingerprint.EnrollmentCompletion

/-! What the failures of `fp_enroll` show of themselves: a sequence of calls of `enroll` beside
the same sequence without the calls that failed. -/

namespace X5MaxDevice.Fingerprint.FailedEnrollment

open X5MaxDevice.Fingerprint.EnrollmentCompletion hiding advance
open X5MaxDevice.Fingerprint.Hal
open X5MaxDevice.Transitions

def advance (h : Mafprint) (step : Step) : Mafprint := enroll step.val step.results h

/-- The call gets as far as `fp_enroll`, which returns an error code. -/
def failed (h : Mafprint) (step : Step) : Bool :=
  enrolls h step && decide (step.results.fpEnroll < 0)

/-- The calls of a run that did not fail. -/
def successful : Mafprint → List Step → List Step
  | _, [] => []
  | h, step :: steps =>
      if failed h step then successful (advance h step) steps
      else step :: successful (advance h step) steps

def storing : Event → Bool
  | .dbUpdate _ | .saveToken _ _ => true
  | .notify _ => false

/-- Without the failed calls the same `ENROLLING` messages are sent, the same is stored, and the
grade is the same. -/
def Invisible (h : Mafprint) (steps : List Step) : Prop :=
  let whole := steps.foldl advance h
  let kept := (successful h steps).foldl advance h
  whole.log.filter enrolling = kept.log.filter enrolling ∧ whole.grade = kept.grade ∧
    whole.log.filter storing = kept.log.filter storing

def failures : Mafprint → List Step → Nat
  | _, [] => 0
  | h, step :: steps =>
      (if failed h step then 1 else 0) + failures (advance h step) steps

/-- Two states of one enrollment, the first of them after more failures. -/
structure Beside (whole kept : Mafprint) : Prop where
  gid : whole.gid = kept.gid
  fid : whole.fid = kept.fid
  hat : whole.hat = kept.hat
  ended : whole.grade = 100 ↔ kept.grade = 100
  stored : whole.log.filter storing = kept.log.filter storing

theorem Beside.refl (h : Mafprint) : Beside h h := ⟨rfl, rfl, rfl, Iff.rfl, rfl⟩

theorem Beside.enrolls {whole kept : Mafprint} (beside : Beside whole kept) (step : Step) :
    enrolls whole step = enrolls kept step := by
  simp [EnrollmentCompletion.enrolls, beside.ended]

def sent (h : Mafprint) : Nat := (h.log.filter enrolling).length

theorem acquiring_unstored {events : List Event}
    (quiet : ∀ event ∈ events, acquiring event = true) :
    events.filter storing = [] ∧ events.filter enrolling = [] := by
  constructor
  · apply List.filter_eq_nil_iff.mpr
    intro event member
    rcases acquiring_message (quiet event member) with ⟨info, rfl⟩
    simp [storing]
  · apply List.filter_eq_nil_iff.mpr
    intro event member
    rcases acquiring_message (quiet event member) with ⟨info, rfl⟩
    simp [enrolling]

theorem enrolled_filters (h : Mafprint) (grade : Int32) :
    (enrolled h grade).filter storing =
        (if grade = 100 then [.dbUpdate h.fid, .saveToken h.fid h.hat] else []) ∧
      ((enrolled h grade).filter enrolling).length = 1 := by
  by_cases done : grade = 100
  · simp [enrolled, List.filter_cons, storing, enrolling, done]
  · simp [enrolled, List.filter_cons, storing, enrolling, done]

/-- A call on its own: the grade and the events it adds. -/
theorem advance_early {h : Mafprint} {step : Step} (early : enrolls h step = false) :
    (advance h step).grade = h.grade ∧ (advance h step).gid = h.gid ∧
      (advance h step).fid = h.fid ∧ (advance h step).hat = h.hat ∧
      (advance h step).log.filter storing = h.log.filter storing ∧
      sent (advance h step) = sent h := by
  rcases enroll_early early with ⟨events, changed, quiet⟩
  have silent := acquiring_unstored quiet
  rw [advance, sent, sent, changed]
  simp [silent.1, silent.2]

theorem advance_full {h : Mafprint} {step : Step} (full : enrolls h step = true) :
    (advance h step).grade = step.results.fpEnroll ∧ (advance h step).gid = h.gid ∧
      (advance h step).fid = h.fid ∧ (advance h step).hat = h.hat ∧
      (advance h step).log.filter storing = h.log.filter storing ++
        (if step.results.fpEnroll = 100 then [.dbUpdate h.fid, .saveToken h.fid h.hat] else []) ∧
      sent (advance h step) = sent h + 1 := by
  rcases enroll_full full with ⟨area, quiet, changed⟩
  have silent := acquiring_unstored quiet
  have filters := enrolled_filters h step.results.fpEnroll
  rw [advance, sent, sent, changed]
  simp [silent.1, silent.2, filters.1, filters.2]

theorem failed_unstored {h : Mafprint} {step : Step} (fails : failed h step = true) :
    enrolls h step = true ∧ step.results.fpEnroll ≠ 100 := by
  rw [failed, Bool.and_eq_true, decide_eq_true_eq] at fails
  refine ⟨fails.1, ?_⟩
  intro done
  rw [done] at fails
  exact absurd fails.2 (by decide)

/-- A call that fails is made in one of the two runs only. -/
theorem Beside.failing {whole kept : Mafprint} (beside : Beside whole kept) {step : Step}
    (fails : failed whole step = true) :
    Beside (advance whole step) kept ∧ sent (advance whole step) = sent whole + 1 := by
  rcases failed_unstored fails with ⟨full, unstored⟩
  rcases advance_full full with ⟨grade, gid, fid, hat, stored, messages⟩
  have unfinished : whole.grade ≠ 100 := by
    simp only [EnrollmentCompletion.enrolls, Bool.and_eq_true, decide_eq_true_eq] at full
    exact full.1.1
  refine ⟨?_, messages⟩
  constructor
  · exact gid.trans beside.gid
  · exact fid.trans beside.fid
  · exact hat.trans beside.hat
  · rw [grade]
    exact iff_of_false unstored (fun done => unfinished (beside.ended.mpr done))
  · rw [stored, if_neg unstored, List.append_nil]
    exact beside.stored

/-- Another call does the same in both. -/
theorem Beside.both {whole kept : Mafprint} (beside : Beside whole kept) (step : Step) :
    Beside (advance whole step) (advance kept step) ∧
      sent (advance whole step) + sent kept = sent (advance kept step) + sent whole := by
  have reached := beside.enrolls step
  cases full : EnrollmentCompletion.enrolls whole step with
  | false =>
      rcases advance_early full with ⟨grade, gid, fid, hat, stored, messages⟩
      rcases advance_early (reached.symm.trans full) with
        ⟨grade', gid', fid', hat', stored', messages'⟩
      constructor
      · constructor
        · rw [gid, gid', beside.gid]
        · rw [fid, fid', beside.fid]
        · rw [hat, hat', beside.hat]
        · rw [grade, grade', beside.ended]
        · rw [stored, stored', beside.stored]
      · rw [messages, messages', Nat.add_comm]
  | true =>
      rcases advance_full full with ⟨grade, gid, fid, hat, stored, messages⟩
      rcases advance_full (reached.symm.trans full) with
        ⟨grade', gid', fid', hat', stored', messages'⟩
      constructor
      · constructor
        · rw [gid, gid', beside.gid]
        · rw [fid, fid', beside.fid]
        · rw [hat, hat', beside.hat]
        · rw [grade, grade']
        · rw [stored, stored', beside.stored, beside.fid, beside.hat]
      · rw [messages, messages']
        omega

/-- The run without the failed calls stores the same, and sends a message less for each. -/
theorem Beside.run {whole kept : Mafprint} (beside : Beside whole kept) (steps : List Step) :
    Beside (steps.foldl advance whole) ((successful whole steps).foldl advance kept) ∧
      sent (steps.foldl advance whole) + sent kept =
        sent ((successful whole steps).foldl advance kept) + sent whole +
          failures whole steps := by
  induction steps generalizing whole kept with
  | nil => exact ⟨beside, Nat.add_comm _ _⟩
  | cons step steps ih =>
      rw [List.foldl_cons, successful, failures]
      by_cases fails : failed whole step = true
      · rcases beside.failing fails with ⟨next, messages⟩
        rcases ih next with ⟨rest, count⟩
        rw [if_pos fails, if_pos fails]
        refine ⟨rest, ?_⟩
        omega
      · rcases beside.both step with ⟨next, messages⟩
        rcases ih next with ⟨rest, count⟩
        rw [if_neg fails, if_neg fails, List.foldl_cons]
        refine ⟨rest, ?_⟩
        omega

theorem successful_all {h : Mafprint} {steps : List Step}
    (succeeds : AdmittedAlong (fun h step => failed h step = false) advance h steps) :
    successful h steps = steps := by
  induction steps generalizing h with
  | nil => rfl
  | cons step steps ih =>
      have succeeded : ¬ failed h step = true := by
        rw [succeeds.1]
        decide
      rw [successful, if_neg succeeded, ih succeeds.2]

theorem failures_eq_zero {h : Mafprint} {steps : List Step} (none : failures h steps = 0) :
    AdmittedAlong (fun h step => failed h step = false) advance h steps := by
  induction steps generalizing h with
  | nil => trivial
  | cons step steps ih =>
      rw [failures, Nat.add_eq_zero_iff] at none
      refine ⟨?_, ih none.2⟩
      cases fails : failed h step with
      | false => exact fails
      | true => simp [fails] at none

/-- Whatever fails, the same is stored. -/
theorem stored_unaffected (h : Mafprint) (steps : List Step) :
    (steps.foldl advance h).log.filter storing =
      ((successful h steps).foldl advance h).log.filter storing :=
  ((Beside.refl h).run steps).1.stored

/-- A sequence of calls shows no failure exactly when no call fails: each failure sends a
message of its own. -/
theorem invisible_iff (h : Mafprint) (steps : List Step) :
    Invisible h steps ↔
      AdmittedAlong (fun h step => failed h step = false) advance h steps := by
  constructor
  · intro invisible
    have messages : sent (steps.foldl advance h) =
        sent ((successful h steps).foldl advance h) := by
      rw [sent, sent, invisible.1]
    have count := ((Beside.refl h).run steps).2
    apply failures_eq_zero
    omega
  · intro succeeds
    rw [Invisible, successful_all succeeds]
    exact ⟨rfl, rfl, rfl⟩

/-- An error code of -4 is sent as a grade, with 104 samples remaining. -/
theorem failure_is_sent : ¬ ∀ (h : Mafprint) (steps : List Step), Invisible h steps := by
  intro invisible
  have asserted := (invisible firstFinger [⟨fpChkFull, noMatch (-4)⟩]).1
  revert asserted
  decide

end X5MaxDevice.Fingerprint.FailedEnrollment
