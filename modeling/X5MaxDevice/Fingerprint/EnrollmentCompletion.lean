import Mathlib.Algebra.Group.Int.Defs
import Mathlib.Algebra.Group.Nat.Defs
import X5MaxDevice.Base.History
import X5MaxDevice.Base.Transitions
import X5MaxDevice.Fingerprint.Hal

/-! The last message of an enrollment against the storing of its template and its token, over
every sequence of steps of `enroll` and every grade. -/

namespace X5MaxDevice.Fingerprint.EnrollmentCompletion

open X5MaxDevice.Fingerprint.Hal
open X5MaxDevice.History
open X5MaxDevice.Transitions

/-- One call of `enroll`. -/
structure Step where
  val : Int
  results : Results

/-- The state of an enrollment and what each call so far has done. -/
structure Progress where
  hal : Mafprint
  steps : List (List Event)

def advance (s : Progress) (step : Step) : Progress :=
  let hal := enroll step.val step.results s.hal
  ⟨hal, s.steps ++ [hal.log.drop s.hal.log.length]⟩

def enrolling : Event → Bool
  | .notify (.enrolling _ _ _ _) => true
  | _ => false

/-- An `ENROLLING` message without samples remaining. -/
def final : Event → Bool
  | .notify (.enrolling _ _ remaining _) => decide (remaining = 0)
  | _ => false

def persisted (fid : Int) (hat : HwAuthToken) (events : List Event) : Bool :=
  decide (.dbUpdate fid ∈ events ∧ .saveToken fid hat ∈ events)

/-- A call sends the final message exactly when it stores the template and the token, and no
call sends a message after it. -/
def Completion (fid : Int) (hat : HwAuthToken) (before : List (List Event))
    (events : List Event) : Prop :=
  (events.any final = persisted fid hat events) ∧
    ((∃ earlier ∈ before, earlier.any final = true) → events.any enrolling = false)

/-- The call gets as far as `fp_enroll`. -/
def enrolls (h : Mafprint) (step : Step) : Bool :=
  decide (h.grade ≠ 100 ∧ step.val = fpChkFull) && !duplicate step.results

/-- At most 100, and `100 - grade` is an `int`. -/
def GradeInRange (grade : Int32) : Prop := 101 - 2 ^ 31 ≤ grade.toInt ∧ grade.toInt ≤ 100

instance (grade : Int32) : Decidable (GradeInRange grade) := inferInstanceAs (Decidable (_ ∧ _))

def GradesInRange (s : Progress) (step : Step) : Prop :=
  enrolls s.hal step = true → GradeInRange step.results.fpEnroll

instance (s : Progress) (step : Step) : Decidable (GradesInRange s step) :=
  inferInstanceAs (Decidable (_ → _))

theorem remain_toInt (grade : Int32) :
    (100 - grade).toInt = (100 - grade.toInt).bmod (2 ^ 32) := by
  rw [Int32.toInt_sub]
  rfl

theorem samplesRemaining_eq_zero (grade : Int32) :
    samplesRemaining grade = 0 ↔ (100 - grade).toInt ≤ 0 := by
  simp only [samplesRemaining]
  split
  · rename_i positive
    have nonneg : (0 : Int) ≤ (100 - grade).toInt := Int32.le_iff_toInt_le.mp positive
    have zero : (100 - grade).toUInt32 = 0 ↔ 100 - grade = 0 := by
      rw [← UInt32.toBitVec_inj, Int32.toBitVec_toUInt32, ← Int32.toBitVec_inj]
      rfl
    rw [zero, ← Int32.toInt_inj]
    have zeroed : (0 : Int32).toInt = 0 := rfl
    omega
  · rename_i negative
    have below : ¬ (0 : Int) ≤ (100 - grade).toInt := fun least =>
      negative (Int32.le_iff_toInt_le.mpr least)
    exact iff_of_true rfl (by omega)

/-- The two tests of the grade agree exactly in range. -/
theorem tests_agree_iff (grade : Int32) :
    (samplesRemaining grade = 0 ↔ grade = 100) ↔ GradeInRange grade := by
  have low := grade.le_toInt
  have high := grade.toInt_lt
  have hundred : grade = 100 ↔ grade.toInt = 100 := by
    rw [← Int32.toInt_inj]
    rfl
  rw [samplesRemaining_eq_zero, remain_toInt, hundred, GradeInRange, Int.bmod_def]
  split
  · omega
  · omega

def acquiring : Event → Bool
  | .notify (.acquired _) => true
  | _ => false

theorem acquiring_message {event : Event} (acquires : acquiring event = true) :
    ∃ info, event = .notify (.acquired info) := by
  revert acquires
  cases event with
  | notify message =>
      cases message with
      | acquired info => exact fun _ => ⟨info, rfl⟩
      | error | enrolling | removed | authenticated => simp [acquiring]
  | dbUpdate | saveToken => simp [acquiring]

theorem acquiring_quiet {events : List Event} (quiet : ∀ event ∈ events, acquiring event = true) :
    events.any final = false ∧ events.any enrolling = false ∧
      (∀ fid, Event.dbUpdate fid ∉ events) ∧ ∀ fid hat, Event.saveToken fid hat ∉ events := by
  refine ⟨?_, ?_, ?_, ?_⟩
  · apply List.any_eq_false.mpr
    intro event member
    rcases acquiring_message (quiet event member) with ⟨info, rfl⟩
    simp [final]
  · apply List.any_eq_false.mpr
    intro event member
    rcases acquiring_message (quiet event member) with ⟨info, rfl⟩
    simp [enrolling]
  · intro fid member
    simpa [acquiring] using quiet _ member
  · intro fid hat member
    simpa [acquiring] using quiet _ member

/-- A call that does not get as far as `fp_enroll` sends at most a message about the finger. -/
theorem enroll_early {h : Mafprint} {step : Step} (early : enrolls h step = false) :
    ∃ events, enroll step.val step.results h = { h with log := h.log ++ events } ∧
      ∀ event ∈ events, acquiring event = true := by
  have nothing : ∀ event ∈ ([] : List Event), acquiring event = true := by simp
  have unchanged : h = { h with log := h.log ++ [] } := by rw [List.append_nil]
  have one : ∀ info, ∀ event ∈ [Event.notify (.acquired info)], acquiring event = true := by
    simp [acquiring]
  rw [enroll]
  by_cases settled : step.val = fpPressed ∨ h.grade = 100
  · rw [if_pos settled]
    exact ⟨[], unchanged, nothing⟩
  · rw [if_neg settled]
    by_cases edge : step.val = fpChkPart
    · rw [if_pos edge]
      exact ⟨_, rfl, one _⟩
    · rw [if_neg edge]
      by_cases touched : step.val = fpChkFull
      · have known : duplicate step.results = true := by
          simpa [enrolls, touched, (not_or.mp settled).2] using early
        rw [if_pos touched, if_pos known]
        exact ⟨_, rfl, one _⟩
      · rw [if_neg touched]
        exact ⟨[], unchanged, nothing⟩

/-- What a call that gets as far as `fp_enroll` leaves behind. -/
def enrolled (h : Mafprint) (grade : Int32) : List Event :=
  .notify (.enrolling h.gid h.fid (samplesRemaining grade) 1000) ::
    if grade = 100 then [.dbUpdate h.fid, .saveToken h.fid h.hat] else []

theorem enroll_full {h : Mafprint} {step : Step} (full : enrolls h step = true) :
    ∃ area, (∀ event ∈ area, acquiring event = true) ∧
      enroll step.val step.results h =
        { h with
          grade := step.results.fpEnroll
          log := h.log ++ (area ++ enrolled h step.results.fpEnroll) } := by
  simp only [enrolls, Bool.and_eq_true, decide_eq_true_eq, Bool.not_eq_true'] at full
  rcases full with ⟨⟨unfinished, touched⟩, new⟩
  have going : ¬ (step.val = fpPressed ∨ h.grade = 100) := by
    rw [touched]
    exact not_or.mpr ⟨by decide, unfinished⟩
  have whole : step.val ≠ fpChkPart := by
    rw [touched]
    decide
  have fresh : ¬ duplicate step.results = true := by
    rw [new]
    decide
  rw [enroll, if_neg going, if_neg whole, if_pos touched, if_neg fresh]
  dsimp only
  by_cases same : step.results.fpEnroll = h.grade + 2
  · refine ⟨[.notify (.acquired acquiredDuplicateArea)], by simp [acquiring], ?_⟩
    rw [if_pos same]
    by_cases done : step.results.fpEnroll = 100
    · simp [enrolled, notifyEnroll, Mafprint.record, done]
    · simp [enrolled, notifyEnroll, Mafprint.record, done]
  · refine ⟨[], by simp, ?_⟩
    rw [if_neg same]
    by_cases done : step.results.fpEnroll = 100
    · simp [enrolled, notifyEnroll, Mafprint.record, done]
    · simp [enrolled, notifyEnroll, Mafprint.record, done]

theorem early_completion {events : List Event} (quiet : ∀ event ∈ events, acquiring event = true)
    (fid : Int) (hat : HwAuthToken) (before : List (List Event)) :
    Completion fid hat before events := by
  have silent := acquiring_quiet quiet
  have unstored : persisted fid hat events = false := by
    apply decide_eq_false
    intro stored
    exact silent.2.2.1 fid stored.1
  constructor
  · rw [silent.1, unstored]
  · intro _
    exact silent.2.1

theorem full_final (h : Mafprint) (grade : Int32) {area : List Event}
    (quiet : ∀ event ∈ area, acquiring event = true) :
    (area ++ enrolled h grade).any final = decide (samplesRemaining grade = 0) := by
  rw [List.any_append, (acquiring_quiet quiet).1]
  by_cases done : grade = 100
  · simp [enrolled, final, done]
  · simp [enrolled, final, done]

/-- A call that gets as far as `fp_enroll` is right exactly when the two tests agree and
nothing was final before. -/
theorem full_completion_iff (h : Mafprint) (grade : Int32) {area : List Event}
    (quiet : ∀ event ∈ area, acquiring event = true) (before : List (List Event)) :
    Completion h.fid h.hat before (area ++ enrolled h grade) ↔
      GradeInRange grade ∧ ¬ ∃ earlier ∈ before, earlier.any final = true := by
  have silent := acquiring_quiet quiet
  have sends : (area ++ enrolled h grade).any enrolling = true := by
    simp [enrolled, enrolling]
  have stores : persisted h.fid h.hat (area ++ enrolled h grade) = decide (grade = 100) := by
    by_cases done : grade = 100
    · simp [persisted, enrolled, done]
    · simp [persisted, enrolled, done, silent.2.2.1]
  rw [Completion, sends, full_final h grade quiet, stores, ← tests_agree_iff, decide_eq_decide]
  simp

/-- After the final message the grade is 100. -/
def Ended (s : Progress) : Prop :=
  (∃ earlier ∈ s.steps, earlier.any final = true) → s.hal.grade = 100

theorem advance_steps {s : Progress} {step : Step} {grade : Int32} {events : List Event}
    (changed : enroll step.val step.results s.hal =
      { s.hal with grade := grade, log := s.hal.log ++ events }) :
    advance s step =
      ⟨{ s.hal with grade := grade, log := s.hal.log ++ events }, s.steps ++ [events]⟩ := by
  simp only [advance, changed, List.drop_left]

/-- One call: it is right exactly when its grade is in range, and then it keeps the rest. -/
theorem advance_completion {s : Progress} (ended : Ended s) (step : Step) :
    ∃ events, (advance s step).steps = s.steps ++ [events] ∧
      (advance s step).hal.fid = s.hal.fid ∧ (advance s step).hal.hat = s.hal.hat ∧
      (Completion s.hal.fid s.hal.hat s.steps events ↔ GradesInRange s step) ∧
      (GradesInRange s step → Ended (advance s step)) := by
  cases full : enrolls s.hal step with
  | false =>
      rcases enroll_early full with ⟨events, changed, quiet⟩
      have silent := acquiring_quiet quiet
      have allowed : GradesInRange s step := by
        intro reached
        exact absurd (full.symm.trans reached) (by decide)
      have moved := advance_steps changed
      refine ⟨events, by rw [moved], by rw [moved], by rw [moved], ?_, ?_⟩
      · exact iff_of_true (early_completion quiet s.hal.fid s.hal.hat s.steps) allowed
      · intro _
        rw [moved]
        intro ending
        apply ended
        rcases ending with ⟨earlier, member, last⟩
        rcases List.mem_append.mp member with before | now
        · exact ⟨earlier, before, last⟩
        · rw [List.mem_singleton.mp now, silent.1] at last
          exact absurd last (by decide)
  | true =>
      rcases enroll_full full with ⟨area, quiet, changed⟩
      have moved := advance_steps changed
      have unfinished : s.hal.grade ≠ 100 := by
        simp only [enrolls, Bool.and_eq_true, decide_eq_true_eq] at full
        exact full.1.1
      have unended : ¬ ∃ earlier ∈ s.steps, earlier.any final = true :=
        fun last => unfinished (ended last)
      have completes := full_completion_iff s.hal step.results.fpEnroll quiet s.steps
      have allowed : GradesInRange s step ↔ GradeInRange step.results.fpEnroll := by
        simp [GradesInRange, full]
      refine ⟨area ++ enrolled s.hal step.results.fpEnroll, by rw [moved], by rw [moved],
        by rw [moved], ?_, ?_⟩
      · rw [completes, allowed]
        exact and_iff_left unended
      · intro ranged
        have agree := (tests_agree_iff step.results.fpEnroll).mpr (allowed.mp ranged)
        rw [moved]
        intro ending
        apply agree.mp
        rcases ending with ⟨earlier, member, last⟩
        rcases List.mem_append.mp member with before | now
        · exact absurd ⟨earlier, before, last⟩ unended
        · rw [List.mem_singleton.mp now, full_final s.hal _ quiet] at last
          exact of_decide_eq_true last

theorem foldl_steps (steps : List Step) (s : Progress) :
    ∃ more, (steps.foldl advance s).steps = s.steps ++ more := by
  induction steps generalizing s with
  | nil => exact ⟨[], (List.append_nil _).symm⟩
  | cons step steps ih =>
      rcases ih (advance s step) with ⟨more, rest⟩
      exact ⟨_, rest.trans (List.append_assoc ..)⟩

/-- Calls from any point of an enrollment. -/
theorem completion_iff_of_ended (steps : List Step) {s : Progress} (ended : Ended s)
    (lawful : AtEach (Completion s.hal.fid s.hal.hat) s.steps) :
    AtEach (Completion s.hal.fid s.hal.hat) (steps.foldl advance s).steps ↔
      AdmittedAlong GradesInRange advance s steps := by
  induction steps generalizing s with
  | nil => exact iff_of_true lawful trivial
  | cons step steps ih =>
      rcases advance_completion ended step with ⟨events, moved, fid, hat, right, kept⟩
      by_cases ranged : GradesInRange s step
      · have next : AtEach (Completion s.hal.fid s.hal.hat) (advance s step).steps := by
          rw [moved]
          exact lawful.snoc (right.mpr ranged)
        have rest := ih (kept ranged) (by rw [fid, hat]; exact next)
        rw [fid, hat] at rest
        rw [List.foldl_cons, AdmittedAlong, rest]
        exact (and_iff_right ranged).symm
      · rcases foldl_steps steps (advance s step) with ⟨more, all⟩
        have grown : ((step :: steps).foldl advance s).steps = s.steps ++ events :: more := by
          rw [List.foldl_cons, all, moved, List.append_assoc, List.singleton_append]
        apply iff_of_false
        · intro all
          exact ranged (right.mp (all s.steps events more grown))
        · intro admitted
          exact ranged admitted.1

/-- For every sequence of calls of `enroll`, the final message goes with the storing of the
template and the token, and ends the messages, exactly when every grade that `fp_enroll`
returned is at most 100 and its distance to 100 is an `int`. -/
theorem completion_iff_grades_in_range (h : Mafprint) (steps : List Step) :
    AtEach (Completion h.fid h.hat) (steps.foldl advance ⟨h, []⟩).steps ↔
      AdmittedAlong GradesInRange advance ⟨h, []⟩ steps := by
  apply completion_iff_of_ended (s := ⟨h, []⟩)
  · intro ending
    simp at ending
  · exact atEach_nil _

def noMatch (grade : Int32) : Results := ⟨fun _ => fpEmpty, grade, 0, 0⟩

/-- The first finger is being enrolled. -/
def firstFinger : Mafprint :=
  { Mafprint.initial with fdev := 3, fdb := 0, fid := 1, work := .doEnroll }

/-- A grade of 105 is reported as complete, and nothing is stored. -/
theorem overshoot_completes_unstored :
    ¬ ∀ (h : Mafprint) (steps : List Step),
      AtEach (Completion h.fid h.hat) (steps.foldl advance ⟨h, []⟩).steps := by
  intro right
  have asserted := right firstFinger [⟨fpChkFull, noMatch 105⟩]
    [] [.notify (.enrolling 0 1 0 1000)] [] (by decide)
  have stored := asserted.1
  revert stored
  decide

end X5MaxDevice.Fingerprint.EnrollmentCompletion
