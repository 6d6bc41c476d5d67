import Mathlib.Algebra.Field.Rat
import Mathlib.Data.Rat.Cast.CharZero
import X5MaxDevice.Base.Mean
import X5MaxDevice.Base.Transitions

/-! The mean time to first fix of an auto test: the rounds of the test thread and the callbacks
of the GPS listener, over every run. -/

namespace X5MaxDevice.Ygps.MeanTtff

open X5MaxDevice.Mean
open X5MaxDevice.Transitions

/-- The mean is an exact rational, or none: an infinity or not a number. `i` is the variable of
the round loop, and `ttffs` are the values that the callbacks of the run have reported. -/
structure AutoTest where
  mTotalTimes : Nat
  mCurrentTimes : Nat
  mTtffValue : Int
  mMeanTTFF : Option ℚ
  mFirstFix : Bool
  mIsTestRunning : Bool
  i : Nat
  ttffs : List Int

/-- The start button has been pressed. -/
def started (mTotalTimes : Nat) (mTtffValue : Int) (mFirstFix : Bool) : AutoTest where
  mTotalTimes := mTotalTimes
  mCurrentTimes := 0
  mTtffValue := mTtffValue
  mMeanTTFF := some 0
  mFirstFix := mFirstFix
  mIsTestRunning := true
  i := 1
  ttffs := []

inductive Event where
  | nextRound
  | removeUpdate
  | counter
  | onPreFix (ttff : Int)
  | onFirstFix (ttff : Int)
  | stop
  | resetTestParam

def countPrecision : Int := 500

/-- Of a mean that is no number, or divided by zero, no number is left. -/
def meanTTFF (mMeanTTFF : Option ℚ) (mTtffValue : Int) (n : Nat) : Option ℚ :=
  if n = 0 then none else mMeanTTFF.map (fun before => (before * (n - 1) + mTtffValue) / n)

def AutoTest.nextRound (s : AutoTest) : AutoTest :=
  if s.i ≤ s.mTotalTimes ∧ s.mIsTestRunning = true then
    { s with mCurrentTimes := s.i, i := s.i + 1 }
  else s

def AutoTest.onFirstFix (s : AutoTest) (ttff : Int) : AutoTest :=
  let s := { s with mTtffValue := ttff, mFirstFix := true }
  if s.mIsTestRunning then
    { s with
      mMeanTTFF := meanTTFF s.mMeanTTFF s.mTtffValue s.mCurrentTimes
      ttffs := s.ttffs ++ [ttff] }
  else s

def AutoTest.resetTestParam (s : AutoTest) : AutoTest :=
  { s with mTotalTimes := 0, mCurrentTimes := 0, mMeanTTFF := some 0, mIsTestRunning := false }

def advance (s : AutoTest) : Event → AutoTest
  | .nextRound => s.nextRound
  | .removeUpdate => { s with mFirstFix := false, mTtffValue := 0 }
  | .counter => if s.mFirstFix then s else { s with mTtffValue := s.mTtffValue + countPrecision }
  | .onPreFix ttff => { s with mTtffValue := ttff, mFirstFix := true }
  | .onFirstFix ttff => s.onFirstFix ttff
  | .stop => { s with mIsTestRunning := false }
  | .resetTestParam => s.resetTestParam

def meanOf (ttffs : List Int) : ℚ := mean (ttffs.map Int.cast)

/-- After a callback of the test the mean is that of the values so far. -/
def MeanIsRight (s : AutoTest) : Event → Prop
  | .onFirstFix ttff =>
      s.mIsTestRunning = true →
        (s.onFirstFix ttff).mMeanTTFF = some (meanOf (s.onFirstFix ttff).ttffs)
  | _ => True

/-- The callback comes in the round with its own number, or in some round reports the mean of
the values before it (zero if there are none). -/
def RoundCounts (s : AutoTest) : Event → Prop
  | .onFirstFix ttff =>
      s.mIsTestRunning = true →
        s.mCurrentTimes = s.ttffs.length + 1 ∨
          (s.mCurrentTimes ≠ 0 ∧ (ttff : ℚ) = meanOf s.ttffs)
  | _ => True

/-- While the test runs, the mean is that of the values so far. -/
def Tracks (s : AutoTest) : Prop :=
  s.mIsTestRunning = true → s.mMeanTTFF = some (meanOf s.ttffs)

theorem meanOf_snoc (ttffs : List Int) (ttff : Int) :
    meanOf (ttffs ++ [ttff]) = update (meanOf ttffs) (ttffs.length + 1) ttff := by
  rw [meanOf, List.map_append, List.map_singleton, mean_snoc, List.length_map, meanOf]

theorem onFirstFix_running {s : AutoTest} (ttff : Int) (running : s.mIsTestRunning = true) :
    (s.onFirstFix ttff).mMeanTTFF = meanTTFF s.mMeanTTFF ttff s.mCurrentTimes ∧
      (s.onFirstFix ttff).ttffs = s.ttffs ++ [ttff] := by
  simp [AutoTest.onFirstFix, running]

/-- One callback. -/
theorem meanIsRight_iff {s : AutoTest} (tracks : Tracks s) (event : Event) :
    MeanIsRight s event ↔ RoundCounts s event := by
  cases event with
  | onFirstFix ttff =>
      rw [MeanIsRight, RoundCounts]
      apply imp_congr_right
      intro running
      rcases onFirstFix_running ttff running with ⟨updated, values⟩
      rw [updated, values, tracks running, meanOf_snoc, meanTTFF]
      by_cases early : s.mCurrentTimes = 0
      · rw [if_pos early]
        apply iff_of_false
        · exact Option.some_ne_none _ ∘ Eq.symm
        · rintro (same | ⟨late, -⟩)
          · omega
          · exact late early
      · rw [if_neg early, Option.map_some, Option.some_inj, and_iff_right early]
        exact update_eq_iff _ _ early (Nat.succ_ne_zero _)
  | nextRound | removeUpdate | counter | onPreFix | stop | resetTestParam => exact Iff.rfl

theorem advance_tracks {s : AutoTest} (tracks : Tracks s) {event : Event}
    (right : MeanIsRight s event) : Tracks (advance s event) := by
  cases event with
  | onFirstFix ttff =>
      intro running
      apply right
      by_cases before : s.mIsTestRunning = true
      · exact before
      · simp [advance, AutoTest.onFirstFix, before] at running
  | nextRound =>
      intro running
      by_cases goes : s.i ≤ s.mTotalTimes ∧ s.mIsTestRunning = true
      · simpa [advance, AutoTest.nextRound, goes] using tracks goes.2
      · simp only [advance, AutoTest.nextRound, if_neg goes] at running ⊢
        exact tracks running
  | counter =>
      intro running
      by_cases fixed : s.mFirstFix = true
      · simp only [advance, if_pos fixed] at running ⊢
        exact tracks running
      · simp only [advance, if_neg fixed] at running ⊢
        exact tracks running
  | removeUpdate | onPreFix => exact tracks
  | stop | resetTestParam =>
      intro running
      cases running

/-- In a run from any state that tracks the mean. -/
theorem meansRight_iff_of_tracks {s : AutoTest} (tracks : Tracks s) (events : List Event) :
    AdmittedAlong MeanIsRight advance s events ↔ AdmittedAlong RoundCounts advance s events := by
  induction events generalizing s with
  | nil => exact Iff.rfl
  | cons event events ih =>
      rw [AdmittedAlong, AdmittedAlong, ← meanIsRight_iff tracks event]
      apply and_congr_right
      intro right
      exact ih (advance_tracks tracks right)

/-- The mean is right after every callback of a run exactly when every callback comes in the
round with its own number or reports the mean of those before it. -/
theorem meansRight_iff (mTotalTimes : Nat) (mTtffValue : Int) (mFirstFix : Bool)
    (events : List Event) :
    AdmittedAlong MeanIsRight advance (started mTotalTimes mTtffValue mFirstFix) events ↔
      AdmittedAlong RoundCounts advance (started mTotalTimes mTtffValue mFirstFix) events := by
  apply meansRight_iff_of_tracks
  intro _
  rw [started, meanOf, List.map_nil, mean_nil]

/-- Without a fix in round 1, the only value, of round 2, is halved. -/
theorem missed_round_halves :
    ¬ ∀ (mTotalTimes : Nat) (mTtffValue : Int) (mFirstFix : Bool) (events : List Event),
      AdmittedAlong MeanIsRight advance (started mTotalTimes mTtffValue mFirstFix) events := by
  intro right
  have asserted := (right 2 0 false [.nextRound, .nextRound, .onFirstFix 3000]).2.2.1 rfl
  revert asserted
  decide +kernel

end X5MaxDevice.Ygps.MeanTtff
