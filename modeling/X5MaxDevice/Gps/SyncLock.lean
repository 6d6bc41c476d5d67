import Mathlib.Algebra.BigOperators.Group.Finset.Basic
import Mathlib.Algebra.Order.BigOperators.Group.Finset
import Mathlib.Data.Fintype.BigOperators
import X5MaxDevice.Base.Refinement

/-! `get_condition` and `release_condition` on one entry of `lock_for_sync`, for any threads,
with the mutex and the condition variable they use. -/

namespace X5MaxDevice.Gps.SyncLock

open X5MaxDevice.Refinement

/-- The operation that a thread executes next. -/
inductive Point where
  | outside
  | getLock
  | getTest
  | getAsleep
  | getAwake
  | getClear
  | getUnlock
  | releaseLock
  | releaseSet
  | releaseSignal
  | releaseUnlock
  deriving DecidableEq, Repr

/-- `SYNC_LOCK_T`, with the owner of `mutx` and the threads blocked on `con`. -/
structure Lock (Thread : Type*) where
  mutx : Option Thread
  con : List Thread
  condtion : Bool
  point : Thread → Point

/-- Calls, operations, the end of waits that nobody signalled, and the assignment
`condtion = 0` that `mtk_gps_start` and `mtk_gps_cleanup` make without the mutex. -/
inductive Label (Thread : Type*) where
  | getCondition (thread : Thread)
  | releaseCondition (thread : Thread)
  | advance (thread : Thread)
  | signal (thread : Thread) (woken : List Thread)
  | spurious (thread : Thread)
  | reset (thread : Thread)

/-- What the callers see. -/
inductive Event (Thread : Type*) where
  | getCalled (thread : Thread)
  | getReturned (thread : Thread)
  | releaseCalled (thread : Thread)
  | releaseReturned (thread : Thread)
  | reset (thread : Thread)
  deriving DecidableEq, Repr

variable {Thread : Type*}

def initial : Lock Thread := ⟨none, [], false, fun _ => .outside⟩

/-- Between `pthread_mutex_lock` and `pthread_mutex_unlock`, and not waiting. -/
def Point.Holds : Point → Prop
  | .getTest | .getClear | .getUnlock | .releaseSet | .releaseSignal | .releaseUnlock => True
  | _ => False

/-- About to signal, or on the way to the test of the condition or past it. -/
def Point.Rouses : Point → Prop
  | .releaseSignal | .getAwake | .getTest | .getClear => True
  | _ => False

/-- The owner of the mutex is the one thread in a critical section, the blocked threads are
the sleeping ones, and a set condition with sleepers has a thread that will look at it. -/
structure Coherent (s : Lock Thread) : Prop where
  owned : ∀ thread, s.mutx = some thread ↔ (s.point thread).Holds
  blocked : ∀ thread, thread ∈ s.con ↔ s.point thread = .getAsleep
  roused : s.condtion = true → s.con ≠ [] → ∃ thread, (s.point thread).Rouses

theorem initial_coherent : Coherent (initial : Lock Thread) where
  owned := by
    intro thread
    constructor
    · intro owner
      cases owner
    · intro holds
      cases holds
  blocked := by simp [initial]
  roused := by
    intro set
    cases set

theorem Coherent.owner_unique {s : Lock Thread} (holds : Coherent s) {thread other : Thread}
    (first : (s.point thread).Holds) (second : (s.point other).Holds) : other = thread :=
  Option.some.inj (((holds.owned other).mpr second).symm.trans ((holds.owned thread).mpr first))

theorem reset_coherent {s : Lock Thread} (holds : Coherent s) :
    Coherent { s with condtion := false } where
  owned := holds.owned
  blocked := holds.blocked
  roused := by
    intro set
    cases set

variable [DecidableEq Thread]

def Lock.goto (s : Lock Thread) (thread : Thread) (next : Point) : Lock Thread :=
  { s with point := Function.update s.point thread next }

/-- The next operation of a thread inside a call, other than `pthread_cond_signal`. A mutex
that is held blocks, and so does `pthread_cond_wait` until it is woken. -/
def advance (s : Lock Thread) (thread : Thread) : Option (Lock Thread) :=
  match s.point thread with
  | .outside => none
  | .getLock => if s.mutx = none then some { s.goto thread .getTest with mutx := some thread }
      else none
  | .getTest => if s.condtion then some (s.goto thread .getClear)
      else some { s.goto thread .getAsleep with mutx := none, con := s.con ++ [thread] }
  | .getAsleep => none
  | .getAwake => if s.mutx = none then some { s.goto thread .getTest with mutx := some thread }
      else none
  | .getClear => some { s.goto thread .getUnlock with condtion := false }
  | .getUnlock => some { s.goto thread .outside with mutx := none }
  | .releaseLock =>
      if s.mutx = none then some { s.goto thread .releaseSet with mutx := some thread } else none
  | .releaseSet => some { s.goto thread .releaseSignal with condtion := true }
  | .releaseSignal => none
  | .releaseUnlock => some { s.goto thread .outside with mutx := none }

/-- Threads that `pthread_cond_signal` may wake: at least one if any are blocked. -/
def Wakes (s : Lock Thread) (woken : List Thread) : Prop :=
  woken ⊆ s.con ∧ (woken = [] → s.con = [])

instance (s : Lock Thread) (woken : List Thread) : Decidable (Wakes s woken) :=
  inferInstanceAs (Decidable (_ ∧ _))

def Lock.wake (s : Lock Thread) (woken : List Thread) : Lock Thread :=
  { s with con := s.con.filter (· ∉ woken)
           point := fun thread => if thread ∈ woken then .getAwake else s.point thread }

def step (s : Lock Thread) : Label Thread → Option (Lock Thread)
  | .getCondition thread =>
      if s.point thread = .outside then some (s.goto thread .getLock) else none
  | .releaseCondition thread =>
      if s.point thread = .outside then some (s.goto thread .releaseLock) else none
  | .advance thread => advance s thread
  | .signal thread woken =>
      if s.point thread = .releaseSignal ∧ Wakes s woken then
        some ((s.wake woken).goto thread .releaseUnlock)
      else none
  | .spurious thread => if thread ∈ s.con then some (s.wake [thread]) else none
  | .reset thread => if s.point thread = .outside then some { s with condtion := false } else none

/-- A call returns with its last operation, the unlock. -/
def shown (s : Lock Thread) : Label Thread → Option (Event Thread)
  | .getCondition thread => some (.getCalled thread)
  | .releaseCondition thread => some (.releaseCalled thread)
  | .advance thread =>
      match s.point thread with
      | .getUnlock => some (.getReturned thread)
      | .releaseUnlock => some (.releaseReturned thread)
      | _ => none
  | .signal _ _ => none
  | .spurious _ => none
  | .reset thread => some (.reset thread)

section Steps

variable {s s' : Lock Thread} {thread : Thread}

omit [DecidableEq Thread] in
theorem Coherent.owner (holds : Coherent s) (holder : (s.point thread).Holds) :
    s.mutx = some thread :=
  (holds.owned thread).mpr holder

@[simp] theorem goto_point (next : Point) (other : Thread) :
    (s.goto thread next).point other = if other = thread then next else s.point other :=
  Function.update_apply _ _ _ _

@[simp] theorem goto_mutx (next : Point) : (s.goto thread next).mutx = s.mutx := rfl

@[simp] theorem goto_con (next : Point) : (s.goto thread next).con = s.con := rfl

@[simp] theorem goto_condtion (next : Point) : (s.goto thread next).condtion = s.condtion := rfl

/-- What an operation does, by the part of the call it is in. -/
theorem advance_cases (moved : advance s thread = some s') :
    (∃ next, (s.point thread = .getLock ∧ next = .getTest ∨
          s.point thread = .getAwake ∧ next = .getTest ∨
          s.point thread = .releaseLock ∧ next = .releaseSet) ∧
        s.mutx = none ∧ s' = { s.goto thread next with mutx := some thread }) ∨
      (s.point thread = .getTest ∧ s.condtion = true ∧ s' = s.goto thread .getClear) ∨
      (s.point thread = .getTest ∧ s.condtion = false ∧
        s' = { s.goto thread .getAsleep with mutx := none, con := s.con ++ [thread] }) ∨
      (s.point thread = .getClear ∧ s' = { s.goto thread .getUnlock with condtion := false }) ∨
      (s.point thread = .releaseSet ∧
        s' = { s.goto thread .releaseSignal with condtion := true }) ∨
      ((s.point thread = .getUnlock ∨ s.point thread = .releaseUnlock) ∧
        s' = { s.goto thread .outside with mutx := none }) := by
  cases place : s.point thread <;> simp only [advance, place] at moved <;> grind

/-- A step of a thread that was not going to look at the condition leaves those that are. -/
theorem Coherent.rouser_stays (holds : Coherent s) (set : s.condtion = true)
    (sleepers : s.con ≠ []) (quiet : ¬(s.point thread).Rouses) (next : Point) :
    ∃ other, ((s.goto thread next).point other).Rouses := by
  obtain ⟨other, rouses⟩ := holds.roused set sleepers
  have different : other ≠ thread := by
    rintro rfl
    exact quiet rouses
  exact ⟨other, by simpa [different] using rouses⟩

/-- A thread that enters a call holds nothing and waits for nothing. -/
theorem enter_coherent (holds : Coherent s) (outside : s.point thread = .outside) {next : Point}
    (calls : next = .getLock ∨ next = .releaseLock) : Coherent (s.goto thread next) where
  owned := by
    intro other
    have owner := holds.owned other
    grind [goto_point, goto_mutx, Point.Holds]
  blocked := by
    intro other
    have asleep := holds.blocked other
    grind [goto_point, goto_con]
  roused := by
    intro set sleepers
    exact holds.rouser_stays set sleepers (by simp [outside, Point.Rouses]) next

/-- The mutex passes to a thread that was not in a critical section. -/
theorem acquire_coherent (holds : Coherent s) {next : Point} (free : s.mutx = none)
    (waiting : s.point thread ≠ .getAsleep)
    (enters : next = .getTest ∨ next = .releaseSet ∧ s.point thread = .releaseLock) :
    Coherent { s.goto thread next with mutx := some thread } where
  owned := by
    intro other
    have owner := holds.owned other
    grind [goto_point, Point.Holds]
  blocked := by
    intro other
    have asleep := holds.blocked other
    grind [goto_point, goto_con]
  roused := by
    intro set sleepers
    rcases enters with rfl | ⟨rfl, place⟩
    · exact ⟨thread, by simp [Point.Rouses]⟩
    · exact holds.rouser_stays set sleepers (by simp [place, Point.Rouses]) _

/-- The owner of the mutex moves inside its critical section; it leaves the condition cleared,
or it will look at it or signal. -/
theorem hold_coherent (holds : Coherent s) {next : Point} {condtion : Bool}
    (before : (s.point thread).Holds) (after : next.Holds)
    (looked : condtion = false ∨ next.Rouses) :
    Coherent { s.goto thread next with condtion := condtion } where
  owned := by
    intro other
    have owner := holds.owned other
    grind [goto_point, goto_mutx]
  blocked := by
    intro other
    have asleep := holds.blocked other
    have awake : s.point thread ≠ .getAsleep ∧ next ≠ .getAsleep := by
      constructor <;> rintro same <;> simp_all [Point.Holds]
    grind [goto_point, goto_con]
  roused := by
    intro set _
    rcases looked with cleared | rouses
    · exact absurd set (by simp [cleared])
    · exact ⟨thread, by simpa using rouses⟩

/-- The owner leaves; it was past the test of the condition. -/
theorem leave_coherent (holds : Coherent s)
    (place : s.point thread = .getUnlock ∨ s.point thread = .releaseUnlock) :
    Coherent { s.goto thread .outside with mutx := none } where
  owned := by
    intro other
    have owner : (s.point thread).Holds := by
      rcases place with place | place <;> simp [place, Point.Holds]
    have alone : (s.point other).Holds → other = thread := holds.owner_unique owner
    simp only [goto_point]
    grind [Point.Holds]
  blocked := by
    intro other
    have asleep := holds.blocked other
    grind [goto_point, goto_con]
  roused := by
    intro set sleepers
    have quiet : ¬(s.point thread).Rouses := by
      rcases place with place | place <;> simp [place, Point.Rouses]
    exact holds.rouser_stays set sleepers quiet .outside

/-- A thread goes to sleep only while the condition is clear. -/
theorem sleep_coherent (holds : Coherent s) (place : s.point thread = .getTest)
    (clear : s.condtion = false) :
    Coherent { s.goto thread .getAsleep with mutx := none, con := s.con ++ [thread] } where
  owned := by
    intro other
    have owner : (s.point thread).Holds := by simp [place, Point.Holds]
    have alone : (s.point other).Holds → other = thread := holds.owner_unique owner
    simp only [goto_point]
    grind [Point.Holds]
  blocked := by
    intro other
    have asleep := holds.blocked other
    grind [goto_point]
  roused := by
    intro set
    exact absurd set (by simp [clear])

theorem advance_coherent (holds : Coherent s) (moved : advance s thread = some s') :
    Coherent s' := by
  rcases advance_cases moved with ⟨next, places, free, rfl⟩ | ⟨place, _, rfl⟩ |
    ⟨place, clear, rfl⟩ | ⟨place, rfl⟩ | ⟨place, rfl⟩ | ⟨place, rfl⟩
  · exact acquire_coherent holds free (by grind) (by grind)
  · exact hold_coherent holds (by simp [place, Point.Holds]) trivial (Or.inr trivial)
  · exact sleep_coherent holds place clear
  · exact hold_coherent holds (by simp [place, Point.Holds]) trivial (Or.inl rfl)
  · exact hold_coherent holds (by simp [place, Point.Holds]) trivial (Or.inr trivial)
  · exact leave_coherent holds place

/-- Woken threads stop sleeping and will test the condition again. -/
theorem wake_coherent (holds : Coherent s) {woken : List Thread} (blocked : woken ⊆ s.con) :
    Coherent (s.wake woken) where
  owned := by
    intro other
    have owner := holds.owned other
    have asleep := holds.blocked other
    have woke := @blocked other
    grind [Lock.wake, Point.Holds]
  blocked := by
    intro other
    have asleep := holds.blocked other
    grind [Lock.wake]
  roused := by
    intro set sleepers
    have before : s.con ≠ [] := by
      intro none
      exact sleepers (by simp [Lock.wake, none])
    obtain ⟨other, rouses⟩ := holds.roused set before
    refine ⟨other, ?_⟩
    by_cases woke : other ∈ woken
    · simp [Lock.wake, woke, Point.Rouses]
    · simpa [Lock.wake, woke] using rouses

/-- A signaller is done with the condition, because it has woken a sleeper if there was one. -/
theorem signal_coherent (holds : Coherent s) {woken : List Thread}
    (place : s.point thread = .releaseSignal) (wakes : Wakes s woken) :
    Coherent ((s.wake woken).goto thread .releaseUnlock) := by
  have awake := wake_coherent holds wakes.1
  have asleep := holds.blocked thread
  have apart : thread ∉ woken := by
    intro woke
    have sleeping := asleep.mp (wakes.1 woke)
    simp [place] at sleeping
  have same : (s.wake woken).point thread = .releaseSignal := by simp [Lock.wake, apart, place]
  constructor
  · intro other
    have owner := awake.owned other
    grind [goto_point, goto_mutx, Point.Holds]
  · intro other
    have sleeping := awake.blocked other
    grind [goto_point, goto_con]
  · intro _ sleepers
    have some_woken : woken ≠ [] := by
      intro none
      exact sleepers (by simp [Lock.wake, none, wakes.2 none])
    obtain ⟨other, woke⟩ := List.exists_mem_of_ne_nil woken some_woken
    have different : other ≠ thread := by
      rintro rfl
      exact apart woke
    exact ⟨other, by simp [Lock.wake, woke, different, Point.Rouses]⟩

theorem step_cases {label : Label Thread} (stepped : step s label = some s') :
    (∃ thread next, s.point thread = .outside ∧ (label = .getCondition thread ∧ next = .getLock ∨
        label = .releaseCondition thread ∧ next = .releaseLock) ∧ s' = s.goto thread next) ∨
      (∃ thread, label = .advance thread ∧ advance s thread = some s') ∨
      (∃ thread woken, label = .signal thread woken ∧ s.point thread = .releaseSignal ∧
        Wakes s woken ∧ s' = (s.wake woken).goto thread .releaseUnlock) ∨
      (∃ thread, label = .spurious thread ∧ thread ∈ s.con ∧ s' = s.wake [thread]) ∨
      (∃ thread, label = .reset thread ∧ s.point thread = .outside ∧
        s' = { s with condtion := false }) := by
  cases label <;> grind [step]

theorem step_coherent {label : Label Thread} (holds : Coherent s)
    (stepped : step s label = some s') : Coherent s' := by
  rcases step_cases stepped with ⟨thread, next, outside, calls, rfl⟩ | ⟨thread, _, moved⟩ |
    ⟨thread, woken, _, place, wakes, rfl⟩ | ⟨thread, _, sleeping, rfl⟩ | ⟨thread, _, _, rfl⟩
  · exact enter_coherent holds outside (by grind)
  · exact advance_coherent holds moved
  · exact signal_coherent holds place wakes
  · exact wake_coherent holds (by simpa using sleeping)
  · exact reset_coherent holds

end Steps

section Settling

/-- Operations of threads that are inside a call. -/
def Label.Internal : Label Thread → Prop
  | .advance _ | .signal _ _ => True
  | _ => False

/-- Operations that a release has left, and operations of a get until it sleeps or returns. -/
def Point.releases : Point → Nat
  | .releaseLock => 4
  | .releaseSet => 3
  | .releaseSignal => 2
  | .releaseUnlock => 1
  | _ => 0

def Point.gets : Point → Nat
  | .getLock | .getAwake => 4
  | .getTest => 3
  | .getClear => 2
  | .getUnlock => 1
  | _ => 0

variable [Fintype Thread] {s s' : Lock Thread} {thread : Thread}

/-- A release may wake every other thread. -/
def weight (Thread : Type*) [Fintype Thread] (point : Point) : Nat :=
  point.releases * (4 * Fintype.card Thread + 1) + point.gets

def budget (s : Lock Thread) : Nat :=
  ∑ thread, weight Thread (s.point thread)

omit [DecidableEq Thread] in
theorem weight_lt_of_releases {first second : Point}
    (fewer : first.releases < second.releases) (gets : first.gets = 0) :
    weight Thread first < weight Thread second := by
  have more := Nat.mul_le_mul_right (4 * Fintype.card Thread + 1) (Nat.succ_le_of_lt fewer)
  simp only [weight, gets]
  rw [Nat.succ_mul] at more
  omega

omit [DecidableEq Thread] in
theorem weight_lt_of_gets {first second : Point} (same : first.releases = second.releases)
    (fewer : first.gets < second.gets) : weight Thread first < weight Thread second := by
  simp only [weight, same]
  omega

/-- An operation other than a signal moves one thread, and leaves it less to do. -/
theorem advance_budget (moved : advance s thread = some s') : budget s' < budget s := by
  have one : (∀ other, other ≠ thread → s'.point other = s.point other) ∧
      weight Thread (s'.point thread) < weight Thread (s.point thread) := by
    rcases advance_cases moved with ⟨next, places, _, rfl⟩ | ⟨place, _, rfl⟩ | ⟨place, _, rfl⟩ |
      ⟨place, rfl⟩ | ⟨place, rfl⟩ | ⟨places, rfl⟩
    · constructor
      · simp +contextual
      · rcases places with ⟨place, rfl⟩ | ⟨place, rfl⟩ | ⟨place, rfl⟩
        · exact weight_lt_of_gets (by simp [place, Point.releases]) (by simp [place, Point.gets])
        · exact weight_lt_of_gets (by simp [place, Point.releases]) (by simp [place, Point.gets])
        · exact weight_lt_of_releases (by simp [place, Point.releases]) (by simp [Point.gets])
    · constructor
      · simp +contextual
      · exact weight_lt_of_gets (by simp [place, Point.releases]) (by simp [place, Point.gets])
    · constructor
      · simp +contextual
      · exact weight_lt_of_gets (by simp [place, Point.releases]) (by simp [place, Point.gets])
    · constructor
      · simp +contextual
      · exact weight_lt_of_gets (by simp [place, Point.releases]) (by simp [place, Point.gets])
    · constructor
      · simp +contextual
      · exact weight_lt_of_releases (by simp [place, Point.releases]) (by simp [Point.gets])
    · constructor
      · simp +contextual
      · rcases places with place | place
        · exact weight_lt_of_gets (by simp [place, Point.releases]) (by simp [place, Point.gets])
        · exact weight_lt_of_releases (by simp [place, Point.releases]) (by simp [Point.gets])
  obtain ⟨others, lower⟩ := one
  refine Finset.sum_lt_sum ?_ ⟨thread, Finset.mem_univ thread, lower⟩
  intro other _
  by_cases here : other = thread
  · rw [here]
    exact lower.le
  · rw [others other here]

/-- A signal may give every other thread its test to do again, and still leaves less to do. -/
theorem signal_budget (holds : Coherent s) {woken : List Thread} (blocked : woken ⊆ s.con)
    (place : s.point thread = .releaseSignal) :
    budget ((s.wake woken).goto thread .releaseUnlock) < budget s := by
  have each : ∀ other, weight Thread (((s.wake woken).goto thread .releaseUnlock).point other) +
      (if other = thread then 4 * Fintype.card Thread + 1 else 0) ≤
        weight Thread (s.point other) + 4 := by
    intro other
    by_cases here : other = thread
    · subst here
      simp [weight, place, Point.releases, Point.gets]
      omega
    · by_cases woke : other ∈ woken
      · have asleep := (holds.blocked other).mp (blocked woke)
        simp [here, Lock.wake, woke, asleep, weight, Point.releases, Point.gets]
      · simp [here, Lock.wake, woke]
  have total := Finset.sum_le_sum fun other (_ : other ∈ Finset.univ) => each other
  have fours : (∑ _ : Thread, 4) = Fintype.card Thread * 4 :=
    Finset.sum_const_nat fun _ _ => rfl
  simp only [Finset.sum_add_distrib, Finset.sum_ite_eq', Finset.mem_univ, if_true, fours] at total
  simp only [budget]
  omega

theorem internal_budget {label : Label Thread} (holds : Coherent s) (inside : label.Internal)
    (stepped : step s label = some s') : budget s' < budget s := by
  rcases step_cases stepped with ⟨thread, next, _, ⟨rfl, _⟩ | ⟨rfl, _⟩, _⟩ | ⟨thread, rfl, moved⟩ |
    ⟨thread, woken, rfl, place, wakes, rfl⟩ | ⟨thread, rfl, _⟩ | ⟨thread, rfl, _⟩
  · cases inside
  · cases inside
  · exact advance_budget moved
  · exact signal_budget holds wakes.1 place
  · cases inside
  · cases inside

omit [Fintype Thread] in
/-- Where no thread inside a call can go on, none of them holds the mutex or wants it. -/
theorem stuck_cases (holds : Coherent s)
    (stuck : ∀ label : Label Thread, label.Internal → step s label = none) (thread : Thread) :
    s.point thread = .outside ∨ s.point thread = .getAsleep := by
  have nobody : s.mutx = none := by
    cases owner : s.mutx with
    | none => rfl
    | some other =>
        have holder := (holds.owned other).mp owner
        have advances := stuck (.advance other) trivial
        have signals := stuck (.signal other s.con) trivial
        cases place : s.point other <;> simp [place, Point.Holds] at holder <;>
          simp [step, advance, place, Wakes] at advances signals
        split at advances <;> cases advances
  have advances := stuck (.advance thread) trivial
  have free : ¬(s.point thread).Holds := by
    intro holder
    cases nobody.symm.trans (holds.owner holder)
  cases place : s.point thread <;>
    simp [step, advance, place, nobody, Point.Holds] at advances free ⊢

omit [Fintype Thread] in
/-- A thread that sleeps where no thread inside a call can go on waits for a release: its
wakeup was not lost. -/
theorem stuck_asleep (holds : Coherent s)
    (stuck : ∀ label : Label Thread, label.Internal → step s label = none)
    (asleep : s.point thread = .getAsleep) : s.condtion = false := by
  by_contra set
  have sleepers : s.con ≠ [] := List.ne_nil_of_mem ((holds.blocked thread).mpr asleep)
  obtain ⟨other, rouses⟩ := holds.roused (by simpa using set) sleepers
  rcases stuck_cases holds stuck other with place | place <;> simp [place, Point.Rouses] at rouses

/-- From any reachable state the calls in progress come to rest: without new calls and without
wakeups that nobody signalled, every order of operations ends, and then every call has returned
except the gets that sleep on a cleared condition. -/
theorem calls_settle (reached : Transitions.Reaches step (initial : Lock Thread) s)
    (labels : List (Label Thread)) (inside : ∀ label ∈ labels, label.Internal)
    (executed : Transitions.run step s labels = some s') :
    labels.length ≤ budget s ∧
      ((∀ label : Label Thread, label.Internal → step s' label = none) →
        ∀ thread, s'.point thread = .outside ∨
          s'.point thread = .getAsleep ∧ s'.condtion = false) := by
  have kept : ∀ (s : Lock Thread) label s', Coherent s → step s label = some s' → Coherent s' :=
    fun _ _ _ holds stepped => step_coherent holds stepped
  have lowered : ∀ (s : Lock Thread) label s', Coherent s → label.Internal →
      step s label = some s' → budget s' < budget s :=
    fun _ _ _ holds inner stepped => internal_budget holds inner stepped
  have coherent := reached.invariant initial_coherent kept
  have coherent' := (Transitions.reaches_of_run labels executed).invariant coherent kept
  constructor
  · have spent := length_le_of_lowered budget kept lowered labels coherent inside executed
    omega
  · intro stuck thread
    rcases stuck_cases coherent' stuck thread with outside | asleep
    · exact Or.inl outside
    · exact Or.inr ⟨asleep, stuck_asleep coherent' stuck asleep⟩

/-- A waiter that falls asleep is woken by one releaser, and takes the condition. -/
def handover : List (Label Bool) :=
  [.getCondition false, .advance false, .advance false, .releaseCondition true, .advance true,
    .advance true, .signal true [false], .advance true, .advance false, .advance false,
    .advance false, .advance false]

theorem calls_settle_handover :
    ∃ s s' : Lock Bool, Transitions.run step s (handover.drop 4) = some s' ∧
      (handover.drop 4).length ≤ budget s ∧
      ((∀ label : Label Bool, label.Internal → step s' label = none) →
        ∀ thread, s'.point thread = .outside ∨
          s'.point thread = .getAsleep ∧ s'.condtion = false) := by
  obtain ⟨s, first⟩ : ∃ s, Transitions.run step (initial : Lock Bool) (handover.take 4) = some s :=
    ⟨_, rfl⟩
  have reached := Transitions.reaches_of_run (handover.take 4) first
  have rest : ∃ s', Transitions.run step s (handover.drop 4) = some s' := by
    cases first
    exact ⟨_, rfl⟩
  obtain ⟨s', executed⟩ := rest
  have inside : ∀ label ∈ handover.drop 4, label.Internal := by
    simp [handover, Label.Internal]
  exact ⟨s, s', executed, calls_settle reached (handover.drop 4) inside executed⟩

end Settling

end X5MaxDevice.Gps.SyncLock
