import X5MaxDevice.Gps.SyncLock

/-! The condition of a lock as an atomic flag: gets take it, releases put it. -/

namespace X5MaxDevice.Gps.SyncLock

open X5MaxDevice.Refinement

variable {Thread : Type*} [DecidableEq Thread]

/-- A call on the flag as an atomic object: it takes effect once, between call and return. -/
inductive Phase where
  | outside
  | getting
  | got
  | releasing
  | released
  deriving DecidableEq, Repr

@[ext]
structure Flag (Thread : Type*) where
  set : Bool
  phase : Thread → Phase

inductive FlagLabel (Thread : Type*) where
  | getCondition (thread : Thread)
  | take (thread : Thread)
  | returnGot (thread : Thread)
  | releaseCondition (thread : Thread)
  | put (thread : Thread)
  | returnReleased (thread : Thread)
  | reset (thread : Thread)

def Flag.initial : Flag Thread := ⟨false, fun _ => .outside⟩

def Flag.goto (f : Flag Thread) (thread : Thread) (next : Phase) : Flag Thread :=
  { f with phase := Function.update f.phase thread next }

def flagStep (f : Flag Thread) : FlagLabel Thread → Option (Flag Thread)
  | .getCondition thread =>
      if f.phase thread = .outside then some (f.goto thread .getting) else none
  | .take thread =>
      if f.phase thread = .getting ∧ f.set = true then
        some { f.goto thread .got with set := false }
      else none
  | .returnGot thread =>
      if f.phase thread = .got then some (f.goto thread .outside) else none
  | .releaseCondition thread =>
      if f.phase thread = .outside then some (f.goto thread .releasing) else none
  | .put thread =>
      if f.phase thread = .releasing then some { f.goto thread .released with set := true }
      else none
  | .returnReleased thread =>
      if f.phase thread = .released then some (f.goto thread .outside) else none
  | .reset thread => if f.phase thread = .outside then some { f with set := false } else none

def flagShown (_ : Flag Thread) : FlagLabel Thread → Option (Event Thread)
  | .getCondition thread => some (.getCalled thread)
  | .take _ => none
  | .returnGot thread => some (.getReturned thread)
  | .releaseCondition thread => some (.releaseCalled thread)
  | .put _ => none
  | .returnReleased thread => some (.releaseReturned thread)
  | .reset thread => some (.reset thread)

/-- A get takes effect when it has seen the condition set, a release when it sets it. -/
def Point.phase : Point → Phase
  | .outside => .outside
  | .getLock | .getTest | .getAsleep | .getAwake => .getting
  | .getClear | .getUnlock => .got
  | .releaseLock | .releaseSet => .releasing
  | .releaseSignal | .releaseUnlock => .released

/-- The owner of the mutex has seen the condition set and is about to clear it. -/
def Lock.clearing (s : Lock Thread) : Bool :=
  match s.mutx with
  | none => false
  | some owner => s.point owner = .getClear

def Lock.flag (s : Lock Thread) : Flag Thread :=
  ⟨s.condtion && !s.clearing, fun thread => (s.point thread).phase⟩

section Abstraction

variable {s s' : Lock Thread} {thread : Thread}

omit [DecidableEq Thread] in
@[simp] theorem flag_phase (other : Thread) : s.flag.phase other = (s.point other).phase := rfl

@[simp] theorem flag_goto_phase {f : Flag Thread} (next : Phase) (other : Thread) :
    (f.goto thread next).phase other = if other = thread then next else f.phase other :=
  Function.update_apply _ _ _ _

omit [DecidableEq Thread] in
theorem flag_set_of_owner {s : Lock Thread} (owner : s.mutx = some thread) :
    s.flag.set = (s.condtion && !decide (s.point thread = .getClear)) := by
  simp [Lock.flag, Lock.clearing, owner]

omit [DecidableEq Thread] in
theorem flag_set_of_free (free : s.mutx = none) : s.flag.set = s.condtion := by
  simp [Lock.flag, Lock.clearing, free]

omit [DecidableEq Thread] in
/-- A thread that is not in a critical section does not change who is clearing. -/
theorem flag_set_of_other {point : Thread → Point} {con : List Thread}
    (same : ∀ owner, s.mutx = some owner → point owner = s.point owner) :
    (Lock.flag { s with con := con, point := point }).set = s.flag.set := by
  cases owner : s.mutx with
  | none => simp [Lock.flag, Lock.clearing, owner]
  | some thread => simp [Lock.flag, Lock.clearing, owner, same thread owner]

omit [DecidableEq Thread] in
theorem Coherent.owner_elsewhere (holds : Coherent s) (outside : ¬(s.point thread).Holds)
    {owner : Thread} (owns : s.mutx = some owner) : owner ≠ thread := by
  rintro rfl
  exact outside ((holds.owned owner).mp owns)

theorem enter_flag (holds : Coherent s) (outside : s.point thread = .outside) (next : Point) :
    (s.goto thread next).flag = s.flag.goto thread next.phase := by
  refine Flag.ext ?_ ?_
  · refine flag_set_of_other ?_
    intro owner owns
    exact Function.update_of_ne (holds.owner_elsewhere (by simp [outside, Point.Holds]) owns) _ _
  · funext other
    by_cases same : other = thread <;> simp [same]

theorem acquire_flag (free : s.mutx = none) {next : Point}
    (tests : next ≠ .getClear) (same : next.phase = (s.point thread).phase) :
    Lock.flag { s.goto thread next with mutx := some thread } = s.flag := by
  refine Flag.ext ?_ ?_
  · have held : (Lock.mutx { s.goto thread next with mutx := some thread }) = some thread := rfl
    rw [flag_set_of_free free, flag_set_of_owner held]
    simp [tests]
  · funext other
    by_cases here : other = thread <;> simp [here, same]

theorem take_flag (holds : Coherent s) (place : s.point thread = .getTest)
    (set : s.condtion = true) :
    s.flag.set = true ∧
      (s.goto thread .getClear).flag = { s.flag.goto thread .got with set := false } := by
  have owner := holds.owner (show (s.point thread).Holds by simp [place, Point.Holds])
  constructor
  · rw [flag_set_of_owner owner]
    simp [set, place]
  · have cleared : (s.goto thread .getClear).mutx = some thread := owner
    refine Flag.ext ?_ ?_
    · rw [flag_set_of_owner cleared]
      simp
    · funext other
      by_cases here : other = thread <;> simp [here, Point.phase]

theorem clear_flag (holds : Coherent s) (place : s.point thread = .getClear) :
    Lock.flag { s.goto thread .getUnlock with condtion := false } = s.flag := by
  have owner := holds.owner (show (s.point thread).Holds by simp [place, Point.Holds])
  refine Flag.ext ?_ ?_
  · rw [flag_set_of_owner owner]
    simp [Lock.flag, place]
  · funext other
    by_cases here : other = thread <;> simp [here, place, Point.phase]

theorem put_flag (holds : Coherent s) (place : s.point thread = .releaseSet) :
    Lock.flag { s.goto thread .releaseSignal with condtion := true } =
      { s.flag.goto thread .released with set := true } := by
  have owner := holds.owner (show (s.point thread).Holds by simp [place, Point.Holds])
  refine Flag.ext ?_ ?_
  · have held : (Lock.mutx { s.goto thread .releaseSignal with condtion := true }) = some thread :=
      owner
    rw [flag_set_of_owner held]
    simp
  · funext other
    by_cases here : other = thread <;> simp [here, Point.phase]

theorem sleep_flag (holds : Coherent s) (place : s.point thread = .getTest)
    (clear : s.condtion = false) :
    Lock.flag { s.goto thread .getAsleep with mutx := none, con := s.con ++ [thread] } =
      s.flag := by
  have owner := holds.owner (show (s.point thread).Holds by simp [place, Point.Holds])
  refine Flag.ext ?_ ?_
  · rw [flag_set_of_owner owner]
    simp [Lock.flag, clear]
  · funext other
    by_cases here : other = thread <;> simp [here, place, Point.phase]

theorem leave_flag (holds : Coherent s)
    (place : s.point thread = .getUnlock ∨ s.point thread = .releaseUnlock) :
    Lock.flag { s.goto thread .outside with mutx := none } = s.flag.goto thread .outside := by
  have holder : (s.point thread).Holds := by
    rcases place with place | place <;> simp [place, Point.Holds]
  refine Flag.ext ?_ ?_
  · have kept : s.flag.set = s.condtion := by
      rw [flag_set_of_owner (holds.owner holder)]
      rcases place with place | place <;> simp [place]
    exact (flag_set_of_free rfl).trans kept.symm
  · funext other
    by_cases here : other = thread <;> simp [here, Point.phase]

theorem wake_flag (holds : Coherent s) {woken : List Thread} (blocked : woken ⊆ s.con) :
    (s.wake woken).flag = s.flag := by
  have asleep : ∀ thread ∈ woken, s.point thread = .getAsleep :=
    fun thread woke => (holds.blocked thread).mp (blocked woke)
  refine Flag.ext ?_ ?_
  · refine flag_set_of_other ?_
    intro owner owns
    have holder := (holds.owned owner).mp owns
    have awake : owner ∉ woken := by
      intro woke
      simp [asleep owner woke, Point.Holds] at holder
    simp [awake]
  · funext other
    by_cases woke : other ∈ woken
    · simp [Lock.wake, woke, asleep other woke, Point.phase]
    · simp [Lock.wake, woke]

theorem signal_flag (holds : Coherent s) {woken : List Thread} (blocked : woken ⊆ s.con)
    (place : s.point thread = .releaseSignal) :
    ((s.wake woken).goto thread .releaseUnlock).flag = s.flag := by
  have awake := wake_coherent holds blocked
  have apart : thread ∉ woken := by
    intro woke
    have sleeping := (holds.blocked thread).mp (blocked woke)
    simp [place] at sleeping
  have same : (s.wake woken).point thread = .releaseSignal := by simp [Lock.wake, apart, place]
  have owner := awake.owner (show ((s.wake woken).point thread).Holds by simp [same, Point.Holds])
  rw [← wake_flag holds blocked]
  refine Flag.ext ?_ ?_
  · have held : ((s.wake woken).goto thread .releaseUnlock).mutx = some thread := owner
    rw [flag_set_of_owner owner, flag_set_of_owner held]
    simp [same]
  · funext other
    by_cases here : other = thread <;> simp [here, same, Point.phase]

omit [DecidableEq Thread] in
theorem reset_flag : Lock.flag { s with condtion := false } = { s.flag with set := false } := by
  refine Flag.ext ?_ ?_
  · simp [Lock.flag]
  · funext other
    rfl

end Abstraction

/-- The lock and the flag it stands for. -/
def Represents (s : Lock Thread) (f : Flag Thread) : Prop :=
  Coherent s ∧ f = s.flag

section Matching

variable {s s' : Lock Thread} {thread : Thread}

/-- One step of the flag that shows the event of the lock's step. -/
theorem matched_step {f' : Flag Thread} {event : Option (Event Thread)} (label : FlagLabel Thread)
    (moved : flagStep s.flag label = some f') (same : flagShown s.flag label = event) :
    Execution flagStep flagShown s.flag event.toList f' := by
  rw [← same]
  exact Execution.single moved

theorem advance_matched (holds : Coherent s) (moved : advance s thread = some s') :
    Execution flagStep flagShown s.flag (shown s (.advance thread)).toList s'.flag := by
  rcases advance_cases moved with ⟨next, places, free, rfl⟩ | ⟨place, set, rfl⟩ |
    ⟨place, clear, rfl⟩ | ⟨place, rfl⟩ | ⟨place, rfl⟩ | ⟨place, rfl⟩
  · rw [acquire_flag free (by grind) (by grind [Point.phase])]
    have silent : shown s (.advance thread) = none := by grind [shown]
    rw [silent]
    exact Execution.refl _
  · obtain ⟨wasSet, taken⟩ := take_flag holds place set
    rw [taken]
    refine matched_step (.take thread) ?_ (by simp [flagShown, shown, place])
    simp [flagStep, wasSet, place, Point.phase]
  · rw [sleep_flag holds place clear]
    simp only [shown, place]
    exact Execution.refl _
  · rw [clear_flag holds place]
    simp only [shown, place]
    exact Execution.refl _
  · rw [put_flag holds place]
    refine matched_step (.put thread) ?_ (by simp [flagShown, shown, place])
    simp [flagStep, place, Point.phase]
  · rw [leave_flag holds place]
    rcases place with place | place
    · refine matched_step (.returnGot thread) ?_ (by simp [flagShown, shown, place])
      simp [flagStep, place, Point.phase]
    · refine matched_step (.returnReleased thread) ?_ (by simp [flagShown, shown, place])
      simp [flagStep, place, Point.phase]

theorem step_matched {label : Label Thread} (holds : Coherent s)
    (stepped : step s label = some s') :
    Execution flagStep flagShown s.flag (shown s label).toList s'.flag := by
  rcases step_cases stepped with ⟨thread, next, outside, calls, rfl⟩ | ⟨thread, rfl, moved⟩ |
    ⟨thread, woken, rfl, place, wakes, rfl⟩ | ⟨thread, rfl, sleeping, rfl⟩ |
    ⟨thread, rfl, outside, rfl⟩
  · rcases calls with ⟨rfl, rfl⟩ | ⟨rfl, rfl⟩
    · refine matched_step (.getCondition thread) ?_ rfl
      simp [flagStep, enter_flag holds outside, outside, Point.phase]
    · refine matched_step (.releaseCondition thread) ?_ rfl
      simp [flagStep, enter_flag holds outside, outside, Point.phase]
  · exact advance_matched holds moved
  · rw [signal_flag holds wakes.1 place]
    exact Execution.refl _
  · rw [wake_flag holds (by simpa using sleeping)]
    exact Execution.refl _
  · refine matched_step (.reset thread) ?_ rfl
    simp [flagStep, reset_flag, outside, Point.phase]

/-- The lock simulates an atomic flag: a get that has seen the condition set has taken it. -/
theorem lock_simulation :
    Simulation (@step Thread _) shown flagStep flagShown Represents where
  matched := by
    rintro s f label s' ⟨holds, rfl⟩ stepped
    exact ⟨s'.flag, step_matched holds stepped, step_coherent holds stepped, rfl⟩

omit [DecidableEq Thread] in
theorem initial_represents : Represents (initial : Lock Thread) Flag.initial :=
  ⟨initial_coherent, rfl⟩

/-- Whatever the order of the operations, callers see of the lock what an atomic flag shows. -/
theorem lock_history_of_flag {history : List (Event Thread)}
    (executed : Execution step shown initial history s) :
    Execution flagStep flagShown Flag.initial history s.flag := by
  obtain ⟨f, sameHistory, -, rfl⟩ := lock_simulation.execution initial_represents executed
  exact sameHistory

end Matching

theorem lock_history_of_flag_handover :
    ∃ f, Execution flagStep flagShown Flag.initial
      [.getCalled false, .releaseCalled true, .releaseReturned true, .getReturned false] f := by
  obtain ⟨s, performed⟩ : ∃ s, perform step shown initial handover =
      some ([.getCalled false, .releaseCalled true, .releaseReturned true, .getReturned false], s) :=
    ⟨_, rfl⟩
  exact ⟨s.flag, lock_history_of_flag (execution_of_perform handover performed)⟩

section Accounting

variable [Fintype Thread]

def Event.getsReturned : Event Thread → Bool
  | .getReturned _ => true
  | _ => false

def Event.releasesCalled : Event Thread → Bool
  | .releaseCalled _ => true
  | _ => false

/-- Releases that are still to set the flag and gets that have taken it, for each thread. -/
def Phase.tokens : Phase → Nat
  | .got | .releasing => 1
  | _ => 0

def Flag.owed (f : Flag Thread) : Nat :=
  (∑ thread, (f.phase thread).tokens) + f.set.toNat

theorem owed_goto (f : Flag Thread) (thread : Thread) (next : Phase) (set : Bool) :
    Flag.owed { f.goto thread next with set := set } + (f.phase thread).tokens + f.set.toNat =
      f.owed + next.tokens + set.toNat := by
  have moved := Finset.sum_update_of_mem (Finset.mem_univ thread)
    (fun other => (f.phase other).tokens) next.tokens
  have before := Finset.sum_erase_add Finset.univ (fun other => (f.phase other).tokens)
    (Finset.mem_univ thread)
  have same : (∑ other, ((f.goto thread next).phase other).tokens) =
      ∑ other, Function.update (fun other => (f.phase other).tokens) thread next.tokens other := by
    refine Finset.sum_congr rfl fun other _ => ?_
    by_cases here : other = thread <;> simp [here]
  simp only [Flag.owed, same, moved, ← before, Finset.sdiff_singleton_eq_erase]
  omega

/-- Every get that has returned, or will without waiting, was paid for by a release. -/
def Accounted (history : List (Event Thread)) (f : Flag Thread) : Prop :=
  history.countP Event.getsReturned + f.owed ≤ history.countP Event.releasesCalled

omit [Fintype Thread] in
/-- What each step of the flag does to one thread and to the flag, and what it shows. -/
theorem flagStep_cases {f f' : Flag Thread} {label : FlagLabel Thread}
    (stepped : flagStep f label = some f') :
    (∃ thread next set, f' = { f.goto thread next with set := set } ∧
        (flagShown f label).toList.countP Event.getsReturned + next.tokens + set.toNat ≤
          (flagShown f label).toList.countP Event.releasesCalled +
            (f.phase thread).tokens + f.set.toNat) ∨
      (∃ thread, label = .reset thread ∧ f' = { f with set := false }) := by
  cases label with
  | getCondition thread =>
      left
      refine ⟨thread, .getting, f.set, ?_⟩
      grind [flagStep, flagShown, Flag.goto, Phase.tokens, Event.getsReturned]
  | take thread =>
      left
      refine ⟨thread, .got, false, ?_⟩
      grind [flagStep, flagShown, Phase.tokens, Bool.toNat]
  | returnGot thread =>
      left
      refine ⟨thread, .outside, f.set, ?_⟩
      grind [flagStep, flagShown, Flag.goto, Phase.tokens, Event.getsReturned,
        Event.releasesCalled, List.countP_singleton]
  | releaseCondition thread =>
      left
      refine ⟨thread, .releasing, f.set, ?_⟩
      grind [flagStep, flagShown, Flag.goto, Phase.tokens, Event.getsReturned,
        Event.releasesCalled, List.countP_singleton]
  | put thread =>
      left
      refine ⟨thread, .released, true, ?_⟩
      grind [flagStep, flagShown, Phase.tokens, Bool.toNat]
  | returnReleased thread =>
      left
      refine ⟨thread, .outside, f.set, ?_⟩
      grind [flagStep, flagShown, Flag.goto, Phase.tokens, Event.getsReturned,
        Event.releasesCalled, List.countP_singleton]
  | reset thread =>
      right
      grind [flagStep]

theorem step_accounted {history : List (Event Thread)} {f f' : Flag Thread}
    {label : FlagLabel Thread} (holds : Accounted history f)
    (stepped : flagStep f label = some f') :
    Accounted (history ++ (flagShown f label).toList) f' := by
  simp only [Accounted, List.countP_append] at holds ⊢
  rcases flagStep_cases stepped with ⟨thread, next, set, rfl, paid⟩ | ⟨thread, rfl, rfl⟩
  · have spent := owed_goto f thread next set
    omega
  · simp only [flagShown, Option.toList_some, Flag.owed, Bool.toNat_false] at holds ⊢
    simp only [List.countP_singleton, Event.getsReturned, Event.releasesCalled, Bool.false_eq_true,
      if_false]
    omega

theorem flag_accounted {history : List (Event Thread)} {f : Flag Thread}
    (executed : Execution flagStep flagShown Flag.initial history f) : Accounted history f := by
  have start : Accounted [] (Flag.initial : Flag Thread) := by
    simp [Accounted, Flag.owed, Flag.initial, Phase.tokens]
  exact executed.invariant start fun _ _ _ _ holds stepped => step_accounted holds stepped

/-- No `get_condition` returns without a `release_condition` of its own before it, whatever the
wakeups that nobody signalled. -/
theorem gets_returned_le_releases {s : Lock Thread} {history : List (Event Thread)}
    (executed : Execution step shown initial history s) :
    history.countP Event.getsReturned ≤ history.countP Event.releasesCalled := by
  obtain ⟨f, sameHistory, -, rfl⟩ := lock_simulation.execution initial_represents executed
  have accounted := flag_accounted sameHistory
  simp only [Accounted] at accounted
  omega

theorem gets_returned_le_releases_handover :
    ∃ history s, Execution step shown initial history s ∧ history.countP Event.getsReturned = 1 ∧
      history.countP (@Event.getsReturned Bool) ≤ history.countP Event.releasesCalled := by
  obtain ⟨s, performed⟩ : ∃ s, perform step shown initial handover =
      some ([.getCalled false, .releaseCalled true, .releaseReturned true, .getReturned false], s) :=
    ⟨_, rfl⟩
  have executed := execution_of_perform handover performed
  exact ⟨_, s, executed, rfl, gets_returned_le_releases executed⟩

end Accounting

end X5MaxDevice.Gps.SyncLock
