import Mathlib.Data.List.Nodup
import Mathlib.Logic.Function.Basic
import X5MaxDevice.Base.Transitions

/-! The interface ids that `MT6735` hands to data calls, over every interleaving of
setup requests, their responses and deactivations on one RIL instance. -/

namespace X5MaxDevice.Ril.DataCalls

open X5MaxDevice.Transitions

/-- `dataCallCids`; the code reads and writes the slots 0 to 3 only. -/
abbrev Table := Nat → Int

/-- The first slot below 4 that satisfies the test of one of the three loops. -/
def firstSlot (test : Int → Bool) (table : Table) : Option Nat :=
  (List.range 4).find? (fun i => test (table i))

def firstFree (table : Table) : Option Nat := firstSlot (fun cid => decide (cid < 0)) table

/-- The interface id that `setupDataCall` writes into the request parcel. -/
def setupDataCall (table : Table) : Nat :=
  match firstFree table with
  | some i => i + 1
  | none => 0

def deactivateDataCall (table : Table) (cid : Int) : Table :=
  match firstSlot (fun held => decide (held = cid)) table with
  | some i => Function.update table i (-1)
  | none => table

def fetchCidFromDataCall (table : Table) (cid : Int) : Table :=
  if 0 ≤ cid then
    match firstFree table with
    | some i => Function.update table i cid
    | none => table
  else table

/-- A setup request that the modem has not answered, with the interface id it was sent. -/
structure Pending where
  serial : Nat
  interfaceId : Nat
  deriving DecidableEq, Repr

structure ActiveCall where
  cid : Int
  interfaceId : Nat
  deriving DecidableEq, Repr

structure State where
  dataCallCids : Table
  pending : List Pending
  active : List ActiveCall
  nextSerial : Nat

/-- The data-call part of a response parcel. `fetchCidFromDataCall` reads the cid only. -/
structure Payload where
  status : Int
  cid : Int
  deriving DecidableEq, Repr

/-- A response without payload (an error and no data) is left to the superclass. -/
inductive Event where
  | setup
  | response (serial : Nat) (payload : Option Payload)
  | deactivate (cid : Int)
  deriving DecidableEq, Repr

def State.remove (s : State) (serial : Nat) : List Pending :=
  s.pending.eraseP (fun p => p.serial = serial)

/-- `processSolicited` for the answer to the setup request `p`. -/
def respond (s : State) (p : Pending) : Option Payload → Option State
  | none => some { s with pending := s.remove p.serial }
  | some payload =>
      let s' := { s with
        dataCallCids := fetchCidFromDataCall s.dataCallCids payload.cid
        pending := s.remove p.serial }
      if payload.status = 0 then
        if 0 ≤ payload.cid ∧ payload.cid ∉ s.active.map ActiveCall.cid then
          some { s' with active := s.active ++ [⟨payload.cid, p.interfaceId⟩] }
        else none
      else some s'

/-- At most four calls are pending or active; a successful call gets a cid that no
active call has; only pending setups are answered. -/
def step (s : State) : Event → Option State
  | .setup =>
      if s.pending.length + s.active.length < 4 then
        some { s with
          pending := s.pending ++ [⟨s.nextSerial, setupDataCall s.dataCallCids⟩]
          nextSerial := s.nextSerial + 1 }
      else none
  | .response serial payload =>
      (s.pending.find? (fun p => p.serial = serial)).bind (fun p => respond s p payload)
  | .deactivate cid =>
      some { s with
        dataCallCids := deactivateDataCall s.dataCallCids cid
        active := s.active.filter (fun call => call.cid ≠ cid) }

def initial : State := ⟨fun _ => -1, [], [], 0⟩

def State.interfaceIds (s : State) : List Nat :=
  s.pending.map Pending.interfaceId ++ s.active.map ActiveCall.interfaceId

/-- Distinct ids in use, and every active cid in the slot that its id names. -/
structure InStep (s : State) : Prop where
  distinct : s.interfaceIds.Nodup
  stored : ∀ call ∈ s.active, ∃ i < 4, s.dataCallCids i = call.cid
  slot : ∀ call ∈ s.active, ∀ i < 4, s.dataCallCids i = call.cid → i + 1 = call.interfaceId

/-- A setup is sent while no pending setup holds the id of the first free slot; a
successful response is handled while the first free slot is the one whose number its
request carried; a failed response carries no valid cid. -/
def Undisturbed (s : State) : Event → Prop
  | .setup => setupDataCall s.dataCallCids ∉ s.pending.map Pending.interfaceId
  | .response _ none => True
  | .response serial (some payload) =>
      if payload.status = 0 then
        ∀ p ∈ s.pending, p.serial = serial → setupDataCall s.dataCallCids = p.interfaceId ∧
          p.interfaceId ≠ 0
      else payload.cid < 0
  | .deactivate _ => True

instance (s : State) : (event : Event) → Decidable (Undisturbed s event)
  | .setup => inferInstanceAs (Decidable (_ ∉ _))
  | .response _ none => isTrue trivial
  | .response serial (some payload) =>
      inferInstanceAs (Decidable (if payload.status = 0 then
        ∀ p ∈ s.pending, p.serial = serial → setupDataCall s.dataCallCids = p.interfaceId ∧
          p.interfaceId ≠ 0
        else payload.cid < 0))
  | .deactivate _ => isTrue trivial

theorem firstSlot_some {test : Int → Bool} {table : Table} {i : Nat}
    (found : firstSlot test table = some i) : i < 4 ∧ test (table i) = true := by
  have inside := List.mem_of_find?_eq_some found
  have holds := List.find?_some found
  exact ⟨List.mem_range.mp inside, holds⟩

theorem firstSlot_none {test : Int → Bool} {table : Table} {i : Nat}
    (missing : firstSlot test table = none) (inside : i < 4) : test (table i) = false := by
  have fails := List.find?_eq_none.mp missing i (List.mem_range.mpr inside)
  simpa using fails

/-- The id that a setup would be sent names a free slot, or is 0 when there is none. -/
theorem setupDataCall_cases (table : Table) :
    (∃ i < 4, firstFree table = some i ∧ table i < 0 ∧ setupDataCall table = i + 1) ∨
      (firstFree table = none ∧ setupDataCall table = 0) := by
  rw [setupDataCall]
  cases found : firstFree table with
  | none => exact Or.inr ⟨rfl, rfl⟩
  | some i =>
      have free := firstSlot_some found
      exact Or.inl ⟨i, free.1, rfl, by simpa using free.2, rfl⟩

/-- The table, the pending setups and the active calls tell the same story. -/
structure Matched (s : State) : Prop where
  distinct : s.interfaceIds.Nodup
  cids : (s.active.map ActiveCall.cid).Nodup
  slot : ∀ call ∈ s.active, ∃ i < 4, call.interfaceId = i + 1 ∧ s.dataCallCids i = call.cid
  valid : ∀ call ∈ s.active, 0 ≤ call.cid
  held : ∀ i < 4, 0 ≤ s.dataCallCids i →
    ∃ call ∈ s.active, call.interfaceId = i + 1 ∧ call.cid = s.dataCallCids i

theorem initial_matched : Matched initial := by
  constructor
  · exact List.nodup_nil
  · exact List.nodup_nil
  · intro call member
    cases member
  · intro call member
    cases member
  · intro i _ valid
    simp [initial] at valid

theorem Matched.same_call {s : State} (matched : Matched s) {first second : ActiveCall}
    (h1 : first ∈ s.active) (h2 : second ∈ s.active) (same : first.cid = second.cid) :
    first = second :=
  List.inj_on_of_nodup_map matched.cids h1 h2 same

theorem Matched.inStep {s : State} (matched : Matched s) : InStep s := by
  refine ⟨matched.distinct, ?_, ?_⟩
  · intro call member
    rcases matched.slot call member with ⟨i, inside, _, holds⟩
    exact ⟨i, inside, holds⟩
  · intro call member i inside holds
    have valid := matched.valid call member
    rcases matched.held i inside (by omega) with ⟨other, present, named, same⟩
    have equal : other = call := matched.same_call present member (by omega)
    rw [← named, equal]

/-- No active call has the id of a free slot, nor the id 0. -/
theorem Matched.offered_unused {s : State} (matched : Matched s) :
    setupDataCall s.dataCallCids ∉ s.active.map ActiveCall.interfaceId := by
  intro used
  rcases List.mem_map.mp used with ⟨call, member, named⟩
  rcases matched.slot call member with ⟨j, _, number, holds⟩
  have valid := matched.valid call member
  rcases setupDataCall_cases s.dataCallCids with ⟨i, _, _, free, offered⟩ | ⟨_, offered⟩
  · have same : i = j := by omega
    subst same
    omega
  · omega

theorem step_setup {s s' : State} (matched : Matched s) (undisturbed : Undisturbed s .setup)
    (stepped : step s .setup = some s') : Matched s' := by
  simp only [step] at stepped
  split at stepped
  · cases stepped
    refine ⟨?_, matched.cids, matched.slot, matched.valid, matched.held⟩
    have fresh : setupDataCall s.dataCallCids ∉ s.interfaceIds := by
      rw [State.interfaceIds]
      rw [List.mem_append]
      rintro (pending | active)
      · exact undisturbed pending
      · exact matched.offered_unused active
    simp only [State.interfaceIds, List.map_append, List.map_cons, List.map_nil,
      List.append_assoc, List.singleton_append]
    exact List.nodup_middle.mpr (List.nodup_cons.mpr ⟨fresh, matched.distinct⟩)
  · cases stepped

/-- Answering a setup takes exactly its entry out of the pending list. -/
theorem remove_split {s : State} {serial : Nat} {p : Pending}
    (found : s.pending.find? (fun p => p.serial = serial) = some p) :
    p.serial = serial ∧ ∃ before after,
      s.pending = before ++ p :: after ∧ s.remove p.serial = before ++ after := by
  rcases List.find?_eq_some_iff_append.mp found with ⟨here, before, after, split, earlier⟩
  have named : p.serial = serial := by simpa using here
  refine ⟨named, before, after, split, ?_⟩
  rw [State.remove]
  rw [split, List.eraseP_append_right]
  · rw [List.eraseP_cons_of_pos (by simp)]
  · intro other member
    have differs := earlier other member
    simp only [Bool.not_eq_eq_eq_not, Bool.not_true, decide_eq_false_iff_not] at differs
    simpa [named] using differs

/-- A response that stores nothing only forgets the pending setup. -/
theorem Matched.forget {s : State} (matched : Matched s) {before after : List Pending}
    {p : Pending} (split : s.pending = before ++ p :: after) :
    Matched { s with pending := before ++ after } := by
  refine ⟨?_, matched.cids, matched.slot, matched.valid, matched.held⟩
  have distinct := matched.distinct
  simp only [State.interfaceIds, split, List.map_append, List.map_cons, List.append_assoc,
    List.cons_append] at distinct ⊢
  exact (List.nodup_cons.mp (List.nodup_middle.mp distinct)).2

theorem Matched.store {s : State} (matched : Matched s) {before after : List Pending}
    {p : Pending} {i : Nat} {cid : Int} (split : s.pending = before ++ p :: after)
    (inside : i < 4) (free : s.dataCallCids i < 0) (named : i + 1 = p.interfaceId)
    (valid : 0 ≤ cid) (fresh : cid ∉ s.active.map ActiveCall.cid) :
    Matched { s with
      dataCallCids := Function.update s.dataCallCids i cid
      pending := before ++ after
      active := s.active ++ [⟨cid, p.interfaceId⟩] } := by
  have other_slot : ∀ call ∈ s.active, ∀ j, s.dataCallCids j = call.cid → j ≠ i := by
    intro call member j holds same
    have nonneg := matched.valid call member
    subst same
    omega
  constructor
  · have distinct := matched.distinct
    simp only [State.interfaceIds, split, List.map_append, List.map_cons, List.map_nil,
      List.append_assoc, List.cons_append] at distinct ⊢
    have rotated := List.nodup_cons.mp (List.nodup_middle.mp distinct)
    rw [← List.append_assoc, ← List.append_assoc, List.nodup_append_comm]
    simpa only [List.singleton_append, List.append_assoc] using List.nodup_cons.mpr rotated
  · simp only [List.map_append, List.map_cons, List.map_nil]
    rw [List.nodup_append_comm]
    exact List.nodup_cons.mpr ⟨fresh, matched.cids⟩
  · intro call member
    rcases List.mem_append.mp member with old | new
    · rcases matched.slot call old with ⟨j, below, number, holds⟩
      refine ⟨j, below, number, ?_⟩
      exact (Function.update_of_ne (other_slot call old j holds) _ _).trans holds
    · obtain rfl := List.mem_singleton.mp new
      exact ⟨i, inside, named.symm, Function.update_self ..⟩
  · intro call member
    rcases List.mem_append.mp member with old | new
    · exact matched.valid call old
    · obtain rfl := List.mem_singleton.mp new
      exact valid
  · intro j below nonneg
    by_cases same : j = i
    · subst same
      refine ⟨⟨cid, p.interfaceId⟩, by simp, named.symm, ?_⟩
      simp
    · simp only [Function.update_of_ne same] at nonneg ⊢
      rcases matched.held j below nonneg with ⟨call, present, number, holds⟩
      exact ⟨call, List.mem_append_left _ present, number, holds⟩

theorem fetchCidFromDataCall_negative (table : Table) {cid : Int} (negative : cid < 0) :
    fetchCidFromDataCall table cid = table := by
  rw [fetchCidFromDataCall]
  rw [if_neg (by omega)]

theorem fetchCidFromDataCall_free {table : Table} {cid : Int} {i : Nat} (valid : 0 ≤ cid)
    (free : firstFree table = some i) :
    fetchCidFromDataCall table cid = Function.update table i cid := by
  rw [fetchCidFromDataCall]
  rw [if_pos valid, free]

theorem step_response {s s' : State} {serial : Nat} {payload : Option Payload}
    (matched : Matched s) (undisturbed : Undisturbed s (.response serial payload))
    (stepped : step s (.response serial payload) = some s') : Matched s' := by
  simp only [step] at stepped
  cases found : s.pending.find? (fun p => p.serial = serial) with
  | none => simp [found] at stepped
  | some p =>
      rw [found, Option.bind_some] at stepped
      obtain ⟨named, before, after, split, removed⟩ := remove_split found
      cases payload with
      | none =>
          simp only [respond, removed, Option.some.injEq] at stepped
          subst stepped
          exact matched.forget split
      | some payload =>
          simp only [respond, removed] at stepped
          simp only [Undisturbed] at undisturbed
          split at stepped
          · rename_i success
            rw [if_pos success] at undisturbed
            split at stepped
            · rename_i assigned
              have agrees := undisturbed p (by simp [split]) named
              rcases setupDataCall_cases s.dataCallCids with
                ⟨i, inside, first, free, offered⟩ | ⟨_, offered⟩
              · rw [fetchCidFromDataCall_free assigned.1 first] at stepped
                cases stepped
                exact matched.store split inside free (by omega) assigned.1 assigned.2
              · omega
            · cases stepped
          · rename_i failure
            rw [if_neg failure] at undisturbed
            rw [fetchCidFromDataCall_negative _ undisturbed] at stepped
            cases stepped
            exact matched.forget split

/-- Deactivating a cid frees at most the slot of that cid. -/
theorem deactivateDataCall_cases (table : Table) (cid : Int) :
    (∃ i < 4, table i = cid ∧ deactivateDataCall table cid = Function.update table i (-1)) ∨
      ((∀ i < 4, table i ≠ cid) ∧ deactivateDataCall table cid = table) := by
  rw [deactivateDataCall]
  cases found : firstSlot (fun held => decide (held = cid)) table with
  | none =>
      refine Or.inr ⟨?_, rfl⟩
      intro i inside
      simpa using firstSlot_none found inside
  | some i =>
      have here := firstSlot_some found
      exact Or.inl ⟨i, here.1, by simpa using here.2, rfl⟩

theorem deactivateDataCall_keeps (table : Table) {cid : Int} {j : Nat} (differs : table j ≠ cid) :
    deactivateDataCall table cid j = table j := by
  rcases deactivateDataCall_cases table cid with ⟨i, _, here, updated⟩ | ⟨_, updated⟩
  · rw [updated, Function.update_of_ne]
    intro same
    exact differs (same ▸ here)
  · rw [updated]

theorem step_deactivate {s : State} (cid : Int) (matched : Matched s) :
    Matched { s with
      dataCallCids := deactivateDataCall s.dataCallCids cid
      active := s.active.filter (fun call => call.cid ≠ cid) } := by
  have remains : ∀ call, call ∈ s.active.filter (fun call => call.cid ≠ cid) ↔
      call ∈ s.active ∧ call.cid ≠ cid := by
    intro call
    simp [List.mem_filter]
  constructor
  · refine matched.distinct.sublist ?_
    exact List.Sublist.append_left (List.Sublist.map _ List.filter_sublist) _
  · exact matched.cids.sublist (List.Sublist.map _ List.filter_sublist)
  · intro call member
    have kept := (remains call).mp member
    rcases matched.slot call kept.1 with ⟨j, below, number, holds⟩
    refine ⟨j, below, number, ?_⟩
    have differs : s.dataCallCids j ≠ cid := holds ▸ kept.2
    exact (deactivateDataCall_keeps _ differs).trans holds
  · intro call member
    exact matched.valid call ((remains call).mp member).1
  · intro j below nonneg
    rcases deactivateDataCall_cases s.dataCallCids cid with ⟨i, inside, here, updated⟩ | ⟨absent, updated⟩
    · simp only [updated] at nonneg ⊢
      by_cases same : j = i
      · subst same
        simp at nonneg
      · rw [Function.update_of_ne same] at nonneg ⊢
        rcases matched.held j below nonneg with ⟨call, present, number, holds⟩
        refine ⟨call, (remains call).mpr ⟨present, ?_⟩, number, holds⟩
        -- two slots with one valid cid would belong to one call, which has one id
        intro clash
        have heldToo := matched.held i inside (by omega)
        rcases heldToo with ⟨other, there, otherNumber, otherHolds⟩
        have equal := matched.same_call present there (by omega)
        rw [equal] at number
        omega
    · simp only [updated] at nonneg ⊢
      rcases matched.held j below nonneg with ⟨call, present, number, holds⟩
      exact ⟨call, (remains call).mpr ⟨present, by rw [holds]; exact absent j below⟩, number, holds⟩

theorem step_matched {s s' : State} {event : Event} (matched : Matched s)
    (undisturbed : Undisturbed s event) (stepped : step s event = some s') : Matched s' := by
  cases event with
  | setup => exact step_setup matched undisturbed stepped
  | response serial payload => exact step_response matched undisturbed stepped
  | deactivate cid =>
      cases stepped
      exact step_deactivate cid matched

/-- In every run whose events are undisturbed, the interface ids in use are distinct and
every active cid sits in the slot that its interface id names. -/
theorem undisturbed_runs_in_step (s : State)
    (reached : ReachesWhere Undisturbed step initial s) : InStep s :=
  (ReachesWhere.invariant reached initial_matched
    (fun _ _ _ matched undisturbed stepped => step_matched matched undisturbed stepped)).inStep

/-- Two calls set up one after the other, the first then deactivated. -/
def oneAtATime : List Event :=
  [.setup, .response 0 (some ⟨0, 7⟩), .setup, .response 1 (some ⟨0, 5⟩), .deactivate 7]

theorem one_at_a_time_in_step :
    ∃ s, run step initial oneAtATime = some s ∧ InStep s :=
  ⟨_, rfl, undisturbed_runs_in_step _ (reachesWhere_of_run oneAtATime rfl)⟩

/-- Two setups sent before the first response carry one interface id. -/
theorem pending_setups_share_id : ¬ ∀ s, Reaches step initial s → InStep s := by
  intro sound
  have reached : Reaches step initial
      { initial with pending := [⟨0, 1⟩, ⟨1, 1⟩], nextSerial := 2 } :=
    reaches_of_run [.setup, .setup] rfl
  have distinct := (sound _ reached).distinct
  simp [State.interfaceIds, initial] at distinct

end X5MaxDevice.Ril.DataCalls
