import X5MaxDevice.Fingerprint.Removal

/-! What `ma_enumerate` stores in the caller's array, for every limit on the number of fingers,
every set of enrolled ones and every capacity. -/

namespace X5MaxDevice.Fingerprint.Enumeration

open X5MaxDevice.Fingerprint.Removal (fingers mem_fingers)

structure FingerprintFingerId where
  gid : Int
  fid : Int
  deriving DecidableEq, Repr

/-- The variables of the call, with the stores to `results` in order, each with its index. -/
structure Call where
  maxSize : Nat
  results : List (Int × FingerprintFingerId)
  ret : Int
  deriving DecidableEq, Repr

/-- `tnum` is what `fp_getEnrollment` returns for each finger. -/
def enumerateFinger (gid : Int) (tnum : Int → Int) (s : Call) (id : Int) : Call :=
  let ret := tnum id
  if 0 < ret then
    { maxSize := s.maxSize + 1, results := s.results ++ [(id - 1, ⟨gid, id⟩)], ret := ret }
  else { s with ret := ret }

/-- `maxSize` is the capacity that the caller gives. `ret` is uninitialised. -/
def maEnumerate (maxf : Nat) (gid : Int) (tnum : Int → Int) (maxSize : Nat) (ret : Int) : Call :=
  let s : Call := ⟨maxSize, [], ret⟩
  (fingers maxf).foldl (enumerateFinger gid tnum) { s with maxSize := 0 }

/-- The fingers that have templates, in order. -/
def enrolled (maxf : Nat) (tnum : Int → Int) : List Int :=
  (fingers maxf).filter (fun id => 0 < tnum id)

/-- What the comment of the function promises to a caller with room for `capacity` entries. -/
structure Enumerates (maxf : Nat) (gid : Int) (tnum : Int → Int) (capacity : Nat) (call : Call) :
    Prop where
  within : ∀ store ∈ call.results, 0 ≤ store.1 ∧ store.1 < capacity
  entries : call.results =
    ((enrolled maxf tnum).take capacity).mapIdx (fun index id => ((index : Int), ⟨gid, id⟩))
  size : call.maxSize = min capacity (enrolled maxf tnum).length
  total : call.ret = (enrolled maxf tnum).length

variable {maxf capacity : Nat} {gid ret : Int} {tnum : Int → Int}

theorem enumerateFingers (ids : List Int) (s : Call) :
    let after := ids.foldl (enumerateFinger gid tnum) s
    after.maxSize = s.maxSize + (ids.filter (fun id => 0 < tnum id)).length ∧
      after.results = s.results ++
        (ids.filter (fun id => 0 < tnum id)).map (fun id => (id - 1, ⟨gid, id⟩)) := by
  induction ids generalizing s with
  | nil => simp
  | cons id ids ih =>
      rw [List.foldl_cons, List.filter_cons]
      rcases ih (enumerateFinger gid tnum s id) with ⟨size, results⟩
      refine ⟨size.trans ?_, results.trans ?_⟩
      · by_cases templates : 0 < tnum id
        · simp only [enumerateFinger, templates, decide_true, if_true, List.length_cons]
          omega
        · simp [enumerateFinger, templates]
      · by_cases templates : 0 < tnum id
        · simp [enumerateFinger, templates]
        · simp [enumerateFinger, templates]

theorem maEnumerate_maxSize :
    (maEnumerate maxf gid tnum capacity ret).maxSize = (enrolled maxf tnum).length := by
  have size := (@enumerateFingers gid tnum (fingers maxf) ⟨0, [], ret⟩).1
  simpa [maEnumerate, enrolled] using size

theorem maEnumerate_results :
    (maEnumerate maxf gid tnum capacity ret).results =
      (enrolled maxf tnum).map (fun id => (id - 1, ⟨gid, id⟩)) := by
  have results := (@enumerateFingers gid tnum (fingers maxf) ⟨0, [], ret⟩).2
  simpa [maEnumerate, enrolled] using results

/-- The last value of `ret` is the one that is returned. -/
def lastCount (maxf : Nat) (tnum : Int → Int) (ret : Int) : Int :=
  if maxf = 0 then ret else tnum maxf

theorem maEnumerate_ret :
    (maEnumerate maxf gid tnum capacity ret).ret = lastCount maxf tnum ret := by
  cases maxf with
  | zero => rfl
  | succ maxf =>
      simp only [maEnumerate, fingers, List.foldl_append, List.foldl_cons, List.foldl_nil,
        enumerateFinger, lastCount, Nat.succ_ne_zero, if_false]
      split
      · simp
      · simp

/-- No finger is enrolled, or all are, with room for them, and the last one has as many
templates as there are fingers. -/
def NoneOrAll (maxf : Nat) (tnum : Int → Int) (capacity : Nat) (ret : Int) : Prop :=
  ((∀ id ∈ fingers maxf, tnum id ≤ 0) ∧ lastCount maxf tnum ret = 0) ∨
    ((∀ id ∈ fingers maxf, 0 < tnum id) ∧ maxf ≤ capacity ∧ lastCount maxf tnum ret = maxf)

instance : Decidable (NoneOrAll maxf tnum capacity ret) := inferInstanceAs (Decidable (_ ∨ _))

theorem fingers_length (maxf : Nat) : (fingers maxf).length = maxf := by
  induction maxf with
  | zero => rfl
  | succ maxf ih => simp [fingers, ih]

theorem fingers_slots (maxf : Nat) (gid : Int) :
    (fingers maxf).map (fun id => (id - 1, (⟨gid, id⟩ : FingerprintFingerId))) =
      (fingers maxf).mapIdx (fun index id => ((index : Int), ⟨gid, id⟩)) := by
  induction maxf with
  | zero => rfl
  | succ maxf ih => simp [fingers, List.mapIdx_append, ih, fingers_length]

theorem enrolled_empty (none : ∀ id ∈ fingers maxf, tnum id ≤ 0) : enrolled maxf tnum = [] := by
  apply List.filter_eq_nil_iff.mpr
  intro id member
  simpa using none id member

theorem enrolled_full (all : ∀ id ∈ fingers maxf, 0 < tnum id) :
    enrolled maxf tnum = fingers maxf := by
  apply List.filter_eq_self.mpr
  intro id member
  simpa using all id member

/-- When the stores have no gaps and end at the last finger, every finger is enrolled. -/
theorem enrolled_all (last : (maxf : Int) ∈ enrolled maxf tnum)
    (room : (enrolled maxf tnum).map (fun id => (id - 1, (⟨gid, id⟩ : FingerprintFingerId))) =
      ((enrolled maxf tnum).take capacity).mapIdx (fun index id => ((index : Int), ⟨gid, id⟩))) :
    (∀ id ∈ fingers maxf, 0 < tnum id) ∧ maxf ≤ capacity := by
  have stored : ((maxf : Int) - 1, (⟨gid, maxf⟩ : FingerprintFingerId)) ∈
      ((enrolled maxf tnum).take capacity).mapIdx (fun index id => ((index : Int), ⟨gid, id⟩)) := by
    rw [← room]
    exact List.mem_map.mpr ⟨maxf, last, rfl⟩
  rcases List.mem_mapIdx.mp stored with ⟨index, below, same⟩
  have position : (index : Int) = maxf - 1 := (Prod.mk.inj same).1
  rw [List.length_take] at below
  have most : (enrolled maxf tnum).length ≤ (fingers maxf).length := List.length_filter_le _ _
  have full : (enrolled maxf tnum).length = (fingers maxf).length := by
    have bound := fingers_length maxf
    omega
  refine ⟨?_, by omega⟩
  intro id member
  simpa using List.length_filter_eq_length_iff.mp full id member

/-- The array and the results are as promised exactly when no finger is enrolled, or all are. -/
theorem enumerates_iff (maxf : Nat) (gid : Int) (tnum : Int → Int) (capacity : Nat) (ret : Int) :
    Enumerates maxf gid tnum capacity (maEnumerate maxf gid tnum capacity ret) ↔
      NoneOrAll maxf tnum capacity ret := by
  constructor
  · intro promised
    have total := promised.total
    have entries := promised.entries
    rw [maEnumerate_ret] at total
    rw [maEnumerate_results] at entries
    cases none : enrolled maxf tnum with
    | nil =>
        refine Or.inl ⟨?_, by simpa [none] using total⟩
        intro id member
        simpa using List.filter_eq_nil_iff.mp none id member
    | cons id ids =>
        have positive : 0 < lastCount maxf tnum ret := by
          rw [total, none, List.length_cons]
          omega
        have last : (maxf : Int) ∈ enrolled maxf tnum := by
          have first : id ∈ enrolled maxf tnum := by
            rw [none]
            exact List.mem_cons_self
          have range := (mem_fingers maxf id).mp (List.mem_filter.mp first).1
          have fingered : maxf ≠ 0 := by omega
          rw [lastCount, if_neg fingered] at positive
          apply List.mem_filter.mpr
          refine ⟨(mem_fingers maxf maxf).mpr ⟨by omega, Int.le_refl _⟩, ?_⟩
          simpa using positive
        have all := enrolled_all last entries
        refine Or.inr ⟨all.1, all.2, ?_⟩
        rw [total, enrolled_full all.1, fingers_length]
  · rintro (⟨none, count⟩ | ⟨all, room, count⟩)
    · have empty := enrolled_empty none
      constructor
      · simp [maEnumerate_results, empty]
      · simp [maEnumerate_results, empty]
      · simp [maEnumerate_maxSize, empty]
      · simp [maEnumerate_ret, empty, count]
    · have full := enrolled_full all
      have whole : (fingers maxf).take capacity = fingers maxf := by
        apply List.take_of_length_le
        rw [fingers_length]
        exact room
      constructor
      · intro store member
        rw [maEnumerate_results, full] at member
        rcases List.mem_map.mp member with ⟨id, known, rfl⟩
        have range := (mem_fingers maxf id).mp known
        constructor
        · dsimp only
          omega
        · dsimp only
          omega
      · rw [maEnumerate_results, full, whole, fingers_slots]
      · rw [maEnumerate_maxSize, full, fingers_length]
        omega
      · rw [maEnumerate_ret, full, fingers_length, count]

/-- Only finger 2 is enrolled, in a build with five: its entry is the second one. -/
theorem hole_is_left :
    ¬ ∀ (maxf : Nat) (gid : Int) (tnum : Int → Int) (capacity : Nat) (ret : Int),
      Enumerates maxf gid tnum capacity (maEnumerate maxf gid tnum capacity ret) := by
  intro promised
  have asserted := (promised 5 0 (fun id => if id = 2 then 15 else 0) 5 0).entries
  revert asserted
  decide

end X5MaxDevice.Fingerprint.Enumeration
