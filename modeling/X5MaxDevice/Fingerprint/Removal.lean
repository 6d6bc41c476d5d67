import X5MaxDevice.Fingerprint.Hal

/-! The removal of all fingers, for every limit on their number and every pattern of failures. -/

namespace X5MaxDevice.Fingerprint.Removal

open X5MaxDevice.Fingerprint.Hal hiding maRemove fingers maxf

/-- The values of `id` in the loops `for (id = 1; id <= MAXF; id++)`. -/
def fingers : Nat → List Int
  | 0 => []
  | maxf + 1 => fingers maxf ++ [(maxf : Int) + 1]

theorem mem_fingers (maxf : Nat) (fid : Int) : fid ∈ fingers maxf ↔ 1 ≤ fid ∧ fid ≤ maxf := by
  induction maxf with
  | zero =>
      simp only [fingers, List.not_mem_nil, false_iff]
      omega
  | succ maxf ih =>
      simp only [fingers, List.mem_append, List.mem_singleton, ih]
      omega

/-- `ma_remove` in a build with any `MAXF`. -/
def maRemove (maxf : Nat) (gid fid : Int) (cleared updated : Int → Int) (h : Mafprint) :
    Mafprint × Int :=
  if h.fdev ≠ -1 then
    if 0 < fid then removeFinger gid cleared updated (h, -1) fid
    else if fid = 0 then (fingers maxf).foldl (removeFinger gid cleared updated) (h, -1)
    else (h, -1)
  else (h, -1)

/-- The build that ships has five fingers. -/
theorem maRemove_five (gid fid : Int) (cleared updated : Int → Int) (h : Mafprint) :
    maRemove 5 gid fid cleared updated h = Hal.maRemove gid fid cleared updated h := rfl

/-- Both steps of a finger succeed. -/
def Removes (cleared updated : Int → Int) (fid : Int) : Prop :=
  cleared fid = fpOk ∧ updated fid = fpOk

instance (cleared updated : Int → Int) (fid : Int) : Decidable (Removes cleared updated fid) :=
  inferInstanceAs (Decidable (_ ∧ _))

def removal : Event → Bool
  | .notify (.removed _ _) => true
  | _ => false

def removals (events : List Event) : List Event := events.filter removal

/-- The result is 0 exactly when every finger was removed, and the messages name exactly the
fingers that were. -/
def AllOrReported (maxf : Nat) (gid : Int) (cleared updated : Int → Int) (h : Mafprint) : Prop :=
  let after := maRemove maxf gid 0 cleared updated h
  (after.2 = fpOk ↔ ∀ fid ∈ fingers maxf, Removes cleared updated fid) ∧
    removals after.1.log = removals h.log ++
      ((fingers maxf).filter (fun fid => Removes cleared updated fid)).map
        (fun fid => .notify (.removed gid fid))

variable {gid : Int} {cleared updated : Int → Int}

theorem removeFinger_ok (s : Mafprint × Int) (fid : Int) :
    (removeFinger gid cleared updated s fid).2 = fpOk ↔ Removes cleared updated fid := by
  rw [removeFinger, Removes]
  by_cases clears : cleared fid = fpOk
  · rw [if_pos clears]
    by_cases updates : updated fid = fpOk
    · simp [clears, updates]
    · simp [clears, updates]
  · rw [if_neg clears]
    simp [clears]

theorem removeFinger_removals (s : Mafprint × Int) (fid : Int) :
    removals (removeFinger gid cleared updated s fid).1.log = removals s.1.log ++
      if Removes cleared updated fid then [.notify (.removed gid fid)] else [] := by
  rw [removeFinger]
  by_cases clears : cleared fid = fpOk
  · by_cases updates : updated fid = fpOk
    · simp [removals, removal, Removes, Mafprint.record, clears, updates]
    · simp [removals, removal, Removes, Mafprint.record, clears, updates]
  · simp [removals, Removes, clears]

theorem removeFingers_removals (fids : List Int) (s : Mafprint × Int) :
    removals (fids.foldl (removeFinger gid cleared updated) s).1.log = removals s.1.log ++
      (fids.filter (fun fid => Removes cleared updated fid)).map
        (fun fid => .notify (.removed gid fid)) := by
  induction fids generalizing s with
  | nil => simp
  | cons fid fids ih =>
      rw [List.foldl_cons, ih, removeFinger_removals, List.filter_cons]
      by_cases removes : Removes cleared updated fid
      · simp [removes]
      · simp [removes]

/-- The last finger has the last word. -/
def LastDecides (maxf : Nat) (cleared updated : Int → Int) : Prop :=
  0 < maxf ∧ (¬ Removes cleared updated maxf ∨ ∀ fid ∈ fingers maxf, Removes cleared updated fid)

instance (maxf : Nat) (cleared updated : Int → Int) :
    Decidable (LastDecides maxf cleared updated) := inferInstanceAs (Decidable (_ ∧ _))

/-- The messages are always right. The result is that of the last finger, so it is right
exactly when that one fails or none does. -/
theorem allOrReported_iff (maxf : Nat) (gid : Int) (cleared updated : Int → Int) (h : Mafprint)
    (device : h.fdev ≠ -1) :
    AllOrReported maxf gid cleared updated h ↔ LastDecides maxf cleared updated := by
  have loop : maRemove maxf gid 0 cleared updated h =
      (fingers maxf).foldl (removeFinger gid cleared updated) (h, -1) := by
    rw [maRemove, if_pos device]
    rfl
  have messages := @removeFingers_removals gid cleared updated (fingers maxf) (h, -1)
  rw [AllOrReported, loop, LastDecides]
  refine (and_iff_left messages).trans ?_
  cases maxf with
  | zero => simp [fingers, fpOk]
  | succ maxf =>
      have last : ((maxf + 1 : Nat) : Int) ∈ fingers (maxf + 1) := by
        rw [mem_fingers]
        omega
      have result : ((fingers (maxf + 1)).foldl (removeFinger gid cleared updated) (h, -1)).2 =
          fpOk ↔ Removes cleared updated (maxf + 1 : Nat) := by
        rw [fingers, List.foldl_append]
        exact removeFinger_ok _ _
      rw [result]
      constructor
      · intro reported
        refine ⟨Nat.succ_pos maxf, ?_⟩
        by_cases removes : Removes cleared updated (maxf + 1 : Nat)
        · exact Or.inr (reported.mp removes)
        · exact Or.inl removes
      · rintro ⟨-, fails | all⟩
        · exact iff_of_false fails (fun all => fails (all _ last))
        · exact iff_of_true (all _ last) all

/-- The device is open, and all five fingers are removed. -/
theorem five_removed :
    AllOrReported 5 0 (fun _ => fpOk) (fun _ => fpOk) { Mafprint.initial with fdev := 3 } :=
  (allOrReported_iff 5 0 _ _ _ (by decide)).mpr (by decide)

/-- Finger 1 cannot be cleared and the other slots are empty: the result is 0. -/
theorem failed_removal_unreported :
    ¬ ∀ (maxf : Nat) (gid : Int) (cleared updated : Int → Int) (h : Mafprint), h.fdev ≠ -1 →
      AllOrReported maxf gid cleared updated h := by
  intro reported
  have asserted := reported 5 0 (fun fid => if fid = 1 then fpCommFail else fpOk) (fun _ => fpOk)
    { Mafprint.initial with fdev := 3 } (by decide)
  have all := asserted.1.mp (by decide) 1 (by decide)
  revert all
  decide

end X5MaxDevice.Fingerprint.Removal
