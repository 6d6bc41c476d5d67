import Mathlib.Algebra.Group.Nat.Defs
import Mathlib.Data.List.Basic

/-! Objects in memory as lists of cells: accesses that stay inside an object or fail, and
little-endian numbers. -/

namespace X5MaxDevice.Memory

variable {α β : Type*}

/-- The cells of a range of an object, if the range lies inside it. -/
def read (object : List α) (start length : Int) : Option (List α) :=
  if 0 ≤ start ∧ 0 ≤ length ∧ start + length ≤ object.length then
    some ((object.drop start.toNat).take length.toNat)
  else none

/-- The object with the cells from `start` on replaced, if they all lie inside it. -/
def write (object : List α) (start : Int) (data : List α) : Option (List α) :=
  if 0 ≤ start ∧ start + data.length ≤ object.length then
    some (object.take start.toNat ++ data ++ object.drop (start.toNat + data.length))
  else none

/-- A copy between two objects that stays inside both. -/
def copy (target : List α) (position : Int) (source : List α) (start length : Int) :
    Option (List α) :=
  (read source start length).bind (write target position)

theorem read_middle (before data after : List α) :
    read (before ++ data ++ after) before.length data.length = some data := by
  have inside : (0 : Int) ≤ before.length ∧ (0 : Int) ≤ data.length ∧
      (before.length : Int) + data.length ≤ (before ++ data ++ after).length := by
    simp only [List.length_append]
    omega
  rw [read, if_pos inside]
  simp

theorem write_middle (before after : List α) {old data : List α}
    (same : old.length = data.length) :
    write (before ++ old ++ after) before.length data = some (before ++ data ++ after) := by
  have inside : (0 : Int) ≤ before.length ∧
      (before.length : Int) + data.length ≤ (before ++ old ++ after).length := by
    simp only [List.length_append]
    omega
  rw [write, if_pos inside]
  simp [← same]

theorem read_cell (before after : List α) (cell : α) :
    read (before ++ cell :: after) before.length 1 = some [cell] := by
  have found := read_middle before [cell] after
  rw [List.append_assoc] at found
  exact found

theorem write_cell (before after : List α) (old cell : α) :
    write (before ++ old :: after) before.length [cell] = some (before ++ cell :: after) := by
  have wrote := write_middle before after (show [old].length = [cell].length from rfl)
  rw [List.append_assoc, List.append_assoc] at wrote
  exact wrote

theorem split_at_range {object : List α} {start : Int} {length : Nat}
    (inside : 0 ≤ start ∧ start + length ≤ object.length) :
    ∃ before old after, object = before ++ old ++ after ∧ (before.length : Int) = start ∧
      old.length = length := by
  refine ⟨object.take start.toNat, (object.drop start.toNat).take length,
    object.drop (start.toNat + length), ?_, ?_, ?_⟩
  · rw [← List.drop_drop, List.append_assoc, List.take_append_drop, List.take_append_drop]
  · rw [List.length_take]
    omega
  · rw [List.length_take, List.length_drop]
    omega

/-- Where the cells that were read stand in the object. -/
theorem split_of_read {object data : List α} {start length : Int}
    (done : read object start length = some data) :
    ∃ before after, object = before ++ data ++ after ∧ (before.length : Int) = start := by
  unfold read at done
  split at done
  · rename_i inside
    have range : 0 ≤ start ∧ start + length.toNat ≤ object.length := by omega
    obtain ⟨before, old, after, rfl, rfl, count⟩ := split_at_range range
    have same : old = data := by simpa [count] using done
    exact ⟨before, after, by rw [same], rfl⟩
  · cases done

theorem read_isSome (object : List α) (start length : Int) :
    (read object start length).isSome ↔
      0 ≤ start ∧ 0 ≤ length ∧ start + length ≤ object.length := by
  unfold read
  split <;> simp_all

theorem write_isSome (object : List α) (start : Int) (data : List α) :
    (write object start data).isSome ↔ 0 ≤ start ∧ start + data.length ≤ object.length := by
  unfold write
  split <;> simp_all

theorem read_length {object data : List α} {start length : Int}
    (done : read object start length = some data) : (data.length : Int) = length := by
  unfold read at done
  split at done
  · rename_i inside
    obtain rfl := Option.some.inj done
    rw [List.length_take, List.length_drop]
    omega
  · cases done

theorem write_length {object data written : List α} {start : Int}
    (done : write object start data = some written) : written.length = object.length := by
  unfold write at done
  split at done
  · rename_i inside
    obtain rfl := Option.some.inj done
    simp only [List.length_append, List.length_take, List.length_drop]
    omega
  · cases done

/-- The rule for a write that is followed by more: the rest sees an object of the same size. -/
theorem bind_write_isSome {object data : List α} {start : Int} {rest : List α → Option β} {P : Prop}
    (each : 0 ≤ start → start + data.length ≤ object.length →
      ∀ written : List α, written.length = object.length → ((rest written).isSome ↔ P)) :
    ((write object start data).bind rest).isSome ↔
      (0 ≤ start ∧ start + data.length ≤ object.length) ∧ P := by
  have writable := write_isSome object start data
  cases done : write object start data with
  | none =>
      simp only [done, Option.isSome_none, Bool.false_eq_true, false_iff] at writable
      simp [writable]
  | some written =>
      obtain ⟨low, high⟩ := writable.mp (by rw [done]; rfl)
      simp [each low high written (write_length done), low, high]

theorem copy_isSome (target : List α) (position : Int) (source : List α) (start length : Int) :
    (copy target position source start length).isSome ↔
      (0 ≤ start ∧ 0 ≤ length ∧ start + length ≤ source.length) ∧
        0 ≤ position ∧ position + length ≤ target.length := by
  rw [copy, ← read_isSome]
  cases done : read source start length with
  | none => simp
  | some data => simp [write_isSome, read_length done]

/-- A copy to the front of an object. -/
theorem copy_front (target source : List α) (start length : Int) :
    copy target 0 source start length =
      if (0 ≤ start ∧ 0 ≤ length ∧ start + length ≤ source.length) ∧ length ≤ target.length then
        some ((source.drop start.toNat).take length.toNat ++ target.drop length.toNat)
      else none := by
  by_cases inside : 0 ≤ start ∧ 0 ≤ length ∧ start + length ≤ source.length
  · have count : ((source.drop start.toNat).take length.toNat).length = length.toNat := by
      rw [List.length_take, List.length_drop]
      omega
    rw [copy, read, if_pos inside, Option.bind_some, write, count]
    by_cases room : length ≤ target.length
    · rw [if_pos ⟨Int.le_refl 0, by omega⟩, if_pos ⟨inside, room⟩]
      simp
    · rw [if_neg (fun fits => room (by omega)), if_neg (fun fits => room fits.2)]
  · rw [copy, read, if_neg inside, Option.bind_none, if_neg (fun fits => inside fits.1)]

theorem copy_length {target source copied : List α} {position start length : Int}
    (done : copy target position source start length = some copied) :
    copied.length = target.length := by
  obtain ⟨data, -, written⟩ := Option.bind_eq_some_iff.mp done
  exact write_length written

theorem write_outside {object data written : List α} {start : Int} {index : Nat}
    (done : write object start data = some written)
    (outside : (index : Int) < start ∨ start + data.length ≤ index) :
    written[index]? = object[index]? := by
  have inside := (write_isSome object start data).mp (by rw [done]; rfl)
  obtain ⟨before, old, after, rfl, rfl, length⟩ := split_at_range inside
  rw [write_middle before after length] at done
  obtain rfl := Option.some.inj done
  rcases outside with left | right
  · have early : index < before.length := by omega
    rw [List.append_assoc, List.append_assoc, List.getElem?_append_left early,
      List.getElem?_append_left early]
  · have late : (before ++ data).length ≤ index := by
      rw [List.length_append]
      omega
    have lateOld : (before ++ old).length ≤ index := by
      rw [List.length_append]
      omega
    rw [List.getElem?_append_right late, List.getElem?_append_right lateOld,
      List.length_append, List.length_append, length]

/-- The lowest `width` bytes of a number, the lowest byte first. -/
def littleEndian : Nat → Nat → List UInt8
  | 0, _ => []
  | width + 1, value => UInt8.ofNat value :: littleEndian width (value / 256)

def ofLittleEndian : List UInt8 → Nat
  | [] => 0
  | byte :: bytes => byte.toNat + 256 * ofLittleEndian bytes

@[simp] theorem littleEndian_length (width value : Nat) :
    (littleEndian width value).length = width := by
  induction width generalizing value with
  | zero => rfl
  | succ width ih => simp [littleEndian, ih]

theorem ofLittleEndian_take (bytes : List UInt8) (width : Nat) :
    ofLittleEndian (bytes.take width) = ofLittleEndian bytes % 256 ^ width := by
  induction width generalizing bytes with
  | zero => simp [ofLittleEndian, Nat.mod_one]
  | succ width ih =>
      cases bytes with
      | nil => simp [ofLittleEndian]
      | cons byte bytes =>
          have small := byte.toNat_lt
          have low : (byte.toNat + 256 * ofLittleEndian bytes) % 256 = byte.toNat := by omega
          have high : (byte.toNat + 256 * ofLittleEndian bytes) / 256 = ofLittleEndian bytes := by
            omega
          rw [List.take_succ_cons, ofLittleEndian, ofLittleEndian, ih, Nat.pow_succ, Nat.mul_comm _ 256,
            Nat.mod_mul, low, high]

theorem ofLittleEndian_littleEndian (width value : Nat) :
    ofLittleEndian (littleEndian width value) = value % 256 ^ width := by
  induction width generalizing value with
  | zero => simp [littleEndian, ofLittleEndian, Nat.mod_one]
  | succ width ih =>
      calc
        _ = value % 256 + 256 * (value / 256 % 256 ^ width) := by
          simp [littleEndian, ofLittleEndian, ih]
        _ = value % 256 ^ (width + 1) := by rw [Nat.pow_succ', Nat.mod_mul]

end X5MaxDevice.Memory
