import Mathlib.Data.List.Basic

/-! Texts printed one behind the other into a buffer of fixed size, up to the first that does not
fit, and texts made of the lines of a table, which are read back. -/

namespace X5MaxDevice.BoundedPrinting

variable {α : Type*}

/-- As much of the text as leaves place for the terminator, and the terminator behind it. -/
def snprintf (nul : α) (room text : List α) : List α :=
  match room with
  | [] => []
  | _ :: rest => text.take rest.length ++ nul :: rest.drop text.length

/-- A buffer that is filled up to its cursor. -/
structure Cursor (α : Type*) where
  front : List α
  room : List α

def Cursor.buffer (c : Cursor α) : List α := c.front ++ c.room

/-- Whether all texts fit, and the buffer with the cursor behind the last that does. -/
def printAll (nul : α) (c : Cursor α) : List (List α) → Cursor α × Bool
  | [] => (c, true)
  | text :: rest =>
      let room := snprintf nul c.room text
      if c.room.length ≤ text.length then ({ c with room := room }, false)
      else printAll nul ⟨c.front ++ text, room.drop text.length⟩ rest

/-- The leading texts that fit together with a terminator. -/
def fitting (size : Nat) : List (List α) → List (List α)
  | [] => []
  | text :: rest =>
      if size ≤ text.length then [] else text :: fitting (size - text.length) rest

section Printing

variable (nul : α) {room text : List α}

theorem snprintf_length : (snprintf nul room text).length = room.length := by
  cases room with
  | nil => rfl
  | cons first rest =>
      simp only [snprintf, List.length_append, List.length_take, List.length_cons,
        List.length_drop]
      omega

theorem drop_snprintf :
    ((snprintf nul room text).drop text.length).length = room.length - text.length := by
  rw [List.length_drop, snprintf_length]

/-- A text that fits is there as a whole, terminated. -/
theorem snprintf_fits (fits : text.length < room.length) :
    ∃ rest, snprintf nul room text = text ++ nul :: rest := by
  cases room with
  | nil => simp at fits
  | cons first rest =>
      have whole : text.length ≤ rest.length := Nat.lt_succ_iff.mp fits
      exact ⟨rest.drop text.length, by rw [snprintf, List.take_of_length_le whole]⟩

theorem nul_mem_snprintf (present : room ≠ []) : nul ∈ snprintf nul room text := by
  cases room with
  | nil => exact absurd rfl present
  | cons first rest => simp [snprintf]

/-- The cursor moves over the texts that fit, and nothing in front of it changes. -/
theorem printAll_front (c : Cursor α) (texts : List (List α)) :
    (printAll nul c texts).1.front = c.front ++ (fitting c.room.length texts).flatten := by
  induction texts generalizing c with
  | nil => simp [printAll, fitting]
  | cons text rest ih =>
      rw [printAll, fitting]
      split
      · simp
      · rw [ih, drop_snprintf, List.flatten_cons, List.append_assoc]

/-- What is in front of the cursor of a buffer that is filled from its start. -/
theorem printed (buf : List α) (texts : List (List α)) :
    (printAll nul ⟨[], buf⟩ texts).1.buffer.take (printAll nul ⟨[], buf⟩ texts).1.front.length =
      (fitting buf.length texts).flatten := by
  rw [Cursor.buffer, List.take_left, printAll_front, List.nil_append]

/-- No text reaches beyond the buffer. -/
theorem printAll_length (c : Cursor α) (texts : List (List α)) :
    (printAll nul c texts).1.buffer.length = c.buffer.length := by
  induction texts generalizing c with
  | nil => rfl
  | cons text rest ih =>
      rw [printAll]
      split
      · simp [Cursor.buffer, snprintf_length]
      · rename_i fits
        rw [ih]
        simp only [Cursor.buffer, List.length_append, drop_snprintf]
        omega

theorem printAll_all (c : Cursor α) (texts : List (List α)) :
    (printAll nul c texts).2 = true ↔ fitting c.room.length texts = texts := by
  induction texts generalizing c with
  | nil => simp [printAll, fitting]
  | cons text rest ih =>
      rw [printAll, fitting]
      split
      · simp
      · rw [ih, drop_snprintf, List.cons.injEq, eq_self_iff_true, true_and]

/-- What stands from the cursor on is terminated. -/
theorem printAll_terminated {c : Cursor α} (present : c.room ≠ []) {texts : List (List α)}
    (some : texts ≠ []) : nul ∈ (printAll nul c texts).1.room := by
  induction texts generalizing c with
  | nil => exact absurd rfl some
  | cons text rest ih =>
      rw [printAll]
      split
      · exact nul_mem_snprintf nul present
      · rename_i fits
        rcases snprintf_fits nul (Nat.lt_of_not_le fits) with ⟨behind, whole⟩
        rw [whole, List.drop_left]
        by_cases last : rest = []
        · subst last
          exact List.mem_cons_self
        · exact ih (List.cons_ne_nil nul behind) last

end Printing

section Fitting

variable {texts : List (List α)} {size : Nat}

theorem fitting_leading (size : Nat) (texts : List (List α)) : fitting size texts <+: texts := by
  induction texts generalizing size with
  | nil => exact List.prefix_rfl
  | cons text rest ih =>
      rw [fitting]
      split
      · exact List.nil_prefix
      · exact (List.prefix_cons_inj text).mpr (ih (size - text.length))

theorem fitting_length (size : Nat) (texts : List (List α)) :
    (fitting size texts).flatten.length ≤ size - 1 := by
  induction texts generalizing size with
  | nil => simp [fitting]
  | cons text rest ih =>
      rw [fitting]
      split
      · simp
      · have later := ih (size - text.length)
        rw [List.flatten_cons, List.length_append]
        omega

/-- No further text would fit. -/
theorem fitting_maximal {leading : List (List α)} (starts : leading <+: texts)
    (fits : leading.flatten.length < size) : leading <+: fitting size texts := by
  induction leading generalizing texts size with
  | nil => exact List.nil_prefix
  | cons text leading ih =>
      cases texts with
      | nil => simp at starts
      | cons first rest =>
          rcases List.cons_prefix_cons.mp starts with ⟨rfl, later⟩
          rw [List.flatten_cons, List.length_append] at fits
          rw [fitting, if_neg (by omega)]
          exact (List.prefix_cons_inj text).mpr (ih later (by omega))

/-- All texts fit exactly where they are shorter than the buffer, or there is none. -/
theorem fitting_eq_self_iff (some : texts ≠ []) :
    fitting size texts = texts ↔ texts.flatten.length < size := by
  constructor
  · intro all
    cases texts with
    | nil => exact absurd rfl some
    | cons text rest =>
        have bound := fitting_length size (text :: rest)
        have present : size ≠ 0 := by
          rintro rfl
          rw [fitting, if_pos (Nat.zero_le _)] at all
          exact absurd all.symm (List.cons_ne_nil _ _)
        rw [all] at bound
        omega
  · intro fits
    exact List.Sublist.eq_of_length_le (fitting_leading size texts).sublist
      (fitting_maximal List.prefix_rfl fits).length_le

end Fitting

section Lines

variable [DecidableEq α]

/-- A key and its value, in a line of their own. -/
def line (equals newline : α) (field : List α × List α) : List α :=
  field.1 ++ equals :: field.2 ++ [newline]

/-- The keys and values of the lines of a text, each line split where its key ends. -/
def readFields (equals newline : α) (text : List α) : List (List α × List α) :=
  ((text.splitOn newline).dropLast).map fun entry =>
    (entry.takeWhile (· ≠ equals), (entry.dropWhile (· ≠ equals)).tail)

/-- Keys and values that can be told from what stands around them. -/
structure Plain (equals newline : α) (field : List α × List α) : Prop where
  key : equals ∉ field.1
  keyLine : newline ∉ field.1
  valueLine : newline ∉ field.2
  separator : newline ≠ equals

variable {equals newline : α}

theorem ne_separator {key : List α} (plain : equals ∉ key) :
    ∀ c ∈ key, decide (c ≠ equals) = true := by
  intro c member
  exact decide_eq_true (ne_of_mem_of_not_mem member plain)

theorem takeWhile_key {key : List α} (plain : equals ∉ key) (rest : List α) :
    (key ++ equals :: rest).takeWhile (· ≠ equals) = key := by
  rw [List.takeWhile_append_of_pos (ne_separator plain),
    List.takeWhile_cons_of_neg (by simp), List.append_nil]

theorem dropWhile_key {key : List α} (plain : equals ∉ key) (rest : List α) :
    (key ++ equals :: rest).dropWhile (· ≠ equals) = equals :: rest := by
  rw [List.dropWhile_append_of_pos (ne_separator plain), List.dropWhile_cons_of_neg (by simp)]

/-- The lines of a table are read back as its fields. -/
theorem readFields_lines {fields : List (List α × List α)}
    (plain : ∀ field ∈ fields, Plain equals newline field) :
    readFields equals newline (fields.map (line equals newline)).flatten = fields := by
  induction fields with
  | nil => simp [readFields]
  | cons field rest ih =>
      have first := plain field List.mem_cons_self
      have inside : newline ∉ field.1 ++ equals :: field.2 := by
        simp [first.keyLine, first.valueLine, first.separator]
      have later := ih fun other member => plain other (List.mem_cons_of_mem field member)
      have split : (((field :: rest).map (line equals newline)).flatten).splitOn newline =
          (field.1 ++ equals :: field.2) ::
            ((rest.map (line equals newline)).flatten).splitOn newline := by
        rw [List.map_cons, List.flatten_cons, line, List.append_assoc, List.singleton_append,
          List.splitOn_append_cons_self_of_not_mem inside]
      rw [readFields, split, List.dropLast_cons_of_ne_nil (List.splitOn_ne_nil newline _),
        List.map_cons, takeWhile_key first.key, dropWhile_key first.key, List.tail_cons]
      rw [readFields] at later
      rw [later]

/-- The reader is given as many leading fields as have room. -/
theorem readFields_fitting {fields : List (List α × List α)} (size : Nat)
    (plain : ∀ field ∈ fields, Plain equals newline field) :
    ∃ count, readFields equals newline (fitting size (fields.map (line equals newline))).flatten =
        fields.take count ∧
      (count < fields.length →
        size ≤ ((fields.take (count + 1)).map (line equals newline)).flatten.length) := by
  rcases List.prefix_map_iff.mp (fitting_leading size (fields.map (line equals newline))) with
    ⟨leading, starts, same⟩
  have taken := List.prefix_iff_eq_take.mp starts
  refine ⟨leading.length, ?_, ?_⟩
  · rw [same, ← taken]
    exact readFields_lines fun field member => plain field (starts.subset member)
  · intro more
    by_contra fits
    have next := fitting_maximal
      ((List.take_prefix (leading.length + 1) fields).map (line equals newline))
      (Nat.lt_of_not_le fits)
    have longer := next.length_le
    rw [same, List.length_map, List.length_map, List.length_take] at longer
    omega

end Lines

end X5MaxDevice.BoundedPrinting
