import X5MaxDevice.Base.Memory
import X5MaxDevice.Gps.Tokenizer

/-! The field codec of the messages between the GPS HAL and mnld. -/

namespace X5MaxDevice.Gps.Codec

open X5MaxDevice.Gps.Tokenizer
open X5MaxDevice.Memory

/-- The characters of a C string, without the NUL that ends it. -/
structure CString where
  chars : Bytes
  plain : 0 ∉ chars
  deriving DecidableEq

/-- The message buffer with the offset that the field functions share. -/
structure Message where
  buff : Bytes
  offset : Int
  deriving DecidableEq, Repr

def intBytes (value : Int) : Bytes := littleEndian 4 (value % 2 ^ 32).toNat

def bytesInt (data : Bytes) : Int := int32 (ofLittleEndian data)

def Message.advance (message : Message) (size : Int) : Message :=
  { message with offset := message.offset + size }

/-- A store at the offset, which stays where it is; `none` is a store outside the buffer. -/
def Message.store (message : Message) (data : Bytes) : Option Message :=
  (write message.buff message.offset data).map (fun buff => { message with buff := buff })

/-- `memcpy(&buff[*offset], input, len)`. -/
def Message.fill (message : Message) (input : Bytes) (len : Int) : Option Message :=
  (copy message.buff message.offset input 0 len).map (fun buff => { message with buff := buff })

def buffPutInt (input : Int) (message : Message) : Option Message := do
  let message ← message.store (intBytes input)
  some (message.advance 4)

def buffPutString (str : CString) (message : Message) : Option Message := do
  let len := int32 (str.chars.length + 1)
  let message ← message.store (intBytes len)
  let message ← (message.advance 4).fill (str.chars ++ [0]) len
  some (message.advance len)

def buffPutBinary (input : Bytes) (len : Int) (message : Message) : Option Message := do
  let message ← message.store (intBytes len)
  let message ← (message.advance 4).fill input len
  some (message.advance len)

def buffPutStruct (input : Bytes) (size : Int) (message : Message) : Option Message := do
  let message ← message.fill input size
  some (message.advance size)

/-- The int at the offset. -/
def Message.load (message : Message) : Option Int :=
  (read message.buff message.offset 4).map bytesInt

def buffGetInt (message : Message) : Option (Int × Message) := do
  let ret ← message.load
  some (ret, message.advance 4)

/-- A getter that copies into an object returns the object with the copied bytes in front. -/
def buffGetString (str : Bytes) (message : Message) : Option (Bytes × Int × Message) := do
  let len ← message.load
  let message := message.advance 4
  let str ← copy str 0 message.buff message.offset len
  some (str, len, message.advance len)

def buffGetStruct (output : Bytes) (size : Int) (message : Message) : Option (Bytes × Message) := do
  let output ← copy output 0 message.buff message.offset size
  some (output, message.advance size)

def buffGetBinary (output : Bytes) (message : Message) : Option (Bytes × Int × Message) := do
  let len ← message.load
  let message := message.advance 4
  let output ← copy output 0 message.buff message.offset len
  some (output, len, message.advance len)

/-- One call of a put function. -/
inductive Field where
  | int (input : Int)
  | string (str : CString)
  | binary (input : Bytes) (len : Int)
  | struct (input : Bytes) (size : Int)
  deriving DecidableEq

def Field.put : Field → Message → Option Message
  | .int input => buffPutInt input
  | .string str => buffPutString str
  | .binary input len => buffPutBinary input len
  | .struct input size => buffPutStruct input size

def putAll : List Field → Message → Option Message
  | [], message => some message
  | field :: fields, message => do
      let message ← field.put message
      putAll fields message

/-- One call of a get function, with the object it copies into. -/
inductive Slot where
  | int
  | string (str : Bytes)
  | binary (output : Bytes)
  | struct (output : Bytes) (size : Int)
  deriving DecidableEq, Repr

/-- What a get function returns and leaves in the object. -/
inductive Value where
  | int (value : Int)
  | string (str : Bytes) (len : Int)
  | binary (output : Bytes) (len : Int)
  | struct (output : Bytes)
  deriving DecidableEq, Repr

def Slot.get : Slot → Message → Option (Value × Message)
  | .int, message => do
      let (value, message) ← buffGetInt message
      some (.int value, message)
  | .string str, message => do
      let (str, len, message) ← buffGetString str message
      some (.string str len, message)
  | .binary output, message => do
      let (output, len, message) ← buffGetBinary output message
      some (.binary output len, message)
  | .struct output size, message => do
      let (output, message) ← buffGetStruct output size message
      some (.struct output, message)

def getAll : List Slot → Message → Option (List Value × Message)
  | [], message => some ([], message)
  | slot :: slots, message => do
      let (value, message) ← slot.get message
      let (values, message) ← getAll slots message
      some (value :: values, message)

/-- The wire form of a field. -/
def Field.wire : Field → Bytes
  | .int input => intBytes input
  | .string str => intBytes (str.chars.length + 1) ++ (str.chars ++ [0])
  | .binary input len => intBytes len ++ input
  | .struct input _ => input

def wire (fields : List Field) : Bytes := fields.flatMap Field.wire

/-- An `int` argument is a 32-bit number; a blob or a struct comes with its length. -/
def Field.Valid : Field → Prop
  | .int input => -2 ^ 31 ≤ input ∧ input < 2 ^ 31
  | .string _ => True
  | .binary input len => len = input.length
  | .struct input size => size = input.length

/-- The getter of a put, with an object that has room for what it copies. -/
def Matches : Field → Slot → Prop
  | .int _, .int => True
  | .string sent, .string str => sent.chars.length + 1 ≤ str.length
  | .binary input _, .binary output => input.length ≤ output.length
  | .struct input size, .struct output wanted => wanted = size ∧ input.length ≤ output.length
  | _, _ => False

/-- The characters of an object up to its first NUL. -/
def cString (object : Bytes) : Bytes := object.takeWhile (fun char => char != 0)

/-- The getter has returned the value that was put. -/
def Returned : Field → Value → Prop
  | .int input, .int value => value = input
  | .string sent, .string str len => cString str = sent.chars ∧ len = sent.chars.length + 1
  | .binary input len, .binary output got => output.take input.length = input ∧ got = len
  | .struct input _, .struct output => output.take input.length = input
  | _, _ => False

/-- The encoding lies inside the buffer and its end is a C `int`. -/
def Fits (fields : List Field) (message : Message) : Prop :=
  0 ≤ message.offset ∧ message.offset + (wire fields).length ≤ message.buff.length ∧
    message.offset + (wire fields).length < 2 ^ 31

theorem bytesInt_intBytes {value : Int} (low : -2 ^ 31 ≤ value) (high : value < 2 ^ 31) :
    bytesInt (intBytes value) = value := by
  have small : (value % 2 ^ 32).toNat < 256 ^ 4 := by omega
  have wrapped : (value % ((2 ^ 32 : Nat) : Int)).bmod (2 ^ 32) = value.bmod (2 ^ 32) :=
    Int.emod_bmod ..
  calc
    _ = int32 ((value % 2 ^ 32).toNat : Int) := by
      rw [bytesInt, intBytes, ofLittleEndian_littleEndian, Nat.mod_eq_of_lt small]
    _ = int32 value := by
      rw [Int.toNat_of_nonneg (Int.emod_nonneg _ (by decide))]
      exact wrapped
    _ = value := int32_of_range low high

theorem intBytes_length (value : Int) : (intBytes value).length = 4 := by
  rw [intBytes, littleEndian_length]

section Put

variable (before after : Bytes) {old : Bytes}

theorem store_middle {data : Bytes} (same : old.length = data.length) :
    (Message.mk (before ++ old ++ after) before.length).store data =
      some ⟨before ++ data ++ after, before.length⟩ := by
  rw [Message.store, write_middle before after same]
  rfl

theorem fill_middle {data : Bytes} (same : old.length = data.length) :
    (Message.mk (before ++ old ++ after) before.length).fill data data.length =
      some ⟨before ++ data ++ after, before.length⟩ := by
  have whole : read data 0 data.length = some data := by
    simpa using read_middle [] data []
  rw [Message.fill, copy, whole, Option.bind_some, write_middle before after same]
  rfl

/-- A length-prefixed field: the length, then as many bytes. -/
theorem prefixed_middle {len : Int} {data : Bytes} (counted : len = data.length)
    (same : old.length = 4 + data.length) :
    ((Message.mk (before ++ old ++ after) before.length).store (intBytes len)).bind
        (fun message => ((message.advance 4).fill data len).bind
          (fun message => some (message.advance len))) =
      some ⟨before ++ (intBytes len ++ data) ++ after,
        before.length + (intBytes len ++ data).length⟩ := by
  subst counted
  have room : (old.take 4).length = (intBytes data.length).length := by
    rw [intBytes_length, List.length_take]
    omega
  have rest : (old.drop 4).length = data.length := by
    rw [List.length_drop]
    omega
  have stored := store_middle before (old.drop 4 ++ after) room
  have filled := fill_middle (before ++ intBytes data.length) after rest
  rw [List.append_assoc, ← List.append_assoc (old.take 4), List.take_append_drop,
    ← List.append_assoc] at stored
  rw [stored, Option.bind_some]
  have moved :
      (Message.mk (before ++ intBytes data.length ++ (old.drop 4 ++ after)) before.length).advance 4 =
        ⟨before ++ intBytes data.length ++ old.drop 4 ++ after,
          (before ++ intBytes data.length).length⟩ := by
    simp [Message.advance, intBytes_length]
  rw [moved, filled]
  simp [Message.advance, intBytes_length, Int.add_assoc]

theorem put_middle {field : Field} (valid : field.Valid) (same : old.length = field.wire.length)
    (small : (field.wire.length : Int) < 2 ^ 31) :
    field.put ⟨before ++ old ++ after, before.length⟩ =
      some ⟨before ++ field.wire ++ after, before.length + field.wire.length⟩ := by
  cases field with
  | int input =>
      simp only [Field.put, buffPutInt, Field.wire] at same ⊢
      rw [store_middle before after same]
      simp [Message.advance, intBytes_length]
  | string str =>
      simp only [Field.wire, List.length_append, intBytes_length] at same small
      have len : int32 (str.chars.length + 1) = str.chars.length + 1 :=
        int32_of_range (by omega) (by simp only [List.length_singleton] at small; omega)
      simp only [Field.put, buffPutString, len]
      exact prefixed_middle before after (by simp) (by simpa using same)
  | binary input len =>
      simp only [Field.wire, List.length_append, intBytes_length] at same
      exact prefixed_middle before after valid same
  | struct input size =>
      obtain rfl : size = input.length := valid
      simp only [Field.put, buffPutStruct, Field.wire] at same ⊢
      rw [fill_middle before after same]
      rfl

end Put

theorem putAll_middle {fields : List Field} (valid : ∀ field ∈ fields, field.Valid)
    (before after : Bytes) {old : Bytes} (same : old.length = (wire fields).length)
    (small : ((wire fields).length : Int) < 2 ^ 31) :
    putAll fields ⟨before ++ old ++ after, before.length⟩ =
      some ⟨before ++ wire fields ++ after, before.length + (wire fields).length⟩ := by
  induction fields generalizing before old with
  | nil =>
      obtain rfl : old = [] := List.eq_nil_of_length_eq_zero same
      simp [putAll, wire]
  | cons field fields ih =>
      have split : wire (field :: fields) = field.wire ++ wire fields := List.flatMap_cons
      rw [split, List.length_append] at same small
      obtain ⟨front, rest, rfl, frontLength⟩ : ∃ front rest, old = front ++ rest ∧
          front.length = field.wire.length :=
        ⟨old.take field.wire.length, old.drop field.wire.length,
          (List.take_append_drop _ _).symm, by rw [List.length_take]; omega⟩
      have restLength : rest.length = (wire fields).length := by
        rw [List.length_append] at same
        omega
      have first := put_middle before (rest ++ after) (valid field List.mem_cons_self)
        frontLength (by omega)
      have others := ih (fun other member => valid other (List.mem_cons_of_mem _ member))
        (before ++ field.wire) restLength (by omega)
      simp only [List.length_append, List.append_assoc, Int.natCast_add] at first others ⊢
      simp only [putAll, first, Option.bind_eq_bind, Option.bind_some, others, split,
        List.append_assoc, List.length_append, Int.natCast_add, Int.add_assoc]

section Get

variable (before after : Bytes)

theorem load_middle {value : Int} (low : -2 ^ 31 ≤ value) (high : value < 2 ^ 31) :
    (Message.mk (before ++ intBytes value ++ after) before.length).load = some value := by
  have bytes : read (before ++ intBytes value ++ after) before.length 4 = some (intBytes value) := by
    simpa [intBytes_length] using read_middle before (intBytes value) after
  rw [Message.load, bytes, Option.map_some, bytesInt_intBytes low high]

theorem copy_out {object data : Bytes} (room : data.length ≤ object.length) :
    copy object 0 (before ++ data ++ after) before.length data.length =
      some (data ++ object.drop data.length) := by
  have whole : write object 0 data = some (data ++ object.drop data.length) := by
    have taken : (object.take data.length).length = data.length := by
      rw [List.length_take]
      omega
    simpa [List.take_append_drop] using write_middle [] (object.drop data.length) taken
  rw [copy, read_middle, Option.bind_some, whole]

/-- After the length of a prefixed field has been read, its bytes are at the offset. -/
theorem prefix_read {data : Bytes} :
    (Message.mk (before ++ (intBytes data.length ++ data) ++ after) before.length).advance 4 =
      ⟨before ++ intBytes data.length ++ data ++ after,
        (before ++ intBytes data.length).length⟩ := by
  simp [Message.advance, intBytes_length]

theorem prefix_load {data : Bytes} (small : (data.length : Int) < 2 ^ 31) :
    (Message.mk (before ++ (intBytes data.length ++ data) ++ after) before.length).load =
      some (data.length : Int) := by
  have low : -2 ^ 31 ≤ (data.length : Int) := by omega
  simpa [List.append_assoc] using load_middle before (data ++ after) low small

theorem cString_terminated (sent : CString) (rest : Bytes) :
    cString (sent.chars ++ [0] ++ rest) = sent.chars := by
  have nonzero : ∀ char ∈ sent.chars, (char != 0) = true := by
    intro char member
    have plain := sent.plain
    simp only [bne_iff_ne, ne_eq]
    rintro rfl
    exact plain member
  rw [cString, List.append_assoc, List.takeWhile_append_of_pos nonzero]
  simp

theorem get_middle {field : Field} {slot : Slot} (valid : field.Valid)
    (room : Matches field slot) (small : (field.wire.length : Int) < 2 ^ 31) :
    ∃ value, Returned field value ∧
      slot.get ⟨before ++ field.wire ++ after, before.length⟩ =
        some (value, ⟨before ++ field.wire ++ after, before.length + field.wire.length⟩) := by
  cases field <;> cases slot <;> first | exact room.elim | skip
  case int.int input =>
      refine ⟨.int input, rfl, ?_⟩
      simp only [Slot.get, buffGetInt, Field.wire]
      rw [load_middle before after valid.1 valid.2]
      simp [Message.advance, intBytes_length]
  case string.string sent str =>
      have counted : (sent.chars.length : Int) + 1 = (sent.chars ++ [0]).length := by simp
      have fits : ((sent.chars ++ [0]).length : Int) < 2 ^ 31 := by
        rw [Field.wire, List.length_append] at small
        omega
      have enough : (sent.chars ++ [0]).length ≤ str.length := by
        simpa only [Matches, List.length_append, List.length_singleton] using room
      refine ⟨.string (sent.chars ++ [0] ++ str.drop (sent.chars ++ [0]).length)
        (sent.chars ++ [0]).length, ⟨cString_terminated sent _, by simp⟩, ?_⟩
      simp only [Slot.get, buffGetString, Field.wire, counted]
      simp only [prefix_load before after fits, prefix_read, copy_out _ after enough, Option.bind_eq_bind,
        Option.bind_some]
      simp [Message.advance, intBytes_length, Int.add_assoc]
  case binary.binary input len output =>
      obtain rfl : len = input.length := valid
      have fits : (input.length : Int) < 2 ^ 31 := by
        rw [Field.wire, List.length_append] at small
        omega
      refine ⟨.binary (input ++ output.drop input.length) input.length, ⟨by simp, rfl⟩, ?_⟩
      simp only [Slot.get, buffGetBinary, Field.wire]
      simp only [prefix_load before after fits, prefix_read, copy_out _ after room, Option.bind_eq_bind,
        Option.bind_some]
      simp [Message.advance, intBytes_length, Int.add_assoc]
  case struct.struct input size output wanted =>
      obtain rfl : size = input.length := valid
      obtain ⟨rfl, enough⟩ : wanted = (input.length : Int) ∧ input.length ≤ output.length := room
      refine ⟨.struct (input ++ output.drop input.length), by simp [Returned], ?_⟩
      simp only [Slot.get, buffGetStruct, Field.wire]
      rw [copy_out before after enough]
      rfl

end Get

theorem getAll_middle {fields : List Field} {slots : List Slot}
    (valid : ∀ field ∈ fields, field.Valid) (room : List.Forall₂ Matches fields slots)
    (before after : Bytes) (small : ((wire fields).length : Int) < 2 ^ 31) :
    ∃ values, List.Forall₂ Returned fields values ∧
      getAll slots ⟨before ++ wire fields ++ after, before.length⟩ =
        some (values, ⟨before ++ wire fields ++ after,
          before.length + (wire fields).length⟩) := by
  induction room generalizing before with
  | nil => exact ⟨[], List.Forall₂.nil, by simp [getAll, wire]⟩
  | @cons field slot fields slots head tail ih =>
      have split : wire (field :: fields) = field.wire ++ wire fields := List.flatMap_cons
      rw [split, List.length_append] at small
      obtain ⟨value, returned, got⟩ := get_middle before (wire fields ++ after)
        (valid field List.mem_cons_self) head (by omega)
      obtain ⟨values, others, rest⟩ :=
        ih (fun other member => valid other (List.mem_cons_of_mem _ member))
          (before ++ field.wire) (by omega)
      refine ⟨value :: values, List.Forall₂.cons returned others, ?_⟩
      simp only [List.length_append, List.append_assoc, Int.natCast_add] at got rest
      simp only [getAll, split, List.append_assoc, List.length_append, Int.natCast_add, got, rest,
        Option.bind_eq_bind, Option.bind_some, Int.add_assoc]

/-- Fields that fit are written inside the buffer, and the matching reads return their values
and end at the writer's offset. -/
theorem fields_round_trip (fields : List Field) (slots : List Slot) (message : Message)
    (valid : ∀ field ∈ fields, field.Valid) (room : List.Forall₂ Matches fields slots)
    (fits : Fits fields message) :
    ∃ written values, putAll fields message = some written ∧
      getAll slots ⟨written.buff, message.offset⟩ = some (values, written) ∧
      List.Forall₂ Returned fields values ∧
      written.offset = message.offset + (wire fields).length ∧
      written.buff.length = message.buff.length ∧
      ∀ index : Nat, (index : Int) < message.offset ∨ written.offset ≤ index →
        written.buff[index]? = message.buff[index]? := by
  obtain ⟨buff, offset⟩ := message
  obtain ⟨low, inside, small⟩ := fits
  obtain ⟨before, old, after, rfl, rfl, same⟩ := split_at_range ⟨low, inside⟩
  have short : ((wire fields).length : Int) < 2 ^ 31 := by
    simp only at small
    omega
  have put := putAll_middle valid before after same short
  obtain ⟨values, returned, got⟩ := getAll_middle valid room before after short
  refine ⟨_, values, put, got, returned, rfl, ?_, ?_⟩
  · simp [same]
  · intro index outside
    exact write_outside (write_middle before after same) outside

theorem int_string_blob_struct_round_trip :
    ∃ written values,
      putAll [.int (-7), .string ⟨bytes "apn", by decide⟩, .binary [1, 0, 2] 3, .struct [9, 9] 2]
        ⟨List.replicate 40 255, 3⟩ = some written ∧
      getAll [.int, .string (List.replicate 8 1), .binary (List.replicate 3 1),
        .struct (List.replicate 4 1) 2] ⟨written.buff, 3⟩ = some (values, written) ∧
      List.Forall₂ Returned [.int (-7), .string ⟨bytes "apn", by decide⟩, .binary [1, 0, 2] 3,
        .struct [9, 9] 2] values ∧
      written.offset = 3 + 21 ∧ written.buff.length = 40 ∧
      ∀ index : Nat, (index : Int) < 3 ∨ written.offset ≤ index →
        written.buff[index]? = (List.replicate 40 255)[index]? :=
  fields_round_trip _ _ ⟨List.replicate 40 255, 3⟩
    (by simp [Field.Valid]) (by simp [Matches, bytes]) ⟨by decide, by decide, by decide⟩

end X5MaxDevice.Gps.Codec
