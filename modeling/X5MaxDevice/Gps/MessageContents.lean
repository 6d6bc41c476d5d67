import X5MaxDevice.Gps.AgpsMessages

/-! What the messages to mnld carry: two requests that leave the same bytes in their buffers
carry the same information. -/

namespace X5MaxDevice.Gps.MessageContents

open X5MaxDevice.Gps.AgpsMessages
open X5MaxDevice.Gps.Codec
open X5MaxDevice.Gps.Tokenizer
open X5MaxDevice.Memory

/-- Fields that one sequence of reads takes; a struct has no length of its own. -/
def SameShape : Field → Field → Prop
  | .int _, .int _ => True
  | .string _, .string _ => True
  | .binary _ _, .binary _ _ => True
  | .struct _ size, .struct _ size' => size = size'
  | _, _ => False

/-- The wire form of a field is shorter than a C `int` can say. -/
def Small (field : Field) : Prop := (field.wire.length : Int) < 2 ^ 31

section Wire

variable {front front' back back' : Bytes}

theorem intBytes_append_inj {value value' : Int} (low : -2 ^ 31 ≤ value) (high : value < 2 ^ 31)
    (low' : -2 ^ 31 ≤ value') (high' : value' < 2 ^ 31)
    (same : intBytes value ++ back = intBytes value' ++ back') : value = value' ∧ back = back' := by
  have count : (intBytes value).length = (intBytes value').length := by
    rw [intBytes_length, intBytes_length]
  obtain ⟨ints, rest⟩ := List.append_inj same count
  refine ⟨?_, rest⟩
  calc value = bytesInt (intBytes value) := (bytesInt_intBytes low high).symm
    _ = bytesInt (intBytes value') := by rw [ints]
    _ = value' := bytesInt_intBytes low' high'

/-- A length and as many bytes. -/
theorem prefixed_append_inj (small : (front.length : Int) < 2 ^ 31)
    (small' : (front'.length : Int) < 2 ^ 31)
    (same : intBytes front.length ++ (front ++ back) = intBytes front'.length ++ (front' ++ back')) :
    front = front' ∧ back = back' := by
  have low (n : Nat) : (-2 ^ 31 : Int) ≤ n := by omega
  obtain ⟨count, rest⟩ := intBytes_append_inj (low _) small (low _) small' same
  exact List.append_inj rest (Int.ofNat_inj.mp count)

/-- The end of a field can be told from its bytes. -/
theorem field_append_inj {field field' : Field} (valid : field.Valid) (valid' : field'.Valid)
    (small : Small field) (small' : Small field') (shape : SameShape field field')
    (same : field.wire ++ back = field'.wire ++ back') : field = field' ∧ back = back' := by
  cases field <;> cases field' <;> simp only [SameShape] at shape
  case int.int value value' =>
      obtain ⟨values, rest⟩ := intBytes_append_inj valid.1 valid.2 valid'.1 valid'.2 same
      exact ⟨by rw [values], rest⟩
  case string.string str str' =>
      simp only [Small, Field.wire, List.length_append, intBytes_length] at small small'
      have framed (text : CString) (rest : Bytes) : (Field.string text).wire ++ rest =
          intBytes (text.chars ++ [0]).length ++ ((text.chars ++ [0]) ++ rest) := by
        simp [Field.wire]
      rw [framed, framed] at same
      have short : ((str.chars ++ [0]).length : Int) < 2 ^ 31 := by
        rw [List.length_append]
        omega
      have short' : ((str'.chars ++ [0]).length : Int) < 2 ^ 31 := by
        rw [List.length_append]
        omega
      obtain ⟨texts, rest⟩ := prefixed_append_inj short short' same
      have chars := List.append_cancel_right texts
      refine ⟨?_, rest⟩
      cases str
      cases str'
      simp_all
  case binary.binary input len input' len' =>
      obtain rfl : len = input.length := valid
      obtain rfl : len' = input'.length := valid'
      simp only [Small, Field.wire, List.length_append, intBytes_length] at small small'
      simp only [Field.wire, List.append_assoc] at same
      obtain ⟨inputs, rest⟩ := prefixed_append_inj (by omega) (by omega) same
      exact ⟨by rw [inputs], rest⟩
  case struct.struct input size input' size' =>
      obtain rfl : size = input.length := valid
      obtain rfl : size' = input'.length := valid'
      obtain ⟨rfl, rest⟩ := List.append_inj (show input ++ back = input' ++ back' from same)
        (Int.ofNat_inj.mp shape)
      exact ⟨rfl, rest⟩

/-- Fields of one shape can be told from the bytes they leave, whatever follows them. -/
theorem wire_append_inj {fields fields' : List Field}
    (shapes : List.Forall₂ SameShape fields fields')
    (valid : ∀ field ∈ fields, field.Valid ∧ Small field)
    (valid' : ∀ field ∈ fields', field.Valid ∧ Small field)
    (same : wire fields ++ back = wire fields' ++ back') : fields = fields' ∧ back = back' := by
  induction shapes with
  | nil => exact ⟨rfl, same⟩
  | @cons field field' fields fields' head _ ih =>
      simp only [wire, List.flatMap_cons, List.append_assoc] at same
      obtain ⟨first, first'⟩ := valid field List.mem_cons_self
      obtain ⟨second, second'⟩ := valid' field' List.mem_cons_self
      obtain ⟨rfl, rest⟩ := field_append_inj first second first' second' head same
      obtain ⟨rfl, others⟩ := ih (fun other member => valid other (List.mem_cons_of_mem _ member))
        (fun other member => valid' other (List.mem_cons_of_mem _ member)) rest
      exact ⟨rfl, others⟩

end Wire

/-- The information of a request. Of an array of certificates or fingerprints the code puts as
many bytes as the array has elements; a missing string is sent as an empty one. -/
inductive Content where
  | dataConnOpen (apn : CString)
  | dataConnOpenWithApnIpType (apn : CString) (apnIpType : Int)
  | dataConnClosed
  | dataConnFailed
  | setServer (type : Int) (hostname : CString) (port : Int)
  | installCertificates (length : Nat) (front : Bytes)
  | revokeCertificates (length : Nat) (front : Bytes)
  | niRespond (notifId userResponse : Int)
  | setRefLocation (agpsReflocation : AGpsRefLocation) (szStruct : Int)
  | setSetId (type : Int) (setid : CString)
  | niMessage (msg : Bytes)
  | updateNetworkState (connected type roaming : Int) (extraInfo : CString)
  | updateNetworkAvailability (avaiable : Int) (apn : CString)

def content : Request → Content
  | .dataConnOpen apn => .dataConnOpen apn
  | .dataConnOpenWithApnIpType apn apnIpType => .dataConnOpenWithApnIpType apn apnIpType
  | .dataConnClosed => .dataConnClosed
  | .dataConnFailed => .dataConnFailed
  | .setServer type hostname port => .setServer type hostname port
  | .installCertificates certificates =>
      .installCertificates certificates.length
        ((certificates.flatMap DerEncodedCertificate.memory).take certificates.length)
  | .revokeCertificates fingerprints =>
      .revokeCertificates fingerprints.length
        ((fingerprints.flatMap Sha1CertificateFingerprint.data).take fingerprints.length)
  | .niRespond notifId userResponse => .niRespond notifId userResponse
  | .setRefLocation agpsReflocation szStruct => .setRefLocation agpsReflocation (int32 szStruct)
  | .setSetId type setid => .setSetId type setid
  | .niMessage msg => .niMessage msg
  | .updateNetworkState _ connected type roaming extraInfo =>
      .updateNetworkState connected type roaming (extraInfo.getD emptyString)
  | .updateNetworkAvailability avaiable apn =>
      .updateNetworkAvailability avaiable (apn.getD emptyString)

/-- The bytes that a content takes, field by field. -/
def Content.fields : Content → List Field
  | .dataConnOpen apn => [.int agpsFrameworkInfoDataConnOpen, .string apn]
  | .dataConnOpenWithApnIpType apn apnIpType =>
      [.int agpsFrameworkInfoDataConnOpenIpType, .string apn, .int apnIpType]
  | .dataConnClosed => [.int agpsFrameworkInfoDataConnClosed]
  | .dataConnFailed => [.int agpsFrameworkInfoDataConnFailed]
  | .setServer type hostname port =>
      [.int agpsFrameworkInfoSetServer, .int type, .string hostname, .int port]
  | .installCertificates length front =>
      [.int agpsFrameworkInfoInstallCertificates, .int length, .struct front length]
  | .revokeCertificates length front =>
      [.int agpsFrameworkInfoRevokeCertificates, .int length, .struct front length]
  | .niRespond notifId userResponse =>
      [.int agpsFrameworkInfoNiRespond, .int notifId, .int userResponse]
  | .setRefLocation agpsReflocation szStruct =>
      [.int agpsFrameworkInfoSetRefLoc, .struct agpsReflocation.memory 16, .int szStruct]
  | .setSetId type setid => [.int agpsFrameworkInfoSetSetId, .int type, .string setid]
  | .niMessage msg => [.int agpsFrameworkInfoNiMessage, .binary msg msg.length]
  | .updateNetworkState connected type roaming extraInfo =>
      [.int agpsFrameworkInfoUpdateNetworkState, .int connected, .int type, .int roaming,
        .string extraInfo]
  | .updateNetworkAvailability avaiable apn =>
      [.int agpsFrameworkInfoUpdateNetworkAvailability, .int avaiable, .string apn]

/-- A C `int`. -/
def IsInt (value : Int) : Prop := -2 ^ 31 ≤ value ∧ value < 2 ^ 31

instance (value : Int) : Decidable (IsInt value) := inferInstanceAs (Decidable (_ ∧ _))

/-- Arguments of the C types, in objects of less than two gigabytes. -/
def WellFormed : Request → Prop
  | .dataConnOpen apn => IsInt (apn.chars.length + 1)
  | .dataConnOpenWithApnIpType apn apnIpType => IsInt (apn.chars.length + 1) ∧ IsInt apnIpType
  | .dataConnClosed | .dataConnFailed => True
  | .setServer type hostname port =>
      IsInt type ∧ IsInt (hostname.chars.length + 1) ∧ IsInt port
  | .installCertificates certificates => IsInt certificates.length
  | .revokeCertificates fingerprints => IsInt fingerprints.length
  | .niRespond notifId userResponse => IsInt notifId ∧ IsInt userResponse
  | .setRefLocation _ _ => True
  | .setSetId type setid => IsInt type ∧ IsInt (setid.chars.length + 1)
  | .niMessage msg => IsInt msg.length
  | .updateNetworkState _ connected type roaming extraInfo =>
      IsInt connected ∧ IsInt type ∧ IsInt roaming ∧
        IsInt ((extraInfo.getD emptyString).chars.length + 1)
  | .updateNetworkAvailability avaiable apn =>
      IsInt avaiable ∧ IsInt ((apn.getD emptyString).chars.length + 1)

section Requests

variable {request : Request}

theorem int32_of_isInt {value : Int} (int : IsInt value) : int32 value = value :=
  int32_of_range int.1 int.2

/-- A struct put reads no more than its size. -/
theorem struct_take {input : Bytes} {count : Nat} (supplied : count ≤ input.length)
    (message : Message) :
    buffPutStruct input count message = buffPutStruct (input.take count) count message := by
  have whole : Memory.read input 0 count = some (input.take count) := by
    simp [Memory.read, supplied]
  have front : Memory.read (input.take count) 0 count = some (input.take count) := by
    simp [Memory.read, supplied, List.take_take]
  simp only [buffPutStruct, Message.fill, copy, whole, front]

theorem certificates_supplied (certificates : List DerEncodedCertificate) :
    certificates.length ≤ (certificates.flatMap DerEncodedCertificate.memory).length :=
  length_flatMap_ge certificates _ fun certificate => by simp [DerEncodedCertificate.memory]

theorem fingerprints_supplied (fingerprints : List Sha1CertificateFingerprint) :
    fingerprints.length ≤ (fingerprints.flatMap Sha1CertificateFingerprint.data).length :=
  length_flatMap_ge fingerprints _ fun fingerprint => by rw [fingerprint.size]; decide

/-- The puts of a request are the puts of its content. -/
theorem putAll_content (formed : WellFormed request) (message : Message) :
    putAll request.fields message = putAll (content request).fields message := by
  cases request
  case installCertificates certificates =>
      have put := fun message => struct_take (certificates_supplied certificates) message
      simp only [Request.fields, content, Content.fields, int32_of_isInt formed, putAll, Field.put,
        put]
  case revokeCertificates fingerprints =>
      have put := fun message => struct_take (fingerprints_supplied fingerprints) message
      simp only [Request.fields, content, Content.fields, int32_of_isInt formed, putAll, Field.put,
        put]
  case niMessage msg =>
      simp only [Request.fields, content, Content.fields, int32_of_isInt formed]
  all_goals rfl

theorem int32_isInt (value : Int) : IsInt (int32 value) := by
  unfold int32
  constructor
  · have low := Int.le_bmod (x := value) (show 0 < 2 ^ 32 by decide)
    omega
  · have high := Int.bmod_lt (x := value) (show 0 < 2 ^ 32 by decide)
    omega

theorem struct_valid {input : Bytes} {count : Nat} (supplied : count ≤ input.length) :
    (Field.struct (input.take count) count).Valid := by
  show (count : Int) = (input.take count).length
  rw [List.length_take, Nat.min_eq_left supplied]

theorem content_valid (formed : WellFormed request) :
    ∀ field ∈ (content request).fields, field.Valid := by
  have int {value : Int} : (Field.int value).Valid ↔ IsInt value := Iff.rfl
  have string {str : CString} : (Field.string str).Valid := trivial
  cases request
  case installCertificates certificates =>
      have supplied := certificates_supplied certificates
      simp only [content, Content.fields, List.forall_mem_cons, List.not_mem_nil, false_imp_iff,
        implies_true, and_true]
      exact ⟨int.mpr (by decide), int.mpr formed, struct_valid supplied⟩
  case revokeCertificates fingerprints =>
      have supplied := fingerprints_supplied fingerprints
      simp only [content, Content.fields, List.forall_mem_cons, List.not_mem_nil, false_imp_iff,
        implies_true, and_true]
      exact ⟨int.mpr (by decide), int.mpr formed, struct_valid supplied⟩
  case setRefLocation agpsReflocation szStruct =>
      simp only [content, Content.fields, List.forall_mem_cons, List.not_mem_nil, false_imp_iff,
        implies_true, and_true]
      exact ⟨int.mpr (by decide), congrArg Int.ofNat agpsReflocation.size.symm,
        int.mpr (int32_isInt szStruct)⟩
  case niMessage msg =>
      simp only [content, Content.fields, List.forall_mem_cons, List.not_mem_nil, false_imp_iff,
        implies_true, and_true]
      exact ⟨int.mpr (by decide), rfl⟩
  all_goals
    simp only [content, Content.fields, List.forall_mem_cons, List.not_mem_nil, false_imp_iff,
      implies_true, and_true, int, string]
  case dataConnClosed | dataConnFailed => decide
  case dataConnOpen => exact by decide
  all_goals
    refine ⟨by decide, ?_⟩
    simp only [WellFormed] at formed
    tauto

/-- The fields of a content take as much as the puts of its request advance. -/
theorem content_total (formed : WellFormed request) :
    total request.fields = (wire (content request).fields).length := by
  cases request
  case installCertificates certificates =>
      have supplied := certificates_supplied certificates
      simp only [Request.fields, content, Content.fields, total, advance, wire, Field.wire,
        List.flatMap_cons, List.flatMap_nil, List.length_append, intBytes_length, List.length_nil,
        List.length_take, Nat.min_eq_left supplied, int32_of_isInt formed]
      omega
  case revokeCertificates fingerprints =>
      have supplied := fingerprints_supplied fingerprints
      simp only [Request.fields, content, Content.fields, total, advance, wire, Field.wire,
        List.flatMap_cons, List.flatMap_nil, List.length_append, intBytes_length, List.length_nil,
        List.length_take, Nat.min_eq_left supplied, int32_of_isInt formed]
      omega
  case setRefLocation agpsReflocation szStruct =>
      simp [Request.fields, content, Content.fields, total, advance, wire, Field.wire,
        intBytes_length, agpsReflocation.size]
  all_goals
    simp only [WellFormed] at formed
    simp only [Request.fields, content, Content.fields, total, advance, wire, Field.wire,
      List.flatMap_cons, List.flatMap_nil, List.length_append, intBytes_length, List.length_nil,
      List.length_singleton]
  case dataConnOpen apn =>
      rw [int32_of_isInt formed]
      omega
  case dataConnOpenWithApnIpType apn apnIpType =>
      rw [int32_of_isInt formed.1]
      omega
  case setServer type hostname port =>
      rw [int32_of_isInt formed.2.1]
      omega
  case setSetId type setid =>
      rw [int32_of_isInt formed.2]
      omega
  case niMessage msg =>
      rw [int32_of_isInt formed]
      omega
  case updateNetworkState network connected type roaming extraInfo =>
      rw [int32_of_isInt formed.2.2.2]
      omega
  case updateNetworkAvailability avaiable apn =>
      rw [int32_of_isInt formed.2]
      omega
  all_goals rfl

/-- A request that stays in its buffer leaves its content there, in front of zeros. -/
theorem sent_buff (formed : WellFormed request) (inside : InBounds request) {front : List Message}
    {message : Message} (sent : request.encode = some (front ++ [message])) :
    (wire (content request).fields).length ≤ 1024 ∧
      message.buff = wire (content request).fields ++
        List.replicate (1024 - (wire (content request).fields).length) 0 := by
  have bounded : ((wire (content request).fields).length : Int) ≤ 1024 := by
    rw [← content_total formed]
    exact ((inBounds_iff_fields request).mp inside).2
  refine ⟨by omega, ?_⟩
  generalize count : (wire (content request).fields).length = used at bounded
  have short : used ≤ 1024 := by omega
  have zeros : List.replicate 1024 (0 : UInt8) =
      [] ++ List.replicate used 0 ++ List.replicate (1024 - used) 0 := by
    rw [List.nil_append, List.replicate_append_replicate, Nat.add_sub_cancel' short]
  have put := putAll_middle (content_valid formed) [] (List.replicate (1024 - used) 0)
    (show (List.replicate used (0 : UInt8)).length = (wire (content request).fields).length by
      rw [List.length_replicate, count]) (by omega)
  obtain ⟨before, _, encoded⟩ := encode_fields request
  have start : blank = ⟨[] ++ List.replicate used 0 ++ List.replicate (1024 - used) 0,
      ([] : Bytes).length⟩ := by
    rw [blank, zeros]
    rfl
  rw [encoded, putAll_content formed, start, put, Option.map_some, Option.some_inj] at sent
  obtain ⟨-, last⟩ := List.append_inj' sent rfl
  cases last
  rw [List.nil_append]

theorem content_small (formed : WellFormed request) (inside : InBounds request) :
    ∀ field ∈ (content request).fields, Small field := by
  intro field member
  have bounded : total request.fields ≤ 1024 := ((inBounds_iff_fields request).mp inside).2
  rw [content_total formed] at bounded
  have part : field.wire.length ≤ (wire (content request).fields).length := by
    obtain ⟨before, after, split⟩ := List.append_of_mem member
    rw [split, wire, List.flatMap_append, List.flatMap_cons, List.length_append, List.length_append]
    omega
  show (field.wire.length : Int) < 2 ^ 31
  omega

end Requests

/-- Every message begins with its command. -/
theorem fields_command (sent : Content) :
    ∃ command fields, sent.fields = .int command :: fields := by
  cases sent <;> exact ⟨_, _, rfl⟩

section Same

variable {fields fields' : List Field} {back back' : Bytes}

theorem head_of_wire {value value' : Int}
    (valid : ∀ field ∈ Field.int value :: fields, field.Valid ∧ Small field)
    (valid' : ∀ field ∈ Field.int value' :: fields', field.Valid ∧ Small field)
    (same : wire (.int value :: fields) ++ back = wire (.int value' :: fields') ++ back') :
    value = value' ∧ wire fields ++ back = wire fields' ++ back' := by
  simp only [wire, List.flatMap_cons, List.append_assoc] at same
  obtain ⟨first, first'⟩ := valid _ List.mem_cons_self
  obtain ⟨second, second'⟩ := valid' _ List.mem_cons_self
  obtain ⟨heads, rest⟩ := field_append_inj first second first' second' trivial same
  exact ⟨Field.int.inj heads, rest⟩

/-- A count and a struct of that size. -/
theorem counted_of_wire {length length' : Nat} {front front' : Bytes} {command : Int}
    (valid : ∀ field ∈ [.int command, .int length, Field.struct front length],
      field.Valid ∧ Small field)
    (valid' : ∀ field ∈ [.int command, .int length', Field.struct front' length'],
      field.Valid ∧ Small field)
    (same : wire [.int command, .int length, .struct front length] ++ back =
      wire [.int command, .int length', .struct front' length'] ++ back') :
    length = length' ∧ front = front' := by
  obtain ⟨-, counts⟩ := head_of_wire valid valid' same
  have later := fun field member => valid field (List.mem_cons_of_mem _ member)
  have later' := fun field member => valid' field (List.mem_cons_of_mem _ member)
  obtain ⟨count, structs⟩ := head_of_wire later later' counts
  have last := fun field member => later field (List.mem_cons_of_mem _ member)
  have last' := fun field member => later' field (List.mem_cons_of_mem _ member)
  have shape : SameShape (.struct front length) (.struct front' length') := count
  obtain ⟨fronts, -⟩ := wire_append_inj (List.Forall₂.cons shape List.Forall₂.nil) last last' structs
  simp only [List.cons.injEq, Field.struct.injEq, and_true] at fronts
  exact ⟨Int.ofNat_inj.mp count, fronts.1⟩

/-- Messages with one command have fields of one shape, except for the structs that are as long
as the count before them says. -/
theorem content_of_wire {sent sent' : Content}
    (valid : ∀ field ∈ sent.fields, field.Valid ∧ Small field)
    (valid' : ∀ field ∈ sent'.fields, field.Valid ∧ Small field)
    (same : wire sent.fields ++ back = wire sent'.fields ++ back') : sent = sent' := by
  have commands : sent.fields.head? = sent'.fields.head? := by
    obtain ⟨command, rest, begins⟩ := fields_command sent
    obtain ⟨command', rest', begins'⟩ := fields_command sent'
    rw [begins] at valid same ⊢
    rw [begins'] at valid' same ⊢
    rw [(head_of_wire valid valid' same).1]
    rfl
  cases sent <;> cases sent' <;> simp only [Content.fields, List.head?_cons, Option.some.injEq,
    Field.int.injEq] at commands <;> try (exact absurd commands (by decide))
  case installCertificates.installCertificates =>
      obtain ⟨rfl, rfl⟩ := counted_of_wire valid valid' same
      rfl
  case revokeCertificates.revokeCertificates =>
      obtain ⟨rfl, rfl⟩ := counted_of_wire valid valid' same
      rfl
  case setRefLocation.setRefLocation agpsReflocation _ agpsReflocation' _ =>
      obtain ⟨fields, -⟩ := wire_append_inj (by simp [Content.fields, SameShape]) valid valid' same
      cases agpsReflocation
      cases agpsReflocation'
      simp_all [Content.fields]
  all_goals
    obtain ⟨fields, -⟩ := wire_append_inj (by simp [Content.fields, SameShape]) valid valid' same
    simp_all [Content.fields]

end Same

/-- The bytes of the last message of a request. -/
def mainBuff (request : Request) : Option Bytes :=
  (request.encode.bind List.getLast?).map Message.buff

theorem mainBuff_content {request : Request} (formed : WellFormed request)
    (inside : InBounds request) :
    mainBuff request = some (wire (content request).fields ++
      List.replicate (1024 - (wire (content request).fields).length) 0) := by
  obtain ⟨front, -, encoded⟩ := encode_fields request
  obtain ⟨messages, done, small⟩ := inside
  rw [done] at encoded
  obtain ⟨message, -, ends⟩ := Option.map_eq_some_iff.mp encoded.symm
  subst ends
  have buff := (sent_buff formed ⟨_, done, small⟩ done).2
  rw [mainBuff, done]
  simp [buff]

/-- The main messages of two requests that stay in their buffers are the same bytes exactly if
the requests carry the same information. -/
theorem same_message_iff {first second : Request} (formed : WellFormed first)
    (formed' : WellFormed second) (inside : InBounds first) (inside' : InBounds second) :
    mainBuff first = mainBuff second ↔ content first = content second := by
  rw [mainBuff_content formed inside, mainBuff_content formed' inside', Option.some_inj]
  constructor
  · intro same
    have told {request : Request} (formed : WellFormed request) (inside : InBounds request) :
        ∀ field ∈ (content request).fields, field.Valid ∧ Small field := fun field member =>
      ⟨content_valid formed field member, content_small formed inside field member⟩
    exact content_of_wire (told formed inside) (told formed' inside') same
  · intro same
    rw [same]

def fingerprint (last : UInt8) : Sha1CertificateFingerprint :=
  ⟨List.replicate 19 7 ++ [last], by simp⟩

/-- Of one revoked fingerprint only the first byte is sent. -/
theorem same_message_of_fingerprints :
    mainBuff (.revokeCertificates [fingerprint 1]) =
      mainBuff (.revokeCertificates [fingerprint 2]) := by
  have formed (last : UInt8) : WellFormed (.revokeCertificates [fingerprint last]) := by
    simp [WellFormed, IsInt]
  have inside (last : UInt8) : InBounds (.revokeCertificates [fingerprint last]) := by
    have count : int32 1 = 1 := by decide
    refine (inBounds_iff_fields _).mpr ?_
    simp [Request.fields, payload, total, advance, count]
  exact (same_message_iff (formed 1) (formed 2) (inside 1) (inside 2)).mpr rfl

end X5MaxDevice.Gps.MessageContents
