import X5MaxDevice.Gps.Codec

/-! The AGPS, AGPS-RIL, NI and SUPL-certificate requests to mnld and the room their fields
take in the message buffer. -/

namespace X5MaxDevice.Gps.AgpsMessages

open X5MaxDevice.Gps.Codec
open X5MaxDevice.Gps.Tokenizer
open X5MaxDevice.Memory

def mnlCmdGpsNlpLocationReq : Int := 0x4a
def agpsFrameworkInfoDataConnOpen : Int := 125
def agpsFrameworkInfoDataConnFailed : Int := 126
def agpsFrameworkInfoDataConnClosed : Int := 127
def agpsFrameworkInfoNiMessage : Int := 128
def agpsFrameworkInfoNiRespond : Int := 129
def agpsFrameworkInfoSetRefLoc : Int := 130
def agpsFrameworkInfoSetSetId : Int := 131
def agpsFrameworkInfoSetServer : Int := 132
def agpsFrameworkInfoUpdateNetworkState : Int := 133
def agpsFrameworkInfoUpdateNetworkAvailability : Int := 134
def agpsFrameworkInfoDataConnOpenIpType : Int := 135
def agpsFrameworkInfoInstallCertificates : Int := 136
def agpsFrameworkInfoRevokeCertificates : Int := 137

def nwWifi : Int := 1

/-- `char buff[1024] = {0}` and the offset 0. -/
def blank : Message := ⟨List.replicate 1024 0, 0⟩

/-- On the 64-bit platform a `size_t` and a pointer take eight bytes each. -/
structure DerEncodedCertificate where
  length : Nat
  data : Nat
  deriving DecidableEq, Repr

def DerEncodedCertificate.memory (certificate : DerEncodedCertificate) : Bytes :=
  littleEndian 8 certificate.length ++ littleEndian 8 certificate.data

structure Sha1CertificateFingerprint where
  data : Bytes
  size : data.length = 20
  deriving DecidableEq

/-- The bytes of an `AGpsRefLocation`: its type, padding and the union of both forms. -/
structure AGpsRefLocation where
  memory : Bytes
  size : memory.length = 16
  deriving DecidableEq

structure NetworkState where
  nwConnected : Int
  nwType : Int
  deriving DecidableEq, Repr

def emptyString : CString := ⟨[], by decide⟩

def agpsDataConnOpen (apn : CString) : Option Message :=
  putAll [.int agpsFrameworkInfoDataConnOpen, .string apn] blank

def agpsDataConnOpenWithApnIpType (apn : CString) (apnIpType : Int) : Option Message :=
  putAll [.int agpsFrameworkInfoDataConnOpenIpType, .string apn, .int apnIpType] blank

def agpsDataConnClosed : Option Message := putAll [.int agpsFrameworkInfoDataConnClosed] blank

def agpsDataConnFailed : Option Message := putAll [.int agpsFrameworkInfoDataConnFailed] blank

def agpsSetServer (type : Int) (hostname : CString) (port : Int) : Option Message :=
  putAll [.int agpsFrameworkInfoSetServer, .int type, .string hostname, .int port] blank

/-- The struct that is put is the first `length` bytes of the array. -/
def agpsInstallCertificates (certificates : List DerEncodedCertificate) : Option Message :=
  let length := int32 certificates.length
  putAll [.int agpsFrameworkInfoInstallCertificates, .int length,
    .struct (certificates.flatMap DerEncodedCertificate.memory) length] blank

def agpsRevokeCertificates (fingerprints : List Sha1CertificateFingerprint) : Option Message :=
  let length := int32 fingerprints.length
  putAll [.int agpsFrameworkInfoRevokeCertificates, .int length,
    .struct (fingerprints.flatMap Sha1CertificateFingerprint.data) length] blank

def gpsNiRespond (notifId userResponse : Int) : Option Message :=
  putAll [.int agpsFrameworkInfoNiRespond, .int notifId, .int userResponse] blank

def agpsRilSetRefLocation (agpsReflocation : AGpsRefLocation) (szStruct : Nat) : Option Message :=
  putAll [.int agpsFrameworkInfoSetRefLoc, .struct agpsReflocation.memory 16,
    .int (int32 szStruct)] blank

def agpsRilSetSetId (type : Int) (setid : CString) : Option Message :=
  putAll [.int agpsFrameworkInfoSetSetId, .int type, .string setid] blank

def agpsRilNiMessage (msg : Bytes) : Option Message :=
  putAll [.int agpsFrameworkInfoNiMessage, .binary msg (int32 msg.length)] blank

def agpsNetworkConnectedWifiTraggerNlp : Option Message :=
  putAll [.int mnlCmdGpsNlpLocationReq] blank

/-- The location request goes out first, in a buffer of its own, when wifi comes up. -/
def agpsRilUpdateNetworkState (network : NetworkState) (connected type roaming : Int)
    (extraInfo : Option CString) : Option (List Message × NetworkState) := do
  let requests ←
    if network.nwConnected = 0 ∧ connected = 1 ∧ type = nwWifi then
      agpsNetworkConnectedWifiTraggerNlp.map (fun request => [request])
    else some []
  let message ← putAll [.int agpsFrameworkInfoUpdateNetworkState, .int connected, .int type,
    .int roaming, .string (extraInfo.getD emptyString)] blank
  some (requests ++ [message], ⟨connected, type⟩)

def agpsRilUpdateNetworkAvailability (avaiable : Int) (apn : Option CString) : Option Message :=
  putAll [.int agpsFrameworkInfoUpdateNetworkAvailability, .int avaiable,
    .string (apn.getD emptyString)] blank

/-- A call of an entry point that serialises its arguments. -/
inductive Request where
  | dataConnOpen (apn : CString)
  | dataConnOpenWithApnIpType (apn : CString) (apnIpType : Int)
  | dataConnClosed
  | dataConnFailed
  | setServer (type : Int) (hostname : CString) (port : Int)
  | installCertificates (certificates : List DerEncodedCertificate)
  | revokeCertificates (fingerprints : List Sha1CertificateFingerprint)
  | niRespond (notifId userResponse : Int)
  | setRefLocation (agpsReflocation : AGpsRefLocation) (szStruct : Nat)
  | setSetId (type : Int) (setid : CString)
  | niMessage (msg : Bytes)
  | updateNetworkState (network : NetworkState) (connected type roaming : Int)
      (extraInfo : Option CString)
  | updateNetworkAvailability (avaiable : Int) (apn : Option CString)

/-- The messages that a request hands to mnld; `none` when it leaves its buffer. -/
def Request.encode : Request → Option (List Message)
  | .dataConnOpen apn => (agpsDataConnOpen apn).map (fun message => [message])
  | .dataConnOpenWithApnIpType apn apnIpType =>
      (agpsDataConnOpenWithApnIpType apn apnIpType).map (fun message => [message])
  | .dataConnClosed => agpsDataConnClosed.map (fun message => [message])
  | .dataConnFailed => agpsDataConnFailed.map (fun message => [message])
  | .setServer type hostname port =>
      (agpsSetServer type hostname port).map (fun message => [message])
  | .installCertificates certificates =>
      (agpsInstallCertificates certificates).map (fun message => [message])
  | .revokeCertificates fingerprints =>
      (agpsRevokeCertificates fingerprints).map (fun message => [message])
  | .niRespond notifId userResponse =>
      (gpsNiRespond notifId userResponse).map (fun message => [message])
  | .setRefLocation agpsReflocation szStruct =>
      (agpsRilSetRefLocation agpsReflocation szStruct).map (fun message => [message])
  | .setSetId type setid => (agpsRilSetSetId type setid).map (fun message => [message])
  | .niMessage msg => (agpsRilNiMessage msg).map (fun message => [message])
  | .updateNetworkState network connected type roaming extraInfo =>
      (agpsRilUpdateNetworkState network connected type roaming extraInfo).map Prod.fst
  | .updateNetworkAvailability avaiable apn =>
      (agpsRilUpdateNetworkAvailability avaiable apn).map (fun message => [message])

/-- Every message of the request is written inside its buffer of 1024 bytes. -/
def InBounds (request : Request) : Prop :=
  ∃ messages, request.encode = some messages ∧ ∀ message ∈ messages, message.offset ≤ 1024

/-- A length that, as a C `int`, is not negative and fits beside `used` bytes. -/
def Room (used : Int) (length : Int) : Prop := 0 ≤ int32 length ∧ used + int32 length ≤ 1024

/-- The variable part of a request fits beside its other fields. -/
def HasRoom : Request → Prop
  | .dataConnOpen apn => Room 8 (apn.chars.length + 1)
  | .dataConnOpenWithApnIpType apn _ => Room 12 (apn.chars.length + 1)
  | .setServer _ hostname _ => Room 16 (hostname.chars.length + 1)
  | .installCertificates certificates => Room 8 certificates.length
  | .revokeCertificates fingerprints => Room 8 fingerprints.length
  | .setSetId _ setid => Room 12 (setid.chars.length + 1)
  | .niMessage msg => Room 8 msg.length
  | .updateNetworkState _ _ _ _ extraInfo =>
      Room 20 ((extraInfo.getD emptyString).chars.length + 1)
  | .updateNetworkAvailability _ apn => Room 12 ((apn.getD emptyString).chars.length + 1)
  | .dataConnClosed | .dataConnFailed | .niRespond _ _ | .setRefLocation _ _ => True

/-- The bytes that a put copies, as the code computes their number. -/
def payload : Field → Int
  | .int _ => 0
  | .string str => int32 (str.chars.length + 1)
  | .binary _ len => len
  | .struct _ size => size

/-- How far a put advances the offset. -/
def advance : Field → Int
  | .int _ => 4
  | .string str => 4 + int32 (str.chars.length + 1)
  | .binary _ len => 4 + len
  | .struct _ size => size

/-- The object that is copied from holds as many bytes. -/
def Supplied : Field → Prop
  | .binary input len => len ≤ input.length
  | .struct input size => size ≤ input.length
  | .int _ | .string _ => True

def total : List Field → Int
  | [] => 0
  | field :: fields => advance field + total fields

theorem int32_le_self {n : Int} (nonneg : 0 ≤ n) : int32 n ≤ n := by
  simp only [int32, Int.bmod]
  split <;> omega

theorem store_some {message written : Message} {data : Bytes}
    (done : message.store data = some written) :
    written.offset = message.offset ∧ written.buff.length = message.buff.length := by
  obtain ⟨buff, wrote, rfl⟩ := Option.map_eq_some_iff.mp done
  exact ⟨rfl, write_length wrote⟩

theorem fill_some {message written : Message} {input : Bytes} {len : Int}
    (done : message.fill input len = some written) :
    written.offset = message.offset ∧ written.buff.length = message.buff.length := by
  obtain ⟨buff, copied, rfl⟩ := Option.map_eq_some_iff.mp done
  exact ⟨rfl, copy_length copied⟩

theorem store_isSome (message : Message) (value : Int) :
    (message.store (intBytes value)).isSome ↔
      0 ≤ message.offset ∧ message.offset + 4 ≤ message.buff.length := by
  rw [Message.store, Option.isSome_map, write_isSome, intBytes_length]
  rfl

theorem fill_isSome (message : Message) (input : Bytes) (len : Int) :
    (message.fill input len).isSome ↔
      (0 ≤ len ∧ len ≤ input.length) ∧ 0 ≤ message.offset ∧
        message.offset + len ≤ message.buff.length := by
  rw [Message.fill, Option.isSome_map, copy_isSome]
  simp

/-- A length-prefixed put: the store of the length and the copy of the bytes. -/
def putPrefixed (input : Bytes) (len : Int) (message : Message) : Option Message := do
  let message ← message.store (intBytes len)
  let message ← (message.advance 4).fill input len
  some (message.advance len)

theorem putPrefixed_some {input : Bytes} {len : Int} {message written : Message}
    (done : putPrefixed input len message = some written) :
    written.offset = message.offset + (4 + len) ∧
      written.buff.length = message.buff.length := by
  obtain ⟨stored, store, rest⟩ := Option.bind_eq_some_iff.mp done
  obtain ⟨filled, fill, final⟩ := Option.bind_eq_some_iff.mp rest
  obtain rfl := Option.some.inj final
  obtain ⟨storedOffset, storedLength⟩ := store_some store
  obtain ⟨filledOffset, filledLength⟩ := fill_some fill
  simp only [Message.advance] at filledOffset filledLength ⊢
  constructor <;> omega

theorem putPrefixed_isSome {input : Bytes} {len : Int} {message : Message}
    (low : 0 ≤ message.offset) (supplied : len ≤ input.length) :
    (putPrefixed input len message).isSome ↔
      0 ≤ len ∧ message.offset + (4 + len) ≤ message.buff.length := by
  have storable := store_isSome message len
  cases store : message.store (intBytes len) with
  | none =>
      simp only [store, Option.isSome_none, Bool.false_eq_true, false_iff] at storable
      simp only [putPrefixed, store, Option.bind_eq_bind, Option.bind_none, Option.isSome_none,
        Bool.false_eq_true, false_iff]
      omega
  | some stored =>
      obtain ⟨offset, length⟩ := store_some store
      have fillable := fill_isSome (stored.advance 4) input len
      simp only [putPrefixed, store, Option.bind_eq_bind, Option.bind_some, Option.isSome_bind]
      simp only [Message.advance, offset, length] at fillable ⊢
      simp only [Option.isSome_some, Option.any_true, fillable]
      omega

theorem put_some {field : Field} {message written : Message}
    (done : field.put message = some written) :
    written.offset = message.offset + advance field ∧
      written.buff.length = message.buff.length := by
  cases field with
  | int input =>
      obtain ⟨stored, store, final⟩ := Option.bind_eq_some_iff.mp done
      obtain rfl := Option.some.inj final
      obtain ⟨offset, length⟩ := store_some store
      exact ⟨congrArg (fun position => position + 4) offset, length⟩
  | string str => exact putPrefixed_some done
  | binary input len => exact putPrefixed_some done
  | struct input size =>
      obtain ⟨filled, fill, final⟩ := Option.bind_eq_some_iff.mp done
      obtain rfl := Option.some.inj final
      obtain ⟨offset, length⟩ := fill_some fill
      exact ⟨congrArg (fun position => position + size) offset, length⟩

/-- A put stays inside the buffer exactly if its length is not negative and its end is inside. -/
theorem put_isSome {field : Field} {message : Message} (low : 0 ≤ message.offset)
    (supplied : Supplied field) :
    (field.put message).isSome ↔
      0 ≤ payload field ∧ message.offset + advance field ≤ message.buff.length := by
  cases field with
  | int input =>
      simp only [Field.put, buffPutInt, Option.bind_eq_bind, Option.isSome_bind, Option.isSome_some,
        Option.any_true, store_isSome, payload, advance]
      omega
  | string str =>
      have copied : (int32 (str.chars.length + 1)) ≤ ((str.chars ++ [0]).length : Int) := by
        rw [List.length_append]
        exact int32_le_self (by omega)
      exact putPrefixed_isSome low copied
  | binary input len => exact putPrefixed_isSome low supplied
  | struct input size =>
      simp only [Supplied] at supplied
      simp only [Field.put, buffPutStruct, Option.bind_eq_bind, Option.isSome_bind,
        Option.isSome_some, Option.any_true, fill_isSome, payload, advance]
      omega

theorem payload_le_advance (field : Field) : payload field ≤ advance field := by
  cases field <;> simp only [payload, advance] <;> omega

theorem total_nonneg {fields : List Field} (nonneg : ∀ field ∈ fields, 0 ≤ payload field) :
    0 ≤ total fields := by
  induction fields with
  | nil => simp [total]
  | cons field fields ih =>
      have first := nonneg field List.mem_cons_self
      have rest := ih (fun other member => nonneg other (List.mem_cons_of_mem _ member))
      have bound := payload_le_advance field
      simp only [total]
      omega

theorem putAll_some {fields : List Field} {message written : Message}
    (done : putAll fields message = some written) :
    written.offset = message.offset + total fields ∧
      written.buff.length = message.buff.length := by
  induction fields generalizing message with
  | nil =>
      obtain rfl := Option.some.inj done
      simp [total]
  | cons field fields ih =>
      obtain ⟨next, put, rest⟩ := Option.bind_eq_some_iff.mp done
      obtain ⟨offset, length⟩ := put_some put
      obtain ⟨finalOffset, finalLength⟩ := ih rest
      simp only [total]
      constructor <;> omega

/-- The puts of a message stay inside its buffer exactly if no length is negative and the last
one ends inside. -/
theorem putAll_isSome {fields : List Field} {message : Message} (low : 0 ≤ message.offset)
    (high : message.offset ≤ message.buff.length)
    (supplied : ∀ field ∈ fields, Supplied field) :
    (putAll fields message).isSome ↔
      (∀ field ∈ fields, 0 ≤ payload field) ∧
        message.offset + total fields ≤ message.buff.length := by
  induction fields generalizing message with
  | nil => simpa [putAll, total] using high
  | cons field fields ih =>
      have puttable := put_isSome low (supplied field List.mem_cons_self)
      have bound := payload_le_advance field
      simp only [putAll, List.forall_mem_cons, total]
      cases put : field.put message with
      | none =>
          have stuck : ¬ (0 ≤ payload field ∧
              message.offset + advance field ≤ message.buff.length) := by
            rw [← puttable, put]
            simp
          simp only [Option.bind_eq_bind, Option.bind_none, Option.isSome_none, Bool.false_eq_true,
            false_iff]
          rintro ⟨⟨nonneg, others⟩, inside⟩
          have rest := total_nonneg others
          exact stuck ⟨nonneg, by omega⟩
      | some next =>
          obtain ⟨nonneg, inside⟩ := puttable.mp (by rw [put]; rfl)
          obtain ⟨offset, length⟩ := put_some put
          have rest := @ih next (by omega) (by omega)
            (fun other member => supplied other (List.mem_cons_of_mem _ member))
          simp only [Option.bind_eq_bind, Option.bind_some, rest, offset, length]
          constructor
          · rintro ⟨others, last⟩
            exact ⟨⟨nonneg, others⟩, by omega⟩
          · rintro ⟨⟨_, others⟩, last⟩
            exact ⟨others, by omega⟩

theorem blank_isSome {fields : List Field} (supplied : ∀ field ∈ fields, Supplied field) :
    (putAll fields blank).isSome ↔
      (∀ field ∈ fields, 0 ≤ payload field) ∧ total fields ≤ 1024 := by
  have size : (blank.buff.length : Int) = 1024 := congrArg Int.ofNat List.length_replicate
  have start : blank.offset = 0 := rfl
  rw [putAll_isSome (by omega) (by omega) supplied, size, start, Int.zero_add]

/-- The puts of a request's main message. -/
def Request.fields : Request → List Field
  | .dataConnOpen apn => [.int agpsFrameworkInfoDataConnOpen, .string apn]
  | .dataConnOpenWithApnIpType apn apnIpType =>
      [.int agpsFrameworkInfoDataConnOpenIpType, .string apn, .int apnIpType]
  | .dataConnClosed => [.int agpsFrameworkInfoDataConnClosed]
  | .dataConnFailed => [.int agpsFrameworkInfoDataConnFailed]
  | .setServer type hostname port =>
      [.int agpsFrameworkInfoSetServer, .int type, .string hostname, .int port]
  | .installCertificates certificates =>
      [.int agpsFrameworkInfoInstallCertificates, .int (int32 certificates.length),
        .struct (certificates.flatMap DerEncodedCertificate.memory) (int32 certificates.length)]
  | .revokeCertificates fingerprints =>
      [.int agpsFrameworkInfoRevokeCertificates, .int (int32 fingerprints.length),
        .struct (fingerprints.flatMap Sha1CertificateFingerprint.data) (int32 fingerprints.length)]
  | .niRespond notifId userResponse =>
      [.int agpsFrameworkInfoNiRespond, .int notifId, .int userResponse]
  | .setRefLocation agpsReflocation szStruct =>
      [.int agpsFrameworkInfoSetRefLoc, .struct agpsReflocation.memory 16, .int (int32 szStruct)]
  | .setSetId type setid => [.int agpsFrameworkInfoSetSetId, .int type, .string setid]
  | .niMessage msg => [.int agpsFrameworkInfoNiMessage, .binary msg (int32 msg.length)]
  | .updateNetworkState _ connected type roaming extraInfo =>
      [.int agpsFrameworkInfoUpdateNetworkState, .int connected, .int type, .int roaming,
        .string (extraInfo.getD emptyString)]
  | .updateNetworkAvailability avaiable apn =>
      [.int agpsFrameworkInfoUpdateNetworkAvailability, .int avaiable,
        .string (apn.getD emptyString)]

theorem length_flatMap_ge {α : Type*} (objects : List α) (memory : α → Bytes)
    (positive : ∀ object, 1 ≤ (memory object).length) :
    objects.length ≤ (objects.flatMap memory).length := by
  induction objects with
  | nil => simp
  | cons object objects ih =>
      have first := positive object
      simp only [List.length_cons, List.flatMap_cons, List.length_append]
      omega

/-- Every copy of a request reads bytes that its argument has. -/
theorem fields_supplied (request : Request) : ∀ field ∈ request.fields, Supplied field := by
  have counted {α : Type} (objects : List α) (memory : α → Bytes)
      (positive : ∀ object, 1 ≤ (memory object).length) :
      int32 objects.length ≤ (objects.flatMap memory).length := by
    have whole := length_flatMap_ge objects memory positive
    have narrowed := int32_le_self (n := (objects.length : Int)) (by omega)
    omega
  cases request <;> simp only [Request.fields, List.forall_mem_cons, List.not_mem_nil, false_imp_iff,
    implies_true, and_true, Supplied, true_and]
  case installCertificates certificates =>
      exact counted certificates _ (fun certificate => by simp [DerEncodedCertificate.memory])
  case revokeCertificates fingerprints =>
      exact counted fingerprints _ (fun fingerprint => by rw [fingerprint.size]; decide)
  case setRefLocation agpsReflocation szStruct =>
      rw [agpsReflocation.size]
      exact Int.le_refl 16
  case niMessage msg => exact int32_le_self (by omega)

/-- The location request always fits its buffer. -/
theorem traggerNlp_some : ∃ message, agpsNetworkConnectedWifiTraggerNlp = some message ∧
    message.offset ≤ 1024 := by
  have fits := (@blank_isSome [.int mnlCmdGpsNlpLocationReq] (by simp [Supplied])).mpr
    (by simp [payload, total, advance])
  obtain ⟨message, put⟩ := Option.isSome_iff_exists.mp fits
  refine ⟨message, ?_, ?_⟩
  · exact put
  · have offset := (putAll_some put).1
    simp only [total, advance] at offset
    have start : blank.offset = 0 := rfl
    omega

/-- A request sends its main message, after messages that fit. -/
theorem encode_fields (request : Request) :
    ∃ front : List Message, (∀ message ∈ front, message.offset ≤ 1024) ∧
      request.encode = (putAll request.fields blank).map (fun message => front ++ [message]) := by
  cases request
  case updateNetworkState network connected type roaming extraInfo =>
      obtain ⟨location, sent, bound⟩ := traggerNlp_some
      rw [Request.encode, agpsRilUpdateNetworkState, Request.fields]
      generalize putAll _ blank = main
      by_cases comesUp : network.nwConnected = 0 ∧ connected = 1 ∧ type = nwWifi
      · refine ⟨[location], by simpa using bound, ?_⟩
        rw [if_pos comesUp, sent]
        cases main <;> rfl
      · refine ⟨[], by simp, ?_⟩
        rw [if_neg comesUp]
        cases main <;> rfl
  all_goals exact ⟨[], by simp, rfl⟩

theorem inBounds_iff_fields (request : Request) :
    InBounds request ↔
      (∀ field ∈ request.fields, 0 ≤ payload field) ∧ total request.fields ≤ 1024 := by
  have fitting := blank_isSome (fields_supplied request)
  obtain ⟨front, small, encoded⟩ := encode_fields request
  rw [InBounds, encoded]
  cases put : putAll request.fields blank with
  | none => simpa [put] using fitting
  | some written =>
      have offset : written.offset = total request.fields := by
        rw [(putAll_some put).1]
        exact Int.zero_add _
      have fits : (∀ field ∈ request.fields, 0 ≤ payload field) ∧ total request.fields ≤ 1024 :=
        fitting.mp (by rw [put]; rfl)
      refine iff_of_true ⟨front ++ [written], rfl, ?_⟩ fits
      intro message member
      rcases List.mem_append.mp member with early | final
      · exact small message early
      · rw [List.mem_singleton.mp final, offset]
        exact fits.2

/-- A request is written inside its buffer exactly if its variable part has room there. -/
theorem inBounds_iff_hasRoom (request : Request) : InBounds request ↔ HasRoom request := by
  rw [inBounds_iff_fields]
  cases request <;>
    simp only [Request.fields, List.forall_mem_cons, List.not_mem_nil, false_imp_iff, implies_true,
      and_true, payload, total, advance, HasRoom, Room]
  case dataConnClosed | dataConnFailed | niRespond | setRefLocation => decide
  all_goals omega

/-- An access point name of 1016 characters does not fit. -/
theorem long_apn_overruns : ¬ ∀ request, InBounds request := by
  intro fits
  have plain : (0 : UInt8) ∉ List.replicate 1016 97 := by
    intro member
    exact absurd (List.mem_replicate.mp member).2 (by decide)
  have room := (inBounds_iff_fields (.dataConnOpen ⟨List.replicate 1016 97, plain⟩)).mp (fits _)
  have width : int32 ((1016 : Nat) + 1) = 1017 := by decide
  simp only [Request.fields, total, advance, List.length_replicate, width] at room
  omega

end X5MaxDevice.Gps.AgpsMessages
