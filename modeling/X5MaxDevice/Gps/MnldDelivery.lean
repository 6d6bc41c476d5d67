import X5MaxDevice.Gps.Measurements
import X5MaxDevice.Gps.MessageContents
import X5MaxDevice.Gps.NiText
import X5MaxDevice.Gps.Reader

/-! What the messages of mnld do to the framework: each one that is well formed makes the
callback it stands for, with exactly what it carries. -/

namespace X5MaxDevice.Gps.MnldDelivery

open X5MaxDevice.Gps.Codec
open X5MaxDevice.Gps.Measurements hiding Delivered
open X5MaxDevice.Gps.MessageContents
open X5MaxDevice.Gps.MnldMessages
open X5MaxDevice.Gps.NiText
open X5MaxDevice.Gps.Tokenizer
open X5MaxDevice.Memory

/-- `mnl_agps_agps_location`; its numbers are passed on bit by bit. -/
structure AgpsLocation where
  latitude : Double
  longitude : Double
  altitudeUsed : UInt8
  altitude : Double
  speedUsed : UInt8
  speed : Single
  bearingUsed : UInt8
  bearing : Single
  accuracyUsed : UInt8
  accuracy : Single
  timestampUsed : UInt8
  timestamp : UInt64
  deriving DecidableEq

/-- The struct is aligned to eight bytes. -/
def AgpsLocation.ofBytes (raw : Bytes) : AgpsLocation where
  latitude := long raw 0
  longitude := long raw 8
  altitudeUsed := byte raw 16
  altitude := long raw 24
  speedUsed := byte raw 32
  speed := word raw 36
  bearingUsed := byte raw 40
  bearing := word raw 44
  accuracyUsed := byte raw 48
  accuracy := word raw 52
  timestampUsed := byte raw 56
  timestamp := long raw 64

def AgpsLocation.memory (location : AgpsLocation) : Bytes :=
  littleEndian 8 location.latitude.toNat ++ littleEndian 8 location.longitude.toNat ++
    littleEndian 1 location.altitudeUsed.toNat ++ zeros 7 ++
    littleEndian 8 location.altitude.toNat ++ littleEndian 1 location.speedUsed.toNat ++ zeros 3 ++
    littleEndian 4 location.speed.toNat ++ littleEndian 1 location.bearingUsed.toNat ++ zeros 3 ++
    littleEndian 4 location.bearing.toNat ++ littleEndian 1 location.accuracyUsed.toNat ++ zeros 3 ++
    littleEndian 4 location.accuracy.toNat ++ littleEndian 1 location.timestampUsed.toNat ++
    zeros 7 ++ littleEndian 8 location.timestamp.toNat

theorem memory_length (location : AgpsLocation) : location.memory.length = 72 := by
  simp [AgpsLocation.memory, zeros]

section Fields

variable {data rest : Bytes} {offset width : Nat}

theorem field_skip (skipped : data.length ≤ offset) :
    field (data ++ rest) offset width = field rest (offset - data.length) width := by
  rw [field, field, List.drop_append, List.drop_eq_nil_of_le skipped, List.nil_append]

theorem field_front (count : data.length = width) :
    field (data ++ rest) 0 width = ofLittleEndian data := by
  rw [field, List.drop_zero, List.take_left' count]

theorem field_last (count : data.length = width) : field data 0 width = ofLittleEndian data := by
  rw [field, List.drop_zero, ← count, List.take_length]

end Fields

theorem ofBytes_memory (location : AgpsLocation) :
    AgpsLocation.ofBytes location.memory = location := by
  cases location
  simp (disch := simp [zeros_length]) [AgpsLocation.ofBytes, AgpsLocation.memory, long, word, byte,
    field_skip, field_front, field_last, ofLittleEndian_littleEndian, zeros_length]

/-- The `GpsLocation` of the framework. -/
structure FrameworkLocation where
  flags : BitVec 16
  latitude : Double
  longitude : Double
  altitude : Double
  speed : Single
  bearing : Single
  accuracy : Single
  timestamp : UInt64
  deriving DecidableEq

def FrameworkLocation.flag (used : UInt8) (value : BitVec 16) (location : FrameworkLocation)
    (store : FrameworkLocation → FrameworkLocation) : FrameworkLocation :=
  if used ≠ 0 then store { location with flags := location.flags ||| value } else location

/-- `mlocation`, filled in from the message. -/
def mlocation (location : AgpsLocation) : FrameworkLocation :=
  let m : FrameworkLocation :=
    ⟨Reader.hasLatLong, location.latitude, location.longitude, 0, 0, 0, 0, 0⟩
  let m := m.flag location.altitudeUsed Reader.hasAltitude
    (fun m => { m with altitude := location.altitude })
  let m := m.flag location.speedUsed Reader.hasSpeed (fun m => { m with speed := location.speed })
  let m := m.flag location.bearingUsed Reader.hasBearing
    (fun m => { m with bearing := location.bearing })
  let m := m.flag location.accuracyUsed Reader.hasAccuracy
    (fun m => { m with accuracy := location.accuracy })
  if location.timestampUsed ≠ 0 then { m with timestamp := location.timestamp } else m

/-- What a message makes the HAL do, with the location that `location_cb` is called with. -/
inductive Callback where
  | effect (effect : Effect)
  | locationCb (location : FrameworkLocation)
  deriving DecidableEq

def callback : Effect → Callback
  | .location raw => .locationCb (mlocation (.ofBytes raw))
  | effect => .effect effect

def served (env : Environment) (locals : Locals) (received : Received) : Option (List Callback) :=
  (mnldToGpsHandler env locals received).map (List.map callback)

/-- The messages of mnld, apart from raw measurements and navigation data. -/
inductive Command where
  | notification (sessionId type : Int) (requestorId clientName : CString)
  | notification2 (sessionId type : Int) (requestorId text : CString)
      (requestorIdEncoding textEncoding : Int)
  | dataConnReq (ipaddr isEmergency : Int)
  | dataConnReq2 (addr : Bytes) (isEmergency : Int)
  | dataConnRelease
  | requestSetId (flags : Int)
  | requestRefloc (flags : Int)
  | agpsLoc (location : AgpsLocation)
  | updateEpoFileDone
  | updateEpoFileFail
  | injectTimeReq
  | injectLocationReq
  | mnlDie
  | gpsIcon (status : Int)

def Command.fields : Command → List Field
  | .notification sessionId type requestorId clientName =>
      [.int mnlAgpsCmdNotification, .int sessionId, .int type, .string requestorId,
        .string clientName]
  | .notification2 sessionId type requestorId text requestorIdEncoding textEncoding =>
      [.int mnlAgpsCmdNotification2, .int sessionId, .int type, .string requestorId, .string text,
        .int requestorIdEncoding, .int textEncoding]
  | .dataConnReq ipaddr isEmergency =>
      [.int mnlAgpsCmdDataConnReq, .int ipaddr, .int isEmergency]
  | .dataConnReq2 addr isEmergency =>
      [.int mnlAgpsCmdDataConnReq2, .struct addr sizeofSockaddrStorage, .int isEmergency]
  | .dataConnRelease => [.int mnlAgpsCmdDataConnRelease]
  | .requestSetId flags => [.int mnlAgpsCmdRequestSetId, .int flags]
  | .requestRefloc flags => [.int mnlAgpsCmdRequestRefloc, .int flags]
  | .agpsLoc location => [.int mnlAgpsCmdAgpsLoc, .struct location.memory sizeofLocation]
  | .updateEpoFileDone => [.int halCmdUpdateEpoFileDone]
  | .updateEpoFileFail => [.int halCmdUpdateEpoFileFail]
  | .injectTimeReq => [.int mnlCmdGpsInjectTimeReq]
  | .injectLocationReq => [.int mnlCmdGpsInjectLocationReq]
  | .mnlDie => [.int halCmdMnlDie]
  | .gpsIcon status => [.int halCmdGpsIcon, .int status]

/-- Arguments of the C types, and strings that fit the arrays they are copied and expanded
into. -/
def Command.WellFormed : Command → Prop
  | .notification sessionId type requestorId clientName =>
      IsInt sessionId ∧ IsInt type ∧ requestorId.chars.length ≤ 63 ∧ clientName.chars.length ≤ 509
  | .notification2 sessionId type requestorId text requestorIdEncoding textEncoding =>
      IsInt sessionId ∧ IsInt type ∧ requestorId.chars.length < 256 ∧ text.chars.length < 2048 ∧
        IsInt requestorIdEncoding ∧ IsInt textEncoding
  | .dataConnReq ipaddr isEmergency => IsInt ipaddr ∧ IsInt isEmergency
  | .dataConnReq2 addr isEmergency => addr.length = sizeofSockaddrStorage ∧ IsInt isEmergency
  | .requestSetId flags | .requestRefloc flags | .gpsIcon flags => IsInt flags
  | .dataConnRelease | .agpsLoc _ | .updateEpoFileDone | .updateEpoFileFail | .injectTimeReq
  | .injectLocationReq | .mnlDie => True

/-- A text in an array that was cleared. -/
def padded (size : Nat) (text : Bytes) : Bytes := text ++ zeros (size - text.length)

/-- What a message asks for. -/
def Command.callbacks (env : Environment) : Command → List Callback
  | .notification sessionId type requestorId clientName =>
      [.effect (.notify ⟨sessionId, gpsNiTypeUmtsSupl, notifyFlags type, 8, gpsNiResponseNoresp,
        padded 256 (hexText true requestorId.chars), padded 2048 (hexText true clientName.chars),
        gpsEncSuplUcs2, gpsEncSuplUcs2⟩)]
  | .notification2 sessionId type requestorId text requestorIdEncoding textEncoding =>
      [.effect (.notify ⟨sessionId, gpsNiTypeUmtsSupl, notifyFlags type, 8, gpsNiResponseNoresp,
        padded 256 requestorId.chars, padded 2048 text.chars, requestorIdEncoding, textEncoding⟩)]
  | .dataConnReq ipaddr _ => [.effect (.requestDataConnV2 ipaddr)]
  | .dataConnReq2 addr _ => [.effect (.requestDataConn addr)]
  | .dataConnRelease => [.effect .releaseDataConn]
  | .requestSetId flags => [.effect (.requestSetid flags)]
  | .requestRefloc flags => [.effect (.requestRefloc flags)]
  | .agpsLoc location => if env.locationCb then [.locationCb (mlocation location)] else []
  | .updateEpoFileDone => [.effect .updateEpoFileDone]
  | .updateEpoFileFail => [.effect .updateEpoFileFail]
  | .injectTimeReq => if env.requestUtcTimeCb then [.effect .requestUtcTime] else []
  | .injectLocationReq => [.effect .sendLocation]
  | .mnlDie => [.effect .mnlDie]
  | .gpsIcon status => [.effect (.gpsIcon status)]

/-- A message that has been read up to `rest`. -/
def readTo (before rest : Bytes) : Message := ⟨before ++ rest, before.length⟩

section Reads

variable (before rest : Bytes)

theorem getInt_readTo {value : Int} (int : IsInt value) :
    buffGetInt (readTo before (intBytes value ++ rest)) =
      some (value, readTo (before ++ intBytes value) rest) := by
  have loaded := load_middle before rest int.1 int.2
  rw [List.append_assoc] at loaded
  rw [buffGetInt, readTo, loaded]
  simp [readTo, Message.advance, intBytes_length]

theorem getStruct_readTo {data object : Bytes} {size : Int} (sized : (data.length : Int) = size)
    (room : data.length ≤ object.length) :
    buffGetStruct object size (readTo before (data ++ rest)) =
      some (data ++ object.drop data.length, readTo (before ++ data) rest) := by
  subst sized
  have copied := copy_out before rest room
  rw [List.append_assoc] at copied
  rw [buffGetStruct]
  simp only [readTo, copied, Option.bind_eq_bind, Option.bind_some]
  simp [Message.advance]

/-- A string that is copied leaves the object behind its NUL as it was. -/
theorem getString_readTo {sent : CString} {object : Bytes}
    (room : sent.chars.length < object.length) (small : sent.chars.length < 2048) :
    buffGetString object (readTo before ((Field.string sent).wire ++ rest)) =
      some (sent.chars ++ 0 :: object.drop (sent.chars.length + 1), ((sent.chars.length + 1 : Nat) : Int),
        readTo (before ++ (Field.string sent).wire) rest) := by
  have count : (sent.chars ++ [0]).length = sent.chars.length + 1 := by simp
  have framed : (Field.string sent).wire =
      intBytes (sent.chars ++ [0]).length ++ (sent.chars ++ [0]) := by
    rw [count]
    rfl
  have fits : ((sent.chars ++ [0]).length : Int) < 2 ^ 31 := by omega
  have loaded := prefix_load before rest fits
  have behind := @prefix_read before rest (sent.chars ++ [0])
  have copied := copy_out (before ++ intBytes (sent.chars ++ [0]).length) rest
    (show (sent.chars ++ [0]).length ≤ object.length by omega)
  rw [← framed, List.append_assoc] at loaded behind
  rw [buffGetString, readTo, loaded, Option.bind_eq_bind, Option.bind_some, behind]
  simp only [copied]
  simp [readTo, Message.advance, framed, Int.add_assoc]

end Reads

section Delivery

variable {env : Environment} {locals : Locals} {received : Received} {rest : Bytes}

theorem handler_readTo {value : Int} (int : IsInt value)
    (carries : received.buff = intBytes value ++ rest) :
    mnldToGpsHandler env locals received =
      dispatch env locals value (readTo (intBytes value) rest) := by
  have got := getInt_readTo [] rest int
  rw [mnldToGpsHandler, carries]
  simp only [readTo, List.nil_append, List.length_nil, Int.natCast_zero] at got ⊢
  rw [got]
  rfl

theorem padded_string {text : Bytes} {size : Nat} (short : text.length < size) :
    text ++ 0 :: (zeros size).drop (text.length + 1) = padded size text := by
  rw [padded, zeros, zeros, List.drop_replicate, ← List.replicate_succ]
  congr
  omega

theorem hex_readTo {sent : CString} {behind : Bytes} {size : Nat} (short : sent.chars.length ≤ 509)
    (room : 4 + 4 * sent.chars.length ≤ size) :
    hexOfString (zeros size) (sent.chars ++ 0 :: behind) =
      some (padded size (hexText true sent.chars)) := by
  rw [hexOfString_eq true sent.plain behind short (by rw [zeros_length]; exact room), padded,
    hexText_length, zeros, zeros, List.drop_replicate]

theorem notification_delivered {sessionId type : Int} {requestorId clientName : CString}
    (formed : (Command.notification sessionId type requestorId clientName).WellFormed)
    (carries : received.buff =
      wire (Command.notification sessionId type requestorId clientName).fields ++ rest) :
    served env locals received =
      some ((Command.notification sessionId type requestorId clientName).callbacks env) := by
  obtain ⟨session, kind, requestor, client⟩ := formed
  simp only [Command.fields, wire, List.flatMap_cons, List.flatMap_nil, List.append_nil,
    List.append_assoc, Field.wire.eq_1] at carries
  rw [served, handler_readTo (by decide) carries, dispatch, if_pos rfl, notification]
  simp only [getInt_readTo _ _ session, getInt_readTo _ _ kind, Option.bind_eq_bind,
    Option.bind_some]
  rw [getString_readTo _ _ (by rw [locals.requestorSize]; omega) (by omega)]
  simp only [Option.bind_some]
  rw [getString_readTo _ _ (by rw [locals.clientSize]; omega) (by omega)]
  simp only [Option.bind_some]
  rw [hex_readTo (by omega) (by omega), Option.bind_some, hex_readTo (by omega) (by omega)]
  rfl

theorem notification2_delivered {sessionId type requestorIdEncoding textEncoding : Int}
    {requestorId text : CString}
    (formed : (Command.notification2 sessionId type requestorId text requestorIdEncoding
      textEncoding).WellFormed)
    (carries : received.buff = wire (Command.notification2 sessionId type requestorId text
      requestorIdEncoding textEncoding).fields ++ rest) :
    served env locals received = some ((Command.notification2 sessionId type requestorId text
      requestorIdEncoding textEncoding).callbacks env) := by
  obtain ⟨session, kind, requestor, shown, requestorInt, textInt⟩ := formed
  simp only [Command.fields, wire, List.flatMap_cons, List.flatMap_nil, List.append_nil,
    List.append_assoc, Field.wire.eq_1] at carries
  rw [served, handler_readTo (by decide) carries, dispatch, if_neg (by decide), if_pos rfl,
    notification2]
  simp only [getInt_readTo _ _ session, getInt_readTo _ _ kind, Option.bind_eq_bind,
    Option.bind_some]
  rw [getString_readTo _ _ (by rw [zeros_length]; omega) (by omega)]
  simp only [Option.bind_some]
  rw [getString_readTo _ _ (by rw [zeros_length]; omega) (by omega)]
  simp only [Option.bind_some, getInt_readTo _ _ requestorInt, getInt_readTo _ _ textInt,
    padded_string requestor, padded_string shown]
  rfl

theorem dataConnReq_delivered {ipaddr isEmergency : Int}
    (formed : (Command.dataConnReq ipaddr isEmergency).WellFormed)
    (carries : received.buff = wire (Command.dataConnReq ipaddr isEmergency).fields ++ rest) :
    served env locals received = some ((Command.dataConnReq ipaddr isEmergency).callbacks env) := by
  simp only [Command.fields, wire, List.flatMap_cons, List.flatMap_nil, List.append_nil,
    List.append_assoc, Field.wire.eq_1] at carries
  rw [served, handler_readTo (by decide) carries, dispatch, if_neg (by decide), if_neg (by decide),
    if_pos rfl, dataConnReq]
  simp only [getInt_readTo _ _ formed.1, getInt_readTo _ _ formed.2, Option.bind_eq_bind,
    Option.bind_some]
  rfl

theorem dataConnReq2_delivered {addr : Bytes} {isEmergency : Int}
    (formed : (Command.dataConnReq2 addr isEmergency).WellFormed)
    (carries : received.buff = wire (Command.dataConnReq2 addr isEmergency).fields ++ rest) :
    served env locals received = some ((Command.dataConnReq2 addr isEmergency).callbacks env) := by
  simp only [Command.fields, wire, List.flatMap_cons, List.flatMap_nil, List.append_nil,
    List.append_assoc, Field.wire.eq_1, Field.wire.eq_4] at carries
  have whole : (zeros sizeofSockaddrStorage).drop addr.length = [] := by
    rw [formed.1, zeros, List.drop_replicate, Nat.sub_self, List.replicate_zero]
  rw [served, handler_readTo (by decide) carries, dispatch, if_neg (by decide), if_neg (by decide),
    if_neg (by decide), if_pos rfl, dataConnReq2,
    getStruct_readTo _ _ (by rw [formed.1]) (by rw [formed.1, zeros_length])]
  simp only [getInt_readTo _ _ formed.2, Option.bind_eq_bind, Option.bind_some, whole,
    List.append_nil]
  rfl

theorem agpsLoc_delivered {location : AgpsLocation}
    (carries : received.buff = wire (Command.agpsLoc location).fields ++ rest) :
    served env locals received = some ((Command.agpsLoc location).callbacks env) := by
  simp only [Command.fields, wire, List.flatMap_cons, List.flatMap_nil, List.append_nil,
    List.append_assoc, Field.wire.eq_1, Field.wire.eq_4] at carries
  have whole : (zeros sizeofLocation).drop location.memory.length = [] := by
    rw [memory_length, zeros, sizeofLocation, List.drop_replicate, Nat.sub_self,
      List.replicate_zero]
  have dispatched : dispatch env locals mnlAgpsCmdAgpsLoc = agpsLoc env := by
    funext message
    simp [dispatch, mnlAgpsCmdAgpsLoc, mnlAgpsCmdNotification, mnlAgpsCmdNotification2,
      mnlAgpsCmdDataConnReq, mnlAgpsCmdDataConnReq2, mnlAgpsCmdDataConnRelease,
      mnlAgpsCmdRequestSetId, mnlAgpsCmdRequestRefloc]
  rw [served, handler_readTo (by decide) carries, dispatched, agpsLoc,
    getStruct_readTo _ _ (by rw [memory_length]; rfl) (by rw [memory_length, zeros_length]; decide)]
  simp only [Option.bind_eq_bind, Option.bind_some, whole, List.append_nil, Option.map_some,
    Command.callbacks]
  split
  · simp only [List.map_cons, List.map_nil, callback, ofBytes_memory]
  · rfl

/-- The commands that carry one `int`. -/
theorem flags_delivered {command flags : Int} {effect : Int → Effect} (int : IsInt command)
    (formed : IsInt flags) (carries : received.buff = intBytes command ++ (intBytes flags ++ rest))
    (dispatched : dispatch env locals command =
      fun message => (buffGetInt message).map (fun (flags, _) => [effect flags])) :
    served env locals received = some [callback (effect flags)] := by
  rw [served, handler_readTo int carries, dispatched]
  simp only [getInt_readTo _ _ formed, Option.map_some]
  rfl

/-- The commands that carry nothing. -/
theorem plain_delivered {command : Int} {effects : List Effect} (int : IsInt command)
    (carries : received.buff = intBytes command ++ rest)
    (dispatched : dispatch env locals command = fun _ => some effects) :
    served env locals received = some (effects.map callback) := by
  rw [served, handler_readTo int carries, dispatched]
  rfl

end Delivery

/-- A query for the user that names its requestor in ASCII. -/
def query : Command :=
  .notification 7 2 ⟨bytes "Ann", by decide⟩ ⟨bytes "E112", by decide⟩

def queryReceived : Received where
  buff := wire query.fields ++ zeros (9000 - (wire query.fields).length)
  size := by
    rw [List.length_append, zeros_length]
    decide

def quietEnvironment : Environment := ⟨0, 0, false, false, false⟩

end X5MaxDevice.Gps.MnldDelivery
