import X5MaxDevice.Gps.Codec

/-! Decoding of the messages from mnld: every access to the message buffer and to the objects
that its fields are copied or converted into. -/

namespace X5MaxDevice.Gps.MnldMessages

open X5MaxDevice.Gps.Codec
open X5MaxDevice.Gps.Tokenizer
open X5MaxDevice.Memory

def halCmdUpdateEpoFileDone : Int := 0x36
def halCmdUpdateEpoFileFail : Int := 0x38
def halCmdMnlDie : Int := 0x41
def halCmdGpsIcon : Int := 0x42
def mnlCmdGpsInjectTimeReq : Int := 0x48
def mnlCmdGpsInjectLocationReq : Int := 0x49
def halCmdMeasurement : Int := 0x76
def halCmdNavigation : Int := 0x77
def mnlAgpsCmdNotification : Int := 230
def mnlAgpsCmdDataConnReq : Int := 231
def mnlAgpsCmdDataConnRelease : Int := 232
def mnlAgpsCmdRequestSetId : Int := 233
def mnlAgpsCmdRequestRefloc : Int := 234
def mnlAgpsCmdAgpsLoc : Int := 235
def mnlAgpsCmdNotification2 : Int := 236
def mnlAgpsCmdDataConnReq2 : Int := 237

def agpsSuplNotifyOnly : Int := 1
def agpsSuplNotifyAllowNoAnswer : Int := 2
def agpsSuplNotifyDenyNoAnswer : Int := 3
def agpsSuplNotifyPrivacy : Int := 4

def gpsNiTypeUmtsSupl : Int := 2
def gpsNiNeedNotify : Int := 1
def gpsNiNeedVerify : Int := 2
def gpsNiPrivacyOverride : Int := 4
def gpsNiResponseNoresp : Int := 3
def gpsEncSuplUcs2 : Int := 3

def sizeofSockaddrStorage : Nat := 128
def sizeofLocation : Nat := 72
def sizeofMeasurement : Nat := 220
def sizeofClock : Nat := 68
def sizeofNavigationEvent : Nat := 56

def zeros (size : Nat) : Bytes := List.replicate size 0

/-- `char buff[9000]` after the read. -/
structure Received where
  buff : Bytes
  size : buff.length = 9000

/-- `requestor_id` and `client_name`, which nothing initialises. -/
structure Locals where
  requestorId : Bytes
  clientName : Bytes
  requestorSize : requestorId.length = 1024
  clientSize : clientName.length = 1024

/-- The globals that the handler reads, and whether the event's `malloc` succeeds. -/
structure Environment where
  gpsmeasurementInitFlag : Int
  gpsnavigationInitFlag : Int
  requestUtcTimeCb : Bool
  locationCb : Bool
  eventAllocated : Bool
  deriving DecidableEq, Repr

structure GpsNiNotification where
  notificationId : Int
  niType : Int
  notifyFlags : Int
  timeout : Int
  defaultResponse : Int
  requestorId : Bytes
  text : Bytes
  requestorIdEncoding : Int
  textEncoding : Int
  deriving DecidableEq, Repr

/-- Structs of floating-point numbers are passed on as the bytes they came in. -/
inductive Effect where
  | notify (notification : GpsNiNotification)
  | requestDataConnV2 (ipaddr : Int)
  | requestDataConn (addr : Bytes)
  | releaseDataConn
  | requestSetid (flags : Int)
  | requestRefloc (flags : Int)
  | location (raw : Bytes)
  | updateEpoFileDone
  | updateEpoFileFail
  | requestUtcTime
  | sendLocation
  | mnlDie
  | gpsIcon (status : Int)
  | measurement (first clock : Bytes)
  | navigation (prn type messageId submessageId : Int) (data : Bytes)
  | unknown (type : Int)
  deriving DecidableEq, Repr

/-- The loop over `*input`; an input without a NUL is read past its end. -/
def usc2Loop : Bytes → Bytes → Int → Option (Bytes × Int)
  | [], _, _ => none
  | char :: input, output, len =>
      if char = 0 then some (output, len)
      else do
        let output ← write output len [0]
        let output ← write output (len + 1) [char]
        usc2Loop input output (len + 2)

def ascStrToUsc2Str (output input : Bytes) : Option (Bytes × Int) := do
  let output ← write output 0 [0xfe]
  let output ← write output 1 [0xff]
  let (output, len) ← usc2Loop input output 2
  let output ← write output (len + 1) [0]
  let output ← write output (len + 2) [0]
  some (output, len)

def hexDigit (tmp : Nat) : UInt8 :=
  if tmp ≤ 9 then UInt8.ofNat (tmp + 48) else UInt8.ofNat (tmp - 10 + 65)

/-- The turns of the loop from `i` on, as many as are left. -/
def hexLoop (input : Bytes) : Nat → Nat → Bytes → Option Bytes
  | 0, _, output => some output
  | turns + 1, i, output => do
      let byte ← read input i 1
      let output ← write output (i * 2) [hexDigit (ofLittleEndian byte / 16)]
      let output ← write output (i * 2 + 1) [hexDigit (ofLittleEndian byte % 16)]
      hexLoop input turns (i + 1) output

def rawDataToHexString (output input : Bytes) (inputLen : Int) : Option Bytes :=
  hexLoop input inputLen.toNat 0 output

def notifyFlags (type : Int) : Int :=
  if type = agpsSuplNotifyOnly then gpsNiNeedNotify
  else if type = agpsSuplNotifyAllowNoAnswer then gpsNiNeedNotify + gpsNiNeedVerify
  else if type = agpsSuplNotifyDenyNoAnswer then gpsNiNeedNotify + gpsNiNeedVerify
  else if type = agpsSuplNotifyPrivacy then gpsNiPrivacyOverride
  else 0

/-- An ASCII string as UCS2 in hexadecimal, through `ucs2_buff[1024]`. -/
def hexOfString (output string : Bytes) : Option Bytes := do
  let (ucs2Buff, usc2Len) ← ascStrToUsc2Str (zeros 1024) string
  rawDataToHexString output ucs2Buff usc2Len

def notification (locals : Locals) (message : Message) : Option (List Effect) := do
  let (notificationId, message) ← buffGetInt message
  let (type, message) ← buffGetInt message
  let (requestorId, _, message) ← buffGetString locals.requestorId message
  let (clientName, _, _) ← buffGetString locals.clientName message
  let requestorHex ← hexOfString (zeros 256) requestorId
  let text ← hexOfString (zeros 2048) clientName
  some [.notify ⟨notificationId, gpsNiTypeUmtsSupl, notifyFlags type, 8, gpsNiResponseNoresp,
    requestorHex, text, gpsEncSuplUcs2, gpsEncSuplUcs2⟩]

def notification2 (message : Message) : Option (List Effect) := do
  let (notificationId, message) ← buffGetInt message
  let (type, message) ← buffGetInt message
  let (requestorId, _, message) ← buffGetString (zeros 256) message
  let (text, _, message) ← buffGetString (zeros 2048) message
  let (requestorIdEncoding, message) ← buffGetInt message
  let (textEncoding, _) ← buffGetInt message
  some [.notify ⟨notificationId, gpsNiTypeUmtsSupl, notifyFlags type, 8, gpsNiResponseNoresp,
    requestorId, text, requestorIdEncoding, textEncoding⟩]

def dataConnReq (message : Message) : Option (List Effect) := do
  let (ipaddr, message) ← buffGetInt message
  let (_, _) ← buffGetInt message
  some [.requestDataConnV2 ipaddr]

def dataConnReq2 (message : Message) : Option (List Effect) := do
  let (addr, message) ←
    buffGetStruct (zeros sizeofSockaddrStorage) sizeofSockaddrStorage message
  let (_, _) ← buffGetInt message
  some [.requestDataConn addr]

def agpsLoc (env : Environment) (message : Message) : Option (List Effect) := do
  let (location, _) ← buffGetStruct (zeros sizeofLocation) sizeofLocation message
  some (if env.locationCb then [.location location] else [])

/-- Of the 32 measurements only the first is passed on, if it names a satellite. -/
def measurement (env : Environment) (message : Message) : Option (List Effect) :=
  if env.gpsmeasurementInitFlag = 1 then do
    let (measurements, message) ←
      buffGetStruct (zeros (32 * sizeofMeasurement)) (32 * sizeofMeasurement : Nat) message
    let (clock, _) ← buffGetStruct (zeros sizeofClock) sizeofClock message
    some (if measurements.getD 8 0 ≠ 0 then
        [.measurement (measurements.take sizeofMeasurement) clock]
      else [])
  else some []

def signed (width value : Nat) : Int := (value : Int).bmod (2 ^ width)

/-- The fields of `MTK_GPS_NAVIGATION_EVENT` lie at 4, 5, 6, 8, 12 and 16. The second `malloc`,
of `length` bytes, is taken to succeed. -/
def navigation (env : Environment) (message : Message) : Option (List Effect) :=
  if env.gpsnavigationInitFlag = 1 ∧ env.eventAllocated = true then do
    let (event, _) ← buffGetStruct (zeros sizeofNavigationEvent) sizeofNavigationEvent message
    let length := ofLittleEndian ((event.drop 12).take 4)
    let data ← copy (zeros length) 0 (event.drop 16) 0 length
    some [.navigation (ofLittleEndian ((event.drop 5).take 1))
      (signed 8 (ofLittleEndian ((event.drop 4).take 1)))
      (signed 16 (ofLittleEndian ((event.drop 6).take 2)))
      (signed 16 (ofLittleEndian ((event.drop 8).take 2))) data]
  else some []

/-- What the handler does after the command has been read. -/
def dispatch (env : Environment) (locals : Locals) (type : Int) (message : Message) :
    Option (List Effect) :=
  if type = mnlAgpsCmdNotification then notification locals message
  else if type = mnlAgpsCmdNotification2 then notification2 message
  else if type = mnlAgpsCmdDataConnReq then dataConnReq message
  else if type = mnlAgpsCmdDataConnReq2 then dataConnReq2 message
  else if type = mnlAgpsCmdDataConnRelease then some [.releaseDataConn]
  else if type = mnlAgpsCmdRequestSetId then
    (buffGetInt message).map (fun (flags, _) => [.requestSetid flags])
  else if type = mnlAgpsCmdRequestRefloc then
    (buffGetInt message).map (fun (flags, _) => [.requestRefloc flags])
  else if type = mnlAgpsCmdAgpsLoc then agpsLoc env message
  else if type = halCmdUpdateEpoFileDone then some [.updateEpoFileDone]
  else if type = halCmdUpdateEpoFileFail then some [.updateEpoFileFail]
  else if type = mnlCmdGpsInjectTimeReq then
    some (if env.requestUtcTimeCb then [.requestUtcTime] else [])
  else if type = mnlCmdGpsInjectLocationReq then some [.sendLocation]
  else if type = halCmdMnlDie then some [.mnlDie]
  else if type = halCmdGpsIcon then
    (buffGetInt message).map (fun (status, _) => [.gpsIcon status])
  else if type = halCmdMeasurement then measurement env message
  else if type = halCmdNavigation then navigation env message
  else some [.unknown type]

/-- `none` when an access leaves the message buffer or the object it goes to. -/
def mnldToGpsHandler (env : Environment) (locals : Locals) (received : Received) :
    Option (List Effect) := do
  let (type, message) ← buffGetInt ⟨received.buff, 0⟩
  dispatch env locals type message

def StaysInBounds (env : Environment) (locals : Locals) (received : Received) : Prop :=
  (mnldToGpsHandler env locals received).isSome

/-- The int at an offset of the message. -/
def intAt (buff : Bytes) (offset : Int) : Int := bytesInt ((buff.drop offset.toNat).take 4)

/-- What `buff_get_string` leaves in an object: the bytes of the message, then what was there. -/
def stringAt (buff : Bytes) (offset : Int) (str : Bytes) : Bytes :=
  (buff.drop (offset + 4).toNat).take (intAt buff offset).toNat ++
    str.drop (intAt buff offset).toNat

/-- The object holds a string of at most `limit` characters. -/
def Terminated (object : Bytes) (limit : Nat) : Prop :=
  0 ∈ object ∧ (cString object).length ≤ limit

/-- The strings fit the two local arrays, and what is then in these fits its conversions. -/
def NotificationFits (locals : Locals) (buff : Bytes) : Prop :=
  let second := 16 + intAt buff 12
  0 ≤ intAt buff 12 ∧ intAt buff 12 ≤ 1024 ∧ 0 ≤ intAt buff second ∧ intAt buff second ≤ 1024 ∧
    Terminated (stringAt buff 12 locals.requestorId) 63 ∧
    Terminated (stringAt buff second locals.clientName) 509

/-- The strings fit the notification that they are copied into. -/
def Notification2Fits (buff : Bytes) : Prop :=
  let second := 16 + intAt buff 12
  0 ≤ intAt buff 12 ∧ intAt buff 12 ≤ 256 ∧ 0 ≤ intAt buff second ∧ intAt buff second ≤ 2048

/-- The length of the event is at most that of its data. -/
def NavigationFits (buff : Bytes) : Prop := ofLittleEndian ((buff.drop 16).take 4) ≤ 40

/-- The lengths of the three commands that carry any. -/
def LengthsFit (env : Environment) (locals : Locals) (received : Received) : Prop :=
  (intAt received.buff 0 = mnlAgpsCmdNotification → NotificationFits locals received.buff) ∧
    (intAt received.buff 0 = mnlAgpsCmdNotification2 → Notification2Fits received.buff) ∧
    (intAt received.buff 0 = halCmdNavigation → env.gpsnavigationInitFlag = 1 →
      env.eventAllocated = true → NavigationFits received.buff)

theorem zeros_length (size : Nat) : (zeros size).length = size := List.length_replicate

theorem usc2Loop_some {input output written : Bytes} {len final : Int}
    (done : usc2Loop input output len = some (written, final)) :
    final = len + 2 * (cString input).length ∧ written.length = output.length := by
  induction input generalizing output len with
  | nil => cases done
  | cons char input ih =>
      by_cases stop : char = 0
      · rw [usc2Loop, if_pos stop] at done
        cases done
        simp [cString, stop]
      · rw [usc2Loop, if_neg stop] at done
        obtain ⟨first, wrote, rest⟩ := Option.bind_eq_some_iff.mp done
        obtain ⟨second, wroteNext, more⟩ := Option.bind_eq_some_iff.mp rest
        obtain ⟨offset, length⟩ := ih more
        have width : (cString (char :: input)).length = (cString input).length + 1 := by
          simp [cString, stop]
        rw [width, length, write_length wroteNext, write_length wrote]
        exact ⟨by omega, rfl⟩

theorem usc2Loop_isSome {input output : Bytes} {len : Int} (low : 0 ≤ len)
    (high : len ≤ output.length) :
    (usc2Loop input output len).isSome ↔
      0 ∈ input ∧ len + 2 * (cString input).length ≤ output.length := by
  induction input generalizing output len with
  | nil => simp [usc2Loop]
  | cons char input ih =>
      by_cases stop : char = 0
      · simpa [usc2Loop, stop, cString] using high
      · have width : (cString (char :: input)).length = (cString input).length + 1 := by
          simp [cString, stop]
        have inside : 0 ∈ char :: input ↔ 0 ∈ input := by simp [Ne.symm stop]
        have body : (usc2Loop (char :: input) output len).isSome ↔
            (0 ≤ len ∧ len + 1 ≤ output.length) ∧ (0 ≤ len + 1 ∧ len + 1 + 1 ≤ output.length) ∧
              0 ∈ input ∧ len + 2 + 2 * (cString input).length ≤ output.length := by
          rw [usc2Loop, if_neg stop]
          refine bind_write_isSome (fun _ _ first firstLength => ?_)
          rw [← firstLength]
          refine bind_write_isSome (fun _ room second secondLength => ?_)
          rw [← secondLength] at room ⊢
          exact ih (by omega) (by simp only [List.length_singleton] at room; omega)
        rw [body, inside, width]
        constructor
        · rintro ⟨-, -, present, bound⟩
          exact ⟨present, by omega⟩
        · rintro ⟨present, bound⟩
          exact ⟨by omega, by omega, present, by omega⟩

/-- The expansion fits exactly if a NUL ends the input and the two stores behind it fit. -/
theorem ascStrToUsc2Str_isSome {output input : Bytes} (room : 2 ≤ output.length) :
    (ascStrToUsc2Str output input).isSome ↔
      0 ∈ input ∧ 2 * (cString input).length + 5 ≤ output.length := by
  have body : (ascStrToUsc2Str output input).isSome ↔
      ((0 : Int) ≤ 0 ∧ (0 : Int) + 1 ≤ output.length) ∧ ((0 : Int) ≤ 1 ∧ (1 : Int) + 1 ≤ output.length) ∧
        0 ∈ input ∧ 2 * (cString input).length + 5 ≤ output.length := by
    refine bind_write_isSome (fun _ _ first firstLength => ?_)
    rw [← firstLength]
    refine bind_write_isSome (fun _ _ second secondLength => ?_)
    rw [← secondLength]
    have looped := @usc2Loop_isSome input second 2 (by omega) (by omega)
    cases done : usc2Loop input second 2 with
    | none =>
        simp only [done, Option.isSome_none, Bool.false_eq_true, false_iff] at looped
        simp only [Option.bind_eq_bind, Option.bind_none, Option.isSome_none, Bool.false_eq_true,
          false_iff]
        exact fun fits => looped ⟨fits.1, by omega⟩
    | some result =>
        obtain ⟨written, len⟩ := result
        obtain ⟨final, length⟩ := usc2Loop_some done
        have present := (looped.mp (by rw [done]; rfl)).1
        have ending : (do
            let output ← write written (len + 1) [0]
            let output ← write output (len + 2) [0]
            some (output, len)).isSome ↔
              (0 ≤ len + 1 ∧ len + 1 + 1 ≤ written.length) ∧
                (0 ≤ len + 2 ∧ len + 2 + 1 ≤ written.length) ∧ True := by
          refine bind_write_isSome (fun _ _ third thirdLength => ?_)
          rw [← thirdLength]
          exact bind_write_isSome (fun _ _ _ _ => iff_of_true rfl trivial)
        refine ending.trans ⟨?_, ?_⟩
        · rintro ⟨-, bound, -⟩
          exact ⟨present, by omega⟩
        · rintro ⟨-, bound⟩
          exact ⟨by omega, by omega, trivial⟩
  rw [body]
  exact ⟨fun fits => fits.2.2, fun fits => ⟨by omega, by omega, fits⟩⟩

theorem ascStrToUsc2Str_some {output input written : Bytes} {len : Int}
    (done : ascStrToUsc2Str output input = some (written, len)) :
    len = 2 + 2 * (cString input).length ∧ written.length = output.length := by
  obtain ⟨first, wroteFirst, rest⟩ := Option.bind_eq_some_iff.mp done
  obtain ⟨second, wroteSecond, rest⟩ := Option.bind_eq_some_iff.mp rest
  obtain ⟨⟨expanded, final⟩, looped, rest⟩ := Option.bind_eq_some_iff.mp rest
  obtain ⟨third, wroteThird, rest⟩ := Option.bind_eq_some_iff.mp rest
  obtain ⟨fourth, wroteFourth, rest⟩ := Option.bind_eq_some_iff.mp rest
  cases rest
  obtain ⟨count, length⟩ := usc2Loop_some looped
  refine ⟨count, ?_⟩
  rw [write_length wroteFourth, write_length wroteThird, length, write_length wroteSecond,
    write_length wroteFirst]

theorem hexLoop_isSome {input output : Bytes} {turns i : Nat} :
    (hexLoop input turns i output).isSome ↔
      turns = 0 ∨ i + turns ≤ input.length ∧ 2 * (i + turns) ≤ output.length := by
  induction turns generalizing i output with
  | zero => simp [hexLoop]
  | succ turns ih =>
      by_cases inside : i < input.length
      · obtain ⟨byte, got⟩ := Option.isSome_iff_exists.mp
          ((read_isSome input i 1).mpr ⟨by omega, by omega, by omega⟩)
        have body : (hexLoop input (turns + 1) i output).isSome ↔
            (0 ≤ (i : Int) * 2 ∧ (i : Int) * 2 + 1 ≤ output.length) ∧
              (0 ≤ (i : Int) * 2 + 1 ∧ (i : Int) * 2 + 1 + 1 ≤ output.length) ∧
                (turns = 0 ∨ i + 1 + turns ≤ input.length ∧
                  2 * (i + 1 + turns) ≤ output.length) := by
          simp only [hexLoop, got, Option.bind_eq_bind, Option.bind_some]
          refine bind_write_isSome (fun _ _ first firstLength => ?_)
          rw [← firstLength]
          refine bind_write_isSome (fun _ _ second secondLength => ?_)
          rw [← secondLength]
          exact ih
        rw [body]
        omega
      · have missing : read input i 1 = none := by
          rw [← Option.not_isSome_iff_eq_none, read_isSome]
          omega
        simp only [hexLoop, missing, Option.bind_eq_bind, Option.bind_none, Option.isSome_none,
          Bool.false_eq_true, false_iff]
        omega

theorem hexOfString_isSome (output string : Bytes) :
    (hexOfString output string).isSome ↔
      Terminated string 509 ∧ 4 + 4 * (cString string).length ≤ output.length := by
  have size := zeros_length 1024
  have expandable := @ascStrToUsc2Str_isSome (zeros 1024) string (by omega)
  rw [size] at expandable
  rw [hexOfString]
  cases done : ascStrToUsc2Str (zeros 1024) string with
  | none =>
      simp only [done, Option.isSome_none, Bool.false_eq_true, false_iff] at expandable
      simp only [Option.bind_eq_bind, Option.bind_none, Option.isSome_none, Bool.false_eq_true,
        false_iff]
      exact fun fits => expandable ⟨fits.1.1, by have bound := fits.1.2; omega⟩
  | some result =>
      obtain ⟨ucs2Buff, usc2Len⟩ := result
      obtain ⟨count, length⟩ := ascStrToUsc2Str_some done
      obtain ⟨present, short⟩ := expandable.mp (by rw [done]; rfl)
      simp only [Option.bind_eq_bind, Option.bind_some, rawDataToHexString, hexLoop_isSome]
      rw [length, size]
      constructor
      · intro fits
        exact ⟨⟨present, by omega⟩, by omega⟩
      · rintro ⟨-, bound⟩
        omega

section Getters

variable {buff : Bytes} {offset : Int}

theorem load_at (low : 0 ≤ offset) (high : offset + 4 ≤ buff.length) :
    (Message.mk buff offset).load = some (intAt buff offset) := by
  have inside : 0 ≤ offset ∧ (0 : Int) ≤ 4 ∧ offset + 4 ≤ buff.length := by omega
  rw [Message.load, Memory.read, if_pos inside]
  rfl

theorem buffGetInt_at (low : 0 ≤ offset) (high : offset + 4 ≤ buff.length) :
    buffGetInt ⟨buff, offset⟩ = some (intAt buff offset, ⟨buff, offset + 4⟩) := by
  rw [buffGetInt, load_at low high]
  rfl

theorem buffGetString_at (str : Bytes) (low : 0 ≤ offset) (high : offset + 4 ≤ buff.length) :
    buffGetString str ⟨buff, offset⟩ =
      if (0 ≤ intAt buff offset ∧ offset + 4 + intAt buff offset ≤ buff.length) ∧
          intAt buff offset ≤ str.length then
        some (stringAt buff offset str, intAt buff offset,
          ⟨buff, offset + 4 + intAt buff offset⟩)
      else none := by
  have start : (0 ≤ offset + 4 ∧ 0 ≤ intAt buff offset ∧
      offset + 4 + intAt buff offset ≤ buff.length) ↔
        0 ≤ intAt buff offset ∧ offset + 4 + intAt buff offset ≤ buff.length := by omega
  rw [buffGetString, load_at low high]
  simp only [Option.bind_eq_bind, Option.bind_some, Message.advance, copy_front, start]
  split <;> rfl

theorem buffGetStruct_at (output : Bytes) (size : Int) (low : 0 ≤ offset) (nonneg : 0 ≤ size)
    (high : offset + size ≤ buff.length) (room : size ≤ output.length) :
    buffGetStruct output size ⟨buff, offset⟩ =
      some ((buff.drop offset.toNat).take size.toNat ++ output.drop size.toNat,
        ⟨buff, offset + size⟩) := by
  have inside : (0 ≤ offset ∧ 0 ≤ size ∧ offset + size ≤ buff.length) ∧ size ≤ output.length := by
    omega
  rw [buffGetStruct, copy_front, if_pos inside]
  rfl

end Getters

theorem one_isSome {α β : Type} (first : Option α) (result : α → β) :
    (first.bind (fun a => some (result a))).isSome ↔ first.isSome := by
  cases first <;> simp

theorem both_isSome {α β γ : Type} (first : Option α) (second : Option β) (result : α → β → γ) :
    (first.bind (fun a => second.bind (fun b => some (result a b)))).isSome ↔
      first.isSome ∧ second.isSome := by
  cases first <;> cases second <;> simp

theorem ite_isSome {α : Type} {c : Prop} [Decidable c] {first second : Option α}
    (yes : first.isSome) (no : second.isSome) : (if c then first else second).isSome := by
  split
  · exact yes
  · exact no

section Commands

variable {buff : Bytes} (size : buff.length = 9000)
include size

theorem notification_isSome (locals : Locals) :
    (notification locals ⟨buff, 4⟩).isSome ↔ NotificationFits locals buff := by
  have requestorSize := locals.requestorSize
  have clientSize := locals.clientSize
  have shortSize := zeros_length 256
  have longSize := zeros_length 2048
  rw [notification]
  generalize zeros 256 = short at shortSize ⊢
  generalize zeros 2048 = long at longSize ⊢
  simp (disch := omega) only [buffGetInt_at, buffGetString_at, Option.bind_eq_bind,
    Option.bind_some, Int.reduceAdd]
  by_cases first : (0 ≤ intAt buff 12 ∧ 16 + intAt buff 12 ≤ buff.length) ∧
      intAt buff 12 ≤ locals.requestorId.length
  · rw [if_pos first, Option.bind_some, buffGetString_at locals.clientName (by omega) (by omega)]
    by_cases second : (0 ≤ intAt buff (16 + intAt buff 12) ∧
        16 + intAt buff 12 + 4 + intAt buff (16 + intAt buff 12) ≤ buff.length) ∧
          intAt buff (16 + intAt buff 12) ≤ locals.clientName.length
    · rw [if_pos second, Option.bind_some, both_isSome, hexOfString_isSome, hexOfString_isSome]
      simp only [NotificationFits, Terminated]
      constructor
      · rintro ⟨⟨⟨present, _⟩, bound⟩, ⟨also, other⟩, _⟩
        exact ⟨by omega, by omega, by omega, by omega, ⟨present, by omega⟩, also, other⟩
      · rintro ⟨_, _, _, _, ⟨present, bound⟩, also, other⟩
        exact ⟨⟨⟨present, by omega⟩, by omega⟩, ⟨also, other⟩, by omega⟩
    · rw [if_neg second, Option.bind_none]
      refine iff_of_false Bool.false_ne_true ?_
      rintro ⟨_, _, _, _, -⟩
      omega
  · rw [if_neg first, Option.bind_none]
    refine iff_of_false Bool.false_ne_true ?_
    rintro ⟨_, _, -⟩
    omega

theorem notification2_isSome : (notification2 ⟨buff, 4⟩).isSome ↔ Notification2Fits buff := by
  have shortSize := zeros_length 256
  have longSize := zeros_length 2048
  rw [notification2]
  generalize zeros 256 = short at shortSize ⊢
  generalize zeros 2048 = long at longSize ⊢
  simp (disch := omega) only [buffGetInt_at, buffGetString_at, Option.bind_eq_bind,
    Option.bind_some, Int.reduceAdd]
  by_cases first : (0 ≤ intAt buff 12 ∧ 16 + intAt buff 12 ≤ buff.length) ∧
      intAt buff 12 ≤ short.length
  · rw [if_pos first, Option.bind_some, buffGetString_at long (by omega) (by omega)]
    by_cases second : (0 ≤ intAt buff (16 + intAt buff 12) ∧
        16 + intAt buff 12 + 4 + intAt buff (16 + intAt buff 12) ≤ buff.length) ∧
          intAt buff (16 + intAt buff 12) ≤ long.length
    · rw [if_pos second, Option.bind_some, buffGetInt_at (by omega) (by omega), Option.bind_some,
        buffGetInt_at (by omega) (by omega)]
      exact iff_of_true rfl ⟨by omega, by omega, by omega, by omega⟩
    · rw [if_neg second, Option.bind_none]
      refine iff_of_false Bool.false_ne_true ?_
      rintro ⟨_, _, _, _⟩
      omega
  · rw [if_neg first, Option.bind_none]
    refine iff_of_false Bool.false_ne_true ?_
    rintro ⟨_, _, -⟩
    omega

/-- A struct that is read whole leaves nothing of the object that it is read into. -/
theorem struct_at (start width : Nat) (inside : start + width ≤ 9000) :
    buffGetStruct (zeros width) width ⟨buff, start⟩ =
      some ((buff.drop start).take width, ⟨buff, start + width⟩) := by
  have whole := zeros_length width
  rw [buffGetStruct_at (zeros width) width (by omega) (by omega) (by omega) (by omega)]
  rw [Int.toNat_natCast, Int.toNat_natCast, List.drop_of_length_le (Nat.le_of_eq whole),
    List.append_nil]

theorem navigation_isSome (env : Environment) :
    (navigation env ⟨buff, 4⟩).isSome ↔
      (env.gpsnavigationInitFlag = 1 → env.eventAllocated = true → NavigationFits buff) := by
  by_cases active : env.gpsnavigationInitFlag = 1 ∧ env.eventAllocated = true
  · have lengthField : (((buff.drop 4).take 56).drop 12).take 4 = (buff.drop 16).take 4 := by
      rw [List.drop_take, List.drop_drop, List.take_take]
      rfl
    have dataSize : (((buff.drop 4).take 56).drop 16).length = 40 := by
      rw [List.length_drop, List.length_take, List.length_drop]
      omega
    have copied (length : Nat) :
        (copy (zeros length) 0 (((buff.drop 4).take 56).drop 16) 0 length).isSome ↔ length ≤ 40 := by
      rw [copy_isSome, dataSize, zeros_length]
      omega
    have event := struct_at size 4 56 (by omega)
    rw [navigation, if_pos active]
    rw [show buffGetStruct (zeros sizeofNavigationEvent) sizeofNavigationEvent ⟨buff, 4⟩ = _ from
      event, Option.bind_eq_bind, Option.bind_some]
    dsimp only
    rw [lengthField, Option.bind_eq_bind, one_isSome, copied]
    exact ⟨fun fits _ _ => fits, fun fits => fits active.1 active.2⟩
  · rw [navigation, if_neg active]
    exact iff_of_true rfl (fun flag allocated => absurd ⟨flag, allocated⟩ active)

theorem measurement_isSome (env : Environment) : (measurement env ⟨buff, 4⟩).isSome := by
  by_cases active : env.gpsmeasurementInitFlag = 1
  · have measurements := struct_at size 4 (32 * sizeofMeasurement) (by decide)
    have clock := struct_at size (4 + 32 * sizeofMeasurement) sizeofClock (by decide)
    rw [measurement, if_pos active]
    rw [show buffGetStruct (zeros (32 * sizeofMeasurement)) (32 * sizeofMeasurement : Nat)
      ⟨buff, 4⟩ = _ from measurements, Option.bind_eq_bind, Option.bind_some]
    dsimp only
    rw [show buffGetStruct (zeros sizeofClock) sizeofClock
      ⟨buff, (4 : Nat) + (32 * sizeofMeasurement : Nat)⟩ = _ from clock]
    rfl
  · rw [measurement, if_neg active]
    rfl

theorem agpsLoc_isSome (env : Environment) : (agpsLoc env ⟨buff, 4⟩).isSome := by
  have location := struct_at size 4 sizeofLocation (by decide)
  rw [agpsLoc, show buffGetStruct (zeros sizeofLocation) sizeofLocation ⟨buff, 4⟩ = _ from location]
  rfl

theorem dataConnReq_isSome : (dataConnReq ⟨buff, 4⟩).isSome := by
  rw [dataConnReq, buffGetInt_at (by omega) (by omega), Option.bind_eq_bind, Option.bind_some]
  dsimp only
  rw [buffGetInt_at (by omega) (by omega)]
  rfl

theorem dataConnReq2_isSome : (dataConnReq2 ⟨buff, 4⟩).isSome := by
  have addr := struct_at size 4 sizeofSockaddrStorage (by decide)
  rw [dataConnReq2, show buffGetStruct (zeros sizeofSockaddrStorage) sizeofSockaddrStorage ⟨buff, 4⟩
    = _ from addr, Option.bind_eq_bind, Option.bind_some]
  dsimp only
  rw [buffGetInt_at (by omega) (by simp only [sizeofSockaddrStorage]; omega)]
  rfl

theorem getInt_isSome (result : Int × Message → List Effect) :
    ((buffGetInt ⟨buff, 4⟩).map result).isSome := by
  rw [buffGetInt_at (by omega) (by omega)]
  rfl

/-- A command without lengths of its own never leaves the buffer. -/
theorem dispatch_other (env : Environment) (locals : Locals) {type : Int}
    (notifies : type ≠ mnlAgpsCmdNotification) (second : type ≠ mnlAgpsCmdNotification2)
    (navigates : type ≠ halCmdNavigation) : (dispatch env locals type ⟨buff, 4⟩).isSome := by
  rw [dispatch, if_neg notifies, if_neg second]
  refine ite_isSome (dataConnReq_isSome size) ?_
  refine ite_isSome (dataConnReq2_isSome size) ?_
  refine ite_isSome rfl ?_
  refine ite_isSome (getInt_isSome size _) ?_
  refine ite_isSome (getInt_isSome size _) ?_
  refine ite_isSome (agpsLoc_isSome size env) ?_
  refine ite_isSome rfl ?_
  refine ite_isSome rfl ?_
  refine ite_isSome rfl ?_
  refine ite_isSome rfl ?_
  refine ite_isSome rfl ?_
  refine ite_isSome (getInt_isSome size _) ?_
  refine ite_isSome (measurement_isSome size env) ?_
  rw [if_neg navigates]
  rfl

theorem dispatch_isSome (env : Environment) (locals : Locals) (type : Int) :
    (dispatch env locals type ⟨buff, 4⟩).isSome ↔
      (type = mnlAgpsCmdNotification → NotificationFits locals buff) ∧
        (type = mnlAgpsCmdNotification2 → Notification2Fits buff) ∧
          (type = halCmdNavigation → env.gpsnavigationInitFlag = 1 →
            env.eventAllocated = true → NavigationFits buff) := by
  by_cases notifies : type = mnlAgpsCmdNotification
  · have second : type ≠ mnlAgpsCmdNotification2 := by rw [notifies]; decide
    have navigates : type ≠ halCmdNavigation := by rw [notifies]; decide
    rw [dispatch, if_pos notifies, notification_isSome size]
    exact ⟨fun fits => ⟨fun _ => fits, fun same => absurd same second,
      fun same => absurd same navigates⟩, fun fits => fits.1 notifies⟩
  by_cases second : type = mnlAgpsCmdNotification2
  · have navigates : type ≠ halCmdNavigation := by rw [second]; decide
    rw [dispatch, if_neg notifies, if_pos second, notification2_isSome size]
    exact ⟨fun fits => ⟨fun same => absurd same notifies, fun _ => fits,
      fun same => absurd same navigates⟩, fun fits => fits.2.1 second⟩
  by_cases navigates : type = halCmdNavigation
  · have body : dispatch env locals type ⟨buff, 4⟩ = navigation env ⟨buff, 4⟩ := by
      rw [navigates]
      rfl
    rw [body, navigation_isSome size]
    exact ⟨fun fits => ⟨fun same => absurd same notifies, fun same => absurd same second,
      fun _ => fits⟩, fun fits => fits.2.2 navigates⟩
  · exact iff_of_true (dispatch_other size env locals notifies second navigates)
      ⟨fun same => absurd same notifies, fun same => absurd same second,
        fun same => absurd same navigates⟩

end Commands

theorem handler_dispatch (env : Environment) (locals : Locals) (received : Received) :
    mnldToGpsHandler env locals received =
      dispatch env locals (intAt received.buff 0) ⟨received.buff, 4⟩ := by
  have size := received.size
  rw [mnldToGpsHandler, buffGetInt_at (by omega) (by omega), Int.zero_add, Option.bind_eq_bind,
    Option.bind_some]

/-- Decoding a message stays inside the buffer and inside every destination exactly if the
lengths that the message carries fit. -/
theorem staysInBounds_iff_lengthsFit (env : Environment) (locals : Locals) (received : Received) :
    StaysInBounds env locals received ↔ LengthsFit env locals received := by
  rw [StaysInBounds, handler_dispatch]
  exact dispatch_isSome received.size env locals (intAt received.buff 0)

/-- A notification whose requestor has a name of 64 letters. -/
def longRequestor : Received where
  buff := littleEndian 4 230 ++ zeros 8 ++ littleEndian 4 65 ++ List.replicate 64 65 ++ [0] ++
    littleEndian 4 1 ++ zeros 8915
  size := by
    rw [List.length_append, zeros_length]
    rfl

def blankLocals : Locals where
  requestorId := zeros 1024
  clientName := zeros 1024
  requestorSize := zeros_length 1024
  clientSize := zeros_length 1024

/-- In hexadecimal UCS2 the name takes 260 bytes of the 256 of `requestor_id`. -/
theorem long_requestor_overruns :
    ¬ ∀ env locals received, StaysInBounds env locals received := by
  intro stays
  have inside : (mnldToGpsHandler ⟨0, 0, true, true, true⟩ blankLocals longRequestor).isSome :=
    stays _ _ _
  rw [handler_dispatch, dispatch_isSome longRequestor.size] at inside
  have fits : NotificationFits blankLocals longRequestor.buff := inside.1 (by decide +kernel)
  have short : (cString (stringAt longRequestor.buff 12 blankLocals.requestorId)).length ≤ 63 :=
    fits.2.2.2.2.1.2
  revert short
  decide +kernel

end X5MaxDevice.Gps.MnldMessages
