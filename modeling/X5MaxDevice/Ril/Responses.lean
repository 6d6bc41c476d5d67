import X5MaxDevice.Ril.DataCalls
import X5MaxDevice.Ril.EccList

/-! How `MT6735` handles what the modem daemon sends: unsolicited responses, which it answers with
requests of its own, and the replies to requests. -/

namespace X5MaxDevice.Ril.Responses

open X5MaxDevice.Java
open X5MaxDevice.Ril.DataCalls
open X5MaxDevice.Ril.EccList

inductive Failure where
  | numberFormat
  | indexOutOfBounds
  | negativeArraySize
  | nullPointer
  | illegalArgument
  | runtime
  deriving DecidableEq, Repr

/-- The integers of a parcel, and how many of them lie before the data position. -/
structure Parcel where
  data : List Int
  position : Nat
  deriving DecidableEq, Repr

/-- Behind the end of the data every integer reads as 0. -/
def Parcel.readInt (p : Parcel) : Int × Parcel :=
  match p.data[p.position]? with
  | some value => (value, { p with position := p.position + 1 })
  | none => (0, p)

def Parcel.readInts : Nat → Parcel → List Int × Parcel
  | 0, p => ([], p)
  | count + 1, p =>
      let (value, p) := p.readInt
      let (values, p) := readInts count p
      (value :: values, p)

def Parcel.dataAvail (p : Parcel) : Nat := 4 * (p.data.length - p.position)

/-- `Integer.parseInt` of an element of an array of strings. -/
def parseElement (response : List (Option JString)) (i : Nat) : Except Failure Int :=
  match response[i]? with
  | none => .error .indexOutOfBounds
  | some none => .error .numberFormat
  | some (some text) => (Java.parseInt text).mapError (fun _ => .numberFormat)

def unsolOnUssd : Int := 1006
def unsolResponsePsNetworkStateChanged : Int := 3015
def unsolResponseRegistrationSuspended : Int := 3024
def unsolIncomingCallIndication : Int := 3042
def unsolCallInfoIndication : Int := 3049
def unsolSetAttachApn : Int := 3073

def requestGetSimStatus : Int := 1
def requestDataRegistrationState : Int := 21
def requestSetupDataCall : Int := 27
def requestSetInitialAttachApn : Int := 111
def requestAllowData : Int := 123
def requestResumeRegistration : Int := 2065
def requestSetCallIndication : Int := 2086
def requestEmergencyDial : Int := 2087
def requestSetEccServiceCategory : Int := 2088

/-- What is written into the parcel of a request. -/
inductive Field where
  | int (value : Int)
  | string (text : JString)
  | noStrings
  deriving DecidableEq, Repr

/-- What an unsolicited response makes the instance do. Requests that it sends have no message
for their result. -/
inductive Action where
  | send (request : Int) (fields : List Field)
  | notifyCallState
  | notifyVoiceNetworkState
  | notifyUssd (resp : List (Option JString))
  | forward (p : Parcel) (type : Int)
  deriving DecidableEq, Repr

/-- The telephony library: how an array of strings is read, the number of the operator, and
whether somebody has registered for USSD. -/
structure Telephony where
  readStringArray : Parcel → Option (List (Option JString))
  operatorNumber : JString
  ussdRegistrant : Bool

/-- An array of integers behind its length. -/
def responseInts (p : Parcel) : Except Failure (List Int) :=
  let (numInts, p) := p.readInt
  if numInts < 0 then .error .negativeArraySize else .ok (Parcel.readInts numInts.toNat p).1

def firstInt : List Int → Except Failure Int
  | [] => .error .indexOutOfBounds
  | value :: _ => .ok value

def responseRegSuspended (p : Parcel) : Except Failure (List Action) := do
  let response ← responseInts p
  let session ← firstInt response
  return [.send requestResumeRegistration [.int 1, .int session]]

def readStrings (telephony : Telephony) (p : Parcel) : Except Failure (List (Option JString)) :=
  match telephony.readStringArray p with
  | none => .error .nullPointer
  | some response => .ok response

def responseIncomingCallIndication (telephony : Telephony) (p : Parcel) :
    Except Failure (List Action) := do
  let response ← readStrings telephony p
  let mode ← parseElement response 3
  let callId ← parseElement response 0
  let seqNumber ← parseElement response 4
  return [.send requestSetCallIndication [.int 3, .int mode, .int callId, .int seqNumber],
    .notifyCallState]

/-- The message 129 is the termination of a call. -/
def responseCallProgress (telephony : Telephony) (p : Parcel) : Except Failure (List Action) := do
  let response ← readStrings telephony p
  if 2 ≤ response.length then
    match response.getD 1 none with
    | none => throw .nullPointer
    | some text => return if text = "129".toList then [.notifyCallState] else []
  else return []

def setInitialAttachApn (telephony : Telephony) (apn protocol : JString) (authType : Int)
    (username password : JString) : Action :=
  .send requestSetInitialAttachApn
    [.string apn, .string protocol, .int authType, .string username, .string password,
      .string telephony.operatorNumber, .int 1, .noStrings]

/-- `USSD_SESSION_END` to `USSD_HANDLED_BY_STK` count as normal finishes. -/
def ussdResponse (ret : List (Option JString)) : Except Failure (List (Option JString)) := do
  let resp ← if ret.length < 2 then
      match ret with
      | [] => throw .indexOutOfBounds
      | first :: _ => pure [first, none]
    else pure ret
  match resp.head? with
  | some (some _) =>
      let mode ← parseElement resp 0
      return if 2 ≤ mode ∧ mode ≤ 5 then some "0".toList :: resp.tail else resp
  | _ => return resp

def responseUssd (telephony : Telephony) (p : Parcel) : Except Failure (List Action) := do
  let ret ← readStrings telephony p
  let resp ← ussdResponse ret
  return if telephony.ussdRegistrant then [.notifyUssd resp] else []

def responsePsNetworkState (p : Parcel) : Except Failure (List Action) := do
  let ret ← responseInts p
  let state ← firstInt ret
  return if state ≠ 4 then [.notifyVoiceNetworkState] else []

/-- The superclass gets the parcel as it came. -/
def processUnsolicited (telephony : Telephony) (p : Parcel) (type : Int) :
    Except Failure (List Action) :=
  let dataPosition := p.position
  let (response, p) := p.readInt
  if response = unsolResponseRegistrationSuspended then responseRegSuspended p
  else if response = unsolIncomingCallIndication then responseIncomingCallIndication telephony p
  else if response = unsolCallInfoIndication then responseCallProgress telephony p
  else if response = unsolSetAttachApn then .ok [setInitialAttachApn telephony [] [] 0 [] []]
  else if response = unsolOnUssd then responseUssd telephony p
  else if response = unsolResponsePsNetworkStateChanged then responsePsNetworkState p
  else .ok [.forward { p with position := dataPosition } type]

/-- A request, and whether somebody waits for its result. -/
structure RILRequest where
  mSerial : Int
  mRequest : Int
  mResult : Bool
  deriving DecidableEq, Repr

inductive Ret where
  | void
  | strings (response : List (Option JString))
  | dataCall (cid : Int)
  deriving DecidableEq, Repr

/-- With what a result message is sent: the value of a reply, the exception of the work done
before a reply is forwarded, or whatever the superclass made of the reply. -/
inductive Outcome where
  | value (ret : Ret)
  | refused (failure : Failure)
  | library
  deriving DecidableEq, Repr

structure Completion where
  serial : Int
  outcome : Outcome
  deriving DecidableEq, Repr

/-- The instance, with the result messages that it has sent. -/
structure Instance where
  mRequestList : Int → Option RILRequest
  dataCallCids : Table
  properties : SystemProperties
  voiceNetworkNotified : Nat
  completed : List Completion

def Instance.remove (s : Instance) (serial : Int) : Instance :=
  { s with mRequestList := Function.update s.mRequestList serial none }

def Instance.complete (s : Instance) (rr : RILRequest) (outcome : Outcome) : Instance :=
  { s with completed := s.completed ++ if rr.mResult then [⟨rr.mSerial, outcome⟩] else [] }

/-- The superclass. -/
structure Superclass where
  processSolicited :
    Instance → Parcel → Int → Instance × Except Failure (Option RILRequest)
  responseSetupDataCall : Parcel → Except Failure Int

def propValueMax : Nat := 91

/-- `SystemProperties.set` refuses values that are too long. -/
def setProperty (properties : SystemProperties) (key : String) (value : JString) :
    Except Failure SystemProperties :=
  if value.length ≤ propValueMax then .ok (properties.set key value) else .error .illegalArgument

/-- The properties after as much of the update as was done. -/
def refreshEmergencyList (customized : List EccEntry) (properties : SystemProperties) :
    SystemProperties × Except Failure Unit :=
  let slot := fun (properties : SystemProperties) key =>
    setProperty properties key (join ',' (slotList customized (properties key)))
  match slot properties ecclistProperty with
  | .error failure => (properties, .error failure)
  | .ok first =>
      match slot first ecclist1Property with
      | .error failure => (first, .error failure)
      | .ok second => (second, .ok ())

/-- Technologies from 128 on are those of the vendor. -/
def fixupPSBearerDataRegistration (telephony : Telephony) (p : Parcel) :
    Except Failure (List (Option JString)) := do
  let response ← readStrings telephony p
  if 4 ≤ response.length ∧ response.getD 3 none ≠ none then
    let technology ← parseElement response 3
    return if 128 ≤ technology then response.set 3 (some "15".toList) else response
  else return response

/-- The requests whose replies are not left to the superclass. -/
def ownRequests : List Int :=
  [requestEmergencyDial, requestSetEccServiceCategory, requestDataRegistrationState,
    requestSetupDataCall, requestAllowData]

def responseTo (telephony : Telephony) (base : Superclass) (rr : RILRequest) (p : Parcel)
    (s : Instance) : Instance × Except Failure Ret :=
  if rr.mRequest = requestEmergencyDial then (s, .ok .void)
  else if rr.mRequest = requestSetEccServiceCategory then (s, .ok .void)
  else if rr.mRequest = requestDataRegistrationState then
    (s, (fixupPSBearerDataRegistration telephony p).map .strings)
  else if rr.mRequest = requestSetupDataCall then
    match base.responseSetupDataCall p with
    | .error failure => (s, .error failure)
    | .ok cid =>
        ({ s with dataCallCids := fetchCidFromDataCall s.dataCallCids cid }, .ok (.dataCall cid))
  else if rr.mRequest = requestAllowData then
    ({ s with voiceNetworkNotified := s.voiceNetworkNotified + 1 }, .ok .void)
  else (s, .error .runtime)

def processSolicited (telephony : Telephony) (base : Superclass) (customized : List EccEntry)
    (s : Instance) (p : Parcel) (type : Int) :
    Instance × Except Failure (Option RILRequest) :=
  let (serial, p₁) := p.readInt
  let (error, p₂) := p₁.readInt
  match s.mRequestList serial with
  | none => base.processSolicited s p type
  | some tr =>
      if tr.mSerial = serial ∧ (error = 0 ∨ 0 < p₂.dataAvail) then
        if tr.mRequest ∈ ownRequests then
          match responseTo telephony base tr p₂ (s.remove serial) with
          | (s, .error failure) => (s, .error failure)
          | (s, .ok ret) => (s.complete tr (.value ret), .ok (some tr))
        else if tr.mRequest = requestGetSimStatus then
          match refreshEmergencyList customized s.properties with
          | (properties, .error failure) =>
              ({ s with properties := properties }.complete tr (.refused failure), .ok (some tr))
          | (properties, .ok _) =>
              base.processSolicited { s with properties := properties } p type
        else base.processSolicited s p type
      else base.processSolicited s p type

end X5MaxDevice.Ril.Responses
