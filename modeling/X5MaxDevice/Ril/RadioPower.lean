import X5MaxDevice.Base.History
import X5MaxDevice.Base.Java
import X5MaxDevice.Base.Transitions

/-! The modem power requests that `MT6735.setRadioPower` sends, over every history of
calls from the RIL instances that share the airplane-mode property. -/

namespace X5MaxDevice.Ril.RadioPower

open X5MaxDevice.History
open X5MaxDevice.Java
open X5MaxDevice.Transitions

/-- What one call sends to the modem. `setRadioPower` is the request of the superclass. -/
inductive Request where
  | modemPoweroff
  | modemPoweron
  | setRadioPower (on : Bool)
  deriving DecidableEq, Repr

/-- One call: the instance it is made on, its argument and the value of the global
airplane-mode setting that it reads. -/
structure Call where
  instanceId : Nat
  on : Bool
  airplaneModeOn : Int
  deriving DecidableEq, Repr

def Call.isInApm (call : Call) : Bool := decide (call.airplaneModeOn = 1)

/-- The shared properties and the requests sent so far, each with its instance. -/
structure State where
  properties : SystemProperties
  sent : List (Nat × Request)

def airplaneProperty : String := "persist.radio.airplane.mode.on"
def ebootProperty : String := "gsm.ril.eboot"

def State.wasInApm (s : State) : Bool := decide (s.properties airplaneProperty = "true".toList)

def State.setProperty (s : State) (key : String) (value : JString) : State :=
  { s with properties := s.properties.set key value }

def State.send (s : State) (call : Call) (request : Request) : State :=
  { s with sent := s.sent ++ [(call.instanceId, request)] }

def setRadioPower (s : State) (call : Call) : State :=
  let isInApm := call.isInApm
  let wasInApm := s.wasInApm
  let s := s.setProperty airplaneProperty (if isInApm then "true".toList else "false".toList)
  if call.on && wasInApm && !isInApm then
    (s.setProperty ebootProperty "0".toList).send call .modemPoweron
  else if !call.on && isInApm then
    (s.setProperty ebootProperty "1".toList).send call .modemPoweroff
  else
    s.send call (.setRadioPower call.on)

def step (s : State) (call : Call) : Option State := some (setRadioPower s call)

def initial (properties : SystemProperties) : State := ⟨properties, []⟩

/-- The most recent modem power request, if one was sent. -/
def lastModemRequest : List (Nat × Request) → Option Request
  | [] => none
  | (_, request) :: rest =>
      (lastModemRequest rest).or
        (match request with
          | .setRadioPower _ => none
          | request => some request)

/-- No plain power-on request is sent while the modem is powered off. -/
def PowerLaw (sent : List (Nat × Request)) : Prop :=
  AtEach (fun before event => event.2 = .setRadioPower true →
    lastModemRequest before ≠ some .modemPoweroff) sent

/-- A call that turns the radio on while the modem is powered off is made right after the
power-off request, and reads the airplane mode as off. -/
def PromptPoweron (s : State) (call : Call) : Prop :=
  call.on = true → lastModemRequest s.sent = some .modemPoweroff →
    s.sent.getLast?.map Prod.snd = some .modemPoweroff ∧ call.isInApm = false

instance (s : State) (call : Call) : Decidable (PromptPoweron s call) :=
  inferInstanceAs (Decidable (_ → _ → _))

/-- The request of a call depends on the shared property and on the call only. -/
def request (wasInApm : Bool) (call : Call) : Request :=
  if call.on && wasInApm && !call.isInApm then .modemPoweron
  else if !call.on && call.isInApm then .modemPoweroff
  else .setRadioPower call.on

theorem setProperty_same (s : State) (key : String) (value : JString) :
    (s.setProperty key value).properties key = value :=
  set_same s.properties key value

theorem setProperty_other (s : State) (value : JString) {key other : String}
    (distinct : other ≠ key) :
    (s.setProperty key value).properties other = s.properties other :=
  set_other s.properties value distinct

theorem setProperty_sent (s : State) (key : String) (value : JString) :
    (s.setProperty key value).sent = s.sent := rfl

theorem send_sent (s : State) (call : Call) (request : Request) :
    (s.send call request).sent = s.sent ++ [(call.instanceId, request)] := rfl

theorem send_properties (s : State) (call : Call) (request : Request) :
    (s.send call request).properties = s.properties := rfl

theorem setRadioPower_sent (s : State) (call : Call) :
    (setRadioPower s call).sent =
      s.sent ++ [(call.instanceId, request s.wasInApm call)] := by
  rw [setRadioPower, request]
  generalize (if call.isInApm then "true".toList else "false".toList) = mode
  by_cases poweron : (call.on && s.wasInApm && !call.isInApm) = true
  · rw [if_pos poweron, if_pos poweron, send_sent, setProperty_sent, setProperty_sent]
  · rw [if_neg poweron, if_neg poweron]
    by_cases poweroff : (!call.on && call.isInApm) = true
    · rw [if_pos poweroff, if_pos poweroff, send_sent, setProperty_sent, setProperty_sent]
    · rw [if_neg poweroff, if_neg poweroff, send_sent, setProperty_sent]

theorem setRadioPower_airplaneProperty (s : State) (call : Call) :
    (setRadioPower s call).properties airplaneProperty =
      if call.isInApm then "true".toList else "false".toList := by
  have distinct : airplaneProperty ≠ ebootProperty := by decide
  rw [setRadioPower]
  generalize (if call.isInApm then "true".toList else "false".toList) = mode
  by_cases poweron : (call.on && s.wasInApm && !call.isInApm) = true
  · rw [if_pos poweron, send_properties, setProperty_other _ _ distinct, setProperty_same]
  · rw [if_neg poweron]
    by_cases poweroff : (!call.on && call.isInApm) = true
    · rw [if_pos poweroff, send_properties, setProperty_other _ _ distinct, setProperty_same]
    · rw [if_neg poweroff, send_properties, setProperty_same]

/-- After a call the shared property holds the airplane mode which that call read. -/
theorem setRadioPower_wasInApm (s : State) (call : Call) :
    (setRadioPower s call).wasInApm = call.isInApm := by
  rw [State.wasInApm, setRadioPower_airplaneProperty]
  cases call.isInApm <;> decide

/-- While the power-off request is the last one sent, the shared property reads "true". -/
def OffRemembered (s : State) : Prop :=
  s.sent.getLast?.map Prod.snd = some .modemPoweroff → s.wasInApm = true

theorem setRadioPower_offRemembered (s : State) (call : Call) :
    OffRemembered (setRadioPower s call) := by
  intro last
  rw [setRadioPower_wasInApm]
  rw [setRadioPower_sent, List.getLast?_concat] at last
  simp only [Option.map_some, Option.some.injEq, request] at last
  split at last
  · cases last
  · split at last
    · rename_i poweroff
      simp only [Bool.and_eq_true] at poweroff
      exact poweroff.2
    · cases last

/-- A prompt call that turns the radio on while the modem is off sends the power-on request. -/
theorem request_of_prompt {s : State} {call : Call} (remembered : OffRemembered s)
    (prompt : PromptPoweron s call) (on : call.on = true)
    (off : lastModemRequest s.sent = some .modemPoweroff) :
    request s.wasInApm call = .modemPoweron := by
  obtain ⟨last, outside⟩ := prompt on off
  simp [request, on, remembered last, outside]

structure Invariant (s : State) : Prop where
  law : PowerLaw s.sent
  remembered : OffRemembered s

theorem initial_invariant (properties : SystemProperties) : Invariant (initial properties) :=
  ⟨atEach_nil _, by simp [OffRemembered, initial]⟩

theorem step_invariant {s s' : State} {call : Call} (holds : Invariant s)
    (prompt : PromptPoweron s call) (stepped : step s call = some s') : Invariant s' := by
  obtain rfl : setRadioPower s call = s' := by simpa [step] using stepped
  refine ⟨?_, setRadioPower_offRemembered s call⟩
  rw [setRadioPower_sent]
  refine holds.law.snoc ?_
  intro plain off
  have on : call.on = true := by
    rw [request] at plain
    split at plain
    · cases plain
    · split at plain
      · cases plain
      · simpa using plain
  have poweron := request_of_prompt holds.remembered prompt on off
  cases plain.symm.trans poweron

/-- In every run whose power-on calls are prompt, no plain power-on request is sent while
the modem is off, and a call that turns the radio on then sends the modem power-on. -/
theorem prompt_runs_power_on_first (properties : SystemProperties) (s : State)
    (reached : ReachesWhere PromptPoweron step (initial properties) s) :
    PowerLaw s.sent ∧
      ∀ call, PromptPoweron s call → call.on = true →
        lastModemRequest s.sent = some .modemPoweroff →
        (setRadioPower s call).sent = s.sent ++ [(call.instanceId, .modemPoweron)] := by
  have kept : Invariant s :=
    ReachesWhere.invariant reached (initial_invariant properties) (fun _ _ _ => step_invariant)
  refine ⟨kept.law, ?_⟩
  intro call prompt on off
  rw [setRadioPower_sent, request_of_prompt kept.remembered prompt on off]

def offInAirplane : Call := ⟨0, false, 1⟩
def offOutside : Call := ⟨1, false, 0⟩
def onOutside : Call := ⟨0, true, 0⟩

theorem prompt_run_power_on_first :
    PowerLaw (setRadioPower (setRadioPower (initial fun _ => []) offInAirplane) onOutside).sent :=
  (prompt_runs_power_on_first (fun _ => []) _
    (reachesWhere_of_run [offInAirplane, onOutside] rfl)).1

/-- Powered off in airplane mode, then a second off call outside it: the property no longer
tells, and the next power-on call sends the plain request. -/
theorem plain_power_on_while_modem_off :
    ¬ ∀ properties s, Reaches step (initial properties) s → PowerLaw s.sent := by
  intro law
  have reached : Reaches step (initial fun _ => [])
      (setRadioPower (setRadioPower (setRadioPower (initial fun _ => [])
        offInAirplane) offOutside) onOutside) :=
    reaches_of_run [offInAirplane, offOutside, onOutside] rfl
  refine law _ _ reached [(0, .modemPoweroff), (1, .setRadioPower false)]
    (0, .setRadioPower true) [] ?_ rfl (by decide)
  simp only [setRadioPower_sent, setRadioPower_wasInApm]
  decide

end X5MaxDevice.Ril.RadioPower
