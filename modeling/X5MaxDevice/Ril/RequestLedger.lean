import X5MaxDevice.Base.Transitions
import X5MaxDevice.Ril.Responses

/-! The requests to the modem daemon over whole runs, with replies in any order, repeated, or to
requests that were never sent. -/

namespace X5MaxDevice.Ril.RequestLedger

open X5MaxDevice.Java
open X5MaxDevice.Ril.DataCalls
open X5MaxDevice.Ril.EccList
open X5MaxDevice.Ril.Responses
open X5MaxDevice.Transitions

/-- The superclass takes the request that a reply belongs to off the list and sends its result
message, whatever it makes of the reply; it ignores other replies. -/
structure Solicits (base : Superclass) : Prop where
  unknown : ∀ s p type, s.mRequestList p.readInt.1 = none →
    base.processSolicited s p type = (s, .ok none)
  known : ∀ s p type rr, s.mRequestList p.readInt.1 = some rr →
    ∃ after, base.processSolicited s p type = (after, .ok (some rr)) ∧
      after.mRequestList = (s.remove p.readInt.1).mRequestList ∧
      after.completed = (s.complete rr .library).completed

/-- The instance, with every request sent and the serials of the replies that made it throw. -/
structure Ledger where
  ril : Instance
  sent : List RILRequest
  thrown : List Int

/-- A request is put on the list when it is sent. -/
def Ledger.register (l : Ledger) (rr : RILRequest) : Ledger :=
  { l with
    ril := { l.ril with
      mRequestList := Function.update l.ril.mRequestList rr.mSerial (some rr) }
    sent := l.sent ++ [rr] }

def Action.sends : Action → Bool
  | .send _ _ => true
  | _ => false

/-- The request that an unsolicited response is answered with, if any. -/
def requestOf (serial : Int) (actions : List Action) : Option RILRequest :=
  actions.findSome? fun action =>
    match action with
    | .send request _ => some ⟨serial, request, false⟩
    | _ => none

section OneRequest

/-- At most one request is sent. -/
def OneRequest (handled : Except Failure (List Action)) : Prop :=
  ∀ actions, handled = .ok actions → (actions.filter Action.sends).length ≤ 1

theorem oneRequest_bind {α : Type} (read : Except Failure α)
    {act : α → Except Failure (List Action)} (one : ∀ value, OneRequest (act value)) :
    OneRequest (read >>= act) := by
  cases read with
  | error failure =>
      intro actions handled
      cases handled
  | ok value => exact one value

theorem oneRequest_error (failure : Failure) : OneRequest (.error failure) := by
  intro actions handled
  cases handled

theorem oneRequest_ok {actions : List Action} (one : (actions.filter Action.sends).length ≤ 1) :
    OneRequest (.ok actions) := by
  intro handled same
  cases same
  exact one

/-- No unsolicited response is answered with two requests. -/
theorem oneRequest_processUnsolicited (telephony : Telephony) (p : Parcel) (type : Int) :
    OneRequest (processUnsolicited telephony p type) := by
  unfold processUnsolicited
  simp only
  split_ifs
  · refine oneRequest_bind _ fun response => oneRequest_bind _ fun session => oneRequest_ok ?_
    simp [List.filter_cons, Action.sends]
  · refine oneRequest_bind _ fun response => oneRequest_bind _ fun mode =>
      oneRequest_bind _ fun callId => oneRequest_bind _ fun seqNumber => oneRequest_ok ?_
    simp [List.filter_cons, Action.sends]
  · refine oneRequest_bind _ fun response => ?_
    split
    · split
      · exact oneRequest_error _
      · apply oneRequest_ok
        split <;> simp [Action.sends]
    · exact oneRequest_ok (by simp)
  · exact oneRequest_ok (by simp [setInitialAttachApn, List.filter_cons, Action.sends])
  · refine oneRequest_bind _ fun ret => oneRequest_bind _ fun resp => oneRequest_ok ?_
    split <;> simp [Action.sends]
  · refine oneRequest_bind _ fun ret => oneRequest_bind _ fun state => oneRequest_ok ?_
    split <;> simp [Action.sends]
  · exact oneRequest_ok (by simp [Action.sends])

end OneRequest

inductive Label where
  | send (rr : RILRequest)
  | unsolicited (p : Parcel) (type serial : Int)
  | reply (p : Parcel) (type : Int)

/-- `RILRequest.obtain` never hands out a serial twice. -/
def Fresh (l : Ledger) (serial : Int) : Prop := ∀ rr ∈ l.sent, rr.mSerial ≠ serial

instance (l : Ledger) (serial : Int) : Decidable (Fresh l serial) :=
  inferInstanceAs (Decidable (∀ rr ∈ l.sent, rr.mSerial ≠ serial))

def afterUnsolicited (telephony : Telephony) (l : Ledger) (p : Parcel) (type serial : Int) :
    Ledger :=
  match processUnsolicited telephony p type with
  | .error _ => l
  | .ok actions => (requestOf serial actions).elim l l.register

def Ledger.replied (l : Ledger) (serial : Int) :
    Instance × Except Failure (Option RILRequest) → Ledger
  | (ril, .error _) => { l with ril := ril, thrown := l.thrown ++ [serial] }
  | (ril, .ok _) => { l with ril := ril }

def afterReply (telephony : Telephony) (base : Superclass) (customized : List EccEntry)
    (l : Ledger) (p : Parcel) (type : Int) : Ledger :=
  l.replied p.readInt.1 (processSolicited telephony base customized l.ril p type)

def step (telephony : Telephony) (base : Superclass) (customized : List EccEntry) (l : Ledger) :
    Label → Option Ledger
  | .send rr => if Fresh l rr.mSerial then some (l.register rr) else none
  | .unsolicited p type serial =>
      if Fresh l serial then some (afterUnsolicited telephony l p type serial) else none
  | .reply p type => some (afterReply telephony base customized l p type)

/-- A new instance. -/
def start (properties : SystemProperties) : Ledger where
  ril := ⟨fun _ => none, DataCalls.initial.dataCallCids, properties, 0, []⟩
  sent := []
  thrown := []

def Outcome.refusing : Outcome → Bool
  | .refused _ => true
  | _ => false

/-- The result messages for a serial, apart from those of a refused refresh of the emergency
numbers. -/
def answersTo (completed : List Completion) (serial : Int) : Nat :=
  completed.countP fun completion =>
    completion.serial == serial && !Outcome.refusing completion.outcome

/-- Where a request that has been sent stands. -/
inductive Standing (l : Ledger) (rr : RILRequest) : Prop
  | pending : l.ril.mRequestList rr.mSerial = some rr → answersTo l.ril.completed rr.mSerial = 0 →
      rr.mSerial ∉ l.thrown → Standing l rr
  | answered : l.ril.mRequestList rr.mSerial = none →
      answersTo l.ril.completed rr.mSerial = (if rr.mResult then 1 else 0) →
      rr.mSerial ∉ l.thrown → Standing l rr
  | dropped : l.ril.mRequestList rr.mSerial = none →
      answersTo l.ril.completed rr.mSerial = 0 → rr.mSerial ∈ l.thrown →
      rr.mRequest ∈ [requestDataRegistrationState, requestSetupDataCall] → Standing l rr

/-- A result message goes to a request that waits for one, and tells of a refused refresh only
where the state of the SIM was asked for. -/
def Owed (l : Ledger) (completion : Completion) : Prop :=
  ∃ rr ∈ l.sent, rr.mSerial = completion.serial ∧ rr.mResult = true ∧
    (Outcome.refusing completion.outcome = true → rr.mRequest = requestGetSimStatus)

structure Accounted (l : Ledger) : Prop where
  distinct : (l.sent.map RILRequest.mSerial).Nodup
  listed : ∀ serial rr, l.ril.mRequestList serial = some rr → rr ∈ l.sent ∧ rr.mSerial = serial
  standing : ∀ rr ∈ l.sent, Standing l rr
  owed : ∀ completion ∈ l.ril.completed, Owed l completion
  dropped : ∀ serial ∈ l.thrown, ∃ rr ∈ l.sent, rr.mSerial = serial

section Solicited

variable {telephony : Telephony} {base : Superclass} {customized : List EccEntry}

/-- What a reply can do. -/
inductive Solicited (s : Instance) (serial : Int) :
    Instance × Except Failure (Option RILRequest) → Prop
  | stray : s.mRequestList serial = none → Solicited s serial (s, .ok none)
  | refused (rr : RILRequest) (failure : Failure) (after : Instance) :
      s.mRequestList serial = some rr → rr.mRequest = requestGetSimStatus →
      after.mRequestList = s.mRequestList →
      after.completed = (s.complete rr (.refused failure)).completed →
      Solicited s serial (after, .ok (some rr))
  | answered (rr : RILRequest) (outcome : Outcome) (after : Instance) :
      s.mRequestList serial = some rr → Outcome.refusing outcome = false →
      after.mRequestList = (s.remove serial).mRequestList →
      after.completed = (s.complete rr outcome).completed →
      Solicited s serial (after, .ok (some rr))
  | thrown (rr : RILRequest) (failure : Failure) (after : Instance) :
      s.mRequestList serial = some rr →
      rr.mRequest ∈ [requestDataRegistrationState, requestSetupDataCall] →
      after.mRequestList = (s.remove serial).mRequestList → after.completed = s.completed →
      Solicited s serial (after, .error failure)

/-- What the superclass does with a request that it is left to. -/
theorem solicited_of_base (solicits : Solicits base) {s t : Instance} {p : Parcel} {type : Int}
    (sameList : t.mRequestList = s.mRequestList) (sameCompleted : t.completed = s.completed)
    (unchanged : s.mRequestList p.readInt.1 = none → t = s) :
    Solicited s p.readInt.1 (base.processSolicited t p type) := by
  cases found : s.mRequestList p.readInt.1 with
  | none =>
      rw [unchanged found, solicits.unknown s p type found]
      exact .stray found
  | some rr =>
      obtain ⟨after, done, list, completed⟩ :=
        solicits.known t p type rr (by rw [sameList, found])
      rw [done]
      apply Solicited.answered rr .library after found rfl
      · simpa [Instance.remove, sameList] using list
      · simpa [Instance.complete, sameCompleted] using completed

/-- The branch that should not be reached is not. -/
theorem responseTo_cases (telephony : Telephony) (base : Superclass) {rr : RILRequest}
    (own : rr.mRequest ∈ ownRequests) (p : Parcel) (s : Instance) :
    ∃ after outcome, responseTo telephony base rr p s = (after, outcome) ∧
      after.mRequestList = s.mRequestList ∧ after.completed = s.completed ∧
      ∀ failure, outcome = .error failure →
        rr.mRequest ∈ [requestDataRegistrationState, requestSetupDataCall] := by
  simp only [ownRequests, List.mem_cons, List.not_mem_nil, or_false] at own
  rcases own with dial | category | registration | setup | allow
  · exact ⟨s, .ok .void, by simp [responseTo, dial], rfl, rfl, by simp⟩
  · refine ⟨s, .ok .void, ?_, rfl, rfl, by simp⟩
    simp [responseTo, category]
  · refine ⟨s, (fixupPSBearerDataRegistration telephony p).map .strings, ?_, rfl, rfl,
      by simp [registration]⟩
    simp only [responseTo, registration]
    rfl
  · cases read : base.responseSetupDataCall p with
    | error failure =>
        refine ⟨s, .error failure, ?_, rfl, rfl, by simp [setup]⟩
        simp only [responseTo, setup, read]
        rfl
    | ok cid =>
        refine ⟨{ s with dataCallCids := fetchCidFromDataCall s.dataCallCids cid },
          .ok (.dataCall cid), ?_, rfl, rfl, by simp⟩
        simp only [responseTo, setup, read]
        rfl
  · refine ⟨{ s with voiceNetworkNotified := s.voiceNetworkNotified + 1 }, .ok .void, ?_, rfl, rfl,
      by simp⟩
    simp only [responseTo, allow]
    rfl

theorem solicited_of_processSolicited (solicits : Solicits base) (s : Instance) (p : Parcel)
    (type : Int) :
    Solicited s p.readInt.1 (processSolicited telephony base customized s p type) := by
  have left : Solicited s p.readInt.1 (base.processSolicited s p type) :=
    solicited_of_base solicits rfl rfl (fun _ => rfl)
  cases found : s.mRequestList p.readInt.1 with
  | none => simpa [processSolicited, found] using left
  | some tr =>
      simp only [processSolicited, found]
      split
      · split
        · rename_i own
          obtain ⟨after, outcome, done, list, completed, throwing⟩ :=
            responseTo_cases telephony base own p.readInt.2.readInt.2 (s.remove p.readInt.1)
          rw [done]
          cases outcome with
          | error failure =>
              exact .thrown tr failure after found (throwing failure rfl) list completed
          | ok ret =>
              apply Solicited.answered tr (.value ret) _ found rfl
              · simpa [Instance.complete] using list
              · simp [Instance.complete, completed, Instance.remove]
        · split
          · rename_i simStatus
            cases refreshed : refreshEmergencyList customized s.properties with
            | mk properties result =>
                cases result with
                | error failure =>
                    exact .refused tr failure _ found simStatus rfl rfl
                | ok _ =>
                    exact solicited_of_base solicits rfl rfl (by simp [found])
          · exact left
      · exact left

end Solicited

section Answers

variable {completed : List Completion} {serial : Int}

theorem answersTo_append (completed more : List Completion) (serial : Int) :
    answersTo (completed ++ more) serial = answersTo completed serial + answersTo more serial := by
  simp [answersTo]

/-- The result messages of one request do not count for another. -/
theorem answersTo_complete (s : Instance) (rr : RILRequest) (outcome : Outcome) (serial : Int) :
    answersTo (s.complete rr outcome).completed serial = answersTo s.completed serial +
      if rr.mSerial = serial ∧ rr.mResult = true ∧ Outcome.refusing outcome = false then 1
      else 0 := by
  rw [Instance.complete, answersTo_append]
  cases waited : rr.mResult <;> cases refusing : Outcome.refusing outcome <;>
    simp [answersTo, refusing, List.countP_cons]

end Answers

section Steps

variable {telephony : Telephony} {base : Superclass} {customized : List EccEntry} {l : Ledger}

theorem Accounted.unique (accounted : Accounted l) {rr other : RILRequest} (sent : rr ∈ l.sent)
    (otherSent : other ∈ l.sent) (same : rr.mSerial = other.mSerial) : rr = other :=
  List.inj_on_of_nodup_map accounted.distinct sent otherSent same

/-- Requests that a step does not concern stand where they stood. -/
theorem Standing.other {l l' : Ledger} {rr : RILRequest} (standing : Standing l rr)
    (list : l'.ril.mRequestList rr.mSerial = l.ril.mRequestList rr.mSerial)
    (answers : answersTo l'.ril.completed rr.mSerial = answersTo l.ril.completed rr.mSerial)
    (thrown : rr.mSerial ∈ l'.thrown ↔ rr.mSerial ∈ l.thrown) : Standing l' rr := by
  rcases standing with ⟨listed, none, kept⟩ | ⟨gone, once, kept⟩ | ⟨gone, none, lost, kind⟩
  · exact .pending (by rw [list, listed]) (by rw [answers, none]) (by rwa [thrown])
  · exact .answered (by rw [list, gone]) (by rw [answers, once]) (by rwa [thrown])
  · exact .dropped (by rw [list, gone]) (by rw [answers, none]) (by rwa [thrown]) kind

theorem Owed.later {l l' : Ledger} {completion : Completion} (owed : Owed l completion)
    (sent : ∀ rr ∈ l.sent, rr ∈ l'.sent) : Owed l' completion := by
  obtain ⟨rr, member, rest⟩ := owed
  exact ⟨rr, sent rr member, rest⟩

theorem accounted_start (properties : SystemProperties) : Accounted (start properties) := by
  constructor <;> simp [start]

/-- Nothing is known yet of a serial that nobody has been given. -/
theorem Accounted.fresh (accounted : Accounted l) {serial : Int} (fresh : Fresh l serial) :
    answersTo l.ril.completed serial = 0 ∧ serial ∉ l.thrown := by
  constructor
  · simp only [answersTo, List.countP_eq_zero, Bool.and_eq_true, beq_iff_eq, not_and]
    intro completion member same
    obtain ⟨rr, sent, serials, -⟩ := accounted.owed completion member
    exact absurd (serials.trans same) (fresh rr sent)
  · intro thrown
    obtain ⟨rr, sent, same⟩ := accounted.dropped serial thrown
    exact fresh rr sent same

theorem accounted_register (accounted : Accounted l) {rr : RILRequest}
    (fresh : Fresh l rr.mSerial) : Accounted (l.register rr) where
  distinct := by
    simp only [Ledger.register, List.map_append, List.map_cons, List.map_nil]
    rw [List.nodup_append]
    refine ⟨accounted.distinct, List.nodup_singleton _, ?_⟩
    intro serial member other same
    obtain ⟨sent, inside, rfl⟩ := List.mem_map.mp member
    rw [List.mem_singleton] at same
    rw [same]
    exact fresh sent inside
  listed := by
    intro serial found listed
    by_cases same : serial = rr.mSerial
    · subst same
      simp only [Ledger.register, Function.update_self, Option.some.injEq] at listed
      subst listed
      simp [Ledger.register]
    · simp only [Ledger.register, Function.update_of_ne same] at listed
      obtain ⟨sent, serials⟩ := accounted.listed serial found listed
      exact ⟨by simp [Ledger.register, sent], serials⟩
  standing := by
    intro sent member
    simp only [Ledger.register, List.mem_append, List.mem_singleton] at member
    rcases member with before | rfl
    · apply (accounted.standing sent before).other
      · simp [Ledger.register, Function.update_of_ne (fresh sent before)]
      · rfl
      · rfl
    · obtain ⟨unanswered, kept⟩ := accounted.fresh fresh
      exact .pending (by simp [Ledger.register]) unanswered kept
  owed := by
    intro completion member
    exact (accounted.owed completion member).later (by simp [Ledger.register]; tauto)
  dropped := by
    intro serial thrown
    obtain ⟨sent, member, same⟩ := accounted.dropped serial thrown
    exact ⟨sent, by simp [Ledger.register, member], same⟩

/-- A request on the list waits for its reply. -/
theorem Accounted.pending (accounted : Accounted l) {serial : Int} {rr : RILRequest}
    (found : l.ril.mRequestList serial = some rr) :
    rr ∈ l.sent ∧ rr.mSerial = serial ∧ answersTo l.ril.completed serial = 0 ∧
      serial ∉ l.thrown := by
  obtain ⟨sent, same⟩ := accounted.listed serial rr found
  subst same
  rcases accounted.standing rr sent with ⟨-, none, kept⟩ | ⟨gone, -, -⟩ | ⟨gone, -, -, -⟩
  · exact ⟨sent, rfl, none, kept⟩
  · simp [gone] at found
  · simp [gone] at found

theorem owed_complete (accounted : Accounted l) {l' : Ledger} {rr : RILRequest}
    {outcome : Outcome} (sent : rr ∈ l.sent) (sameSent : l'.sent = l.sent)
    (completed : l'.ril.completed = (l.ril.complete rr outcome).completed)
    (refusing : Outcome.refusing outcome = true → rr.mRequest = requestGetSimStatus) :
    ∀ completion ∈ l'.ril.completed, Owed l' completion := by
  intro completion member
  rw [completed, Instance.complete, List.mem_append] at member
  rcases member with before | new
  · exact (accounted.owed completion before).later (by simp [sameSent])
  · split at new
    · rename_i waited
      rw [List.mem_singleton] at new
      subst new
      exact ⟨rr, by rw [sameSent]; exact sent, rfl, waited, refusing⟩
    · cases new

theorem accounted_refused (accounted : Accounted l) {serial : Int} {rr : RILRequest}
    {failure : Failure} {after : Instance} (found : l.ril.mRequestList serial = some rr)
    (simStatus : rr.mRequest = requestGetSimStatus)
    (list : after.mRequestList = l.ril.mRequestList)
    (completed : after.completed = (l.ril.complete rr (.refused failure)).completed) :
    Accounted { l with ril := after } where
  distinct := accounted.distinct
  listed := by
    intro key other listed
    exact accounted.listed key other (by rw [← list]; exact listed)
  standing := by
    intro sent member
    apply (accounted.standing sent member).other
    · simp [list]
    · simp [completed, answersTo_complete, Outcome.refusing]
    · rfl
  owed :=
    owed_complete accounted (accounted.pending found).1 rfl completed (fun _ => simStatus)
  dropped := accounted.dropped

theorem listed_remove (accounted : Accounted l) {serial : Int} {after : Instance}
    (list : after.mRequestList = (l.ril.remove serial).mRequestList) (key : Int)
    (rr : RILRequest) (listed : after.mRequestList key = some rr) :
    rr ∈ l.sent ∧ rr.mSerial = key := by
  rw [list] at listed
  simp only [Instance.remove] at listed
  by_cases same : key = serial
  · simp [same] at listed
  · rw [Function.update_of_ne same] at listed
    exact accounted.listed key rr listed

theorem accounted_answered (accounted : Accounted l) {serial : Int} {rr : RILRequest}
    {outcome : Outcome} {after : Instance} (found : l.ril.mRequestList serial = some rr)
    (final : Outcome.refusing outcome = false)
    (list : after.mRequestList = (l.ril.remove serial).mRequestList)
    (completed : after.completed = (l.ril.complete rr outcome).completed) :
    Accounted { l with ril := after } := by
  obtain ⟨sent, same, none, kept⟩ := accounted.pending found
  exact {
    distinct := accounted.distinct
    listed := listed_remove accounted list
    standing := by
      intro other member
      by_cases concerned : other.mSerial = serial
      · obtain rfl := accounted.unique member sent (concerned.trans same.symm)
        subst same
        refine .answered (by simp [list, Instance.remove]) ?_ kept
        simp [completed, answersTo_complete, none, final]
      · apply (accounted.standing other member).other
        · simp [list, Instance.remove, Function.update_of_ne concerned]
        · have apart : rr.mSerial ≠ other.mSerial := by
            rw [same]
            exact Ne.symm concerned
          simp [completed, answersTo_complete, apart]
        · rfl
    owed := owed_complete accounted sent rfl completed (by simp [final])
    dropped := accounted.dropped }

theorem accounted_thrown (accounted : Accounted l) {serial : Int} {rr : RILRequest}
    {after : Instance} (found : l.ril.mRequestList serial = some rr)
    (kind : rr.mRequest ∈ [requestDataRegistrationState, requestSetupDataCall])
    (list : after.mRequestList = (l.ril.remove serial).mRequestList)
    (completed : after.completed = l.ril.completed) :
    Accounted { l with ril := after, thrown := l.thrown ++ [serial] } := by
  obtain ⟨sent, same, none, -⟩ := accounted.pending found
  exact {
    distinct := accounted.distinct
    listed := listed_remove accounted list
    standing := by
      intro other member
      by_cases concerned : other.mSerial = serial
      · obtain rfl := accounted.unique member sent (concerned.trans same.symm)
        subst same
        exact .dropped (by simp [list, Instance.remove]) (by simp [completed, none]) (by simp) kind
      · apply (accounted.standing other member).other
        · simp [list, Instance.remove, Function.update_of_ne concerned]
        · simp [completed]
        · simp [concerned]
    owed := by
      intro completion member
      rw [completed] at member
      exact accounted.owed completion member
    dropped := by
      intro key thrown
      rw [List.mem_append, List.mem_singleton] at thrown
      rcases thrown with before | rfl
      · exact accounted.dropped key before
      · exact ⟨rr, sent, same⟩ }

theorem accounted_replied (accounted : Accounted l) {serial : Int}
    {result : Instance × Except Failure (Option RILRequest)}
    (solicited : Solicited l.ril serial result) : Accounted (l.replied serial result) := by
  cases solicited with
  | stray => exact accounted
  | refused rr failure after found simStatus list completed =>
      exact accounted_refused accounted found simStatus list completed
  | answered rr outcome after found final list completed =>
      exact accounted_answered accounted found final list completed
  | thrown rr failure after found kind list completed =>
      exact accounted_thrown accounted found kind list completed

theorem serial_requestOf {serial : Int} {actions : List Action} {rr : RILRequest}
    (found : requestOf serial actions = some rr) : rr.mSerial = serial ∧ rr.mResult = false := by
  obtain ⟨action, -, made⟩ := List.exists_of_findSome?_eq_some found
  cases action <;> simp at made
  simp [← made]

theorem accounted_afterUnsolicited (accounted : Accounted l) {p : Parcel} {type serial : Int}
    (fresh : Fresh l serial) : Accounted (afterUnsolicited telephony l p type serial) := by
  unfold afterUnsolicited
  split
  · exact accounted
  · rename_i actions _
    cases found : requestOf serial actions with
    | none => exact accounted
    | some rr =>
        apply accounted_register accounted
        rw [(serial_requestOf found).1]
        exact fresh

theorem accounted_step (solicits : Solicits base) {l' : Ledger} {label : Label}
    (accounted : Accounted l) (stepped : step telephony base customized l label = some l') :
    Accounted l' := by
  cases label with
  | send rr =>
      simp only [step, Option.ite_none_right_eq_some, Option.some.injEq] at stepped
      obtain ⟨fresh, rfl⟩ := stepped
      exact accounted_register accounted fresh
  | unsolicited p type serial =>
      simp only [step, Option.ite_none_right_eq_some, Option.some.injEq] at stepped
      obtain ⟨fresh, rfl⟩ := stepped
      exact accounted_afterUnsolicited accounted fresh
  | reply p type =>
      simp only [step, Option.some.injEq] at stepped
      subst stepped
      exact accounted_replied accounted (solicited_of_processSolicited solicits l.ril p type)

/-- Every request waits for its reply, or has been answered once if somebody waits for the result,
or its reply could not be read. -/
theorem requests_accounted (solicits : Solicits base) (properties : SystemProperties)
    (reached : Reaches (step telephony base customized) (start properties) l) : Accounted l :=
  reached.invariant (accounted_start properties)
    (fun _ _ _ accounted stepped => accounted_step solicits accounted stepped)

end Steps

/-- A superclass that reads the cid of a data call and does nothing else with replies. -/
def plainSuperclass : Superclass where
  processSolicited s p _ :=
    match s.mRequestList p.readInt.1 with
    | none => (s, .ok none)
    | some rr => ((s.remove p.readInt.1).complete rr .library, .ok (some rr))
  responseSetupDataCall p := .ok p.readInt.1

theorem plainSuperclass_solicits : Solicits plainSuperclass where
  unknown := by
    intro s p type found
    simp [plainSuperclass, found]
  known := by
    intro s p type rr found
    simp [plainSuperclass, found, Instance.complete, Instance.remove]

/-- A data call is set up, registration is resumed, and the reply to the setup comes twice. -/
def setupThenSuspension : List Label :=
  [.send ⟨1, requestSetupDataCall, true⟩,
    .unsolicited ⟨[unsolResponseRegistrationSuspended, 1, 7], 0⟩ 1 2,
    .reply ⟨[1, 0, 5], 0⟩ 0, .reply ⟨[1, 0, 5], 0⟩ 0]

theorem setupThenSuspension_accounted :
    ∃ l, run (step ⟨fun _ => none, [], false⟩ plainSuperclass []) (start fun _ => [])
        setupThenSuspension = some l ∧
      l.ril.completed = [⟨1, .value (.dataCall 5)⟩] ∧
      l.sent = [⟨1, requestSetupDataCall, true⟩, ⟨2, requestResumeRegistration, false⟩] ∧
      Accounted l := by
  refine ⟨_, rfl, rfl, rfl, ?_⟩
  exact requests_accounted plainSuperclass_solicits _ (reaches_of_run setupThenSuspension rfl)

end X5MaxDevice.Ril.RequestLedger
