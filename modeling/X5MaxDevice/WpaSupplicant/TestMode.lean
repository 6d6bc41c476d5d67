import X5MaxDevice.Base.Numerals

/-! Test mode commands of the driver: the messages that are received until one of them ends the
wait, and the attributes that the handler of a reply stores. -/

namespace X5MaxDevice.WpaSupplicant.TestMode

open X5MaxDevice.Numerals

abbrev Bytes := List UInt8

/-- What stands between a key and its value in a report, and behind the value. -/
def equals : UInt8 := ascii '='
def newline : UInt8 := ascii '\n'

/-- The test data of a reply. The policy of the handler asks for `width` bytes. -/
structure Attributes (ι : Type) (width : ι → Nat) where
  payload : ι → Option Bytes
  policy : ∀ i bytes, payload i = some bytes → width i ≤ bytes.length

section Exchange

variable {ι σ : Type} {width : ι → Nat}

/-- A message as it is handed to the callbacks. A reply may lack test data, or have some that
the policy refuses. -/
inductive Message (ι : Type) (width : ι → Nat) where
  | valid (sinfo : Option (Attributes ι width))
  | ack
  | finish
  | error (error : Int)

/-- One call of `nl_recvmsgs`, with `err` and what the handler fills in. An acknowledgement
stops it. -/
def nlRecvmsgs (handler : Option (Attributes ι width) → σ → σ) :
    List (Message ι width) → Int × σ → Int × σ
  | [], s => s
  | .valid sinfo :: rest, (err, data) => nlRecvmsgs handler rest (err, handler sinfo data)
  | .ack :: _, (_, data) => (0, data)
  | .finish :: rest, (_, data) => nlRecvmsgs handler rest (0, data)
  | .error error :: rest, (_, data) => nlRecvmsgs handler rest (error, data)

/-- The loop of calls; none if they do not end it. -/
def receive (handler : Option (Attributes ι width) → σ → σ) :
    List (List (Message ι width)) → Int × σ → Option (Int × σ)
  | [], s => if 0 < s.1 then none else some s
  | call :: rest, s => if 0 < s.1 then receive handler rest (nlRecvmsgs handler call s) else some s

/-- `sent` is the result of sending the command, negative also if there is no callback set. -/
def sendAndRecvMsgs (sent : Int) (handler : Option (Attributes ι width) → σ → σ)
    (calls : List (List (Message ι width))) (data : σ) : Option (Int × σ) :=
  if sent < 0 then some (sent, data) else receive handler calls (1, data)

/-- The replies in one call, and the value of `err` behind it. -/
def replies : List (Message ι width) → List (Option (Attributes ι width))
  | [] => []
  | .valid sinfo :: rest => sinfo :: replies rest
  | .ack :: _ => []
  | .finish :: rest | .error _ :: rest => replies rest

def errAfter : List (Message ι width) → Int → Int
  | [], err => err
  | .valid _ :: rest, err => errAfter rest err
  | .ack :: _, _ => 0
  | .finish :: rest, _ => errAfter rest 0
  | .error error :: rest, _ => errAfter rest error

/-- The value of `err` behind the loop; it waits for more where that is positive. -/
def ending : List (List (Message ι width)) → Int → Int
  | [], err => err
  | call :: rest, err => if 0 < err then ending rest (errAfter call err) else err

/-- The replies up to the end of the loop. -/
def handled : List (List (Message ι width)) → Int → List (Option (Attributes ι width))
  | [], _ => []
  | call :: rest, err => if 0 < err then replies call ++ handled rest (errAfter call err) else []

/-- The error that the command ends with, or 0; more than that while it waits. -/
def outcome (sent : Int) (calls : List (List (Message ι width))) : Int :=
  if sent < 0 then sent else ending calls 1

variable {handler : Option (Attributes ι width) → σ → σ}

theorem nlRecvmsgs_eq (messages : List (Message ι width)) (s : Int × σ) :
    nlRecvmsgs handler messages s = (errAfter messages s.1,
      (replies messages).foldl (fun data sinfo => handler sinfo data) s.2) := by
  induction messages generalizing s with
  | nil => rfl
  | cons message rest ih =>
      cases message with
      | valid sinfo => exact ih (s.1, handler sinfo s.2)
      | ack => rfl
      | finish => exact ih (0, s.2)
      | error error => exact ih (error, s.2)

/-- The loop ends with the handler having had each reply in order. -/
theorem receive_eq (calls : List (List (Message ι width))) (s : Int × σ) :
    receive handler calls s = if 0 < ending calls s.1 then none else some (ending calls s.1,
      (handled calls s.1).foldl (fun data sinfo => handler sinfo data) s.2) := by
  induction calls generalizing s with
  | nil => rfl
  | cons call rest ih =>
      rw [receive, ending, handled]
      by_cases waits : 0 < s.1
      · rw [if_pos waits, if_pos waits, if_pos waits, ih, nlRecvmsgs_eq, List.foldl_append]
      · rw [if_neg waits, if_neg waits, if_neg waits, if_neg waits, List.foldl_nil]

/-- A caller gives up after an error, and goes on with what the handler has filled in. -/
theorem answer_eq {γ : Type} (failure : γ) (report : σ → γ) (sent : Int)
    (calls : List (List (Message ι width))) (data : σ) :
    ((sendAndRecvMsgs sent handler calls data).map fun answer =>
        if answer.1 < 0 then failure else report answer.2) =
      if 0 < outcome sent calls then none
      else some (if outcome sent calls < 0 then failure
        else report ((handled calls 1).foldl (fun data sinfo => handler sinfo data) data)) := by
  rw [sendAndRecvMsgs, outcome]
  by_cases unsent : sent < 0
  · rw [if_pos unsent, if_pos unsent, if_neg (by omega), if_pos unsent, Option.map_some,
      if_pos unsent]
  · rw [if_neg unsent, if_neg unsent, receive_eq]
    by_cases waits : 0 < ending calls 1
    · rw [if_pos waits, if_pos waits, Option.map_none]
    · rw [if_neg waits, if_neg waits, Option.map_some]

end Exchange

section Handler

variable {ι σ β : Type} {width : ι → Nat}

def storeIfPresent (store : ι → Bytes → σ → σ) (sinfo : Attributes ι width) (data : σ) (i : ι) :
    σ :=
  match sinfo.payload i with
  | some bytes => store i bytes data
  | none => data

/-- The handlers of the replies differ in their attributes and where they store them. -/
def testmodeHandler (indices : List ι) (store : ι → Bytes → σ → σ) :
    Option (Attributes ι width) → σ → σ
  | none, data => data
  | some sinfo, data => indices.foldl (storeIfPresent store sinfo) data

/-- Each attribute has a place of its own. -/
structure Separate [DecidableEq ι] (store : ι → Bytes → σ → σ) (get : ι → σ → β)
    (value : ι → Bytes → β) : Prop where
  get_store : ∀ i j bytes data,
    get i (store j bytes data) = if i = j then value i bytes else get i data

/-- The last payload of an attribute in a sequence of replies. -/
def lastPayload (sinfos : List (Option (Attributes ι width))) (i : ι) : Option Bytes :=
  (sinfos.filterMap fun sinfo => sinfo.bind (·.payload i)).getLast?

variable [DecidableEq ι] {store : ι → Bytes → σ → σ} {get : ι → σ → β} {value : ι → Bytes → β}

theorem get_storeIfPresent (separate : Separate store get value) (sinfo : Attributes ι width)
    (i j : ι) (data : σ) : get i (storeIfPresent store sinfo data j) =
      if i = j then ((sinfo.payload i).map (value i)).getD (get i data) else get i data := by
  rw [storeIfPresent]
  split
  · rename_i bytes present
    rw [separate.get_store]
    split
    · rename_i same
      rw [same, present, Option.map_some, Option.getD_some]
    · rfl
  · rename_i absent
    split
    · rename_i same
      rw [same, absent, Option.map_none, Option.getD_none]
    · rfl

theorem get_foldl (separate : Separate store get value) (sinfo : Attributes ι width) (i : ι)
    (indices : List ι) (data : σ) : get i (indices.foldl (storeIfPresent store sinfo) data) =
      if i ∈ indices then ((sinfo.payload i).map (value i)).getD (get i data) else get i data := by
  induction indices generalizing data with
  | nil => simp
  | cons j rest ih =>
      rw [List.foldl_cons, ih, get_storeIfPresent separate]
      by_cases same : i = j
      · subst same
        cases sinfo.payload i <;> simp
      · simp [same]

/-- What is in the place of an attribute is its last payload, if there was one. -/
theorem get_replies (separate : Separate store get value) {indices : List ι} {i : ι}
    (member : i ∈ indices) (sinfos : List (Option (Attributes ι width))) (data : σ) :
    get i (sinfos.foldl (fun data sinfo => testmodeHandler indices store sinfo data) data) =
      ((lastPayload sinfos i).map (value i)).getD (get i data) := by
  induction sinfos generalizing data with
  | nil => rfl
  | cons sinfo rest ih =>
      rw [List.foldl_cons, ih, lastPayload, lastPayload]
      cases sinfo with
      | none => rfl
      | some sinfo =>
          rw [testmodeHandler, get_foldl separate, if_pos member]
          cases present : sinfo.payload i with
          | none => simp [present]
          | some bytes =>
              rw [List.filterMap_cons_some (b := bytes) (by simpa using present),
                List.getLast?_cons]
              cases (rest.filterMap fun sinfo => sinfo.bind (·.payload i)).getLast? <;> rfl

end Handler

end X5MaxDevice.WpaSupplicant.TestMode
