import X5MaxDevice.Base.Decoding
import X5MaxDevice.Ygps.ClientSocket

/-! The reads of the PMTK command socket as parts of one reply, and what the cuts between them do
to the response. -/

namespace X5MaxDevice.Ygps.ReplyReassembly

open X5MaxDevice.Java
open X5MaxDevice.Decoding

/-- The bytes of a text in ASCII. -/
def bytes (text : JString) : List UInt8 := text.map (fun c => UInt8.ofNat c.toNat)

/-- How the expected sentence starts; it goes up to a `*`. -/
def expected (command : JString) : List UInt8 := bytes (tarRes command)

/-- A command and the bytes that come back for it, with a complete expected sentence in them. -/
structure Reply where
  command : JString
  stream : List UInt8
  ending : Ending
  complete : ∃ front body rest, stream = front ++ expected command ++ body ++ 42 :: rest

def Misses (word : List UInt8) (reads : List Read) : Prop :=
  ∀ read ∈ reads, ¬ word <:+: read.bytes

/-- The loop may go on behind a read that comes after `line` others. -/
def InLimit (e : Exchange) (line : Nat) (read : Read) : Prop :=
  if checkTimeOut e.command then read.receiveTime - e.startTime ≤ SOCKET_TIME_OUT_TIME
  else line + 1 ≤ LINE_OUT_SIZE

/-- The reads are the reply, split in some way; those without the start of the sentence in them
or before them are within the limits. -/
structure Reply.Splits (reply : Reply) (e : Exchange) : Prop where
  command : e.command = reply.command
  connected : e.opening = .connected ∧ e.written = true
  ending : e.ending = reply.ending
  joined : e.reads.flatMap Read.bytes = reply.stream
  sized : ∀ read ∈ e.reads, read.bytes ≠ [] ∧ read.bytes.length ≤ BUFFER_SIZE
  within : ∀ earlier read later, e.reads = earlier ++ read :: later →
    Misses (expected reply.command) (earlier ++ [read]) → InLimit e earlier.length read

/-- The bytes behind the first start of the sentence that no cut divides, up to the next cut. -/
def Deciding (word : List UInt8) (reads : List Read) (back : List UInt8) : Prop :=
  ∃ earlier read later front, reads = earlier ++ read :: later ∧ Misses word earlier ∧
    FirstIn word read.bytes front back

/-- The sentence has its `*` before the next cut, behind the given bytes. -/
def Answers (word : List UInt8) (reads : List Read) (body : List UInt8) : Prop :=
  ∃ rest, Deciding word reads (body ++ 42 :: rest) ∧ 42 ∉ body

/-- A cut comes before the `*`. -/
def Cut (word : List UInt8) (reads : List Read) : Prop :=
  ∃ back, Deciding word reads back ∧ 42 ∉ back

/-- A cut comes before the `*`, or cuts divide all starts and the connection fails. -/
def Reply.Fails (reply : Reply) (reads : List Read) : Prop :=
  Cut (expected reply.command) reads ∨
    reply.ending = .failed ∧ Misses (expected reply.command) reads

/-- Cuts divide all starts, and the connection is closed. -/
def Reply.Unanswered (reply : Reply) (reads : List Read) : Prop :=
  reply.ending = .endOfStream ∧ Misses (expected reply.command) reads

section Responses

-- the decoding of bytes to characters on the platform
variable (decode : List UInt8 → JString)

/-- Whatever commands came before, the same value is passed to `onResponse`. -/
def SameResponse (e e' : Exchange) : Prop :=
  ∀ history : List Exchange,
    ((ClientSocket.create.processAll decode history).process decode e).2 =
      ((ClientSocket.create.processAll decode history).process decode e').2

/-- Both ways of splitting leave a sentence whole, with the same text; or both cut before the `*`,
or both divide all starts. -/
def Reply.CutAlike (reply : Reply) (reads reads' : List Read) : Prop :=
  (∃ body body', Answers (expected reply.command) reads body ∧
      Answers (expected reply.command) reads' body' ∧ decode body = decode body') ∨
    (reply.Fails reads ∧ reply.Fails reads') ∨
    (reply.Unanswered reads ∧ reply.Unanswered reads')

end Responses

theorem tarRes_cases (command : JString) :
    tarRes command = "$PMTK705".toList ∨ tarRes command = "PMTK001".toList ∨
      tarRes command = "PMTK".toList := by
  rw [tarRes]
  cases found : CMD_RESPONSE.find? (fun pair => contains command pair.1) with
  | none => exact Or.inr (Or.inr rfl)
  | some pair =>
      have listed := List.mem_of_find?_eq_some found
      simp only [CMD_RESPONSE, List.mem_cons, List.not_mem_nil, or_false] at listed
      rcases listed with rfl | rfl
      · exact Or.inl rfl
      · exact Or.inr (Or.inl rfl)

/-- One read holds the sentence that starts behind `front`, up to its `*`. -/
def Reply.Keeps (reply : Reply) (front body : List UInt8) (reads : List Read) : Prop :=
  ∃ earlier read later inner behind, reads = earlier ++ read :: later ∧
    earlier.flatMap Read.bytes ++ inner = front ∧
    read.bytes = inner ++ expected reply.command ++ (body ++ 42 :: behind)

/-- What all expected starts have in common. -/
structure StartsSentence (word : List UInt8) : Prop where
  ascii : ∀ b ∈ word, b.toNat < 128
  nonempty : word ≠ []
  unended : '*' ∉ chars word
  noError : ∀ text, chars word ++ text ≠ "ERROR".toList

theorem expected_starts (command : JString) :
    chars (expected command) = tarRes command ∧ StartsSentence (expected command) := by
  rw [expected]
  have head {c : Char} {rest text : JString} (other : c ≠ 'E') :
      c :: rest ++ text ≠ "ERROR".toList := by
    intro same
    exact other (List.cons.inj same).1
  rcases tarRes_cases command with word | word | word <;> rw [word]
  · exact ⟨by decide +kernel, by decide +kernel, by decide +kernel, by decide +kernel,
      fun text => @head '$' _ _ (by decide)⟩
  · exact ⟨by decide +kernel, by decide +kernel, by decide +kernel, by decide +kernel,
      fun text => @head 'P' _ _ (by decide)⟩
  · exact ⟨by decide +kernel, by decide +kernel, by decide +kernel, by decide +kernel,
      fun text => @head 'P' _ _ (by decide)⟩

theorem deciding_or_misses (word : List UInt8) (reads : List Read) :
    (∃ back, Deciding word reads back) ∨ Misses word reads := by
  induction reads with
  | nil => exact Or.inr (fun read member => absurd member List.not_mem_nil)
  | cons read reads ih =>
      by_cases occurs : word <:+: read.bytes
      · obtain ⟨front, back, stands⟩ := exists_firstIn occurs
        exact Or.inl ⟨back, [], read, reads, front, rfl,
          fun read member => absurd member List.not_mem_nil, stands⟩
      · rcases ih with ⟨back, earlier, first, later, front, rfl, missed, stands⟩ | missed
        · exact Or.inl ⟨back, read :: earlier, first, later, front, rfl,
            List.forall_mem_cons.mpr ⟨occurs, missed⟩, stands⟩
        · exact Or.inr (List.forall_mem_cons.mpr ⟨occurs, missed⟩)

theorem Reply.splits_cases (reply : Reply) (reads : List Read) :
    (∃ body, Answers (expected reply.command) reads body) ∨ reply.Fails reads ∨
      reply.Unanswered reads := by
  rcases deciding_or_misses (expected reply.command) reads with ⟨back, deciding⟩ | missed
  · by_cases ended : 42 ∈ back
    · obtain ⟨body, rest, rfl, absent⟩ := List.eq_append_cons_of_mem ended
      exact Or.inl ⟨body, rest, deciding, absent⟩
    · exact Or.inr (Or.inl (Or.inl ⟨back, deciding, ended⟩))
  · cases ending : reply.ending with
    | endOfStream => exact Or.inr (Or.inr ⟨ending, missed⟩)
    | failed => exact Or.inr (Or.inl (Or.inr ⟨ending, missed⟩))

/-- A read that keeps the first complete sentence is the one that answers. -/
theorem Reply.Splits.answers_of_keeps {reply : Reply} {e : Exchange} (splits : reply.Splits e)
    {front body rest : List UInt8}
    (stands : FirstIn (expected reply.command) reply.stream front (body ++ 42 :: rest))
    (unended : 42 ∉ body) (keeps : reply.Keeps front body e.reads) :
    Answers (expected reply.command) e.reads body := by
  obtain ⟨earlier, read, later, inner, behind, cut, rfl, whole⟩ := keeps
  have nonempty := List.length_pos_of_ne_nil (expected_starts reply.command).2.nonempty
  have joined : reply.stream =
      earlier.flatMap Read.bytes ++ read.bytes ++ later.flatMap Read.bytes := by
    rw [← splits.joined, cut, List.flatMap_append, List.flatMap_cons, List.append_assoc]
  refine ⟨behind, ⟨earlier, read, later, inner, cut, ?_, ?_⟩, unended⟩
  · rintro first member ⟨before, after, occurs⟩
    obtain ⟨older, newer, rfl⟩ := List.append_of_mem member
    have order := stands.first (older.flatMap Read.bytes ++ before)
      (after ++ newer.flatMap Read.bytes ++ read.bytes ++ later.flatMap Read.bytes)
      (by simp [joined, ← occurs])
    simp only [List.flatMap_append, List.flatMap_cons, List.length_append, ← occurs] at order
    omega
  · rw [joined] at stands
    exact stands.within whole

theorem answers_of_start {word body : List UInt8} {read : Read} (rest : List UInt8)
    (starts : read.bytes = word ++ (body ++ 42 :: rest)) (unended : 42 ∉ body)
    (later : List Read) : Answers word (read :: later) body := by
  refine ⟨rest, ⟨[], read, later, [], rfl, ?_, ?_⟩, unended⟩
  · exact fun first member => absurd member List.not_mem_nil
  · exact ⟨starts, fun front' back' other => Nat.zero_le _⟩

theorem answer_front (front text : JString) :
    answer (front ++ text) front.length = answer text 0 := by
  rw [answer, answer, List.drop_left, List.drop_zero]

section Runs

variable {decode : List UInt8 → JString}

theorem readLoop_skip {e : Exchange} {line : Nat} {earlier : List Read}
    (passes : PassesAll decode e line earlier) (buffer : List UInt8) (response : Option JString)
    (reads : List Read) :
    ∃ buffer', readLoop decode e line buffer response (earlier ++ reads) =
      readLoop decode e (line + earlier.length) buffer' response reads := by
  induction earlier generalizing line buffer with
  | nil => exact ⟨buffer, rfl⟩
  | cons read earlier ih =>
      obtain ⟨buffer', skipped⟩ := ih passes.2 (read.bytes ++ buffer.drop read.bytes.length)
      refine ⟨buffer', ?_⟩
      rw [List.cons_append, readLoop_of_passes decode passes.1, skipped, List.length_cons,
        Nat.add_assoc, Nat.add_comm 1]

variable (transparent : AsciiTransparent decode)

include transparent

theorem star_absent {back : List UInt8} (unended : 42 ∉ back) : '*' ∉ decode back := by
  intro member
  obtain ⟨f, r, same⟩ := List.append_of_mem member
  obtain ⟨front, behind, rfl, -, -⟩ := @split_at_ascii _ transparent back f r 42 (by decide) same
  exact unended (by simp)

theorem answer_unended {word back : List UInt8} (starts : StartsSentence word)
    (unended : 42 ∉ back) : answer (chars word ++ decode back) 0 = "ERROR".toList := by
  have absent : '*' ∉ chars word ++ decode back := by
    rw [List.mem_append, not_or]
    exact ⟨starts.unended, star_absent transparent unended⟩
  rw [answer, List.drop_zero, indexOf_char_absent absent]

theorem answer_ended {word body : List UInt8} (starts : StartsSentence word)
    (unended : 42 ∉ body) (rest : List UInt8) :
    answer (chars word ++ decode (body ++ 42 :: rest)) 0 = chars word ++ decode body := by
  have absent : '*' ∉ chars word ++ decode body := by
    rw [List.mem_append, not_or]
    exact ⟨starts.unended, star_absent transparent unended⟩
  have whole : chars word ++ decode (body ++ 42 :: rest) =
      (chars word ++ decode body) ++ '*' :: decode rest := by
    rw [transparent.ascii _ _ _ (by decide), List.append_assoc]
    rfl
  rw [answer, List.drop_zero, whole, indexOf_char absent]
  exact List.take_left

theorem Reply.Splits.passes {reply : Reply} {e : Exchange} (splits : reply.Splits e)
    {done earlier later : List Read} (cut : e.reads = done ++ (earlier ++ later))
    (missed : Misses (expected reply.command) (done ++ earlier)) :
    PassesAll decode e done.length earlier := by
  induction earlier generalizing done with
  | nil => trivial
  | cons read earlier ih =>
      have next := @ih (done ++ [read]) (by simp [cut]) (by simpa using missed)
      rw [List.length_append, List.length_singleton] at next
      have limit := splits.within done read (earlier ++ later) cut (by
        intro first member
        apply missed first
        rw [List.append_cons]
        exact List.mem_append_left _ member)
      have absent : contains (decode read.bytes) (tarRes e.command) = false := by
        obtain ⟨target, starts⟩ := expected_starts reply.command
        rw [← Bool.not_eq_true, contains_iff_infix, splits.command, ← target,
          infix_decode_iff transparent starts.ascii starts.nonempty]
        exact missed read (by simp)
      exact ⟨⟨absent, limit⟩, next⟩

theorem response_deciding {reply : Reply} {e : Exchange} (splits : reply.Splits e)
    {client : ClientSocket} (closed : client.Closed) {back : List UInt8}
    (deciding : Deciding (expected reply.command) e.reads back) :
    (client.process decode e).2 =
      some (answer (chars (expected reply.command) ++ decode back) 0) := by
  obtain ⟨target, starts⟩ := expected_starts reply.command
  obtain ⟨earlier, read, later, front, cut, missed, stands⟩ := deciding
  have passes := @Reply.Splits.passes _ transparent _ _ splits [] earlier (read :: later) cut missed
  have decoded := firstIn_decode transparent starts.ascii starts.nonempty stands
  have found : indexOf (decode read.bytes) (tarRes e.command) = some (decode front).length := by
    rw [splits.command, ← target]
    exact indexOf_firstIn decoded
  obtain ⟨buffer, skipped⟩ :=
    readLoop_skip passes client.mDataBuffer client.mResponse (read :: later)
  rw [process_connected decode splits.connected closed, cut]
  rw [List.length_nil] at skipped
  rw [skipped, readLoop]
  simp only [List.take_left, found]
  rw [decoded.split, List.append_assoc, answer_front]

theorem response_answers {reply : Reply} {e : Exchange} (splits : reply.Splits e)
    {client : ClientSocket} (closed : client.Closed) {body : List UInt8}
    (answers : Answers (expected reply.command) e.reads body) :
    (client.process decode e).2 = some (chars (expected reply.command) ++ decode body) := by
  obtain ⟨rest, deciding, unended⟩ := answers
  rw [response_deciding transparent splits closed deciding,
    answer_ended transparent (expected_starts reply.command).2 unended]

theorem response_misses {reply : Reply} {e : Exchange} (splits : reply.Splits e)
    {client : ClientSocket} (closed : client.Closed)
    (missed : Misses (expected reply.command) e.reads) :
    (client.process decode e).2 = match reply.ending with
      | .endOfStream => client.mResponse
      | .failed => some "ERROR".toList := by
  have passes := @Reply.Splits.passes _ transparent _ _ splits [] e.reads [] (by simp) missed
  obtain ⟨buffer, skipped⟩ := readLoop_skip passes client.mDataBuffer client.mResponse []
  rw [List.append_nil, List.length_nil] at skipped
  rw [process_connected decode splits.connected closed, skipped, readLoop, splits.ending]
  cases reply.ending <;> rfl

theorem response_fails {reply : Reply} {e : Exchange} (splits : reply.Splits e)
    {client : ClientSocket} (closed : client.Closed) (fails : reply.Fails e.reads) :
    (client.process decode e).2 = some "ERROR".toList := by
  rcases fails with ⟨back, deciding, unended⟩ | ⟨failed, missed⟩
  · rw [response_deciding transparent splits closed deciding,
      answer_unended transparent (expected_starts reply.command).2 unended]
  · rw [response_misses transparent splits closed missed, failed]

theorem response_unanswered {reply : Reply} {e : Exchange} (splits : reply.Splits e)
    {client : ClientSocket} (closed : client.Closed) (unanswered : reply.Unanswered e.reads) :
    (client.process decode e).2 = client.mResponse := by
  rw [response_misses transparent splits closed unanswered.2, unanswered.1]

theorem same_of_cutAlike {reply : Reply} {e e' : Exchange} (splits : reply.Splits e)
    (splits' : reply.Splits e') (alike : reply.CutAlike decode e.reads e'.reads) :
    SameResponse decode e e' := by
  intro history
  have closed := processAll_closed decode history
  rcases alike with ⟨body, body', answers, answers', same⟩ | ⟨fails, fails'⟩ | ⟨none, none'⟩
  · rw [response_answers transparent splits closed answers,
      response_answers transparent splits' closed answers', same]
  · rw [response_fails transparent splits closed fails,
      response_fails transparent splits' closed fails']
  · rw [response_unanswered transparent splits closed none,
      response_unanswered transparent splits' closed none']

/-- Cuts that leave the first complete sentence in one read do not matter. -/
theorem same_of_keeps {reply : Reply} {e e' : Exchange} (splits : reply.Splits e)
    (splits' : reply.Splits e') {front body rest : List UInt8}
    (stands : FirstIn (expected reply.command) reply.stream front (body ++ 42 :: rest))
    (unended : 42 ∉ body) (keeps : reply.Keeps front body e.reads)
    (keeps' : reply.Keeps front body e'.reads) : SameResponse decode e e' := by
  apply same_of_cutAlike transparent splits splits'
  exact Or.inl ⟨body, body, splits.answers_of_keeps stands unended keeps,
    splits'.answers_of_keeps stands unended keeps', rfl⟩

/-- The response to the first command tells the cases apart. -/
theorem cutAlike_of_same {reply : Reply} {e e' : Exchange} (splits : reply.Splits e)
    (splits' : reply.Splits e') (same : SameResponse decode e e') :
    reply.CutAlike decode e.reads e'.reads := by
  have closed : (ClientSocket.create.processAll decode []).Closed := processAll_closed decode []
  have equal := same []
  have answered {e : Exchange} (splits : reply.Splits e) {body : List UInt8}
      (answers : Answers (expected reply.command) e.reads body) :=
    response_answers transparent splits closed answers
  have failed {e : Exchange} (splits : reply.Splits e) (fails : reply.Fails e.reads) :=
    response_fails transparent splits closed fails
  have silent {e : Exchange} (splits : reply.Splits e) (none : reply.Unanswered e.reads) :=
    response_unanswered transparent splits closed none
  have noError := (expected_starts reply.command).2.noError
  rcases reply.splits_cases e.reads with ⟨body, answers⟩ | fails | none
  · rw [answered splits answers] at equal
    rcases reply.splits_cases e'.reads with ⟨body', answers'⟩ | fails' | none'
    · rw [answered splits' answers'] at equal
      exact Or.inl ⟨body, body', answers, answers',
        List.append_cancel_left (Option.some.inj equal)⟩
    · rw [failed splits' fails'] at equal
      exact absurd (Option.some.inj equal) (noError _)
    · rw [silent splits' none'] at equal
      cases equal
  · rw [failed splits fails] at equal
    rcases reply.splits_cases e'.reads with ⟨body', answers'⟩ | fails' | none'
    · rw [answered splits' answers'] at equal
      exact absurd (Option.some.inj equal).symm (noError _)
    · exact Or.inr (Or.inl ⟨fails, fails'⟩)
    · rw [silent splits' none'] at equal
      cases equal
  · rw [silent splits none] at equal
    rcases reply.splits_cases e'.reads with ⟨body', answers'⟩ | fails' | none'
    · rw [answered splits' answers'] at equal
      cases equal
    · rw [failed splits' fails'] at equal
      cases equal
    · exact Or.inr (Or.inr ⟨none, none'⟩)

/-- Two ways of splitting a reply give the same response exactly if they cut it alike. -/
theorem same_response_iff {reply : Reply} {e e' : Exchange} (splits : reply.Splits e)
    (splits' : reply.Splits e') :
    SameResponse decode e e' ↔ reply.CutAlike decode e.reads e'.reads :=
  ⟨cutAlike_of_same transparent splits splits', same_of_cutAlike transparent splits splits'⟩

end Runs

def versionQuery : JString := "PMTK605".toList
def version : JString := "$PMTK705,AXN_1.30*08\r\n".toList

theorem version_complete : ∃ front body rest,
    bytes version = front ++ expected versionQuery ++ body ++ 42 :: rest :=
  ⟨[], bytes ",AXN_1.30".toList, bytes "08\r\n".toList, by decide +kernel⟩

/-- The reply to the query of the version; the connection stays open. -/
def versionReply : Reply := ⟨versionQuery, bytes version, .failed, version_complete⟩

/-- The query with its reply read in the given parts, without delay. -/
def query (parts : List JString) : Exchange :=
  ⟨versionQuery, .connected, true, 0, parts.map (fun part => ⟨bytes part, 0⟩), .failed⟩

theorem query_splits {parts : List JString} (joined : parts.flatMap bytes = bytes version)
    (sized : ∀ part ∈ parts, bytes part ≠ [] ∧ (bytes part).length ≤ BUFFER_SIZE) :
    versionReply.Splits (query parts) where
  command := rfl
  connected := ⟨rfl, rfl⟩
  ending := rfl
  joined := by
    have reads : (query parts).reads = parts.map (fun part => ⟨bytes part, 0⟩) := rfl
    rw [reads, List.flatMap_map]
    exact joined
  sized read member := by
    obtain ⟨part, listed, rfl⟩ := List.mem_map.mp member
    exact sized part listed
  within earlier read later cut _ := by
    have member : read ∈ (query parts).reads := by simp [cut]
    obtain ⟨part, listed, rfl⟩ := List.mem_map.mp member
    have timed : checkTimeOut versionQuery = true := by decide +kernel
    have early : (0 : Int) - 0 ≤ SOCKET_TIME_OUT_TIME := by decide
    rw [InLimit, show (query parts).command = versionQuery from rfl, if_pos timed]
    exact early

def atOnce : List JString := [version]
def cutBehindStar : List JString := ["$PMTK705,AXN_1.30*".toList, "08\r\n".toList]
def cutInStart : List JString := ["$PMTK".toList, "705,AXN_1.30*08\r\n".toList]

theorem cut_behind_star_same : SameResponse chars (query atOnce) (query cutBehindStar) :=
  (@same_response_iff _ chars_transparent versionReply _ _
    (query_splits (by decide +kernel) (by decide +kernel))
    (query_splits (by decide +kernel) (by decide +kernel))).mpr
    (Or.inl ⟨bytes ",AXN_1.30".toList, bytes ",AXN_1.30".toList,
      answers_of_start (bytes "08\r\n".toList) (by decide +kernel) (by decide +kernel) _,
      answers_of_start [] (by decide +kernel) (by decide +kernel) _, rfl⟩)

theorem cut_in_start_missed :
    ¬ ∀ decode : List UInt8 → JString, AsciiTransparent decode →
      ∀ (reply : Reply) (e e' : Exchange), reply.Splits e → reply.Splits e' →
        SameResponse decode e e' := by
  intro same
  have equal := same chars chars_transparent versionReply (query atOnce) (query cutInStart)
    (query_splits (by decide +kernel) (by decide +kernel))
    (query_splits (by decide +kernel) (by decide +kernel)) []
  revert equal
  decide +kernel

end X5MaxDevice.Ygps.ReplyReassembly
