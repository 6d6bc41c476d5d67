import X5MaxDevice.Base.Retry

/-! The calls that send to mnld and read from it, over every sequence of outcomes of the system
calls that they repeat. -/

namespace X5MaxDevice.Gps.Sending

open X5MaxDevice.Retry

inductive Errno where
  | eintr
  | eagain
  | epipe
  | other (code : Int)
  deriving DecidableEq, Repr

/-- One system call of a loop, with the `errno` that the loop sees where the call has failed. -/
inductive SystemCall (β : Type) where
  | succeeded (result : β)
  | failed (errno : Errno)
  deriving DecidableEq, Repr

section Loops

variable {β : Type}

/-- Interrupted calls are repeated at once, and calls that would block after a nap. -/
def SystemCall.attempt (failure : Errno → β) : SystemCall β → Attempt β
  | .succeeded result => .done result
  | .failed .eintr => .again
  | .failed .eagain => .pause (failure .eagain)
  | .failed errno => .done (failure errno)

def SystemCall.wouldBlock : SystemCall β → Bool
  | .failed .eagain => true
  | _ => false

def SystemCall.interrupted : SystemCall β → Bool
  | .failed .eintr => true
  | _ => false

/-- The naps before call `n`. -/
def naps (calls : Nat → SystemCall β) (n : Nat) : Nat :=
  Nat.count (fun i => (calls i).wouldBlock = true) n

/-- The loop comes to call `n`. -/
structure Comes (calls : Nat → SystemCall β) (n : Nat) : Prop where
  repeated : ∀ i < n, (calls i).interrupted = true ∨ (calls i).wouldBlock = true
  slept : naps calls n ≤ 10

/-- The loop ends with call `n`. -/
inductive CallEnds (failure : Errno → β) (calls : Nat → SystemCall β) (n : Nat) : β → Prop
  | succeeded (result : β) : Comes calls n → calls n = .succeeded result →
      CallEnds failure calls n result
  | failed (errno : Errno) : Comes calls n → calls n = .failed errno → errno ≠ .eintr →
      errno ≠ .eagain → CallEnds failure calls n (failure errno)
  | exhausted : Comes calls n → calls n = .failed .eagain → naps calls n = 10 →
      CallEnds failure calls n (failure .eagain)

/-- From call `n` on, every call is interrupted. -/
def Hangs (calls : Nat → SystemCall β) : Prop :=
  ∃ n, Comes calls n ∧ ∀ i ≥ n, (calls i).interrupted = true

variable {failure : Errno → β} {calls : Nat → SystemCall β} {n : Nat} {result : β}

theorem isDone_attempt (call : SystemCall β) : (call.attempt failure).isDone = false ↔
    call.interrupted = true ∨ call.wouldBlock = true := by
  cases call with
  | succeeded result =>
      simp [SystemCall.attempt, Attempt.isDone, SystemCall.interrupted, SystemCall.wouldBlock]
  | failed errno =>
      cases errno <;>
        simp [SystemCall.attempt, Attempt.isDone, SystemCall.interrupted, SystemCall.wouldBlock]

theorem isPause_attempt (call : SystemCall β) :
    (call.attempt failure).isPause = call.wouldBlock := by
  cases call with
  | succeeded result => rfl
  | failed errno => cases errno <;> rfl

theorem attempt_eq_again (call : SystemCall β) :
    call.attempt failure = .again ↔ call.interrupted = true := by
  cases call with
  | succeeded result => simp [SystemCall.attempt, SystemCall.interrupted]
  | failed errno => cases errno <;> simp [SystemCall.attempt, SystemCall.interrupted]

theorem pausesBefore_attempt (failure : Errno → β) (calls : Nat → SystemCall β) (n : Nat) :
    pausesBefore (fun i => (calls i).attempt failure) n = naps calls n := by
  simp only [pausesBefore, naps, isPause_attempt]

theorem comes_iff (failure : Errno → β) : Comes calls n ↔
    (∀ i < n, ((calls i).attempt failure).isDone = false) ∧
      pausesBefore (fun i => (calls i).attempt failure) n ≤ 10 := by
  simp only [isDone_attempt, pausesBefore_attempt]
  exact ⟨fun comes => ⟨comes.repeated, comes.slept⟩, fun ⟨repeated, slept⟩ => ⟨repeated, slept⟩⟩

theorem last_iff : ((calls n).attempt failure = .done result ∨
      (calls n).attempt failure = .pause result ∧ naps calls n = 10) ↔
    calls n = .succeeded result ∨
      (∃ errno, calls n = .failed errno ∧ errno ≠ .eintr ∧ errno ≠ .eagain ∧
        failure errno = result) ∨
      calls n = .failed .eagain ∧ naps calls n = 10 ∧ failure .eagain = result := by
  cases calls n with
  | succeeded value => simp [SystemCall.attempt]
  | failed errno =>
      cases errno <;> simp [SystemCall.attempt, and_comm]

theorem ends_attempt_iff :
    Ends (fun i => (calls i).attempt failure) 10 n result ↔ CallEnds failure calls n result := by
  constructor
  · rintro ⟨before, within, last⟩
    have comes : Comes calls n := (comes_iff failure).mpr ⟨before, within⟩
    rw [pausesBefore_attempt] at last
    rcases last_iff.mp last with done | ⟨errno, done, intr, again, rfl⟩ | ⟨done, all, rfl⟩
    · exact .succeeded result comes done
    · exact .failed errno comes done intr again
    · exact .exhausted comes done all
  · intro ended
    have whole : Comes calls n ∧ ((calls n).attempt failure = .done result ∨
        (calls n).attempt failure = .pause result ∧ naps calls n = 10) := by
      rw [last_iff]
      cases ended with
      | succeeded _ comes done => exact ⟨comes, .inl done⟩
      | failed errno comes done intr again =>
          exact ⟨comes, .inr (.inl ⟨errno, done, intr, again, rfl⟩)⟩
      | exhausted comes done all => exact ⟨comes, .inr (.inr ⟨done, all, rfl⟩)⟩
    obtain ⟨before, within⟩ := (comes_iff failure).mp whole.1
    refine ⟨before, within, ?_⟩
    rw [pausesBefore_attempt]
    exact whole.2

theorem hangs_attempt_iff :
    (∀ fuel, loop (fun i => (calls i).attempt failure) fuel 10 = none) ↔ Hangs calls := by
  rw [loop_hangs_iff]
  simp only [Hangs, comes_iff failure, attempt_eq_again, and_assoc]

end Loops

/-- The error that `mtk_daemon_send` fails with, and the number of its last `sendto`. -/
def mtkDaemonSend (sendto : Nat → SystemCall (Option Errno)) (fuel : Nat) :
    Option (Option Errno × Nat) :=
  loop (fun i => (sendto i).attempt some) fuel 10

/-- `mtk_start` from its call `k` on, with `left` more for a daemon that is being restarted: the
error that it fails with, and the number of its last call. -/
def startCalls (sendto : Nat → Nat → SystemCall (Option Errno)) (fuel : Nat) :
    (left k : Nat) → Option (Option Errno × Nat)
  | 0, k => (mtkDaemonSend (sendto k) fuel).map fun (err, _) => (err, k)
  | left + 1, k =>
      (mtkDaemonSend (sendto k) fuel).bind fun (err, _) =>
        if err = some .epipe then startCalls sendto fuel left (k + 1) else some (err, k)

/-- The outcome of attempt `i` of call `k` is `sendto k i`. -/
def mtkStart (sendto : Nat → Nat → SystemCall (Option Errno)) (fuel : Nat) :
    Option (Option Errno × Nat) :=
  startCalls sendto fuel 5 0

section Start

variable {sendto : Nat → Nat → SystemCall (Option Errno)} {fuel left k m : Nat}
  {err : Option Errno}

theorem mtkDaemonSend_returns_iff {sendto : Nat → SystemCall (Option Errno)} {n : Nat} :
    (∃ fuel, mtkDaemonSend sendto fuel = some (err, n)) ↔ CallEnds some sendto n err :=
  loop_returns_iff.trans ends_attempt_iff

theorem mtkDaemonSend_mono {sendto : Nat → SystemCall (Option Errno)} {more n : Nat}
    (enough : fuel ≤ more) (returned : mtkDaemonSend sendto fuel = some (err, n)) :
    mtkDaemonSend sendto more = some (err, n) := by
  obtain ⟨within, ended⟩ := (loop_eq_some_iff fuel).mp returned
  exact (loop_eq_some_iff more).mpr ⟨by omega, ended⟩

theorem startCalls_mono {more : Nat} (enough : fuel ≤ more)
    (returned : startCalls sendto fuel left k = some (err, m)) :
    startCalls sendto more left k = some (err, m) := by
  induction left generalizing k with
  | zero =>
      simp only [startCalls, Option.map_eq_some_iff] at returned ⊢
      obtain ⟨⟨value, n⟩, sent, same⟩ := returned
      exact ⟨(value, n), mtkDaemonSend_mono enough sent, same⟩
  | succ left ih =>
      simp only [startCalls, Option.bind_eq_some_iff] at returned ⊢
      obtain ⟨⟨value, n⟩, sent, same⟩ := returned
      refine ⟨(value, n), mtkDaemonSend_mono enough sent, ?_⟩
      by_cases broken : value = some .epipe
      · simp only [broken, if_true] at same ⊢
        exact ih same
      · simpa only [broken, if_false] using same

/-- The calls `k` to `m - 1` found the daemon gone, and call `m` was the last. -/
structure StartEnds (sendto : Nat → Nat → SystemCall (Option Errno)) (left k m : Nat)
    (err : Option Errno) : Prop where
  range : k ≤ m ∧ m ≤ k + left
  gone : ∀ j, k ≤ j → j < m → ∃ n, CallEnds some (sendto j) n (some .epipe)
  last : ∃ n, CallEnds some (sendto m) n err
  spent : err = some .epipe → m = k + left

theorem startEnds_zero :
    StartEnds sendto 0 k m err ↔ m = k ∧ ∃ n, CallEnds some (sendto k) n err := by
  constructor
  · rintro ⟨range, -, last, -⟩
    obtain rfl : m = k := by omega
    exact ⟨rfl, last⟩
  · rintro ⟨rfl, last⟩
    exact ⟨⟨by omega, by omega⟩, fun j first later => by omega, last, fun _ => by omega⟩

/-- A further call is made exactly where the daemon is gone. -/
theorem startEnds_succ : StartEnds sendto (left + 1) k m err ↔
    (∃ n, CallEnds some (sendto k) n (some .epipe)) ∧ StartEnds sendto left (k + 1) m err ∨
      m = k ∧ err ≠ some .epipe ∧ ∃ n, CallEnds some (sendto k) n err := by
  constructor
  · rintro ⟨⟨first, bound⟩, gone, last, spent⟩
    rcases Nat.eq_or_lt_of_le first with rfl | later
    · refine .inr ⟨rfl, ?_, last⟩
      intro broken
      have all := spent broken
      omega
    · exact .inl ⟨gone k (by omega) later, ⟨by omega, by omega⟩,
        fun j first bound => gone j (by omega) bound, last, fun broken => by
          have all := spent broken
          omega⟩
  · rintro (⟨broken, range, gone, last, spent⟩ | ⟨rfl, working, last⟩)
    · refine ⟨⟨by omega, by omega⟩, ?_, last, fun broken => by have all := spent broken; omega⟩
      intro j first bound
      rcases Nat.eq_or_lt_of_le first with rfl | later
      · exact broken
      · exact gone j later bound
    · exact ⟨⟨by omega, by omega⟩, fun j first bound => by omega, last,
        fun broken => absurd broken working⟩

theorem startCalls_returns_iff :
    (∃ fuel, startCalls sendto fuel left k = some (err, m)) ↔ StartEnds sendto left k m err := by
  induction left generalizing k with
  | zero =>
      simp only [startCalls, Option.map_eq_some_iff, startEnds_zero]
      constructor
      · rintro ⟨fuel, ⟨value, n⟩, sent, same⟩
        obtain ⟨rfl, rfl⟩ := Prod.mk.inj same
        exact ⟨rfl, n, mtkDaemonSend_returns_iff.mp ⟨fuel, sent⟩⟩
      · rintro ⟨rfl, n, ended⟩
        obtain ⟨fuel, sent⟩ := mtkDaemonSend_returns_iff.mpr ended
        exact ⟨fuel, (err, n), sent, rfl⟩
  | succ left ih =>
      simp only [startCalls, Option.bind_eq_some_iff, startEnds_succ, ← ih]
      constructor
      · rintro ⟨fuel, ⟨value, n⟩, sent, same⟩
        have ended := mtkDaemonSend_returns_iff.mp ⟨fuel, sent⟩
        by_cases broken : value = some .epipe
        · subst broken
          exact .inl ⟨⟨n, ended⟩, fuel, by simpa using same⟩
        · simp only [broken, if_false, Option.some.injEq, Prod.mk.injEq] at same
          obtain ⟨rfl, rfl⟩ := same
          exact .inr ⟨rfl, broken, n, ended⟩
      · rintro (⟨⟨n, ended⟩, rest, returned⟩ | ⟨rfl, working, n, ended⟩)
        · obtain ⟨fuel, sent⟩ := mtkDaemonSend_returns_iff.mpr ended
          refine ⟨max fuel rest, (some .epipe, n), mtkDaemonSend_mono (by omega) sent, ?_⟩
          rw [if_pos rfl]
          exact startCalls_mono (by omega) returned
        · obtain ⟨fuel, sent⟩ := mtkDaemonSend_returns_iff.mpr ended
          exact ⟨fuel, (err, n), sent, by simp [working]⟩

/-- Over any outcomes, a message is sent, given up or repeated for ever as the outcomes say, and
the start command is sent again only where the daemon was gone, five times at most. -/
theorem sends_end (sendto : Nat → Nat → SystemCall (Option Errno)) :
    (∀ k n err, (∃ fuel, mtkDaemonSend (sendto k) fuel = some (err, n)) ↔
      CallEnds some (sendto k) n err) ∧
    (∀ k, (∀ fuel, mtkDaemonSend (sendto k) fuel = none) ↔ Hangs (sendto k)) ∧
    ∀ err m, (∃ fuel, mtkStart sendto fuel = some (err, m)) ↔ StartEnds sendto 5 0 m err :=
  ⟨fun _ _ _ => mtkDaemonSend_returns_iff, fun _ => hangs_attempt_iff,
    fun _ _ => startCalls_returns_iff⟩

end Start

section Read

/-- One `read`; the end of a file and an empty datagram are read as no bytes. -/
inductive ReadCall where
  | received (count : Nat)
  | failed (errno : Errno)
  deriving DecidableEq, Repr

/-- What `errno` is after the call. -/
def ReadCall.errno (before : Errno) : ReadCall → Errno
  | .received _ => before
  | .failed errno => errno

/-- What `errno` is after call `i`. -/
def errnoAfter (before : Errno) (read : Nat → ReadCall) : Nat → Errno
  | 0 => (read 0).errno before
  | i + 1 => (read (i + 1)).errno (errnoAfter before read i)

/-- No bytes are treated as an error, with the `errno` of whichever call failed last. -/
def readOutcome (errno : Errno) : ReadCall → SystemCall Int
  | .received (count + 1) => .succeeded (count + 1)
  | _ => .failed errno

def readOutcomes (before : Errno) (read : Nat → ReadCall) (i : Nat) : SystemCall Int :=
  readOutcome (errnoAfter before read i) (read i)

/-- `safe_read` on a descriptor and buffer, with the `errno` that it finds. -/
def safeRead (fd : Int) (buf : Bool) (len : Int) (before : Errno) (read : Nat → ReadCall)
    (fuel : Nat) : Option Int :=
  if fd < 0 ∨ buf = false ∨ len < 0 then some (-1)
  else if len = 0 then some 0
  else (loop (fun i => (readOutcomes before read i).attempt fun _ => -1) fuel 10).map Prod.fst

variable {fd len : Int} {before : Errno} {read : Nat → ReadCall} {n : Nat}

theorem safeRead_loop (valid : 0 ≤ fd) (room : 0 < len) (fuel : Nat) :
    safeRead fd true len before read fuel =
      (loop (fun i => (readOutcomes before read i).attempt fun _ => -1) fuel 10).map Prod.fst := by
  rw [safeRead, if_neg (by simp; omega), if_neg (by omega)]

theorem safeRead_returns_iff (valid : 0 ≤ fd) (room : 0 < len) (result : Int) :
    (∃ fuel, safeRead fd true len before read fuel = some result) ↔
      ∃ n, CallEnds (fun _ => -1) (readOutcomes before read) n result := by
  constructor
  · rintro ⟨fuel, returned⟩
    rw [safeRead_loop valid room, Option.map_eq_some_iff] at returned
    obtain ⟨⟨value, n⟩, looped, rfl⟩ := returned
    exact ⟨n, ends_attempt_iff.mp (loop_returns_iff.mp ⟨fuel, looped⟩)⟩
  · rintro ⟨n, ended⟩
    obtain ⟨fuel, looped⟩ := loop_returns_iff.mpr (ends_attempt_iff.mpr ended)
    refine ⟨fuel, ?_⟩
    rw [safeRead_loop valid room, looped, Option.map_some]

theorem safeRead_hangs_iff (valid : 0 ≤ fd) (room : 0 < len) :
    (∀ fuel, safeRead fd true len before read fuel = none) ↔ Hangs (readOutcomes before read) := by
  have looped : (∀ fuel, loop (fun i => (readOutcomes before read i).attempt fun _ => (-1 : Int))
      fuel 10 = none) ↔ Hangs (readOutcomes before read) := hangs_attempt_iff
  simp only [safeRead_loop valid room, Option.map_eq_none_iff, looped]

/-- Where no bytes come any more, `errno` stays as it is. -/
theorem errnoAfter_ended (ended : ∀ i ≥ n, read i = .received 0) {i : Nat} (later : n ≤ i) :
    errnoAfter before read i = errnoAfter before read n := by
  induction i, later using Nat.le_induction with
  | base => rfl
  | succ i later ih =>
      rw [errnoAfter, ended (i + 1) (by omega), ReadCall.errno, ih]

/-- At the end of the file the call returns unless the last error before it was an interrupt. -/
theorem hangs_at_end_iff (comes : Comes (readOutcomes before read) n)
    (ended : ∀ i ≥ n, read i = .received 0) :
    Hangs (readOutcomes before read) ↔ errnoAfter before read n = .eintr := by
  have outcome : ∀ i ≥ n, readOutcomes before read i = .failed (errnoAfter before read n) := by
    intro i later
    rw [readOutcomes, ended i later, errnoAfter_ended ended later, readOutcome]
    simp
  constructor
  · rintro ⟨m, -, interrupted⟩
    have last := interrupted (max n m) (by omega)
    rw [outcome _ (by omega)] at last
    cases left : errnoAfter before read n <;> simp_all [SystemCall.interrupted]
  · intro left
    refine ⟨n, comes, ?_⟩
    intro i later
    rw [outcome i later, left]
    rfl

end Read

end X5MaxDevice.Gps.Sending
