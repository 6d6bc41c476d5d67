import X5MaxDevice.Base.History
import X5MaxDevice.Base.Transitions
import X5MaxDevice.Gps.Reader

/-! The file that keeps the last location: the framework thread and the HAL thread both write it,
and the HAL thread reads it when mnld asks for a location. -/

namespace X5MaxDevice.Gps.LocationFile

open X5MaxDevice.Gps.Reader (Moment NlpContext NmeaReader Platform gnssPlatform nmeaReaderInit
  nmeaReaderParse)
open X5MaxDevice.Gps.Tokenizer (Bytes)
open X5MaxDevice.History
open X5MaxDevice.Transitions

/-- `nlp_context`. -/
structure Location where
  context : NlpContext
  type : Nat
  deriving DecidableEq

/-- What is left of the zeroed struct where nothing can be read. -/
def noLocation : Location := ⟨⟨0, 0, 0, 0, 0, false⟩, 0⟩

def Location.withStarted (location : Location) (started : Bool) : Location :=
  { location with context := { location.context with started := started } }

inductive Thread where
  | framework
  | hal
  deriving DecidableEq

/-- The file is truncated when it is opened and written when it is closed. -/
inductive Event where
  | truncated (thread : Thread)
  | written (thread : Thread) (location : Location)
  | found (location : Location)
  | answered (location : Location)
  | injected (location : Location)
  | control (started : Bool)

/-- `mtk_gps_inject_location`. -/
inductive Framework where
  | idle
  | writing (location : Location)
  | sending (location : Location)

/-- The HAL thread saves a fix, or serves a request of mnld with the file open. -/
inductive Hal where
  | idle
  | writing (location : Location)
  | reading
  | answering (location : Location)

/-- The contents of the file, if there is one, are whole or nothing. -/
structure State where
  reader : NmeaReader
  started : Bool
  file : Option (Option Location)
  framework : Framework
  hal : Hal
  log : List Event

def start (reader : NmeaReader) (file : Option Location) : State where
  reader := reader
  started := false
  file := file.map some
  framework := .idle
  hal := .idle
  log := []

/-- `opens` tells whether the file can be opened. -/
inductive Label where
  | inject (latitude longitude accuracy : ℚ) (seconds nanoseconds : Int) (opens : Bool)
  | framework
  | parse (moment : Moment) (sentence : Bytes) (opens : Bool)
  | control (started : Bool)
  | request (opens : Bool)
  | hal

def State.record (s : State) (event : Event) : State := { s with log := s.log ++ [event] }

def State.truncate (s : State) (thread : Thread) : State :=
  { s with file := some none, log := s.log ++ [.truncated thread] }

def State.write (s : State) (thread : Thread) (location : Location) : State :=
  { s with file := some (some location), log := s.log ++ [.written thread location] }

/-- The location that the reader saves on its way from `r` to `r'`. -/
def saved (r r' : NmeaReader) : Option NlpContext :=
  (r'.log.drop r.log.length).findSome? fun event =>
    match event with
    | .updateLocation context => some context
    | _ => none

def inject (s : State) (location : Location) (opens : Bool) : State :=
  if opens then { s.truncate .framework with framework := .writing location }
  else { s with framework := .sending location }

def frameworkStep (s : State) : Option State :=
  match s.framework with
  | .idle => none
  | .writing location => some { s.write .framework location with framework := .sending location }
  | .sending location => some { s.record (.injected location) with framework := .idle }

/-- The type of a fix is 1. -/
def parse (platform : Platform) (s : State) (moment : Moment) (sentence : Bytes) (opens : Bool) :
    State :=
  let reader := nmeaReaderParse platform moment s.reader sentence
  match saved s.reader reader with
  | none => { s with reader := reader }
  | some context =>
      if opens then { s.truncate .hal with reader := reader, hal := .writing ⟨context, 1⟩ }
      else { s with reader := reader }

def halStep (s : State) : Option State :=
  match s.hal with
  | .idle => none
  | .writing location => some { s.write .hal location with hal := .idle }
  | .reading =>
      let location := (s.file.getD none).getD noLocation
      some { s.record (.found location) with hal := .answering location }
  | .answering location =>
      some { s.record (.answered (location.withStarted s.started)) with hal := .idle }

def step (platform : Platform) (s : State) : Label → Option State
  | .inject latitude longitude accuracy seconds nanoseconds opens =>
      match s.framework with
      | .idle =>
          some (inject s ⟨⟨latitude, longitude, accuracy, seconds, nanoseconds, s.started⟩, 0⟩
            opens)
      | _ => none
  | .framework => frameworkStep s
  | .parse moment sentence opens =>
      match s.hal with
      | .idle =>
          if moment.started = s.started then some (parse platform s moment sentence opens) else none
      | _ => none
  | .control started =>
      match s.hal with
      | .idle => some { s.record (.control started) with started := started }
      | _ => none
  | .request opens =>
      match s.hal with
      | .idle => some (if opens && s.file.isSome then { s with hal := .reading } else s)
      | _ => none
  | .hal => halStep s

/-- The location that was written last, at first the one from before the start. -/
def lastWritten (before : Option Location) (log : List Event) : Option Location :=
  (latest (fun event => match event with | .written _ location => some location | _ => none)
    log).or before

/-- The framework has opened the file and not written it yet. -/
def FrameworkWrites (log : List Event) : Prop :=
  latest (fun event =>
    match event with
    | .truncated .framework => some true
    | .written .framework _ => some false
    | _ => none) log = some true

def lastFound (log : List Event) : Option Location :=
  latest (fun event => match event with | .found location => some location | _ => none) log

def lastStarted (log : List Event) : Bool :=
  (latest (fun event => match event with | .control started => some started | _ => none)
    log).getD false

/-- Where the framework writes the file just then, mnld may be told of no location instead of
the last one. -/
def Told (first : Option Location) (before : List Event) : Event → Prop
  | .found location =>
      lastWritten first before = some location ∨ location = noLocation ∧ FrameworkWrites before
  | .answered location =>
      ∃ found, lastFound before = some found ∧ location = found.withStarted (lastStarted before)
  | _ => True

structure Kept (first : Option Location) (s : State) : Prop where
  whole : ∀ location, s.file = some (some location) → lastWritten first s.log = some location
  empty : s.file = some none →
    (∃ location, s.framework = .writing location) ∨ ∃ location, s.hal = .writing location
  framework : (∃ location, s.framework = .writing location) → FrameworkWrites s.log
  reading : s.hal = .reading → s.file ≠ none
  answering : ∀ location, s.hal = .answering location → lastFound s.log = some location
  started : lastStarted s.log = s.started
  told : AtEach (Told first) s.log

section Logs

variable (first : Option Location) (log : List Event)

theorem lastWritten_snoc (event : Event) : lastWritten first (log ++ [event]) =
    match event with
    | .written _ location => some location
    | _ => lastWritten first log := by
  rw [lastWritten, latest_snoc]
  cases event <;> rfl

theorem frameworkWrites_snoc (event : Event) : FrameworkWrites (log ++ [event]) ↔
    match event with
    | .truncated .framework => True
    | .written .framework _ => False
    | _ => FrameworkWrites log := by
  rw [FrameworkWrites, latest_snoc]
  cases event with
  | truncated thread => cases thread <;> simp [FrameworkWrites]
  | written thread location => cases thread <;> simp [FrameworkWrites]
  | found | answered | injected | control => simp [FrameworkWrites]

theorem lastFound_snoc (event : Event) : lastFound (log ++ [event]) =
    match event with
    | .found location => some location
    | _ => lastFound log := by
  rw [lastFound, latest_snoc]
  cases event <;> rfl

theorem lastStarted_snoc (event : Event) : lastStarted (log ++ [event]) =
    match event with
    | .control started => started
    | _ => lastStarted log := by
  rw [lastStarted, latest_snoc]
  cases event <;> rfl

end Logs

section Steps

variable {platform : Platform} {first : Option Location} {s s' : State}

theorem kept_start (reader : NmeaReader) : Kept first (start reader first) where
  whole := by
    intro location same
    cases first with
    | none => simp [start] at same
    | some kept => simpa [start, lastWritten, latest] using same
  empty := by
    intro empty
    cases first <;> simp [start] at empty
  framework := by simp [start]
  reading := by simp [start]
  answering := by simp [start]
  started := rfl
  told := atEach_nil _

/-- The file of an idle thread is nobody's or the other one's. -/
theorem Kept.halWrites (kept : Kept first s) (empty : s.file = some none)
    (elsewhere : ∀ location, s.framework ≠ .writing location) :
    ∃ location, s.hal = .writing location := by
  rcases kept.empty empty with ⟨location, writes⟩ | writes
  · exact absurd writes (elsewhere location)
  · exact writes

theorem Kept.frameworkWrites (kept : Kept first s) (empty : s.file = some none)
    (elsewhere : ∀ location, s.hal ≠ .writing location) :
    ∃ location, s.framework = .writing location := by
  rcases kept.empty empty with writes | ⟨location, writes⟩
  · exact writes
  · exact absurd writes (elsewhere location)

theorem kept_inject (kept : Kept first s) (idle : s.framework = .idle) (location : Location)
    (opens : Bool) : Kept first (inject s location opens) := by
  cases opens with
  | true =>
      exact {
        whole := by simp [inject, State.truncate]
        empty := fun _ => .inl ⟨location, rfl⟩
        framework := fun _ => by simp [inject, State.truncate, frameworkWrites_snoc]
        reading := by simp [inject, State.truncate]
        answering := by simpa [inject, State.truncate, lastFound_snoc] using kept.answering
        started := by simpa [inject, State.truncate, lastStarted_snoc] using kept.started
        told := kept.told.snoc trivial }
  | false =>
      exact { kept with
        empty := fun empty => .inr (kept.halWrites empty (by simp [idle]))
        framework := by simp [inject] }

theorem kept_frameworkStep (kept : Kept first s) (stepped : frameworkStep s = some s') :
    Kept first s' := by
  cases now : s.framework with
  | idle => simp [frameworkStep, now] at stepped
  | writing location =>
      obtain rfl : { s.write .framework location with framework := .sending location } = s' := by
        simpa [frameworkStep, now] using stepped
      exact {
        whole := by simp [State.write, lastWritten_snoc]
        empty := by simp [State.write]
        framework := by simp
        reading := by simp [State.write]
        answering := by simpa [State.write, lastFound_snoc] using kept.answering
        started := by simpa [State.write, lastStarted_snoc] using kept.started
        told := kept.told.snoc trivial }
  | sending location =>
      obtain rfl : { s.record (.injected location) with framework := .idle } = s' := by
        simpa [frameworkStep, now] using stepped
      exact {
        whole := by simpa [State.record, lastWritten_snoc] using kept.whole
        empty := fun empty => .inr (kept.halWrites empty (by simp [now]))
        framework := by simp
        reading := kept.reading
        answering := by simpa [State.record, lastFound_snoc] using kept.answering
        started := by simpa [State.record, lastStarted_snoc] using kept.started
        told := kept.told.snoc trivial }

/-- The reader itself is nothing that the file depends on. -/
theorem Kept.withReader (kept : Kept first s) (reader : NmeaReader) :
    Kept first { s with reader := reader } :=
  { kept with }

theorem kept_parse (kept : Kept first s) (moment : Moment) (sentence : Bytes) (opens : Bool) :
    Kept first (parse platform s moment sentence opens) := by
  unfold parse
  dsimp only
  split
  · exact kept.withReader _
  · rename_i context _
    split
    · exact {
        whole := by simp [State.truncate]
        empty := fun _ => .inr ⟨_, rfl⟩
        framework := by
          intro writes
          simpa [State.truncate, frameworkWrites_snoc] using kept.framework writes
        reading := by simp
        answering := by simp
        started := by simpa [State.truncate, lastStarted_snoc] using kept.started
        told := kept.told.snoc trivial }
    · exact kept.withReader _

theorem kept_control (kept : Kept first s) (started : Bool) :
    Kept first { s.record (.control started) with started := started } where
  whole := by simpa [State.record, lastWritten_snoc] using kept.whole
  empty := kept.empty
  framework := by
    intro writes
    simpa [State.record, frameworkWrites_snoc] using kept.framework writes
  reading := kept.reading
  answering := by simpa [State.record, lastFound_snoc] using kept.answering
  started := by simp [State.record, lastStarted_snoc]
  told := kept.told.snoc trivial

theorem kept_request (kept : Kept first s) (idle : s.hal = .idle) (present : s.file ≠ none) :
    Kept first { s with hal := .reading } :=
  { kept with
    empty := fun empty => .inl (kept.frameworkWrites empty (by simp [idle]))
    reading := fun _ => present
    answering := by simp }

/-- What the HAL thread finds is the last location unless the framework is writing. -/
theorem found_told (kept : Kept first s) (reading : s.hal = .reading) :
    Told first s.log (.found ((s.file.getD none).getD noLocation)) := by
  cases contents : s.file with
  | none => exact absurd contents (kept.reading reading)
  | some held =>
      cases held with
      | some location => exact .inl (kept.whole location contents)
      | none =>
          exact .inr ⟨rfl, kept.framework (kept.frameworkWrites contents (by simp [reading]))⟩

theorem kept_halStep (kept : Kept first s) (stepped : halStep s = some s') : Kept first s' := by
  cases now : s.hal with
  | idle => simp [halStep, now] at stepped
  | writing location =>
      obtain rfl : { s.write .hal location with hal := .idle } = s' := by
        simpa [halStep, now] using stepped
      exact {
        whole := by simp [State.write, lastWritten_snoc]
        empty := by simp [State.write]
        framework := by
          intro writes
          simpa [State.write, frameworkWrites_snoc] using kept.framework writes
        reading := by simp
        answering := by simp
        started := by simpa [State.write, lastStarted_snoc] using kept.started
        told := kept.told.snoc trivial }
  | reading =>
      have told := found_told kept now
      simp only [halStep, now, Option.some.injEq] at stepped
      subst stepped
      generalize (s.file.getD none).getD noLocation = location at told ⊢
      exact {
        whole := by simpa [State.record, lastWritten_snoc] using kept.whole
        empty := fun empty => .inl (kept.frameworkWrites empty (by simp [now]))
        framework := by
          intro writes
          simpa [State.record, frameworkWrites_snoc] using kept.framework writes
        reading := by simp
        answering := by simp [State.record, lastFound_snoc]
        started := by simpa [State.record, lastStarted_snoc] using kept.started
        told := kept.told.snoc told }
  | answering location =>
      obtain rfl : { s.record (.answered (location.withStarted s.started)) with hal := .idle } =
          s' := by
        simpa [halStep, now] using stepped
      exact {
        whole := by simpa [State.record, lastWritten_snoc] using kept.whole
        empty := fun empty => .inl (kept.frameworkWrites empty (by simp [now]))
        framework := by
          intro writes
          simpa [State.record, frameworkWrites_snoc] using kept.framework writes
        reading := by simp
        answering := by simp
        started := by simpa [State.record, lastStarted_snoc] using kept.started
        told := kept.told.snoc ⟨location, kept.answering location now, by rw [kept.started]⟩ }

theorem kept_step {label : Label} (kept : Kept first s)
    (stepped : step platform s label = some s') : Kept first s' := by
  cases label with
  | inject latitude longitude accuracy seconds nanoseconds opens =>
      simp only [step] at stepped
      split at stepped
      · rename_i idle
        obtain rfl := Option.some.inj stepped
        exact kept_inject kept idle _ opens
      · cases stepped
  | framework => exact kept_frameworkStep kept stepped
  | parse moment sentence opens =>
      simp only [step] at stepped
      split at stepped
      · split at stepped
        · obtain rfl := Option.some.inj stepped
          exact kept_parse kept moment sentence opens
        · cases stepped
      · cases stepped
  | control started =>
      simp only [step] at stepped
      split at stepped
      · obtain rfl := Option.some.inj stepped
        exact kept_control kept started
      · cases stepped
  | request opens =>
      simp only [step] at stepped
      split at stepped
      · rename_i idle
        obtain rfl := Option.some.inj stepped
        split
        · rename_i present
          apply kept_request kept idle
          intro absent
          simp [absent] at present
        · exact kept
      · cases stepped
  | hal => exact kept_halStep kept stepped

end Steps

/-- A request before and after an injected location reaches the file. -/
def requestsAroundWrite : List Label :=
  [.inject 48 9 20 100 0 true, .request true, .hal, .hal, .framework, .request true, .hal, .hal]

def injectedLocation : Location := ⟨⟨48, 9, 20, 100, 0, false⟩, 0⟩

/-- The fix that an earlier boot has left in the file. -/
def olderFix : Location := ⟨⟨1, 1, 1, 1, 0, true⟩, 1⟩

end X5MaxDevice.Gps.LocationFile
