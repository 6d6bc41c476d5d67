import Mathlib.Algebra.Group.Nat.Even
import Mathlib.Data.List.Induction
import X5MaxDevice.Gps.Reader

/-! The sentences that `nmea_reader_addc` hands to the parser, against the lines of the
byte stream. -/

namespace X5MaxDevice.Gps.Framing

open X5MaxDevice.Gps.Reader
open X5MaxDevice.Gps.Tokenizer

/-- The newline-terminated lines of a stream that continues the line `current`. -/
def linesFrom (current : Bytes) : Bytes → List Bytes
  | [] => []
  | b :: rest =>
      if b = newline then (current ++ [b]) :: linesFrom [] rest
      else linesFrom (current ++ [b]) rest

def lines (stream : Bytes) : List Bytes := linesFrom [] stream

/-- The line fits the buffer, its newline included. -/
def fits (line : Bytes) : Bool := decide (line.length ≤ nmeaMaxSize)

/-- The newline of the line is the first byte that does not fit. -/
def oneOver (line : Bytes) : Bool := decide (line.length = nmeaMaxSize + 1)

/-- How many of the last lines, without a gap, are one byte too long. -/
def overrun (before : List Bytes) : Nat := (before.reverse.takeWhile oneOver).length

def parsed : Event → Option Bytes
  | .parse sentence => some sentence
  | _ => none

/-- The sentences handed to `nmea_reader_parse`. -/
def handed (log : List Event) : List Bytes := log.filterMap parsed

/-- What the reader makes of a list of lines, from a skipping or an idle start. -/
def deliver : Bool → List Bytes → List Bytes
  | _, [] => []
  | true, _ :: rest => deliver false rest
  | false, line :: rest =>
      if fits line then line :: deliver false rest else deliver (oneOver line) rest

/-- The line after `before` is skipped. -/
def skips : Bool → List Bytes → Bool
  | skipping, [] => skipping
  | true, _ :: rest => skips false rest
  | false, line :: rest => skips (oneOver line) rest

theorem handed_append (first second : List Event) :
    handed (first ++ second) = handed first ++ handed second :=
  List.filterMap_append

theorem handed_locations {events : List Event} (locations : ∀ event ∈ events, locationEvent event) :
    handed events = [] := by
  apply List.filterMap_eq_nil_iff.mpr
  intro event member
  have kind := locations event member
  revert kind
  cases event <;> simp [locationEvent, parsed]

/-- The parts of the reader that collect the next sentence. -/
def collecting (r : NmeaReader) : Bool × Bytes × List Bytes := (r.overflow, r.input, handed r.log)

theorem parseFields_collecting (platform : Platform) (moment : Moment) (r : NmeaReader)
    (tzer : NmeaTokenizer) :
    collecting (parseFields platform moment r tzer) = collecting r := by
  rcases parseFields_cases platform moment r tzer with ⟨utc, fix, same⟩ | ⟨mode, mask, used, same⟩ |
    ⟨_, same⟩ | ⟨_, same⟩
  all_goals
    rw [same]
    rfl

theorem reportLocation_collecting (moment : Moment) (r : NmeaReader) :
    collecting (reportLocation moment r) = collecting r := by
  rcases reportLocation_cases moment r with ⟨fix, events, same, locations⟩
  rw [same]
  simp [collecting, handed_append, handed_locations locations]

theorem reportSvStatus_collecting (platform : Platform) (moment : Moment) (r : NmeaReader) :
    collecting (reportSvStatus platform moment r) = collecting r := by
  unfold reportSvStatus reportGnss reportGps
  split
  · split
    · simp [collecting, NmeaReader.setGnss, NmeaReader.record, handed, parsed]
    · rfl
  · split
    · split
      · simp [collecting, NmeaReader.setGps, NmeaReader.record, handed, parsed]
      · rfl
    · rfl

/-- Parsing leaves the collecting part alone and counts as one sentence. -/
theorem nmeaReaderParse_collecting (platform : Platform) (moment : Moment) (r : NmeaReader)
    (sentence : Bytes) :
    collecting (nmeaReaderParse platform moment r sentence) =
      (r.overflow, r.input, handed r.log ++ [sentence]) := by
  have recorded : collecting (r.record (.parse sentence)) =
      (r.overflow, r.input, handed r.log ++ [sentence]) := by
    simp [collecting, NmeaReader.record, handed, parsed]
  unfold nmeaReaderParse
  dsimp only
  split
  · exact recorded
  · split
    · exact recorded
    · rw [reportSvStatus_collecting, reportLocation_collecting, parseFields_collecting, recorded]

theorem nmeaReaderFinish_collecting (platform : Platform) (moment : Moment) (r : NmeaReader) :
    collecting (nmeaReaderFinish platform moment r) =
      (r.overflow, [], handed r.log ++ [r.input]) := by
  have collected := nmeaReaderParse_collecting platform moment r r.input
  simp only [collecting, Prod.mk.injEq] at collected
  rcases collected with ⟨overflow, _, sentences⟩
  simp [nmeaReaderFinish, collecting, NmeaReader.record, overflow, handed_append, sentences]
  rfl

/-- The reader after the bytes `current` of a line that it started skipping or idle. -/
structure InLine (r : NmeaReader) (skipping : Bool) (current : Bytes) : Prop where
  plain : newline ∉ current
  overflow : r.overflow = (skipping || decide (nmeaMaxSize < current.length))
  input : r.input = if r.overflow then [] else current

theorem init_inLine (svUsedInFix : Int → Int) : InLine (nmeaReaderInit svUsedInFix) false [] := by
  constructor
  · exact List.not_mem_nil
  · rfl
  · rfl

theorem addc_inside {platform : Platform} {r : NmeaReader} {skipping : Bool} {current : Bytes}
    (moment : Moment) {c : UInt8} (inLine : InLine r skipping current) (other : c ≠ newline) :
    InLine (nmeaReaderAddc platform moment r c) skipping (current ++ [c]) ∧
      handed (nmeaReaderAddc platform moment r c).log = handed r.log := by
  have plain : newline ∉ current ++ [c] := by
    simp [inLine.plain, other.symm]
  have overflow := inLine.overflow
  have input := inLine.input
  rw [nmeaReaderAddc]
  cases full : r.overflow with
  | true =>
      have longer : skipping = true ∨ nmeaMaxSize < current.length := by
        simpa [full] using overflow.symm
      refine ⟨⟨plain, ?_, ?_⟩, by simp⟩
      · simp only [↓reduceIte, List.length_append, List.length_singleton]
        rcases longer with skips | long
        · simp [skips, other]
        · simp [other, Nat.lt_succ_of_lt long]
      · simp [other, input, full]
  | false =>
      have room : skipping = false ∧ current.length ≤ nmeaMaxSize := by
        simpa [full] using overflow.symm
      rw [full] at input
      simp only [Bool.false_eq_true, ↓reduceIte] at input
      simp only [Bool.false_eq_true, ↓reduceIte, input, other]
      split
      · refine ⟨⟨plain, ?_, ?_⟩, rfl⟩
        · simp only [List.length_append, List.length_singleton]
          simp [Nat.lt_succ_of_le (by assumption : nmeaMaxSize ≤ current.length)]
        · simp
      · refine ⟨⟨plain, ?_, ?_⟩, rfl⟩
        · have short : ¬ nmeaMaxSize < current.length + 1 := by omega
          simp [room.1, short]
        · simp

theorem addc_newline {platform : Platform} {r : NmeaReader} {skipping : Bool} {current : Bytes}
    (moment : Moment) (inLine : InLine r skipping current) :
    InLine (nmeaReaderAddc platform moment r newline)
        (skips skipping [current ++ [newline]]) [] ∧
      handed (nmeaReaderAddc platform moment r newline).log =
        handed r.log ++ deliver skipping [current ++ [newline]] := by
  have overflow := inLine.overflow
  have input := inLine.input
  rw [nmeaReaderAddc]
  cases full : r.overflow with
  | true =>
      have longer : skipping = true ∨ nmeaMaxSize < current.length := by
        simpa [full] using overflow.symm
      have idle : skips skipping [current ++ [newline]] = false ∧
          deliver skipping [current ++ [newline]] = [] := by
        cases skipping with
        | true => exact ⟨rfl, rfl⟩
        | false =>
            have long : nmeaMaxSize < current.length := by simpa using longer
            have notFits : fits (current ++ [newline]) = false := by
              simp [fits]
              omega
            have notOver : oneOver (current ++ [newline]) = false := by
              simp [oneOver]
              omega
            simp [skips, deliver, notFits, notOver]
      rw [full] at input
      refine ⟨⟨List.not_mem_nil, ?_, ?_⟩, ?_⟩
      · simp [idle.1]
      · simpa using input
      · simp [idle.2]
  | false =>
      have room : skipping = false ∧ current.length ≤ nmeaMaxSize := by
        simpa [full] using overflow.symm
      rw [full] at input
      simp only [Bool.false_eq_true, ↓reduceIte] at input
      simp only [Bool.false_eq_true, ↓reduceIte, input, room.1]
      split
      · have exact : current.length = nmeaMaxSize := by omega
        have exceeds : oneOver (current ++ [newline]) = true := by simp [oneOver, exact]
        have notFits : fits (current ++ [newline]) = false := by simp [fits, exact]
        refine ⟨⟨List.not_mem_nil, ?_, ?_⟩, ?_⟩
        · simp [skips, exceeds]
        · simp
        · simp [deliver, notFits]
      · have short : fits (current ++ [newline]) = true := by
          simp [fits]
          omega
        have notOver : oneOver (current ++ [newline]) = false := by
          simp [oneOver]
          omega
        have collected := nmeaReaderFinish_collecting platform moment
          { r with overflow := false, input := current ++ [newline] }
        simp only [collecting, Prod.mk.injEq] at collected
        rcases collected with ⟨overflow, emptied, sentences⟩
        refine ⟨⟨List.not_mem_nil, ?_, ?_⟩, ?_⟩
        · rw [overflow]
          simp [skips, notOver]
        · rw [emptied, overflow]
          rfl
        · rw [sentences]
          simp [deliver, short]

theorem deliver_cons (skipping : Bool) (line : Bytes) (rest : List Bytes) :
    deliver skipping (line :: rest) =
      deliver skipping [line] ++ deliver (skips skipping [line]) rest := by
  cases skipping with
  | true => simp [deliver, skips]
  | false =>
      by_cases fitting : fits line = true
      · have notOver : oneOver line = false := by
          simp only [fits, decide_eq_true_eq] at fitting
          simp only [oneOver, decide_eq_false_iff_not]
          omega
        simp [deliver, skips, fitting, notOver]
      · simp [deliver, skips, fitting]

/-- The reader hands over what `deliver` keeps of the lines. -/
theorem feed_handed (platform : Platform) (stream : List (UInt8 × Moment)) (r : NmeaReader)
    (skipping : Bool) (current : Bytes) (inLine : InLine r skipping current) :
    handed (feed platform r stream).log =
      handed r.log ++ deliver skipping (linesFrom current (stream.map Prod.fst)) := by
  induction stream generalizing r skipping current with
  | nil => simp [feed, linesFrom, deliver]
  | cons next stream ih =>
      simp only [feed, List.foldl_cons, List.map_cons, linesFrom]
      by_cases ends : next.1 = newline
      · rcases addc_newline next.2 inLine with ⟨started, taken⟩
        rw [ends, if_pos rfl, deliver_cons, ← List.append_assoc, ← taken]
        exact ih _ _ _ started
      · rcases addc_inside next.2 inLine ends with ⟨inside, same⟩
        rw [if_neg ends, ← same]
        exact ih _ _ _ inside

theorem skips_snoc (skipping : Bool) (before : List Bytes) (line : Bytes) :
    skips skipping (before ++ [line]) = (!skips skipping before && oneOver line) := by
  induction before generalizing skipping with
  | nil => cases skipping <;> simp [skips]
  | cons head tail ih =>
      cases skipping with
      | true => simpa [skips] using ih false
      | false => simpa [skips] using ih (oneOver head)

theorem overrun_snoc (before : List Bytes) (line : Bytes) :
    overrun (before ++ [line]) = if oneOver line then overrun before + 1 else 0 := by
  cases exceeds : oneOver line <;> simp [overrun, exceeds]

/-- From an idle start, a line is skipped after an odd run of lines that are one over. -/
theorem skips_iff_odd (before : List Bytes) : skips false before = true ↔ Odd (overrun before) := by
  induction before using List.reverseRecOn with
  | nil => simp [skips, overrun]
  | append_singleton before line ih =>
      rw [skips_snoc, overrun_snoc]
      cases exceeds : oneOver line with
      | false => simp
      | true =>
          simp only [Bool.and_true, Bool.not_eq_true', ↓reduceIte, Nat.odd_add_one, ← ih]
          simp

theorem deliver_length_le (skipping : Bool) (all : List Bytes) :
    (deliver skipping all).length ≤ (all.filter fits).length := by
  induction all generalizing skipping with
  | nil => simp [deliver]
  | cons line rest ih =>
      cases skipping with
      | true =>
          have shorter := ih false
          have longer : (rest.filter fits).length ≤ ((line :: rest).filter fits).length :=
            ((List.sublist_cons_self line rest).filter fits).length_le
          simp only [deliver]
          omega
      | false =>
          have idle := ih false
          have skipped := ih (oneOver line)
          cases fitting : fits line with
          | true =>
              simp only [deliver, fitting, ↓reduceIte, List.filter_cons, List.length_cons]
              omega
          | false =>
              simp only [deliver, fitting, Bool.false_eq_true, ↓reduceIte, List.filter_cons]
              exact skipped

/-- Nothing that fits is lost exactly when no fitting line comes while skipping. -/
theorem deliver_eq_filter_iff (skipping : Bool) (all : List Bytes) :
    deliver skipping all = all.filter fits ↔
      ∀ before line after, all = before ++ line :: after → fits line = true →
        skips skipping before = false := by
  induction all generalizing skipping with
  | nil => simp [deliver]
  | cons head rest ih =>
      have unfolded : (∀ before line after, head :: rest = before ++ line :: after →
            fits line = true → skips skipping before = false) ↔
          (fits head = true → skipping = false) ∧
            ∀ before line after, rest = before ++ line :: after → fits line = true →
              skips (skips skipping [head]) before = false := by
        constructor
        · intro all
          refine ⟨fun fitting => ?_, fun before line after split fitting => ?_⟩
          · simpa [skips] using all [] head rest rfl fitting
          · have kept := all (head :: before) line after (by simp [split]) fitting
            cases skipping <;> simpa [skips] using kept
        · rintro ⟨first, later⟩ before line after split fitting
          cases before with
          | nil =>
              simp only [List.nil_append, List.cons.injEq] at split
              simpa [skips] using first (split.1 ▸ fitting)
          | cons other before =>
              simp only [List.cons_append, List.cons.injEq] at split
              have kept := later before line after split.2 fitting
              rw [split.1] at kept
              cases skipping <;> simpa [skips] using kept
      rw [unfolded, ← ih, deliver_cons]
      cases fitting : fits head with
      | false =>
          cases skipping <;> simp [deliver, fitting]
      | true =>
          cases skipping with
          | false => simp [deliver, fitting]
          | true =>
              have shorter := deliver_length_le (skips true [head]) rest
              simp only [deliver, List.nil_append, List.filter_cons, fitting, ↓reduceIte]
              constructor
              · intro same
                rw [same] at shorter
                simp at shorter
              · intro impossible
                simp at impossible

/-- The sentences handed to the parser are the lines that fit exactly when every line that
fits comes after an even number of consecutive lines that are one byte too long. -/
theorem sentences_are_fitting_lines_iff (platform : Platform) (svUsedInFix : Int → Int)
    (stream : List (UInt8 × Moment)) :
    handed (feed platform (nmeaReaderInit svUsedInFix) stream).log =
        (lines (stream.map Prod.fst)).filter fits ↔
      ∀ before line after, lines (stream.map Prod.fst) = before ++ line :: after →
        fits line = true → Even (overrun before) := by
  have taken := feed_handed platform stream _ false [] (init_inLine svUsedInFix)
  have empty : handed (nmeaReaderInit svUsedInFix).log = [] := rfl
  rw [taken, empty, List.nil_append]
  refine (deliver_eq_filter_iff false (lines (stream.map Prod.fst))).trans ?_
  have parity : ∀ before, skips false before = false ↔ Even (overrun before) := by
    intro before
    rw [← Nat.not_odd_iff_even, ← skips_iff_odd]
    simp
  simp only [parity]

/-- A line that is one byte too long, and then an empty line. -/
def overlongThenEmpty : Bytes := List.replicate 128 (ascii 'x') ++ [newline, newline]

/-- The empty line fits, but the newline of the line before it is lost in the overflow test. -/
theorem overlong_line_swallows_next :
    ¬ ∀ platform svUsedInFix stream,
      handed (feed platform (nmeaReaderInit svUsedInFix) stream).log =
        (lines (stream.map Prod.fst)).filter fits := by
  intro exact
  have asserted := exact gnssPlatform (fun _ => 0) (chunk epochMoment overlongThenEmpty)
  rw [feed_handed gnssPlatform _ _ false [] (init_inLine _)] at asserted
  revert asserted
  decide +kernel

end X5MaxDevice.Gps.Framing
