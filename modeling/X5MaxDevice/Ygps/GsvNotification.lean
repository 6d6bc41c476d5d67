import X5MaxDevice.Base.History
import X5MaxDevice.Ygps.NmeaParser

/-! When `NmeaParser` tells its listeners that the satellite lists are complete. -/

namespace X5MaxDevice.Ygps.GsvNotification

open X5MaxDevice.Java
open X5MaxDevice.History

variable {L : Type}

/-- The last record before this one went to `parseGSV`, and this one goes elsewhere. -/
def EndsRun (before : List JString) (record : JString) : Prop :=
  (∃ last, before.getLast? = some last ∧ dispatch last = .gsv) ∧ dispatch record ≠ .gsv

/-- A record that ends a run notifies every listener once, with the lists as the last
record of the run has left them; no other record notifies anyone. -/
def NotifiesAtRunEnd (listeners : List L) (before : List JString) (record : JString) : Prop :=
  let parser := parseAll (.create listeners) before
  (EndsRun before record → (parse parser record).notified =
    listeners.map (fun l => ⟨l, parser.mSatelInfoList, parser.mUsedFixIdMapList⟩)) ∧
  (¬ EndsRun before record → (parse parser record).notified = [])

/-- A record that ends a run does not name GSV. -/
def EndsPlainly (before : List JString) (record : JString) : Prop :=
  EndsRun before record → contains record "GSV".toList = false

theorem parseAll_snoc (parser : NmeaParser L) (before : List JString) (record : JString) :
    parseAll parser (before ++ [record]) = (parse (parseAll parser before) record).parser := by
  simp [parseAll]

theorem parseAll_mParseState (listeners : List L) (before : List JString) :
    (parseAll (.create listeners) before).mParseState =
      (before.getLast?.map dispatch).getD .uninit := by
  rcases List.eq_nil_or_concat before with rfl | ⟨front, last, rfl⟩
  · rfl
  · simp [parseAll_snoc, parse_mParseState]

theorem parseAll_mListener (parser : NmeaParser L) (before : List JString) :
    (parseAll parser before).mListener = parser.mListener := by
  induction before generalizing parser with
  | nil => rfl
  | cons record rest ih =>
      have later := ih (parse parser record).parser
      rw [parse_mListener] at later
      exact later

theorem gsv_of_state {listeners : List L} {before : List JString} :
    (parseAll (.create listeners) before).mParseState = .gsv ↔
      ∃ last, before.getLast? = some last ∧ dispatch last = .gsv := by
  rw [parseAll_mParseState]
  cases final : before.getLast? with
  | none => simp
  | some last => simp

/-- Records that are dispatched to `parseGSV` name GSV. -/
theorem contains_of_dispatch {record : JString} (dispatched : dispatch record = .gsv) :
    contains record "GSV".toList = true := by
  unfold dispatch at dispatched
  repeat' split at dispatched
  all_goals first | assumption | cases dispatched

/-- What `parse` notifies after the given records. -/
theorem notified_eq (listeners : List L) (before : List JString) (record : JString) :
    (parse (parseAll (.create listeners) before) record).notified =
      if (∃ last, before.getLast? = some last ∧ dispatch last = .gsv) ∧
          contains record "GSV".toList = false then
        listeners.map (fun l => ⟨l, (parseAll (.create listeners) before).mSatelInfoList,
          (parseAll (.create listeners) before).mUsedFixIdMapList⟩)
      else [] := by
  have everyone : (parseAll (.create listeners) before).mListener = listeners :=
    parseAll_mListener (.create listeners) before
  simp only [parse, gsv_of_state, NmeaParser.reportSVupdate, everyone]

/-- One record notifies as it should exactly when it does not end a run and name GSV. -/
theorem notifies_iff_endsPlainly {listeners : List L} (registered : listeners ≠ [])
    (before : List JString) (record : JString) :
    NotifiesAtRunEnd listeners before record ↔ EndsPlainly before record := by
  simp only [NotifiesAtRunEnd, notified_eq]
  by_cases ended : EndsRun before record
  · have present : listeners.map (fun l => (⟨l, (parseAll (.create listeners) before).mSatelInfoList,
        (parseAll (.create listeners) before).mUsedFixIdMapList⟩ : Notification L)) ≠ [] := by
      simpa using registered
    cases named : contains record "GSV".toList with
    | false =>
        simp only [EndsPlainly, ended, ended.1, named, and_self, if_true, true_implies,
          not_true_eq_false, false_implies]
    | true =>
        simp only [EndsPlainly, ended, named, Bool.true_eq_false, and_false, if_false,
          true_implies, not_true_eq_false, false_implies, and_true, present.symm]
  · have silent : ¬ ((∃ last, before.getLast? = some last ∧ dispatch last = .gsv) ∧
        contains record "GSV".toList = false) := by
      rintro ⟨continued, unnamed⟩
      apply ended
      refine ⟨continued, fun dispatched => ?_⟩
      have named := contains_of_dispatch dispatched
      rw [unnamed] at named
      cases named
    simp only [EndsPlainly, ended, false_implies, if_neg silent, not_false_eq_true, implies_true,
      and_self]

/-- In every sequence of records, the runs of GSV records are notified as they should, and
nothing else is, exactly if no record that ends a run names GSV; without a listener there
is nobody to notify. -/
theorem notified_at_run_ends_iff (listeners : List L) (records : List JString) :
    AtEach (NotifiesAtRunEnd listeners) records ↔
      listeners = [] ∨ AtEach EndsPlainly records := by
  by_cases registered : listeners = []
  · subst registered
    simp only [true_or, iff_true]
    intro before record after _
    simp [NotifiesAtRunEnd, notified_eq]
  · simp only [registered, false_or]
    constructor
    · intro notified before record after split
      exact (notifies_iff_endsPlainly registered before record).mp
        (notified before record after split)
    · intro plainly before record after split
      exact (notifies_iff_endsPlainly registered before record).mpr
        (plainly before record after split)

/-- An RMC sentence that reaches `parse` together with the next GSV sentence. -/
def runTogether : JString := "$GPRMC,,V,,,,,,,,,,N*53\r\n$GPGSV,1,1,00*79".toList

theorem run_together_not_notified :
    ¬ ∀ (L : Type) (listeners : List L) (records : List JString),
      AtEach (NotifiesAtRunEnd listeners) records := by
  intro always
  have dispatched : dispatch "$GPGSV,1,1,00*79".toList = .gsv := by decide +kernel
  have elsewhere : dispatch runTogether ≠ .gsv := by decide +kernel
  have named : contains runTogether "GSV".toList = true := by decide +kernel
  have notified := always Unit [()] ["$GPGSV,1,1,00*79".toList, runTogether]
    ["$GPGSV,1,1,00*79".toList] runTogether [] rfl
  have told := notified.1 ⟨⟨_, rfl, dispatched⟩, elsewhere⟩
  rw [notified_eq, if_neg (fun both => absurd (named.symm.trans both.2) (by decide))] at told
  exact absurd told (List.cons_ne_nil _ _).symm

end X5MaxDevice.Ygps.GsvNotification
