import X5MaxDevice.Ygps.GsvMessages

/-! GSA records, and the satellites that `NmeaParser` then takes for used in the fix. -/

namespace X5MaxDevice.Ygps.GsaRecords

open X5MaxDevice.Java
open X5MaxDevice.Ygps.GsvMessages

variable {L : Type}

/-- A record with a fix. The twelve id fields may be empty or zero anywhere. -/
structure GsaRecord where
  talker : Talker
  automatic : Bool
  threeD : Bool
  ids : List (Option Numeral)
  pdop : JString
  hdop : JString
  vdop : JString
  twelve : ids.length = 12
  ids_int : ∀ n : Numeral, some n ∈ ids → 0 ≤ n.value ∧ n.value ≤ 2147483647
  dops : ∀ c ∈ pdop ++ (hdop ++ vdop), c.isDigit = true ∨ c = '.' ∨ c = '-'

def GsaRecord.mode (r : GsaRecord) : Char := if r.automatic then 'A' else 'M'

def GsaRecord.fix (r : GsaRecord) : Int := if r.threeD then 3 else 2

def GsaRecord.fixText (r : GsaRecord) : JString := if r.threeD then ['3'] else ['2']

/-- The fields behind the name. -/
def GsaRecord.fields (r : GsaRecord) : List JString :=
  [r.mode] :: r.fixText :: (r.ids.map fieldText ++ [r.pdop, r.hdop, r.vdop])

def GsaRecord.text (terminated : Bool) (r : GsaRecord) : JString :=
  sentence terminated ((r.talker.text ++ "GSA".toList) :: r.fields)

def idValue : Option Numeral → Int
  | none => 0
  | some n => n.value

/-- The satellite ids of the record that are not zero. -/
def GsaRecord.usedIds (r : GsaRecord) : List Int :=
  (r.ids.map idValue).filter (fun id => decide (0 < id))

/-- The used-in-fix set of the talker is that of the record, and the satellites of its next GSV
messages are marked by it. -/
structure MarksExactly (parser : NmeaParser L) (terminated : Bool) (r : GsaRecord) : Prop where
  used : ∀ id : Int,
    id ∈ (parse parser (r.text terminated)).parser.mUsedFixIdMapList (some r.talker) ↔
      id ∈ r.usedIds
  marked : ∀ (terminated' : Bool) (satellites : List Satellite), satellites ≠ [] →
    satellites.length ≤ 2147483647 →
      (parseAll (parse parser (r.text terminated)).parser
          (messages terminated' r.talker satellites)).mSatelInfoList r.talker =
        satellites.map (listed r.usedIds r.talker)

theorem addUsedFixIds_list (parser : NmeaParser L) (values : List JString) :
    (addUsedFixIds parser values).mUsedFixIdMapList parser.mCurrentTalker =
      parser.mUsedFixIdMapList parser.mCurrentTalker ++
        (values.map parseInt).filter (fun id => decide (0 < id)) := by
  induction values generalizing parser with
  | nil => simp [addUsedFixIds]
  | cons value rest ih =>
      rw [addUsedFixIds, List.foldl_cons, ← addUsedFixIds]
      by_cases positive : 0 < parseInt value
      · have added := ih (parser.addUsedFixId (parseInt value))
        have same : (parser.addUsedFixId (parseInt value)).mCurrentTalker = parser.mCurrentTalker :=
          rfl
        have extended : (parser.addUsedFixId (parseInt value)).mUsedFixIdMapList
            parser.mCurrentTalker =
              parser.mUsedFixIdMapList parser.mCurrentTalker ++ [parseInt value] :=
          Function.update_self _ _ _
        rw [same, extended, List.append_assoc] at added
        rw [if_pos positive, added]
        simp [positive]
      · rw [if_neg positive, ih parser]
        simp [positive]

/-- The set that a record of enough fields with a fix leaves. -/
theorem parseGSA_used (parser : NmeaParser L) {record : JString} {talker : Talker}
    (current : parser.mCurrentTalker = some talker) (long : 17 ≤ (split ',' record).length)
    (fixed : ¬ (split ',' record).getD 2 [] = ['1']) :
    (parseGSA parser record).1.mUsedFixIdMapList (some talker) =
      ((((split ',' record).drop 2).take 13).map parseInt).filter (fun id => decide (0 < id)) := by
  have listed := addUsedFixIds_list (parser.clearUsedFixList.clearUsedInFix talker)
    (((split ',' record).drop 2).take 13)
  have same : (parser.clearUsedFixList.clearUsedInFix talker).mCurrentTalker = some talker := current
  have cleared : (parser.clearUsedFixList.clearUsedInFix talker).mUsedFixIdMapList (some talker) =
      [] := by
    rw [← current]
    exact Function.update_self _ _ _
  rw [same, cleared, List.nil_append] at listed
  simp only [parseGSA, current, if_pos long, if_neg fixed]
  cases field (split ',' record) 17 with
  | ok vdop => exact listed
  | error e => exact listed

theorem parseInt_fieldText {r : GsaRecord} {field : Option Numeral} (listed : field ∈ r.ids) :
    parseInt (fieldText field) = idValue field := by
  cases field with
  | none => rfl
  | some n =>
      have range := r.ids_int n listed
      exact parseInt_numeral range.1 range.2

theorem parseInt_fixText (r : GsaRecord) : parseInt r.fixText = r.fix := by
  cases fixed : r.threeD with
  | true =>
      rw [GsaRecord.fixText, GsaRecord.fix, fixed]
      exact parseInt_toDigits (show 3 ≤ 2147483647 by decide)
  | false =>
      rw [GsaRecord.fixText, GsaRecord.fix, fixed]
      exact parseInt_toDigits (show 2 ≤ 2147483647 by decide)

/-- The characters of the fields are none that name a record or a talker. -/
theorem fields_plain {r : GsaRecord} {part : JString} (member : part ∈ r.fields) {c : Char}
    (inside : c ∈ part) : c ∉ markers ∧ c ≠ ',' := by
  have number {c : Char} (plain : c.isDigit = true ∨ c = '-') : c ∉ markers ∧ c ≠ ',' := by
    refine ⟨not_marker_of_field plain, ?_⟩
    rintro rfl
    exact absurd plain (by decide)
  have dop {text : JString} (listed : text = r.pdop ∨ text = r.hdop ∨ text = r.vdop)
      (inside : c ∈ text) : c ∉ markers ∧ c ≠ ',' := by
    have plain := r.dops c (by
      rcases listed with rfl | rfl | rfl
      · exact List.mem_append_left _ inside
      · exact List.mem_append_right _ (List.mem_append_left _ inside)
      · exact List.mem_append_right _ (List.mem_append_right _ inside))
    rcases plain with digit | rfl | minus
    · exact number (.inl digit)
    · exact ⟨by decide, by decide⟩
    · exact number (.inr minus)
  rw [GsaRecord.fields, List.mem_cons, List.mem_cons, List.mem_append] at member
  rcases member with rfl | rfl | id | last
  · rw [List.mem_singleton.mp inside, GsaRecord.mode]
    split
    · exact ⟨by decide, by decide⟩
    · exact ⟨by decide, by decide⟩
  · rw [GsaRecord.fixText] at inside
    split at inside
    · rw [List.mem_singleton.mp inside]
      exact ⟨by decide, by decide⟩
    · rw [List.mem_singleton.mp inside]
      exact ⟨by decide, by decide⟩
  · rcases List.mem_map.mp id with ⟨field, -, rfl⟩
    exact number (fieldText_chars inside)
  · simp only [List.mem_cons, List.not_mem_nil, or_false] at last
    exact dop last inside

theorem dispatch_gsa (talker : Talker) {rest : JString} (plain : 'R' ∉ rest) :
    dispatch (talker.text ++ ("GSA".toList ++ rest)) = .gsa := by
  have rmc : contains rest ['R', 'M', 'C'] = false := not_contains_of_absent (by decide) plain
  cases talker <;>
    simp [dispatch, Talker.text, contains_cons, rmc, List.isPrefixOf]

section

variable (terminated : Bool) (r : GsaRecord)

/-- The text behind the last field and the star. -/
def closing : JString :=
  checksum (join ',' ((r.talker.text ++ "GSA".toList) :: r.fields)).tail ++
    if terminated then "\r\n".toList else []

theorem text_eq : r.text terminated =
    join ',' ((r.talker.text ++ "GSA".toList) :: r.fields) ++ '*' :: closing terminated r :=
  rfl

theorem text_named : ∃ rest, (∀ c ∈ markers, c ∉ rest) ∧
    r.text terminated = r.talker.text ++ ("GSA".toList ++ rest) := by
  refine ⟨',' :: (join ',' r.fields ++ '*' :: closing terminated r), ?_, ?_⟩
  · intro c marker member
    rcases List.mem_cons.mp member with rfl | behind
    · exact absurd marker (by decide)
    rcases List.mem_append.mp behind with joined | ended
    · rcases mem_join joined with rfl | ⟨part, listed, inside⟩
      · exact absurd marker (by decide)
      · exact (fields_plain listed inside).1 marker
    · rcases List.mem_cons.mp ended with rfl | behindStar
      · exact absurd marker (by decide)
      · exact (ending_chars behindStar).1 marker
  · rw [text_eq, GsaRecord.fields, intercalate_cons_cons, List.append_assoc, List.append_assoc,
      List.cons_append]

theorem text_values : split ',' (r.text terminated) =
    (r.talker.text ++ "GSA".toList) :: [r.mode] :: r.fixText ::
      (r.ids.map fieldText ++ [r.pdop, r.hdop, r.vdop ++ '*' :: closing terminated r]) := by
  have front : (r.talker.text ++ "GSA".toList) :: r.fields =
      ((r.talker.text ++ "GSA".toList) :: [r.mode] :: r.fixText ::
        (r.ids.map fieldText ++ [r.pdop, r.hdop])) ++ [r.vdop] := by
    simp [GsaRecord.fields]
  rw [text_eq, split_appendLast (List.cons_ne_nil _ _) (List.cons_ne_nil _ _), front,
    appendLast_concat]
  · simp
  · exact comma_absent terminated _
  · intro part member inside
    rcases List.mem_cons.mp member with rfl | later
    · have named : ∀ talker : Talker, ',' ∉ talker.text ++ "GSA".toList := by
        intro talker
        cases talker <;> decide
      exact named r.talker inside
    · exact (fields_plain later inside).2 rfl

/-- The loop over the fields 2 to 14 takes the fix mode for a satellite id. -/
theorem used_after (parser : NmeaParser L) :
    (parse parser (r.text terminated)).parser.mUsedFixIdMapList (some r.talker) =
      r.fix :: r.usedIds := by
  obtain ⟨rest, plain, named⟩ := text_named terminated r
  have dispatched : dispatch (r.text terminated) = .gsa := by
    rw [named]
    exact dispatch_gsa r.talker (plain 'R' (by decide))
  have addressed : checkTalker (r.text terminated) = some r.talker := by
    rw [named]
    apply checkTalker_text
    intro member
    rcases List.mem_append.mp member with name | later
    · exact absurd name (by decide)
    · exact plain '$' (by decide) later
  have values := text_values terminated r
  have fixed : ¬ r.fixText = ['1'] := by
    rw [GsaRecord.fixText]
    split
    · decide
    · decide
  have positive : 0 < r.fix := by
    rw [GsaRecord.fix]
    split
    · decide
    · decide
  have length : (r.ids.map fieldText).length = 12 := (List.length_map _).trans r.twelve
  have thirteen : ((split ',' (r.text terminated)).drop 2).take 13 =
      r.fixText :: r.ids.map fieldText := by
    rw [values]
    exact congrArg (List.cons r.fixText) (List.take_left' length)
  have long : 17 ≤ (split ',' (r.text terminated)).length := by
    rw [values]
    simp only [List.length_cons, List.length_append, length]
    decide
  have third : ¬ (split ',' (r.text terminated)).getD 2 [] = ['1'] := by
    rw [values]
    exact fixed
  have ids : (r.ids.map fieldText).map parseInt = r.ids.map idValue := by
    rw [List.map_map]
    exact List.map_congr_left (fun field listed => parseInt_fieldText listed)
  have entered := parseGSA_used
    { parser with mCurrentTalker := some r.talker, mParseState := .gsa } rfl long third
  have kept : (r.fix :: r.ids.map idValue).filter (fun id => decide (0 < id)) = r.fix :: r.usedIds :=
    List.filter_cons_of_pos (by rwa [decide_eq_true_eq])
  rw [thirteen, List.map_cons, ids, parseInt_fixText, kept] at entered
  simp only [parse, dispatched, addressed]
  exact entered

end

theorem listed_congr {used other : List Int} (same : ∀ id, id ∈ used ↔ id ∈ other)
    (talker : Talker) : listed used talker = listed other talker := by
  funext s
  rw [listed, listed, decide_eq_decide.mpr (same s.prn.value)]

/-- The satellites used in the fix are those of the record exactly if the number of its fix mode is
one of their ids. -/
theorem marks_exactly_iff (parser : NmeaParser L) (terminated : Bool) (r : GsaRecord) :
    MarksExactly parser terminated r ↔ r.fix ∈ r.usedIds := by
  have after := used_after terminated r parser
  constructor
  · intro exact
    apply (exact.used r.fix).mp
    rw [after]
    exact List.mem_cons_self
  · intro listed
    have same : ∀ id : Int, id ∈ r.fix :: r.usedIds ↔ id ∈ r.usedIds := by
      intro id
      rw [List.mem_cons, or_iff_right_of_imp]
      rintro rfl
      exact listed
    refine ⟨fun id => after ▸ same id, fun terminated' satellites nonempty arrayList => ?_⟩
    rw [messages_run _ terminated' r.talker nonempty arrayList, after, listed_congr same,
      Function.update_self]

def numerals (ids : List Int) : List (Option Numeral) :=
  ids.map (fun id => if id = 0 then none else some ⟨id, 0⟩)

theorem documented_dops : ∀ c ∈ "3.6".toList ++ ("2.1".toList ++ "2.2".toList),
    c.isDigit = true ∨ c = '.' ∨ c = '-' := by
  simp

/-- The record of the parser's own documentation. -/
def documented : GsaRecord where
  talker := .gp
  automatic := true
  threeD := true
  ids := numerals [0, 0, 0, 0, 0, 16, 18, 0, 22, 24, 0, 0]
  pdop := "3.6".toList
  hdop := "2.1".toList
  vdop := "2.2".toList
  twelve := rfl
  ids_int := by
    intro n member
    rcases List.mem_map.mp member with ⟨id, listed, same⟩
    have range : ∀ id ∈ [(0 : Int), 0, 0, 0, 0, 16, 18, 0, 22, 24, 0, 0],
        0 ≤ id ∧ id ≤ 2147483647 := by decide
    split at same
    · cases same
    · cases same
      exact range id listed
  dops := documented_dops

theorem documented_record_marks_three :
    ¬ ∀ (parser : NmeaParser Unit) (terminated : Bool) (r : GsaRecord),
      MarksExactly parser terminated r := by
  intro marks
  have asserted := (marks (NmeaParser.create []) true documented).used 3
  rw [used_after] at asserted
  have satellite : (3 : Int) ∈ documented.usedIds := asserted.mp List.mem_cons_self
  revert satellite
  decide

end X5MaxDevice.Ygps.GsaRecords
