import X5MaxDevice.Ygps.NmeaParser

/-! The records on which `NmeaParser.parse` returns. -/

namespace X5MaxDevice.Ygps.ParserTotality

open X5MaxDevice.Java

variable {L : Type}

def OnlyStars (value : JString) : Prop := value ≠ [] ∧ ∀ c ∈ value, c = '*'

instance (value : JString) : Decidable (OnlyStars value) := inferInstanceAs (Decidable (_ ∧ _))

/-- No group of four fields ends in a field of stars alone. -/
def StarFree : List JString → Prop
  | _ :: _ :: _ :: snr :: rest => ¬ OnlyStars snr ∧ StarFree rest
  | _ => True

/-- The record has all the fields that its parser reads. -/
def Readable (record : JString) : Prop :=
  let values := split ',' record
  match dispatch record with
  | .rmc => 9 ≤ values.length
  | .gsa => checkTalker record = none ∨ values.length ≠ 17 ∨ values[2]? = some ['1']
  | .gga => 10 ≤ values.length
  | .gsv => checkTalker record = none ∨ (3 ≤ values.length ∧ StarFree (values.drop 4))
  | _ => True

/-- A result is a return if the condition holds, and an index exception otherwise. -/
def ReturnsIf {α : Type} (readable : Prop) (result : Except Exception α) : Prop :=
  (readable ∧ ∃ value, result = .ok value) ∨
    (¬ readable ∧ result = .error .indexOutOfBounds)

theorem ReturnsIf.caught_eq_ok {readable : Prop} {result : Except Exception Unit}
    (settled : ReturnsIf readable result) : caught result = .ok () ↔ readable := by
  rcases settled with ⟨holds, value, rfl⟩ | ⟨fails, rfl⟩
  · simp [caught, holds]
  · simp [caught, fails]

theorem field_of_lt {values : List JString} {index : Nat} (inside : index < values.length) :
    field values index = .ok values[index] := by
  simp [field, inside]

theorem field_of_le {values : List JString} {index : Nat} (outside : values.length ≤ index) :
    field values index = .error .indexOutOfBounds := by
  simp [field, outside]

theorem ReturnsIf.of_ok {α : Type} (value : α) : ReturnsIf True (.ok value) :=
  Or.inl ⟨trivial, value, rfl⟩

theorem ReturnsIf.congr {α : Type} {readable other : Prop} {result : Except Exception α}
    (settled : ReturnsIf readable result) (same : other ↔ readable) : ReturnsIf other result := by
  rw [ReturnsIf, same]
  exact settled

/-- Reading a field and going on returns if the field is there and the rest returns. -/
theorem ReturnsIf.bind_field {α : Type} {values : List JString} {index : Nat} {readable : Prop}
    {rest : JString → Except Exception α} (settled : ∀ text, ReturnsIf readable (rest text)) :
    ReturnsIf (index < values.length ∧ readable) (field values index >>= rest) := by
  by_cases inside : index < values.length
  · rw [field_of_lt inside]
    exact (settled values[index]).congr (and_iff_right inside)
  · rw [field_of_le (Nat.le_of_not_lt inside)]
    exact Or.inr ⟨fun both => inside both.1, rfl⟩

theorem readRMC_cases (values : List JString) :
    ReturnsIf (9 ≤ values.length) (readRMC values) := by
  have chain : ReturnsIf (2 < values.length ∧ 3 < values.length ∧ 4 < values.length ∧
      5 < values.length ∧ 6 < values.length ∧ 7 < values.length ∧ 8 < values.length ∧ True)
      (readRMC values) :=
    .bind_field fun _ => .bind_field fun _ => .bind_field fun _ => .bind_field fun _ =>
      .bind_field fun _ => .bind_field fun _ => .bind_field fun _ => .of_ok _
  exact chain.congr (by simp only [and_true]; omega)

theorem readGGA_cases (values : List JString) :
    ReturnsIf (10 ≤ values.length) (readGGA values) := by
  have chain : ReturnsIf (1 < values.length ∧ 2 < values.length ∧ 4 < values.length ∧
      9 < values.length ∧ 3 < values.length ∧ 5 < values.length ∧ True) (readGGA values) :=
    .bind_field fun _ => .bind_field fun _ => .bind_field fun _ => .bind_field fun _ =>
      .bind_field fun _ => .bind_field fun _ => .of_ok _
  exact chain.congr (by simp only [and_true]; omega)

/-- The SNR field is read unless nothing stands before its first star or behind it. -/
theorem snrText_cases (value : JString) :
    ReturnsIf (¬ OnlyStars value) (snrText value) := by
  rw [snrText, contains_char]
  by_cases present : '*' ∈ value
  · simp only [present, decide_true, if_true]
    cases parts : split '*' value with
    | nil => exact Or.inr ⟨fun other => other (split_eq_nil_iff.mp parts), rfl⟩
    | cons first rest =>
        refine Or.inl ⟨fun only => ?_, first, rfl⟩
        have none := split_eq_nil_iff.mpr only
        rw [parts] at none
        exact absurd none (List.cons_ne_nil first rest)
  · left
    refine ⟨fun only => ?_, value, by simp [present]⟩
    obtain ⟨c, rest, rfl⟩ := List.exists_cons_of_ne_nil only.1
    exact present (only.2 c List.mem_cons_self ▸ List.mem_cons_self)

theorem readSatellites_result (talker : Talker) (parser : NmeaParser L) (values : List JString) :
    ReturnsIf (StarFree values) (readSatellites talker parser values).2 := by
  fun_induction readSatellites talker parser values with
  | case1 parser prn elevation azimuth snr rest e failed =>
      rcases snrText_cases snr with ⟨-, text, read⟩ | ⟨stars, thrown⟩
      · rw [failed] at read
        cases read
      · rw [failed] at thrown
        obtain rfl : e = .indexOutOfBounds := by simpa using thrown
        exact Or.inr ⟨fun free => stars free.1, rfl⟩
  | case2 parser prn elevation azimuth snr rest text read sat extended ih =>
      rcases snrText_cases snr with ⟨free, -⟩ | ⟨-, thrown⟩
      · rcases ih with ⟨later, returned⟩ | ⟨later, thrown⟩
        · exact Or.inl ⟨⟨free, later⟩, returned⟩
        · exact Or.inr ⟨fun all => later all.2, thrown⟩
      · rw [read] at thrown
        cases thrown
  | case3 parser values short =>
      left
      refine ⟨?_, (), rfl⟩
      unfold StarFree
      split
      · exact absurd rfl (short _ _ _ _ _)
      · trivial

theorem parseRMC_result (parser : NmeaParser L) (record : JString) :
    ReturnsIf (9 ≤ (split ',' record).length) (parseRMC parser record).2 := by
  rcases readRMC_cases (split ',' record) with ⟨long, fields, read⟩ | ⟨short, thrown⟩
  · left
    refine ⟨long, ?_⟩
    rw [parseRMC, read]
    cases parser.mCurrentTalker with
    | none => exact ⟨(), rfl⟩
    | some talker => by_cases valid : fields.warning = ['A'] <;> simp [valid]
  · exact Or.inr ⟨short, by rw [parseRMC, thrown]⟩

theorem parseGGA_result (parser : NmeaParser L) (record : JString) :
    ReturnsIf (10 ≤ (split ',' record).length) (parseGGA parser record).2 := by
  rcases readGGA_cases (split ',' record) with ⟨long, fields, read⟩ | ⟨short, thrown⟩
  · left
    refine ⟨long, ?_⟩
    simp only [parseGGA, read]
    cases parser.mCurrentTalker <;> exact ⟨(), rfl⟩
  · exact Or.inr ⟨short, by simp only [parseGGA, thrown]⟩

theorem parseGSA_result (parser : NmeaParser L) (record : JString) :
    ReturnsIf (parser.mCurrentTalker = none ∨ (split ',' record).length ≠ 17 ∨
      (split ',' record)[2]? = some ['1']) (parseGSA parser record).2 := by
  unfold parseGSA
  generalize split ',' record = values
  cases parser.mCurrentTalker with
  | none => exact Or.inl ⟨Or.inl rfl, (), rfl⟩
  | some talker =>
      by_cases long : 17 ≤ values.length
      · have third : values[2]? = some (values.getD 2 []) := by
          simp [show 2 < values.length by omega]
        by_cases noFix : values.getD 2 [] = ['1']
        · left
          refine ⟨Or.inr (Or.inr (third.trans (congrArg some noFix))), (), ?_⟩
          simp only [if_pos long, if_pos noFix]
        · by_cases exact17 : values.length = 17
          · right
            refine ⟨?_, ?_⟩
            · rintro (missing | longer | fixed)
              · cases missing
              · exact longer exact17
              · exact noFix (Option.some.inj (third.symm.trans fixed))
            · simp only [if_pos long, if_neg noFix, field_of_le exact17.le]
          · left
            refine ⟨Or.inr (Or.inl exact17), (), ?_⟩
            simp only [if_pos long, if_neg noFix,
              field_of_lt (show 17 < values.length by omega)]
      · left
        refine ⟨Or.inr (Or.inl (by omega)), (), ?_⟩
        simp only [if_neg long]

theorem parseGSV_result (parser : NmeaParser L) (record : JString) :
    ReturnsIf (parser.mCurrentTalker = none ∨
      (3 ≤ (split ',' record).length ∧ StarFree ((split ',' record).drop 4)))
      (parseGSV parser record).2 := by
  unfold parseGSV
  generalize split ',' record = values
  cases parser.mCurrentTalker with
  | none => exact Or.inl ⟨Or.inl rfl, (), rfl⟩
  | some talker =>
      by_cases long : 3 ≤ values.length
      · simp only [field_of_lt (show 1 < values.length by omega),
          field_of_lt (show 2 < values.length by omega)]
        rcases readSatellites_result talker (if 0 < parseInt values[1] ∧ parseInt values[2] = 1 then
            parser.setSatellites talker [] else parser) (values.drop 4) with
          ⟨free, returned⟩ | ⟨stars, thrown⟩
        · exact Or.inl ⟨Or.inr ⟨long, free⟩, returned⟩
        · exact Or.inr ⟨by simp [stars], thrown⟩
      · right
        refine ⟨by simp [long], ?_⟩
        cases first : field values 1 <;>
          simp only [first, field_of_le (show values.length ≤ 2 by omega)]

/-- `parse` returns exactly on the records that are readable, whatever the parser's state. -/
theorem parse_returns_iff (parser : NmeaParser L) (record : JString) :
    (parse parser record).result = .ok () ↔ Readable record := by
  simp only [parse, Readable]
  cases dispatch record with
  | rmc => exact (parseRMC_result _ record).caught_eq_ok
  | gsa =>
      exact (parseGSA_result { parser with mCurrentTalker := checkTalker record
                                           mParseState := .gsa } record).caught_eq_ok
  | gga => exact (parseGGA_result _ record).caught_eq_ok
  | gsv =>
      exact (parseGSV_result { parser with mCurrentTalker := checkTalker record
                                           mParseState := .gsv } record).caught_eq_ok
  | uninit => simp [caught]
  | others => simp [caught]

/-- A record that ends behind its name has no field 2. -/
theorem short_record_throws :
    ¬ ∀ (L : Type) (parser : NmeaParser L) (record : JString),
      (parse parser record).result = .ok () := by
  intro total
  have returned := total Unit (.create []) "$GPRMC".toList
  revert returned
  decide +kernel

end X5MaxDevice.Ygps.ParserTotality
