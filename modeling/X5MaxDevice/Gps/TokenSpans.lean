import X5MaxDevice.Gps.Tokenizer

/-! The NMEA tokenizer with its pointers into the sentence: the tokens are the fields between
the commas, and each of them lies in the sentence. -/

namespace X5MaxDevice.Gps.TokenSpans

open X5MaxDevice.Gps.Tokenizer (Bytes Token ascii comma newline maxNmeaTokens inField tokenLoop
  dropDollar dropNewline dropChecksum sentenceBody inField_of_plain tokenLoop_field tokenLoop_last
  tokenLoop_nil)

/-- The bytes from `p` to `stop`. -/
def slice (sentence : Bytes) (p stop : Nat) : Bytes := (sentence.take stop).drop p

/-- A token as its two pointers, counted from the start of the sentence. -/
structure Span where
  p : Nat
  stop : Nat
  deriving DecidableEq, Repr

structure NmeaTokenizer where
  tokens : List Span
  bounded : tokens.length ≤ maxNmeaTokens

/-- The initial '$' is optional. -/
def skipDollar (sentence : Bytes) (p stop : Nat) : Nat :=
  if p < stop ∧ sentence[p]? = some (ascii '$') then p + 1 else p

def cutNewline (sentence : Bytes) (p stop : Nat) : Nat :=
  if p < stop ∧ sentence[stop - 1]? = some newline then
    if p < stop - 1 ∧ sentence[stop - 1 - 1]? = some (ascii '\r') then stop - 1 - 1 else stop - 1
  else stop

def cutChecksum (sentence : Bytes) (p stop : Nat) : Nat :=
  if p + 3 ≤ stop ∧ sentence[stop - 3]? = some (ascii '*') then stop - 3 else stop

/-- `memchr` for a comma. -/
def memchr (sentence : Bytes) (p stop : Nat) : Option Nat :=
  ((slice sentence p stop).findIdx? (fun b => b == comma)).map (fun index => p + index)

/-- The loop over the fields, with the tokens stored so far. -/
def fieldLoop (sentence : Bytes) (stop : Nat) : Nat → Nat → List Span → List Span
  | 0, _, tokens => tokens
  | fuel + 1, p, tokens =>
      if p < stop then
        let q := (memchr sentence p stop).getD stop
        let stored :=
          if p ≤ q ∧ tokens.length < maxNmeaTokens then tokens ++ [⟨p, q⟩] else tokens
        fieldLoop sentence stop fuel (if q < stop then q + 1 else q) stored
      else tokens

theorem fieldLoop_bounded (sentence : Bytes) (stop fuel p : Nat) {tokens : List Span}
    (bounded : tokens.length ≤ maxNmeaTokens) :
    (fieldLoop sentence stop fuel p tokens).length ≤ maxNmeaTokens := by
  induction fuel generalizing p tokens with
  | zero => exact bounded
  | succ fuel ih =>
      rw [fieldLoop]
      split
      · apply ih
        split
        · rename_i room
          rw [List.length_append]
          exact room.2
        · exact bounded
      · exact bounded

/-- Each turn of the loop consumes at least one byte. -/
def nmeaTokenizerInit (sentence : Bytes) : NmeaTokenizer :=
  let p := skipDollar sentence 0 sentence.length
  let stop := cutChecksum sentence p (cutNewline sentence p sentence.length)
  ⟨fieldLoop sentence stop sentence.length p [],
    fieldLoop_bounded sentence stop sentence.length p (Nat.zero_le maxNmeaTokens)⟩

/-- `nmea_tokenizer_get`; `none` is the empty dummy token. -/
def NmeaTokenizer.get (t : NmeaTokenizer) (index : Int) : Option Span :=
  if index < 0 ∨ t.tokens.length ≤ index then none else t.tokens[index.toNat]?

def textOf (sentence : Bytes) : Option Span → Token
  | none => []
  | some span => slice sentence span.p span.stop

def Inside (sentence : Bytes) (span : Span) : Prop :=
  span.p ≤ span.stop ∧ span.stop ≤ sentence.length

theorem slice_length {sentence : Bytes} {p stop : Nat} (inside : stop ≤ sentence.length) :
    (slice sentence p stop).length = stop - p := by
  rw [slice, List.length_drop, List.length_take, Nat.min_eq_left inside]

theorem slice_drop (sentence : Bytes) (p stop count : Nat) :
    (slice sentence p stop).drop count = slice sentence (p + count) stop := by
  rw [slice, slice, List.drop_drop]

theorem slice_take {sentence : Bytes} {p stop count : Nat} (short : p + count ≤ stop) :
    (slice sentence p stop).take count = slice sentence p (p + count) := by
  rw [slice, slice, List.take_drop, List.take_take, Nat.min_eq_left short]

theorem slice_getElem {sentence : Bytes} {p stop index : Nat} (below : p + index < stop) :
    (slice sentence p stop)[index]? = sentence[p + index]? := by
  rw [slice, List.getElem?_drop, List.getElem?_take_of_lt below]

theorem slice_whole (sentence : Bytes) : slice sentence 0 sentence.length = sentence := by
  rw [slice, List.take_length, List.drop_zero]

theorem dropDollar_slice (sentence : Bytes) :
    dropDollar sentence = slice sentence (skipDollar sentence 0 sentence.length) sentence.length := by
  rw [dropDollar, skipDollar, List.head?_eq_getElem?]
  by_cases dollar : sentence[0]? = some (ascii '$')
  · have present : 0 < sentence.length := (List.getElem?_eq_some_iff.mp dollar).1
    rw [if_pos dollar, if_pos ⟨present, dollar⟩, slice, List.take_length, Nat.zero_add,
      List.drop_one]
  · rw [if_neg dollar, if_neg (fun both => dollar both.2), slice_whole]

theorem slice_getLast {sentence : Bytes} {p stop : Nat} (inside : stop ≤ sentence.length)
    (present : p < stop) : (slice sentence p stop).getLast? = sentence[stop - 1]? := by
  have index : p + (stop - p - 1) = stop - 1 := by omega
  rw [List.getLast?_eq_getElem?, slice_length inside, slice_getElem (by omega), index]

theorem slice_dropLast {sentence : Bytes} {p stop : Nat} (inside : stop ≤ sentence.length)
    (present : p < stop) : (slice sentence p stop).dropLast = slice sentence p (stop - 1) := by
  rw [List.dropLast_eq_take, slice_length inside, slice_take (by omega)]
  congr 1
  omega

theorem slice_empty {sentence : Bytes} {p stop : Nat} (empty : stop ≤ p) :
    slice sentence p stop = [] := by
  rw [slice]
  exact List.drop_eq_nil_of_le (by rw [List.length_take]; omega)

/-- The line end is cut off between the pointers. -/
theorem dropNewline_slice {sentence : Bytes} {p stop : Nat} (inside : stop ≤ sentence.length)
    (order : p ≤ stop) :
    dropNewline (slice sentence p stop) = slice sentence p (cutNewline sentence p stop) ∧
      p ≤ cutNewline sentence p stop ∧ cutNewline sentence p stop ≤ stop := by
  rw [dropNewline, cutNewline]
  by_cases present : p < stop
  · have last := slice_getLast inside present
    by_cases ended : sentence[stop - 1]? = some newline
    · have shorter := slice_dropLast inside present
      rw [last, if_pos ended, if_pos (And.intro present ended), shorter]
      by_cases more : p < stop - 1
      · have before := slice_getLast (show stop - 1 ≤ sentence.length by omega) more
        rw [before]
        by_cases carriage : sentence[stop - 1 - 1]? = some (ascii '\r')
        · rw [if_pos carriage, if_pos ⟨more, carriage⟩]
          exact ⟨slice_dropLast (by omega) more, by omega, by omega⟩
        · rw [if_neg carriage, if_neg (fun both => carriage both.2)]
          exact ⟨rfl, by omega, by omega⟩
      · have nothing : slice sentence p (stop - 1) = [] := slice_empty (by omega)
        rw [nothing, List.getLast?_nil, if_neg (by simp), if_neg (fun both => more both.1)]
        exact ⟨nothing.symm, by omega, by omega⟩
    · rw [last, if_neg ended, if_neg (fun both => ended both.2)]
      exact ⟨rfl, order, le_refl stop⟩
  · have nothing : slice sentence p stop = [] := slice_empty (by omega)
    rw [nothing, List.getLast?_nil, if_neg (by simp), if_neg (fun both => present both.1)]
    exact ⟨nothing.symm, order, le_refl stop⟩

theorem dropChecksum_slice {sentence : Bytes} {p stop : Nat} (inside : stop ≤ sentence.length)
    (order : p ≤ stop) :
    dropChecksum (slice sentence p stop) = slice sentence p (cutChecksum sentence p stop) ∧
      p ≤ cutChecksum sentence p stop ∧ cutChecksum sentence p stop ≤ stop := by
  have length : (slice sentence p stop).length = stop - p := slice_length inside
  rw [dropChecksum, cutChecksum, length]
  by_cases long : p + 3 ≤ stop
  · have third : (slice sentence p stop)[stop - p - 3]? = sentence[stop - 3]? := by
      rw [slice_getElem (by omega)]
      congr 1
      omega
    have enough : 3 ≤ stop - p := by omega
    rw [third]
    by_cases starred : sentence[stop - 3]? = some (ascii '*')
    · rw [if_pos ⟨enough, starred⟩, if_pos ⟨long, starred⟩, slice_take (by omega)]
      refine ⟨?_, by omega, by omega⟩
      congr 1
      omega
    · rw [if_neg (fun both => starred both.2), if_neg (fun both => starred both.2)]
      exact ⟨rfl, order, le_refl stop⟩
  · have short : ¬ 3 ≤ stop - p := by omega
    rw [if_neg (fun both => short both.1), if_neg (fun both => long both.1)]
    exact ⟨rfl, order, le_refl stop⟩

/-- The pointers of the body. -/
theorem sentenceBody_slice (sentence : Bytes) :
    let p := skipDollar sentence 0 sentence.length
    let stop := cutChecksum sentence p (cutNewline sentence p sentence.length)
    sentenceBody sentence = slice sentence p stop ∧ p ≤ stop ∧ stop ≤ sentence.length := by
  have start : skipDollar sentence 0 sentence.length ≤ sentence.length := by
    rw [skipDollar]
    split
    · rename_i dollar
      exact dollar.1
    · exact Nat.zero_le _
  rcases dropNewline_slice (le_refl sentence.length) start with ⟨cut, low, high⟩
  rcases dropChecksum_slice high low with ⟨cut', low', high'⟩
  refine ⟨?_, low', high'.trans high⟩
  rw [sentenceBody, dropDollar_slice, cut, cut']

/-- The comma that ends a field, or the end of the body. -/
theorem memchr_eq {sentence : Bytes} {p stop : Nat} (inside : stop ≤ sentence.length)
    (order : p ≤ stop) :
    (memchr sentence p stop).getD stop =
      p + (slice sentence p stop).findIdx (fun b => b == comma) := by
  have length : (slice sentence p stop).length = stop - p := slice_length inside
  rw [memchr, List.findIdx_eq_getD_findIdx?]
  cases (slice sentence p stop).findIdx? (fun b => b == comma) with
  | none =>
      rw [Option.map_none, Option.getD_none, Option.getD_none, length]
      omega
  | some index => rfl

theorem not_inField : (fun b => !inField b) = (fun b : UInt8 => b == comma) := by
  funext b
  rw [inField, bne, Bool.not_not]

/-- The tokens that the loop stores are those of the text between its pointers. -/
theorem fieldLoop_texts {sentence : Bytes} {stop : Nat} (inside : stop ≤ sentence.length)
    (fuel p : Nat) (order : p ≤ stop) (tokens : List Span)
    (bounded : tokens.length ≤ maxNmeaTokens) :
    (fieldLoop sentence stop fuel p tokens).map (fun span => slice sentence span.p span.stop) =
      (tokens.map (fun span => slice sentence span.p span.stop) ++
        tokenLoop fuel (slice sentence p stop)).take maxNmeaTokens := by
  induction fuel generalizing p tokens with
  | zero =>
      rw [fieldLoop, tokenLoop, List.append_nil, List.take_of_length_le]
      rw [List.length_map]
      exact bounded
  | succ fuel ih =>
      rw [fieldLoop]
      by_cases more : p < stop
      · have length : (slice sentence p stop).length = stop - p := slice_length inside
        have present : slice sentence p stop ≠ [] := List.ne_nil_of_length_pos (by omega)
        have within : (slice sentence p stop).findIdx (fun b => b == comma) ≤
            (slice sentence p stop).length := List.findIdx_le_length
        rw [if_pos more, memchr_eq inside order]
        dsimp only
        rw [tokenLoop, if_neg present, List.takeWhile_eq_take_findIdx_not,
          List.dropWhile_eq_drop_findIdx_not, not_inField]
        generalize (slice sentence p stop).findIdx (fun b => b == comma) = n at within ⊢
        have next : slice sentence (if p + n < stop then p + n + 1 else p + n) stop =
            ((slice sentence p stop).drop n).drop 1 := by
          rw [slice_drop, slice_drop]
          split
          · rfl
          · rw [slice_empty (by omega), slice_empty (by omega)]
        have advanced : (if p + n < stop then p + n + 1 else p + n) ≤ stop := by
          split
          · omega
          · omega
        rw [slice_take (by omega), ← next]
        generalize (if p + n < stop then p + n + 1 else p + n) = moved at advanced ⊢
        have ordered : p ≤ p + n := Nat.le_add_right p n
        by_cases room : tokens.length < maxNmeaTokens
        · have bounded' : (tokens ++ [Span.mk p (p + n)]).length ≤ maxNmeaTokens := by
            rw [List.length_append]
            exact room
          rw [if_pos (And.intro ordered room), ih moved advanced (tokens ++ [Span.mk p (p + n)]) bounded',
            List.map_append, List.append_assoc]
          rfl
        · have full : (tokens.map (fun span => slice sentence span.p span.stop)).length =
              maxNmeaTokens := by
            rw [List.length_map]
            omega
          rw [if_neg (fun both => room both.2), ih moved advanced tokens bounded,
            List.take_append_of_le_length full.ge, List.take_append_of_le_length full.ge]
      · rw [if_neg more, slice_empty (by omega), tokenLoop_nil, List.append_nil,
          List.take_of_length_le]
        rw [List.length_map]
        exact bounded

theorem fieldLoop_inside {sentence : Bytes} {stop : Nat} (inside : stop ≤ sentence.length)
    (fuel p : Nat) (order : p ≤ stop) (tokens : List Span)
    (earlier : ∀ span ∈ tokens, Inside sentence span) :
    ∀ span ∈ fieldLoop sentence stop fuel p tokens, Inside sentence span := by
  induction fuel generalizing p tokens with
  | zero => exact earlier
  | succ fuel ih =>
      rw [fieldLoop]
      split
      · have length : (slice sentence p stop).length = stop - p := slice_length inside
        have within : (slice sentence p stop).findIdx (fun b => b == comma) ≤
            (slice sentence p stop).length := List.findIdx_le_length
        rw [memchr_eq inside order]
        dsimp only
        apply ih
        · split
          · omega
          · omega
        · split
          · intro span member
            rcases List.mem_append.mp member with before | now
            · exact earlier span before
            · rw [List.mem_singleton.mp now]
              exact ⟨Nat.le_add_right _ _, by dsimp only; omega⟩
          · exact earlier
      · exact earlier

/-- The tokenizer with pointers stores the tokens of the one with texts. -/
theorem nmeaTokenizerInit_texts (sentence : Bytes) :
    (nmeaTokenizerInit sentence).tokens.map (fun span => slice sentence span.p span.stop) =
      (tokenLoop sentence.length (sentenceBody sentence)).take maxNmeaTokens := by
  rcases sentenceBody_slice sentence with ⟨body, order, inside⟩
  rw [body]
  exact fieldLoop_texts inside sentence.length _ order [] (Nat.zero_le maxNmeaTokens)

/-- The loop over the fields finds those between the commas; a trailing empty one is no token. -/
theorem tokenLoop_fields (fuel : Nat) {text : Bytes} (enough : text.length ≤ fuel) (index : Nat) :
    (tokenLoop fuel text).getD index [] = (text.splitOn comma).getD index [] := by
  induction fuel generalizing text index with
  | zero =>
      have empty : text = [] := List.length_eq_zero_iff.mp (Nat.le_zero.mp enough)
      rw [empty, tokenLoop_nil, List.splitOn_nil]
      cases index <;> rfl
  | succ fuel ih =>
      by_cases present : comma ∈ text
      · rcases List.eq_append_cons_of_mem present with ⟨field, rest, rfl, plain⟩
        rw [List.length_append, List.length_cons] at enough
        rw [tokenLoop_field fuel plain, List.splitOn_append_cons_self_of_not_mem plain]
        cases index with
        | zero => rfl
        | succ index =>
            rw [List.getD_cons_succ, List.getD_cons_succ]
            exact ih (by omega) index
      · rw [List.splitOn_eq_singleton present]
        by_cases empty : text = []
        · rw [empty, tokenLoop_nil]
          cases index <;> rfl
        · rw [tokenLoop_last fuel present empty]

theorem getD_take {texts : List Bytes} {index count : Nat} (inside : index < count) :
    (texts.take count).getD index [] = texts.getD index [] := by
  rw [List.getD_eq_getElem?_getD, List.getD_eq_getElem?_getD, List.getElem?_take_of_lt inside]

theorem get_text (t : NmeaTokenizer) (sentence : Bytes) (index : Nat) :
    textOf sentence (t.get index) =
      (t.tokens.map (fun span => slice sentence span.p span.stop)).getD index [] := by
  rw [NmeaTokenizer.get]
  split
  · rename_i outside
    have missing : t.tokens[index]? = none := List.getElem?_eq_none (by omega)
    rw [List.getD_eq_getElem?_getD, List.getElem?_map, missing]
    rfl
  · rename_i inside
    rw [Int.toNat_natCast, List.getD_eq_getElem?_getD, List.getElem?_map]
    cases t.tokens[index]? with
    | none => rfl
    | some span => rfl

theorem body_short (sentence : Bytes) : (sentenceBody sentence).length ≤ sentence.length := by
  rcases sentenceBody_slice sentence with ⟨body, _, inside⟩
  rw [body, slice_length inside]
  omega

theorem get_field (sentence : Bytes) (index : Fin maxNmeaTokens) :
    textOf sentence ((nmeaTokenizerInit sentence).get (index.val : Int)) =
      ((sentenceBody sentence).splitOn comma).getD index.val [] := by
  rw [get_text, nmeaTokenizerInit_texts, getD_take index.isLt,
    tokenLoop_fields _ (body_short sentence)]

theorem tokenizer_field (sentence : Bytes) (index : Fin maxNmeaTokens) :
    (Tokenizer.nmeaTokenizerInit sentence).get (index.val : Int) =
      ((sentenceBody sentence).splitOn comma).getD index.val [] := by
  have field : (Tokenizer.nmeaTokenizerInit sentence).tokens.getD index.val [] =
      ((sentenceBody sentence).splitOn comma).getD index.val [] := by
    rw [Tokenizer.nmeaTokenizerInit, getD_take index.isLt, tokenLoop_fields _ (le_refl _)]
  rw [← field, Tokenizer.NmeaTokenizer.get, Int.toNat_natCast]
  split
  · rename_i outside
    have missing := List.getElem?_eq_none (Int.ofNat_le.mp (outside.resolve_left (by omega)))
    rw [List.getD_eq_getElem?_getD, missing, Option.getD_none]
  · rfl

/-- The reader's tokens are the texts between the pointers. -/
theorem get_refines (sentence : Bytes) (index : Fin maxNmeaTokens) :
    (Tokenizer.nmeaTokenizerInit sentence).get (index.val : Int) =
      textOf sentence ((nmeaTokenizerInit sentence).get (index.val : Int)) := by
  rw [get_field, tokenizer_field]

theorem first_field_length (text : Bytes) :
    ((text.splitOn comma).getD 0 []).length ≤ text.length := by
  by_cases present : comma ∈ text
  · rcases List.eq_append_cons_of_mem present with ⟨field, rest, rfl, plain⟩
    rw [List.splitOn_append_cons_self_of_not_mem plain, List.getD_cons_zero, List.length_append]
    omega
  · rw [List.splitOn_eq_singleton present, List.getD_cons_zero]

/-- The first two fields do not overlap. -/
theorem two_fields_length (text : Bytes) :
    ((text.splitOn comma).getD 0 []).length + ((text.splitOn comma).getD 1 []).length ≤
      text.length := by
  by_cases present : comma ∈ text
  · rcases List.eq_append_cons_of_mem present with ⟨field, rest, rfl, plain⟩
    have second := first_field_length rest
    rw [List.splitOn_append_cons_self_of_not_mem plain, List.getD_cons_zero, List.getD_cons_succ,
      List.length_append, List.length_cons]
    omega
  · rw [List.splitOn_eq_singleton present]
    exact le_refl text.length

theorem two_tokens_length (sentence : Bytes) :
    ((Tokenizer.nmeaTokenizerInit sentence).get 0).length +
      ((Tokenizer.nmeaTokenizerInit sentence).get 1).length ≤ sentence.length := by
  have first := tokenizer_field sentence ⟨0, by decide⟩
  have second := tokenizer_field sentence ⟨1, by decide⟩
  have fields := (two_fields_length (sentenceBody sentence)).trans (body_short sentence)
  rw [← first, ← second] at fields
  exact fields

/-- Every token is the field of its index between the commas of the body, empty behind the last
one, and lies in the sentence unless it is the dummy. -/
theorem tokens_are_fields (sentence : Bytes) (index : Fin maxNmeaTokens) :
    let tok := (nmeaTokenizerInit sentence).get (index.val : Int)
    textOf sentence tok = ((sentenceBody sentence).splitOn comma).getD index.val [] ∧
      ∀ span, tok = some span → Inside sentence span := by
  rcases sentenceBody_slice sentence with ⟨_, order, inside⟩
  constructor
  · exact get_field sentence index
  · intro span found
    rw [NmeaTokenizer.get] at found
    split at found
    · cases found
    · exact fieldLoop_inside inside sentence.length _ order [] (by simp) span
        (List.mem_of_getElem? found)

end X5MaxDevice.Gps.TokenSpans
