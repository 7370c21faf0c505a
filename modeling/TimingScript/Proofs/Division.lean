import TimingScript.Proofs.Reading

/-! # Division — what each word of a line is used for

    The words behind a mnemonic are taken from the left: an argument, a
    number, an identifier, and whatever is left.  A division says which word
    has which use; put together in their order its parts are the words
    again, so no word is lost or used twice.  Since nothing but a number
    begins with a digit in the first two places, the first characters of the
    words decide (`Lawful`), and every row of words has exactly one such
    division (`lawful_divide`, `Lawful.divide_words`).

    A line is decoded to a record exactly if the division of its words
    explains the record (`decode_uses_each_word`). -/

namespace TimingScript

open Source (LineNumber Word)

/-! ## Divisions -/

/-- The words behind a mnemonic by their use. -/
structure Division where
  argument : Option Word
  number : Option Word
  identifier : Option Word
  trailing : List Word

namespace Division

/-- The words behind the argument and the number. -/
def others (division : Division) : List Word :=
  division.identifier.toList ++ division.trailing

/-- All words, in their order. -/
def words (division : Division) : List Word :=
  division.argument.toList ++ (division.number.toList ++ division.others)

/-- The words are divided by their first characters. -/
structure Lawful (division : Division) : Prop where
  argument : ∀ word ∈ division.argument, word.startsWithDigit = false
  number : ∀ word ∈ division.number, word.startsWithDigit = true
  /-- Behind the argument, or in its place if there is none, a word that
      begins with a digit is the number. -/
  taken : ∀ word ∈ (division.number.toList ++ division.others).head?,
    word.startsWithDigit = true → division.number = some word
  /-- Behind the mnemonic, a word that does not is the argument. -/
  first : division.argument = none → division.number = none →
    division.others = []
  /-- Words are left only behind an identifier. -/
  identifier : division.identifier = none → division.trailing = []

/-- The division with the given words behind the argument and the number. -/
def withOthers (argument number : Option Word) (others : List Word) :
    Division :=
  ⟨argument, number, others.head?, others.tail⟩

/-- Divides words by their first characters. -/
def divide : List Word → Division
  | [] => withOthers none none []
  | word :: rest =>
      if word.startsWithDigit then withOthers none (some word) rest
      else
        match rest with
        | [] => withOthers (some word) none []
        | value :: others =>
            if value.startsWithDigit then
              withOthers (some word) (some value) others
            else withOthers (some word) none (value :: others)

/-- The other words are an identifier and what is left behind it. -/
@[simp]
theorem others_withOthers (argument number : Option Word)
    (others : List Word) :
    (withOthers argument number others).others = others := by
  cases others with
  | nil => rfl
  | cons word rest => rfl

/-- The other words do not matter for the law, unless one of them would have
    been the argument or the number. -/
theorem lawful_withOthers {argument number : Option Word}
    {others : List Word}
    (hargument : ∀ word ∈ argument, word.startsWithDigit = false)
    (hnumber : ∀ word ∈ number, word.startsWithDigit = true)
    (htaken : number = none →
      ∀ word ∈ others.head?, word.startsWithDigit = false)
    (hfirst : argument = none → number = none → others = []) :
    (withOthers argument number others).Lawful where
  argument := hargument
  number := hnumber
  taken := by
    rw [others_withOthers]
    intro word hword hdigit
    cases number with
    | none =>
        rw [htaken rfl word hword] at hdigit
        cases hdigit
    | some value => exact hword
  first := by
    rw [others_withOthers]
    exact hfirst
  identifier := by
    intro hidentifier
    have hnil : others = [] := List.head?_eq_none_iff.mp hidentifier
    rw [hnil]
    rfl

/-- Words are divided lawfully. -/
theorem lawful_divide (words : List Word) : (divide words).Lawful := by
  have hone : ∀ {word : Word} {digit : Bool}, word.startsWithDigit = digit →
      ∀ w ∈ some word, w.startsWithDigit = digit := by
    rintro word digit h _ ⟨⟩
    exact h
  fun_cases divide words with
  | case1 => exact lawful_withOthers nofun nofun nofun fun _ _ => rfl
  | case2 word rest hdigit =>
      exact lawful_withOthers nofun (hone hdigit) nofun nofun
  | case3 word hword =>
      exact lawful_withOthers (hone (eq_false_of_ne_true hword)) nofun nofun
        nofun
  | case4 word hword value others hdigit =>
      exact lawful_withOthers (hone (eq_false_of_ne_true hword)) (hone hdigit)
        nofun nofun
  | case5 word hword value others hvalue =>
      exact lawful_withOthers (hone (eq_false_of_ne_true hword)) nofun
        (fun _ => hone (eq_false_of_ne_true hvalue)) nofun

/-- Dividing words loses none of them and repeats none. -/
theorem words_divide (words : List Word) : (divide words).words = words := by
  rw [Division.words]
  fun_cases divide words with
  | case1 => rfl
  | case2 word rest _ => rw [others_withOthers]; rfl
  | case3 word _ => rfl
  | case4 word _ value others _ => rw [others_withOthers]; rfl
  | case5 word _ value others _ => rfl

/-- A number is only looked for directly behind the argument. -/
example : divide [⟨"NEXT", 6⟩, ⟨"us", 11⟩, ⟨"5", 14⟩]
    = ⟨some ⟨"NEXT", 6⟩, none, some ⟨"us", 11⟩, [⟨"5", 14⟩]⟩ := by
  rfl

section

variable {division : Division}

/-- A lawful division is known from its other words. -/
theorem Lawful.withOthers_others (h : division.Lawful) :
    withOthers division.argument division.number division.others
      = division := by
  obtain ⟨argument, number, identifier, trailing⟩ := division
  cases identifier with
  | none =>
      obtain rfl : trailing = [] := h.identifier rfl
      rfl
  | some word => rfl

/-- **One division only.**  The words of a lawful division cannot be divided
    lawfully in another way. -/
theorem Lawful.divide_words (h : division.Lawful) :
    divide division.words = division := by
  refine Eq.trans ?_ h.withOthers_others
  rw [words]
  cases ha : division.argument with
  | none =>
      cases hn : division.number with
      | none => rw [h.first ha hn]; rfl
      | some value => exact if_pos (h.number value hn)
  | some word =>
      have hword : ¬ word.startsWithDigit = true := by
        rw [h.argument word ha]
        decide
      refine (if_neg hword).trans ?_
      cases hn : division.number with
      | some value => exact if_pos (h.number value hn)
      | none =>
          cases ho : division.others with
          | nil => rfl
          | cons value others =>
              refine if_neg fun hdigit => ?_
              have htaken := h.taken value
              rw [hn, ho] at htaken
              cases htaken rfl hdigit

end

end Division

namespace Statement

/-! ## Decoding by division -/

/-- What a statement counts: its number, or nothing without one. -/
def amount (line : LineNumber) (keyword : String) :
    Option Word → Except CompileError Nat
  | none => .ok 0
  | some word => number line keyword word.text

/-- The record that divided words make. -/
def recordOf (line : LineNumber) (opcode : Opcode) (division : Division)
    (n : Nat) : Record :=
  { opcode
    argument := division.argument.map Word.text
    parameter := n
    identifier := division.identifier.map Word.text
    line
    synthetic := false }

/-- The operands are found by dividing the words. -/
theorem operands_eq (line : LineNumber) (keyword : String)
    (words : List Word) :
    operands line keyword words
      = (amount line keyword (Division.divide words).number).map fun n =>
          ((Division.divide words).argument.map Word.text, n,
            (Division.divide words).others) := by
  rw [operands.eq_def]
  fun_cases Division.divide words with
  | case1 => rfl
  | case2 word rest hdigit =>
      rw [Division.others_withOthers]
      exact if_pos hdigit
  | case3 word hword => exact if_neg hword
  | case4 word hword value others hdigit =>
      rw [Division.others_withOthers]
      exact (if_neg hword).trans (if_pos hdigit)
  | case5 word hword value others hvalue =>
      exact (if_neg hword).trans (if_neg hvalue)

/-- The statement of a mnemonic is made of the division of the words behind
    it. -/
theorem decodePrimitive_eq (line : LineNumber) (opcode : Opcode)
    (words : List Word) :
    decodePrimitive line opcode words
      = (amount line opcode.mnemonic (Division.divide words).number).map
          fun n =>
            ⟨.primitive (recordOf line opcode (Division.divide words) n),
              unused line (.operation opcode)
                (Division.divide words).trailing⟩ := by
  have hothers := (Division.lawful_divide words).withOthers_others
  rw [decodePrimitive, operands_eq]
  cases amount line opcode.mnemonic (Division.divide words).number with
  | error e => rfl
  | ok n =>
      have hi := congrArg Division.identifier hothers
      have ht := congrArg Division.trailing hothers
      show Except.ok _ = Except.ok _
      dsimp only [Division.withOthers] at hi ht
      rw [hi, ht]
      rfl

/-- A number that is refused is the only thing that can be wrong with the
    words behind a mnemonic. -/
theorem amount_eq_error {line : LineNumber} {keyword : String}
    {number? : Option Word} {error : CompileError}
    (h : amount line keyword number? = .error error) :
    ∃ token, error = ⟨line, .malformedNumber keyword token⟩ := by
  cases number? with
  | none => cases h
  | some word =>
      rw [amount, number] at h
      split at h
      · cases h
      · exact ⟨word.text, (Except.error.inj h).symm⟩

end Statement

/-! ## Keywords -/

/-- The words that a line can begin with. -/
def Keyword.spellings : List String :=
  "SLICE" :: Opcode.all.map Opcode.mnemonic

/-- A word is a keyword exactly if it is spelled like one. -/
theorem Keyword.ofWord?_eq_some_iff {word : String} {keyword : Keyword} :
    ofWord? word = some keyword ↔ word = keyword.text := by
  constructor
  · exact fun h => (text_of_ofWord? h).symm
  · rintro rfl
    exact ofWord?_text keyword

/-- All other words are no keywords. -/
theorem Keyword.ofWord?_eq_none_iff {word : String} :
    ofWord? word = none ↔ word ∉ spellings := by
  constructor
  · intro h hmem
    rcases List.mem_cons.mp hmem with rfl | hmem
    · cases h
    · obtain ⟨opcode, -, rfl⟩ := List.mem_map.mp hmem
      have hfound := ofWord?_text (.operation opcode)
      rw [text, h] at hfound
      cases hfound
  · intro h
    cases hk : ofWord? word with
    | none => rfl
    | some keyword =>
        obtain rfl := ofWord?_eq_some_iff.mp hk
        cases keyword with
        | operation opcode =>
            exact absurd (List.mem_cons_of_mem _
              (List.mem_map_of_mem opcode.mem_all)) h
        | slice => exact absurd List.mem_cons_self h

/-! ## Lines -/

/-- Words that are not used are reported together, where the first of them
    stands; without such words there is nothing to report. -/
structure Statement.ReportsUnused (line : LineNumber) (keyword : Keyword)
    (words : List Word) (warning : Option Warning) : Prop where
  silent : words = [] → warning = none
  told : ∀ first ∈ words.head?, ∃ told : Warning, warning = some told ∧
    told.line = line ∧ told.keyword = keyword ∧
    told.caution = .unusedText (words.map Word.text) first.column ∧
    told.message = "ignoring unexpected text '"
      ++ String.intercalate " " (words.map Word.text)
      ++ "' starting at column " ++ toString first.column

/-- The division of the words behind a mnemonic explains a record: each word
    is used for a field of it, or it is reported. -/
structure Division.Explains (division : Division) (line : LineNumber)
    (first : Word) (record : Record) (warning : Option Warning) :
    Prop where
  mnemonic : first.text = record.opcode.mnemonic
  argument : record.argument = division.argument.map Word.text
  number : ∀ word ∈ division.number, ∃ n : Nat,
    Statement.number line record.opcode.mnemonic word.text = .ok n ∧
      record.parameter = n
  zero : division.number = none → record.parameter = 0
  identifier : record.identifier = division.identifier.map Word.text
  line_eq : record.line = line
  synthetic : record.synthetic = false
  reported : Statement.ReportsUnused line (.operation record.opcode)
    division.trailing warning

namespace Statement

variable {line : LineNumber} {first : Word} {rest : List Word}

/-- What is reported are the words that are not used. -/
theorem reportsUnused_iff {keyword : Keyword} {words : List Word}
    {warning : Option Warning} :
    ReportsUnused line keyword words warning
      ↔ warning = unused line keyword words := by
  constructor
  · intro h
    cases words with
    | nil => exact h.silent rfl
    | cons word rest =>
        obtain ⟨⟨_, _, _⟩, rfl, rfl, rfl, rfl, -⟩ := h.told word rfl
        rfl
  · rintro rfl
    refine ⟨?_, ?_⟩
    · rintro rfl
      rfl
    · intro word hword
      exact ⟨_, congrArg (Option.map _) hword, rfl, rfl, rfl, rfl⟩

/-- A division explains the record that is made of it, and no other one. -/
theorem explains_iff {division : Division} {record : Record}
    {warning : Option Warning} :
    division.Explains line first record warning ↔
      first.text = record.opcode.mnemonic ∧
      ∃ n, amount line record.opcode.mnemonic division.number = .ok n ∧
        record = recordOf line record.opcode division n ∧
        warning = unused line (.operation record.opcode)
          division.trailing := by
  constructor
  · intro h
    obtain ⟨n, hn, hparameter⟩ : ∃ n : Nat,
        amount line record.opcode.mnemonic division.number = .ok n ∧
          record.parameter = n := by
      cases hnumber : division.number with
      | none => exact ⟨0, rfl, h.zero hnumber⟩
      | some word => exact h.number word hnumber
    refine ⟨h.mnemonic, n, hn, ?_, reportsUnused_iff.mp h.reported⟩
    rw [recordOf, ← h.argument, ← hparameter, ← h.identifier, ← h.line_eq,
      ← h.synthetic]
  · rintro ⟨hmnemonic, n, hn, hrecord, hwarning⟩
    refine {
      mnemonic := hmnemonic
      argument := by rw [hrecord]; rfl
      number := ?_
      zero := ?_
      identifier := by rw [hrecord]; rfl
      line_eq := by rw [hrecord]; rfl
      synthetic := by rw [hrecord]; rfl
      reported := reportsUnused_iff.mpr hwarning }
    · intro word hword
      rw [Option.mem_def.mp hword] at hn
      exact ⟨n, hn, by rw [hrecord]; rfl⟩
    · intro hnone
      rw [hnone] at hn
      rw [hrecord, ← Except.ok.inj hn]
      rfl

/-- A line that begins with no keyword is refused for its first word. -/
theorem decode_of_unknown (hk : Keyword.ofWord? first.text = none) :
    decode line (first :: rest)
      = .error ⟨line, .unknownInstruction first.text⟩ := by
  rw [decode, hk]

/-- A line that begins with a mnemonic is divided. -/
theorem decode_of_operation {opcode : Opcode}
    (hk : Keyword.ofWord? first.text = some (.operation opcode)) :
    decode line (first :: rest)
      = (amount line opcode.mnemonic (Division.divide rest).number).map
          fun n =>
            ⟨.primitive (recordOf line opcode (Division.divide rest) n),
              unused line (.operation opcode)
                (Division.divide rest).trailing⟩ := by
  rw [decode, hk]
  exact decodePrimitive_eq line opcode rest

/-- A line that begins with `SLICE` is a call with six words. -/
theorem decode_of_slice (hk : Keyword.ofWord? first.text = some .slice) :
    decode line (first :: rest) = decodeSlice line rest := by
  rw [decode, hk]

/-- Only a word that is no keyword is refused as unknown. -/
theorem decode_eq_unknown_iff {at' : LineNumber} {word : String} :
    decode line (first :: rest) = .error ⟨at', .unknownInstruction word⟩ ↔
      (at' = line ∧ word = first.text) ∧
        first.text ∉ Keyword.spellings := by
  rw [← Keyword.ofWord?_eq_none_iff]
  cases hk : Keyword.ofWord? first.text with
  | none =>
      rw [decode_of_unknown hk, and_iff_left rfl]
      constructor
      · rintro ⟨⟩
        exact ⟨rfl, rfl⟩
      · rintro ⟨rfl, rfl⟩
        rfl
  | some keyword =>
      refine iff_of_false ?_ fun h => nomatch h.2
      intro h
      cases keyword with
      | slice =>
          rw [decode_of_slice hk, decodeSlice] at h
          split at h <;> cases h
      | operation opcode =>
          rw [decode_of_operation hk] at h
          cases ha : amount line opcode.mnemonic
              (Division.divide rest).number with
          | ok n => rw [ha] at h; cases h
          | error error =>
              obtain ⟨token, rfl⟩ := amount_eq_error ha
              rw [ha] at h
              cases h

/-- A line is decoded to a record if its division explains it, and only
    then. -/
theorem decode_eq_primitive_iff {record : Record}
    {warning : Option Warning} :
    decode line (first :: rest) = .ok ⟨.primitive record, warning⟩ ↔
      ∃ division : Division, rest = division.words ∧ division.Lawful ∧
        division.Explains line first record warning := by
  constructor
  · intro h
    have hdecoded : Decoded line first.text (.primitive record) :=
      decode_eq_ok h
    cases hdecoded with
    | primitive hk _ _ _ =>
        rw [decode_of_operation hk] at h
        obtain ⟨n, hn, hnoted⟩ := except_map_eq_ok h
        obtain ⟨hstatement, hwarning⟩ := Noted.mk.inj hnoted
        exact ⟨.divide rest, (Division.words_divide rest).symm,
          Division.lawful_divide rest, explains_iff.mpr
            ⟨Keyword.ofWord?_eq_some_iff.mp hk, n, hn,
              (Statement.primitive.inj hstatement).symm, hwarning.symm⟩⟩
  · rintro ⟨division, rfl, hlawful, hexplains⟩
    obtain ⟨hmnemonic, n, hn, hrecord, rfl⟩ := explains_iff.mp hexplains
    rw [decode_of_operation (Keyword.ofWord?_eq_some_iff.mpr hmnemonic),
      hlawful.divide_words, hn, hrecord]
    rfl

/-- A line is decoded to a call if it has six words behind `SLICE`, and only
    then. -/
theorem decode_eq_slice_iff {call : SliceCall} {warning : Option Warning} :
    decode line (first :: rest) = .ok ⟨.slice call, warning⟩ ↔
      first.text = "SLICE" ∧ ∃ words trailing : List Word,
        rest = words ++ trailing ∧ words.length = 6 ∧
        call = ⟨words.map Word.text, line⟩ ∧
        ReportsUnused line .slice trailing warning := by
  constructor
  · intro h
    have hdecoded : Decoded line first.text (.slice call) := decode_eq_ok h
    cases hdecoded with
    | slice hk _ =>
        rw [decode_of_slice hk, decodeSlice] at h
        split at h
        · cases h
        · rename_i hlen
          cases h
          exact ⟨Keyword.ofWord?_eq_some_iff.mp hk, rest.take sliceWords,
            rest.drop sliceWords, (List.take_append_drop ..).symm,
            List.length_take_of_le (Nat.not_lt.mp hlen), rfl,
            reportsUnused_iff.mpr rfl⟩
  · rintro ⟨hfirst, words, trailing, rfl, hlen, rfl, hreports⟩
    have hcount : words.length = sliceWords := hlen
    have hlong : ¬ (words ++ trailing).length < sliceWords := by
      rw [List.length_append, hcount]
      exact Nat.not_lt.mpr (Nat.le_add_right _ _)
    rw [decode_of_slice (Keyword.ofWord?_eq_some_iff.mpr hfirst),
      decodeSlice, if_neg hlong, List.take_left' hcount,
      List.drop_left' hcount, reportsUnused_iff.mp hreports]

/-- **Every word is used once.**  Only a first word that is no keyword is
    unknown.  A line is decoded to a record exactly if the lawful division of
    its words explains it: each of them is used for one field, or reported.
    It is decoded to a use of `SLICE` exactly if there are six words for
    that; words behind these are reported in the same way. -/
theorem decode_uses_each_word (line : LineNumber) (first : Word)
    (rest : List Word) :
    (∀ at' word,
      decode line (first :: rest) = .error ⟨at', .unknownInstruction word⟩ ↔
        (at' = line ∧ word = first.text) ∧
          first.text ∉ Keyword.spellings) ∧
    (∀ record warning,
      decode line (first :: rest) = .ok ⟨.primitive record, warning⟩ ↔
        ∃ division : Division, rest = division.words ∧ division.Lawful ∧
          division.Explains line first record warning) ∧
    ∀ call warning,
      decode line (first :: rest) = .ok ⟨.slice call, warning⟩ ↔
        first.text = "SLICE" ∧ ∃ words trailing : List Word,
          rest = words ++ trailing ∧ words.length = 6 ∧
          call = ⟨words.map Word.text, line⟩ ∧
          ReportsUnused line .slice trailing warning :=
  ⟨fun _ _ => decode_eq_unknown_iff, fun _ _ => decode_eq_primitive_iff,
    fun _ _ => decode_eq_slice_iff⟩

end Statement

end TimingScript
