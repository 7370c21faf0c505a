import TimingScript.Proofs.Agreement

/-! # Spacing — only the words of a line matter

    Words may stand closer together or further apart, with `=` or without
    it, and a comment may follow them.  A line is decoded from the texts of
    its words alone, so two texts whose lines have the same words compile to
    the same program, or fail with the same error.

    How a line is spaced shows in two places: its row in the listing quotes
    it, and the warning about words that are not used quotes the column in
    which they begin.  `Respaced` relates values that differ in these two
    at most, for everything that is made on the way from words to
    programs. -/

namespace TimingScript

open Source (LineNumber Word)

/-! ## What spacing may change -/

/-- The texts of the words of a line, if it can be cut into words. -/
def Source.wordTexts? (source : String) : Option (List String) :=
  (Word.scan 1 source.toList).toOption.map (List.map Word.text)

/-- Both lines can be cut into words, and into the same ones. -/
def Source.Respaced (source other : String) : Prop :=
  (wordTexts? source).isSome ∧ wordTexts? source = wordTexts? other

instance (source other : String) : Decidable (Source.Respaced source other) :=
  inferInstanceAs (Decidable (_ ∧ _))

/-- Words with the same text, in columns of their own. -/
def Source.Word.Respaced (word other : Word) : Prop :=
  word.text = other.text

/-- Cautions that differ in the column of unused words at most. -/
inductive Caution.Respaced : Caution → Caution → Prop where
  | same (caution : Caution) : Respaced caution caution
  | moved (words : List String) (column column' : Nat) :
      Respaced (.unusedText words column) (.unusedText words column')

/-- Warnings about the same line and keyword, with such cautions. -/
structure Warning.Respaced (warning other : Warning) : Prop where
  line : warning.line = other.line
  keyword : warning.keyword = other.keyword
  caution : warning.caution.Respaced other.caution

/-- Rows that differ in the text they quote at most. -/
structure ListingRow.Respaced (row other : ListingRow) : Prop where
  line : row.line = other.line
  synthetic : row.synthetic = other.synthetic
  instruction : row.instruction = other.instruction

/-- The same value, noted with such warnings. -/
structure Noted.Respaced {α : Type} (noted other : Noted α) : Prop where
  value : noted.value = other.value
  warning : List.Forall₂ Warning.Respaced noted.warning.toList
    other.warning.toList

/-- The same records, read with such warnings. -/
structure Reading.Respaced (reading other : Reading) : Prop where
  records : reading.records = other.records
  warnings : List.Forall₂ Warning.Respaced reading.warnings other.warnings

/-- Such rows and such warnings. -/
structure Yield.Respaced (y z : Yield) : Prop where
  rows : List.Forall₂ ListingRow.Respaced y.rows z.rows
  warnings : List.Forall₂ Warning.Respaced y.warnings z.warnings

/-- The same bytes and instructions, with such rows and such warnings. -/
structure Program.Respaced (program other : Program) : Prop where
  image : program.image = other.image
  instructions : program.instructions = other.instructions
  listing : List.Forall₂ ListingRow.Respaced program.listing.toList
    other.listing.toList
  warnings : List.Forall₂ Warning.Respaced program.warnings.toList
    other.warnings.toList

/-- A warning differs in nothing from itself. -/
theorem Warning.Respaced.refl (warning : Warning) :
    warning.Respaced warning :=
  ⟨rfl, rfl, .same warning.caution⟩

/-- Warnings differ in nothing from themselves. -/
theorem Warning.Respaced.refl_list (warnings : List Warning) :
    List.Forall₂ Warning.Respaced warnings warnings :=
  List.forall₂_same.mpr fun warning _ => refl warning

/-- Lines with the same words are cut alike, but for the columns. -/
theorem Source.Respaced.exists_scan {source other : String}
    (h : Respaced source other) :
    ∃ u v, Word.scan 1 source.toList = .ok u ∧
      Word.scan 1 other.toList = .ok v ∧
      List.Forall₂ Word.Respaced u v := by
  obtain ⟨hsome, heq⟩ := h
  obtain ⟨texts, htexts⟩ := Option.isSome_iff_exists.mp hsome
  obtain ⟨u, hu, hut⟩ := Option.map_eq_some_iff.mp htexts
  obtain ⟨v, hv, hvt⟩ := Option.map_eq_some_iff.mp (heq.symm.trans htexts)
  refine ⟨u, v, except_eq_ok_of_toOption hu, except_eq_ok_of_toOption hv, ?_⟩
  have hsame : List.Forall₂ Eq (u.map Word.text) (v.map Word.text) := by
    rw [List.forall₂_eq_eq_eq, hut, hvt]
  rw [List.forall₂_map_left_iff, List.forall₂_map_right_iff] at hsame
  exact hsame

/-! ## Statements -/

namespace Statement

section

variable {u v : List Word}

/-- The texts of words do not depend on their columns. -/
theorem map_text_respaced (h : List.Forall₂ Word.Respaced u v) :
    u.map Word.text = v.map Word.text := by
  induction h with
  | nil => rfl
  | @cons a b _ _ hab _ ih =>
      rw [List.map_cons, List.map_cons, ih, show a.text = b.text from hab]

/-- Whether a word is a number shows in its text. -/
theorem startsWithDigit_respaced {word other : Word}
    (h : word.Respaced other) :
    word.startsWithDigit = other.startsWithDigit := by
  rw [Word.startsWithDigit, Word.startsWithDigit,
    show word.text = other.text from h]

/-- Of unused words only the column of the first one may differ. -/
theorem unused_respaced (line : LineNumber) (keyword : Keyword)
    (h : List.Forall₂ Word.Respaced u v) :
    List.Forall₂ Warning.Respaced (unused line keyword u).toList
      (unused line keyword v).toList := by
  have htexts := map_text_respaced h
  cases h with
  | nil => exact .nil
  | cons _ _ =>
      refine .cons ⟨rfl, rfl, ?_⟩ .nil
      rw [htexts]
      exact .moved _ _ _

/-- Operands are told apart by the texts of the words. -/
theorem operands_respaced (line : LineNumber) (keyword : String)
    (h : List.Forall₂ Word.Respaced u v) :
    Agrees (fun p q => p.1 = q.1 ∧ p.2.1 = q.2.1 ∧
        List.Forall₂ Word.Respaced p.2.2 q.2.2)
      (operands line keyword u) (operands line keyword v) := by
  cases h with
  | nil => exact .ok ⟨rfl, rfl, .nil⟩
  | @cons word word' rest rest' hword hrest =>
      -- the parameter is the first word, or it may be the second one
      rw [operands.eq_def, operands.eq_def]
      dsimp only
      rw [startsWithDigit_respaced hword,
        show word.text = word'.text from hword]
      by_cases hw : word'.startsWithDigit = true
      · rw [if_pos hw, if_pos hw]
        refine (Agrees.refl (fun _ => rfl) _).map ?_
        rintro n _ rfl
        exact ⟨rfl, rfl, hrest⟩
      rw [if_neg hw, if_neg hw]
      cases hrest with
      | nil => exact .ok ⟨rfl, rfl, .nil⟩
      | @cons value value' others others' hvalue hothers =>
          dsimp only
          rw [startsWithDigit_respaced hvalue,
            show value.text = value'.text from hvalue]
          by_cases hv : value'.startsWithDigit = true
          · rw [if_pos hv, if_pos hv]
            refine (Agrees.refl (fun _ => rfl) _).map ?_
            rintro n _ rfl
            exact ⟨rfl, rfl, hothers⟩
          · rw [if_neg hv, if_neg hv]
            exact .ok ⟨rfl, rfl, .cons hvalue hothers⟩

/-- A line with a mnemonic is decoded from the texts of its words. -/
theorem decodePrimitive_respaced (line : LineNumber) (opcode : Opcode)
    (h : List.Forall₂ Word.Respaced u v) :
    Agrees Noted.Respaced (decodePrimitive line opcode u)
      (decodePrimitive line opcode v) := by
  have hoperands := operands_respaced line opcode.mnemonic h
  rw [decodePrimitive, decodePrimitive]
  generalize operands line opcode.mnemonic u = x at hoperands
  generalize operands line opcode.mnemonic v = y at hoperands
  cases hoperands with
  | error e => exact .error e
  | @ok p q hpq =>
      obtain ⟨argument, parameter, rest⟩ := p
      obtain ⟨argument', parameter', rest'⟩ := q
      obtain ⟨rfl, rfl, hrest⟩ := hpq
      have htail : List.Forall₂ Word.Respaced rest.tail rest'.tail := by
        cases hrest with
        | nil => exact .nil
        | cons _ htail => exact htail
      have hhead : rest.head?.map Word.text = rest'.head?.map Word.text := by
        rw [← List.head?_map, ← List.head?_map, map_text_respaced hrest]
      refine .ok ⟨?_, unused_respaced line (.operation opcode) htail⟩
      dsimp only
      rw [hhead]

/-- A use of `SLICE` is decoded from the texts of its words. -/
theorem decodeSlice_respaced (line : LineNumber)
    (h : List.Forall₂ Word.Respaced u v) :
    Agrees Noted.Respaced (decodeSlice line u) (decodeSlice line v) := by
  rw [decodeSlice, decodeSlice, h.length_eq]
  by_cases hlen : v.length < sliceWords
  · rw [if_pos hlen, if_pos hlen]
    exact .error _
  · rw [if_neg hlen, if_neg hlen]
    refine .ok ⟨?_, unused_respaced line .slice (List.forall₂_drop _ h)⟩
    dsimp only
    rw [map_text_respaced (List.forall₂_take sliceWords h)]

/-- A line is decoded from the texts of its words. -/
theorem decode_respaced (line : LineNumber)
    (h : List.Forall₂ Word.Respaced u v) :
    Agrees Noted.Respaced (decode line u) (decode line v) := by
  cases h with
  | nil => exact .error _
  | @cons first first' rest rest' hfirst hrest =>
      rw [decode, decode, show first.text = first'.text from hfirst]
      cases Keyword.ofWord? first'.text with
      | none => exact .error _
      | some keyword =>
          cases keyword with
          | slice => exact decodeSlice_respaced line hrest
          | operation opcode =>
              exact decodePrimitive_respaced line opcode hrest

end

end Statement

/-! ## Readings -/

namespace Reading

/-- Words are read by their texts. -/
theorem ofWords_respaced (line : LineNumber) {u v : List Word}
    (h : List.Forall₂ Word.Respaced u v) :
    Agrees Respaced (ofWords line u) (ofWords line v) := by
  have hdecode := Statement.decode_respaced line h
  cases h with
  | nil => exact .ok ⟨rfl, .nil⟩
  | @cons first first' rest rest' _ _ =>
      rw [ofWords, ofWords]
      generalize Statement.decode line (first :: rest) = x at hdecode
      generalize Statement.decode line (first' :: rest') = y at hdecode
      cases hdecode with
      | error e => exact .error e
      | @ok noted noted' hnoted =>
          dsimp only
          rw [hnoted.value]
          refine (Agrees.refl (fun _ => rfl) _).map ?_
          rintro reading _ rfl
          exact ⟨rfl, List.rel_append hnoted.warning
            (Warning.Respaced.refl_list reading.warnings)⟩

/-- Lines with the same words are read alike. -/
theorem ofLine_respaced (line : LineNumber) {source other : String}
    (h : Source.Respaced source other) :
    Agrees Respaced (ofLine line source) (ofLine line other) := by
  obtain ⟨u, v, hu, hv, hwords⟩ := h.exists_scan
  rw [ofLine, ofLine, Word.read, Word.read, hu, hv]
  exact ofWords_respaced line hwords

end Reading

/-! ## Yields and programs -/

namespace Yield

/-- Yields behind each other, respaced one by one. -/
theorem append_respaced {y y' z z' : Yield} (hy : y.Respaced y')
    (hz : z.Respaced z') : (y.append z).Respaced (y'.append z') :=
  ⟨List.rel_append hy.rows hz.rows, List.rel_append hy.warnings hz.warnings⟩

/-- Yields in a row, respaced one by one. -/
theorem join_respaced {ys zs : List Yield}
    (h : List.Forall₂ Respaced ys zs) : (join ys).Respaced (join zs) := by
  induction h with
  | nil => exact ⟨.nil, .nil⟩
  | cons hfirst _ ih =>
      rw [join_cons, join_cons]
      exact append_respaced hfirst ih

/-- Records yield the same on every source, but for the source. -/
theorem ofRecords_respaced (clock : Clock) (source other : String)
    (records : List Record) :
    ∀ loops, Agrees Respaced (ofRecords clock source loops records)
      (ofRecords clock other loops records) := by
  induction records with
  | nil => intro loops; exact .ok ⟨.nil, .nil⟩
  | cons record rest ih =>
      intro loops
      rw [ofRecords, ofRecords]
      cases record.encode loops clock with
      | error e => exact .error e
      | ok noted =>
          refine (ih (loops.after record)).map fun y z hyz => ?_
          refine append_respaced ⟨?_, Warning.Respaced.refl_list _⟩ hyz
          exact .cons ⟨rfl, rfl, rfl⟩ .nil

/-- Lines with the same words yield the same, whatever loops are open. -/
theorem ofLine_respaced (clock : Clock) (line : LineNumber)
    {source other : String} (h : Source.Respaced source other)
    (loops : LoopStack) :
    Agrees (InStep Respaced) (ofLine clock loops line source)
      (ofLine clock loops line other) := by
  have hreading := Reading.ofLine_respaced line h
  rw [ofLine, ofLine]
  generalize Reading.ofLine line source = x at hreading
  generalize Reading.ofLine line other = y at hreading
  cases hreading with
  | error e => exact .error e
  | @ok reading reading' hr =>
      dsimp only
      rw [ofReading, ofReading, hr.records]
      refine (ofRecords_respaced clock source other _ loops).map ?_
      intro y z hyz
      exact ⟨append_respaced ⟨.nil, hr.warnings⟩ hyz, rfl⟩

/-- Respaced yields make respaced programs. -/
theorem program_respaced {y z : Yield} (h : y.Respaced z) :
    y.program.Respaced z.program := by
  have hinstructions : y.instructions = z.instructions := by
    have hmap := List.rel_map
      (fun _ _ hrow => ListingRow.Respaced.instruction hrow) h.rows
    rw [List.forall₂_eq_eq_eq] at hmap
    exact hmap
  exact
    { image := by rw [program, program, hinstructions]
      instructions := by rw [program, program, hinstructions]
      listing := h.rows
      warnings := h.warnings }

end Yield

/-- **Spacing does not matter.**  If the lines of two texts have the same
    words, one by one, both texts fail with the same error, or both compile
    to the same program, in which only the quoted sources and the columns of
    unused words may differ. -/
theorem compile_respaced (clock : Clock) {text other : String}
    (h : List.Forall₂ Source.Respaced (Source.lines text)
      (Source.lines other)) :
    Agrees Program.Respaced (compile clock text) (compile clock other) := by
  have hlines : List.Forall₂ (fun u v => ∀ loops,
      Agrees (Yield.InStep Yield.Respaced)
        (Yield.ofLine clock loops u.1 u.2) (Yield.ofLine clock loops v.1 v.2))
      (Source.numberedLines text) (Source.numberedLines other) := by
    refine (Source.forall₂_numberedLines h).imp ?_
    rintro ⟨line, source⟩ ⟨_, source'⟩ ⟨rfl, hsource⟩ loops
    exact Yield.ofLine_respaced clock line hsource loops
  refine (compile_agrees hlines).imp ?_
  rintro _ _ ⟨ys, zs, hrel, rfl, rfl⟩
  exact Yield.program_respaced (Yield.join_respaced hrel)

/-- A loop around words that are not used. -/
def closeTogether : String :=
  "LOOP count=2\n\nINC 3 up y z\nDO_LOOP 1"

/-- The same words further apart, with comments. -/
def farApart : String :=
  "\tLOOP count 2 //\n// x\r\nINC =3 up  y\r z\nDO_LOOP=1\n"

/-- The unused words of the third line begin in different columns, and
    nothing else is reported differently. -/
theorem compile_respaced_farApart :
    List.Forall₂ Source.Respaced (Source.lines closeTogether)
        (Source.lines farApart) ∧
      ∃ program other, compile ⟨40000000⟩ closeTogether = .ok program ∧
        compile ⟨40000000⟩ farApart = .ok other ∧
        program.Respaced other ∧
        program.warnings[0]? = some
          ⟨3, .operation .inc, .unusedText ["y", "z"] 10⟩ ∧
        other.warnings[0]? = some
          ⟨3, .operation .inc, .unusedText ["y", "z"] 12⟩ := by
  have hlines : List.Forall₂ Source.Respaced (Source.lines closeTogether)
      (Source.lines farApart) := by
    decide +kernel
  have hclose : (compile ⟨40000000⟩ closeTogether).toOption.bind
      (fun program => program.warnings[0]?)
        = some ⟨3, .operation .inc, .unusedText ["y", "z"] 10⟩ := by
    decide +kernel
  have hfar : (compile ⟨40000000⟩ farApart).toOption.bind
      (fun program => program.warnings[0]?)
        = some ⟨3, .operation .inc, .unusedText ["y", "z"] 12⟩ := by
    decide +kernel
  obtain ⟨program, hp, hpw⟩ := Option.bind_eq_some_iff.mp hclose
  obtain ⟨other, ho, how⟩ := Option.bind_eq_some_iff.mp hfar
  replace hp := except_eq_ok_of_toOption hp
  replace ho := except_eq_ok_of_toOption ho
  have hagree := compile_respaced ⟨40000000⟩ hlines
  rw [hp, ho] at hagree
  cases hagree with
  | ok hrespaced => exact ⟨hlines, program, other, hp, ho, hrespaced, hpw, how⟩

end TimingScript
