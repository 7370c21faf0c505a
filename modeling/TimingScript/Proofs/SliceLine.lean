import TimingScript.Proofs.BitField
import TimingScript.Proofs.Disassembly
import TimingScript.Proofs.Growth

/-! # Lines with `SLICE` — two instructions that write a bit field

    The words behind `SLICE` are inverted first: those that are accepted
    spell a position, a width and a value, and these are a valid field
    (`SliceCall.field_eq_ok`).  Then a line is followed through the
    compiler: its masks pass the rules and the encoding as they are, so
    what it appends is an AND and an OR with exactly these masks, wherever
    it stands. -/

namespace TimingScript

open Source (LineNumber Word)

/-! ## Arguments -/

/-- Words write the numbers of a field. -/
structure BitField.SpelledBy (field : BitField) (position width tag : String) :
    Prop where
  position : Text.Numeral.read? position = some field.position
  width : Text.Numeral.read? width = some field.width
  tag : Text.Numeral.read? tag = some field.tag

namespace SliceCall

/-- The words of a use of `SLICE`, with the numbers left open. -/
def wordsFor (position width tag : String) : List String :=
  ["bitposition", position, "bitwidth", width, "event_tag", tag]

/-- An expected keyword is there. -/
theorem expect_eq_ok {argument : SliceArgument} {word : String}
    (h : expect argument word = .ok ()) : word = argument.keyword := by
  rw [expect] at h
  by_cases hw : word = argument.keyword
  · exact hw
  · rw [if_neg hw] at h
    cases h

/-- A value that is accepted is the numeral of its word. -/
theorem value_eq_ok {argument : SliceArgument} {token : String} {n : Nat}
    (h : value argument token = .ok n) :
    Text.Numeral.read? token = some n := by
  rw [value] at h
  cases hr : Text.Numeral.read? token with
  | none => rw [hr] at h; cases h
  | some m => rw [hr] at h; rw [Except.ok.inj h]

/-- A count of bits that is accepted is a numeral from 1 to 48. -/
theorem bitCount_eq_ok {argument : SliceArgument} {token : String} {n : Nat}
    (h : bitCount argument token = .ok n) :
    Text.Numeral.read? token = some n ∧ 1 ≤ n := by
  obtain ⟨m, hv, h⟩ := except_bind_eq_ok h
  by_cases hm : 1 ≤ m ∧ m ≤ Parameter.bits
  · rw [if_pos hm] at h
    obtain rfl := Except.ok.inj h
    exact ⟨value_eq_ok hv, hm.1⟩
  · rw [if_neg hm] at h
    cases h

/-- Words that describe a field are its six words, and the field is
    valid. -/
theorem field_eq_ok {words : List String} {found : BitField}
    (h : field words = .ok found) :
    ∃ position width tag, words = wordsFor position width tag ∧
      found.SpelledBy position width tag ∧ found.Valid := by
  rw [field.eq_def] at h
  split at h
  · rename_i positionWord position widthWord width tagWord tag
    obtain ⟨⟨⟩, hp, h⟩ := except_bind_eq_ok h
    obtain ⟨p, hposition, h⟩ := except_bind_eq_ok h
    obtain ⟨⟨⟩, hw, h⟩ := except_bind_eq_ok h
    obtain ⟨w, hwidth, h⟩ := except_bind_eq_ok h
    dsimp only at h
    by_cases hend : Parameter.bits < p + w - 1
    · rw [if_pos hend] at h
      cases h
    rw [if_neg hend] at h
    obtain ⟨⟨⟩, ht, h⟩ := except_bind_eq_ok h
    obtain ⟨t, htag, h⟩ := except_bind_eq_ok h
    by_cases hlarge : largestSliceTag < t
    · rw [if_pos hlarge] at h
      cases h
    rw [if_neg hlarge] at h
    obtain rfl := Except.ok.inj h
    rw [expect_eq_ok hp, expect_eq_ok hw, expect_eq_ok ht]
    obtain ⟨hposition, hp1⟩ := bitCount_eq_ok hposition
    obtain ⟨hwidth, hw1⟩ := bitCount_eq_ok hwidth
    exact ⟨position, width, tag, rfl,
      ⟨hposition, hwidth, value_eq_ok htag⟩,
      ⟨hp1, hw1, Nat.not_lt.mp hend, Nat.not_lt.mp hlarge⟩⟩
  · cases h

/-- The warning about a value that does not fit, if there is one. -/
def spill (line : LineNumber) (field : BitField) : Option Warning :=
  if 2 ^ field.width ≤ field.tag then
    some ⟨line, .slice, .tagSpills field.tag field.width⟩
  else none

/-- A field is expanded to its two masks. -/
theorem expand_of_field {call : SliceCall} {found : BitField}
    (h : field call.words = .ok found) (hvalid : found.Valid) :
    call.expand = .ok ⟨⟨call.line, found.clearMask, found.setMask⟩,
      spill call.line found⟩ := by
  rw [expand, h, spill]
  dsimp only
  by_cases hs : found.spills = true
  · rw [if_pos hs, if_pos ((BitField.spills_iff hvalid).mp hs)]
  · rw [if_neg hs, if_neg fun hle => hs ((BitField.spills_iff hvalid).mpr hle)]

/-- What is expanded is a valid field. -/
theorem expand_eq_ok {call : SliceCall} {noted : Noted Expansion}
    (h : call.expand = .ok noted) :
    ∃ position width tag found,
      call.words = wordsFor position width tag ∧
      found.SpelledBy position width tag ∧ found.Valid ∧
      noted = ⟨⟨call.line, found.clearMask, found.setMask⟩,
        spill call.line found⟩ := by
  cases hf : field call.words with
  | error fault =>
      rw [expand, hf] at h
      cases h
  | ok found =>
      obtain ⟨position, width, tag, hwords, hspelled, hvalid⟩ :=
        field_eq_ok hf
      rw [expand_of_field hf hvalid] at h
      exact ⟨position, width, tag, found, hwords, hspelled, hvalid,
        (Except.ok.inj h).symm⟩

end SliceCall

/-! ## Records of an expansion -/

/-- A record passes the rules and the encoding as the given parameter,
    wherever it stands and without a warning. -/
structure Record.PassesAs (record : Record) (parameter : Parameter) :
    Prop where
  check : record.check = .ok ⟨(), none⟩
  encode : ∀ loops clock, record.encode loops clock = .ok ⟨parameter, none⟩

/-- The records of an expansion pass as its masks, zero or not. -/
theorem Expansion.passesAs (expansion : Expansion) :
    (record expansion.line .and expansion.clearMask).PassesAs
        expansion.clearMask ∧
      (record expansion.line .or expansion.setMask).PassesAs
        expansion.setMask := by
  have hcheck := expansion.check_records
  constructor
  · refine ⟨hcheck _ List.mem_cons_self, ?_⟩
    intro loops clock
    exact expansion.encode_clear clock loops
  · refine ⟨hcheck _ (List.mem_cons_of_mem _ List.mem_cons_self), ?_⟩
    intro loops clock
    exact expansion.encode_set clock loops

namespace Assembly

/-- The image grows by eight bytes for each row. -/
theorem size_image_extend (assembly : Assembly) (y : Yield)
    (loops : LoopStack) :
    (assembly.extend y loops).image.size
      = assembly.image.size + Instruction.size * y.rows.length := by
  show (assembly.image ++ Image.ofInstructions y.instructions).size = _
  rw [← Array.length_toList, Array.toList_appendList, List.length_append,
    Image.length_ofInstructions, Yield.instructions, List.length_map,
    Array.length_toList]

/-- A pure step without a warning leaves the assembly as it is. -/
theorem take_silent {α : Type} (assembly : Assembly) (a : α)
    (next : Assembly → α → Outcome) :
    assembly.take (.ok ⟨a, none⟩) next = next assembly a := rfl

/-- A record that passes in silence is appended, and nothing else is
    logged. -/
theorem emit_of_passesAs (assembly : Assembly) {record : Record}
    {parameter : Parameter} (h : record.PassesAs parameter)
    (source : String) :
    assembly.emit record source
      = ⟨assembly.extend ⟨[record.row source parameter], []⟩
            (assembly.loops.after record),
          [.emitting record.line ⟨record.opcode, parameter⟩
            assembly.image.size], none⟩ := by
  rw [emit, h.check, take_silent, h.encode, take_silent]
  rfl

/-- The two records of an expansion are emitted, and nothing comes between
    them. -/
theorem emitAll_records (assembly : Assembly) (source : String)
    (expansion : Expansion) :
    assembly.emitAll source expansion.records
      = ⟨assembly.extend ⟨expansion.rows source, []⟩ assembly.loops,
          [.emitting expansion.line ⟨.and, expansion.clearMask⟩
              assembly.image.size,
            .emitting expansion.line ⟨.or, expansion.setMask⟩
              (assembly.image.size + Instruction.size)], none⟩ := by
  obtain ⟨hand, hor⟩ := expansion.passesAs
  rw [Expansion.records, emitAll, emit_of_passesAs assembly hand,
    Outcome.andThen]
  dsimp only
  rw [emitAll, emit_of_passesAs _ hor, size_image_extend, extend_extend]
  rfl

end Assembly

/-! ## Lines -/

/-- A line reads `SLICE bitposition=… bitwidth=… event_tag=…`, perhaps with
    words behind it. -/
def Source.SliceLine (source position width tag : String)
    (extra : List Word) : Prop :=
  ∃ words, Word.scan 1 source.toList = .ok (words ++ extra) ∧
    words.map Word.text
      = Keyword.slice.text :: SliceCall.wordsFor position width tag

/-- Behind `SLICE` stand the words of a call, and those that are not
    used. -/
theorem Statement.decode_slice {line : LineNumber} {first : Word}
    {rest : List Word} {noted : Noted Statement}
    (hk : Keyword.ofWord? first.text = some .slice)
    (h : decode line (first :: rest) = .ok noted) :
    noted = ⟨.slice ⟨(rest.take sliceWords).map Word.text, line⟩,
      unused line .slice (rest.drop sliceWords)⟩ := by
  rw [decode, hk] at h
  dsimp only at h
  rw [decodeSlice] at h
  by_cases hlen : rest.length < sliceWords
  · rw [if_pos hlen] at h
    cases h
  · rw [if_neg hlen] at h
    exact (Except.ok.inj h).symm

namespace Assembly

/-- A use of `SLICE` that is expanded appends its two rows. -/
theorem ending_execute_slice (assembly : Assembly) (source : String)
    {call : SliceCall} {noted : Noted Expansion}
    (he : call.expand = .ok noted) :
    (assembly.execute source (.slice call)).ending
      = (assembly.extend ⟨noted.value.rows source, noted.warning.toList⟩
          assembly.loops, none) := by
  have hr := Reading.ofStatement_slice_ok he
  have hy : Yield.ofReading assembly.clock source assembly.loops
      ⟨noted.value.records, noted.warning.toList⟩
      = .ok (⟨noted.value.rows source, noted.warning.toList⟩,
          assembly.loops) := by
    rw [Yield.ofReading, Yield.ofRecords_expansion]
    simp [Except.map, Yield.append]
    rfl
  exact ending_execute_of_ok assembly hr hy

/-- A line with `SLICE` that is accepted spells a valid field, and appends
    the rows of its masks. -/
theorem exists_field_of_accepted {assembly : Assembly} {line : LineNumber}
    {source : String} (hk : Source.keyword? source = some .slice)
    (haccepted : (assembly.compileLine line source).error = none) :
    ∃ position width tag extra field,
      Source.SliceLine source position width tag extra ∧
      field.SpelledBy position width tag ∧ field.Valid ∧
      (SliceCall.mk (SliceCall.wordsFor position width tag) line).expand
        = .ok ⟨⟨line, field.clearMask, field.setMask⟩,
            SliceCall.spill line field⟩ ∧
      (assembly.compileLine line source).assembly
        = assembly.extend
            ⟨(Expansion.mk line field.clearMask field.setMask).rows source,
              (Statement.unused line .slice extra).toList
                ++ (SliceCall.spill line field).toList⟩ assembly.loops := by
  cases Reading.progress line source with
  | malformed hw =>
      rw [compileLine, hw] at haccepted
      cases haccepted
  | blank hw =>
      rw [Reading.keyword?_of_no_words hw] at hk
      cases hk
  | @undecoded first rest error hw hd =>
      rw [compileLine, hw] at haccepted
      dsimp only at haccepted
      rw [hd] at haccepted
      cases haccepted
  | @decoded first rest noted hw hd =>
      rw [Source.keyword?_of_read hw] at hk
      obtain rfl := Statement.decode_slice hk hd
      have hend : (assembly.compileLine line source).ending = _ :=
        ending_compileLine_of_decoded hw hd
      cases he : (SliceCall.mk ((rest.take sliceWords).map Word.text)
          line).expand with
      | error error =>
          rw [ending_execute_of_reading_error
            (Reading.ofStatement_slice_error he)] at hend
          rw [show (assembly.compileLine line source).error = some error
            from congrArg Prod.snd hend] at haccepted
          cases haccepted
      | ok noted =>
          rw [ending_execute_slice _ _ he, extend_extend] at hend
          obtain ⟨position, width, tag, field, hwords, hspelled, hvalid,
            rfl⟩ := SliceCall.expand_eq_ok he
          replace hwords : (rest.take sliceWords).map Word.text
            = SliceCall.wordsFor position width tag := hwords
          rw [hwords] at he
          refine ⟨position, width, tag, rest.drop sliceWords, field, ?_,
            hspelled, hvalid, he, congrArg Prod.fst hend⟩
          refine ⟨first :: rest.take sliceWords, ?_, ?_⟩
          · rw [List.cons_append, List.take_append_drop]
            exact Word.read_eq_ok hw
          · rw [List.map_cons, hwords, ← Keyword.text_of_ofWord? hk]

/-- **What an accepted `SLICE` does.**  The line spells a valid field, and
    its two masks pass the rules and the encoding unchanged.  Exactly an AND
    and an OR with these masks are appended, with a warning if the value
    spills, behind the one about words that are not used.  Together the two
    store the value. -/
theorem compileLine_slice {assembly : Assembly} {line : LineNumber}
    {source : String} (hk : Source.keyword? source = some .slice)
    (haccepted : (assembly.compileLine line source).error = none) :
    ∃ position width tag extra field clear set,
      Source.SliceLine source position width tag extra ∧
      field.SpelledBy position width tag ∧ field.Valid ∧
      (SliceCall.mk (SliceCall.wordsFor position width tag) line).expand
        = .ok ⟨⟨line, clear, set⟩, SliceCall.spill line field⟩ ∧
      (Expansion.record line .and clear).PassesAs clear ∧
      (Expansion.record line .or set).PassesAs set ∧
      (assembly.compileLine line source).assembly.instructions
        = assembly.instructions
          ++ [Instruction.mk .and clear, Instruction.mk .or set] ∧
      (assembly.compileLine line source).assembly.warnings
        = assembly.warnings
          ++ ((Statement.unused line .slice extra).toList
            ++ (SliceCall.spill line field).toList) ∧
      ∀ x, field.Stores x ((x &&& clear) ||| set) := by
  obtain ⟨position, width, tag, extra, field, hline, hspelled, hvalid,
    hexpand, hafter⟩ := exists_field_of_accepted hk haccepted
  obtain ⟨hand, hor⟩ :=
    (Expansion.mk line field.clearMask field.setMask).passesAs
  refine ⟨position, width, tag, extra, field, field.clearMask,
    field.setMask, hline, hspelled, hvalid, hexpand, hand, hor, ?_, ?_,
    BitField.stores_masks hvalid⟩
  · rw [hafter]
    rfl
  · rw [hafter]
    rfl

/-- A value of three bits, of which two are beyond its field and one of
    these beyond the last bit. -/
theorem compileLine_slice_spilling :
    ∃ field : BitField, field.Valid ∧
      ((fresh ⟨40000000⟩).compileLine 3
          "SLICE bitposition=0x2F bitwidth=1 event_tag=7"
        ).assembly.instructions
        = #[⟨.and, 0xbfffffffffff⟩, ⟨.or, 0xc00000000000⟩] ∧
      ∀ x, field.Stores x
        ((x &&& 0xbfffffffffff) ||| 0xc00000000000) := by
  have hi : ((fresh ⟨40000000⟩).compileLine 3
      "SLICE bitposition=0x2F bitwidth=1 event_tag=7").assembly.instructions
      = #[⟨.and, 0xbfffffffffff⟩, ⟨.or, 0xc00000000000⟩] := by
    decide +kernel
  obtain ⟨-, -, -, -, field, clear, set, -, -, hvalid, -, -, -, happended,
    -, hstores⟩ := compileLine_slice
      (show Source.keyword? "SLICE bitposition=0x2F bitwidth=1 event_tag=7"
        = some .slice by decide +kernel)
      (show ((fresh ⟨40000000⟩).compileLine 3
        "SLICE bitposition=0x2F bitwidth=1 event_tag=7").error = none by
        decide +kernel)
  rw [hi] at happended
  have hmasks : ([⟨.and, 0xbfffffffffff⟩, ⟨.or, 0xc00000000000⟩]
      : List Instruction) = [⟨.and, clear⟩, ⟨.or, set⟩] :=
    congrArg Array.toList happended
  simp only [List.cons.injEq, Instruction.mk.injEq, true_and,
    and_true] at hmasks
  obtain ⟨rfl, rfl⟩ := hmasks
  exact ⟨field, hvalid, hi, hstores⟩

end Assembly

end TimingScript
