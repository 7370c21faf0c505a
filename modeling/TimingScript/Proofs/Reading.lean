import TimingScript.Assembly

/-! # Readings — what a line of source says, wherever it stands

    A line is cut into words, decoded, expanded if it uses `SLICE`, and
    checked.  None of this looks at other lines, at the clock or at the
    open loops, so it is described here for a single line.  What can
    still go wrong with a line that reads well is the nesting of loops.

    `Shape` is the inversion of all of it: a line that reads well has no
    words, or it is one written record whose operation is its first word,
    or it is the two records of an expansion. -/

namespace TimingScript

open Source (LineNumber Word)

/-- The keyword that a line of source begins with, if it does. -/
def Source.keyword? (source : String) : Option Keyword :=
  match Word.scan 1 source.toList with
  | .ok (first :: _) => Keyword.ofWord? first.text
  | _ => none

/-- The checked records that a line of source stands for, and what there
    was to warn about. -/
structure Reading where
  records : List Record
  warnings : List Warning

namespace Reading

/-- Checks records in order, up to the first that breaks a rule. -/
def checkAll : List Record → Except CompileError (List Warning)
  | [] => .ok []
  | record :: rest =>
      match record.check with
      | .error error => .error error
      | .ok noted => (checkAll rest).map (noted.warning.toList ++ ·)

/-- The reading of a statement. -/
def ofStatement : Statement → Except CompileError Reading
  | .primitive record => (checkAll [record]).map fun ws => ⟨[record], ws⟩
  | .slice call =>
      match call.expand with
      | .error error => .error error
      | .ok noted =>
          (checkAll noted.value.records).map fun ws =>
            ⟨noted.value.records, noted.warning.toList ++ ws⟩

/-- A reading with warnings in front of its own. -/
def warn (warnings : List Warning) (reading : Reading) : Reading :=
  ⟨reading.records, warnings ++ reading.warnings⟩

/-- The reading of the words of a line. -/
def ofWords (line : LineNumber) : List Word → Except CompileError Reading
  | [] => .ok ⟨[], []⟩
  | first :: rest =>
      match Statement.decode line (first :: rest) with
      | .error error => .error error
      | .ok noted => (ofStatement noted.value).map (warn noted.warning.toList)

/-- The reading of a line of source. -/
def ofLine (line : LineNumber) (source : String) :
    Except CompileError Reading :=
  match Word.read line source with
  | .error error => .error error
  | .ok words => ofWords line words

end Reading

/-- A line that reads well when it is taken alone. -/
def Source.Acceptable (line : LineNumber) (source : String) : Prop :=
  ∃ reading, Reading.ofLine line source = .ok reading

/-- Reading the line tells whether it reads well. -/
instance (line : LineNumber) (source : String) :
    Decidable (Source.Acceptable line source) :=
  match h : Reading.ofLine line source with
  | .ok reading => isTrue ⟨reading, h⟩
  | .error _ => isFalse (by
      rintro ⟨reading, hr⟩
      rw [h] at hr
      cases hr)

/-! ## Single steps, inverted -/

/-- A step that succeeds behind another one is behind a success. -/
theorem except_bind_eq_ok {ε α β : Type} {x : Except ε α}
    {f : α → Except ε β} {b : β} (h : x >>= f = .ok b) :
    ∃ a, x = .ok a ∧ f a = .ok b := by
  cases x with
  | error e => cases h
  | ok a => exact ⟨a, rfl, h⟩

/-- Mapping yields a value only from a value. -/
theorem except_map_eq_ok {ε α β : Type} {x : Except ε α} {f : α → β} {b : β}
    (h : x.map f = .ok b) : ∃ a, x = .ok a ∧ f a = b := by
  cases x with
  | error e => cases h
  | ok a => exact ⟨a, rfl, Except.ok.inj h⟩

/-- What is there to be taken out is the value. -/
theorem except_eq_ok_of_toOption {ε α : Type} {x : Except ε α} {a : α}
    (h : x.toOption = some a) : x = .ok a := by
  cases x with
  | error e => cases h
  | ok b => rw [Option.some.inj h]

/-- Results can be compared, errors and values alike. -/
instance decidableEqExcept {ε α : Type} [DecidableEq ε] [DecidableEq α] :
    DecidableEq (Except ε α)
  | .error e, .error e' =>
      decidable_of_iff (e = e') ⟨congrArg Except.error, Except.error.inj⟩
  | .ok a, .ok b =>
      decidable_of_iff (a = b) ⟨congrArg Except.ok, Except.ok.inj⟩
  | .error _, .ok _ => isFalse nofun
  | .ok _, .error _ => isFalse nofun

/-- Words are read alike on all lines; only the error names the line. -/
theorem Source.Word.read_eq_ok {line : LineNumber} {source : String}
    {words : List Word} (h : Word.read line source = .ok words) :
    Word.scan 1 source.toList = .ok words := by
  rw [Word.read] at h
  cases hs : Word.scan 1 source.toList with
  | error fault => rw [hs] at h; cases h
  | ok ws => rw [hs] at h; rw [Except.ok.inj h]

/-- A word names one keyword, which is spelled like it. -/
theorem Keyword.text_of_ofWord? {word : String} {keyword : Keyword}
    (h : ofWord? word = some keyword) : keyword.text = word := by
  rw [ofWord?] at h
  split at h
  · rename_i hs
    rw [← Option.some.inj h, hs]
  · obtain ⟨opcode, ho, rfl⟩ := Option.map_eq_some_iff.mp h
    rw [Opcode.ofMnemonic?] at ho
    have hfound := List.find?_some ho
    exact of_decide_eq_true hfound

/-- The keyword of a line is its first word. -/
theorem Source.keyword?_of_read {line : LineNumber} {source : String}
    {first : Word} {rest : List Word}
    (h : Word.read line source = .ok (first :: rest)) :
    keyword? source = Keyword.ofWord? first.text := by
  rw [keyword?, Word.read_eq_ok h]

/-- A keyword is the first word of its line. -/
theorem Source.exists_read_of_keyword? {line : LineNumber} {source : String}
    {keyword : Keyword} (h : keyword? source = some keyword) :
    ∃ first rest, Word.read line source = .ok (first :: rest) ∧
      first.text = keyword.text := by
  rw [keyword?] at h
  split at h
  · rename_i first rest hscan
    refine ⟨first, rest, ?_, (Keyword.text_of_ofWord? h).symm⟩
    rw [Word.read, hscan]
    rfl
  · cases h

namespace Statement

/-- A decoded statement stands on its line and begins with its keyword. -/
inductive Decoded (line : LineNumber) (first : String) : Statement → Prop where
  | primitive {record : Record} :
      Keyword.ofWord? first = some (.operation record.opcode) →
      record.line = line → record.synthetic = false →
      0 ≤ record.parameter → Decoded line first (.primitive record)
  | slice {call : SliceCall} : Keyword.ofWord? first = some .slice →
      call.line = line → Decoded line first (.slice call)

/-- Whatever the operands are, a written record is not made by `SLICE`, and
    its number is not negative. -/
theorem decodePrimitive_eq_ok {line : LineNumber} {opcode : Opcode}
    {words : List Word} {noted : Noted Statement}
    (h : decodePrimitive line opcode words = .ok noted) :
    ∃ record, noted.value = .primitive record ∧ record.opcode = opcode ∧
      record.line = line ∧ record.synthetic = false ∧
      0 ≤ record.parameter := by
  rw [decodePrimitive] at h
  cases ho : operands line opcode.mnemonic words with
  | error e => rw [ho] at h; cases h
  | ok found =>
      obtain ⟨argument, n, rest⟩ := found
      rw [ho] at h
      rw [← Except.ok.inj h]
      exact ⟨_, rfl, rfl, rfl, rfl, Int.natCast_nonneg n⟩

/-- A use of `SLICE` is decoded to a call on its line. -/
theorem decodeSlice_eq_ok {line : LineNumber} {words : List Word}
    {noted : Noted Statement} (h : decodeSlice line words = .ok noted) :
    ∃ call, noted.value = .slice call ∧ call.line = line := by
  rw [decodeSlice] at h
  split at h
  · cases h
  · rw [← Except.ok.inj h]
    exact ⟨_, rfl, rfl⟩

/-- The keyword decides what a line is decoded to. -/
theorem decode_eq_ok {line : LineNumber} {first : Word} {rest : List Word}
    {noted : Noted Statement} (h : decode line (first :: rest) = .ok noted) :
    Decoded line first.text noted.value := by
  rw [decode] at h
  split at h
  · cases h
  · rename_i hk
    obtain ⟨call, hv, hl⟩ := decodeSlice_eq_ok h
    rw [hv]
    exact .slice hk hl
  · rename_i opcode hk
    obtain ⟨record, hv, ho, hl, hs, hp⟩ := decodePrimitive_eq_ok h
    rw [hv]
    exact .primitive (by rw [ho]; exact hk) hl hs hp

end Statement

/-- An expansion stands on the line of its call. -/
theorem SliceCall.line_of_expand {call : SliceCall} {noted : Noted Expansion}
    (h : call.expand = .ok noted) : noted.value.line = call.line := by
  rw [expand] at h
  split at h
  · cases h
  · rw [← Except.ok.inj h]

/-- The rules let the instructions of `SLICE` pass, whatever the mask. -/
theorem Expansion.check_records (expansion : Expansion) :
    ∀ record ∈ expansion.records, record.check = .ok ⟨(), none⟩ := by
  intro record hr
  rcases List.mem_cons.mp hr with rfl | hr
  · rfl
  · rw [List.mem_singleton.mp hr]
    rfl

/-! ## The shape of a reading -/

namespace Reading

/-- Records that pass silently give no warning. -/
theorem checkAll_of_silent {records : List Record}
    (h : ∀ record ∈ records, record.check = .ok ⟨(), none⟩) :
    checkAll records = .ok [] := by
  induction records with
  | nil => rfl
  | cons record rest ih =>
      rw [checkAll, h record List.mem_cons_self,
        ih fun r hr => h r (List.mem_cons_of_mem record hr)]
      rfl

/-- A written record that breaks a rule has no reading. -/
theorem ofStatement_primitive_error {record : Record} {error : CompileError}
    (hc : record.check = .error error) :
    ofStatement (.primitive record) = .error error := by
  rw [ofStatement, checkAll, hc]
  rfl

/-- A written record that keeps the rules is read as it is. -/
theorem ofStatement_primitive_ok {record : Record} {checked : Noted Unit}
    (hc : record.check = .ok checked) :
    ofStatement (.primitive record)
      = .ok ⟨[record], checked.warning.toList⟩ := by
  rw [ofStatement, checkAll, hc]
  show Except.ok (Reading.mk [record] (checked.warning.toList ++ [])) = _
  rw [List.append_nil]

/-- A use of `SLICE` that cannot be expanded has no reading. -/
theorem ofStatement_slice_error {call : SliceCall} {error : CompileError}
    (he : call.expand = .error error) :
    ofStatement (.slice call) = .error error := by
  rw [ofStatement, he]

/-- A use of `SLICE` is read as its expansion. -/
theorem ofStatement_slice_ok {call : SliceCall} {noted : Noted Expansion}
    (he : call.expand = .ok noted) :
    ofStatement (.slice call)
      = .ok ⟨noted.value.records, noted.warning.toList⟩ := by
  rw [ofStatement, he]
  show (checkAll noted.value.records).map _ = _
  rw [checkAll_of_silent noted.value.check_records]
  show Except.ok (Reading.mk _ (noted.warning.toList ++ [])) = _
  rw [List.append_nil]

/-- What a statement that reads well is, and what it is read as. -/
inductive Reads : Statement → Reading → Prop where
  | primitive {record : Record} {checked : Noted Unit} :
      record.check = .ok checked →
      Reads (.primitive record) ⟨[record], checked.warning.toList⟩
  | slice {call : SliceCall} {noted : Noted Expansion} :
      call.expand = .ok noted →
      Reads (.slice call) ⟨noted.value.records, noted.warning.toList⟩

/-- A reading comes from a record that keeps the rules or from a use of
    `SLICE` that can be expanded. -/
theorem ofStatement_eq_ok {statement : Statement} {reading : Reading}
    (h : ofStatement statement = .ok reading) : Reads statement reading := by
  cases statement with
  | primitive record =>
      cases hc : record.check with
      | error e =>
          rw [ofStatement_primitive_error hc] at h
          cases h
      | ok checked =>
          rw [ofStatement_primitive_ok hc] at h
          rw [← Except.ok.inj h]
          exact .primitive hc
  | slice call =>
      cases he : call.expand with
      | error e =>
          rw [ofStatement_slice_error he] at h
          cases h
      | ok noted =>
          rw [ofStatement_slice_ok he] at h
          rw [← Except.ok.inj h]
          exact .slice he

/-- How far a line can be read before its statement is looked at. -/
inductive Progress (line : LineNumber) (source : String) : Prop where
  | malformed {error : CompileError} :
      Word.read line source = .error error → Progress line source
  | blank : Word.read line source = .ok [] → Progress line source
  | undecoded {first : Word} {rest : List Word} {error : CompileError} :
      Word.read line source = .ok (first :: rest) →
      Statement.decode line (first :: rest) = .error error →
      Progress line source
  | decoded {first : Word} {rest : List Word} {noted : Noted Statement} :
      Word.read line source = .ok (first :: rest) →
      Statement.decode line (first :: rest) = .ok noted →
      Progress line source

/-- Every line can be read some way. -/
theorem progress (line : LineNumber) (source : String) :
    Progress line source := by
  cases hw : Word.read line source with
  | error e => exact .malformed hw
  | ok words =>
      cases words with
      | nil => exact .blank hw
      | cons first rest =>
          cases hd : Statement.decode line (first :: rest) with
          | error e => exact .undecoded hw hd
          | ok noted => exact .decoded hw hd

section

variable {line : LineNumber} {source : String}

/-- A line that is no sequence of words has no reading. -/
theorem ofLine_of_read_error {error : CompileError}
    (hw : Word.read line source = .error error) :
    ofLine line source = .error error := by
  rw [ofLine, hw]

/-- A line without words says nothing. -/
theorem ofLine_of_no_words (hw : Word.read line source = .ok []) :
    ofLine line source = .ok ⟨[], []⟩ := by
  rw [ofLine, hw]
  rfl

/-- A line that cannot be decoded has no reading. -/
theorem ofLine_of_decode_error {first : Word} {rest : List Word}
    {error : CompileError}
    (hw : Word.read line source = .ok (first :: rest))
    (hd : Statement.decode line (first :: rest) = .error error) :
    ofLine line source = .error error := by
  rw [ofLine, hw]
  show ofWords line (first :: rest) = _
  rw [ofWords, hd]

/-- A line that can be decoded is read as its statement. -/
theorem ofLine_of_decoded {first : Word} {rest : List Word}
    {noted : Noted Statement}
    (hw : Word.read line source = .ok (first :: rest))
    (hd : Statement.decode line (first :: rest) = .ok noted) :
    ofLine line source
      = (ofStatement noted.value).map (warn noted.warning.toList) := by
  rw [ofLine, hw]
  show ofWords line (first :: rest) = _
  rw [ofWords, hd]

end

/-- What a line that reads well is, and what it is read as. -/
inductive ReadsLine (line : LineNumber) (source : String) :
    Reading → Prop where
  | blank : Word.read line source = .ok [] → ReadsLine line source ⟨[], []⟩
  | decoded {first : Word} {rest : List Word} {statement : Statement}
      {warning : Option Warning} {reading : Reading} :
      Word.read line source = .ok (first :: rest) →
      Statement.decode line (first :: rest) = .ok ⟨statement, warning⟩ →
      Reads statement reading →
      ReadsLine line source (reading.warn warning.toList)

/-- A line that reads well has no words, or its statement reads well. -/
theorem ofLine_eq_ok {line : LineNumber} {source : String}
    {reading : Reading} (h : ofLine line source = .ok reading) :
    ReadsLine line source reading := by
  cases progress line source with
  | malformed hw =>
      rw [ofLine_of_read_error hw] at h
      cases h
  | blank hw =>
      rw [ofLine_of_no_words hw] at h
      rw [← Except.ok.inj h]
      exact .blank hw
  | undecoded hw hd =>
      rw [ofLine_of_decode_error hw hd] at h
      cases h
  | decoded hw hd =>
      rw [ofLine_of_decoded hw hd] at h
      obtain ⟨inner, hinner, rfl⟩ := except_map_eq_ok h
      exact .decoded hw hd (ofStatement_eq_ok hinner)

/-- A record that is written on a line and keeps the rules. -/
structure Written (line : LineNumber) (source : String) (record : Record) :
    Prop where
  keyword : Source.keyword? source = some (.operation record.opcode)
  line_eq : record.line = line
  synthetic : record.synthetic = false
  nonneg : 0 ≤ record.parameter
  checked : ∃ noted, record.check = .ok noted

/-- What the records of a line can be. -/
inductive Shape (line : LineNumber) (source : String) :
    List Record → Prop where
  | blank : Source.keyword? source = none → Shape line source []
  | written {record : Record} : Written line source record →
      Shape line source [record]
  | expanded {expansion : Expansion} :
      Source.keyword? source = some .slice → expansion.line = line →
      Shape line source expansion.records

/-- A line without words has no keyword. -/
theorem keyword?_of_no_words {line : LineNumber} {source : String}
    (h : Word.read line source = .ok []) : Source.keyword? source = none := by
  rw [Source.keyword?, Word.read_eq_ok h]

/-- A statement that reads well has one of two shapes. -/
theorem shape_of_statement {line : LineNumber} {source first : String}
    {statement : Statement} {reading : Reading}
    (hk : Source.keyword? source = Keyword.ofWord? first)
    (hd : Statement.Decoded line first statement)
    (h : Reads statement reading) : Shape line source reading.records := by
  cases h with
  | primitive hc =>
      cases hd with
      | primitive hkw hl hs hp =>
          exact .written ⟨hk.trans hkw, hl, hs, hp, _, hc⟩
  | slice he =>
      cases hd with
      | slice hkw hl =>
          exact .expanded (hk.trans hkw)
            ((SliceCall.line_of_expand he).trans hl)

/-- A line that reads well has one of three shapes. -/
theorem shape {line : LineNumber} {source : String} {reading : Reading}
    (h : ofLine line source = .ok reading) :
    Shape line source reading.records := by
  cases ofLine_eq_ok h with
  | blank hw => exact .blank (keyword?_of_no_words hw)
  | @decoded _ _ _ _ inner hw hd hreads =>
      show Shape line source inner.records
      exact shape_of_statement (Source.keyword?_of_read hw)
        (Statement.decode_eq_ok hd) hreads

/-- The records of a line stand on it. -/
theorem line_of_mem {line : LineNumber} {source : String}
    {reading : Reading} (h : ofLine line source = .ok reading)
    {record : Record} (hr : record ∈ reading.records) :
    record.line = line := by
  obtain ⟨records, warnings⟩ := reading
  cases shape h with
  | blank _ => cases hr
  | written hw =>
      rw [List.mem_singleton.mp hr]
      exact hw.line_eq
  | expanded _ hl =>
      rcases List.mem_cons.mp hr with rfl | hr
      · exact hl
      · rw [List.mem_singleton.mp hr]
        exact hl

end Reading

end TimingScript
