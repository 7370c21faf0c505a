import TimingScript.Proofs.Nesting

/-! # Blame — an error is about the line that it comes from

    Each stage that reads a line can fail in its own ways.  As long as there
    are no words the errors name the line alone; from then on they also name
    the word that the line begins with.  Only one fault is not found on a
    line at all: that a loop is still open is known when the text has ended.
    Stages are made of smaller steps, so all of this is said of results
    (`FailsWith`), in a form that is kept by everything that steps are put
    together with. -/

namespace TimingScript

open Source (LineNumber Word)

/-! ## What errors say -/

/-- When a fault is found: as long as there are no words, in the statement
    that they make, or at the end of the text. -/
inductive Fault.Stage where
  | words
  | statement
  | ending
deriving DecidableEq

/-- The stage at which a fault is found. -/
def Fault.stage : Fault → Stage
  | .loneSlash _ | .strayCharacter _ _ | .missingInstruction => .words
  | .loopLeftOpen => .ending
  | _ => .statement

/-- The error is about a line that begins with the given word. -/
structure CompileError.IsAbout (line : LineNumber) (keyword : String)
    (error : CompileError) : Prop where
  line : error.line = line
  keyword : error.fault.keyword = keyword
  stage : error.fault.stage = .statement

/-- The error is about the characters of a line. -/
structure CompileError.IsUnread (line : LineNumber) (error : CompileError) :
    Prop where
  line : error.line = line
  fault : (∃ column, error.fault = .loneSlash column) ∨
    ∃ column c, error.fault = .strayCharacter column c

/-- What can be wrong with a line: it is no sequence of words, or the error
    names the first of them. -/
inductive Source.Blamed (line : LineNumber) (source : String)
    (error : CompileError) : Prop where
  | unread : Word.read line source = .error error →
      Blamed line source error
  | named {first : Word} {rest : List Word} :
      Word.read line source = .ok (first :: rest) →
      error.IsAbout line first.text → Blamed line source error

/-- Whatever is wrong with a result has the given property. -/
def FailsWith {α : Type} (P : CompileError → Prop)
    (result : Except CompileError α) : Prop :=
  ∀ error, result = .error error → P error

/-- Whatever is wrong is wrong with the given line, and not with the end of
    the text. -/
def FailsOn {α : Type} (line : LineNumber) (result : Except CompileError α) :
    Prop :=
  FailsWith (fun error => error.line = line ∧ error.fault ≠ .loopLeftOpen)
    result

namespace FailsWith

variable {α β : Type} {P Q : CompileError → Prop}

/-- There is nothing wrong with a value. -/
theorem ok (a : α) : FailsWith P (.ok a) := by
  intro error h
  cases h

/-- There is one thing wrong with an error. -/
theorem error {e : CompileError} (h : P e) :
    FailsWith P (.error e : Except CompileError α) := by
  intro error herror
  rw [← Except.error.inj herror]
  exact h

/-- What is wrong may be described more loosely. -/
theorem imp {x : Except CompileError α} (h : FailsWith P x)
    (himp : ∀ error, P error → Q error) : FailsWith Q x :=
  fun error herror => himp error (h error herror)

/-- What is done with a result adds no errors. -/
theorem map {x : Except CompileError α} (h : FailsWith P x) (f : α → β) :
    FailsWith P (x.map f) := by
  cases x with
  | error e => exact error (h e rfl)
  | ok a => exact ok (f a)

/-- What is true of two steps is true of both together. -/
theorem bind {x : Except CompileError α} {f : α → Except CompileError β}
    (h : FailsWith P x) (hf : ∀ a, FailsWith P (f a)) :
    FailsWith P (x >>= f) := by
  cases x with
  | error e => exact error (h e rfl)
  | ok a => exact hf a

/-- What is true of two steps is true of a choice between them. -/
theorem ite {p : Prop} [Decidable p] {x y : Except CompileError α}
    (hx : FailsWith P x) (hy : FailsWith P y) :
    FailsWith P (if p then x else y) := by
  by_cases hp : p
  · rw [if_pos hp]
    exact hx
  · rw [if_neg hp]
    exact hy

/-- An error of a step is also one of whatever follows it. -/
theorem of_eq_error {x : Except CompileError α} {e : CompileError}
    (h : FailsWith P x) (hx : x = .error e) :
    FailsWith P (.error e : Except CompileError β) :=
  error (h e hx)

end FailsWith

/-! ## Words and statements -/

/-- Characters are at fault in two ways. -/
theorem Source.Word.fault_of_scan {column : Nat} {cs : List Char}
    {fault : Fault} (h : scan column cs = .error fault) :
    (∃ at', fault = .loneSlash at') ∨ ∃ at' c, fault = .strayCharacter at' c := by
  fun_induction scan column cs with
  | case1 => cases h
  | case2 => cases h
  | case3 column => exact .inl ⟨column, (Except.error.inj h).symm⟩
  | case4 column => exact .inr ⟨column, '\n', (Except.error.inj h).symm⟩
  | case5 _ _ _ _ _ _ ih => exact ih h
  | case6 _ _ _ _ _ _ _ _ hs ih =>
      obtain rfl := Except.error.inj h
      exact ih hs
  | case7 => cases h

/-- Words are read from their line. -/
theorem Source.Word.read_failsWith (line : LineNumber) (source : String) :
    FailsWith (CompileError.IsUnread line) (read line source) := by
  rw [read]
  cases hs : scan 1 source.toList with
  | ok words => exact .ok words
  | error fault => exact .error ⟨rfl, fault_of_scan hs⟩

namespace Statement

/-- Numbers stand on their line. -/
theorem number_failsWith (line : LineNumber) (keyword token : String) :
    FailsWith (CompileError.IsAbout line keyword)
      (number line keyword token) := by
  rw [number]
  split
  · exact .ok _
  · exact .error ⟨rfl, rfl, rfl⟩

/-- Operands stand on their line. -/
theorem operands_failsWith (line : LineNumber) (keyword : String)
    (words : List Word) :
    FailsWith (CompileError.IsAbout line keyword)
      (operands line keyword words) := by
  have hnumber := number_failsWith line keyword
  cases words with
  | nil => exact .ok _
  | cons word rest =>
      rw [operands.eq_def]
      refine .ite ((hnumber _).map _) ?_
      cases rest with
      | nil => exact .ok _
      | cons value others => exact .ite ((hnumber _).map _) (.ok _)

/-- Statements stand on their line and are blamed by their first word. -/
theorem decode_failsWith (line : LineNumber) (first : Word)
    (rest : List Word) :
    FailsWith (CompileError.IsAbout line first.text)
      (decode line (first :: rest)) := by
  rw [decode]
  split
  · exact .error ⟨rfl, rfl, rfl⟩
  · rename_i hk
    rw [← Keyword.text_of_ofWord? hk, decodeSlice]
    exact .ite (.error ⟨rfl, rfl, rfl⟩) (.ok _)
  · rename_i opcode hk
    rw [← Keyword.text_of_ofWord? hk, decodePrimitive]
    have hoperands := operands_failsWith line opcode.mnemonic rest
    split
    · rename_i e he
      exact hoperands.of_eq_error he
    · exact .ok _

end Statement

/-! ## Records -/

namespace Record

/-- The rules of a record are broken on its line. -/
theorem check_failsWith (record : Record) :
    FailsWith (CompileError.IsAbout record.line record.opcode.mnemonic)
      record.check := by
  have hargument : ∀ allowed,
      FailsWith (CompileError.IsAbout record.line record.opcode.mnemonic)
        (record.allowArguments allowed) := by
    intro allowed
    rw [allowArguments]
    split
    · exact .ok _
    · exact .ite (.ok _) (.error ⟨rfl, rfl, rfl⟩)
  have hparameter :
      FailsWith (CompileError.IsAbout record.line record.opcode.mnemonic)
        record.requireParameter :=
    .ite (.error ⟨rfl, rfl, rfl⟩) (.ok _)
  have hidentifier : ∀ allowed,
      FailsWith (CompileError.IsAbout record.line record.opcode.mnemonic)
        (record.allowIdentifiers allowed) := by
    intro allowed
    rw [allowIdentifiers]
    split
    · exact .ok _
    · exact .ite (.ok _) (.error ⟨rfl, rfl, rfl⟩)
  generalize CompileError.IsAbout record.line record.opcode.mnemonic = P
    at hargument hparameter hidentifier ⊢
  rw [check]
  cases record.opcode with
  | noop | doLoop | repeatProgram | endProgram => exact .ok _
  | start =>
      exact (hargument _).bind fun _ => hparameter.bind fun _ => .ok _
  | dataRequest =>
      exact (hargument _).bind fun _ =>
        .ite (hparameter.bind fun _ => .ok _) (.ok _)
  | inc | wait => exact (hargument _).bind fun _ => .ok _
  | set | and | or =>
      exact (hargument _).bind fun _ =>
        .ite (hparameter.bind fun _ => .ok _) (.ok _)
  | loop =>
      exact (hargument _).bind fun _ => hparameter.bind fun _ =>
        (hidentifier _).bind fun _ => .ok _

end Record

/-- A use of `SLICE` is refused on its line. -/
theorem SliceCall.expand_failsWith (call : SliceCall) :
    FailsWith (CompileError.IsAbout call.line Keyword.slice.text)
      call.expand := by
  rw [expand]
  split
  · exact .error ⟨rfl, rfl, rfl⟩
  · exact .ok _

/-! ## Lines -/

/-- A statement is read on the line that it was decoded from. -/
theorem Reading.ofStatement_failsWith {line : LineNumber} {first : String}
    {statement : Statement} (hd : Statement.Decoded line first statement) :
    FailsWith (CompileError.IsAbout line first) (ofStatement statement) := by
  cases hd with
  | @primitive record hk hl _ _ =>
      have hcheck := record.check_failsWith
      rw [hl, show record.opcode.mnemonic = first from
        Keyword.text_of_ofWord? hk] at hcheck
      cases hc : record.check with
      | error e =>
          rw [ofStatement_primitive_error hc]
          exact hcheck.of_eq_error hc
      | ok checked =>
          rw [ofStatement_primitive_ok hc]
          exact .ok _
  | @slice call hk hl =>
      have hexpand := call.expand_failsWith
      rw [hl, Keyword.text_of_ofWord? hk] at hexpand
      cases he : call.expand with
      | error e =>
          rw [ofStatement_slice_error he]
          exact hexpand.of_eq_error he
      | ok noted =>
          rw [ofStatement_slice_ok he]
          exact .ok _

/-- A line is read where it stands. -/
theorem Reading.ofLine_failsWith (line : LineNumber) (source : String) :
    FailsWith (Source.Blamed line source) (ofLine line source) := by
  cases progress line source with
  | malformed hw =>
      rw [ofLine_of_read_error hw]
      exact .error (.unread hw)
  | blank hw =>
      rw [ofLine_of_no_words hw]
      exact .ok _
  | undecoded hw hd =>
      rw [ofLine_of_decode_error hw hd]
      exact ((Statement.decode_failsWith line _ _).of_eq_error hd).imp
        fun _ => .named hw
  | decoded hw hd =>
      rw [ofLine_of_decoded hw hd]
      exact ((ofStatement_failsWith (Statement.decode_eq_ok hd)).map _).imp
        fun _ => .named hw

/-- A line that does not fit into the nesting of the open loops is blamed by
    its first word. -/
theorem LoopStack.Blocked.blamed {loops : LoopStack} {line : LineNumber}
    {source : String} {error : CompileError}
    (h : loops.Blocked line source error) : Source.Blamed line source error := by
  cases h with
  | nothingToClose hk _ =>
      obtain ⟨first, rest, hread, hfirst⟩ := Source.exists_read_of_keyword? hk
      exact .named hread ⟨rfl, hfirst.symm, rfl⟩
  | endInsideLoop hk _ =>
      obtain ⟨first, rest, hread, hfirst⟩ := Source.exists_read_of_keyword? hk
      exact .named hread ⟨rfl, hfirst.symm, rfl⟩

/-- A line fails for itself, whatever loops are open. -/
theorem Yield.ofLine_failsWith (clock : Clock) (loops : LoopStack)
    (line : LineNumber) (source : String) :
    FailsWith (Source.Blamed line source) (ofLine clock loops line source) := by
  intro error h
  rcases ofLine_eq_error h with hr | ⟨record, hw, he⟩
  · exact Reading.ofLine_failsWith line source error hr
  · exact (hw.encode_eq_error_iff.mp he).blamed

/-- A line that is blamed is where the error was found. -/
theorem Yield.ofLine_failsOn (clock : Clock) (loops : LoopStack)
    (line : LineNumber) (source : String) :
    FailsOn line (ofLine clock loops line source) := by
  refine (ofLine_failsWith clock loops line source).imp ?_
  intro error h
  cases h with
  | unread hw =>
      obtain ⟨hline, hfault⟩ := Source.Word.read_failsWith line source error hw
      refine ⟨hline, fun hopen => ?_⟩
      rw [hopen] at hfault
      rcases hfault with ⟨_, hf⟩ | ⟨_, _, hf⟩
      · cases hf
      · cases hf
  | named _ habout =>
      refine ⟨habout.line, fun hopen => ?_⟩
      have hstage := habout.stage
      rw [hopen] at hstage
      cases hstage

end TimingScript
