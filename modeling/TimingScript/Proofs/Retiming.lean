import TimingScript.Proofs.Agreement
import TimingScript.Proofs.Lines
import TimingScript.Proofs.Rules

/-! # Retiming — the clock shows in spans of time only

    One text is compiled for two clocks.  The clock is looked at where a
    `WAIT` gives its span in a unit of time, and nowhere else: such a line
    is accepted for every clock, but the ticks that it carries depend on it,
    and so does whether they are exact.  All other instructions, the errors
    and the loops are the same, and the warnings differ in those about
    inexact spans, which are given for nanoseconds alone. -/

namespace TimingScript

open Source (LineNumber Word)

/-! ## Spans of time -/

/-- The unit in which a `WAIT` gives its span, if it does. -/
def Record.spanUnit? (record : Record) : Option TimeUnit :=
  if record.opcode = .wait then record.identifier.bind TimeUnit.ofName?
  else none

/-- The unit of a statement that is a `WAIT` for a span of time. -/
def Statement.spanUnit? : Statement → Option TimeUnit
  | .primitive record => record.spanUnit?
  | .slice _ => none

/-- The unit of a line that is a `WAIT` for a span of time. -/
def Source.spanUnit? (line : LineNumber) (source : String) :
    Option TimeUnit :=
  match Word.read line source with
  | .error _ => none
  | .ok words =>
      match Statement.decode line words with
      | .error _ => none
      | .ok noted => noted.value.spanUnit?

/-- A line of the text with the given number is a `WAIT` for a span of time
    in the given unit. -/
def Source.SpansAt (text : String) (line : LineNumber) (unit : TimeUnit) :
    Prop :=
  ∃ source, (line, source) ∈ numberedLines text ∧
    spanUnit? line source = some unit

/-- The warning says that a span is not a multiple of the clock period. -/
def Warning.isInexact (warning : Warning) : Bool :=
  match warning.caution with
  | .inexactSpan _ _ _ => true
  | _ => false

/-- The warnings that do not depend on the clock. -/
def Warning.timeless (warnings : List Warning) : List Warning :=
  warnings.filter fun warning => !warning.isInexact

/-- Inexact spans are reported for lines in nanoseconds only. -/
def Warning.InNanoseconds (text : String) (warnings : List Warning) :
    Prop :=
  ∀ warning ∈ warnings, warning.isInexact = true →
    Source.SpansAt text warning.line .nanoseconds

namespace Reading

/-- The records of a line have the unit of that line. -/
theorem spanUnit?_of_mem {line : LineNumber} {source : String}
    {reading : Reading} (h : ofLine line source = .ok reading)
    {record : Record} (hr : record ∈ reading.records) :
    record.spanUnit? = Source.spanUnit? line source := by
  cases ofLine_eq_ok h with
  | blank _ => cases hr
  | decoded hw hd hreads =>
      rw [Source.spanUnit?, hw]
      dsimp only
      rw [hd]
      cases hreads with
      | primitive _ =>
          rw [List.mem_singleton.mp hr]
          rfl
      | slice _ =>
          rcases List.mem_cons.mp hr with rfl | hr
          · rfl
          · rw [List.mem_singleton.mp hr]
            rfl

end Reading

/-! ## Warnings of a reading -/

/-- What is warned of while a line is decoded has nothing to do with time. -/
theorem Statement.isInexact_of_decode {line : LineNumber}
    {words : List Word} {noted : Noted Statement}
    (h : decode line words = .ok noted) :
    ∀ warning ∈ noted.warning, warning.isInexact = false := by
  have hunused : ∀ (keyword : Keyword) (rest : List Word),
      ∀ warning ∈ unused line keyword rest, warning.isInexact = false := by
    intro keyword rest warning hw
    obtain ⟨_, -, rfl⟩ := Option.map_eq_some_iff.mp hw
    rfl
  cases words with
  | nil => cases h
  | cons first rest =>
      rw [decode] at h
      split at h
      · cases h
      · rw [decodeSlice] at h
        split at h
        · cases h
        · rw [← Except.ok.inj h]
          exact hunused _ _
      · rw [decodePrimitive] at h
        split at h
        · cases h
        · rw [← Except.ok.inj h]
          exact hunused _ _

/-- A tag that spills has nothing to do with time. -/
theorem SliceCall.isInexact_of_expand {call : SliceCall}
    {noted : Noted Expansion} (h : call.expand = .ok noted) :
    ∀ warning ∈ noted.warning, warning.isInexact = false := by
  rw [expand] at h
  split at h
  · cases h
  · rw [← Except.ok.inj h]
    intro warning hw
    obtain ⟨-, hw⟩ := Option.ite_none_right_eq_some.mp hw
    rw [← Option.some.inj hw]
    rfl

/-- The caution about the operands of a record has nothing to do with
    time. -/
theorem Record.isInexact_of_check {record : Record} {noted : Noted Unit}
    (h : record.check = .ok noted) :
    ∀ warning ∈ noted.warning, warning.isInexact = false := by
  obtain ⟨hwarning, -⟩ := check_eq_ok h
  intro warning hw
  rw [hwarning] at hw
  obtain ⟨caution, hc, rfl⟩ := Option.map_eq_some_iff.mp hw
  rw [Record.caution] at hc
  split at hc
  · obtain ⟨_, -, rfl⟩ := Option.map_eq_some_iff.mp hc
    rfl
  · rw [unusedDistance, Option.ite_none_right_eq_some] at hc
    rw [← Option.some.inj hc.2]
    rfl
  · rw [strangeUnit] at hc
    split at hc
    · cases hc
    · rw [Option.ite_none_left_eq_some] at hc
      rw [← Option.some.inj hc.2]
      rfl
  · rw [unusedValue, Option.ite_none_right_eq_some] at hc
    rw [← Option.some.inj hc.2]
    rfl
  · rw [unusedValue, Option.ite_none_right_eq_some] at hc
    rw [← Option.some.inj hc.2]
    rfl
  · cases hc

/-- A line is read without a look at spans of time. -/
theorem Reading.isInexact_of_mem {line : LineNumber} {source : String}
    {reading : Reading} (h : ofLine line source = .ok reading) :
    ∀ warning ∈ reading.warnings, warning.isInexact = false := by
  intro warning hw
  cases ofLine_eq_ok h with
  | blank _ => cases hw
  | decoded _ hd hreads =>
      rcases List.mem_append.mp hw with hw | hw
      · exact Statement.isInexact_of_decode hd warning
          (Option.mem_toList.mp hw)
      · cases hreads with
        | primitive hc =>
            exact Record.isInexact_of_check hc warning
              (Option.mem_toList.mp hw)
        | slice he =>
            exact SliceCall.isInexact_of_expand he warning
              (Option.mem_toList.mp hw)

/-! ## Encodings for two clocks -/

/-- What a record is encoded as for two clocks: the same value unless it is
    a span of time, and the same warnings but for inexact nanoseconds. -/
structure Record.Retimed (record : Record) (noted other : Noted Parameter) :
    Prop where
  value : record.spanUnit? = none → noted.value = other.value
  warnings : Warning.timeless noted.warning.toList
    = Warning.timeless other.warning.toList
  nanoseconds : ∀ warning ∈ noted.warning.toList ++ other.warning.toList,
    warning.isInexact = true →
      warning.line = record.line ∧ record.spanUnit? = some .nanoseconds

namespace Record

/-- What does not depend on the clock is the same for both. -/
theorem Retimed.of_not_inexact {record : Record} {noted : Noted Parameter}
    (h : ∀ warning ∈ noted.warning, warning.isInexact = false) :
    record.Retimed noted noted where
  value := fun _ => rfl
  warnings := rfl
  nanoseconds := by
    intro warning hw hinexact
    have hmem : warning ∈ noted.warning := by
      rcases List.mem_append.mp hw with hw | hw
      · exact Option.mem_toList.mp hw
      · exact Option.mem_toList.mp hw
    rw [h warning hmem] at hinexact
    cases hinexact

/-- A number that does not fit has nothing to do with time. -/
theorem isInexact_of_written (record : Record) :
    ∀ warning ∈ record.written.warning, warning.isInexact = false := by
  intro warning hw
  rw [written] at hw
  split at hw
  · cases hw
  · rw [← Option.some.inj hw]
    rfl

/-- The only warning about a span of time is that it is inexact. -/
theorem timeless_span (record : Record) (clock : Clock) (unit : TimeUnit) :
    Warning.timeless (record.span clock unit).warning.toList = [] := by
  rw [span]
  dsimp only
  split
  · rfl
  · rfl

/-- A span of time is said to be inexact only in nanoseconds. -/
theorem nanoseconds_of_span {record : Record} {clock : Clock}
    {unit : TimeUnit} {warning : Warning}
    (h : warning ∈ (record.span clock unit).warning) :
    warning.line = record.line ∧ unit = .nanoseconds := by
  obtain ⟨⟨hunit, -⟩, hw⟩ := Option.ite_none_right_eq_some.mp h
  rw [← Option.some.inj hw]
  exact ⟨rfl, hunit⟩

/-- A span of time for two clocks. -/
theorem span_retimed {record : Record} {unit : TimeUnit}
    (hunit : record.spanUnit? = some unit) (clock other : Clock) :
    record.Retimed (record.span clock unit) (record.span other unit) where
  value := by
    intro hnone
    rw [hunit] at hnone
    cases hnone
  warnings := by rw [timeless_span, timeless_span]
  nanoseconds := by
    intro warning hw _
    rw [hunit]
    rcases List.mem_append.mp hw with hw | hw
    · obtain ⟨hl, rfl⟩ := nanoseconds_of_span (Option.mem_toList.mp hw)
      exact ⟨hl, rfl⟩
    · obtain ⟨hl, rfl⟩ := nanoseconds_of_span (Option.mem_toList.mp hw)
      exact ⟨hl, rfl⟩

/-- A `WAIT` for two clocks. -/
theorem waitTicks_retimed {record : Record} (ho : record.opcode = .wait)
    (clock other : Clock) :
    record.Retimed (record.waitTicks clock) (record.waitTicks other) := by
  rw [waitTicks, waitTicks]
  cases hi : record.identifier with
  | none =>
      dsimp only
      refine .of_not_inexact ?_
      split
      · exact nofun
      · exact nofun
  | some name =>
      dsimp only
      cases hu : TimeUnit.ofName? name with
      | none => exact .of_not_inexact record.isInexact_of_written
      | some unit =>
          refine span_retimed ?_ clock other
          rw [spanUnit?, if_pos ho, hi]
          exact hu

/-- Any other operation does not look at the clock. -/
theorem encode_of_ne_wait {record : Record} (ho : record.opcode ≠ .wait)
    (loops : LoopStack) (clock other : Clock) :
    record.encode loops clock = record.encode loops other := by
  rw [encode, encode]
  cases h : record.opcode with
  | wait => exact absurd h ho
  | _ => rfl

/-- Any other operation carries what is written, or else there is nothing
    to warn about. -/
theorem silent_or_written_of_encode {record : Record}
    (ho : record.opcode ≠ .wait) {loops : LoopStack} {clock : Clock}
    {noted : Noted Parameter}
    (h : record.encode loops clock = .ok noted) :
    noted.warning = none ∨ noted = record.written := by
  rw [encode] at h
  cases hop : record.opcode with
  | wait => exact absurd hop ho
  | noop | start | set | and | or | loop | repeatProgram =>
      rw [hop] at h
      exact .inr (Except.ok.inj h).symm
  | dataRequest | inc =>
      rw [hop] at h
      dsimp only at h
      split at h
      · rw [← Except.ok.inj h]
        exact .inl rfl
      · exact .inr (Except.ok.inj h).symm
  | doLoop =>
      rw [hop] at h
      dsimp only at h
      split at h
      · cases h
      · rw [← Except.ok.inj h]
        exact .inl rfl
  | endProgram =>
      rw [hop] at h
      dsimp only at h
      split at h
      · rw [← Except.ok.inj h]
        exact .inl rfl
      · cases h

/-- A record for two clocks, where the same loops are open. -/
theorem encode_retimed (record : Record) (loops : LoopStack)
    (clock other : Clock) :
    Agrees record.Retimed (record.encode loops clock)
      (record.encode loops other) := by
  -- no other record looks at the clock
  by_cases ho : record.opcode = .wait
  · rw [encode, encode, ho]
    exact .ok (waitTicks_retimed ho clock other)
  · rw [encode_of_ne_wait ho loops other clock]
    cases he : record.encode loops clock with
    | error e => exact .error e
    | ok noted =>
        refine .ok (.of_not_inexact ?_)
        rcases silent_or_written_of_encode ho he with hnone | rfl
        · rw [hnone]
          intro warning hw
          cases hw
        · exact record.isInexact_of_written

end Record

/-! ## Programs for two clocks -/

/-- Rows of one text for two clocks: only the parameter of a `WAIT` on a
    line with a unit of time may differ. -/
structure ListingRow.Retimed (text : String) (row other : ListingRow) :
    Prop where
  line : row.line = other.line
  source : row.source = other.source
  synthetic : row.synthetic = other.synthetic
  opcode : row.instruction.opcode = other.instruction.opcode
  parameter : row.instruction.parameter = other.instruction.parameter ∨
    row.instruction.opcode = .wait ∧
      ∃ source, (row.line, source) ∈ Source.numberedLines text ∧
        row.source = Text.trim source ∧
        (Source.spanUnit? row.line source).isSome

/-- Yields of one text for two clocks. -/
structure Yield.Retimed (text : String) (y z : Yield) : Prop where
  rows : List.Forall₂ (ListingRow.Retimed text) y.rows z.rows
  warnings : Warning.timeless y.warnings = Warning.timeless z.warnings
  nanoseconds : Warning.InNanoseconds text (y.warnings ++ z.warnings)

/-- Programs of one text for two clocks.  The instructions are those of the
    listings. -/
structure Program.Retimed (text : String) (program other : Program) :
    Prop where
  instructions : program.instructions
      = program.listing.map ListingRow.instruction ∧
    other.instructions = other.listing.map ListingRow.instruction
  listing : List.Forall₂ (ListingRow.Retimed text) program.listing.toList
    other.listing.toList
  warnings : Warning.timeless program.warnings.toList
    = Warning.timeless other.warnings.toList
  nanoseconds : Warning.InNanoseconds text
    (program.warnings.toList ++ other.warnings.toList)

/-- Warnings in two parts that do not depend on the clock. -/
theorem Warning.timeless_append (ws vs : List Warning) :
    timeless (ws ++ vs) = timeless ws ++ timeless vs :=
  List.filter_append ..

namespace Yield

variable {text : String}

/-- Yields behind each other, retimed one by one. -/
theorem append_retimed {y y' z z' : Yield} (hy : y.Retimed text y')
    (hz : z.Retimed text z') :
    (y.append z).Retimed text (y'.append z') where
  rows := List.rel_append hy.rows hz.rows
  warnings := by
    rw [append, append, Warning.timeless_append, Warning.timeless_append,
      hy.warnings, hz.warnings]
  nanoseconds := by
    intro warning hw
    have hmem : warning ∈ y.warnings ++ y'.warnings ∨
        warning ∈ z.warnings ++ z'.warnings := by
      simp only [append, List.mem_append] at hw ⊢
      tauto
    rcases hmem with hmem | hmem
    · exact hy.nanoseconds warning hmem
    · exact hz.nanoseconds warning hmem

/-- Yields in a row, retimed one by one. -/
theorem join_retimed {ys zs : List Yield}
    (h : List.Forall₂ (Retimed text) ys zs) :
    (join ys).Retimed text (join zs) := by
  induction h with
  | nil => exact ⟨.nil, rfl, nofun⟩
  | cons hfirst _ ih =>
      rw [join_cons, join_cons]
      exact append_retimed hfirst ih

section

variable {line : LineNumber} {source : String}
  (hline : (line, source) ∈ Source.numberedLines text)

include hline

/-- The row of a record for two clocks. -/
theorem row_retimed {record : Record} (hl : record.line = line)
    (hunit : record.spanUnit? = Source.spanUnit? line source)
    {noted other : Noted Parameter} (h : record.Retimed noted other) :
    Retimed text ⟨[record.row source noted.value], noted.warning.toList⟩
      ⟨[record.row source other.value], other.warning.toList⟩ where
  rows := by
    refine .cons ⟨rfl, rfl, rfl, rfl, ?_⟩ .nil
    cases hu : record.spanUnit? with
    | none => exact .inl (h.value hu)
    | some unit =>
        have hwait := (Option.ite_none_right_eq_some.mp hu).1
        refine .inr ⟨hwait, source, ?_, rfl, ?_⟩
        · rw [← hl] at hline
          exact hline
        · show (Source.spanUnit? record.line source).isSome
          rw [hl, ← hunit, hu]
          rfl
  warnings := h.warnings
  nanoseconds := by
    intro warning hw hinexact
    obtain ⟨hwl, hu⟩ := h.nanoseconds warning hw hinexact
    rw [hwl, hl]
    exact ⟨source, hline, hunit.symm.trans hu⟩

/-- Records of a line for two clocks. -/
theorem ofRecords_retimed (clock other : Clock) {records : List Record}
    (h : ∀ record ∈ records, record.line = line ∧
      record.spanUnit? = Source.spanUnit? line source) :
    ∀ loops, Agrees (Retimed text) (ofRecords clock source loops records)
      (ofRecords other source loops records) := by
  induction records with
  | nil => intro loops; exact .ok ⟨.nil, rfl, nofun⟩
  | cons record rest ih =>
      intro loops
      obtain ⟨⟨hl, hunit⟩, hrest⟩ := List.forall_mem_cons.mp h
      have hencode := record.encode_retimed loops clock other
      rw [ofRecords, ofRecords]
      generalize record.encode loops clock = x at hencode
      generalize record.encode loops other = y at hencode
      cases hencode with
      | error e => exact .error e
      | ok hnoted =>
          refine (ih hrest (loops.after record)).map fun y z hyz => ?_
          exact append_retimed (row_retimed hline hl hunit hnoted) hyz

/-- A line for two clocks, whatever loops are open. -/
theorem ofLine_retimed (clock other : Clock) (loops : LoopStack) :
    Agrees (InStep (Retimed text)) (ofLine clock loops line source)
      (ofLine other loops line source) := by
  rw [ofLine, ofLine]
  cases hr : Reading.ofLine line source with
  | error e => exact .error e
  | ok reading =>
      have hrecords : ∀ record ∈ reading.records, record.line = line ∧
          record.spanUnit? = Source.spanUnit? line source := by
        intro record hmem
        exact ⟨Reading.line_of_mem hr hmem, Reading.spanUnit?_of_mem hr hmem⟩
      -- what the reading warns of stands in front, and is never about time
      have hwarnings : Retimed text ⟨[], reading.warnings⟩
          ⟨[], reading.warnings⟩ := by
        refine ⟨.nil, rfl, ?_⟩
        intro warning hw hinexact
        have hmem : warning ∈ reading.warnings :=
          (List.mem_append.mp hw).elim id id
        rw [Reading.isInexact_of_mem hr warning hmem] at hinexact
        cases hinexact
      dsimp only
      refine (ofRecords_retimed hline clock other hrecords loops).map ?_
      intro y z hyz
      exact ⟨append_retimed hwarnings hyz, rfl⟩

end

/-- Retimed yields make retimed programs. -/
theorem program_retimed {y z : Yield} (h : y.Retimed text z) :
    y.program.Retimed text z.program where
  instructions :=
    ⟨(map_instruction_listing y).symm, (map_instruction_listing z).symm⟩
  listing := h.rows
  warnings := h.warnings
  nanoseconds := h.nanoseconds

end Yield

/-- **The clock shows in spans of time only.**  A text fails with the same
    error for all clocks, or compiles for all of them: then two programs
    differ only in the parameters of `WAIT` lines with a unit of time, and
    in the warnings about spans in nanoseconds that are not exact. -/
theorem compile_retimed (clock other : Clock) (text : String) :
    Agrees (Program.Retimed text) (compile clock text)
      (compile other text) := by
  have hlines : List.Forall₂ (fun u v => ∀ loops,
      Agrees (Yield.InStep (Yield.Retimed text))
        (Yield.ofLine clock loops u.1 u.2) (Yield.ofLine other loops v.1 v.2))
      (Source.numberedLines text) (Source.numberedLines text) := by
    refine List.forall₂_same.mpr ?_
    intro numbered hmem loops
    exact Yield.ofLine_retimed hmem clock other loops
  refine (compile_agrees hlines).imp ?_
  rintro _ _ ⟨ys, zs, hrel, rfl, rfl⟩
  exact Yield.program_retimed (Yield.join_retimed hrel)

/-- Fifty nanoseconds are two ticks, or one and a half. -/
example : (compile ⟨40000000⟩ "WAIT 50 ns").toOption.map
      (fun program => (program.instructions, program.warnings))
        = some (#[⟨.wait, 2⟩], #[]) ∧
    (compile ⟨30000000⟩ "WAIT 50 ns").toOption.map
      (fun program => (program.instructions, program.warnings))
        = some (#[⟨.wait, 1⟩],
          #[⟨1, .operation .wait, .inexactSpan ⟨30000000⟩ 50 1⟩]) := by
  decide +kernel

end TimingScript
