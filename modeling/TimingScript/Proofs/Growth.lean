import TimingScript.Proofs.Yield

/-! # Growth — an assembly is extended by the yields of its lines

    An assembly only grows.  A line that succeeds extends it by the yield
    of that line, a line that fails leaves nothing but warnings behind,
    and the instructions, the bytes and the rows of an assembly grow
    together.  What a step logs is left out here.

    `compile_eq` is the summary: a text compiles to the yields of its
    lines, in order, provided that every line has one and that no loop is
    left open; otherwise the first line without a yield gives the
    error. -/

namespace TimingScript

open Source (LineNumber Word)

/-! ## Growing assemblies -/

/-- How a step ends, whatever it logs. -/
def Outcome.ending (outcome : Outcome) : Assembly × Option CompileError :=
  (outcome.assembly, outcome.error)

namespace Assembly

/-- Appending to an array twice is appending once. -/
theorem append_list_append {α : Type} (xs : Array α) (as bs : List α) :
    (xs ++ as) ++ bs = xs ++ (as ++ bs) := by
  apply Array.ext'
  simp

/-- An assembly with a yield appended, and with the given loops open. -/
def extend (assembly : Assembly) (y : Yield) (loops : LoopStack) :
    Assembly :=
  { assembly with
    loops
    image := assembly.image ++ Image.ofInstructions y.instructions
    instructions := assembly.instructions ++ y.instructions
    warnings := assembly.warnings ++ y.warnings
    listing := assembly.listing ++ y.rows }

@[simp] theorem extend_clock (assembly : Assembly) (y : Yield)
    (loops : LoopStack) : (assembly.extend y loops).clock = assembly.clock := rfl

@[simp] theorem extend_loops (assembly : Assembly) (y : Yield)
    (loops : LoopStack) : (assembly.extend y loops).loops = loops := rfl

/-- An assembly that grows twice grows by both yields. -/
theorem extend_extend (assembly : Assembly) (y z : Yield)
    (loops last : LoopStack) :
    (assembly.extend y loops).extend z last
      = assembly.extend (y.append z) last := by
  simp only [extend, Yield.append, Yield.instructions, Image.ofInstructions,
    append_list_append, List.map_append, List.flatMap_append]

/-- A warning is a yield. -/
theorem note_eq (assembly : Assembly) (warning : Option Warning) :
    assembly.note warning
      = assembly.extend ⟨[], warning.toList⟩ assembly.loops := by
  cases warning <;> rfl

@[simp] theorem nest_loops (assembly : Assembly) (record : Record) :
    (assembly.nest record).loops = assembly.loops.after record := rfl

/-- What is appended behind a record does not depend on its loop. -/
theorem nest_extend (assembly : Assembly) (record : Record) (y : Yield)
    (loops : LoopStack) :
    (assembly.nest record).extend y loops = assembly.extend y loops := rfl

/-- An instruction is a yield. -/
theorem append_eq (assembly : Assembly) (record : Record) (source : String)
    (parameter : Parameter) :
    assembly.append record source ⟨record.opcode, parameter⟩
      = assembly.extend ⟨[record.row source parameter], []⟩
          assembly.loops := rfl

/-! ## Endings of single steps -/

/-- A pure step that succeeds notes its warning and goes on. -/
theorem ending_take_ok {α : Type} (assembly : Assembly) (noted : Noted α)
    (next : Assembly → α → Outcome) :
    (assembly.take (.ok noted) next).ending
      = (next (assembly.extend ⟨[], noted.warning.toList⟩ assembly.loops)
          noted.value).ending := by
  rw [← note_eq]
  rfl

/-- A record that breaks a rule changes nothing. -/
theorem ending_emit_of_check_error {assembly : Assembly} {record : Record}
    {source : String} {error : CompileError}
    (hc : record.check = .error error) :
    (assembly.emit record source).ending = (assembly, some error) := by
  rw [emit, hc]
  rfl

/-- A record that cannot be encoded neither opens nor closes a loop: the
    `DO_LOOP` that is refused has none to close, and an `END` closes none
    anywhere. -/
theorem loops_after_of_encode_error {record : Record} {loops : LoopStack}
    {clock : Clock} {error : CompileError}
    (he : record.encode loops clock = .error error) :
    loops.after record = loops := by
  rw [LoopStack.after]
  rw [Record.encode] at he
  cases ho : record.opcode with
  | loop =>
      rw [ho] at he
      cases he
  | doLoop =>
      rw [ho] at he
      obtain ⟨lines⟩ := loops
      cases lines with
      | nil => rfl
      | cons opened outer => cases he
  | _ => rfl

/-- A record that cannot be encoded leaves the warning of its check. -/
theorem ending_emit_of_encode_error {assembly : Assembly} {record : Record}
    {source : String} {checked : Noted Unit} {error : CompileError}
    (hc : record.check = .ok checked)
    (he : record.encode assembly.loops assembly.clock = .error error) :
    (assembly.emit record source).ending
      = (assembly.extend ⟨[], checked.warning.toList⟩ assembly.loops,
          some error) := by
  rw [emit, hc, ending_take_ok, extend_loops, extend_clock, he]
  show (nest _ record, some error) = _
  rw [nest, extend_loops, loops_after_of_encode_error he]
  rfl

/-- A record that is encoded appends its warnings and its row. -/
theorem ending_emit_of_ok {assembly : Assembly} {record : Record}
    (source : String) {checked : Noted Unit} {noted : Noted Parameter}
    (hc : record.check = .ok checked)
    (he : record.encode assembly.loops assembly.clock = .ok noted) :
    (assembly.emit record source).ending
      = (assembly.extend
          ⟨[record.row source noted.value],
            checked.warning.toList ++ noted.warning.toList⟩
          (assembly.loops.after record), none) := by
  rw [emit, hc, ending_take_ok, extend_loops, extend_clock, he,
    ending_take_ok, nest_loops, nest_extend, extend_loops, extend_extend]
  show (append _ _ _ _, none) = _
  rw [append_eq, extend_loops, extend_extend]
  simp [Yield.append]

/-- Records that pass their checks silently append their yield. -/
theorem ending_emitAll_of_ok (source : String) {records : List Record}
    (hc : ∀ record ∈ records, record.check = .ok ⟨(), none⟩) :
    ∀ (assembly : Assembly) (y : Yield),
      Yield.ofRecords assembly.clock source assembly.loops records = .ok y →
      (assembly.emitAll source records).ending
        = (assembly.extend y (records.foldl LoopStack.after assembly.loops),
            none) := by
  induction records with
  | nil =>
      intro assembly y h
      rw [← Except.ok.inj h]
      rfl
  | cons record rest ih =>
      intro assembly y h
      rw [Yield.ofRecords] at h
      cases he : record.encode assembly.loops assembly.clock with
      | error e => rw [he] at h; cases h
      | ok noted =>
          rw [he] at h
          obtain ⟨z, hz, rfl⟩ := except_map_eq_ok h
          have hfirst := ending_emit_of_ok source
            (hc record List.mem_cons_self) he
          rw [Option.toList_none, List.nil_append] at hfirst
          have hrest := ih (fun r hr => hc r (List.mem_cons_of_mem record hr))
            (assembly.extend
              ⟨[record.row source noted.value], noted.warning.toList⟩
              (assembly.loops.after record)) z hz
          rw [extend_extend, extend_loops] at hrest
          rw [emitAll, Outcome.andThen, show (assembly.emit record source).error
            = none from congrArg Prod.snd hfirst]
          show (emitAll (assembly.emit record source).assembly source rest).ending
            = _
          rw [show (assembly.emit record source).assembly = _
            from congrArg Prod.fst hfirst, hrest]
          rfl

/-! ## Endings of lines -/

/-- A statement without a reading changes nothing. -/
theorem ending_execute_of_reading_error {assembly : Assembly}
    {source : String} {statement : Statement} {error : CompileError}
    (h : Reading.ofStatement statement = .error error) :
    (assembly.execute source statement).ending = (assembly, some error) := by
  cases statement with
  | primitive record =>
      cases hc : record.check with
      | ok checked =>
          rw [Reading.ofStatement_primitive_ok hc] at h
          cases h
      | error e =>
          rw [Reading.ofStatement_primitive_error hc] at h
          rw [← Except.error.inj h]
          exact ending_emit_of_check_error hc
  | slice call =>
      cases he : call.expand with
      | ok noted =>
          rw [Reading.ofStatement_slice_ok he] at h
          cases h
      | error e =>
          rw [Reading.ofStatement_slice_error he] at h
          rw [← Except.error.inj h, execute, he]
          rfl

/-- A statement that has a yield appends it. -/
theorem ending_execute_of_ok (assembly : Assembly) {source : String}
    {statement : Statement} {reading : Reading} {y : Yield}
    {loops : LoopStack} (hr : Reading.ofStatement statement = .ok reading)
    (hy : Yield.ofReading assembly.clock source assembly.loops reading
      = .ok (y, loops)) :
    (assembly.execute source statement).ending
      = (assembly.extend y loops, none) := by
  cases Reading.ofStatement_eq_ok hr with
  | @primitive record checked hc =>
      obtain ⟨z, hz, hzy⟩ := except_map_eq_ok hy
      obtain ⟨rfl, rfl⟩ := Prod.mk.inj hzy
      cases he : record.encode assembly.loops assembly.clock with
      | error e =>
          rw [Yield.ofRecords, he] at hz
          cases hz
      | ok noted =>
          rw [Yield.ofRecords, he] at hz
          rw [← Except.ok.inj hz, execute, ending_emit_of_ok source hc he]
          simp [Yield.append, Yield.empty]
  | @slice call noted he =>
      rw [Yield.ofReading, Yield.ofRecords_expansion] at hy
      obtain ⟨rfl, rfl⟩ := Prod.mk.inj (Except.ok.inj hy)
      have hall := ending_emitAll_of_ok source noted.value.check_records
        (assembly.extend ⟨[], noted.warning.toList⟩ assembly.loops) _
        (Yield.ofRecords_expansion _ source _ noted.value)
      rw [extend_extend] at hall
      rw [execute, he, ending_take_ok]
      exact hall

/-- A statement that reads well and has no yield leaves warnings. -/
theorem ending_execute_of_yield_error (assembly : Assembly)
    {source : String} {statement : Statement} {reading : Reading}
    {error : CompileError} (hr : Reading.ofStatement statement = .ok reading)
    (hy : Yield.ofReading assembly.clock source assembly.loops reading
      = .error error) :
    ∃ warnings, (assembly.execute source statement).ending
      = (assembly.extend ⟨[], warnings⟩ assembly.loops, some error) := by
  cases Reading.ofStatement_eq_ok hr with
  | @primitive record checked hc =>
      cases he : record.encode assembly.loops assembly.clock with
      | ok noted =>
          rw [Yield.ofReading, Yield.ofRecords, he] at hy
          cases hy
      | error e =>
          rw [Yield.ofReading, Yield.ofRecords, he] at hy
          rw [← Except.error.inj hy]
          exact ⟨_, ending_emit_of_encode_error hc he⟩
  | slice he =>
      -- an expansion has a yield wherever it stands
      rw [Yield.ofReading, Yield.ofRecords_expansion] at hy
      cases hy

section

variable {assembly : Assembly} {line : LineNumber} {source : String}

/-- A decoded line carries out its statement, with its warning noted. -/
theorem ending_compileLine_of_decoded {first : Word} {rest : List Word}
    {noted : Noted Statement}
    (hw : Word.read line source = .ok (first :: rest))
    (hd : Statement.decode line (first :: rest) = .ok noted) :
    (assembly.compileLine line source).ending
      = ((assembly.extend ⟨[], noted.warning.toList⟩
          assembly.loops).execute source noted.value).ending := by
  rw [compileLine, hw]
  show (assembly.take (Statement.decode line (first :: rest)) _).ending = _
  rw [hd, ending_take_ok]

/-- A line that has a yield appends it. -/
theorem ending_compileLine_of_ok {y : Yield} {loops : LoopStack}
    (h : Yield.ofLine assembly.clock assembly.loops line source
      = .ok (y, loops)) :
    (assembly.compileLine line source).ending
      = (assembly.extend y loops, none) := by
  rw [Yield.ofLine] at h
  cases Reading.progress line source with
  | malformed hw =>
      rw [Reading.ofLine_of_read_error hw] at h
      cases h
  | blank hw =>
      rw [Reading.ofLine_of_no_words hw] at h
      obtain ⟨rfl, rfl⟩ := Prod.mk.inj (Except.ok.inj h)
      rw [compileLine, hw]
      rfl
  | undecoded hw hd =>
      rw [Reading.ofLine_of_decode_error hw hd] at h
      cases h
  | @decoded first rest noted hw hd =>
      rw [Reading.ofLine_of_decoded hw hd] at h
      cases hr : Reading.ofStatement noted.value with
      | error e =>
          rw [hr] at h
          cases h
      | ok reading =>
          rw [hr] at h
          replace h := (Yield.ofReading_warn ..).symm.trans h
          obtain ⟨⟨z, last⟩, hz, hzy⟩ := except_map_eq_ok h
          obtain ⟨rfl, rfl⟩ := Prod.mk.inj hzy
          have hend := ending_execute_of_ok
            (assembly.extend ⟨[], noted.warning.toList⟩ assembly.loops) hr hz
          rw [ending_compileLine_of_decoded hw hd, hend, extend_extend]

/-- A line that has no yield leaves nothing but warnings. -/
theorem ending_compileLine_of_error {error : CompileError}
    (h : Yield.ofLine assembly.clock assembly.loops line source
      = .error error) :
    ∃ warnings, (assembly.compileLine line source).ending
      = (assembly.extend ⟨[], warnings⟩ assembly.loops, some error) := by
  rw [Yield.ofLine] at h
  cases Reading.progress line source with
  | malformed hw =>
      rw [Reading.ofLine_of_read_error hw] at h
      rw [← Except.error.inj h, compileLine, hw]
      exact ⟨[], rfl⟩
  | blank hw =>
      rw [Reading.ofLine_of_no_words hw] at h
      cases h
  | @undecoded first rest e hw hd =>
      rw [Reading.ofLine_of_decode_error hw hd] at h
      rw [← Except.error.inj h, compileLine, hw]
      show ∃ warnings, (assembly.take
        (Statement.decode line (first :: rest)) _).ending = _
      rw [hd]
      exact ⟨[], rfl⟩
  | @decoded first rest noted hw hd =>
      rw [ending_compileLine_of_decoded hw hd]
      rw [Reading.ofLine_of_decoded hw hd] at h
      cases hr : Reading.ofStatement noted.value with
      | error e =>
          rw [hr] at h
          rw [← Except.error.inj h, ending_execute_of_reading_error hr]
          exact ⟨_, rfl⟩
      | ok reading =>
          rw [hr] at h
          replace h := (Yield.ofReading_warn ..).symm.trans h
          cases hz : Yield.ofReading assembly.clock source assembly.loops
              reading with
          | ok found =>
              rw [hz] at h
              cases h
          | error e =>
              rw [hz] at h
              obtain rfl := Except.error.inj h
              obtain ⟨warnings, hend⟩ := ending_execute_of_yield_error
                (assembly.extend ⟨[], noted.warning.toList⟩ assembly.loops)
                hr hz
              rw [hend, extend_extend]
              exact ⟨_, rfl⟩

end

/-! ## Whole texts -/

/-- One more line of a run, if it succeeds. -/
theorem compileLines_cons_of_ok {assembly next : Assembly}
    {log : Array Event} {line : LineNumber} {source : String}
    {rest : List (LineNumber × String)}
    (h : (assembly.compileLine line source).ending = (next, none)) :
    assembly.compileLines log ((line, source) :: rest)
      = next.compileLines
          (log.appendList (assembly.compileLine line source).events) rest := by
  obtain ⟨ha, he⟩ := Prod.mk.inj h
  rw [compileLines]
  -- the run matches on the whole outcome of the step, its events included
  revert ha he
  cases assembly.compileLine line source with
  | mk result events error =>
      intro ha he
      obtain rfl : result = next := ha
      obtain rfl : error = none := he
      rfl

/-- One more line of a run, if it fails. -/
theorem compileLines_cons_of_error {assembly next : Assembly}
    {log : Array Event} {line : LineNumber} {source : String}
    {rest : List (LineNumber × String)} {error : CompileError}
    (h : (assembly.compileLine line source).ending = (next, some error)) :
    assembly.compileLines log ((line, source) :: rest)
      = ⟨next,
          log.appendList (assembly.compileLine line source).events,
          .error error⟩ := by
  obtain ⟨ha, he⟩ := Prod.mk.inj h
  rw [compileLines]
  -- the run matches on the whole outcome of the step, its events included
  revert ha he
  cases assembly.compileLine line source with
  | mk result events error' =>
      intro ha he
      obtain rfl : result = next := ha
      obtain rfl : error' = some error := he
      rfl

/-- A run over lines that have yields appends all of them. -/
theorem compileLines_of_ok :
    ∀ (lines : List (LineNumber × String)) (assembly : Assembly)
      (log : Array Event) (ys : List Yield) (last : LoopStack),
      Yield.ofLines assembly.clock assembly.loops lines = .ok (ys, last) →
      ∃ log', assembly.compileLines log lines
        = ⟨assembly.extend (Yield.join ys) last, log', .ok ()⟩ := by
  intro lines
  induction lines with
  | nil =>
      intro assembly log ys last h
      obtain ⟨rfl, rfl⟩ := Prod.mk.inj (Except.ok.inj h)
      exact ⟨log, rfl⟩
  | cons numbered rest ih =>
      intro assembly log ys last h
      obtain ⟨line, source⟩ := numbered
      obtain ⟨y, next, zs, hy, hz, rfl⟩ := Yield.ofLines_cons_eq_ok h
      rw [compileLines_cons_of_ok (ending_compileLine_of_ok hy)]
      obtain ⟨log', hrun⟩ := ih (assembly.extend y next)
        (log.appendList (assembly.compileLine line source).events) zs last hz
      refine ⟨log', ?_⟩
      rw [hrun, extend_extend, Yield.join_cons]

/-- A run over lines one of which has no yield ends with the error of the
    first such line. -/
theorem compileLines_of_error :
    ∀ (lines : List (LineNumber × String)) (assembly : Assembly)
      (log : Array Event) (error : CompileError),
      Yield.ofLines assembly.clock assembly.loops lines = .error error →
      ∃ next log', assembly.compileLines log lines
        = ⟨next, log', .error error⟩ := by
  intro lines
  induction lines with
  | nil => intro _ _ _ h; cases h
  | cons numbered rest ih =>
      intro assembly log error h
      obtain ⟨line, source⟩ := numbered
      rcases Yield.ofLines_cons_eq_error h with hy | ⟨y, loops, hy, hz⟩
      · obtain ⟨ws, hend⟩ := ending_compileLine_of_error hy
        exact ⟨_, _, compileLines_cons_of_error hend⟩
      · rw [compileLines_cons_of_ok (ending_compileLine_of_ok hy)]
        exact ih (assembly.extend y loops) _ error hz

/-- The program of a fresh assembly that has grown. -/
theorem program_extend_fresh (clock : Clock) (y : Yield)
    (loops : LoopStack) : ((fresh clock).extend y loops).program = y.program := by
  simp [program, fresh, extend, Yield.program]

end Assembly

section

variable {clock : Clock} {text : String}

/-- A text with a line that has no yield fails with that line's error. -/
theorem compile_of_error {error : CompileError}
    (h : Yield.ofLines clock .empty (Source.numberedLines text)
      = .error error) : compile clock text = .error error := by
  obtain ⟨next, log, hrun⟩ := Assembly.compileLines_of_error
    (Source.numberedLines text) (Assembly.fresh clock) #[] error h
  rw [compile, Assembly.compile,
    show (Assembly.fresh clock).reset = Assembly.fresh clock from rfl, hrun]
  rfl

/-- A text that leaves a loop open fails for the innermost one. -/
theorem compile_of_open {ys : List Yield} {loops : LoopStack}
    {line : LineNumber}
    (h : Yield.ofLines clock .empty (Source.numberedLines text)
      = .ok (ys, loops)) (hl : loops.innermost? = some line) :
    compile clock text = .error ⟨line, .loopLeftOpen⟩ := by
  obtain ⟨log, hrun⟩ := Assembly.compileLines_of_ok
    (Source.numberedLines text) (Assembly.fresh clock) #[] ys loops h
  rw [compile, Assembly.compile,
    show (Assembly.fresh clock).reset = Assembly.fresh clock from rfl, hrun,
    Assembly.finish]
  simp only [Assembly.extend_loops, hl]

/-- A text that leaves no loop open compiles to the yields of its lines. -/
theorem compile_of_closed {ys : List Yield} {loops : LoopStack}
    (h : Yield.ofLines clock .empty (Source.numberedLines text)
      = .ok (ys, loops)) (hl : loops.innermost? = none) :
    compile clock text = .ok (Yield.join ys).program := by
  obtain ⟨log, hrun⟩ := Assembly.compileLines_of_ok
    (Source.numberedLines text) (Assembly.fresh clock) #[] ys loops h
  rw [compile, Assembly.compile,
    show (Assembly.fresh clock).reset = Assembly.fresh clock from rfl, hrun,
    Assembly.finish]
  simp only [Assembly.extend_loops, hl, Assembly.program_extend_fresh]

/-- **What a text compiles to.**  The yields of its lines, in order, unless
    a line has none or a loop is left open. -/
theorem compile_eq (clock : Clock) (text : String) :
    compile clock text
      = match Yield.ofLines clock .empty (Source.numberedLines text) with
        | .error error => .error error
        | .ok (ys, loops) =>
            match loops.innermost? with
            | some line => .error ⟨line, .loopLeftOpen⟩
            | none => .ok (Yield.join ys).program := by
  cases h : Yield.ofLines clock .empty (Source.numberedLines text) with
  | error e => exact compile_of_error h
  | ok found =>
      obtain ⟨ys, loops⟩ := found
      cases hl : loops.innermost? with
      | some line =>
          simp only [hl]
          exact compile_of_open h hl
      | none =>
          simp only [hl]
          exact compile_of_closed h hl

/-- A text that compiles has a yield for every line, and no loop is left
    open behind them. -/
theorem compile_eq_ok {program : Program}
    (h : compile clock text = .ok program) :
    ∃ ys, Yield.ofLines clock .empty (Source.numberedLines text)
      = .ok (ys, .empty) ∧ program = (Yield.join ys).program := by
  rw [compile_eq] at h
  split at h
  · cases h
  · rename_i ys loops hy
    split at h
    · cases h
    · rename_i hl
      obtain ⟨lines⟩ := loops
      obtain rfl : lines = [] := List.head?_eq_none_iff.mp hl
      exact ⟨ys, hy, (Except.ok.inj h).symm⟩

end

end TimingScript
