import TimingScript.Proofs.Attribution
import TimingScript.Proofs.Rollover
import TimingScript.Proofs.SliceLine

/-! # Chronicles — the log of a compilation tells what its result tells

    The events of a line come from several stages, but always in the same
    order: the warnings about the line, its expansion if it uses `SLICE`,
    and its instructions with the offsets at which they are appended.  An
    error can break this off, but not behind an expansion, since the two
    records of `SLICE` neither warn nor fail.

    `LineLog` is the grammar of all this, with what the line yields beside
    what it logs, and a `Chronicle` is made of the logs of lines that follow
    each other.  A run over lines keeps a chronicle of what it collects, also
    where it stops (`Chronicle.compileLines`), and what is said about the log
    of a compilation is read off there.  The order of the lines is that of
    their numbers only if these do not begin anew (`Chronicle.inOrder`). -/

namespace TimingScript

open Source (LineNumber Word)

/-! ## What a log reports -/

/-- An instruction that is about to be appended, and the number of bytes in
    front of it. -/
structure Emission where
  line : LineNumber
  instruction : Instruction
  offset : Nat

/-- A row of a listing, if it is the k-th one, as it was emitted. -/
def ListingRow.emission (k : Nat) (row : ListingRow) : Emission :=
  ⟨row.line, row.instruction, Instruction.size * k⟩

namespace Event

/-- The line that is reported on the way through a text.  A failure is
    reported when that has ended, and may name an earlier line. -/
def line? : Event → Option LineNumber
  | warned warning => some warning.line
  | expanded expansion => some expansion.line
  | emitting line _ _ => some line
  | _ => none

/-- What is emitted, if the event says so. -/
def emission? : Event → Option Emission
  | emitting line instruction offset => some ⟨line, instruction, offset⟩
  | _ => none

/-- Behind every expansion stand at once its two instructions, on its line,
    the one behind the other. -/
def Paired (log : List Event) : Prop :=
  ∀ front expansion back, log = front ++ expanded expansion :: back →
    ∃ offset rest, back
      = emitting expansion.line ⟨.and, expansion.clearMask⟩ offset
        :: emitting expansion.line ⟨.or, expansion.setMask⟩
            (offset + Instruction.size)
        :: rest

/-- Lines are reported in order. -/
def InOrder (log : List Event) : Prop :=
  (log.filterMap line?).Pairwise (· ≤ ·)

end Event

/-- The warnings in the log are those of the program, word for word, what is
    emitted are the rows of its listing, each in order, and nothing fails. -/
structure Program.LoggedIn (log : List Event) (program : Program) : Prop where
  warned : (log.filter fun event => event.level = .warn)
    = program.warnings.toList.map .warned
  worded : (log.filter fun event => event.level = .warn).map Event.message
    = program.warnings.toList.map Warning.text
  emitted : log.filterMap Event.emission?
    = program.listing.toList.mapIdx ListingRow.emission
  unfailed : ∀ error, .compilationFailed error ∉ log

/-- The error is the only failure in the log, and the last event there. -/
structure CompileError.LoggedIn (log : List Event) (error : CompileError) :
    Prop where
  last : ∃ front, log = front ++ [.compilationFailed error] ∧
    ∀ other, .compilationFailed other ∉ front
  worded : log.getLast?.map Event.message
    = some ("compilation failed: " ++ error.text)

/-- What comes of a compilation is in its log. -/
def LoggedIn (log : List Event) : Except CompileError Program → Prop
  | .ok program => program.LoggedIn log
  | .error error => error.LoggedIn log

/-- The log tells the same story as the result: instructions are emitted one
    behind the other from the first byte on, expansions are followed by their
    instructions, and the result is there with its wording. -/
structure Recounts (log : List Event)
    (result : Except CompileError Program) : Prop where
  offsets : ∀ k emission, (log.filterMap Event.emission?)[k]? = some emission →
    emission.offset = 8 * k
  paired : Event.Paired log
  result : LoggedIn log result

namespace Event

/-- Where nothing is expanded nothing has to follow. -/
theorem paired_of_forall_not_mem {log : List Event}
    (h : ∀ expansion, expanded expansion ∉ log) : Paired log := by
  intro front expansion back hlog
  refine absurd ?_ (h expansion)
  rw [hlog]
  exact List.mem_append_right front List.mem_cons_self

/-- Behind a single event that is no expansion nothing has to follow. -/
theorem paired_singleton {event : Event}
    (h : ∀ expansion, event ≠ expanded expansion) : Paired [event] := by
  refine paired_of_forall_not_mem ?_
  intro expansion hmem
  exact h expansion (List.mem_singleton.mp hmem).symm

/-- What follows an expansion is not torn apart by putting logs behind each
    other. -/
theorem Paired.append {u v : List Event} (hu : Paired u) (hv : Paired v) :
    Paired (u ++ v) := by
  intro front expansion back hlog
  rcases List.append_eq_append_iff.mp hlog with ⟨t, -, ht⟩ | ⟨t, htu, ht⟩
  · exact hv t expansion back ht
  · rcases List.cons_eq_append_iff.mp ht with ⟨rfl, hback⟩ | ⟨t', rfl, rfl⟩
    · exact hv [] expansion back hback
    · -- the expansion lies in the first log, and with it what follows
      obtain ⟨offset, rest, rfl⟩ := hu front expansion t' htu
      exact ⟨offset, rest ++ v, rfl⟩

end Event

/-! ## The log of a line -/

/-- What a line yields and what it logs meanwhile, if it is reached with
    `offset` bytes in front of it: some warnings, and then nothing, an
    instruction or an expansion with its two instructions. -/
inductive LineLog (line : LineNumber) (offset : Nat) :
    Yield → List Event → Prop where
  | nothing : LineLog line offset .empty []
  | warned {warning : Warning} {y : Yield} {events : List Event} :
      warning.line = line → LineLog line offset y events →
      LineLog line offset ⟨y.rows, warning :: y.warnings⟩
        (.warned warning :: events)
  | emitted {row : ListingRow} : row.line = line →
      LineLog line offset ⟨[row], []⟩
        [.emitting row.line row.instruction offset]
  | expanded {expansion : Expansion} {source : String} :
      expansion.line = line →
      LineLog line offset ⟨expansion.rows source, []⟩
        [.expanded expansion,
          .emitting expansion.line ⟨.and, expansion.clearMask⟩ offset,
          .emitting expansion.line ⟨.or, expansion.setMask⟩
            (offset + Instruction.size)]

namespace LineLog

variable {line : LineNumber} {offset : Nat} {y : Yield} {events : List Event}

/-- All events of a line report that line. -/
theorem line?_eq (h : LineLog line offset y events) :
    ∀ event ∈ events, event.line? = some line := by
  induction h with
  | nothing => exact List.forall_mem_nil _
  | warned hl _ ih =>
      intro event hevent
      rcases List.mem_cons.mp hevent with rfl | hevent
      · exact congrArg some hl
      · exact ih event hevent
  | emitted hl =>
      intro event hevent
      rw [List.mem_singleton.mp hevent]
      exact congrArg some hl
  | expanded hl =>
      intro event hevent
      simp only [List.mem_cons, List.not_mem_nil, or_false] at hevent
      rcases hevent with rfl | rfl | rfl
      all_goals exact congrArg some hl

/-- A line reports no other line. -/
theorem eq_of_mem_filterMap_line? (h : LineLog line offset y events)
    {reported : LineNumber} (hmem : reported ∈ events.filterMap Event.line?) :
    reported = line := by
  obtain ⟨event, hevent, hreported⟩ := List.mem_filterMap.mp hmem
  rw [h.line?_eq event hevent] at hreported
  exact (Option.some.inj hreported).symm

/-- A line logs the warnings that it yields. -/
theorem filter_level (h : LineLog line offset y events) :
    (events.filter fun event => event.level = .warn)
      = y.warnings.map .warned := by
  induction h with
  | nothing => rfl
  | @warned warning _ _ _ _ ih =>
      exact congrArg (Event.warned warning :: ·) ih
  | emitted _ => rfl
  | expanded _ => rfl

/-- A line emits the instructions of the rows that it yields. -/
theorem filterMap_emission? {n : Nat}
    (h : LineLog line (Instruction.size * n) y events) :
    events.filterMap Event.emission?
      = y.rows.mapIdx fun k => ListingRow.emission (k + n) := by
  induction h with
  | nothing => rfl
  | warned _ _ ih => exact ih
  | emitted _ => simp [Event.emission?, ListingRow.emission]
  | @expanded expansion source _ =>
      show [Emission.mk _ _ _, Emission.mk _ _ _]
        = [ListingRow.emission (0 + n) _, ListingRow.emission (0 + 1 + n) _]
      rw [Nat.zero_add, Nat.zero_add, Nat.add_comm 1]
      rfl

/-- A line that logs an expansion emits its instructions next. -/
theorem paired (h : LineLog line offset y events) : Event.Paired events := by
  induction h with
  | nothing =>
      exact Event.paired_of_forall_not_mem fun _ => List.not_mem_nil
  | @warned warning _ _ _ _ ih =>
      have hfirst : Event.Paired [.warned warning] :=
        Event.paired_singleton nofun
      exact hfirst.append ih
  | emitted _ => exact Event.paired_singleton nofun
  | @expanded expansion _ _ =>
      intro front other back hlog
      rcases List.cons_eq_append_iff.mp hlog with ⟨-, hback⟩ | ⟨t, -, ht⟩
      · obtain ⟨hother, rfl⟩ := List.cons.inj hback
        obtain rfl := Event.expanded.inj hother
        exact ⟨offset, [], rfl⟩
      · -- there is no second expansion behind the first one
        have hmem : Event.expanded other ∈ t ++ .expanded other :: back :=
          List.mem_append_right t List.mem_cons_self
        rw [← ht] at hmem
        simp at hmem

end LineLog

/-! ## Steps on a line -/

/-- A step on a line extends an assembly and logs what it adds, whether it
    succeeds or fails. -/
def Outcome.Logs (outcome : Outcome) (line : LineNumber)
    (before : Assembly) : Prop :=
  ∃ y loops, outcome.assembly = before.extend y loops ∧
    LineLog line before.image.size y outcome.events

namespace Assembly

/-- Nothing is added by the empty yield. -/
theorem extend_empty (assembly : Assembly) :
    assembly.extend .empty assembly.loops = assembly := by
  simp [extend, Yield.empty, Yield.instructions, Image.ofInstructions]

/-- A step that does nothing logs nothing. -/
theorem logs_done (assembly : Assembly) (line : LineNumber) :
    assembly.done.Logs line assembly :=
  ⟨.empty, assembly.loops, assembly.extend_empty.symm, .nothing⟩

/-- A step that is stopped at once logs nothing. -/
theorem logs_stop (assembly : Assembly) (line : LineNumber)
    (error : CompileError) : (assembly.stop error).Logs line assembly :=
  ⟨.empty, assembly.loops, assembly.extend_empty.symm, .nothing⟩

/-- A pure step logs its warning in front of what follows. -/
theorem logs_take {α : Type} (assembly : Assembly) {line : LineNumber}
    {result : Except CompileError (Noted α)} {next : Assembly → α → Outcome}
    (hwarned : ∀ noted, result = .ok noted →
      ∀ warning ∈ noted.warning.toList, warning.line = line)
    (hnext : ∀ noted, result = .ok noted →
      ∀ current, (next current noted.value).Logs line current) :
    (assembly.take result next).Logs line assembly := by
  cases result with
  | error error => exact assembly.logs_stop line error
  | ok noted =>
      obtain ⟨value, warning?⟩ := noted
      cases warning? with
      | none => exact hnext _ rfl assembly
      | some warning =>
          have hline : warning.line = line :=
            hwarned _ rfl warning (List.mem_singleton.mpr rfl)
          obtain ⟨y, loops, hafter, hlog⟩ :=
            hnext _ rfl (assembly.note (some warning))
          -- a note adds no bytes, so the offset is the same behind it
          refine ⟨⟨y.rows, warning :: y.warnings⟩, loops, ?_,
            .warned hline hlog⟩
          rw [note_eq, extend_extend] at hafter
          exact hafter

/-- A record that is emitted logs its warnings, and then its instruction if
    nothing is wrong with it. -/
theorem logs_emit (assembly : Assembly) (record : Record) (source : String) :
    (assembly.emit record source).Logs record.line assembly := by
  refine assembly.logs_take
    (fun _ hc => (Record.areAbout_of_check hc).line) ?_
  intro _ _ checked
  -- the loop that is opened or closed in between is not logged
  refine (checked.nest record).logs_take
    (fun _ he => (Record.areAbout_of_encode he).line) ?_
  intro noted _ encoded
  exact ⟨⟨[record.row source noted.value], []⟩, encoded.loops, rfl,
    .emitted rfl⟩

/-- A statement logs on its line. -/
theorem logs_execute {line : LineNumber} {first : String}
    {statement : Statement} (h : Statement.Decoded line first statement)
    (assembly : Assembly) (source : String) :
    (assembly.execute source statement).Logs line assembly := by
  cases h with
  | @primitive record _ hl _ _ =>
      subst hl
      exact assembly.logs_emit record source
  | @slice call _ hl =>
      subst hl
      refine assembly.logs_take
        (fun _ he => (SliceCall.areAbout_of_expand he).line) ?_
      intro noted he current
      -- the expansion is logged with both of its instructions, or not at all
      rw [emitAll_records]
      exact ⟨⟨noted.value.rows source, []⟩, current.loops, rfl,
        .expanded (SliceCall.line_of_expand he)⟩

/-- **A line logs what it yields.** -/
theorem logs_compileLine (assembly : Assembly) (line : LineNumber)
    (source : String) :
    (assembly.compileLine line source).Logs line assembly := by
  rw [compileLine]
  cases Word.read line source with
  | error error => exact assembly.logs_stop line error
  | ok words =>
      cases words with
      | nil => exact assembly.logs_done line
      | cons first rest =>
          refine assembly.logs_take
            (fun _ hd => (Statement.areAbout_of_decode hd).line) ?_
          intro noted hd current
          exact logs_execute (Statement.decode_eq_ok hd) current source

end Assembly

/-! ## The log of a run -/

/-- The logs of lines that follow each other, with the numbers of the lines
    and all that they yield. -/
inductive Chronicle : List LineNumber → Yield → List Event → Prop where
  | start : Chronicle [] .empty []
  | line {numbers : List LineNumber} {line : LineNumber} {y z : Yield}
      {log events : List Event} : Chronicle numbers y log →
      LineLog line (Instruction.size * y.rows.length) z events →
      Chronicle (numbers ++ [line]) (y.append z) (log ++ events)

namespace Chronicle

variable {numbers : List LineNumber} {y : Yield} {log : List Event}

/-- All events are on one of the lines. -/
theorem exists_line (h : Chronicle numbers y log) :
    ∀ event ∈ log, ∃ line ∈ numbers, event.line? = some line := by
  induction h with
  | start => exact List.forall_mem_nil _
  | @line numbers line _ _ _ _ _ hevents ih =>
      intro event hevent
      rcases List.mem_append.mp hevent with hevent | hevent
      · obtain ⟨before, hbefore, hline⟩ := ih event hevent
        exact ⟨before, List.mem_append_left _ hbefore, hline⟩
      · exact ⟨line, List.mem_append_right _ (List.mem_singleton_self line),
          hevents.line?_eq event hevent⟩

/-- Lines do not fail behind the back of the log. -/
theorem not_mem_failed (h : Chronicle numbers y log) (error : CompileError) :
    .compilationFailed error ∉ log := by
  intro hmem
  obtain ⟨line, -, hline⟩ := h.exists_line _ hmem
  cases hline

/-- No other lines are reported. -/
theorem mem_of_mem_filterMap_line? (h : Chronicle numbers y log)
    {reported : LineNumber} (hmem : reported ∈ log.filterMap Event.line?) :
    reported ∈ numbers := by
  obtain ⟨event, hevent, hreported⟩ := List.mem_filterMap.mp hmem
  obtain ⟨line, hline, hat⟩ := h.exists_line event hevent
  rw [Option.some.inj (hreported.symm.trans hat)]
  exact hline

/-- Lines whose numbers grow are reported in order. -/
theorem inOrder (h : Chronicle numbers y log)
    (hnumbers : numbers.Pairwise (· < ·)) : Event.InOrder log := by
  induction h with
  | start => exact .nil
  | line hlog hevents ih =>
      obtain ⟨hfront, -, hlast⟩ := List.pairwise_append.mp hnumbers
      rw [Event.InOrder, List.filterMap_append]
      refine List.pairwise_append.mpr ⟨ih hfront, ?_, ?_⟩
      · refine List.pairwise_of_forall_mem_list ?_
        intro a ha b hb
        rw [hevents.eq_of_mem_filterMap_line? ha,
          hevents.eq_of_mem_filterMap_line? hb]
      · intro a ha b hb
        rw [hevents.eq_of_mem_filterMap_line? hb]
        exact Nat.le_of_lt (hlast a (hlog.mem_of_mem_filterMap_line? ha) _
          (List.mem_singleton_self _))

/-- All warnings are logged, in order. -/
theorem filter_level (h : Chronicle numbers y log) :
    (log.filter fun event => event.level = .warn)
      = y.warnings.map .warned := by
  induction h with
  | start => rfl
  | line _ hevents ih =>
      rw [List.filter_append, ih, hevents.filter_level, Yield.append,
        List.map_append]

/-- All rows are emitted, in order and one behind the other. -/
theorem filterMap_emission? (h : Chronicle numbers y log) :
    log.filterMap Event.emission? = y.rows.mapIdx ListingRow.emission := by
  induction h with
  | start => rfl
  | line _ hevents ih =>
      rw [List.filterMap_append, ih, hevents.filterMap_emission?,
        Yield.append, List.mapIdx_append]

/-- Expansions are followed by their instructions. -/
theorem paired (h : Chronicle numbers y log) : Event.Paired log := by
  induction h with
  | start =>
      exact Event.paired_of_forall_not_mem fun _ => List.not_mem_nil
  | line _ hevents ih => exact ih.append hevents.paired

/-- Instructions are emitted eight bytes from each other. -/
theorem offset_eq (h : Chronicle numbers y log) (k : Nat) (emission : Emission)
    (hk : (log.filterMap Event.emission?)[k]? = some emission) :
    emission.offset = 8 * k := by
  rw [h.filterMap_emission?, List.getElem?_mapIdx] at hk
  obtain ⟨row, -, rfl⟩ := Option.map_eq_some_iff.mp hk
  rfl

/-- The chronicle of a program recounts it. -/
theorem recounts_program (h : Chronicle numbers y log) {program : Program}
    (hwarnings : program.warnings.toList = y.warnings)
    (hlisting : program.listing.toList = y.rows) :
    Recounts log (.ok program) where
  offsets := h.offset_eq
  paired := h.paired
  result := by
    have hwarned := h.filter_level
    have hemitted := h.filterMap_emission?
    rw [← hwarnings] at hwarned
    rw [← hlisting] at hemitted
    refine ⟨hwarned, ?_, hemitted, h.not_mem_failed⟩
    rw [hwarned, List.map_map]
    rfl

/-- A chronicle with an error behind it recounts the error. -/
theorem recounts_error (h : Chronicle numbers y log) (error : CompileError) :
    Recounts (log ++ [.compilationFailed error]) (.error error) where
  offsets := by
    rw [List.filterMap_append]
    show ∀ k emission, (_ ++ [])[k]? = _ → _
    rw [List.append_nil]
    exact h.offset_eq
  paired := by
    have hlast : Event.Paired [.compilationFailed error] :=
      Event.paired_singleton nofun
    exact h.paired.append hlast
  result := by
    refine ⟨⟨log, rfl, h.not_mem_failed⟩, ?_⟩
    rw [List.getLast?_concat]
    rfl

end Chronicle

namespace Assembly

/-- All that an assembly holds. -/
def collected (assembly : Assembly) : Yield :=
  ⟨assembly.listing.toList, assembly.warnings.toList⟩

/-- What is appended is collected. -/
theorem collected_extend (assembly : Assembly) (y : Yield)
    (loops : LoopStack) :
    (assembly.extend y loops).collected = assembly.collected.append y := by
  simp [extend, collected, Yield.append]

/-- An image has eight bytes for each row of the listing. -/
theorem Lockstep.size_image_eq {assembly : Assembly} (h : assembly.Lockstep) :
    assembly.image.size
      = Instruction.size * assembly.collected.rows.length := by
  have hlength := congrArg List.length h.listing
  rw [List.length_map] at hlength
  rw [Image.size_of_toList_eq h.image, ← hlength]
  rfl

end Assembly

namespace Chronicle

open Assembly (Lockstep)

/-- One line more, whether it succeeds or fails. -/
theorem compileLine {assembly : Assembly} {numbers : List LineNumber}
    {log : Array Event}
    (h : Chronicle numbers assembly.collected log.toList)
    (hstep : assembly.Lockstep) (line : LineNumber) (source : String) :
    Chronicle (numbers ++ [line])
      (assembly.compileLine line source).assembly.collected
      (log.appendList (assembly.compileLine line source).events).toList := by
  obtain ⟨y, loops, hafter, hlog⟩ := assembly.logs_compileLine line source
  rw [hstep.size_image_eq] at hlog
  rw [hafter, Assembly.collected_extend]
  show Chronicle _ _
    (log ++ (assembly.compileLine line source).events).toList
  rw [Array.toList_appendList]
  exact h.line hlog

/-- A run over lines keeps a chronicle of those that it comes to. -/
theorem compileLines (lines : List (LineNumber × String)) :
    ∀ {assembly : Assembly} {numbers : List LineNumber} {log : Array Event},
      Chronicle numbers assembly.collected log.toList → assembly.Lockstep →
      ∃ final, final <+: lines.map Prod.fst ∧
        Chronicle (numbers ++ final)
          (assembly.compileLines log lines).assembly.collected
          (assembly.compileLines log lines).log.toList := by
  induction lines with
  | nil =>
      intro assembly numbers log h _
      rw [← List.append_nil numbers] at h
      exact ⟨[], List.nil_prefix, h⟩
  | cons numbered rest ih =>
      intro assembly numbers log h hstep
      obtain ⟨line, source⟩ := numbered
      have hline := h.compileLine hstep line source
      -- the line is logged either way; an error only ends the run
      cases he : (assembly.compileLine line source).error with
      | none =>
          obtain ⟨final, hfinal, hlog⟩ :=
            ih hline (hstep.compileLine line source)
          rw [Assembly.compileLines_cons_of_ok (Prod.ext rfl he)]
          refine ⟨line :: final, List.cons_prefix_cons.mpr ⟨rfl, hfinal⟩, ?_⟩
          rw [List.append_assoc] at hlog
          exact hlog
      | some error =>
          rw [Assembly.compileLines_cons_of_error (Prod.ext rfl he)]
          exact ⟨[line], List.cons_prefix_cons.mpr ⟨rfl, List.nil_prefix⟩,
            hline⟩

end Chronicle

/-! ## Compilations -/

namespace Assembly

/-- The last check logs nothing. -/
theorem log_finish (report : Report Unit) :
    (finish report).log = report.log := by
  rw [finish]
  split <;> rfl

/-- The lines of a text, compiled from the first one on, keep a
    chronicle. -/
theorem exists_chronicle (clock : Clock) (text : String) :
    ∃ numbers, numbers <+: (Source.numberedLines text).map Prod.fst ∧
      Chronicle numbers
        ((fresh clock).compileLines #[]
          (Source.numberedLines text)).assembly.collected
        ((fresh clock).compileLines #[]
          (Source.numberedLines text)).log.toList :=
  Chronicle.compileLines _ .start (.fresh clock)

/-- **The log tells what the result tells.**  Whatever an assembly held
    before, and whether it compiles the text or fails, the log of the
    compilation recounts its result.  It reports lines in order, if there
    are enough numbers for them. -/
theorem compile_recounted (assembly : Assembly) (text : String) :
    Recounts (assembly.compile text).log.toList
        (assembly.compile text).result ∧
      ((Source.lines text).length < Source.lineLimit →
        Event.InOrder (assembly.compile text).log.toList) := by
  obtain ⟨numbers, hnumbers, h⟩ := exists_chronicle assembly.clock text
  have hinOrder : (Source.lines text).length < Source.lineLimit →
      numbers.Pairwise (· < ·) := fun hsize =>
    (List.pairwise_map.mpr (Source.pairwise_numberedLines hsize)).sublist
      hnumbers.sublist
  rw [← assembly_finish, ← log_finish] at h
  rw [compile, reset]
  generalize finish ((fresh assembly.clock).compileLines #[]
    (Source.numberedLines text)) = report at h ⊢
  split
  · exact ⟨h.recounts_program rfl rfl, fun hsize => h.inOrder (hinOrder hsize)⟩
  · rename_i error _
    rw [Array.toList_push]
    refine ⟨h.recounts_error error, fun hsize => ?_⟩
    -- the failure is reported of no line
    have hlast : [Event.compilationFailed error].filterMap Event.line? = [] :=
      rfl
    rw [Event.InOrder, List.filterMap_append, hlast, List.append_nil]
    exact h.inOrder (hinOrder hsize)

/-- A tag that spills is logged before the expansion, and an error behind
    everything that went well. -/
theorem compile_recounted_up_to_end :
    ∃ report : Report Program, report = (fresh ⟨40000000⟩).compile
        "LOOP 2\nSLICE bitposition 2 bitwidth 1 event_tag 3\nEND" ∧
      report.log.toList.map Event.message
        = ["line 1: emitting LOOP 2 at offset 0",
          "line 2: SLICE: warning: event_tag 3 does not fit into 1 bits; the excess bits spill out of the field",
          "line 2: SLICE expands to AND 0xfffffffffffd, OR 0x6",
          "line 2: emitting AND 281474976710653 at offset 8",
          "line 2: emitting OR 6 at offset 16",
          "compilation failed: line 3: END: error: fewer DO_LOOP than LOOP"] ∧
      Recounts report.log.toList report.result ∧
      Event.InOrder report.log.toList := by
  obtain ⟨hrecounts, hinOrder⟩ := compile_recounted (fresh ⟨40000000⟩)
    "LOOP 2\nSLICE bitposition 2 bitwidth 1 event_tag 3\nEND"
  exact ⟨_, rfl, by decide +kernel, hrecounts, hinOrder (by decide +kernel)⟩

/-- At the rollover the second line is reported as line 0. -/
theorem not_forall_log_inOrder :
    ¬ ∀ (assembly : Assembly) (text : String),
      Event.InOrder (assembly.compile text).log.toList := by
  intro hclaim
  have hinOrder := hclaim (fresh ⟨40000000⟩) (Source.atRollover "NOOP\nNOOP")
  have hlines : ((fresh ⟨40000000⟩).compile (Source.atRollover "NOOP\nNOOP")
      ).log.toList.filterMap Event.line? = [4294967295, 0] := by
    rw [compile, compileLines_atRollover]
    decide +kernel
  rw [Event.InOrder, hlines] at hinOrder
  exact absurd hinOrder (by decide)

end Assembly

end TimingScript
