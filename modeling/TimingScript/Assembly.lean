import TimingScript.Event
import TimingScript.Program
import TimingScript.Record.Encoding
import TimingScript.Record.Rules

/-! # Assemblies — compilations in progress

    An assembly takes a source text line by line and collects image,
    instructions, warnings and listing; between lines it also remembers
    which loops are open.  A line that fails leaves behind nothing but
    its warnings.  One assembly can compile several texts in turn, each
    as if it were the first. -/

namespace TimingScript

open Source (LineNumber Word)

/-- The state of a compilation. -/
structure Assembly where
  clock : Clock
  loops : LoopStack
  image : Image
  instructions : Array Instruction
  warnings : Array Warning
  listing : Array ListingRow
deriving DecidableEq

/-- How a step of a compilation ends: the assembly after it, what was
    logged, and the error that stopped it, if any. -/
structure Outcome where
  assembly : Assembly
  events : List Event
  error : Option CompileError

/-- Continues where a step ended, unless an error stopped it. -/
def Outcome.andThen (outcome : Outcome) (next : Assembly → Outcome) :
    Outcome :=
  match outcome.error with
  | some _ => outcome
  | none =>
      let last := next outcome.assembly
      { last with events := outcome.events ++ last.events }

namespace Assembly

/-- An assembly that has not seen a line. -/
def fresh (clock : Clock) : Assembly :=
  { clock, loops := .empty, image := #[], instructions := #[],
    warnings := #[], listing := #[] }

/-- Forgets everything but the clock. -/
def reset (assembly : Assembly) : Assembly := fresh assembly.clock

/-! ## Steps -/

/-- A step that changes nothing. -/
def done (assembly : Assembly) : Outcome := ⟨assembly, [], none⟩

/-- A step that an error stopped before it changed anything. -/
def stop (assembly : Assembly) (error : CompileError) : Outcome :=
  ⟨assembly, [], some error⟩

/-- Logs an event in front of those of a step. -/
def logged (event : Event) (outcome : Outcome) : Outcome :=
  { outcome with events := event :: outcome.events }

/-- Records a warning, if there is one. -/
def note (assembly : Assembly) : Option Warning → Assembly
  | none => assembly
  | some warning =>
      { assembly with warnings := assembly.warnings.push warning }

/-- Goes on with the result of a pure step, or stops at its error.  A pure
    step that fails has not warned yet, for it looks for everything that is
    wrong before it warns, and it warns at most once. -/
def take {α : Type} (assembly : Assembly)
    (result : Except CompileError (Noted α))
    (next : Assembly → α → Outcome) : Outcome :=
  match result with
  | .error error => assembly.stop error
  | .ok noted =>
      let outcome := next (assembly.note noted.warning) noted.value
      { outcome with events := noted.events ++ outcome.events }

/-- Opens or closes the loop that a record opens or closes. -/
def nest (assembly : Assembly) (record : Record) : Assembly :=
  { assembly with loops := assembly.loops.after record }

/-- Appends an instruction made of a record on a line of source. -/
def append (assembly : Assembly) (record : Record) (source : String)
    (instruction : Instruction) : Assembly :=
  let row : ListingRow :=
    { line := record.line, source := Text.trim source,
      synthetic := record.synthetic, instruction }
  { assembly with
    image := assembly.image.appendList instruction.bytes
    instructions := assembly.instructions.push instruction
    listing := assembly.listing.push row }

/-- Checks a record, encodes it and appends the instruction.  Loops are
    opened and closed by the encoding, also by one that fails. -/
def emit (assembly : Assembly) (record : Record) (source : String) :
    Outcome :=
  assembly.take record.check fun assembly _ =>
    (assembly.nest record).take
        (record.encode assembly.loops assembly.clock)
      fun assembly parameter =>
        let instruction : Instruction := ⟨record.opcode, parameter⟩
        let event : Event :=
          .emitting record.line instruction assembly.image.size
        logged event (assembly.append record source instruction).done

/-- Emits records in order, up to the first that fails. -/
def emitAll (assembly : Assembly) (source : String) :
    List Record → Outcome
  | [] => assembly.done
  | record :: rest =>
      (assembly.emit record source).andThen (·.emitAll source rest)

/-- Carries out a statement that was read from a line of source. -/
def execute (assembly : Assembly) (source : String) :
    Statement → Outcome
  | .primitive record => assembly.emit record source
  | .slice call =>
      assembly.take call.expand fun assembly expansion =>
        logged (.expanded expansion)
          (assembly.emitAll source expansion.records)

/-- Compiles one line.  A line without words does nothing. -/
def compileLine (assembly : Assembly) (line : LineNumber)
    (source : String) : Outcome :=
  match Word.read line source with
  | .error error => assembly.stop error
  | .ok [] => assembly.done
  | .ok words =>
      assembly.take (Statement.decode line words)
        fun assembly statement => assembly.execute source statement

/-! ## Whole texts -/

/-- How a compilation ends: the assembly after it, everything that was
    logged, and its result. -/
structure Report (α : Type) where
  assembly : Assembly
  log : Array Event
  result : Except CompileError α

/-- Compiles lines in order, up to the first that fails, and appends
    what is logged to `log`. -/
def compileLines (assembly : Assembly) (log : Array Event) :
    List (LineNumber × String) → Report Unit
  | [] => ⟨assembly, log, .ok ()⟩
  | (line, source) :: rest =>
      match assembly.compileLine line source with
      | ⟨assembly, events, none⟩ =>
          compileLines assembly (log.appendList events) rest
      | ⟨assembly, events, some error⟩ =>
          ⟨assembly, log.appendList events, .error error⟩

/-- Requires that no loop is open after the last line. -/
def finish (report : Report Unit) : Report Unit :=
  match report.result, report.assembly.loops.innermost? with
  | .ok (), some line => { report with result := .error ⟨line, .loopLeftOpen⟩ }
  | _, _ => report

/-- The program that was collected. -/
def program (assembly : Assembly) : Program :=
  { image := assembly.image
    instructions := assembly.instructions
    warnings := assembly.warnings
    listing := assembly.listing }

/-- The assembly after its program was taken out. -/
def emptied (assembly : Assembly) : Assembly :=
  { assembly with
    image := #[], instructions := #[], warnings := #[], listing := #[] }

/-- Compiles a whole text.  Whatever the assembly held before is
    forgotten first, and again after an error. -/
def compile (assembly : Assembly) (text : String) : Report Program :=
  let report :=
    finish (assembly.reset.compileLines #[] (Source.numberedLines text))
  match report.result with
  | .ok () =>
      ⟨report.assembly.emptied, report.log, .ok report.assembly.program⟩
  | .error error =>
      ⟨report.assembly.reset, report.log.push (.compilationFailed error),
        .error error⟩

end Assembly

/-- Compiles a source text for a sequencer with the given clock. -/
def compile (clock : Clock) (text : String) :
    Except CompileError Program :=
  ((Assembly.fresh clock).compile text).result

end TimingScript
