import TimingScript.Record

/-! # Loop stacks — the loops that are open

    `LOOP` opens a loop and `DO_LOOP` closes the one opened last.  The
    stack holds the lines of the loops that are open, the innermost one
    first. -/

namespace TimingScript

open Source (LineNumber)

/-- The lines of the open loops, innermost first. -/
structure LoopStack where
  lines : List LineNumber
deriving DecidableEq, Repr

namespace LoopStack

/-- No loop is open. -/
def empty : LoopStack := ⟨[]⟩

/-- Whether no loop is open. -/
def isEmpty (loops : LoopStack) : Bool := loops.lines.isEmpty

/-- The line of the innermost open loop. -/
def innermost? (loops : LoopStack) : Option LineNumber := loops.lines.head?

/-- The open loops after a record.  Where no loop is open there is none
    to close. -/
def after (loops : LoopStack) (record : Record) : LoopStack :=
  match record.opcode with
  | .loop => ⟨record.line :: loops.lines⟩
  | .doLoop => ⟨loops.lines.tail⟩
  | _ => loops

end LoopStack

end TimingScript
