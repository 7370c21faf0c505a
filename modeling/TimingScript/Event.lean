import TimingScript.Image
import TimingScript.Slice

/-! # Events — the log of a compilation

    Events are reported in the order in which things happen.  A warning
    is logged when it is recorded, an instruction just before it is
    appended. -/

namespace TimingScript

open Source (LineNumber)

/-- How much an event matters. -/
inductive Level where
  | warn
  | info
  | debug
deriving DecidableEq, Repr

/-- What is logged. -/
inductive Event where
  | warned (warning : Warning)
  | expanded (expansion : Expansion)
  /-- An instruction is about to be appended at a byte offset. -/
  | emitting (line : LineNumber) (instruction : Instruction) (offset : Nat)
  | compilationFailed (error : CompileError)
  | readingSettings (path : String)
  | clockChosen (clock : Clock)
  | compiled (instructions bytes warnings : Nat)
  | wrote (bytes : Nat) (path : String)
deriving DecidableEq

namespace Event

/-- Warnings stand out, and so does a finished compilation. -/
def level : Event → Level
  | warned _ => .warn
  | compiled _ _ _ => .info
  | _ => .debug

/-- The wording of an event. -/
def message : Event → String
  | warned warning => warning.text
  | expanded ⟨line, clearMask, setMask⟩ =>
      let clear := Text.markedHex clearMask.toNat
      let set := Text.markedHex setMask.toNat
      s!"line {line}: SLICE expands to AND {clear}, OR {set}"
  | emitting line instruction offset =>
      s!"line {line}: emitting {instruction.text} at offset {offset}"
  | compilationFailed error => s!"compilation failed: {error.text}"
  | readingSettings path => s!"reading configuration from {path}"
  | clockChosen clock => s!"using a clock frequency of {clock.frequency} Hz"
  | compiled instructions bytes warnings =>
      s!"compiled {instructions} instructions ({bytes} bytes) with {warnings} warnings"
  | wrote bytes path => s!"wrote {bytes} bytes to {path}"

end Event

/-- The event of a warning, if there is one. -/
def Noted.events {α : Type} (noted : Noted α) : List Event :=
  noted.warning.toList.map .warned

end TimingScript
