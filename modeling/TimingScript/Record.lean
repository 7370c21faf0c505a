import TimingScript.Diagnostic

/-! # Records — primitive instructions before they are encoded

    A record holds what the source says about one instruction, or what
    `SLICE` stands for.  Its parameter is still an unrestricted number. -/

namespace TimingScript

open Source (LineNumber)

/-- A primitive instruction as it is written. -/
structure Record where
  opcode : Opcode
  argument : Option String
  parameter : Int
  identifier : Option String
  line : LineNumber
  /-- Whether the instruction was made by `SLICE`. -/
  synthetic : Bool
deriving DecidableEq, Repr

namespace Record

/-- The error that a fault makes of a record. -/
def error (record : Record) (fault : Fault) : CompileError :=
  ⟨record.line, fault⟩

/-- The warning that a caution makes of a record. -/
def warning (record : Record) (caution : Caution) : Warning :=
  ⟨record.line, .operation record.opcode, caution⟩

end Record

end TimingScript
