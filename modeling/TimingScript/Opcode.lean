/-! # Opcodes — the twelve operations of the sequencer

    An operation has a number, which is the first byte of its
    instructions, and a mnemonic, which names it in source text.  Both
    are injective, and each lookup inverts its table. -/

namespace TimingScript

/-- The operations that the sequencer understands. -/
inductive Opcode where
  | noop
  /-- Begin an event window; the parameter is the event mode. -/
  | start
  | dataRequest
  /-- Add to the event tag. -/
  | inc
  /-- Replace the event tag. -/
  | set
  /-- Keep the bits of the event tag that the parameter selects. -/
  | and
  /-- Set the bits of the event tag that the parameter selects. -/
  | or
  /-- Open a loop; the parameter is its count. -/
  | loop
  /-- Close the innermost loop; the parameter is the distance back to
      its opening, in source lines. -/
  | doLoop
  | repeatProgram
  /-- Wait for a number of clock ticks; all ones stands for the next
      event marker. -/
  | wait
  | endProgram
deriving DecidableEq, Repr, Inhabited

namespace Opcode

/-- All operations, by ascending number. -/
def all : List Opcode :=
  [noop, start, dataRequest, inc, set, and, or, loop, doLoop,
    repeatProgram, wait, endProgram]

/-- The number of an operation, its byte in an instruction. -/
def number : Opcode → UInt8
  | noop => 0
  | start => 1
  | dataRequest => 2
  | inc => 3
  | set => 4
  | and => 5
  | or => 6
  | loop => 7
  | doLoop => 8
  | repeatProgram => 9
  | wait => 10
  | endProgram => 11

/-- The operation with a given number, if there is one. -/
def ofNumber? (byte : UInt8) : Option Opcode :=
  all.find? fun op => op.number = byte

/-- The keyword that names an operation in source text. -/
def mnemonic : Opcode → String
  | noop => "NOOP"
  | start => "START"
  | dataRequest => "DATA_REQUEST"
  | inc => "INC"
  | set => "SET"
  | and => "AND"
  | or => "OR"
  | loop => "LOOP"
  | doLoop => "DO_LOOP"
  | repeatProgram => "REPEAT"
  | wait => "WAIT"
  | endProgram => "END"

/-- The operation that a keyword names; letter case matters. -/
def ofMnemonic? (keyword : String) : Option Opcode :=
  all.find? fun op => op.mnemonic = keyword

/-- Every operation has its place in the table. -/
theorem mem_all (op : Opcode) : op ∈ all := by
  cases op <;> decide

/-- Looking up a number finds its operation. -/
theorem ofNumber?_number (op : Opcode) :
    ofNumber? op.number = some op := by
  cases op <;> decide

/-- Looking up a mnemonic finds its operation. -/
theorem ofMnemonic?_mnemonic (op : Opcode) :
    ofMnemonic? op.mnemonic = some op := by
  cases op <;> decide

end Opcode

end TimingScript
