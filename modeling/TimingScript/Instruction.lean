import TimingScript.Opcode
import TimingScript.Parameter

/-! # Instructions — an operation and its parameter in eight bytes

    Byte 0 of an instruction is the number of its operation, byte 1 is
    reserved and zero, and bytes 2 to 7 hold the parameter, most
    significant first.  Reading a word looks at the operation before the
    reserved byte, so a word with both faults is refused for its
    operation. -/

namespace TimingScript

/-- An operation together with its parameter. -/
structure Instruction where
  opcode : Opcode
  parameter : Parameter
deriving DecidableEq, Repr

/-- Why eight bytes are no instruction. -/
inductive WordFault where
  /-- The first byte is not the number of an operation. -/
  | unknownOpcode (byte : UInt8)
  /-- The second byte is not zero. -/
  | reservedInUse (byte : UInt8)
deriving DecidableEq, Repr

/-- The wording of a word's fault. -/
def WordFault.message : WordFault → String
  | .unknownOpcode byte => s!"0x{Text.hexByte byte} is not a valid opcode"
  | .reservedInUse byte =>
      s!"reserved byte should be zero but is 0x{Text.hexByte byte}"

namespace Instruction

/-- The number of bytes of an instruction. -/
def size : Nat := 8

/-- The eight bytes of an instruction. -/
def bytes (instruction : Instruction) : List UInt8 :=
  instruction.opcode.number :: 0 :: instruction.parameter.bytes

/-- Reads an instruction from its first byte, its reserved byte and the
    bytes of its parameter. -/
def decode (opcode reserved : UInt8) (parameter : List UInt8) :
    Except WordFault Instruction :=
  match Opcode.ofNumber? opcode with
  | none => .error (.unknownOpcode opcode)
  | some op =>
      if reserved = 0 then .ok ⟨op, Parameter.ofBytes parameter⟩
      else .error (.reservedInUse reserved)

/-- An instruction in source form: mnemonic, blank, parameter. -/
def text (instruction : Instruction) : String :=
  instruction.opcode.mnemonic ++ " " ++ instruction.parameter.text

/-- An instruction as the end of a table row: a bar, its bytes, a bar
    and its source form. -/
def row (instruction : Instruction) : String :=
  "|" ++ String.join (instruction.bytes.map fun b => " " ++ Text.hexByte b)
    ++ " | " ++ instruction.text

end Instruction

end TimingScript
