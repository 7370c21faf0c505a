import TimingScript.Instruction

/-! # Images — programs as bytes

    An image is the concatenation of its instructions, without header or
    framing.  It is read back word by word: an image that is not a whole
    number of words is refused before any word is looked at, otherwise
    the first bad word decides. -/

namespace TimingScript

/-- A program as it is sent to the hardware. -/
abbrev Image := Array UInt8

/-- Why an image holds no program. -/
inductive ImageFault where
  /-- The last `count` bytes, from `offset` on, are less than a word. -/
  | trailing (offset count : Nat)
  /-- The word at `offset` is no instruction. -/
  | badWord (offset : Nat) (fault : WordFault)
deriving DecidableEq, Repr

/-- The wording of an image's fault. -/
def ImageFault.message : ImageFault → String
  | .trailing offset count =>
      s!"{count} trailing bytes at offset {Text.markedHex offset} do not form a whole instruction"
  | .badWord offset fault =>
      s!"bad instruction at offset {Text.markedHex offset}: {fault.message}"

namespace Image

/-- The bytes of a list of instructions. -/
def ofInstructions (instructions : List Instruction) : List UInt8 :=
  instructions.flatMap Instruction.bytes

/-- Reads the whole words of `bytes`, the first of which stands at
    `offset` in the image. -/
def decodeWords (offset : Nat) :
    List UInt8 → Except ImageFault (List Instruction)
  | opcode :: reserved :: p₅ :: p₄ :: p₃ :: p₂ :: p₁ :: p₀ :: rest =>
      match Instruction.decode opcode reserved [p₅, p₄, p₃, p₂, p₁, p₀] with
      | .error fault => .error (.badWord offset fault)
      | .ok instruction =>
          match decodeWords (offset + Instruction.size) rest with
          | .error fault => .error fault
          | .ok instructions => .ok (instruction :: instructions)
  | _ => .ok []

/-- The instructions of an image. -/
def disassemble (image : Image) : Except ImageFault (List Instruction) :=
  let count := image.size % Instruction.size
  if count = 0 then decodeWords 0 image.toList
  else .error (.trailing (image.size - count) count)

/-- The rows of a dump: each instruction behind the offset of its first
    byte. -/
def rows (instructions : List Instruction) : List String :=
  instructions.zipIdx.map fun (instruction, k) =>
    Text.paddedHex 8 (Instruction.size * k) ++ instruction.row

/-- An image as a table of offsets, bytes and source forms. -/
def dump (image : Image) : Except ImageFault (List String) :=
  image.disassemble.map rows

end Image

end TimingScript
