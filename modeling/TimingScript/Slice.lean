import TimingScript.Statement

/-! # Slices — writing a bit field of the event tag

    `SLICE bitposition=P bitwidth=W event_tag=T` writes T into the W bits
    from bit P on, counted from 1.  It stands for two instructions: an
    AND that clears the field and an OR that sets it.  All arguments are
    checked before either is made. -/

namespace TimingScript

open Source (LineNumber)

/-- A bit field and the value that is written to it. -/
structure BitField where
  /-- The least significant bit of the field, counted from 1. -/
  position : Nat
  /-- The number of bits. -/
  width : Nat
  tag : Nat
deriving DecidableEq, Repr

namespace BitField

/-- The largest value that the field holds. -/
def ones (field : BitField) : Parameter :=
  Parameter.max.shiftedRight (Parameter.bits - field.width)

/-- All bits outside of the field. -/
def clearMask (field : BitField) : Parameter :=
  ~~~(field.ones.shiftedLeft (field.position - 1))

/-- The value, moved to the field.  Bits that the field has no room for
    land beyond it. -/
def setMask (field : BitField) : Parameter :=
  (Parameter.masked field.tag).shiftedLeft (field.position - 1)

/-- Whether the value is too large for the field. -/
def spills (field : BitField) : Bool :=
  field.ones < Parameter.masked field.tag

end BitField

/-- The two masks that a use of `SLICE` stands for. -/
structure Expansion where
  line : LineNumber
  clearMask : Parameter
  setMask : Parameter
deriving DecidableEq, Repr

namespace Expansion

/-- An instruction made by `SLICE`. -/
def record (line : LineNumber) (opcode : Opcode) (mask : Parameter) :
    Record :=
  { opcode, line,
    argument := none
    parameter := mask.toNat
    identifier := none
    synthetic := true }

/-- The instructions of an expansion: clear the field, then set it. -/
def records (expansion : Expansion) : List Record :=
  [record expansion.line .and expansion.clearMask,
    record expansion.line .or expansion.setMask]

end Expansion

namespace SliceCall

/-- Requires the keyword of an argument. -/
def expect (argument : SliceArgument) (word : String) :
    Except SliceFault Unit :=
  if word = argument.keyword then .ok ()
  else .error (.unexpectedKeyword argument word)

/-- The number given for an argument. -/
def value (argument : SliceArgument) (token : String) :
    Except SliceFault Nat :=
  match Text.Numeral.read? token with
  | some n => .ok n
  | none => .error (.malformedValue argument token)

/-- A number that counts bits of a parameter. -/
def bitCount (argument : SliceArgument) (token : String) :
    Except SliceFault Nat := do
  let n ← value argument token
  if 1 ≤ n ∧ n ≤ Parameter.bits then .ok n
  else .error (.outsideParameter argument n)

/-- The bit field that the words behind `SLICE` describe. -/
def field : List String → Except SliceFault BitField
  | [positionWord, position, widthWord, width, tagWord, tag] => do
      expect .bitPosition positionWord
      let position ← bitCount .bitPosition position
      expect .bitWidth widthWord
      let width ← bitCount .bitWidth width
      if Parameter.bits < position + width - 1 then
        .error (.fieldTooLong position width)
      expect .eventTag tagWord
      let tag ← value .eventTag tag
      if largestSliceTag < tag then
        .error (.tagTooLarge tag)
      return { position, width, tag }
  | words => .error (.wordCount words.length)

/-- The instructions that a use of `SLICE` stands for, with a warning if
    the value does not fit into its field. -/
def expand (call : SliceCall) : Except CompileError (Noted Expansion) :=
  match field call.words with
  | .error fault => .error ⟨call.line, .sliceRefused fault⟩
  | .ok field =>
      let warning : Option Warning :=
        if field.spills then
          some ⟨call.line, .slice, .tagSpills field.tag field.width⟩
        else none
      .ok ⟨⟨call.line, field.clearMask, field.setMask⟩, warning⟩

end SliceCall

end TimingScript
