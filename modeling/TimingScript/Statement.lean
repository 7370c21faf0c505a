import TimingScript.Record
import TimingScript.Source.Word
import TimingScript.Text.Numeral

/-! # Statements — what the words of a line say

    A line is a keyword and its operands.  Behind a mnemonic stands an
    optional argument, an optional number and an optional identifier, in
    this order; a word that begins with a digit is the number.  Behind
    `SLICE` stand six words.  Words beyond that are reported and
    ignored. -/

namespace TimingScript

open Source (LineNumber Word)

/-- A use of `SLICE`: the words behind the keyword. -/
structure SliceCall where
  words : List String
  line : LineNumber
deriving DecidableEq, Repr

/-- The meaning of a line that holds words. -/
inductive Statement where
  | primitive (record : Record)
  | slice (call : SliceCall)
deriving DecidableEq, Repr

namespace Statement

/-- The number that a word writes.  The keyword is that of the line. -/
def number (line : LineNumber) (keyword token : String) :
    Except CompileError Nat :=
  match Text.Numeral.read? token with
  | some n => .ok n
  | none => .error ⟨line, .malformedNumber keyword token⟩

/-- The warning about words that are not used, if there are any. -/
def unused (line : LineNumber) (keyword : Keyword) (words : List Word) :
    Option Warning :=
  words.head?.map fun first =>
    ⟨line, keyword, .unusedText (words.map Word.text) first.column⟩

/-- The argument and the number at the front of the operands, and the
    words that follow them.  An absent number is zero. -/
def operands (line : LineNumber) (keyword : String) :
    List Word → Except CompileError (Option String × Nat × List Word)
  | [] => .ok (none, 0, [])
  | word :: rest =>
      if word.startsWithDigit then
        (number line keyword word.text).map fun n => (none, n, rest)
      else
        match rest with
        | [] => .ok (some word.text, 0, [])
        | value :: others =>
            if value.startsWithDigit then
              (number line keyword value.text).map fun n =>
                (some word.text, n, others)
            else .ok (some word.text, 0, value :: others)

/-- The statement of a line that begins with a mnemonic. -/
def decodePrimitive (line : LineNumber) (opcode : Opcode)
    (words : List Word) : Except CompileError (Noted Statement) :=
  match operands line opcode.mnemonic words with
  | .error e => .error e
  | .ok (argument, parameter, rest) =>
      let record : Record :=
        { opcode, argument, parameter, line,
          identifier := rest.head?.map Word.text
          synthetic := false }
      .ok ⟨.primitive record, unused line (.operation opcode) rest.tail⟩

/-- The statement of a line that begins with `SLICE`. -/
def decodeSlice (line : LineNumber) (words : List Word) :
    Except CompileError (Noted Statement) :=
  if words.length < sliceWords then
    .error ⟨line, .sliceRefused (.missingWords words.length)⟩
  else
    let call : SliceCall := ⟨(words.take sliceWords).map Word.text, line⟩
    .ok ⟨.slice call, unused line .slice (words.drop sliceWords)⟩

/-- The statement that the words of a line make. -/
def decode (line : LineNumber) :
    List Word → Except CompileError (Noted Statement)
  | [] => .error ⟨line, .missingInstruction⟩
  | first :: rest =>
      match Keyword.ofWord? first.text with
      | none => .error ⟨line, .unknownInstruction first.text⟩
      | some .slice => decodeSlice line rest
      | some (.operation opcode) => decodePrimitive line opcode rest

end Statement

end TimingScript
