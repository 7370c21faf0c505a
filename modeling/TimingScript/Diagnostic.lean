import TimingScript.Clock
import TimingScript.Keyword
import TimingScript.Parameter
import TimingScript.Source.Lines

/-! # Diagnostics — what can be wrong with a source text

    An error stops the compilation; a warning is collected and the line
    is used all the same.  Both carry the line they are about and a
    cause, and both are worded in one place.  A step of the compiler
    either fails, without a warning, or succeeds with at most one. -/

namespace TimingScript

open Source (LineNumber)

/-! ## Errors -/

/-- The three arguments of `SLICE`. -/
inductive SliceArgument where
  | bitPosition
  | bitWidth
  | eventTag
deriving DecidableEq, Repr

/-- The keyword in front of an argument's value. -/
def SliceArgument.keyword : SliceArgument → String
  | bitPosition => "bitposition"
  | bitWidth => "bitwidth"
  | eventTag => "event_tag"

/-- Why the words behind `SLICE` describe no bit field. -/
inductive SliceFault where
  /-- A line ends before all words were given. -/
  | missingWords (given : Nat)
  /-- There are not exactly as many words as needed. -/
  | wordCount (given : Nat)
  | unexpectedKeyword (expected : SliceArgument) (found : String)
  | malformedValue (argument : SliceArgument) (token : String)
  /-- A position or a width is no number of a bit. -/
  | outsideParameter (argument : SliceArgument) (value : Nat)
  /-- The field ends beyond the last bit. -/
  | fieldTooLong (position width : Nat)
  | tagTooLarge (tag : Nat)
deriving DecidableEq, Repr

/-- The number of words behind `SLICE`. -/
def sliceWords : Nat := 6

/-- The largest event tag that `SLICE` writes. -/
def largestSliceTag : Nat := 1536

/-- The wording of a fault in the arguments of `SLICE`. -/
def SliceFault.message : SliceFault → String
  | missingWords given =>
      s!"SLICE needs {sliceWords} argument words but only {given} were given"
  | wordCount given =>
      s!"SLICE needs {sliceWords} argument words but {given} were given"
  | unexpectedKeyword expected found =>
      s!"expected the argument '{expected.keyword}' but found '{found}'"
  | malformedValue argument token =>
      s!"{argument.keyword} '{token}' is not a valid number"
  | outsideParameter argument value =>
      s!"{argument.keyword} {value} is outside the range 1 to {Parameter.bits}"
  | fieldTooLong position width =>
      s!"a field of {width} bits starting at bit {position} does not fit into {Parameter.bits} bits"
  | tagTooLarge tag =>
      s!"event_tag {tag} is larger than the maximum of {largestSliceTag}"

/-- Why a source text is no program. -/
inductive Fault where
  /-- A slash that does not begin a comment. -/
  | loneSlash (column : Nat)
  /-- A character that can stand neither in a word nor between words. -/
  | strayCharacter (column : Nat) (character : Char)
  /-- There are no words to make a statement of. -/
  | missingInstruction
  | unknownInstruction (word : String)
  | argumentRefused (opcode : Opcode) (argument : String)
  | parameterMissing (opcode : Opcode)
  | identifierRefused (opcode : Opcode) (identifier : String)
  | sliceRefused (fault : SliceFault)
  /-- There is a `DO_LOOP` and no open loop. -/
  | nothingToClose
  /-- There is an `END` inside of a loop. -/
  | endInsideLoop
  /-- A loop that is still open after the last line. -/
  | loopLeftOpen
  /-- A word that begins with a digit and is no numeral. -/
  | malformedNumber (keyword token : String)
deriving DecidableEq, Repr

namespace Fault

/-- The keyword that a fault is about; empty where the line could not be
    read far enough to find one. -/
def keyword : Fault → String
  | loneSlash _ | strayCharacter _ _ | missingInstruction => ""
  | unknownInstruction word => word
  | argumentRefused opcode _ | parameterMissing opcode
  | identifierRefused opcode _ => opcode.mnemonic
  | sliceRefused _ => Keyword.slice.text
  | nothingToClose => Opcode.doLoop.mnemonic
  | endInsideLoop => Opcode.endProgram.mnemonic
  | loopLeftOpen => Opcode.loop.mnemonic
  | malformedNumber keyword _ => keyword

/-- The wording of a fault. -/
def message : Fault → String
  | loneSlash column =>
      s!"column {column}: a single '/' is not allowed here (comments begin with '//')"
  | strayCharacter column character =>
      s!"column {column}: unexpected character sequence '{character}'"
  | missingInstruction => "expected an instruction"
  | unknownInstruction word =>
      s!"'{word}' is not a known instruction or macro"
  | argumentRefused opcode argument =>
      s!"{opcode.mnemonic} does not accept the argument '{argument}'"
  | parameterMissing opcode =>
      s!"{opcode.mnemonic} needs a non-zero parameter"
  | identifierRefused opcode identifier =>
      s!"{opcode.mnemonic} does not accept the identifier '{identifier}'"
  | sliceRefused fault => fault.message
  | nothingToClose => "more DO_LOOP than LOOP"
  | endInsideLoop => "fewer DO_LOOP than LOOP"
  | loopLeftOpen =>
      "LOOP has no matching DO_LOOP before the end of the program"
  | malformedNumber _ token => s!"'{token}' is not a valid number"

end Fault

/-- The line number, the keyword, the severity and the wording of a
    diagnostic; an empty keyword is left out. -/
def diagnosticText (line : LineNumber) (keyword severity message : String) :
    String :=
  let about := if keyword = "" then "" else keyword ++ ": "
  s!"line {line}: {about}{severity}: {message}"

/-- A fault and the line it is about. -/
structure CompileError where
  line : LineNumber
  fault : Fault
deriving DecidableEq, Repr

/-- An error as one line of text. -/
def CompileError.text (error : CompileError) : String :=
  diagnosticText error.line error.fault.keyword "error" error.fault.message

/-! ## Warnings -/

/-- Why a line may not mean what its author thinks. -/
inductive Caution where
  /-- Words that follow everything a statement has room for. -/
  | unusedText (words : List String) (column : Nat)
  /-- An event tag with bits beyond the field it is written to. -/
  | tagSpills (tag width : Nat)
  | identifierIgnored (identifier : String)
  /-- A parameter given to `DO_LOOP`, which computes its own. -/
  | distanceIgnored (value : Int)
  /-- A parameter given to an operation that takes none. -/
  | valueIgnored (opcode : Opcode) (value : Int)
  | unknownUnit (unit : String)
  /-- A number that was reduced to the bits of a parameter. -/
  | reduced (cause : Parameter.RangeError) (encoded : Parameter)
  /-- A span that is not a whole number of ticks. -/
  | inexactSpan (clock : Clock) (nanoseconds ticks : Int)
deriving DecidableEq, Repr

/-- The units that may follow the parameter of `WAIT`. -/
def waitUnits : List String := ["cycles", "ns", "us", "ms", "sec"]

/-- The wording of a caution. -/
def Caution.message : Caution → String
  | unusedText words column =>
      let text := String.intercalate " " words
      s!"ignoring unexpected text '{text}' starting at column {column}"
  | tagSpills tag width =>
      s!"event_tag {tag} does not fit into {width} bits; the excess bits spill out of the field"
  | identifierIgnored identifier => s!"identifier '{identifier}' is ignored"
  | distanceIgnored value =>
      s!"the jump distance is computed from the matching LOOP; the value {value} is ignored"
  | valueIgnored opcode value =>
      s!"{opcode.mnemonic} takes no parameter; the value {value} is ignored"
  | unknownUnit unit =>
      let units := String.intercalate ", " waitUnits
      s!"'{unit}' is not a known unit (expected one of {units}); the parameter is taken as a count of clock ticks"
  | reduced cause encoded =>
      s!"{cause.message}; encoding {Text.markedHex encoded.toNat} instead"
  | inexactSpan clock nanoseconds ticks =>
      s!"{nanoseconds} ns is not a multiple of the {clock.period} ns clock period; waiting {ticks} ticks instead"

/-- A caution, the line it is about and the keyword of that line. -/
structure Warning where
  line : LineNumber
  keyword : Keyword
  caution : Caution
deriving DecidableEq, Repr

namespace Warning

/-- The wording of a warning, without its place. -/
def message (warning : Warning) : String := warning.caution.message

/-- A warning as one line of text. -/
def text (warning : Warning) : String :=
  diagnosticText warning.line warning.keyword.text "warning" warning.message

end Warning

/-- A value, and the warning that came up on the way to it, if any.

    What is read, expanded, checked or encoded first meets every condition
    under which it is refused, and only behind the last of them is there
    something to warn of: words that are left over, a tag that spills, an
    operand that is ignored, a number that is reduced, a span that is cut
    off.  No two of these come up in the same step.  So a step either fails
    without a warning or has a value and at most one, and a type that says
    so leaves nothing out. -/
structure Noted (α : Type) where
  value : α
  warning : Option Warning
deriving DecidableEq, Repr

end TimingScript
