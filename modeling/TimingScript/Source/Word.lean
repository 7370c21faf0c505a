import TimingScript.Diagnostic

/-! # Words — what a line consists of

    A word is a run of characters, as long as possible, without blanks,
    tabs, carriage returns, `=` and `/`.  The sign `=` only sets an
    argument apart from its value.  Two slashes begin a comment, which
    hides the rest of the text; a single one is an error, and so is a
    line feed in front of a comment. -/

namespace TimingScript.Source

/-- A word and the column of its first character, counted in characters
    from 1. -/
structure Word where
  text : String
  column : Nat
deriving DecidableEq, Repr

namespace Word

/-- Words that begin with a decimal digit are numbers. -/
def startsWithDigit (word : Word) : Bool :=
  word.text.toList.head?.any Char.isDigit

/-- The characters between words. -/
def isSeparator (c : Char) : Bool :=
  c = ' ' || c = '\t' || c = '\r' || c = '='

/-- The characters of words. -/
def isLetter (c : Char) : Bool :=
  !isSeparator c && c != '/' && c != '\n'

/-- Reads the words of a text whose first character stands at
    `column`. -/
def scan (column : Nat) : List Char → Except Fault (List Word)
  | [] => .ok []
  | c :: rest =>
      if c = '/' then
        if rest.head? = some '/' then .ok [] else .error (.loneSlash column)
      else if c = '\n' then .error (.strayCharacter column c)
      else if isSeparator c then scan (column + 1) rest
      else
        let letters := rest.takeWhile isLetter
        match scan (column + 1 + letters.length) (rest.dropWhile isLetter) with
        | .error fault => .error fault
        | .ok words => .ok (⟨String.ofList (c :: letters), column⟩ :: words)
termination_by cs => cs.length
decreasing_by
  · exact Nat.lt_succ_self _
  · exact Nat.lt_succ_of_le (List.dropWhile_sublist isLetter).length_le

/-- The words of a line of source. -/
def read (line : LineNumber) (text : String) :
    Except CompileError (List Word) :=
  (scan 1 text.toList).mapError (CompileError.mk line)

end Word

end TimingScript.Source
