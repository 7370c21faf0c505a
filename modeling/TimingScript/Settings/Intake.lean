/-! # Intake — the characters of a settings document

    A document is taken in by portions, each as soon as a character of it
    is asked for.  A portion with a character that no document may hold is
    not taken in at all, so what comes before it can still be read.  Here
    a text becomes the list of its characters up to such a portion, which
    leaves a hole. -/

namespace TimingScript.Settings

/-! ## Characters -/

/-- The characters that a document may hold. -/
def isPrintable (c : Char) : Bool :=
  c = '\t' || c = '\n' || c = '\r' || c.toNat = 0x85
    || (0x20 ≤ c.toNat && c.toNat ≤ 0x7E)
    || (0xA0 ≤ c.toNat && c.toNat ≤ 0xFFFD)
    || 0x10000 ≤ c.toNat

/-- What stands in the place of a portion that is not taken in.  No
    document may hold this character. -/
def hole : Char := '\x00'

/-- Blanks and tabs. -/
def isWhite (c : Char) : Bool := c = ' ' || c = '\t'

/-- The ends of lines.  A carriage return is one of two characters, since
    one that stands alone is taken for a line feed. -/
def isBreak (c : Char) : Bool :=
  c = '\n' || c = '\r' || c = '\u2028' || c = '\u2029'

/-- The character that a line end leaves in a text. -/
def breakText (c : Char) : Char := if c = '\r' then '\n' else c

/-! ## Portions -/

/-- The octets of a portion; a character that would go beyond them belongs
    to the next one. -/
def portionSize : Nat := 16384

/-- The characters that can be read, where `portion` was read of the
    present one, its last character first, and `room` octets are left. -/
def readable (room : Nat) (portion : List Char) : List Char → List Char
  | [] => portion.reverse
  | c :: rest =>
      if c.utf8Size ≤ room then
        if isPrintable c then
          readable (room - c.utf8Size) (c :: portion) rest
        else [hole]
      else if isPrintable c then
        portion.reverse ++ readable (portionSize - c.utf8Size) [c] rest
      else portion.reverse ++ [hole]

/-- A text whose line ends are characters of their own: a carriage return
    where two characters end a line, one of the two separators, or a line
    feed. -/
def alignBreaks : List Char → List Char
  | [] => []
  | '\r' :: '\n' :: rest => '\r' :: alignBreaks rest
  | c :: rest =>
      (if c = '\r' || c.toNat = 0x85 then '\n' else c) :: alignBreaks rest

/-- The characters of a document that can be read. -/
def takeIn (text : String) : List Char :=
  alignBreaks (readable portionSize [] text.toList)

/-! ## Looking ahead -/

/-- Whether no hole is among the next `count` characters of a text, of
    which a line end may be two. -/
def sees : Nat → List Char → Bool
  | 0, _ => true
  | _, [] => true
  | count + 1, c :: rest =>
      c != hole && sees (if c = '\r' then count - 1 else count) rest

end TimingScript.Settings
