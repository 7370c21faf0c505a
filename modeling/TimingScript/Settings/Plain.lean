import TimingScript.Settings.Cursor

/-! # Plain scalars — texts without quotes

    A plain scalar may go on over several lines.  It ends in front of a
    comment, of a colon that a blank follows, of a marker and, outside of
    brackets, of a line that is not indented; inside of brackets it ends
    at a sign with a meaning there. -/

namespace TimingScript.Settings

/-- The signs that may not follow a colon inside of brackets. -/
def isUnsaid (c : Char) : Bool := c = '?' || isFlowSign c

/-- The signs with which no plain scalar begins. -/
def isReserved (c : Char) : Bool :=
  "-?:,[]\x7b\x7d#&*!|>'\"%@`".toList.contains c

/-- Whether a plain scalar begins with a character in front of `rest`.
    Some of the signs may begin one if a blank does not follow them. -/
def beginsPlain (inFlow : Bool) (c : Char) (rest : List Char) : Bool :=
  (!endsWord [c] && !isReserved c)
    || (c = '-' && !rest.head?.any isWhite)
    || (!inFlow && (c = '?' || c = ':') && !endsWord rest)

/-- A plain scalar that was read. -/
structure Plain where
  text : String
  /-- Whether its last line is at an end. -/
  endsLine : Bool
  next : Cursor
deriving DecidableEq, Repr

namespace Plain

/-- A scalar of which all characters, and those of the white space behind
    it, are given with the last ones first. -/
def finish (text gap : List Char) (next : Cursor) : Plain :=
  ⟨String.ofList text.reverse, gap.any isBreak, next⟩

/-- Whether a scalar ends behind a gap, on a line that is not indented. -/
def isOutside (inFlow : Bool) (indent : Nat) (mark : Mark) : Bool :=
  !inFlow && mark.column ≤ indent

/-- Whether a scalar ends behind a gap, in front of some characters. -/
def endsBehindGap (mark : Mark) (chars : List Char) : Bool :=
  chars.head? = some '#' || isMarker mark chars

/-- Whether a scalar ends in front of a character. -/
def endsAt (inFlow : Bool) (c : Char) (rest : List Char) : Bool :=
  (c = ':' && endsWord rest) || (inFlow && isFlowSign c)

/-- The scalar that goes on with some characters, where `text` and the
    white space `gap` came before, the last characters first.  Lines have
    to be indented by blanks further than `indent`.  Inside of a word two
    characters have to be seen, and four behind a gap, where a marker
    might stand. -/
def continue? (inFlow : Bool) (indent : Nat) (text gap : List Char)
    (mark : Mark) : List Char → Option Plain
  | [] => some (finish text gap ⟨mark, []⟩)
  | c :: rest =>
      let chars := c :: rest
      if gap.isEmpty && !sees 2 chars then none
      else if isBreak c then
        continue? inFlow indent text (breakText c :: gap) mark.below rest
      else if isWhite c then
        if c = '\t' && mark.column ≤ indent && gap.any isBreak then none
        else continue? inFlow indent text (c :: gap) (mark.right 1) rest
      else if c = hole then none
      else if !gap.isEmpty && isOutside inFlow indent mark then
        some (finish text gap ⟨mark, chars⟩)
      else if !gap.isEmpty && !sees 4 chars then none
      else if !gap.isEmpty && endsBehindGap mark chars then
        some (finish text gap ⟨mark, chars⟩)
      else if inFlow && c = ':' && rest.head?.any isUnsaid then none
      else if endsAt inFlow c rest then
        some (finish text gap ⟨mark, chars⟩)
      else
        let joined := (foldGap gap.reverse).reverse ++ text
        continue? inFlow indent (c :: joined) [] (mark.right 1) rest

/-- The plain scalar at a cursor. -/
def read? (inFlow : Bool) (indent : Nat) (cursor : Cursor) :
    Option Plain :=
  continue? inFlow indent [] [] cursor.mark cursor.rest

end Plain

end TimingScript.Settings
