import TimingScript.Settings.Cursor
import TimingScript.Text.Numeral

/-! # Quoted scalars — texts between quotes

    Between single quotes a quote is written twice and all else stands
    for itself; between double quotes a backslash begins an escape.  Line
    ends are folded like those of a plain scalar, where a backslash in
    front of one joins the two lines.  First the text up to the closing
    quote is cut off, then its glyphs are read, then they are folded. -/

namespace TimingScript.Settings.Quoted

/-- What was read last inside of quotes. -/
inductive Behind where
  /-- The opening quote. -/
  | quote
  | word
  | gap
  /-- An escaped line end. -/
  | joint
deriving DecidableEq, Repr

namespace Behind

/-- The number of characters that have to be seen at a character: four
    where a marker might stand, two inside a word. -/
def sight (behind : Behind) (quote c : Char) : Nat :=
  let isGap := isWhite c || isBreak c
  match behind with
  | .quote => 4
  | .word => 2
  | .gap => if isGap then 1 else 4
  | .joint => if isGap || c = quote then 1 else 4

/-- What was read last, behind a character that is not escaped. -/
def char (c : Char) : Behind :=
  if isWhite c || isBreak c then gap else word

/-- What was read last, behind an escaped character. -/
def escaped (c : Char) : Behind := if isBreak c then joint else word

end Behind

/-- The text up to a closing quote, which is dropped.  No marker may stand
    in it. -/
def body? (quote : Char) (behind : Behind) (mark : Mark) :
    List Char → Option (List Char × Cursor)
  | [] => none
  | [c] =>
      if c = quote then some ([], ⟨mark.right 1, []⟩) else none
  | c :: d :: rest =>
      let chars := c :: d :: rest
      let isPair :=
        if quote = '"' then c = '\\' else c = quote && d = quote
      let sight := behind.sight quote c
      let isSeen := sees sight chars
        && (!isPair || !isBreak d || sees 3 chars)
      if !isSeen || isMarker mark chars then none
      else if isPair then
        (body? quote (.escaped d) ((mark.past c).past d) rest).map
          fun (text, next) => (c :: d :: text, next)
      else if c = quote then some ([], ⟨mark.right 1, d :: rest⟩)
      else
        (body? quote (.char c) (mark.past c) (d :: rest)).map
          fun (text, next) => (c :: text, next)

/-! ## Glyphs -/

/-- The pieces of a quoted text. -/
inductive Glyph where
  /-- A character that stands for itself. -/
  | literal (c : Char)
  /-- A piece of white space. -/
  | gap (c : Char)
  /-- An escaped line end. -/
  | joint
deriving DecidableEq, Repr

/-- The glyph of a character that is not escaped. -/
def Glyph.of (c : Char) : Glyph :=
  if isWhite c || isBreak c then gap (breakText c) else literal c

/-- The glyphs of a text between single quotes. -/
def singleGlyphs : List Char → List Glyph
  | [] => []
  | '\'' :: '\'' :: rest => .literal '\'' :: singleGlyphs rest
  | c :: rest => Glyph.of c :: singleGlyphs rest

/-- The characters that are escaped by a letter or a sign. -/
def escapes : List (Char × Char) :=
  [('0', '\x00'), ('a', '\x07'), ('b', '\x08'), ('t', '\t'), ('\t', '\t'),
    ('n', '\n'), ('v', '\x0b'), ('f', '\x0c'), ('r', '\r'), ('e', '\x1b'),
    (' ', ' '), ('"', '"'), ('/', '/'), ('\\', '\\'), ('N', '\u0085'),
    ('_', '\u00a0'), ('L', '\u2028'), ('P', '\u2029')]

/-- The number of hexadecimal digits behind the letters that begin the
    number of a character. -/
def digitCounts : List (Char × Nat) := [('x', 2), ('u', 4), ('U', 8)]

/-- The character with a number that is written in hexadecimal. -/
def numbered? (count : Nat) (digits : List Char) : Option Char :=
  match Text.Numeral.value? 16 digits with
  | some n =>
      if digits.length = count && decide n.isValidChar then
        some (Char.ofNat n)
      else none
  | none => none

/-- The character of an escape whose backslash and letter were read, and
    the number of characters that it takes up behind them. -/
def escaped? (letter : Char) (rest : List Char) : Option (Char × Nat) :=
  match digitCounts.lookup letter with
  | some count =>
      (numbered? count (rest.take count)).map fun c => (c, count)
  | none => (escapes.lookup letter).map fun c => (c, 0)

/-- The glyphs of a text between double quotes. -/
def doubleGlyphs? : List Char → Option (List Glyph)
  | [] => some []
  | ['\\'] => none
  | '\\' :: letter :: rest =>
      if isBreak letter then (doubleGlyphs? rest).map (.joint :: ·)
      else
        match escaped? letter rest with
        | none => none
        | some (c, count) =>
            (doubleGlyphs? (rest.drop count)).map (.literal c :: ·)
  | c :: rest => (doubleGlyphs? rest).map (Glyph.of c :: ·)
termination_by text => text.length
decreasing_by all_goals simp +arith

/-! ## Folding -/

/-- What some white space stands for, its last character first.  Of white
    space behind an escaped line end only further line ends are kept. -/
def closeGap (isJoined : Bool) (gap : List Char) : List Char :=
  if isJoined then gap.reverse.filter isBreak else foldGap gap.reverse

/-- The characters that glyphs stand for, where some white space came
    before, its last character first. -/
def fold (isJoined : Bool) (gap : List Char) : List Glyph → List Char
  | [] => closeGap isJoined gap
  | .gap c :: rest => fold isJoined (c :: gap) rest
  | .joint :: rest => closeGap isJoined gap ++ fold true [] rest
  | .literal c :: rest => closeGap isJoined gap ++ c :: fold false [] rest

/-- The scalar behind an opening quote. -/
def read? (quote : Char) (cursor : Cursor) : Option (String × Cursor) :=
  match body? quote .quote cursor.mark cursor.rest with
  | none => none
  | some (text, next) =>
      let glyphs :=
        if quote = '"' then doubleGlyphs? text else some (singleGlyphs text)
      glyphs.map fun glyphs => (String.ofList (fold false [] glyphs), next)

end TimingScript.Settings.Quoted
