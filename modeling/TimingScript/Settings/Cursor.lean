import TimingScript.Settings.Intake

/-! # Cursors — places in a settings document

    A settings document is written in YAML.  It is read from the first
    character to the last by functions that take a cursor, the text from
    some place on, and give back the cursor behind what they read; none
    of them reads over a hole.  Here are the cursors and the classes of
    characters that all pieces of a document share. -/

namespace TimingScript.Settings

/-! ## Characters -/

/-- The characters of names. -/
def isNamed (c : Char) : Bool := c.isAlphanum || c = '_' || c = '-'

/-- The characters with a meaning inside of brackets. -/
def isFlowSign (c : Char) : Bool := ",[]\x7b\x7d".toList.contains c

/-- Whether white space, a line end or the end of the text comes next. -/
def endsWord : List Char → Bool
  | [] => true
  | c :: _ => isWhite c || isBreak c

/-! ## Places -/

/-- A place in a text: line and column, counted from 1. -/
structure Mark where
  line : Nat
  column : Nat
deriving DecidableEq, Repr

namespace Mark

/-- The beginning of a text. -/
def start : Mark := ⟨1, 1⟩

/-- The place `count` characters further on the line. -/
def right (mark : Mark) (count : Nat) : Mark :=
  ⟨mark.line, mark.column + count⟩

/-- The beginning of the next line. -/
def below (mark : Mark) : Mark := ⟨mark.line + 1, 1⟩

/-- The place behind a character. -/
def past (mark : Mark) (c : Char) : Mark :=
  if isBreak c then mark.below else mark.right 1

end Mark

/-- Whether one of the markers `---` and `...` stands at a place: alone
    at the beginning of a line. -/
def isMarker (mark : Mark) : List Char → Bool
  | a :: b :: c :: rest =>
      mark.column = 1 && (a = '-' || a = '.') && a = b && b = c
        && endsWord rest
  | _ => false

/-! ## Cursors -/

/-- The rest of a text and the place where it begins. -/
structure Cursor where
  mark : Mark
  rest : List Char
deriving DecidableEq, Repr

namespace Cursor

/-- The cursor `count` characters further on its line. -/
def advance (cursor : Cursor) (count : Nat) : Cursor :=
  ⟨cursor.mark.right count, cursor.rest.drop count⟩

/-- The characters of a class that come next on a line, and the cursor
    behind them. -/
def run (cursor : Cursor) (p : Char → Bool) : List Char × Cursor :=
  let found := cursor.rest.takeWhile p
  (found, cursor.advance found.length)

/-- The cursor behind the white space of its line. -/
def skipWhite (cursor : Cursor) : Cursor := (cursor.run isWhite).2

/-- The characters of a comment. -/
def isComment (c : Char) : Bool := !isBreak c && c != hole

/-- The cursor on the next line, if nothing but white space and a comment
    is left on its own. -/
def finishLine (cursor : Cursor) : Option Cursor :=
  let behind := cursor.skipWhite
  let comment := behind.rest.head? = some '#'
  let last := if comment then (behind.run isComment).2 else behind
  match last.rest with
  | [] => some last
  | c :: rest => if isBreak c then some ⟨last.mark.below, rest⟩ else none

end Cursor

/-! ## White space between pieces -/

/-- The place behind the white space, line ends and comments in front of
    a piece, and whether a key may begin there.  A line end outside of
    brackets allows one.  Tabs are white space only where no key may
    begin, and a line may begin with a byte order mark. -/
def skipGap? (inFlow keyAllowed inComment : Bool) (mark : Mark) :
    List Char → Option (Bool × Cursor)
  | [] => some (keyAllowed, ⟨mark, []⟩)
  | c :: rest =>
      let isSkipped := inComment || c = ' '
        || (c = '\t' && (inFlow || !keyAllowed))
        || (c = '\uFEFF' && mark.column = 1)
      if c = hole then none
      else if isBreak c then
        skipGap? inFlow (keyAllowed || !inFlow) false mark.below rest
      else if isSkipped then
        skipGap? inFlow keyAllowed inComment (mark.right 1) rest
      else if c = '#' then
        skipGap? inFlow keyAllowed true (mark.right 1) rest
      else some (keyAllowed, ⟨mark, c :: rest⟩)

/-! ## White space inside of scalars -/

/-- What some line ends inside of a scalar stand for.  A line feed alone
    is a blank, one in front of others is dropped. -/
def joinBreaks (first : Char) (more : List Char) : List Char :=
  if first = '\n' then
    if more.isEmpty then [' '] else more
  else first :: more

/-- What the white space between two words of a scalar stands for: itself
    on one line; otherwise only its line ends count. -/
def foldGap (gap : List Char) : List Char :=
  match gap.dropWhile isWhite with
  | [] => gap
  | first :: more => joinBreaks first (more.filter isBreak)

end TimingScript.Settings
