import TimingScript.Settings.Cursor

/-! # Block scalars — texts of indented lines

    A block scalar begins behind a sign, on the next line, and takes up
    all lines that are indented far enough.  A literal one keeps its line
    ends; a folded one makes a blank of one between two lines, unless one
    of them begins with white space.  Its header says what becomes of the
    line ends behind the last line, and may say how far the lines are
    indented. -/

namespace TimingScript.Settings.Block

/-! ## Headers -/

/-- What becomes of the line ends behind the last line. -/
inductive Chomping where
  | strip
  /-- The first one is kept. -/
  | clip
  | keep
deriving DecidableEq, Repr

/-- What is written between the sign of a block scalar and its lines. -/
structure Header where
  chomping : Chomping
  /-- How many columns further than its surroundings a text begins. -/
  increment : Option Nat
deriving DecidableEq, Repr

/-- The sign of a chomping. -/
def chomping? (c : Char) : Option Chomping :=
  if c = '-' then some .strip else if c = '+' then some .keep else none

/-- The digit of an increment. -/
def increment? (c : Char) : Option Nat :=
  if c.isDigit then some (c.toNat - '0'.toNat) else none

/-- The header at a cursor, of which the two parts may come in either
    order, and the beginning of the lines. -/
def header? (cursor : Cursor) : Option (Header × Cursor) :=
  let first := cursor.rest.head?
  let second := cursor.rest.tail.head?
  let header : Header × Nat :=
    match first.bind chomping?, first.bind increment? with
    | some chomping, _ =>
        match second.bind increment? with
        | some increment => (⟨chomping, some increment⟩, 2)
        | none => (⟨chomping, none⟩, 1)
    | none, some increment =>
        match second.bind chomping? with
        | some chomping => (⟨chomping, some increment⟩, 2)
        | none => (⟨.clip, some increment⟩, 1)
    | none, none => (⟨.clip, none⟩, 0)
  if header.1.increment = some 0 then none
  else (cursor.advance header.2).finishLine.map fun next => (header.1, next)

/-! ## Lines -/

/-- A line of the text and the line ends behind it, those of empty lines
    among them.  The last characters come first. -/
structure Line where
  text : List Char
  breaks : List Char
deriving DecidableEq, Repr

/-- Whether a line begins with white space. -/
def Line.isLed (line : Line) : Bool := line.text.getLast?.any isWhite

/-- The column where the lines begin if the header does not say so: that
    of the first line with content, but not left of an empty line's end,
    nor of `widest`.  No tab may stand in front of it. -/
def firstColumn? (widest : Nat) (mark : Mark) : List Char → Option Nat
  | [] => some (max widest mark.column)
  | c :: rest =>
      if c = hole then none
      else if c = ' ' then firstColumn? widest (mark.right 1) rest
      else if isBreak c then
        firstColumn? (max widest mark.column) mark.below rest
      else if c = '\t' then none
      else some (max widest mark.column)

/-- Adds a line end behind the last line. -/
def endLine (c : Char) : List Line → List Line
  | [] => []
  | line :: before => ⟨line.text, c :: line.breaks⟩ :: before

/-- Adds a character to the last line. -/
def extendLine (c : Char) : List Line → List Line
  | [] => []
  | line :: before => ⟨c :: line.text, line.breaks⟩ :: before

/-- The lines of a text whose lines begin at a column, the last one
    first, behind some that were read. -/
def lines? (column : Nat) (inLine : Bool) (found : List Line)
    (mark : Mark) : List Char → Option (List Line × Cursor)
  | [] => some (found, ⟨mark, []⟩)
  | c :: rest =>
      if c = hole then none
      else if isBreak c then
        lines? column false (endLine (breakText c) found) mark.below rest
      else if inLine then
        lines? column true (extendLine c found) (mark.right 1) rest
      else if mark.column < column && c = ' ' then
        lines? column false found (mark.right 1) rest
      else if mark.column < column && c = '\t' then none
      else if mark.column = column then
        lines? column true (⟨[c], []⟩ :: found) (mark.right 1) rest
      else some (found, ⟨mark, c :: rest⟩)

/-! ## Joining -/

/-- What is written between two lines. -/
def between (isFolded : Bool) (line next : Line) : List Char :=
  match line.breaks.reverse with
  | [] => []
  | first :: more =>
      if isFolded && first = '\n' && !line.isLed && !next.isLed then
        joinBreaks first more
      else first :: more

/-- What is written behind the last line. -/
def closing (chomping : Chomping) (line : Line) : List Char :=
  match chomping with
  | .strip => []
  | .clip => line.breaks.reverse.take 1
  | .keep => line.breaks.reverse

/-- The text of some lines. -/
def join (isFolded : Bool) (chomping : Chomping) : List Line → List Char
  | [] => []
  | [last] => last.text.reverse ++ closing chomping last
  | line :: next :: rest =>
      line.text.reverse ++ between isFolded line next
        ++ join isFolded chomping (next :: rest)

/-- The text of some lines behind the line ends of a line without text,
    which stands for the empty lines in front of them. -/
def text (isFolded : Bool) (chomping : Chomping) : List Line → List Char
  | [] => []
  | [front] => if chomping = .keep then front.breaks.reverse else []
  | front :: lines => front.breaks.reverse ++ join isFolded chomping lines

/-- The block scalar behind its sign, inside of a collection that begins
    at column `indent`. -/
def read? (isFolded : Bool) (indent : Nat) (cursor : Cursor) :
    Option (String × Cursor) := do
  let (header, body) ← header? cursor
  let column ← match header.increment with
    | some increment => some (max indent 1 + increment)
    | none => firstColumn? (max indent 1 + 1) body.mark body.rest
  let (lines, next) ← lines? column false [⟨[], []⟩] body.mark body.rest
  some (String.ofList (text isFolded header.chomping lines.reverse), next)

end TimingScript.Settings.Block
