import TimingScript.Settings.Block
import TimingScript.Settings.Plain
import TimingScript.Settings.Quoted
import TimingScript.Settings.Token.Layout

/-! # Lexer — the tokens of a text

    One step of the lexer reads the piece at a cursor and adds it to the
    layout.  Four characters are looked at to tell which piece it is.  A
    text whose tokens end with an unreadable one is refused, though what
    comes before may be refused for another reason. -/

namespace TimingScript.Settings.Lexer

/-- Where the lexer stands. -/
abbrev State := Layout × Cursor

/-- Adds what a sign of one character means. -/
def signs (layout : Option Layout) (cursor : Cursor) : Option State :=
  layout.map fun layout => (layout, cursor.advance 1)

/-- Reads a directive. -/
def directive? (layout : Layout) (cursor : Cursor) : Option State := do
  let (directive, next) ← Directive.read? (cursor.advance 1)
  let layout ← layout.marker (.directive directive) cursor.mark
  some (layout, next)

/-- Reads a marker, which begins with `c`. -/
def marker? (layout : Layout) (cursor : Cursor) (c : Char) :
    Option State :=
  let piece : Piece := if c = '-' then .documentStart else .documentEnd
  (layout.marker piece cursor.mark).map fun layout =>
    (layout, cursor.advance 3)

/-- Reads an anchor or an alias. -/
def anchor? (layout : Layout) (cursor : Cursor) (piece : Piece) :
    Option State := do
  let next ← anchorName? (cursor.advance 1)
  let layout ← layout.word piece false cursor.mark
  some (layout, next)

/-- Reads a tag. -/
def tag? (layout : Layout) (cursor : Cursor) : Option State := do
  let (tag, next) ← Tag.read? layout.inFlow cursor
  let layout ← layout.word (.tag tag) false cursor.mark
  some (layout, next)

/-- Reads a quoted scalar. -/
def quoted? (layout : Layout) (cursor : Cursor) (quote : Char) :
    Option State := do
  let (text, next) ← Quoted.read? quote (cursor.advance 1)
  let layout ← layout.word (.scalar text .quoted) false cursor.mark
  some (layout, next)

/-- Reads a block scalar. -/
def block? (layout : Layout) (cursor : Cursor) (style : Style) :
    Option State := do
  let isFolded := style = .folded
  let (text, next) ←
    Block.read? isFolded layout.indent (cursor.advance 1)
  let layout ← layout.blockScalar (.scalar text style) cursor.mark
  some (layout, next)

/-- Reads a plain scalar. -/
def plain? (layout : Layout) (cursor : Cursor) : Option State := do
  let found ← Plain.read? layout.inFlow layout.indent cursor
  let layout ←
    layout.word (.scalar found.text .plain) found.endsLine cursor.mark
  some (layout, found.next)

/-- Reads the piece that begins with `c` in front of `rest`.  Brackets,
    commas and quotes are always signs; a dash is one only if its word
    ends with it, and so are question marks and colons outside of
    brackets. -/
def piece? (layout : Layout) (cursor : Cursor) (c : Char)
    (rest : List Char) : Option State :=
  let mark := cursor.mark
  let isApart := layout.inFlow || endsWord rest
  if mark.column = 1 && c = '%' then directive? layout cursor
  else if isMarker mark (c :: rest) then marker? layout cursor c
  else if c = '[' then signs (layout.openFlow .openBracket mark) cursor
  else if c = '\x7b' then signs (layout.openFlow .openBrace mark) cursor
  else if c = ']' then signs (layout.closeFlow .closeBracket mark) cursor
  else if c = '\x7d' then signs (layout.closeFlow .closeBrace mark) cursor
  else if c = ',' then signs (layout.comma mark) cursor
  else if c = '-' && endsWord rest then signs (layout.item mark) cursor
  else if c = '?' && isApart then signs (layout.key mark) cursor
  else if c = ':' && isApart then signs (layout.value mark) cursor
  else if c = '*' then anchor? layout cursor .alias
  else if c = '&' then anchor? layout cursor .anchor
  else if c = '!' then tag? layout cursor
  else if c = '|' && !layout.inFlow then block? layout cursor .literal
  else if c = '>' && !layout.inFlow then block? layout cursor .folded
  else if c = '\'' || c = '"' then quoted? layout cursor c
  else if beginsPlain layout.inFlow c rest then plain? layout cursor
  else none

/-- Reads on, up to the end of the next piece, or to that of the text, where
    there is no cursor left. -/
def step? (layout : Layout) (cursor : Cursor) :
    Option (Layout × Option Cursor) := do
  let (keyAllowed, cursor) ←
    skipGap? layout.inFlow layout.keyAllowed false cursor.mark cursor.rest
  let layout := { layout with keyAllowed }
  match cursor.rest with
  | [] =>
      let layout ← layout.finish cursor.mark
      some (layout, none)
  | c :: rest =>
      if sees 4 cursor.rest then
        let layout ← layout.dropStale cursor.mark
        let layout := layout.closeBlocks cursor.mark.column cursor.mark
        let (layout, next) ← piece? layout cursor c rest
        let layout ← layout.dropStale next.mark
        some (layout, some next)
      else none

/-- The tokens of a text from a cursor on, behind those of a layout, the
    last one first.  Each step reads a character at least, so that `fuel`
    steps are enough for a text that is shorter. -/
def run (fuel : Nat) (layout : Layout) (cursor : Cursor) : List Token :=
  match fuel with
  | 0 => [⟨.unreadable, cursor.mark⟩]
  | fuel + 1 =>
      match step? layout cursor with
      | some (layout, some next) => run fuel layout next
      | some (layout, none) => layout.tokens
      | none => ⟨.unreadable, cursor.mark⟩ :: layout.settled cursor.mark

/-- The tokens of a text. -/
def tokens (text : String) : List Token :=
  let body := takeIn text
  (run (body.length + 1) .empty ⟨.start, body⟩).reverse

end TimingScript.Settings.Lexer
