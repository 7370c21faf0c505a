import TimingScript.Settings.Token

/-! # Layout — tokens that the columns imply

    What was read so far of a document, with all that the next token
    depends on: the columns of the blocks that are open, and the piece
    that a colon would make a key.  A key stands on one line with its
    colon and is no longer than 1024 characters. -/

namespace TimingScript.Settings

/-- A piece that may turn out to be a key. -/
structure Candidate where
  /-- The number of tokens in front of it. -/
  position : Nat
  mark : Mark
  /-- Whether nothing but a key can stand there. -/
  required : Bool
deriving DecidableEq, Repr

/-- Whether a colon at a place comes too late to make a key. -/
def Candidate.isStale (candidate : Candidate) (mark : Mark) : Bool :=
  candidate.mark.line < mark.line
    || candidate.mark.column + 1024 < mark.column

/-- A document in the course of reading. -/
structure Layout where
  /-- The tokens, the last one first. -/
  tokens : List Token
  /-- The number of tokens. -/
  count : Nat
  /-- The columns of the open blocks, the innermost first. -/
  columns : List Nat
  /-- Whether a key may begin at the next piece. -/
  keyAllowed : Bool
  candidate : Option Candidate
  /-- The candidates outside of the open brackets, one for each of them,
      the innermost first. -/
  suspended : List (Option Candidate)
deriving DecidableEq, Repr

namespace Layout

/-- The layout in front of a document. -/
def empty : Layout := ⟨[], 0, [], true, none, []⟩

/-- Whether a bracket is open. -/
def inFlow (layout : Layout) : Bool := !layout.suspended.isEmpty

/-- The column of the innermost block, 0 outside of all. -/
def indent (layout : Layout) : Nat := layout.columns.headD 0

/-- Adds a token. -/
def add (layout : Layout) (piece : Piece) (mark : Mark) : Layout :=
  { layout with
    tokens := ⟨piece, mark⟩ :: layout.tokens
    count := layout.count + 1 }

/-- Adds a token behind the first `position` ones. -/
def addAt (layout : Layout) (position : Nat) (piece : Piece)
    (mark : Mark) : Layout :=
  { layout with
    tokens :=
      layout.tokens.insertIdx (layout.count - position) ⟨piece, mark⟩
    count := layout.count + 1 }

/-! ## Candidates -/

/-- Gives up the candidate, which must not be required. -/
def dropCandidate (layout : Layout) : Option Layout :=
  if layout.candidate.any Candidate.required then none
  else some { layout with candidate := none }

/-- Gives up the candidate if a colon at a place comes too late. -/
def dropStale (layout : Layout) (mark : Mark) : Option Layout :=
  if layout.candidate.any (·.isStale mark) then layout.dropCandidate
  else some layout

/-- The tokens of a text that cannot be read further, the last one first.
    From a candidate on they are of no use, since a key might begin
    there. -/
def settled (layout : Layout) (mark : Mark) : List Token :=
  let isOpen (candidate : Candidate) : Bool :=
    candidate.required || !candidate.isStale mark
  let candidates :=
    ((layout.candidate :: layout.suspended).filterMap id).filter isOpen
  let first :=
    candidates.foldl (fun n c => min n c.position) layout.count
  layout.tokens.drop (layout.count - first)

/-- Makes the next token the candidate, if a key may begin at its place.
    In the column of a block it has to be one. -/
def noteCandidate (layout : Layout) (mark : Mark) : Option Layout :=
  if layout.keyAllowed then
    let required := !layout.inFlow && layout.indent = mark.column
    layout.dropCandidate.map fun layout =>
      { layout with candidate := some ⟨layout.count, mark, required⟩ }
  else some layout

/-! ## Blocks -/

/-- Closes the blocks that begin right of a column.  Inside of brackets
    there are none. -/
def closeBlocks (layout : Layout) (column : Nat) (mark : Mark) : Layout :=
  if layout.inFlow then layout
  else
    let closed := layout.columns.takeWhile (column < ·)
    let layout := closed.foldl (fun l _ => l.add .blockEnd mark) layout
    { layout with columns := layout.columns.drop closed.length }

/-- Opens a block in a column, behind the first `position` tokens, unless
    one begins there already. -/
def openBlock (layout : Layout) (piece : Piece) (position : Nat)
    (mark : Mark) : Layout :=
  if !layout.inFlow && layout.indent < mark.column then
    { layout.addAt position piece mark with
      columns := mark.column :: layout.columns }
  else layout

/-! ## Pieces -/

/-- A marker or a directive, which closes all blocks. -/
def marker (layout : Layout) (piece : Piece) (mark : Mark) :
    Option Layout :=
  (layout.closeBlocks 0 mark).dropCandidate.map fun layout =>
    { layout.add piece mark with keyAllowed := false }

/-- An opening bracket, which may begin a key. -/
def openFlow (layout : Layout) (piece : Piece) (mark : Mark) :
    Option Layout :=
  (layout.noteCandidate mark).map fun layout =>
    { layout.add piece mark with
      keyAllowed := true
      candidate := none
      suspended := layout.candidate :: layout.suspended }

/-- A closing bracket. -/
def closeFlow (layout : Layout) (piece : Piece) (mark : Mark) :
    Option Layout :=
  layout.dropCandidate.map fun layout =>
    { layout.add piece mark with
      keyAllowed := false
      candidate := layout.suspended.head?.join
      suspended := layout.suspended.tail }

/-- A comma. -/
def comma (layout : Layout) (mark : Mark) : Option Layout :=
  layout.dropCandidate.map fun layout =>
    { layout.add .comma mark with keyAllowed := true }

/-- A sign that begins an item or a key, and a block, where there is none
    yet. -/
def sign (layout : Layout) (piece block : Piece) (mark : Mark) :
    Option Layout :=
  if layout.inFlow || layout.keyAllowed then
    (layout.openBlock block layout.count mark).dropCandidate.map
      (·.add piece mark)
  else none

/-- The sign in front of an item.  A key may follow it. -/
def item (layout : Layout) (mark : Mark) : Option Layout :=
  (layout.sign .item .blockSequence mark).map fun layout =>
    { layout with keyAllowed := true }

/-- The sign in front of a key that is set apart. -/
def key (layout : Layout) (mark : Mark) : Option Layout :=
  (layout.sign .key .blockMapping mark).map fun layout =>
    { layout with keyAllowed := !layout.inFlow }

/-- The sign in front of a value.  It makes the candidate a key; where
    there is none, the key was set apart or is not written. -/
def value (layout : Layout) (mark : Mark) : Option Layout :=
  match layout.candidate with
  | some found =>
      let layout := layout.addAt found.position .key found.mark
      let layout := layout.openBlock .blockMapping found.position found.mark
      some { layout.add .value mark with
        keyAllowed := false
        candidate := none }
  | none =>
      if layout.inFlow || layout.keyAllowed then
        let layout := layout.openBlock .blockMapping layout.count mark
        some { layout.add .value mark with keyAllowed := !layout.inFlow }
      else none

/-- An anchor, a tag or a scalar, which may begin a key.  A key may follow
    a scalar whose line is at an end. -/
def word (layout : Layout) (piece : Piece) (endsLine : Bool)
    (mark : Mark) : Option Layout :=
  (layout.noteCandidate mark).map fun layout =>
    { layout.add piece mark with keyAllowed := endsLine }

/-- A block scalar, which is no key unless it is set apart. -/
def blockScalar (layout : Layout) (piece : Piece) (mark : Mark) :
    Option Layout :=
  layout.dropCandidate.map fun layout =>
    { layout.add piece mark with keyAllowed := true }

/-- The end of the text, behind which no colon comes. -/
def finish (layout : Layout) (mark : Mark) : Option Layout :=
  let isMissing (candidate : Option Candidate) : Bool :=
    candidate.any Candidate.required
  if layout.suspended.any isMissing then none
  else (layout.closeBlocks 0 mark).dropCandidate

end Layout

end TimingScript.Settings
