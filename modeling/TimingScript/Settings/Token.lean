import TimingScript.Settings.Tag

/-! # Tokens — the pieces of a settings document

    A document is a sequence of scalars, brackets and signs, each with the
    place where it begins.  Where a block of lines begins and ends, and
    which scalar is a key, is not written down but follows from the
    columns, and has tokens of its own. -/

namespace TimingScript.Settings

/-- The ways to write a scalar. -/
inductive Style where
  | plain
  | quoted
  | literal
  | folded
deriving DecidableEq, Repr

/-- The kinds of pieces. -/
inductive Piece where
  | directive (directive : Directive)
  /-- The marker `---` in front of a document. -/
  | documentStart
  /-- The marker `...` behind a document. -/
  | documentEnd
  /-- The beginning of a list with an item a line. -/
  | blockSequence
  /-- The beginning of a mapping with a key a line. -/
  | blockMapping
  /-- The end of either. -/
  | blockEnd
  | openBrace
  | closeBrace
  | openBracket
  | closeBracket
  | comma
  /-- The sign in front of an item of a list. -/
  | item
  /-- What stands in front of a key, mostly unwritten. -/
  | key
  /-- The sign in front of a value. -/
  | value
  | anchor
  | alias
  | tag (tag : Tag)
  | scalar (text : String) (style : Style)
  /-- Text that cannot be read.  It comes last. -/
  | unreadable
deriving DecidableEq, Repr

/-- A piece and the place where it begins. -/
structure Token where
  piece : Piece
  mark : Mark
deriving DecidableEq, Repr

end TimingScript.Settings
