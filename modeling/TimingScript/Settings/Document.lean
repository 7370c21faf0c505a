import TimingScript.Settings.Token.Lexer

/-! # Documents — keys and values

    The root of a settings document is a mapping, written with one key a
    line or in braces; a document without a root is empty.  The values of
    interest are scalars, so of a list or an inner mapping only the kind
    is read.  An alias is not read at all, since it could only stand for
    the mapping or for its key.  What can be read of a document up to a
    fault is kept, because the settings in front of it may be refused for
    a reason of their own. -/

namespace TimingScript.Settings

/-- A key or the value of one. -/
inductive Value where
  | scalar (text : String) (style : Style) (tag : Option String)
  | sequence
  | mapping
deriving DecidableEq, Repr

/-- A scalar that is not written. -/
def Value.unwritten : Value := .scalar "" .plain none

/-- A value and the place where it begins. -/
structure Placed where
  value : Value
  mark : Mark
deriving DecidableEq, Repr

/-- A key and its value, where that can be read. -/
structure Entry where
  key : Placed
  value : Option Placed
deriving DecidableEq, Repr

/-- The root of a document. -/
inductive Root where
  | value (found : Placed)
  | entries (mark : Mark) (entries : List Entry)
deriving DecidableEq, Repr

/-- What was read of a document. -/
structure Document where
  root : Option Root
  /-- Whether that is all that the text holds. -/
  isComplete : Bool
deriving DecidableEq, Repr

namespace Document

/-- The meanings that a document gives to handles. -/
abbrev Handles := List (String × String)

/-! ## Values -/

/-- The properties in front of a value. -/
structure Properties where
  tag : Option String
  /-- Whether there are any. -/
  written : Bool

/-- The properties that come next: a tag and an anchor, in either order. -/
def properties? (handles : Handles) :
    List Token → Option (Properties × List Token)
  | ⟨.anchor, _⟩ :: ⟨.tag tag, _⟩ :: rest
  | ⟨.tag tag, _⟩ :: ⟨.anchor, _⟩ :: rest
  | ⟨.tag tag, _⟩ :: rest =>
      (tag.resolve? handles).map fun name => (⟨some name, true⟩, rest)
  | ⟨.anchor, _⟩ :: rest => some (⟨none, true⟩, rest)
  | rest => some (⟨none, false⟩, rest)

/-- Where a key or a value stands. -/
inductive Part where
  | inBlock
  | keyInBraces
  | valueInBraces
deriving DecidableEq, Repr

/-- The pieces in front of which a part is unwritten. -/
def Part.ends : Part → Piece → Bool
  | inBlock, piece => piece = .key || piece = .value || piece = .blockEnd
  | keyInBraces, piece =>
      piece = .value || piece = .comma || piece = .closeBrace
  | valueInBraces, piece => piece = .comma || piece = .closeBrace

/-- What begins with some tokens besides their properties.  Behind a list
    or a mapping nothing is left to read.  In a block, the items of a list
    may stand in the column of the keys. -/
def content? (part : Part) (tag : Option String) :
    List Token → Option (Value × List Token)
  | ⟨.scalar text style, _⟩ :: rest => some (.scalar text style tag, rest)
  | ⟨.openBracket, _⟩ :: _
  | ⟨.blockSequence, _⟩ :: _ => some (.sequence, [])
  | ⟨.openBrace, _⟩ :: _
  | ⟨.blockMapping, _⟩ :: _ => some (.mapping, [])
  | ⟨.item, _⟩ :: _ =>
      if part = .inBlock then some (.sequence, []) else none
  | _ => none

/-- Whether the next token cannot be read. -/
def isUnreadable (tokens : List Token) : Bool :=
  tokens.head?.any (·.piece = .unreadable)

/-- The part that comes next, and what follows it.  It may have properties
    and no content. -/
def value? (handles : Handles) (part : Part) (tokens : List Token) :
    Option (Placed × List Token) :=
  let mark := (tokens.head?.map Token.mark).getD .start
  match properties? handles tokens with
  | none => none
  | some (found, rest) =>
      match content? part found.tag rest with
      | some (value, others) => some (⟨value, mark⟩, others)
      | none =>
          if found.written && !isUnreadable rest then
            some (⟨.scalar "" .plain found.tag, mark⟩, rest)
          else none

/-- The part that comes next, which may be unwritten. -/
def optional? (handles : Handles) (part : Part) (tokens : List Token) :
    Option (Placed × List Token) :=
  match tokens with
  | [] => none
  | token :: _ =>
      if part.ends token.piece then
        some (⟨.unwritten, token.mark⟩, tokens)
      else value? handles part tokens

/-! ## Entries -/

/-- The entry of a key with what is written behind it, and what follows
    the entry. -/
def entry (handles : Handles) (part : Part) (key : Placed) :
    List Token → Entry × Option (List Token)
  | ⟨.value, _⟩ :: rest =>
      match optional? handles part rest with
      | none => (⟨key, none⟩, none)
      | some (value, others) => (⟨key, some value⟩, some others)
  | rest => (⟨key, some ⟨.unwritten, key.mark⟩⟩, some rest)

/-- The entries of a mapping with a key a line, and what follows it, if
    all of them can be read.  There are no more than `fuel`. -/
def blockEntries (handles : Handles) :
    Nat → List Token → List Entry × Option (List Token)
  | _, ⟨.blockEnd, _⟩ :: rest => ([], some rest)
  | fuel + 1, ⟨.key, _⟩ :: rest =>
      match optional? handles .inBlock rest with
      | none => ([], none)
      | some (key, behind) =>
          match entry handles .inBlock key behind with
          | (found, none) => ([found], none)
          | (found, some others) =>
              let (entries, after) := blockEntries handles fuel others
              (found :: entries, after)
  | _, _ => ([], none)

/-- The key of an entry in braces and the entry.  A key that no colon
    makes one has no value. -/
def flowEntry? (handles : Handles) :
    List Token → Option (Entry × Option (List Token))
  | ⟨.key, _⟩ :: rest =>
      (optional? handles .keyInBraces rest).map
        fun (key, behind) => entry handles .valueInBraces key behind
  | tokens =>
      (value? handles .keyInBraces tokens).map fun (key, behind) =>
        (⟨key, some ⟨.unwritten, key.mark⟩⟩, some behind)

/-- The entries of a mapping in braces, and what follows it, if all of
    them can be read.  A comma may stand behind the last one.  There are
    no more than `fuel`. -/
def flowEntries (handles : Handles) :
    Nat → List Token → List Entry × Option (List Token)
  | _, ⟨.closeBrace, _⟩ :: rest => ([], some rest)
  | fuel + 1, tokens =>
      match flowEntry? handles tokens with
      | none => ([], none)
      | some (found, some (⟨.comma, _⟩ :: others)) =>
          let (entries, after) := flowEntries handles fuel others
          (found :: entries, after)
      | some (found, some (⟨.closeBrace, _⟩ :: others)) =>
          ([found], some others)
      | some (found, _) => ([found], none)
  | 0, _ => ([], none)

/-! ## Roots -/

/-- Whether some tokens are all that may follow a root. -/
def isClosing (tokens : List Token) : Bool :=
  tokens.all (·.piece = .documentEnd)

/-- A document with a root, which is complete if nothing but its end
    follows. -/
def ofRoot (root : Root) (rest : Option (List Token)) : Document :=
  ⟨some root, rest.any isClosing⟩

/-- The document of which nothing can be read. -/
def unreadable : Document := ⟨none, false⟩

/-- The document whose root comes next. -/
def rooted (handles : Handles) (tokens : List Token) : Document :=
  let mark := (tokens.head?.map Token.mark).getD .start
  match properties? handles tokens with
  | none => unreadable
  | some (_, ⟨.blockMapping, _⟩ :: rest) =>
      let (entries, others) := blockEntries handles rest.length rest
      ofRoot (.entries mark entries) others
  | some (_, ⟨.openBrace, _⟩ :: rest) =>
      let (entries, others) := flowEntries handles rest.length rest
      ofRoot (.entries mark entries) others
  | some _ =>
      match value? handles .inBlock tokens with
      | none => unreadable
      | some (found, rest) => ofRoot (.value found) (some rest)

/-- Whether a document without a root ends in front of a piece. -/
def isOutside : Piece → Bool
  | .directive _ | .documentStart | .documentEnd => true
  | _ => false

/-- What follows the marker in front of a document, and the meanings of
    handles that the directives in front of it give.  A document has one
    version at most, and a handle one meaning. -/
def start? (hasVersion : Bool) (handles : Handles) :
    List Token → Option (Handles × List Token)
  | ⟨.directive (.version major minor), _⟩ :: rest =>
      if hasVersion || major ≠ 1 || (minor ≠ 1 && minor ≠ 2) then none
      else start? true handles rest
  | ⟨.directive (.handle handle name), _⟩ :: rest =>
      if (handles.lookup handle).isSome then none
      else start? hasVersion (handles ++ [(handle, name)]) rest
  | ⟨.documentStart, _⟩ :: rest => some (handles, rest)
  | _ => none

/-- Whether a document has a marker in front of it. -/
def isMarked : List Token → Bool
  | ⟨.directive _, _⟩ :: _ | ⟨.documentStart, _⟩ :: _ => true
  | _ => false

/-- The document made of some tokens.  Behind its marker the root may be
    missing. -/
def ofTokens (tokens : List Token) : Document :=
  if isMarked tokens then
    match start? false [] tokens with
    | none => unreadable
    | some (handles, rest) =>
        if rest.head?.all fun token => isOutside token.piece then
          ⟨none, isClosing rest⟩
        else rooted handles rest
  else if tokens.isEmpty then ⟨none, true⟩
  else rooted [] tokens

/-- The document that a text writes. -/
def read (text : String) : Document := ofTokens (Lexer.tokens text)

end Document

end TimingScript.Settings
