import TimingScript.Settings.Cursor
import TimingScript.Text.Numeral

/-! # Tags — names for the kinds of values

    A tag says which kind of value is meant.  It is written in full, or
    as a handle and a suffix, where the handle stands for the beginning
    of a name.  Two handles have a meaning of their own; directives in
    front of a document give others, or other meanings. -/

namespace TimingScript.Settings

/-! ## Names -/

/-- Signs that names of kinds may hold next to letters and digits. -/
def isUriSign (c : Char) : Bool := ";/?:@&=+$.!~*'()".toList.contains c

/-- The characters of a name of a kind.  Outside of a tag some signs keep
    their meaning. -/
def isUri (isOpen : Bool) (c : Char) : Bool :=
  isNamed c || isUriSign c || (isOpen && (c = ',' || c = '[' || c = ']'))

/-- The number of octets behind the first one of a character. -/
def octetsBehind? (octet : Nat) : Option Nat :=
  if octet < 0x80 then some 0
  else if 0xC0 ≤ octet && octet < 0xE0 then some 1
  else if 0xE0 ≤ octet && octet < 0xF0 then some 2
  else if 0xF0 ≤ octet && octet < 0xF8 then some 3
  else none

/-- The number of octets to come behind an octet, where `pending` were to
    come with it. -/
def octetsAfter? (pending octet : Nat) : Option Nat :=
  match pending with
  | 0 => octetsBehind? octet
  | n + 1 => if 0x80 ≤ octet && octet < 0xC0 then some n else none

/-- The name at a place and the cursor behind it.  An octet that is
    written with a percent sign is kept as the character of its number;
    those of one character stand together. -/
def uri? (isOpen : Bool) (pending : Nat) (mark : Mark) :
    List Char → Option (List Char × Cursor)
  | [] => if pending = 0 then some ([], ⟨mark, []⟩) else none
  | '%' :: a :: b :: rest =>
      match Text.Numeral.value? 16 [a, b] with
      | none => none
      | some octet =>
          match octetsAfter? pending octet with
          | none => none
          | some after =>
              (uri? isOpen after (mark.right 3) rest).map
                fun (text, next) => (Char.ofNat octet :: text, next)
  | c :: rest =>
      if pending ≠ 0 || c = '%' then none
      else if isUri isOpen c then
        (uri? isOpen 0 (mark.right 1) rest).map
          fun (text, next) => (c :: text, next)
      else some ([], ⟨mark, c :: rest⟩)

/-- The name at a cursor, up to its first zero octet. -/
def name? (isOpen : Bool) (cursor : Cursor) : Option (String × Cursor) :=
  (uri? isOpen 0 cursor.mark cursor.rest).map fun (text, next) =>
    (String.ofList (text.takeWhile (· != '\x00')), next)

/-- The name at a cursor, which has to have a character. -/
def someName? (isOpen : Bool) (cursor : Cursor) :
    Option (String × Cursor) :=
  (name? isOpen cursor).filter fun (_, next) =>
    cursor.mark.column < next.mark.column

/-- The handle at a cursor and the cursor behind it: a name between two
    exclamation marks, of which the second may be missing. -/
def handle? (cursor : Cursor) : Option (String × Cursor) :=
  if cursor.rest.head? = some '!' then
    let (text, next) := (cursor.advance 1).run isNamed
    if next.rest.head? = some '!' then
      some (String.ofList ('!' :: text ++ ['!']), next.advance 1)
    else some (String.ofList ('!' :: text), next)
  else none

/-- Whether a handle ends with its own exclamation mark. -/
def isClosed (handle : String) : Bool :=
  1 < handle.length && handle.toList.getLast? = some '!'

/-! ## Tags -/

/-- A tag as it is written: what follows the handle, and the handle, if
    there is one. -/
structure Tag where
  handle : Option String
  suffix : String
deriving DecidableEq, Repr

namespace Tag

/-- A tag in full, between angle brackets. -/
def full? (cursor : Cursor) : Option (Tag × Cursor) :=
  match someName? true (cursor.advance 2) with
  | none => none
  | some (text, next) =>
      if next.rest.head? = some '>' then
        some (⟨none, text⟩, next.advance 1)
      else none

/-- A tag with a handle.  A handle that is not closed belongs to the
    suffix, where an exclamation mark alone is a tag in full. -/
def short? (cursor : Cursor) : Option (Tag × Cursor) :=
  match handle? cursor with
  | none => none
  | some (handle, behind) =>
      if isClosed handle then
        (someName? false behind).map
          fun (text, next) => (⟨some handle, text⟩, next)
      else
        (name? false behind).map fun (text, next) =>
          let suffix := String.ofList (handle.toList.drop 1) ++ text
          if suffix.isEmpty then (⟨none, "!"⟩, next)
          else (⟨some "!", suffix⟩, next)

/-- The tag at a cursor.  A word ends behind it, or a comma follows in
    brackets. -/
def read? (inFlow : Bool) (cursor : Cursor) : Option (Tag × Cursor) :=
  let isFull := cursor.rest.tail.head? = some '<'
  (if isFull then full? cursor else short? cursor).filter
    fun (_, next) =>
      endsWord next.rest || (inFlow && next.rest.head? = some ',')

/-- The handles that have a meaning of their own. -/
def standardHandles : List (String × String) :=
  [("!", "!"), ("!!", "tag:yaml.org,2002:")]

/-- The name that a tag stands for, where some handles were given a
    meaning. -/
def resolve? (handles : List (String × String)) (tag : Tag) :
    Option String :=
  match tag.handle with
  | none => some tag.suffix
  | some handle =>
      ((handles ++ standardHandles).lookup handle).map (· ++ tag.suffix)

/-- The tag of truth values. -/
def truth : String := "tag:yaml.org,2002:bool"

/-- The tag of floating point numbers. -/
def float : String := "tag:yaml.org,2002:float"

/-- The tag of whole numbers. -/
def integer : String := "tag:yaml.org,2002:int"

/-- The tag of a value that is not given. -/
def null : String := "tag:yaml.org,2002:null"

end Tag

/-! ## Anchors -/

/-- The cursor behind the name of an anchor or an alias. -/
def anchorName? (cursor : Cursor) : Option Cursor :=
  let (name, next) := cursor.run isNamed
  let isEnd := endsWord next.rest
    || next.rest.head?.any "?:,]\x7d%@`".toList.contains
  if !name.isEmpty && isEnd then some next else none

/-! ## Directives -/

/-- The lines in front of a document that begin with a percent sign. -/
inductive Directive where
  /-- The version of the language. -/
  | version (major minor : Nat)
  /-- The beginning of a name that a handle stands for. -/
  | handle (handle name : String)
deriving DecidableEq, Repr

namespace Directive

/-- A number of at most nine digits. -/
def number? (cursor : Cursor) : Option (Nat × Cursor) :=
  let (digits, next) := cursor.run Char.isDigit
  if digits.length ≤ 9 then
    (Text.Numeral.value? 10 digits).map fun n => (n, next)
  else none

/-- The numbers of a version. -/
def version? (cursor : Cursor) : Option (Directive × Cursor) := do
  let (major, behind) ← number? cursor.skipWhite
  if behind.rest.head? = some '.' then
    let (minor, next) ← number? (behind.advance 1)
    some (version major minor, next)
  else none

/-- A handle and what it stands for. -/
def handle? (cursor : Cursor) : Option (Directive × Cursor) := do
  let (text, behind) ← Settings.handle? cursor.skipWhite
  if (isClosed text || text = "!") && behind.rest.head?.any isWhite then
    let (name, next) ← someName? true behind.skipWhite
    if endsWord next.rest then some (handle text name, next) else none
  else none

/-- The directive behind a percent sign, which takes up its line. -/
def read? (cursor : Cursor) : Option (Directive × Cursor) := do
  let (word, behind) := cursor.run isNamed
  let (directive, last) ←
    if !endsWord behind.rest then none
    else if word = "YAML".toList then version? behind
    else if word = "TAG".toList then handle? behind
    else none
  let next ← last.finishLine
  some (directive, next)

end Directive

end TimingScript.Settings
