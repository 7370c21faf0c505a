import TimingScript.Text.Invisible

/-! # Quotations — texts inside of messages

    A message quotes a text between double quotes.  A quote and a
    backslash in it have a backslash in front, and characters that cannot
    be seen are written by a letter or by their number. -/

namespace TimingScript.Text.Quotation

/-- The letters and signs that stand for characters behind a
    backslash. -/
def signs : List (Char × Char) :=
  [('\x00', '0'), ('\t', 't'), ('\n', 'n'), ('\r', 'r'), ('"', '"'),
    ('\\', '\\')]

/-- A character in a quotation. -/
def glyph (c : Char) : List Char :=
  match signs.lookup c with
  | some sign => ['\\', sign]
  | none =>
      if isInvisible c then
        "\\u\x7b".toList ++ Nat.toDigits 16 c.toNat ++ ['\x7d']
      else [c]

/-- A text between quotes. -/
def quote (text : String) : String :=
  String.ofList ('"' :: text.toList.flatMap glyph ++ ['"'])

end TimingScript.Text.Quotation
