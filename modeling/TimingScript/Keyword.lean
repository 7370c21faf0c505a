import TimingScript.Opcode

/-! # Keywords — the words that may open a line

    A line of source begins with the mnemonic of an operation or with
    `SLICE`, the one shorthand, which stands for an AND and an OR. -/

namespace TimingScript

/-- The first word of a line that says something. -/
inductive Keyword where
  | operation (opcode : Opcode)
  | slice
deriving DecidableEq, Repr

namespace Keyword

/-- The spelling of a keyword. -/
def text : Keyword → String
  | operation opcode => opcode.mnemonic
  | slice => "SLICE"

/-- The keyword that a word spells; letter case matters. -/
def ofWord? (word : String) : Option Keyword :=
  if word = slice.text then some slice
  else (Opcode.ofMnemonic? word).map operation

/-- Every keyword is read from its spelling. -/
theorem ofWord?_text (keyword : Keyword) :
    ofWord? keyword.text = some keyword := by
  cases keyword with
  | operation opcode => cases opcode <;> decide
  | slice => decide

end Keyword

end TimingScript
