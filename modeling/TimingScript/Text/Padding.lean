/-! # Padding — numbers and texts brought to a fixed width

    Listings and dumps are tables.  A column is filled up to its width,
    counted in characters, and never cut: a text that is already longer
    keeps all of its characters. -/

namespace TimingScript.Text

/-- A text moved to the right of a column of `width` characters. -/
def alignRight (width : Nat) (text : String) : String :=
  String.ofList (List.leftpad width ' ' text.toList)

/-- A text at the left of a column of `width` characters. -/
def alignLeft (width : Nat) (text : String) : String :=
  String.ofList (List.rightpad width ' ' text.toList)

/-- The lower-case hexadecimal digits of a number, without leading
    zeros. -/
def hex (n : Nat) : String :=
  String.ofList (Nat.toDigits 16 n)

/-- The hexadecimal digits of a number behind the mark `0x`. -/
def markedHex (n : Nat) : String :=
  "0x" ++ hex n

/-- At least `width` hexadecimal digits, filled up with zeros. -/
def paddedHex (width n : Nat) : String :=
  String.ofList (List.leftpad width '0' (Nat.toDigits 16 n))

/-- A byte as two hexadecimal digits. -/
def hexByte (byte : UInt8) : String :=
  paddedHex 2 byte.toNat

end TimingScript.Text
