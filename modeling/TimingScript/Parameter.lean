import TimingScript.Text.Padding

/-! # Parameters — the 48-bit operand of an instruction

    Every instruction carries one unsigned operand of 48 bits.  Whatever
    is computed at a greater width is brought back either by a checked
    conversion, which refuses a number that does not fit, or by
    reduction modulo 2^48.  The bound is part of the type, so no
    operation can leave it. -/

namespace TimingScript

/-- The operand of an instruction, an unsigned number of 48 bits. -/
abbrev Parameter := BitVec 48

namespace Parameter

/-- The number of bits of a parameter. -/
def bits : Nat := 48

/-- The number of parameters. -/
def modulus : Nat := Nat.pow 2 bits

/-- The largest parameter: all bits are one. -/
def max : Parameter := BitVec.allOnes 48

/-! ## Conversions -/

/-- Why a number is not a parameter as it stands. -/
inductive RangeError where
  | tooLarge (value : Nat)
  | negative (value : Int)
deriving DecidableEq, Repr

/-- The wording of a range error. -/
def RangeError.message : RangeError → String
  | .tooLarge n =>
      s!"{n} (hex {Text.markedHex n}) does not fit into a 48-bit parameter"
  | .negative n => s!"{n} is negative but parameters are unsigned"

/-- The number itself, refused below zero and from 2^48 on. -/
def checked (n : Int) : Except RangeError Parameter :=
  if n < 0 then .error (.negative n)
  else if modulus ≤ n.toNat then .error (.tooLarge n.toNat)
  else .ok (BitVec.ofNat 48 n.toNat)

/-- The low 48 bits of an unsigned number. -/
def masked (n : Nat) : Parameter := BitVec.ofNat 48 n

/-- The residue of a signed number modulo 2^48; -1 becomes `max`. -/
def wrapping (n : Int) : Parameter := BitVec.ofInt 48 n

/-! ## Shifts -/

/-- A parameter shifted towards its most significant end.  What leaves
    it is lost, so 48 places leave nothing. -/
def shiftedLeft (p : Parameter) (count : Nat) : Parameter :=
  if bits ≤ count then 0 else p <<< count

/-- A parameter shifted towards its least significant end. -/
def shiftedRight (p : Parameter) (count : Nat) : Parameter :=
  if bits ≤ count then 0 else p >>> count

/-! ## Bytes -/

/-- The six bytes of a parameter, most significant first. -/
def bytes (p : Parameter) : List UInt8 :=
  [5, 4, 3, 2, 1, 0].map fun i => UInt8.ofNat (p.toNat >>> (8 * i))

/-- The parameter written by bytes, most significant first. -/
def ofBytes (bytes : List UInt8) : Parameter :=
  masked (bytes.foldl (fun n byte => n * 256 + byte.toNat) 0)

/-! ## Text -/

/-- The decimal digits of a parameter. -/
def text (p : Parameter) : String := toString p.toNat

/-- All twelve hexadecimal digits of a parameter behind `0x`. -/
def fullHex (p : Parameter) : String :=
  "0x" ++ Text.paddedHex 12 p.toNat

end Parameter

end TimingScript
