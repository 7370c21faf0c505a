/-! # Numerals — the numbers of source text

    A numeral is a run of decimal digits, or a run of hexadecimal digits
    of either case behind `0x` or `0X`.  There is no sign and no
    separator, leading zeros are allowed, and the value has to stay
    below 2^63. -/

namespace TimingScript.Text.Numeral

/-- The value of a hexadecimal digit. -/
def digitValue? (c : Char) : Option Nat :=
  if '0' ≤ c ∧ c ≤ '9' then some (c.toNat - '0'.toNat)
  else if 'a' ≤ c ∧ c ≤ 'f' then some (c.toNat - 'a'.toNat + 10)
  else if 'A' ≤ c ∧ c ≤ 'F' then some (c.toNat - 'A'.toNat + 10)
  else none

/-- The value of a digit that is below `base`. -/
def digit? (base : Nat) (c : Char) : Option Nat :=
  (digitValue? c).filter (· < base)

/-- The value of a run of digits, continuing the number `acc`; `none`
    if a character is no digit. -/
def continue? (base acc : Nat) : List Char → Option Nat
  | [] => some acc
  | c :: rest =>
      match digit? base c with
      | none => none
      | some d => continue? base (acc * base + d) rest

/-- The value of a non-empty run of digits. -/
def value? (base : Nat) (digits : List Char) : Option Nat :=
  if digits.isEmpty then none else continue? base 0 digits

/-- The largest number that source text can hold. -/
def limit : Nat := Nat.pow 2 63 - 1

/-- The value of a numeral in either base, whatever its size. -/
def unbounded? : List Char → Option Nat
  | '0' :: 'x' :: digits => value? 16 digits
  | '0' :: 'X' :: digits => value? 16 digits
  | digits => value? 10 digits

/-- The number that a word writes, if it is a numeral. -/
def read? (token : String) : Option Nat :=
  (unbounded? token.toList).filter (· ≤ limit)

end TimingScript.Text.Numeral
