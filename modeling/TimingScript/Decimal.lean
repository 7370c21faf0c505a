/-! # Decimals — numbers with a decimal point

    A decimal is a whole number of units of a power of ten.  It is
    written positionally, however long that gets: zeros fill the places
    up to the point.  A whole number has no point, unless one is asked
    for. -/

namespace TimingScript

/-- The number `digits * 10 ^ exponent`. -/
structure Decimal where
  digits : Nat
  exponent : Int
deriving DecidableEq, Repr

namespace Decimal

/-- A decimal with `places` digits after the point. -/
def withPoint (digits : List Char) (places : Nat) : List Char :=
  let filled := List.leftpad (places + 1) '0' digits
  let whole := filled.length - places
  filled.take whole ++ '.' :: filled.drop whole

/-- A decimal without exponent. -/
def text (d : Decimal) : String :=
  let digits := Nat.toDigits 10 d.digits
  String.ofList <|
    match d.exponent with
    | .ofNat zeros => digits ++ List.replicate zeros '0'
    | .negSucc n => withPoint digits (n + 1)

/-- A decimal without exponent and with a point, behind which a whole
    number has a zero. -/
def pointedText (d : Decimal) : String :=
  match d.exponent with
  | .ofNat _ => d.text ++ ".0"
  | .negSucc _ => d.text

/-- A decimal as a fraction of whole numbers. -/
def fraction (d : Decimal) : Nat × Nat :=
  match d.exponent with
  | .ofNat n => (d.digits * Nat.pow 10 n, 1)
  | .negSucc n => (d.digits, Nat.pow 10 (n + 1))

/-- A power of ten that is not above a decimal other than zero, from
    `2 ^ 10 > 10 ^ 3`. -/
def lowerPower (d : Decimal) : Int :=
  (d.digits.log2 * 3 / 10 : Nat) + d.exponent

/-- A power of ten above a decimal, from `2 ^ 3 < 10`. -/
def upperPower (d : Decimal) : Int :=
  (d.digits.log2 / 3 + 1 : Nat) + d.exponent

/-- The decimal that is zero. -/
def zero : Decimal := ⟨0, 0⟩

end Decimal

end TimingScript
