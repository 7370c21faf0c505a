/-! # Binary fractions — 53 significant bits

    A positive number is kept with 53 significant bits as a whole
    multiple of a power of two.  Rounding a quotient takes the nearest
    such number, and of two equally near ones the one whose last bit is
    zero.  Exponents are unbounded. -/

namespace TimingScript.Decimal

/-- The number `significand * 2 ^ exponent`. -/
structure Binary where
  significand : Nat
  exponent : Int
deriving DecidableEq, Repr

namespace Binary

/-- The number of significant bits. -/
def precision : Nat := 53

/-- The least number with that many bits. -/
def leastSignificand : Nat := Nat.pow 2 (precision - 1)

/-- A number as a fraction of whole numbers, with a power of two below
    the line. -/
def fraction (b : Binary) : Nat × Nat :=
  match b.exponent with
  | .ofNat n => (b.significand * Nat.pow 2 n, 1)
  | .negSucc n => (b.significand, Nat.pow 2 (n + 1))

/-- A quotient rounded to the nearest whole number, a half to the even
    neighbour. -/
def roundQuotient (num den : Nat) : Nat :=
  let low := num / den
  let twice := 2 * (num % den)
  if twice < den then low
  else if den < twice then low + 1
  else low + low % 2

/-- The quotient `num / den` in units of `2 ^ exponent`, as a fraction. -/
def inUnits (num den : Nat) : Int → Nat × Nat
  | .ofNat n => (num, den * Nat.pow 2 n)
  | .negSucc n => (num * Nat.pow 2 (n + 1), den)

/-- The unit that gives the quotient 53 bits before the point.  The
    lengths of numerator and denominator fix it up to one place. -/
def unit (num den : Nat) : Int :=
  let guess : Int := num.log2 - den.log2 - (precision - 1 : Nat)
  let (n, d) := inUnits num den guess
  if n / d < leastSignificand then guess - 1 else guess

/-- The binary fraction nearest to a quotient, among the multiples of
    `2 ^ exponent` that have no more than 53 significant bits. -/
def nearestMultiple (num den : Nat) (exponent : Int) : Binary :=
  let (n, d) := inUnits num den exponent
  let rounded := roundQuotient n d
  if rounded = 2 * leastSignificand then ⟨leastSignificand, exponent + 1⟩
  else ⟨rounded, exponent⟩

/-- The binary fraction nearest to a positive quotient. -/
def nearest (num den : Nat) : Binary :=
  nearestMultiple num den (unit num den)

/-! ## Numbers of 64 bits -/

/-- The least exponent of a number that is stored in 64 bits. -/
def leastExponent : Int := -1074

/-- The greatest one. -/
def greatestExponent : Int := 971

/-- The number of 64 bits nearest to a positive quotient, if that is not
    too large.  Small numbers have fewer significant bits. -/
def nearestStored? (num den : Nat) : Option Binary :=
  let found :=
    nearestMultiple num den (max (unit num den) leastExponent)
  if found.exponent ≤ greatestExponent then some found else none

end Binary

end TimingScript.Decimal
