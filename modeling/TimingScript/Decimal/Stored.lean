import TimingScript.Decimal.Shortest

/-! # Stored decimals — decimals as numbers of 64 bits

    A number of 64 bits stands for the decimals that round to it.  A
    decimal is stored by rounding it and taking the shortest decimal that
    rounds to the same number. -/

namespace TimingScript.Decimal

/-- A power of ten above all numbers of 64 bits. -/
def greatestPower : Int := 309

/-- A power of ten below half of the least number of 64 bits. -/
def leastPower : Int := -325

/-- The shortest decimal for the number of 64 bits that a decimal rounds
    to.  A decimal that is too large has none. -/
def stored? (d : Decimal) : Option Decimal :=
  if d.digits = 0 then some zero
  else if greatestPower ≤ d.lowerPower then none
  else if d.upperPower ≤ leastPower then some zero
  else
    let (num, den) := d.fraction
    (Binary.nearestStored? num den).map fun found =>
      if found.significand = 0 then zero else shortest found

end TimingScript.Decimal
