import TimingScript.Decimal
import TimingScript.Decimal.Binary

/-! # Shortest decimals — the fewest digits that read back

    Between a binary fraction and its two neighbours lie the numbers
    that round to it.  Grids of decimals are tried from coarse to fine,
    and the first grid with a point among those numbers gives the
    decimal: the nearer of the fraction's two neighbours on the grid,
    and the upper one where they are equally near. -/

namespace TimingScript.Decimal

/-- The numbers that round to a binary fraction, as multiples of a
    common unit `1 / scale`: `value` stands between `low` and `high`,
    which belong to the interval if `closed` holds. -/
structure Interval where
  low : Nat
  value : Nat
  high : Nat
  scale : Nat
  closed : Bool

/-- The interval that rounds to a binary fraction.  Its ends are halfway
    to the neighbours, the lower one of which is nearer when the
    significand is the least possible. -/
def Interval.around (b : Binary) : Interval :=
  let below := if b.significand = Binary.leastSignificand then 1 else 2
  let quarter := (⟨1, b.exponent - 2⟩ : Binary).fraction
  { low := (4 * b.significand - below) * quarter.1
    value := 4 * b.significand * quarter.1
    high := (4 * b.significand + 2) * quarter.1
    scale := quarter.2
    closed := b.significand % 2 = 0 }

/-- The nearest grid point in the interval on the grid of multiples of
    `10 ^ exponent`, if there is one. -/
def Interval.gridPoint? (i : Interval) (exponent : Int) : Option Nat :=
  let (factor, step) := match exponent with
    | .ofNat n => (1, i.scale * Nat.pow 10 n)
    | .negSucc n => (Nat.pow 10 (n + 1), i.scale)
  let value := i.value * factor
  let lower := value / step
  let upper := lower + 1
  let within (point : Nat) : Bool :=
    if i.closed then i.low * factor ≤ point * step && point * step ≤ i.high * factor
    else i.low * factor < point * step && point * step < i.high * factor
  let lowerIsNearer := value - lower * step < upper * step - value
  if within lower && (lowerIsNearer || !within upper) then some lower
  else if within upper then some upper
  else none

/-- Tries the grids from `10 ^ exponent` downwards. -/
def Interval.search (i : Interval) (exponent : Int) : Nat → Decimal
  | 0 => ⟨0, exponent⟩
  | fuel + 1 =>
      match i.gridPoint? exponent with
      | some digits => ⟨digits, exponent⟩
      | none => i.search (exponent - 1) fuel

/-- The decimal with the fewest digits that rounds to a binary
    fraction.  The first grid is coarser than the number itself, the
    last one finer than the unit of the interval. -/
def shortest (b : Binary) : Decimal :=
  let i := Interval.around b
  let first := (Nat.toDigits 10 (i.value / i.scale)).length
  i.search first (first + i.scale.log2 + 2)

end TimingScript.Decimal
