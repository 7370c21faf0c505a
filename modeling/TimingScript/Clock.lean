import TimingScript.Decimal.Shortest

/-! # Clocks — spans of time as ticks

    The sequencer counts time in ticks of its clock.  A span given in a
    unit of time is converted with the clock's frequency; the part of a
    tick that remains is dropped, towards zero. -/

namespace TimingScript

/-- The clock of a sequencer, by its ticks per second. -/
structure Clock where
  frequency : Nat
deriving DecidableEq, Repr

/-- The units in which a span of time can be given. -/
inductive TimeUnit where
  | seconds
  | milliseconds
  | microseconds
  | nanoseconds
deriving DecidableEq, Repr

namespace TimeUnit

/-- The unit that an identifier names. -/
def ofName? : String → Option TimeUnit
  | "sec" => some seconds
  | "ms" => some milliseconds
  | "us" => some microseconds
  | "ns" => some nanoseconds
  | _ => none

/-- How many of a unit make a second. -/
def perSecond : TimeUnit → Nat
  | seconds => 1
  | milliseconds => 1000
  | microseconds => 1000000
  | nanoseconds => 1000000000

end TimeUnit

namespace Clock

/-- The clock of a sequencer that is not configured otherwise: 40 MHz. -/
def standard : Clock := ⟨40000000⟩

/-- Ticks in `amount` units of time, times the units in a second. -/
def scaled (clock : Clock) (amount : Int) : Int :=
  clock.frequency * amount

/-- The whole ticks in a span of time. -/
def ticks (clock : Clock) (unit : TimeUnit) (amount : Int) : Int :=
  (clock.scaled amount).tdiv unit.perSecond

/-- A span of time is exact if no part of a tick remains. -/
def isExact (clock : Clock) (unit : TimeUnit) (amount : Int) : Bool :=
  (clock.scaled amount).tmod unit.perSecond = 0

/-- The nanoseconds of one tick.  The frequency is rounded to 53
    significant bits and so is the quotient, which is then written with
    the fewest digits that tell it from its neighbours. -/
def period (clock : Clock) : String :=
  if clock.frequency = 0 then "inf"
  else
    let (num, den) := (Decimal.Binary.nearest clock.frequency 1).fraction
    (Decimal.shortest (Decimal.Binary.nearest (1000000000 * den) num)).text

end Clock

end TimingScript
