import TimingScript.Parameter

/-! # Registers — one parameter under a sequence of operations

    A register holds a parameter and starts at zero.  Each operation
    sets it; a checked conversion that is refused leaves it in place. -/

namespace TimingScript.Parameter

/-- The operations on a register. -/
inductive Operation where
  /-- Load a number that has to fit. -/
  | load (n : Int)
  /-- Load a number that always fits. -/
  | widen (n : UInt32)
  /-- Load the low bits of an unsigned number. -/
  | mask (n : Nat)
  /-- Load the residue of a signed number. -/
  | wrap (n : Int)
  /-- Shift towards the most significant end, losing what leaves it. -/
  | shiftLeft (count : Nat)
  /-- Shift towards the least significant end, losing what leaves it. -/
  | shiftRight (count : Nat)
  /-- Exchange zeros and ones. -/
  | complement
  /-- Load the largest parameter. -/
  | maximum
  /-- Load a parameter from its six bytes, most significant first. -/
  | read (bytes : Vector UInt8 6)
deriving DecidableEq, Repr

/-- Loads a parameter from the first six bytes of a list; a list that is
    too short is filled up with zeros. -/
def Operation.ofBytes (bytes : List UInt8) : Operation :=
  .read (Vector.ofFn fun i => bytes.getD i 0)

/-- What one operation makes of the register. -/
def Operation.apply (register : Parameter) :
    Operation → Except RangeError Parameter
  | .load n => checked n
  | .widen n => .ok (masked n.toNat)
  | .mask n => .ok (masked n)
  | .wrap n => .ok (wrapping n)
  | .shiftLeft count => .ok (register.shiftedLeft count)
  | .shiftRight count => .ok (register.shiftedRight count)
  | .complement => .ok (~~~register)
  | .maximum => .ok max
  | .read bytes => .ok (Parameter.ofBytes bytes.toList)

/-- The register after an operation: a refused one leaves it alone. -/
def step (register : Parameter) (operation : Operation) : Parameter :=
  match operation.apply register with
  | .ok result => result
  | .error _ => register

/-- The register after a sequence of operations, from zero. -/
def run (operations : List Operation) : Parameter :=
  operations.foldl step 0

end TimingScript.Parameter
