import TimingScript.Diagnostic
import TimingScript.Image
import TimingScript.Listing

/-! # Programs — what a compilation yields -/

namespace TimingScript

/-- A compiled source text. -/
structure Program where
  image : Image
  instructions : Array Instruction
  warnings : Array Warning
  listing : Array ListingRow
deriving DecidableEq

end TimingScript
