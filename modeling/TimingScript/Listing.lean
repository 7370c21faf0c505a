import TimingScript.Instruction
import TimingScript.Source.Lines
import TimingScript.Text.Blank

/-! # Listings — what was made of each line

    A listing has a row for each instruction: the line it comes from, a
    mark if `SLICE` made it, the source of that line, and the
    instruction as bytes and in source form. -/

namespace TimingScript

/-- One row of a listing. -/
structure ListingRow where
  line : Source.LineNumber
  /-- The text of the line, without blanks at its ends. -/
  source : String
  /-- Whether the instruction was made by `SLICE`. -/
  synthetic : Bool
  instruction : Instruction
deriving DecidableEq, Repr

/-- A row as text.  Numbers have five columns and sources forty; what is
    longer is not cut. -/
def ListingRow.text (row : ListingRow) : String :=
  Text.alignRight 5 (toString row.line)
    ++ (if row.synthetic then "+" else " ")
    ++ "| " ++ Text.alignLeft 40 row.source ++ row.instruction.row

end TimingScript
