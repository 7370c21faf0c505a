import TimingScript.Main
import TimingScript.Parameter.Register
import TimingScript.Proofs.Bracket
import TimingScript.Proofs.Reading
import TimingScript.Proofs.Yield
import TimingScript.Proofs.Growth
import TimingScript.Proofs.Nesting
import TimingScript.Proofs.Lines
import TimingScript.Proofs.Nesting.Distance
import TimingScript.Proofs.Nesting.Verdict
import TimingScript.Proofs.Rules
import TimingScript.Proofs.Residues
import TimingScript.Proofs.Written
import TimingScript.Proofs.Ignored
import TimingScript.Proofs.Bytes
import TimingScript.Proofs.Disassembly
import TimingScript.Proofs.Lockstep
import TimingScript.Proofs.BitField
import TimingScript.Proofs.SliceLine
import TimingScript.Proofs.Relocation
import TimingScript.Proofs.Concatenation
import TimingScript.Proofs.Rollover
import TimingScript.Proofs.Atomicity
import TimingScript.Proofs.Session
import TimingScript.Proofs.Blame
import TimingScript.Proofs.FirstError
import TimingScript.Proofs.Numerals
import TimingScript.Proofs.Words
import TimingScript.Proofs.Reassembly
import TimingScript.Proofs.Agreement
import TimingScript.Proofs.Spacing
import TimingScript.Proofs.Retiming
import TimingScript.Proofs.Accounting
import TimingScript.Proofs.Attribution
import TimingScript.Proofs.Locality
import TimingScript.Proofs.LineEnds
import TimingScript.Proofs.Transaction
import TimingScript.Proofs.Nesting.Jump
import TimingScript.Proofs.Nesting.Unclosed
import TimingScript.Proofs.Hexadecimal
import TimingScript.Proofs.Tables
import TimingScript.Proofs.Dump
import TimingScript.Proofs.Runs
import TimingScript.Proofs.Waiting
import TimingScript.Proofs.Exits
import TimingScript.Proofs.Spelling
import TimingScript.Proofs.Division
import TimingScript.Proofs.Printing
import TimingScript.Proofs.Arguments
import TimingScript.Proofs.Operands
import TimingScript.Proofs.Verbatim
import TimingScript.Proofs.Register
import TimingScript.Proofs.Chronicle
