import TimingScript.Job

/-! # Exits — what a command leaves to its caller

    A command that carries out a job prints the listing, if there is one,
    and in the end says why the job failed.  A dump prints an image as a
    table, all of it or nothing. -/

namespace TimingScript

/-- What a command leaves to its caller: the exit code and the texts on
    the two output streams. -/
structure Exit where
  code : Nat
  stdout : String
  stderr : String
deriving DecidableEq, Repr

namespace Exit

/-- Lines of text, each with its end. -/
def unlines (lines : List String) : String :=
  String.join (lines.map (· ++ "\n"))

/-- A command that did what it was asked to. -/
def success (printed : List String) : Exit := ⟨0, unlines printed, ""⟩

/-- A command that failed for the reason given. -/
def failure (printed : List String) (reason : String) : Exit :=
  ⟨1, unlines printed, reason ++ "\n"⟩

end Exit

/-- The exit of the command that carries out a job. -/
def JobReport.exit (report : JobReport) : Exit :=
  match report.result with
  | .ok _ => .success report.printed
  | .error failure => .failure report.printed failure.text

/-- The exit of the command that dumps an image. -/
def Image.dumpExit (image : Image) : Exit :=
  match image.dump with
  | .ok rows => .success rows
  | .error fault =>
      .failure [] s!"input is not a valid program: {fault.message}"

end TimingScript
