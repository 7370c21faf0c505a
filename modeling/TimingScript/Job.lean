import TimingScript.Assembly
import TimingScript.Files
import TimingScript.Settings

/-! # Jobs — compiling files

    A job reads its settings, then its source, compiles it and writes
    the image.  Nothing is written before the compilation has succeeded,
    and a listing is printed before the image is written.  A job can be
    run with any reader of settings. -/

namespace TimingScript

/-! ## Failures -/

/-- What is done with a file. -/
inductive Access where
  | read
  | write
deriving DecidableEq, Repr

/-- The verb of an access. -/
def Access.verb : Access → String
  | read => "read"
  | write => "write"

/-- Why a job fails. -/
inductive Failure where
  | file (access : Access) (path : String) (fault : SystemFault)
  | source (path : String) (error : CompileError)
  /-- The settings are refused; the path is that of their document, where
      that is to blame. -/
  | settings (path : Option String) (fault : Settings.Fault)
deriving DecidableEq, Repr

namespace Failure

/-- The failure beneath a failure, where there is one. -/
def cause? : Failure → Option String
  | file access path fault =>
      some s!"failed to {access.verb} file {path}: {fault.message}"
  | source _ error => some error.text
  | settings _ _ => none

/-- The wording of a failure. -/
def text : Failure → String
  | file access path fault =>
      s!"I/O error: failed to {access.verb} file {path}: {fault.message}"
  | source path error => s!"{path}: {error.text}"
  | settings none fault => s!"bad configuration: {fault.message}"
  | settings (some path) fault =>
      s!"bad configuration: {path}: {fault.message}"

end Failure

/-! ## Jobs -/

/-- A source file to compile. -/
structure Job where
  source : String
  output : String
  /-- The path of a settings document. -/
  settings : Option String
  /-- A frequency that comes before that of the settings. -/
  frequency : Option Nat
  /-- Whether a listing is printed. -/
  list : Bool
deriving DecidableEq, Repr

/-- How a job ends: the files after it, what it printed, what was logged
    and its result. -/
structure JobReport where
  files : Files
  printed : List String
  log : List Event
  result : Except Failure Program

namespace Job

/-- The settings of a document. -/
def loadSettings (read : Settings.Reader) (files : Files) (path : String) :
    Except Failure Settings :=
  match files.readText path with
  | .error fault => .error (.file .read path fault)
  | .ok text =>
      (read text).mapError fun message =>
        .settings (some path) (.refused message)

/-- The settings of a job, if it names a document. -/
def givenSettings (job : Job) (read : Settings.Reader) (files : Files) :
    Except Failure (Option Settings) :=
  match job.settings with
  | none => .ok none
  | some path => (loadSettings read files path).map some

/-- The clock that a job compiles for. -/
def clock (job : Job) (read : Settings.Reader) (files : Files) :
    Except Failure Clock :=
  match job.givenSettings read files with
  | .error failure => .error failure
  | .ok settings =>
      (Settings.resolve settings job.frequency).mapError (.settings none)

/-- What is logged while the clock is determined. -/
def clockLog (job : Job) (read : Settings.Reader) (files : Files) :
    List Event :=
  job.settings.toList.map .readingSettings
    ++ (job.clock read files).toOption.toList.map .clockChosen

/-- The rows of a program's listing, if they are asked for. -/
def listing (job : Job) (program : Program) : List String :=
  if job.list then program.listing.toList.map ListingRow.text else []

/-- The summary of a program. -/
def summary (program : Program) : Event :=
  .compiled program.instructions.size program.image.size
    program.warnings.size

/-- Prints the listing of a compiled program and writes its image. -/
def deliver (job : Job) (files : Files) (log : List Event)
    (program : Program) : JobReport :=
  let printed := job.listing program
  let log := log ++ [summary program]
  match files.write job.output program.image with
  | .error fault =>
      ⟨files, printed, log, .error (.file .write job.output fault)⟩
  | .ok files =>
      let event := Event.wrote program.image.size job.output
      ⟨files, printed, log ++ [event], .ok program⟩

/-- Compiles the source of a job for a given clock. -/
def compile (job : Job) (files : Files) (log : List Event)
    (clock : Clock) : JobReport :=
  match files.readText job.source with
  | .error fault =>
      ⟨files, [], log, .error (.file .read job.source fault)⟩
  | .ok text =>
      let report := (Assembly.fresh clock).compile text
      let log := log ++ report.log.toList
      match report.result with
      | .error error => ⟨files, [], log, .error (.source job.source error)⟩
      | .ok program => job.deliver files log program

/-- Carries out a job whose settings are read by `read`: they come before
    the source. -/
def runWith (job : Job) (read : Settings.Reader) (files : Files) :
    JobReport :=
  let log := job.clockLog read files
  match job.clock read files with
  | .error failure => ⟨files, [], log, .error failure⟩
  | .ok clock => job.compile files log clock

end Job

end TimingScript
