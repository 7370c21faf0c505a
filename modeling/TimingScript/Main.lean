import TimingScript.Command

/-! # The program — arguments, files and streams

    `assemble SOURCE -o OUTPUT [--list] [--config FILE]
    [--clock-frequency N]` compiles a source file, `dump IMAGE` prints an
    image as a table. -/

namespace TimingScript.CommandLine

/-- What the arguments ask for. -/
inductive Request where
  | assemble (job : Job)
  | dump (path : String)

/-- The arguments that the program takes. -/
def usage : String :=
  "usage: assemble SOURCE -o OUTPUT [--list] [--config FILE] [--clock-frequency N] | dump IMAGE"

/-- Options that were read so far; a path that was not given is empty. -/
def readOptions (job : Job) : List String → Option Job
  | [] => if job.source = "" || job.output = "" then none else some job
  | "--list" :: rest => readOptions { job with list := true } rest
  | "-o" :: path :: rest | "--output" :: path :: rest =>
      readOptions { job with output := path } rest
  | "--config" :: path :: rest =>
      readOptions { job with settings := some path } rest
  | "--clock-frequency" :: digits :: rest =>
      match (Text.Numeral.value? 10 digits.toList).filter (· < Nat.pow 2 64) with
      | none => none
      | some n => readOptions { job with frequency := some n } rest
  | path :: rest =>
      if job.source = "" && !path.startsWith "-" then
        readOptions { job with source := path } rest
      else none

/-- The request that the arguments make. -/
def Request.read? : List String → Option Request
  | "assemble" :: options =>
      (readOptions ⟨"", "", none, none, false⟩ options).map .assemble
  | ["dump", path] => some (.dump path)
  | _ => none

/-- The fault behind an error of the system. -/
def faultOf : IO.Error → SystemFault
  | .noFileOrDirectory .. => .notFound
  | error => .other (toString error)

/-- The bytes of a file. -/
def readBytes (path : String) : IO (Except SystemFault (Array UInt8)) :=
  try
    return .ok (← IO.FS.readBinFile path).data
  catch error =>
    return .error (faultOf error)

/-- Writes a file as a whole; yields the reason if that fails. -/
def writeBytes (path : String) (bytes : Array UInt8) :
    IO (Option SystemFault) :=
  try
    IO.FS.writeBinFile path ⟨bytes⟩
    return none
  catch error =>
    return some (faultOf error)

/-- The files that a job reads. -/
def filesOf (job : Job) : IO Files := do
  let source ← readBytes job.source
  let path := job.settings.getD job.source
  let settings ← readBytes path
  return { Files.empty with
    contents := fun other =>
      if other = job.source then source
      else if other = path then settings
      else .error .notFound }

/-- Carries out a request.  A job that fails to write is judged anew, as
    one that is refused its output. -/
def Request.perform : Request → IO Exit
  | .dump path => do
      match ← readBytes path with
      | .error fault =>
          return .failure [] s!"failed to read input file: {fault.message}"
      | .ok image => return Image.dumpExit image
  | .assemble job => do
      let files ← filesOf job
      let report := job.run files
      match report.result with
      | .error _ => return report.exit
      | .ok program =>
          match ← writeBytes job.output program.image with
          | none => return report.exit
          | some fault =>
              return (job.run (files.refuse job.output fault)).exit

end TimingScript.CommandLine

open TimingScript.CommandLine in
/-- The program: texts go to their streams, the code to the system. -/
def main (args : List String) : IO UInt32 := do
  match Request.read? args with
  | none =>
      (← IO.getStderr).putStrLn usage
      return 2
  | some request =>
      let exit ← request.perform
      (← IO.getStdout).putStr exit.stdout
      (← IO.getStderr).putStr exit.stderr
      return UInt32.ofNat exit.code
