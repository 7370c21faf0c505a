/-! # Files — what a command can read and write

    Files are known by their paths.  The system may refuse to read a
    path, above all where there is no file, and it may refuse to open one
    for writing.  A file is emptied when it is opened for writing; what is
    written then stands at its front. -/

namespace TimingScript

/-- Why the system does not read or write a file. -/
inductive SystemFault where
  | notFound
  /-- The bytes of a file are no UTF-8. -/
  | notText
  | other (message : String)
deriving DecidableEq, Repr

/-- The system's wording of a fault. -/
def SystemFault.message : SystemFault → String
  | notFound => "No such file or directory (os error 2)"
  | notText => "stream did not contain valid UTF-8"
  | other message => message

/-- The files of a system. -/
structure Files where
  /-- The bytes of the file at a path, or why they cannot be read. -/
  contents : String → Except SystemFault (Array UInt8)
  /-- Why a path cannot be opened for writing, if it cannot. -/
  refusal : String → Option SystemFault

namespace Files

/-- No files, and every path can be written. -/
def empty : Files := ⟨fun _ => .error .notFound, fun _ => none⟩

/-- The files after one of them was given new contents. -/
def set (files : Files) (path : String) (bytes : Array UInt8) : Files :=
  { files with
    contents := fun other =>
      if other = path then .ok bytes else files.contents other }

/-- The files where a path cannot be opened for writing. -/
def refuse (files : Files) (path : String) (fault : SystemFault) : Files :=
  { files with
    refusal := fun other =>
      if other = path then some fault else files.refusal other }

/-- The text of a file. -/
def readText (files : Files) (path : String) :
    Except SystemFault String :=
  match files.contents path with
  | .error fault => .error fault
  | .ok bytes =>
      match String.fromUTF8? ⟨bytes⟩ with
      | none => .error .notText
      | some text => .ok text

/-- Opens a file for writing: it is empty then, whether there was a file
    before or not. -/
def create (files : Files) (path : String) : Except SystemFault Files :=
  match files.refusal path with
  | some fault => .error fault
  | none => .ok (files.set path #[])

/-- Writes to the front of an open file.  What the file holds beyond the
    bytes that are written stays. -/
def overwrite (files : Files) (path : String) (bytes : Array UInt8) :
    Files :=
  let old := (files.contents path).toOption.getD #[]
  files.set path (bytes ++ old.extract bytes.size old.size)

/-- Opens a file and writes it. -/
def write (files : Files) (path : String) (bytes : Array UInt8) :
    Except SystemFault Files :=
  match files.create path with
  | .error fault => .error fault
  | .ok opened => .ok (opened.overwrite path bytes)

end Files

end TimingScript
