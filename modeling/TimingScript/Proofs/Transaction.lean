import TimingScript.Job

/-! # Transactions — a job writes its image or nothing

    A job goes through four steps, each of which can stop it: its source is
    read, its source is compiled, its output is opened and its image is
    written.  Up to the third step no file is touched.  The third one
    empties the output, and behind it nothing can fail any more, so the
    output holds the image of the program and no byte of what it held
    before. -/

namespace TimingScript

/-! ## Single files -/

namespace Files

variable {files : Files} {path : String}

/-- A file has the contents that it was given. -/
@[simp] theorem contents_set_self (files : Files) (path : String)
    (bytes : Array UInt8) : (files.set path bytes).contents path = .ok bytes :=
  if_pos rfl

/-- All other files keep their contents. -/
theorem contents_set_of_ne {other : String} (h : other ≠ path)
    (bytes : Array UInt8) :
    (files.set path bytes).contents other = files.contents other :=
  if_neg h

/-- Only the last contents count. -/
@[simp] theorem set_set (files : Files) (path : String)
    (bytes others : Array UInt8) :
    (files.set path bytes).set path others = files.set path others := by
  refine congrArg (fun contents => Files.mk contents files.refusal) ?_
  funext other
  by_cases h : other = path
  · rw [if_pos h, if_pos h]
  · rw [if_neg h, if_neg h]
    exact contents_set_of_ne h bytes

/-- A file that cannot be read has no text. -/
theorem readText_of_error {fault : SystemFault}
    (h : files.contents path = .error fault) :
    files.readText path = .error fault := by
  rw [readText, h]

/-- A file holds a text if it holds its bytes. -/
theorem readText_of_text {text : String}
    (h : files.contents path = .ok text.toUTF8.data) :
    files.readText path = .ok text := by
  have hvalid : (ByteArray.mk text.toUTF8.data).IsValidUTF8 :=
    text.isValidUTF8
  rw [readText, h]
  dsimp only
  rw [String.fromUTF8?, dif_pos hvalid]
  rfl

/-- A file whose bytes are those of no text is no text. -/
theorem readText_of_not_text {bytes : Array UInt8}
    (h : files.contents path = .ok bytes)
    (hbytes : ∀ text : String, text.toUTF8.data ≠ bytes) :
    files.readText path = .error .notText := by
  have hinvalid : ¬ (ByteArray.mk bytes).IsValidUTF8 := fun hvalid =>
    hbytes (String.fromUTF8 ⟨bytes⟩ hvalid) rfl
  rw [readText, h]
  dsimp only
  rw [String.fromUTF8?, dif_neg hinvalid]

/-- A file that cannot be opened is not written. -/
theorem write_of_refusal {fault : SystemFault}
    (h : files.refusal path = some fault) (bytes : Array UInt8) :
    files.write path bytes = .error fault := by
  rw [write, create, h]

/-- A file that can be opened holds what is written, and nothing of what it
    held before. -/
theorem write_of_no_refusal (h : files.refusal path = none)
    (bytes : Array UInt8) :
    files.write path bytes = .ok (files.set path bytes) := by
  rw [write, create, h]
  dsimp only
  -- opening has emptied the file, so there is nothing beyond the bytes
  rw [overwrite, contents_set_self, set_set]
  show Except.ok (files.set path (bytes ++ #[].extract bytes.size 0)) = _
  rw [Array.extract_empty, Array.append_empty]

/-- Nothing is left of a file that was longer. -/
example : ((empty.set "image" #[1, 2, 3]).write "image" #[9]).map
    (fun files => files.contents "image") = .ok (.ok #[9]) := rfl

end Files

/-! ## Jobs -/

/-- A job leaves all files as they are, for the given reason. -/
structure JobReport.StopsWith (report : JobReport) (files : Files)
    (failure : Failure) : Prop where
  result : report.result = .error failure
  files : report.files = files

/-- A job gives its output the image of a program, and leaves all other
    files as they are. -/
structure JobReport.Delivers (report : JobReport) (files : Files)
    (output : String) (program : Program) : Prop where
  result : report.result = .ok program
  written : report.files.contents output = .ok program.image
  others : ∀ path, path ≠ output →
    report.files.contents path = files.contents path

/-- How a job ends, by the step that it comes to: its source cannot be read,
    or it is no text, or the text does not compile, or the output cannot be
    opened, or the program is delivered. -/
structure Job.Transacts (job : Job) (files : Files) (clock : Clock)
    (report : JobReport) : Prop where
  missing : ∀ fault, files.contents job.source = .error fault →
    report.StopsWith files (.file .read job.source fault)
  illegible : ∀ bytes, files.contents job.source = .ok bytes →
    (∀ text : String, text.toUTF8.data ≠ bytes) →
    report.StopsWith files (.file .read job.source .notText)
  uncompiled : ∀ (text : String) error,
    files.contents job.source = .ok text.toUTF8.data →
    TimingScript.compile clock text = .error error →
    report.StopsWith files (.source job.source error)
  unopened : ∀ (text : String) program fault,
    files.contents job.source = .ok text.toUTF8.data →
    TimingScript.compile clock text = .ok program →
    files.refusal job.output = some fault →
    report.StopsWith files (.file .write job.output fault)
  delivered : ∀ (text : String) program,
    files.contents job.source = .ok text.toUTF8.data →
    TimingScript.compile clock text = .ok program →
    files.refusal job.output = none →
    report.Delivers files job.output program
  source : job.source ≠ job.output →
    report.files.contents job.source = files.contents job.source

section

variable {job : Job} {files : Files} {clock : Clock} (log : List Event)

/-- A job whose source cannot be read stops there. -/
theorem Job.compile_of_unread {fault : SystemFault}
    (h : files.readText job.source = .error fault) :
    (job.compile files log clock).StopsWith files
      (.file .read job.source fault) := by
  rw [Job.compile, h]
  exact ⟨rfl, rfl⟩

/-- A job whose source does not compile stops there. -/
theorem Job.compile_of_uncompiled {text : String} {error : CompileError}
    (h : files.readText job.source = .ok text)
    (hc : TimingScript.compile clock text = .error error) :
    (job.compile files log clock).StopsWith files
      (.source job.source error) := by
  rw [TimingScript.compile] at hc
  rw [Job.compile, h]
  dsimp only
  rw [hc]
  exact ⟨rfl, rfl⟩

/-- A job whose source compiles delivers the program. -/
theorem Job.compile_of_compiled {text : String} {program : Program}
    (h : files.readText job.source = .ok text)
    (hc : TimingScript.compile clock text = .ok program) :
    ∃ events, job.compile files log clock
      = job.deliver files events program := by
  rw [TimingScript.compile] at hc
  rw [Job.compile, h]
  dsimp only
  rw [hc]
  exact ⟨_, rfl⟩

/-- A program is not delivered where the output cannot be opened. -/
theorem Job.deliver_of_refusal {program : Program} {fault : SystemFault}
    (h : files.refusal job.output = some fault) :
    (job.deliver files log program).StopsWith files
      (.file .write job.output fault) := by
  rw [Job.deliver, Files.write_of_refusal h]
  exact ⟨rfl, rfl⟩

/-- A program is delivered where the output can be opened. -/
theorem Job.deliver_of_no_refusal {program : Program}
    (h : files.refusal job.output = none) :
    (job.deliver files log program).Delivers files job.output program := by
  rw [Job.deliver, Files.write_of_no_refusal h]
  exact ⟨rfl, Files.contents_set_self .., fun _ hne =>
    Files.contents_set_of_ne hne _⟩

/-- What is not the output of a job keeps its contents. -/
theorem Job.contents_compile {path : String} (hne : path ≠ job.output) :
    (job.compile files log clock).files.contents path
      = files.contents path := by
  cases hread : files.readText job.source with
  | error fault => rw [(Job.compile_of_unread log hread).files]
  | ok text =>
      cases hc : TimingScript.compile clock text with
      | error error => rw [(Job.compile_of_uncompiled log hread hc).files]
      | ok program =>
          obtain ⟨events, hdeliver⟩ := Job.compile_of_compiled log hread hc
          rw [hdeliver]
          cases hopen : files.refusal job.output with
          | some fault => rw [(Job.deliver_of_refusal events hopen).files]
          | none => exact (Job.deliver_of_no_refusal events hopen).others path hne

/-- **A job is a transaction.**  It delivers the program of its source, or
    fails for the first reason there is and changes no file.  Its source is
    never changed, unless it is the output as well. -/
theorem Job.compile_transacts (job : Job) (files : Files) (clock : Clock) :
    job.Transacts files clock (job.compile files log clock) where
  missing := fun _ h =>
    Job.compile_of_unread log (Files.readText_of_error h)
  illegible := fun _ h hbytes =>
    Job.compile_of_unread log (Files.readText_of_not_text h hbytes)
  uncompiled := fun _ _ h hc =>
    Job.compile_of_uncompiled log (Files.readText_of_text h) hc
  unopened := by
    intro text program fault h hc hopen
    obtain ⟨events, hdeliver⟩ :=
      Job.compile_of_compiled log (Files.readText_of_text h) hc
    rw [hdeliver]
    exact Job.deliver_of_refusal events hopen
  delivered := by
    intro text program h hc hopen
    obtain ⟨events, hdeliver⟩ :=
      Job.compile_of_compiled log (Files.readText_of_text h) hc
    rw [hdeliver]
    exact Job.deliver_of_no_refusal events hopen
  source := Job.contents_compile log

end

end TimingScript
