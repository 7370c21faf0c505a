import TimingScript.Exit
import TimingScript.Settings.Mapping
import TimingScript.Proofs.Tables
import TimingScript.Proofs.Transaction
import TimingScript.Proofs.Yield
import TimingScript.Proofs.Growth

/-! # Exits — what a job leaves behind, for its caller and on the disk

    A job either stops before there is a program, or it has a program to
    deliver.  It stops for the first reason there is: the settings come
    before the source, and the source is read before it is compiled
    (`Job.Stops`).  Nothing has been printed and no file has been touched
    then.  A program is listed, if that was asked for, and then the output
    is opened, which is the last thing that can fail (`Job.Fails`).

    All of this holds whatever reads the settings.  Which documents set a
    frequency and which are refused is the answer of the reader, and so is
    what is said of the latter (`Job.Loads`, `Job.Misconfigured`). -/

namespace TimingScript

open Source (LineNumber)

/-! ## Printed listings -/

/-- A text that is trimmed has no other characters. -/
theorem Text.mem_of_mem_trim {text : String} {c : Char}
    (h : c ∈ (trim text).toList) : c ∈ text.toList := by
  rw [trim, String.toList_ofList, List.mem_reverse] at h
  have hfront := (List.dropWhile_sublist isBlank).subset h
  rw [List.mem_reverse] at hfront
  exact (List.dropWhile_sublist isBlank).subset hfront

/-- The rows of a line show its source. -/
theorem Yield.Made.source_eq {clock : Clock} {loops next : LoopStack}
    {line : LineNumber} {source : String} {y : Yield}
    (h : Made clock loops line source y next) :
    ∀ row ∈ y.rows, row.source = Text.trim source := by
  intro row hrow
  cases h with
  | blank _ => cases hrow
  | written _ _ _ =>
      rw [List.mem_singleton.mp hrow]
      rfl
  | expanded _ _ =>
      rcases List.mem_cons.mp hrow with rfl | hrow
      · rfl
      · rw [List.mem_singleton.mp hrow]
        rfl

/-- A row is printed on one line if its source is one. -/
theorem ListingRow.newline_not_mem_text {row : ListingRow}
    (h : '\n' ∉ row.source.toList) : '\n' ∉ row.text.toList := by
  have hline : '\n' ∉ Nat.toDigits 10 row.line := by
    intro hmem
    cases Nat.isDigit_of_mem_toDigits (by decide) (by decide) hmem
  have hmark : '\n' ∉ (if row.synthetic then "+" else " ").toList := by
    cases row.synthetic <;> decide
  have hrow : '\n' ∉ row.instruction.row.toList :=
    row.instruction.not_mem_row (by decide) (by decide)
  simp [text, Text.alignRight, Text.alignLeft, List.leftpad, List.rightpad,
    h, hline, hmark, hrow]

/-- The rows of a listing are the lines of what is printed. -/
theorem lines_unlines_listing {clock : Clock} {text : String}
    {program : Program} (h : compile clock text = .ok program) :
    Source.lines (Source.unlines (program.listing.toList.map ListingRow.text))
      = program.listing.toList.map ListingRow.text := by
  obtain ⟨ys, hy, rfl⟩ := compile_eq_ok h
  apply Source.lines_unlines_of_rows
  · intro printed hprinted
    obtain ⟨row, hrow, rfl⟩ := List.mem_map.mp hprinted
    obtain ⟨line, source, _, _, y, hmem, hmade, hy, -⟩ :=
      Yield.exists_line_of_mem_rows _ _ _ _ hy hrow
    apply ListingRow.newline_not_mem_text
    rw [hmade.source_eq row hy]
    intro hnewline
    exact Source.newline_not_mem_lines
      (Source.mem_lines_of_mem_numberedLines hmem)
      (Text.mem_of_mem_trim hnewline)
  · intro printed hprinted
    obtain ⟨row, -, rfl⟩ := List.mem_map.mp hprinted
    obtain ⟨front, htext⟩ := row.exists_text_eq
    rw [htext]
    exact row.instruction.getLast?_row_ne front

/-! ## Reasons -/

namespace Job

/-- The settings of a job load, and give a frequency or none.  A job that
    names no document has none. -/
inductive Loads (job : Job) (read : Settings.Reader)
    (files : Files) : Option Nat → Prop where
  | unnamed : job.settings = none → Loads job read files none
  | document {path text : String} {settings : Settings} :
      job.settings = some path →
      files.contents path = .ok text.toUTF8.data →
      read text = .ok settings →
      Loads job read files settings.clockFrequency

/-- The frequency to compile for: that of the command line, or else that of
    the settings, or else 40 MHz. -/
def chosen (job : Job) (given : Option Nat) : Nat :=
  match job.frequency, given with
  | some n, _ => n
  | none, some n => n
  | none, none => 40000000

/-- The clock of a job cannot be determined. -/
inductive Misconfigured (job : Job) (read : Settings.Reader)
    (files : Files) : Failure → Prop where
  | missing {path : String} {fault : SystemFault} :
      job.settings = some path → files.contents path = .error fault →
      Misconfigured job read files (.file .read path fault)
  | illegible {path : String} {bytes : Array UInt8} :
      job.settings = some path → files.contents path = .ok bytes →
      (∀ text : String, text.toUTF8.data ≠ bytes) →
      Misconfigured job read files (.file .read path .notText)
  | refused {path text message : String} :
      job.settings = some path →
      files.contents path = .ok text.toUTF8.data →
      read text = .error message →
      Misconfigured job read files (.settings (some path) (.refused message))
  | standing {given : Option Nat} :
      job.Loads read files given → job.chosen given = 0 →
      Misconfigured job read files (.settings none .zeroFrequency)

/-- A job has a clock of this frequency. -/
def Configured (job : Job) (read : Settings.Reader) (files : Files)
    (frequency : Nat) : Prop :=
  ∃ given, job.Loads read files given ∧ job.chosen given = frequency ∧
    frequency ≠ 0

/-- The source of a job compiles to a program. -/
inductive CompilesTo (job : Job) (read : Settings.Reader)
    (files : Files) : Program → Prop where
  | intro {frequency : Nat} {text : String} {program : Program} :
      job.Configured read files frequency →
      files.contents job.source = .ok text.toUTF8.data →
      TimingScript.compile ⟨frequency⟩ text = .ok program →
      CompilesTo job read files program

/-- A job stops before there is a program, for the first reason there is. -/
inductive Stops (job : Job) (read : Settings.Reader)
    (files : Files) : Failure → Prop where
  | misconfigured {failure : Failure} :
      job.Misconfigured read files failure → Stops job read files failure
  | missing {frequency : Nat} {fault : SystemFault} :
      job.Configured read files frequency →
      files.contents job.source = .error fault →
      Stops job read files (.file .read job.source fault)
  | illegible {frequency : Nat} {bytes : Array UInt8} :
      job.Configured read files frequency →
      files.contents job.source = .ok bytes →
      (∀ text : String, text.toUTF8.data ≠ bytes) →
      Stops job read files (.file .read job.source .notText)
  | uncompiled {frequency : Nat} {text : String} {error : CompileError} :
      job.Configured read files frequency →
      files.contents job.source = .ok text.toUTF8.data →
      TimingScript.compile ⟨frequency⟩ text = .error error →
      Stops job read files (.source job.source error)

/-- A job fails: it stops, or the output for its program cannot be
    opened. -/
inductive Fails (job : Job) (read : Settings.Reader)
    (files : Files) : Failure → Prop where
  | early {failure : Failure} :
      job.Stops read files failure → Fails job read files failure
  | unopened {program : Program} {fault : SystemFault} :
      job.CompilesTo read files program →
      files.refusal job.output = some fault →
      Fails job read files (.file .write job.output fault)

/-! ## Clocks -/

section

variable {job : Job} {read : Settings.Reader} {files : Files}

/-- The frequency that is chosen is the one that is resolved. -/
theorem resolve_eq (job : Job) (settings : Option Settings) :
    Settings.resolve settings job.frequency
      = if job.chosen (settings.bind Settings.clockFrequency) = 0 then
          .error .zeroFrequency
        else .ok ⟨job.chosen (settings.bind Settings.clockFrequency)⟩ := by
  have hchosen : (job.frequency.orElse fun _ =>
      settings.bind Settings.clockFrequency).getD Clock.standard.frequency
        = job.chosen (settings.bind Settings.clockFrequency) := by
    unfold chosen
    cases job.frequency with
    | some n => rfl
    | none => cases settings.bind Settings.clockFrequency <;> rfl
  rw [Settings.resolve, hchosen]

/-- Settings that load are those that are given. -/
theorem Loads.exists_settings {given : Option Nat}
    (h : job.Loads read files given) :
    ∃ settings, job.givenSettings read files = .ok settings ∧
      settings.bind Settings.clockFrequency = given := by
  cases h with
  | unnamed hnone =>
      refine ⟨none, ?_, rfl⟩
      rw [givenSettings, hnone]
  | @document path text settings hpath hcontents hread =>
      refine ⟨some settings, ?_, rfl⟩
      rw [givenSettings, hpath]
      dsimp only
      rw [loadSettings, Files.readText_of_text hcontents]
      dsimp only
      rw [hread]
      rfl

/-- A job that is configured has its clock. -/
theorem Configured.clock_eq {frequency : Nat}
    (h : job.Configured read files frequency) :
    job.clock read files = .ok ⟨frequency⟩ := by
  obtain ⟨given, hloads, rfl, hne⟩ := h
  obtain ⟨settings, hgiven, rfl⟩ := hloads.exists_settings
  rw [clock, hgiven]
  dsimp only
  rw [resolve_eq, if_neg hne]
  rfl

/-- A job that is misconfigured has no clock. -/
theorem Misconfigured.clock_eq {failure : Failure}
    (h : job.Misconfigured read files failure) :
    job.clock read files = .error failure := by
  have hload : ∀ {path : String}, job.settings = some path →
      ∀ {failure : Failure}, loadSettings read files path = .error failure →
        job.clock read files = .error failure := by
    intro path hpath failure hfailure
    rw [clock, givenSettings, hpath]
    dsimp only
    rw [hfailure]
    rfl
  cases h with
  | missing hpath hcontents =>
      apply hload hpath
      rw [loadSettings, Files.readText_of_error hcontents]
  | illegible hpath hcontents hbytes =>
      apply hload hpath
      rw [loadSettings, Files.readText_of_not_text hcontents hbytes]
  | refused hpath hcontents hread =>
      apply hload hpath
      rw [loadSettings, Files.readText_of_text hcontents]
      dsimp only
      rw [hread]
      rfl
  | standing hloads hzero =>
      obtain ⟨settings, hgiven, rfl⟩ := hloads.exists_settings
      rw [clock, hgiven]
      dsimp only
      rw [resolve_eq, if_pos hzero]
      rfl

/-- A path cannot be read, or holds a text or what is none. -/
theorem contents_cases (files : Files) (path : String) :
    (∃ fault, files.contents path = .error fault) ∨
    (∃ bytes, files.contents path = .ok bytes ∧
      ∀ text : String, text.toUTF8.data ≠ bytes) ∨
    ∃ text : String, files.contents path = .ok text.toUTF8.data := by
  cases h : files.contents path with
  | error fault => exact .inl ⟨fault, rfl⟩
  | ok bytes =>
      by_cases htext : ∃ text : String, text.toUTF8.data = bytes
      · obtain ⟨text, rfl⟩ := htext
        exact .inr (.inr ⟨text, rfl⟩)
      · exact .inr (.inl ⟨bytes, rfl, not_exists.mp htext⟩)

/-- The settings of a job load, or it is misconfigured. -/
theorem exists_loads_or (job : Job) (read : Settings.Reader)
    (files : Files) :
    (∃ given, job.Loads read files given) ∨
      ∃ failure, job.Misconfigured read files failure := by
  cases hpath : job.settings with
  | none => exact .inl ⟨none, .unnamed hpath⟩
  | some path =>
      rcases contents_cases files path with
        ⟨fault, hcontents⟩ | ⟨bytes, hcontents, hbytes⟩ | ⟨text, hcontents⟩
      · exact .inr ⟨_, .missing hpath hcontents⟩
      · exact .inr ⟨_, .illegible hpath hcontents hbytes⟩
      · cases hread : read text with
        | error fault => exact .inr ⟨_, .refused hpath hcontents hread⟩
        | ok settings => exact .inl ⟨_, .document hpath hcontents hread⟩

/-- A job is configured or misconfigured. -/
theorem exists_configured_or (job : Job) (read : Settings.Reader)
    (files : Files) :
    (∃ frequency, job.Configured read files frequency) ∨
      ∃ failure, job.Misconfigured read files failure := by
  rcases exists_loads_or job read files with ⟨given, hloads⟩ | hfailure
  · by_cases hzero : job.chosen given = 0
    · exact .inr ⟨_, .standing hloads hzero⟩
    · exact .inl ⟨_, given, hloads, rfl, hzero⟩
  · exact .inr hfailure

/-- A job stops, or it has a program. -/
theorem exists_stops_or (job : Job) (read : Settings.Reader)
    (files : Files) :
    (∃ failure, job.Stops read files failure) ∨
      ∃ program, job.CompilesTo read files program := by
  rcases exists_configured_or job read files with ⟨frequency, hclock⟩ | ⟨_, hfailure⟩
  · rcases contents_cases files job.source with
      ⟨fault, hcontents⟩ | ⟨bytes, hcontents, hbytes⟩ | ⟨text, hcontents⟩
    · exact .inl ⟨_, .missing hclock hcontents⟩
    · exact .inl ⟨_, .illegible hclock hcontents hbytes⟩
    · cases hcompile : TimingScript.compile ⟨frequency⟩ text with
      | error error => exact .inl ⟨_, .uncompiled hclock hcontents hcompile⟩
      | ok program => exact .inr ⟨program, hclock, hcontents, hcompile⟩
  · exact .inl ⟨_, .misconfigured hfailure⟩

/-- A job fails, or it has a program and can open its output. -/
theorem exists_fails_or (job : Job) (read : Settings.Reader)
    (files : Files) :
    (∃ failure, job.Fails read files failure) ∨
      ∃ program, job.CompilesTo read files program ∧
        files.refusal job.output = none := by
  rcases exists_stops_or job read files with ⟨failure, h⟩ | ⟨program, h⟩
  · exact .inl ⟨failure, .early h⟩
  · cases hopen : files.refusal job.output with
    | some fault => exact .inl ⟨_, .unopened h hopen⟩
    | none => exact .inr ⟨program, h, rfl⟩

/-! ## Runs -/

/-- A job with a clock goes on to its source. -/
theorem Configured.run_eq {frequency : Nat}
    (h : job.Configured read files frequency) :
    job.runWith read files = job.compile files (job.clockLog read files) ⟨frequency⟩ := by
  rw [runWith, h.clock_eq]

/-- A job that stops leaves all files as they are and has printed
    nothing. -/
theorem Stops.exists_run_eq {failure : Failure}
    (h : job.Stops read files failure) :
    ∃ events, job.runWith read files = ⟨files, [], events, .error failure⟩ := by
  cases h with
  | misconfigured hfailure =>
      rw [runWith, hfailure.clock_eq]
      exact ⟨_, rfl⟩
  | missing hclock hcontents =>
      rw [hclock.run_eq, Job.compile, Files.readText_of_error hcontents]
      exact ⟨_, rfl⟩
  | illegible hclock hcontents hbytes =>
      rw [hclock.run_eq, Job.compile,
        Files.readText_of_not_text hcontents hbytes]
      exact ⟨_, rfl⟩
  | uncompiled hclock hcontents hcompile =>
      rw [TimingScript.compile] at hcompile
      rw [hclock.run_eq, Job.compile, Files.readText_of_text hcontents]
      dsimp only
      rw [hcompile]
      exact ⟨_, rfl⟩

/-- A job that has a program delivers it. -/
theorem CompilesTo.exists_run_eq {program : Program}
    (h : job.CompilesTo read files program) :
    ∃ events, job.runWith read files = job.deliver files events program := by
  obtain ⟨hclock, hcontents, hcompile⟩ := h
  rw [hclock.run_eq]
  exact Job.compile_of_compiled _ (Files.readText_of_text hcontents) hcompile

/-- A job that cannot open its output has printed the listing. -/
theorem CompilesTo.exit_of_refusal {program : Program} {fault : SystemFault}
    (h : job.CompilesTo read files program)
    (hopen : files.refusal job.output = some fault) :
    (job.runWith read files).files = files ∧
      (job.runWith read files).exit = .failure (job.listing program)
        (Failure.file .write job.output fault).text := by
  obtain ⟨events, hrun⟩ := h.exists_run_eq
  rw [hrun, deliver, Files.write_of_refusal hopen]
  exact ⟨rfl, rfl⟩

/-- A job that can open its output succeeds. -/
theorem CompilesTo.exit_of_no_refusal {program : Program}
    (h : job.CompilesTo read files program)
    (hopen : files.refusal job.output = none) :
    (job.runWith read files).files = files.set job.output program.image ∧
      (job.runWith read files).exit = .success (job.listing program) := by
  obtain ⟨events, hrun⟩ := h.exists_run_eq
  rw [hrun, deliver, Files.write_of_no_refusal hopen]
  exact ⟨rfl, rfl⟩

/-- A job that stops says why, and nothing else. -/
theorem Stops.exit_eq {failure : Failure} (h : job.Stops read files failure) :
    (job.runWith read files).files = files ∧
      (job.runWith read files).exit = .failure [] failure.text := by
  obtain ⟨events, hrun⟩ := h.exists_run_eq
  rw [hrun]
  exact ⟨rfl, rfl⟩

/-- A job that fails says why and leaves all files as they are. -/
theorem Fails.exists_exit_eq {failure : Failure}
    (h : job.Fails read files failure) :
    (job.runWith read files).files = files ∧
      ∃ printed, (job.runWith read files).exit = .failure printed failure.text := by
  cases h with
  | early h => exact ⟨h.exit_eq.1, _, h.exit_eq.2⟩
  | unopened h hopen =>
      obtain ⟨hfiles, hexit⟩ := h.exit_of_refusal hopen
      exact ⟨hfiles, _, hexit⟩

/-- Whether the output can be opened or not, the listing is printed. -/
theorem CompilesTo.stdout_eq {program : Program}
    (h : job.CompilesTo read files program) :
    (job.runWith read files).exit.stdout = Source.unlines (job.listing program) := by
  cases hopen : files.refusal job.output with
  | some fault =>
      rw [(h.exit_of_refusal hopen).2]
      rfl
  | none =>
      rw [(h.exit_of_no_refusal hopen).2]
      rfl

end

/-! ## Ends -/

/-- What a job leaves behind.  It succeeds if there is a program and the
    output can be opened.  Otherwise it names the failure and changes no
    file. -/
structure Ends (job : Job) (read : Settings.Reader) (files : Files)
    (report : JobReport) : Prop where
  succeeds_iff : report.exit.code = 0 ↔
    ∃ program, job.CompilesTo read files program ∧
      files.refusal job.output = none
  delivered : ∀ program, job.CompilesTo read files program →
    files.refusal job.output = none →
    report.exit.stderr = "" ∧
      report.files.contents job.output = .ok program.image ∧
      ∀ path, path ≠ job.output →
        report.files.contents path = files.contents path
  failed : report.exit.code ≠ 0 →
    report.exit.code = 1 ∧ report.files = files ∧
      ∃ failure, job.Fails read files failure ∧
        report.exit.stderr = failure.text ++ "\n"
  reported : ∀ failure, job.Fails read files failure →
    report.exit.code = 1 ∧ report.exit.stderr = failure.text ++ "\n"
  /-- The source of a job that is misconfigured does not matter. -/
  misconfigured : ∀ failure, job.Misconfigured read files failure →
    report.exit = ⟨1, "", failure.text ++ "\n"⟩
  listed : ∀ program, job.CompilesTo read files program → job.list = true →
    report.exit.stdout
        = Source.unlines (program.listing.toList.map ListingRow.text) ∧
      Source.lines report.exit.stdout
        = program.listing.toList.map ListingRow.text
  unlisted : job.list = false → report.exit.stdout = ""
  stopped : (∀ program, ¬ job.CompilesTo read files program) →
    report.exit.stdout = ""

/-- **The exit of a job tells how it ended.**  A job exits with 0 if and only
    if it is configured, its source compiles and its output can be opened;
    its image is written then.  It exits with 1 for the first reason that
    stops it, says so, and changes no file. -/
theorem run_ends (read : Settings.Reader) (job : Job) (files : Files) :
    job.Ends read files (job.runWith read files) where
  succeeds_iff := by
    constructor
    · intro hcode
      rcases exists_fails_or job read files with ⟨failure, h⟩ | hprogram
      · obtain ⟨-, printed, hexit⟩ := h.exists_exit_eq
        rw [hexit] at hcode
        cases hcode
      · exact hprogram
    · rintro ⟨program, h, hopen⟩
      rw [(h.exit_of_no_refusal hopen).2]
      rfl
  delivered := by
    intro program h hopen
    obtain ⟨hfiles, hexit⟩ := h.exit_of_no_refusal hopen
    rw [hfiles, hexit]
    exact ⟨rfl, Files.contents_set_self .., fun _ hne =>
      Files.contents_set_of_ne hne _⟩
  failed := by
    intro hcode
    rcases exists_fails_or job read files with ⟨failure, h⟩ | ⟨program, h, hopen⟩
    · obtain ⟨hfiles, printed, hexit⟩ := h.exists_exit_eq
      rw [hexit]
      exact ⟨rfl, hfiles, failure, h, rfl⟩
    · rw [(h.exit_of_no_refusal hopen).2] at hcode
      exact absurd rfl hcode
  reported := by
    intro failure h
    obtain ⟨-, printed, hexit⟩ := h.exists_exit_eq
    rw [hexit]
    exact ⟨rfl, rfl⟩
  misconfigured := by
    intro failure h
    exact (Stops.misconfigured h).exit_eq.2
  listed := by
    intro program h hlist
    have hrows : job.listing program
        = program.listing.toList.map ListingRow.text := if_pos hlist
    rw [h.stdout_eq, hrows]
    obtain ⟨-, -, hcompile⟩ := h
    exact ⟨rfl, lines_unlines_listing hcompile⟩
  unlisted := by
    intro hlist
    rcases exists_stops_or job read files with ⟨failure, h⟩ | ⟨program, h⟩
    · rw [h.exit_eq.2]
      rfl
    · have hrows : job.listing program = [] :=
        if_neg (Bool.eq_false_iff.mp hlist)
      rw [h.stdout_eq, hrows]
      rfl
  stopped := by
    intro hnone
    rcases exists_stops_or job read files with ⟨failure, h⟩ | ⟨program, h⟩
    · rw [h.exit_eq.2]
      rfl
    · exact absurd h (hnone program)

/-- Neither the settings nor the source exist: only the settings are
    missed, whoever would have read them. -/
example (read : Settings.Reader) :
    ((Job.mk "script" "image" (some "settings") none true).runWith read
        Files.empty).exit
      = .failure [] (Failure.file .read "settings" .notFound).text := by
  rfl

/-- A script that waits for a microsecond, and a settings document. -/
def filesWith (settings : String) : Files :=
  (Files.empty.set "script" "WAIT 1 us".toUTF8.data).set "settings"
    settings.toUTF8.data

/-- Compiles the script for the clock of the settings and lists it. -/
def listedJob : Job := ⟨"script", "image", some "settings", none, true⟩

/-- A document that sets a frequency decides how many ticks a microsecond
    has, and what is wrong with another one is said in the words of the
    reader. -/
theorem run_ends_with_settings :
    ((listedJob.runWith Settings.read
          (filesWith "clock_frequency: 50000000\n")).exit.code = 0 ∧
      (listedJob.runWith Settings.read
          (filesWith "clock_frequency: 50000000\n")).files.contents "image"
        = .ok #[10, 0, 0, 0, 0, 0, 0, 50]) ∧
    (listedJob.runWith Settings.read
        (filesWith "clock_frequency: abc")).exit
      = ⟨1, "", "bad configuration: settings: clock_frequency: invalid type: string \"abc\", expected u64 at line 1 column 18\n"⟩ := by
  have hread : Settings.read "clock_frequency: 50000000\n"
      = .ok ⟨some 50000000⟩ := by
    decide +kernel
  have hrefused : Settings.read "clock_frequency: abc" = .error
      "clock_frequency: invalid type: string \"abc\", expected u64 at line 1 column 18" := by
    decide +kernel
  have hcompiled : (TimingScript.compile ⟨50000000⟩ "WAIT 1 us").toOption.map
      Program.image = some #[10, 0, 0, 0, 0, 0, 0, 50] := by
    decide +kernel
  obtain ⟨program, hprogram, himage⟩ := Option.map_eq_some_iff.mp hcompiled
  have hsettings : ∀ settings, (filesWith settings).contents "settings"
      = .ok settings.toUTF8.data := fun _ => Files.contents_set_self ..
  have hsource : ∀ settings, (filesWith settings).contents "script"
      = .ok "WAIT 1 us".toUTF8.data := by
    intro settings
    rw [filesWith, Files.contents_set_of_ne (by decide)]
    exact Files.contents_set_self ..
  have hcompiles : listedJob.CompilesTo Settings.read
      (filesWith "clock_frequency: 50000000\n") program :=
    .intro ⟨some 50000000, .document rfl (hsettings _) hread, rfl, by decide⟩
      (hsource _) (except_eq_ok_of_toOption hprogram)
  have hset := run_ends Settings.read listedJob
    (filesWith "clock_frequency: 50000000\n")
  have hrefuse := run_ends Settings.read listedJob
    (filesWith "clock_frequency: abc")
  refine ⟨⟨hset.succeeds_iff.mpr ⟨program, hcompiles, rfl⟩, ?_⟩, ?_⟩
  · rw [← himage]
    exact (hset.delivered program hcompiles rfl).2.1
  · rw [hrefuse.misconfigured _ (.refused rfl (hsettings _) hrefused)]
    rfl

end Job

end TimingScript
