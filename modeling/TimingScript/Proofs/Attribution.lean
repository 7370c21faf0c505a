import TimingScript.Proofs.Accounting
import TimingScript.Proofs.FirstError
import TimingScript.Proofs.Retiming
import TimingScript.Proofs.Rules

/-! # Attribution — diagnostics name a line and the word it begins with

    A line is warned of at most once while it is decoded, once while it is
    checked or expanded and once while it is encoded.  Each of these stages
    takes the line and the keyword for its warning from somewhere else, but
    all of them come from the words of the line, so what a stage says is
    described by the line, the keyword and a number of warnings
    (`Warning.AreAbout`).  The two instructions of `SLICE` are silent.

    An error is blamed on the line that it was found on, and a loop that is
    left open on the line of a `LOOP`, since the stack of the open loops
    holds no other lines.

    What is reported is therefore always about lines of the text, in their
    order (`Reported`).  Where there is a number for each of them, the
    numbers are in order as well, and each belongs to one line only
    (`Attributed`). -/

namespace TimingScript

open Source (LineNumber Word)

/-! ## First words -/

namespace Source

/-- The first word of a line of a text, counted from one, if there is such
    a line and it has words. -/
def firstWordAt (text : String) (line : Nat) : Option String :=
  (lines text)[line - 1]?.bind firstWord?

section

variable {text source : String} {line : LineNumber}
  (hsize : (lines text).length < lineLimit)
  (h : (line, source) ∈ numberedLines text)

include hsize h

/-- The first word of a numbered line of a text. -/
theorem firstWordAt_of_mem : firstWordAt text line = firstWord? source := by
  obtain ⟨-, hat⟩ := getElem?_of_mem_numberedLines hsize h
  rw [firstWordAt, hat]
  rfl

/-- The numbers of lines do not go beyond the text. -/
theorem le_length_of_mem : 1 ≤ line ∧ line ≤ (lines text).length := by
  obtain ⟨hone, hat⟩ := getElem?_of_mem_numberedLines hsize h
  obtain ⟨hlt, -⟩ := List.getElem?_eq_some_iff.mp hat
  exact ⟨hone, Nat.le_of_pred_lt hlt⟩

end

/-- A line begins with the spelling of a keyword exactly if it has that
    keyword. -/
theorem firstWord?_eq_text_iff (source : String) (keyword : Keyword) :
    firstWord? source = some keyword.text ↔ keyword? source = some keyword := by
  constructor
  · intro h
    rw [firstWord?] at h
    split at h
    · rename_i first rest hscan
      rw [keyword?, hscan]
      dsimp only
      rw [Option.some.inj h, Keyword.ofWord?_text]
    · cases h
  · intro h
    obtain ⟨first, rest, hread, htext⟩ :
        ∃ first rest, Word.read 1 source = .ok (first :: rest) ∧
          first.text = keyword.text := exists_read_of_keyword? h
    rw [firstWord?_of_read hread, htext]

/-- A line that is no sequence of words has no first word. -/
theorem firstWord?_of_read_error {line : LineNumber} {source : String}
    {error : CompileError} (h : Word.read line source = .error error) :
    firstWord? source = none := by
  rw [Word.read] at h
  rw [firstWord?]
  cases hs : Word.scan 1 source.toList with
  | error fault => rfl
  | ok words => rw [hs] at h; cases h

end Source

/-! ## Warnings of a line -/

/-- There are at most so many warnings, all of them about the given line and
    the given keyword. -/
structure Warning.AreAbout (line : LineNumber) (keyword : Option Keyword)
    (most : Nat) (warnings : List Warning) : Prop where
  line : ∀ warning ∈ warnings, warning.line = line
  keyword : ∀ warning ∈ warnings, keyword = some warning.keyword
  few : warnings.length ≤ most

namespace Warning.AreAbout

variable {line : LineNumber} {keyword : Option Keyword}

/-- No warnings are about everything. -/
theorem nil (most : Nat) : AreAbout line keyword most [] :=
  ⟨nofun, nofun, Nat.zero_le most⟩

/-- What is about a line and its keyword is one warning about them, or
    none. -/
theorem option {warning? : Option Warning}
    (h : ∀ warning ∈ warning?, warning.line = line ∧
      keyword = some warning.keyword) :
    AreAbout line keyword 1 warning?.toList := by
  cases warning? with
  | none => exact nil 1
  | some warning =>
      obtain ⟨hl, hk⟩ := h warning rfl
      refine ⟨?_, ?_, Nat.le_refl 1⟩
      · exact List.forall_mem_singleton.mpr hl
      · exact List.forall_mem_singleton.mpr hk

/-- The warnings of two stages about one line. -/
theorem append {m n : Nat} {us vs : List Warning}
    (hu : AreAbout line keyword m us) (hv : AreAbout line keyword n vs) :
    AreAbout line keyword (m + n) (us ++ vs) where
  line := List.forall_mem_append.mpr ⟨hu.line, hv.line⟩
  keyword := List.forall_mem_append.mpr ⟨hu.keyword, hv.keyword⟩
  few := by
    rw [List.length_append]
    exact Nat.add_le_add hu.few hv.few

end Warning.AreAbout

/-- Words that are not used are warned of on their line. -/
theorem Statement.areAbout_of_decode {line : LineNumber} {first : Word}
    {rest : List Word} {noted : Noted Statement}
    (h : decode line (first :: rest) = .ok noted) :
    Warning.AreAbout line (Keyword.ofWord? first.text) 1
      noted.warning.toList := by
  have hunused : ∀ (keyword : Keyword) (words : List Word),
      Warning.AreAbout line (some keyword) 1
        (unused line keyword words).toList := by
    intro keyword words
    refine .option fun warning hw => ?_
    obtain ⟨_, -, rfl⟩ := Option.map_eq_some_iff.mp hw
    exact ⟨rfl, rfl⟩
  rw [decode] at h
  split at h
  · cases h
  · rename_i hk
    rw [decodeSlice] at h
    split at h
    · cases h
    · rw [← Except.ok.inj h, hk]
      exact hunused _ _
  · rename_i opcode hk
    rw [decodePrimitive] at h
    split at h
    · cases h
    · rw [← Except.ok.inj h, hk]
      exact hunused _ _

namespace Record

/-- Whatever the caution is, a record warns of itself. -/
theorem areAbout_warning (record : Record) (caution? : Option Caution) :
    Warning.AreAbout record.line (some (.operation record.opcode)) 1
      (caution?.map record.warning).toList := by
  refine .option fun warning hw => ?_
  obtain ⟨_, -, rfl⟩ := Option.map_eq_some_iff.mp hw
  exact ⟨rfl, rfl⟩

/-- Operands that do nothing are warned of on the line of the record. -/
theorem areAbout_of_check {record : Record} {noted : Noted Unit}
    (h : record.check = .ok noted) :
    Warning.AreAbout record.line (some (.operation record.opcode)) 1
      noted.warning.toList := by
  rw [(check_eq_ok h).1]
  exact record.areAbout_warning record.caution

/-- A number that does not fit is warned of on the line of the record. -/
theorem areAbout_written (record : Record) :
    Warning.AreAbout record.line (some (.operation record.opcode)) 1
      record.written.warning.toList := by
  rw [written]
  split
  · exact .nil 1
  · exact record.areAbout_warning (some _)

/-- A span that is no number of ticks is warned of on the line of the
    record. -/
theorem areAbout_span (record : Record) (clock : Clock) (unit : TimeUnit) :
    Warning.AreAbout record.line (some (.operation record.opcode)) 1
      (record.span clock unit).warning.toList := by
  rw [span]
  dsimp only
  split
  · exact record.areAbout_warning (some _)
  · exact .nil 1

/-- A `WAIT` is warned of on the line of the record. -/
theorem areAbout_waitTicks (record : Record) (clock : Clock) :
    Warning.AreAbout record.line (some (.operation record.opcode)) 1
      (record.waitTicks clock).warning.toList := by
  rw [waitTicks]
  split
  · split
    · exact .nil 1
    · exact .nil 1
  · split
    · exact record.areAbout_written
    · exact record.areAbout_span clock _

/-- What is encoded is warned of on the line of the record. -/
theorem areAbout_of_encode {record : Record} {loops : LoopStack}
    {clock : Clock} {noted : Noted Parameter}
    (h : record.encode loops clock = .ok noted) :
    Warning.AreAbout record.line (some (.operation record.opcode)) 1
      noted.warning.toList := by
  by_cases ho : record.opcode = .wait
  · have hwait : record.encode loops clock = .ok (record.waitTicks clock) := by
      rw [encode, ho]
    rw [hwait] at h
    rw [← Except.ok.inj h]
    exact record.areAbout_waitTicks clock
  · rcases silent_or_written_of_encode ho h with hnone | rfl
    · rw [hnone]
      exact .nil 1
    · exact record.areAbout_written

end Record

/-- A tag that spills is warned of on the line of the call. -/
theorem SliceCall.areAbout_of_expand {call : SliceCall}
    {noted : Noted Expansion} (h : call.expand = .ok noted) :
    Warning.AreAbout call.line (some .slice) 1 noted.warning.toList := by
  rw [expand] at h
  split at h
  · cases h
  · rw [← Except.ok.inj h]
    refine .option fun warning hw => ?_
    obtain ⟨-, hw⟩ := Option.ite_none_right_eq_some.mp hw
    rw [← Option.some.inj hw]
    exact ⟨rfl, rfl⟩

/-- A reading warns of its line, once for its words and once for its
    statement. -/
theorem Reading.areAbout_of_ofLine {line : LineNumber} {source : String}
    {reading : Reading} (h : ofLine line source = .ok reading) :
    Warning.AreAbout line (Source.keyword? source) 2 reading.warnings := by
  cases ofLine_eq_ok h with
  | blank _ => exact .nil 2
  | decoded hw hd hreads =>
      have hstatement := Statement.decode_eq_ok hd
      rw [Source.keyword?_of_read hw, Reading.warn]
      refine (Statement.areAbout_of_decode hd).append (n := 1) ?_
      cases hreads with
      | primitive hc =>
          cases hstatement with
          | primitive hk hl _ _ =>
              rw [hk, ← hl]
              exact Record.areAbout_of_check hc
      | slice he =>
          cases hstatement with
          | slice hk hl =>
              rw [hk, ← hl]
              exact SliceCall.areAbout_of_expand he

/-- How many warnings a line with a given keyword can have. -/
def Keyword.mostWarnings (keyword : Option Keyword) : Nat :=
  if keyword = some .slice then 2 else 3

namespace Yield

variable {clock : Clock} {loops : LoopStack} {line : LineNumber}
  {source : String}

/-- What a line yields is warned of when it is read, and when its written
    record is encoded. -/
theorem areAbout_of_ofLine {y : Yield} {next : LoopStack}
    (h : ofLine clock loops line source = .ok (y, next)) :
    Warning.AreAbout line (Source.keyword? source)
      (Keyword.mostWarnings (Source.keyword? source)) y.warnings := by
  rw [ofLine] at h
  cases hr : Reading.ofLine line source with
  | error e => rw [hr] at h; cases h
  | ok reading =>
      rw [hr] at h
      obtain ⟨z, hz, hzy⟩ := except_map_eq_ok h
      obtain ⟨rfl, -⟩ := Prod.mk.inj hzy
      have hreading := Reading.areAbout_of_ofLine hr
      obtain ⟨records, warnings⟩ := reading
      cases Reading.shape hr with
      | blank hk =>
          obtain rfl := Except.ok.inj hz
          rw [hk] at hreading ⊢
          exact hreading.append (.nil 1)
      | @written record hw =>
          rw [ofRecords] at hz
          cases he : record.encode loops clock with
          | error e => rw [he] at hz; cases hz
          | ok noted =>
              have hencoded := Record.areAbout_of_encode he
              rw [hw.line_eq] at hencoded
              rw [he] at hz
              rw [← Except.ok.inj hz, append_empty]
              rw [hw.keyword] at hreading ⊢
              exact hreading.append hencoded
      | @expanded expansion hk _ =>
          replace hz := (ofRecords_expansion ..).symm.trans hz
          obtain rfl := Except.ok.inj hz
          rw [hk] at hreading ⊢
          exact hreading.append (.nil 0)

/-- The warnings of a run are about its lines. -/
theorem areAbout_of_ofLines {lines : List (LineNumber × String)}
    {last : LoopStack} {ys : List Yield}
    (h : ofLines clock loops lines = .ok (ys, last)) :
    List.Forall₂ (fun numbered ws =>
        Warning.AreAbout numbered.1 (Source.keyword? numbered.2)
          (Keyword.mostWarnings (Source.keyword? numbered.2)) ws)
      lines (ys.map warnings) :=
  List.forall₂_map_right_iff.mpr (forall₂_of_ofLines areAbout_of_ofLine h)

end Yield

/-! ## Lines of a text -/

/-- How many warnings a line that begins with the given word can have. -/
def Source.mostWarnings (first : Option String) : Nat :=
  if first = some "SLICE" then 2 else 3

/-- The warnings of a line have its number and name the word that it begins
    with.  There are at most three, and for a use of `SLICE` at most two. -/
structure Source.Warned (line : LineNumber) (source : String)
    (warnings : List Warning) : Prop where
  line : ∀ warning ∈ warnings, warning.line = line
  named : ∀ warning ∈ warnings,
    firstWord? source = some warning.keyword.text
  few : warnings.length ≤ mostWarnings (firstWord? source)

/-- An error names a line of source by the word that the line begins with,
    unless it is about the characters of the line.  A loop that is left open
    begins with `LOOP`, a use of `SLICE` that fails is named as such, and
    there is never a statement without words. -/
structure CompileError.NamesLine (source : String) (error : CompileError) :
    Prop where
  unread : error.fault.stage = .words → error.fault.keyword = ""
  named : error.fault.stage ≠ .words →
    Source.firstWord? source = some error.fault.keyword
  expanded : Source.firstWord? source = some "SLICE" →
    error.fault.keyword = "SLICE"
  leftOpen : error.fault = .loopLeftOpen →
    Source.firstWord? source = some "LOOP"
  worded : error.fault ≠ .missingInstruction

/-- What a compilation reports is about the lines of the text: the warnings
    of a program are those of its lines in order, and an error names one of
    the lines. -/
def Reported (text : String) : Except CompileError Program → Prop
  | .ok program =>
      ∃ parts, program.warnings.toList = parts.flatten ∧
        List.Forall₂ (fun numbered part =>
            Source.Warned numbered.1 numbered.2 part)
          (Source.numberedLines text) parts
  | .error error =>
      ∃ source, (error.line, source) ∈ Source.numberedLines text ∧
        error.NamesLine source

/-- What is about a line is a warning of it. -/
theorem Warning.AreAbout.warned {line : LineNumber} {source : String}
    {warnings : List Warning}
    (h : AreAbout line (Source.keyword? source)
      (Keyword.mostWarnings (Source.keyword? source)) warnings) :
    Source.Warned line source warnings where
  line := h.line
  named := by
    intro warning hw
    exact (Source.firstWord?_eq_text_iff source _).mpr (h.keyword warning hw)
  few := by
    have hslice : Source.firstWord? source = some "SLICE"
        ↔ Source.keyword? source = some .slice :=
      Source.firstWord?_eq_text_iff source .slice
    rw [Source.mostWarnings, if_congr hslice rfl rfl]
    exact h.few

/-- An error that is blamed on a line names it. -/
theorem Source.Blamed.namesLine {line : LineNumber} {source : String}
    {error : CompileError} (h : Blamed line source error) :
    error.line = line ∧ error.NamesLine source := by
  cases h with
  | unread hread =>
      obtain ⟨rfl, hfault⟩ := Word.read_failsWith line source error hread
      have hfirst := firstWord?_of_read_error hread
      obtain ⟨at', fault⟩ := error
      -- the fault is one of two, and neither knows of a keyword
      rcases hfault with ⟨column, rfl⟩ | ⟨column, c, rfl⟩
      all_goals
        refine ⟨rfl, fun _ => rfl, fun hstage => absurd rfl hstage, ?_,
          nofun, nofun⟩
        rw [hfirst]
        exact nofun
  | named hread habout =>
      obtain ⟨rfl, hkeyword, hstage⟩ := habout
      have hfirst := firstWord?_of_read hread
      rw [← hkeyword] at hfirst
      refine ⟨rfl, ?_, fun _ => hfirst, ?_, ?_, ?_⟩
      · intro hwords
        rw [hstage] at hwords
        cases hwords
      · intro hslice
        rw [hfirst] at hslice
        exact Option.some.inj hslice
      · intro hopen
        rw [hopen] at hstage
        cases hstage
      · intro hmissing
        rw [hmissing] at hstage
        cases hstage

section

variable {clock : Clock} {text source : String} {line : LineNumber}

/-- A loop that is left open was opened by a line that begins with
    `LOOP`. -/
theorem exists_loop_of_open {ys : List Yield} {loops : LoopStack}
    (h : Yield.ofLines clock .empty (Source.numberedLines text)
      = .ok (ys, loops)) (hl : loops.innermost? = some line) :
    ∃ source, (line, source) ∈ Source.numberedLines text ∧
      Source.firstWord? source = some Opcode.loop.mnemonic := by
  have htracks := Yield.tracks_of_ofLines .nil h
  obtain ⟨lines⟩ := loops
  cases lines with
  | nil => cases hl
  | cons opened rest =>
      obtain rfl := Option.some.inj hl
      obtain ⟨u, ⟨_, source⟩, v, hw, rfl, hb, -⟩ := htracks.split
      refine ⟨source, ?_, ?_⟩
      · rw [List.nil_append] at hw
        rw [hw]
        exact List.mem_append_right u List.mem_cons_self
      · exact (Source.firstWord?_eq_text_iff source (.operation .loop)).mpr
          (Source.bracket_eq_opening.mp hb)

/-- An error names one of the lines. -/
theorem exists_namesLine {error : CompileError}
    (h : compile clock text = .error error) :
    ∃ source, (error.line, source) ∈ Source.numberedLines text ∧
      error.NamesLine source := by
  by_cases hfault : error.fault = .loopLeftOpen
  · cases hy : Yield.ofLines clock .empty (Source.numberedLines text) with
    | error e =>
        rw [compile_of_error hy] at h
        obtain rfl := Except.error.inj h
        exact absurd hfault (Yield.fault_of_ofLines hy)
    | ok found =>
        obtain ⟨ys, loops⟩ := found
        cases hl : loops.innermost? with
        | none => rw [compile_of_closed hy hl] at h; cases h
        | some line =>
            rw [compile_of_open hy hl] at h
            rw [← Except.error.inj h]
            obtain ⟨source, hmem, hfirst⟩ := exists_loop_of_open hy hl
            refine ⟨source, hmem, nofun, fun _ => hfirst, ?_,
              fun _ => hfirst, nofun⟩
            intro hslice
            rw [hfirst] at hslice
            exact absurd (Option.some.inj hslice)
              (Opcode.mnemonic_ne_slice .loop)
  · obtain ⟨u, source, v, ys, mid, hsplit, -, -, hline⟩ :=
      exists_faulty_line h hfault
    obtain ⟨-, habout⟩ :=
      (Yield.ofLine_failsWith clock mid _ source error hline).namesLine
    refine ⟨source, ?_, habout⟩
    rw [hsplit]
    exact List.mem_append_right u List.mem_cons_self

/-- The warnings of a program are those of its lines. -/
theorem exists_warned {program : Program}
    (h : compile clock text = .ok program) :
    ∃ parts, program.warnings.toList = parts.flatten ∧
      List.Forall₂ (fun numbered part =>
          Source.Warned numbered.1 numbered.2 part)
        (Source.numberedLines text) parts := by
  obtain ⟨ys, hy, rfl⟩ := compile_eq_ok h
  refine ⟨ys.map Yield.warnings, ?_,
    (Yield.areAbout_of_ofLines hy).imp fun _ _ hws => hws.warned⟩
  rw [← List.flatMap_def, Yield.program, List.toList_toArray]
  rfl

end

/-! ## Numbers of lines -/

/-- How many warnings the line with a given number can have. -/
def Source.mostWarningsAt (text : String) (line : Nat) : Nat :=
  mostWarnings (firstWordAt text line)

/-- The warnings of a program are in the order of the lines that they name,
    each by the word that this line begins with.  No line has more than
    three, and a use of `SLICE` has no more than two, none of them about its
    instructions. -/
structure Program.Attributed (text : String) (program : Program) : Prop where
  ordered : program.warnings.toList.Pairwise fun w v => w.line ≤ v.line
  placed : ∀ warning ∈ program.warnings,
    (1 ≤ warning.line ∧ warning.line ≤ (Source.lines text).length) ∧
      Source.firstWordAt text warning.line = some warning.keyword.text
  few : ∀ line, (program.warnings.toList.countP fun w => w.line = line)
    ≤ Source.mostWarningsAt text line
  expanded : ∀ row ∈ program.listing, row.synthetic = true →
    ∀ warning ∈ program.warnings, warning.line = row.line →
      warning.keyword = .slice

/-- What a compilation reports is found by the numbers of lines. -/
def Attributed (text : String) : Except CompileError Program → Prop
  | .ok program => program.Attributed text
  | .error error =>
      (1 ≤ error.line ∧ error.line ≤ (Source.lines text).length) ∧
        ∀ source, (Source.lines text)[error.line - 1]? = some source →
          error.NamesLine source

section

variable {clock : Clock} {text : String}
  (hsize : (Source.lines text).length < Source.lineLimit)

include hsize

/-- The error of a text is about the line that has its number. -/
theorem attributed_of_error {error : CompileError}
    (h : compile clock text = .error error) :
    Attributed text (.error error) := by
  obtain ⟨source, hmem, habout⟩ := exists_namesLine h
  refine ⟨Source.le_length_of_mem hsize hmem, fun other hother => ?_⟩
  obtain ⟨-, hat⟩ := Source.getElem?_of_mem_numberedLines hsize hmem
  rw [hat] at hother
  rw [← Option.some.inj hother]
  exact habout

/-- The warnings of a program are attributed to its text. -/
theorem attributed_of_ok {program : Program}
    (h : compile clock text = .ok program) : program.Attributed text := by
  obtain ⟨parts, hparts, hwarned⟩ := exists_warned h
  have hlines := Source.pairwise_numberedLines hsize
  have hplaced : Source.Placed Warning.line (Source.numberedLines text)
      parts := hwarned.imp fun _ _ hpart => hpart.line
  have hnamed : ∀ warning ∈ program.warnings,
      (1 ≤ warning.line ∧ warning.line ≤ (Source.lines text).length) ∧
        Source.firstWordAt text warning.line
          = some warning.keyword.text := by
    intro warning hw
    rw [← Array.mem_toList_iff, hparts] at hw
    obtain ⟨part, hpart, hw⟩ := List.mem_flatten.mp hw
    obtain ⟨⟨line, source⟩, hmem, hline⟩ :=
      Source.exists_line_of_mem_right hwarned hpart
    rw [hline.line warning hw, Source.firstWordAt_of_mem hsize hmem]
    exact ⟨Source.le_length_of_mem hsize hmem, hline.named warning hw⟩
  have hfew : List.Forall₂ (fun numbered part =>
      part.length ≤ Source.mostWarningsAt text numbered.1)
      (Source.numberedLines text) parts := by
    refine ((List.forall₂_and_left _ _).mpr
      ⟨fun _ hmem => hmem, hwarned⟩).imp ?_
    rintro ⟨line, source⟩ part ⟨hmem, hpart⟩
    rw [Source.mostWarningsAt, Source.firstWordAt_of_mem hsize hmem]
    exact hpart.few
  refine ⟨?_, hnamed, fun line => ?_, ?_⟩
  · rw [hparts]
    exact hplaced.pairwise_flatten hlines
  · rw [hparts]
    exact hplaced.countP_flatten_le hlines hfew line
  · intro row hrow hsynthetic warning hw hline
    have hfirst := (hnamed warning hw).2
    obtain ⟨ys, hy, rfl⟩ := compile_eq_ok h
    rw [Yield.program, List.mem_toArray] at hrow
    obtain ⟨line, source, _, _, y, hmem, hmade, hrow, -⟩ :=
      Yield.exists_line_of_mem_rows _ _ _ _ hy hrow
    have hslice := hmade.keyword_of_synthetic hrow hsynthetic
    -- the warning names the first word of the line, and that is `SLICE`
    rw [hline, hmade.line_eq row hrow, Source.firstWordAt_of_mem hsize hmem,
      Source.firstWord?_eq_text_iff, hslice] at hfirst
    exact (Option.some.inj hfirst).symm

end

/-- **Diagnostics name a line and its first word.**  Whatever is reported of
    a text, be it the warnings of a program or the error that there is none,
    is about lines of the text.  Where each line has a number of its own, it
    is found by that number. -/
theorem compile_attributed (clock : Clock) (text : String) :
    Reported text (compile clock text) ∧
      ((Source.lines text).length < Source.lineLimit →
        Attributed text (compile clock text)) := by
  cases h : compile clock text with
  | ok program =>
      exact ⟨exists_warned h, fun hsize => attributed_of_ok hsize h⟩
  | error error =>
      exact ⟨exists_namesLine h, fun hsize => attributed_of_error hsize h⟩

/-- A line can have three warnings: of a word too many, of a unit that is
    none and of a number that does not fit.  A loop that is left open is
    reported on its own line. -/
theorem compile_attributed_to_wait :
    (∃ program, compile ⟨40000000⟩ "WAIT 0x1000000000001 turns later"
        = .ok program ∧
      program.warnings.toList.map Warning.line = [1, 1, 1] ∧
      ∀ warning ∈ program.warnings,
        Source.firstWordAt "WAIT 0x1000000000001 turns later" warning.line
          = some warning.keyword.text) ∧
    compile ⟨40000000⟩ "LOOP 2\nDO_LOOP\nLOOP 3\nWAIT"
        = .error ⟨3, .loopLeftOpen⟩ ∧
      Source.firstWord? "LOOP 3" = some "LOOP" := by
  have hwait : (compile ⟨40000000⟩ "WAIT 0x1000000000001 turns later"
      ).toOption.map (fun program => program.warnings.toList.map Warning.line)
        = some [1, 1, 1] := by
    decide +kernel
  obtain ⟨program, hprogram, hlines⟩ := Option.map_eq_some_iff.mp hwait
  replace hprogram := except_eq_ok_of_toOption hprogram
  have hopen : compile ⟨40000000⟩ "LOOP 2\nDO_LOOP\nLOOP 3\nWAIT"
      = .error ⟨3, .loopLeftOpen⟩ := by
    decide +kernel
  constructor
  · obtain ⟨-, hattributed⟩ := compile_attributed ⟨40000000⟩
      "WAIT 0x1000000000001 turns later"
    rw [hprogram] at hattributed
    exact ⟨program, hprogram, hlines, fun warning hw =>
      ((hattributed (by decide +kernel)).placed warning hw).2⟩
  · obtain ⟨-, hattributed⟩ := compile_attributed ⟨40000000⟩
      "LOOP 2\nDO_LOOP\nLOOP 3\nWAIT"
    rw [hopen] at hattributed
    obtain ⟨-, hnames⟩ := hattributed (by decide +kernel)
    have hthird : (Source.lines "LOOP 2\nDO_LOOP\nLOOP 3\nWAIT")[2]?
        = some "LOOP 3" := by
      decide +kernel
    exact ⟨hopen, (hnames "LOOP 3" hthird).leftOpen rfl⟩

/-- At the rollover the second line is warned of as line 0. -/
theorem not_forall_warnings_ordered :
    ¬ ∀ (clock : Clock) (text : String) (program : Program),
      compile clock text = .ok program →
      program.warnings.toList.Pairwise fun w v => w.line ≤ v.line := by
  intro hclaim
  have hevaluated : (compile ⟨40000000⟩ (Source.atRollover "END 5\nEND 5")
      ).toOption.map (fun program => program.warnings.toList.map Warning.line)
        = some [4294967295, 0] := by
    rw [compile, Assembly.compile, Assembly.compileLines_atRollover]
    decide +kernel
  obtain ⟨program, hprogram, hlines⟩ := Option.map_eq_some_iff.mp hevaluated
  have hordered := List.pairwise_map.mpr
    (hclaim _ _ program (except_eq_ok_of_toOption hprogram))
  rw [hlines] at hordered
  exact absurd hordered (by decide)

end TimingScript
