import TimingScript.Proofs.Lines
import TimingScript.Proofs.Reading
import TimingScript.Proofs.Residues

/-! # Yields — what lines of source add to a program

    All that a line does to a program is to append rows and warnings, and
    to change the open loops.  The `Yield` of a line is what it appends
    where given loops are open; it is described here without a program to
    append it to.

    `Made` is the inversion: the yield of a line is empty, or the row of
    its one written record, or the two rows of an expansion.  A line that
    reads well has no yield only if its record cannot be encoded where
    it stands (`ofLine_eq_error`). -/

namespace TimingScript

open Source (LineNumber Word)

/-- The row of a listing that a record and its encoded parameter make. -/
def Record.row (record : Record) (source : String) (parameter : Parameter) :
    ListingRow :=
  { line := record.line, source := Text.trim source,
    synthetic := record.synthetic,
    instruction := ⟨record.opcode, parameter⟩ }

/-- What is appended to an assembly. -/
structure Yield where
  rows : List ListingRow
  warnings : List Warning

namespace Yield

/-- The instructions of the rows. -/
def instructions (y : Yield) : List Instruction :=
  y.rows.map ListingRow.instruction

/-- One yield behind another. -/
def append (y z : Yield) : Yield :=
  ⟨y.rows ++ z.rows, y.warnings ++ z.warnings⟩

/-- Nothing. -/
def empty : Yield := ⟨[], []⟩

/-- Yields in a row. -/
def join (ys : List Yield) : Yield :=
  ⟨ys.flatMap rows, ys.flatMap warnings⟩

/-- The program that a yield makes. -/
def program (y : Yield) : Program :=
  { image := (Image.ofInstructions y.instructions).toArray
    instructions := y.instructions.toArray
    warnings := y.warnings.toArray
    listing := y.rows.toArray }

/-- The instructions of a program are those of its listing. -/
theorem map_instruction_listing (y : Yield) :
    y.program.listing.map ListingRow.instruction = y.program.instructions := by
  rw [program, List.map_toArray]
  rfl

/-! ## The yield of a line -/

/-- The yield of records, encoded in order where the given loops are
    open. -/
def ofRecords (clock : Clock) (source : String) :
    LoopStack → List Record → Except CompileError Yield
  | _, [] => .ok empty
  | loops, record :: rest =>
      match record.encode loops clock with
      | .error error => .error error
      | .ok noted =>
          (ofRecords clock source (loops.after record) rest).map
            (append ⟨[record.row source noted.value], noted.warning.toList⟩)

/-- The yield of a reading where the given loops are open, and the loops
    that are open behind it. -/
def ofReading (clock : Clock) (source : String) (loops : LoopStack)
    (reading : Reading) : Except CompileError (Yield × LoopStack) :=
  (ofRecords clock source loops reading.records).map fun y =>
    (append ⟨[], reading.warnings⟩ y,
      reading.records.foldl LoopStack.after loops)

/-- The yield of a line where the given loops are open, and the loops that
    are open behind it. -/
def ofLine (clock : Clock) (loops : LoopStack) (line : LineNumber)
    (source : String) : Except CompileError (Yield × LoopStack) :=
  match Reading.ofLine line source with
  | .error error => .error error
  | .ok reading => ofReading clock source loops reading

/-- The yields of lines in order, and the loops that are open at last. -/
def ofLines (clock : Clock) :
    LoopStack → List (LineNumber × String) →
      Except CompileError (List Yield × LoopStack)
  | loops, [] => .ok ([], loops)
  | loops, (line, source) :: rest =>
      match ofLine clock loops line source with
      | .error error => .error error
      | .ok (y, next) =>
          (ofLines clock next rest).map fun (ys, last) => (y :: ys, last)

/-- A line without a yield ends a run. -/
theorem ofLines_cons_of_error {clock : Clock} {loops : LoopStack}
    {line : LineNumber} {source : String} {error : CompileError}
    (h : ofLine clock loops line source = .error error)
    (rest : List (LineNumber × String)) :
    ofLines clock loops ((line, source) :: rest) = .error error := by
  rw [ofLines, h]

/-- A line with a yield is followed by the run of the others. -/
theorem ofLines_cons_of_ok {clock : Clock} {loops next : LoopStack}
    {line : LineNumber} {source : String} {y : Yield}
    (h : ofLine clock loops line source = .ok (y, next))
    (rest : List (LineNumber × String)) :
    ofLines clock loops ((line, source) :: rest)
      = (ofLines clock next rest).map fun (ys, last) => (y :: ys, last) := by
  rw [ofLines, h]

/-- A run over lines begins with the yield of the first one. -/
theorem ofLines_cons_eq_ok {clock : Clock} {loops last : LoopStack}
    {line : LineNumber} {source : String}
    {rest : List (LineNumber × String)} {ys : List Yield}
    (h : ofLines clock loops ((line, source) :: rest) = .ok (ys, last)) :
    ∃ y next zs, ofLine clock loops line source = .ok (y, next) ∧
      ofLines clock next rest = .ok (zs, last) ∧ ys = y :: zs := by
  cases hy : ofLine clock loops line source with
  | error e =>
      rw [ofLines_cons_of_error hy] at h
      cases h
  | ok found =>
      obtain ⟨y, next⟩ := found
      rw [ofLines_cons_of_ok hy] at h
      obtain ⟨⟨zs, final⟩, hz, hzy⟩ := except_map_eq_ok h
      obtain ⟨rfl, rfl⟩ := Prod.mk.inj hzy
      exact ⟨y, next, zs, rfl, hz, rfl⟩

/-- A run over lines fails for its first line or for a later one. -/
theorem ofLines_cons_eq_error {clock : Clock} {loops : LoopStack}
    {line : LineNumber} {source : String}
    {rest : List (LineNumber × String)} {error : CompileError}
    (h : ofLines clock loops ((line, source) :: rest) = .error error) :
    ofLine clock loops line source = .error error ∨
      ∃ y next, ofLine clock loops line source = .ok (y, next) ∧
        ofLines clock next rest = .error error := by
  cases hy : ofLine clock loops line source with
  | error e =>
      rw [ofLines_cons_of_error hy] at h
      exact .inl (congrArg Except.error (Except.error.inj h))
  | ok found =>
      obtain ⟨y, next⟩ := found
      rw [ofLines_cons_of_ok hy] at h
      cases hrest : ofLines clock next rest with
      | ok zs =>
          rw [hrest] at h
          cases h
      | error e =>
          rw [hrest] at h
          obtain rfl := Except.error.inj h
          exact .inr ⟨y, next, rfl, hrest⟩

/-- A run over lines goes on where its first part ended. -/
theorem ofLines_append_of_ok {clock : Clock} {mid : LoopStack}
    {u : List (LineNumber × String)} (v : List (LineNumber × String)) :
    ∀ {loops : LoopStack} {ys : List Yield},
      ofLines clock loops u = .ok (ys, mid) →
      ofLines clock loops (u ++ v)
        = (ofLines clock mid v).map fun (zs, last) => (ys ++ zs, last) := by
  induction u with
  | nil =>
      intro loops ys h
      obtain ⟨rfl, rfl⟩ := Prod.mk.inj (Except.ok.inj h)
      rw [List.nil_append]
      cases ofLines clock loops v <;> rfl
  | cons numbered rest ih =>
      intro loops ys h
      obtain ⟨line, source⟩ := numbered
      obtain ⟨y, next, zs, hy, hz, rfl⟩ := ofLines_cons_eq_ok h
      rw [List.cons_append, ofLines_cons_of_ok hy, ih hz]
      cases ofLines clock mid v <;> rfl

/-- A run that succeeds in two parts succeeds in each of them. -/
theorem ofLines_append_eq_ok {clock : Clock} {last : LoopStack}
    {u v : List (LineNumber × String)} :
    ∀ {loops : LoopStack} {ys : List Yield},
      ofLines clock loops (u ++ v) = .ok (ys, last) →
      ∃ front mid back, ofLines clock loops u = .ok (front, mid) ∧
        ofLines clock mid v = .ok (back, last) ∧ ys = front ++ back := by
  induction u with
  | nil => intro loops ys h; exact ⟨[], loops, ys, rfl, h, rfl⟩
  | cons numbered rest ih =>
      intro loops ys h
      obtain ⟨line, source⟩ := numbered
      obtain ⟨y, next, zs, hy, hz, rfl⟩ := ofLines_cons_eq_ok h
      obtain ⟨front, mid, back, hfront, hback, rfl⟩ := ih hz
      refine ⟨y :: front, mid, back, ?_, hback, rfl⟩
      rw [ofLines_cons_of_ok hy, hfront]
      rfl

/-- What is true of the yield of a line, wherever it stands, is true line by
    line of the yields of a run. -/
theorem forall₂_of_ofLines {clock : Clock}
    {P : LineNumber → String → Yield → Prop}
    (hline : ∀ {line source loops next y},
      ofLine clock loops line source = .ok (y, next) → P line source y)
    {lines : List (LineNumber × String)} {last : LoopStack} :
    ∀ {loops : LoopStack} {ys : List Yield},
      ofLines clock loops lines = .ok (ys, last) →
      List.Forall₂ (fun numbered y => P numbered.1 numbered.2 y) lines ys := by
  induction lines with
  | nil =>
      intro loops ys h
      obtain ⟨rfl, -⟩ := Prod.mk.inj (Except.ok.inj h)
      exact .nil
  | cons numbered rest ih =>
      intro loops ys h
      obtain ⟨line, source⟩ := numbered
      obtain ⟨y, next, zs, hy, hz, rfl⟩ := ofLines_cons_eq_ok h
      exact .cons (hline hy) (ih hz)

/-! ## Yields as a monoid -/

@[simp] theorem append_empty (y : Yield) : y.append empty = y := by
  simp [append, empty]

theorem append_assoc (x y z : Yield) :
    (x.append y).append z = x.append (y.append z) := by
  simp [append, List.append_assoc]

@[simp] theorem join_cons (y : Yield) (ys : List Yield) :
    join (y :: ys) = y.append (join ys) := by
  simp [join, append]

/-- Yields in two parts. -/
theorem join_append (ys zs : List Yield) :
    join (ys ++ zs) = (join ys).append (join zs) := by
  simp [join, append]

end Yield

/-! ## The records of an expansion -/

/-- A mask is written as it is. -/
theorem Expansion.written_record (line : LineNumber) (opcode : Opcode)
    (mask : Parameter) :
    (Expansion.record line opcode mask).written = ⟨mask, none⟩ := by
  rw [Record.written, show (Expansion.record line opcode mask).parameter
    = mask.toNat from rfl, Parameter.checked_toNat]

/-- The rows of an expansion: its two masks, as they are. -/
def Expansion.rows (expansion : Expansion) (source : String) :
    List ListingRow :=
  [(record expansion.line .and expansion.clearMask).row source
      expansion.clearMask,
    (record expansion.line .or expansion.setMask).row source
      expansion.setMask]

/-- The first mask of an expansion is encoded wherever it stands. -/
theorem Expansion.encode_clear (clock : Clock) (loops : LoopStack)
    (expansion : Expansion) :
    (record expansion.line .and expansion.clearMask).encode loops clock
      = .ok ⟨expansion.clearMask, none⟩ :=
  congrArg Except.ok (written_record ..)

/-- The second mask of an expansion is encoded wherever it stands. -/
theorem Expansion.encode_set (clock : Clock) (loops : LoopStack)
    (expansion : Expansion) :
    (record expansion.line .or expansion.setMask).encode loops clock
      = .ok ⟨expansion.setMask, none⟩ :=
  congrArg Except.ok (written_record ..)

/-- An expansion is encoded wherever it stands. -/
theorem Yield.ofRecords_expansion (clock : Clock) (source : String)
    (loops : LoopStack) (expansion : Expansion) :
    ofRecords clock source loops expansion.records
      = .ok ⟨expansion.rows source, []⟩ := by
  rw [Expansion.records, ofRecords, Expansion.encode_clear]
  show (ofRecords clock source loops [_]).map _ = _
  rw [ofRecords, Expansion.encode_set]
  rfl

/-- A warning in front of a reading is one in front of its yield. -/
theorem Yield.ofReading_warn (clock : Clock) (source : String)
    (loops : LoopStack) (warnings : List Warning) (reading : Reading) :
    ofReading clock source loops (reading.warn warnings)
      = (ofReading clock source loops reading).map fun (y, last) =>
          (append ⟨[], warnings⟩ y, last) := by
  rw [ofReading, ofReading,
    show (reading.warn warnings).records = reading.records from rfl]
  cases ofRecords clock source loops reading.records with
  | error e => rfl
  | ok y =>
      have h := append_assoc ⟨[], warnings⟩ ⟨[], reading.warnings⟩ y
      exact congrArg
        (fun z => Except.ok (z, reading.records.foldl LoopStack.after loops)) h

namespace Yield

/-- What a line can yield, and which loops are open behind it. -/
inductive Made (clock : Clock) (loops : LoopStack) (line : LineNumber)
    (source : String) : Yield → LoopStack → Prop where
  | blank {warnings : List Warning} : Source.keyword? source = none →
      Made clock loops line source ⟨[], warnings⟩ loops
  | written {record : Record} {warnings : List Warning}
      {noted : Noted Parameter} :
      Reading.ofLine line source = .ok ⟨[record], warnings⟩ →
      Reading.Written line source record →
      record.encode loops clock = .ok noted →
      Made clock loops line source
        ⟨[record.row source noted.value],
          warnings ++ noted.warning.toList⟩ (loops.after record)
  | expanded {expansion : Expansion} {warnings : List Warning} :
      Source.keyword? source = some .slice → expansion.line = line →
      Made clock loops line source ⟨expansion.rows source, warnings⟩ loops

section

variable {clock : Clock} {loops : LoopStack} {line : LineNumber}
  {source : String}

/-- A line yields nothing, a written record or an expansion. -/
theorem ofLine_eq_ok {y : Yield} {next : LoopStack}
    (h : ofLine clock loops line source = .ok (y, next)) :
    Made clock loops line source y next := by
  rw [ofLine] at h
  cases hr : Reading.ofLine line source with
  | error e => rw [hr] at h; cases h
  | ok reading =>
      rw [hr] at h
      obtain ⟨z, hz, hzy⟩ := except_map_eq_ok h
      obtain ⟨rfl, rfl⟩ := Prod.mk.inj hzy
      obtain ⟨records, warnings⟩ := reading
      cases Reading.shape hr with
      | blank hk =>
          rw [← Except.ok.inj hz, append_empty]
          exact .blank hk
      | @written record hw =>
          rw [ofRecords] at hz
          cases he : record.encode loops clock with
          | error e => rw [he] at hz; cases hz
          | ok noted =>
              rw [he] at hz
              rw [← Except.ok.inj hz, append_empty]
              exact .written hr hw he
      | @expanded expansion hk hl =>
          replace hz := (ofRecords_expansion ..).symm.trans hz
          rw [← Except.ok.inj hz, append, List.append_nil, List.nil_append]
          exact .expanded hk hl

/-- A line has no yield if it has no reading, or if its record cannot be
    encoded where the given loops are open. -/
theorem ofLine_eq_error {error : CompileError}
    (h : ofLine clock loops line source = .error error) :
    Reading.ofLine line source = .error error ∨
      ∃ record, Reading.Written line source record ∧
        record.encode loops clock = .error error := by
  rw [ofLine] at h
  cases hr : Reading.ofLine line source with
  | error e =>
      rw [hr] at h
      exact .inl (congrArg Except.error (Except.error.inj h))
  | ok reading =>
      right
      rw [hr] at h
      obtain ⟨records, warnings⟩ := reading
      replace h : (ofRecords clock source loops records).map _ = _ := h
      cases Reading.shape hr with
      | blank hk => cases h
      | @written record hw =>
          rw [ofRecords] at h
          cases he : record.encode loops clock with
          | ok noted => rw [he] at h; cases h
          | error e =>
              rw [he] at h
              rw [← Except.error.inj h]
              exact ⟨record, hw, he⟩
      | @expanded expansion hk hl =>
          replace h := (congrArg (Except.map _)
            (ofRecords_expansion ..)).symm.trans h
          cases h

end

/-- The rows of a line carry its number. -/
theorem Made.line_eq {clock : Clock} {loops next : LoopStack}
    {line : LineNumber} {source : String} {y : Yield}
    (h : Made clock loops line source y next) :
    ∀ row ∈ y.rows, row.line = line := by
  intro row hrow
  cases h with
  | blank _ => cases hrow
  | written _ hw _ =>
      rw [List.mem_singleton.mp hrow]
      exact hw.line_eq
  | expanded _ hl =>
      rcases List.mem_cons.mp hrow with rfl | hrow
      · exact hl
      · rw [List.mem_singleton.mp hrow]
        exact hl

/-- A row that was not made by `SLICE` is the one row of a written
    record. -/
theorem Made.exists_written {clock : Clock} {loops next : LoopStack}
    {line : LineNumber} {source : String} {y : Yield}
    (h : Made clock loops line source y next) {row : ListingRow}
    (hrow : row ∈ y.rows) (hs : row.synthetic = false) :
    ∃ record warnings noted,
      Reading.ofLine line source = .ok ⟨[record], warnings⟩ ∧
      Reading.Written line source record ∧
      record.encode loops clock = .ok noted ∧
      row = record.row source noted.value ∧
      y.warnings = warnings ++ noted.warning.toList := by
  cases h with
  | blank _ => cases hrow
  | written hread hw he =>
      exact ⟨_, _, _, hread, hw, he, List.mem_singleton.mp hrow, rfl⟩
  | expanded _ _ =>
      rcases List.mem_cons.mp hrow with rfl | hrow
      · cases hs
      · rw [List.mem_singleton.mp hrow] at hs
        cases hs

/-- A row that was made by `SLICE` stands on a line that uses it. -/
theorem Made.keyword_of_synthetic {clock : Clock} {loops next : LoopStack}
    {line : LineNumber} {source : String} {y : Yield}
    (h : Made clock loops line source y next) {row : ListingRow}
    (hrow : row ∈ y.rows) (hs : row.synthetic = true) :
    Source.keyword? source = some .slice := by
  cases h with
  | blank _ => cases hrow
  | written _ hw _ =>
      rw [List.mem_singleton.mp hrow, Record.row, hw.synthetic] at hs
      cases hs
  | expanded hk _ => exact hk

/-- Every row of a run is made by one of its lines, which warned of it in
    its place. -/
theorem exists_line_of_mem_rows {clock : Clock} {row : ListingRow}
    (lines : List (LineNumber × String)) (loops last : LoopStack)
    (ys : List Yield) (h : ofLines clock loops lines = .ok (ys, last))
    (hrow : row ∈ (join ys).rows) :
    ∃ line source before next y, (line, source) ∈ lines ∧
      Made clock before line source y next ∧ row ∈ y.rows ∧
      ∀ warning ∈ y.warnings, warning ∈ (join ys).warnings := by
  have hlines := forall₂_of_ofLines
    (P := fun line source y => ∃ before next,
      Made clock before line source y next)
    (fun hy => ⟨_, _, ofLine_eq_ok hy⟩) h
  obtain ⟨y, hy, hrow⟩ := List.mem_flatMap.mp hrow
  obtain ⟨⟨line, source⟩, hmem, before, next, hmade⟩ :=
    Source.exists_line_of_mem_right hlines hy
  exact ⟨line, source, before, next, y, hmem, hmade, hrow,
    fun _ hw => List.mem_flatMap.mpr ⟨y, hy, hw⟩⟩

end Yield

end TimingScript
