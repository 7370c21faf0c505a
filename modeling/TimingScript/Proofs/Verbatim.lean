import TimingScript.Proofs.Waiting

/-! # Numbers as written — nothing is cut off in silence

    Most operations are encoded with the number that is written
    (`PassesThrough`).  Two conversions stand behind that: one refuses
    numbers that do not fit, the other reduces them.  They agree wherever
    the first one accepts, so the residue modulo 2^48 is encoded in any case,
    and there is a warning exactly if it is another number than the one that
    is written (`written_warning_ne_none_iff_ne`).

    For a program this means that its warnings tell all numbers that were
    cut off: an instruction whose line was not warned of carries the number
    of that line. -/

namespace TimingScript

open Source (LineNumber)

namespace Record

/-- The operation of the record is encoded with its number: no fixed value
    stands for it, it is no span of time, and it is not computed. -/
def PassesThrough (record : Record) : Prop :=
  match record.opcode with
  | .noop | .start | .set | .and | .or | .repeatProgram | .loop => True
  | .dataRequest => record.argument ≠ some "CURRENT"
  | .inc => record.parameter ≠ 0 ∧ record.argument ≠ some "event_tag"
  | .wait => ∃ name, record.identifier = some name ∧ TimeUnit.Unknown name
  | .doLoop | .endProgram => False

section

variable {record : Record}

/-- What passes through is encoded as it is written, whatever loops are
    open and whatever the clock is. -/
theorem encode_of_passesThrough (h : record.PassesThrough)
    (loops : LoopStack) (clock : Clock) :
    record.encode loops clock = .ok record.written := by
  rw [PassesThrough] at h
  rw [encode]
  cases ho : record.opcode with
  | noop | start | set | and | or | repeatProgram | loop => rfl
  | dataRequest =>
      rw [ho] at h
      exact if_neg h
  | inc =>
      rw [ho] at h
      exact if_neg (not_or.mpr h)
  | wait =>
      rw [ho] at h
      obtain ⟨name, hi, hu⟩ := h
      dsimp only
      rw [waitTicks, hi]
      dsimp only
      rw [TimeUnit.ofName?_eq_none_iff.mpr hu]
  | doLoop | endProgram =>
      rw [ho] at h
      exact h.elim

/-- There is a warning exactly if another number is encoded. -/
theorem written_warning_ne_none_iff_ne :
    record.written.warning ≠ none
      ↔ (record.written.value.toNat : Int) ≠ record.parameter := by
  rw [written_warning_ne_none_iff, value_written,
    ← Parameter.toNat_wrapping_eq_self_iff]

/-- The warning tells what is encoded. -/
theorem exists_cause_of_mem_written {warning : Warning}
    (h : warning ∈ record.written.warning) :
    ∃ cause, warning
      = record.warning (.reduced cause record.written.value) := by
  rw [written] at h ⊢
  split at h
  · cases h
  · exact ⟨_, (Option.some.inj h).symm⟩

end

end Record

/-! ## Numbers in a program -/

section

variable {clock : Clock} {loops next : LoopStack} {line : LineNumber}
  {source : String} {record : Record} {warnings : List Warning} {y : Yield}

/-- A number that passes through makes the one row of its line. -/
theorem Yield.ofLine_of_passesThrough
    (hread : Reading.ofLine line source = .ok ⟨[record], warnings⟩)
    (h : record.PassesThrough)
    (hy : ofLine clock loops line source = .ok (y, next)) :
    y = ⟨[record.row source record.written.value],
      warnings ++ record.written.warning.toList⟩ := by
  rw [ofLine, hread] at hy
  obtain ⟨z, hz, hzy⟩ := except_map_eq_ok hy
  obtain ⟨rfl, -⟩ := Prod.mk.inj hzy
  rw [ofRecords, Record.encode_of_passesThrough h] at hz
  rw [← Except.ok.inj hz, append_empty]
  rfl

variable {text : String} {program : Program}

/-- A line with a number that passes through has the row that carries what
    is written, and its warning. -/
theorem row_mem_of_passesThrough (h : compile clock text = .ok program)
    (hline : (line, source) ∈ Source.numberedLines text)
    (hread : Reading.ofLine line source = .ok ⟨[record], warnings⟩)
    (hpass : record.PassesThrough) :
    record.row source record.written.value ∈ program.listing ∧
      ∀ warning ∈ record.written.warning, warning ∈ program.warnings := by
  obtain ⟨ys, hy, rfl⟩ := compile_eq_ok h
  have hlines := Yield.forall₂_of_ofLines
    (P := fun line source y => ∃ before next,
      Yield.ofLine clock before line source = .ok (y, next))
    (fun hy => ⟨_, _, hy⟩) hy
  obtain ⟨y, hmem, before, next, hmade⟩ :=
    Source.exists_part_of_mem_left hlines hline
  obtain rfl := Yield.ofLine_of_passesThrough hread hpass hmade
  simp only [Yield.program, List.mem_toArray]
  refine ⟨List.mem_flatMap.mpr ⟨_, hmem, List.mem_singleton_self _⟩, ?_⟩
  intro warning hwarning
  refine List.mem_flatMap.mpr ⟨_, hmem, ?_⟩
  exact List.mem_append_right _ (Option.mem_toList.mpr hwarning)

/-- If there is a number for each line, the line has no other row. -/
theorem eq_row_of_passesThrough
    (hsize : (Source.lines text).length < Source.lineLimit)
    (h : compile clock text = .ok program)
    (hline : (line, source) ∈ Source.numberedLines text)
    (hread : Reading.ofLine line source = .ok ⟨[record], warnings⟩)
    (hpass : record.PassesThrough) {row : ListingRow}
    (hrow : row ∈ program.listing) (hl : row.line = line) :
    row = record.row source record.written.value := by
  obtain ⟨ys, hy, rfl⟩ := compile_eq_ok h
  have hlines := Yield.forall₂_of_ofLines
    (P := fun line source y => ∃ before next,
      Yield.ofLine clock before line source = .ok (y, next))
    (fun hy => ⟨_, _, hy⟩) hy
  rw [Yield.program, List.mem_toArray] at hrow
  obtain ⟨z, hz, hrow⟩ := List.mem_flatMap.mp hrow
  obtain ⟨⟨other, otherSource⟩, hother, before, next, hmade⟩ :=
    Source.exists_line_of_mem_right hlines hz
  obtain rfl : other = line :=
    ((Yield.ofLine_eq_ok hmade).line_eq row hrow).symm.trans hl
  obtain rfl : otherSource = source :=
    Source.eq_of_mem_numberedLines hsize hother hline
  obtain rfl := Yield.ofLine_of_passesThrough hread hpass hmade
  exact List.mem_singleton.mp hrow

end

/-- **Numbers as written.**  What passes through is encoded as its residue
    modulo 2^48, with a warning exactly if that is another number; so a line
    of a program that no warning is about has an instruction with the number
    that is written there, and no other instruction if there is a number for
    each line. -/
theorem Record.encode_as_written {record : Record} (h : record.PassesThrough)
    (clock : Clock) :
    (∀ loops, ∃ noted, record.encode loops clock = .ok noted ∧
      (∀ v : Nat, v = noted.value.toNat ↔ v < Parameter.modulus ∧
        (v : Int) ≡ record.parameter [ZMOD (Parameter.modulus : Int)]) ∧
      (noted.warning ≠ none
        ↔ (noted.value.toNat : Int) ≠ record.parameter) ∧
      ∀ warning ∈ noted.warning, ∃ cause,
        warning = record.warning (.reduced cause noted.value)) ∧
    ∀ text program source warnings, compile clock text = .ok program →
      (record.line, source) ∈ Source.numberedLines text →
      Reading.ofLine record.line source = .ok ⟨[record], warnings⟩ →
      (∀ warning ∈ program.warnings, warning.line ≠ record.line) →
      (∃ row ∈ program.listing, row.line = record.line ∧
        row.source = Text.trim source ∧
        row.instruction.opcode = record.opcode ∧
        (row.instruction.parameter.toNat : Int) = record.parameter) ∧
      ((Source.lines text).length < Source.lineLimit →
        ∀ row ∈ program.listing, row.line = record.line →
          row.instruction.opcode = record.opcode ∧
          (row.instruction.parameter.toNat : Int) = record.parameter) := by
  constructor
  · intro loops
    refine ⟨record.written, encode_of_passesThrough h loops clock, ?_,
      written_warning_ne_none_iff_ne, fun _ => exists_cause_of_mem_written⟩
    intro v
    rw [value_written]
    exact Parameter.eq_toNat_wrapping_iff
  · intro text program source warnings hcompile hline hread hsilent
    obtain ⟨hrow, hwarnings⟩ :=
      row_mem_of_passesThrough hcompile hline hread h
    have hvalue : (record.written.value.toNat : Int) = record.parameter := by
      refine not_not.mp fun hne => ?_
      obtain ⟨warning, hsome⟩ := Option.ne_none_iff_exists'.mp
        (written_warning_ne_none_iff_ne.mpr hne)
      obtain ⟨cause, rfl⟩ := exists_cause_of_mem_written hsome
      exact hsilent _ (hwarnings _ hsome) rfl
    refine ⟨⟨_, hrow, rfl, rfl, rfl, hvalue⟩, ?_⟩
    intro hsize row hmem hl
    obtain rfl := eq_row_of_passesThrough hsize hcompile hline hread h hmem hl
    exact ⟨rfl, hvalue⟩

/-- The largest parameter is carried behind a line that is cut off. -/
theorem Record.encode_as_written_largest :
    ∃ (record : Record) (program : Program),
      record.opcode = .wait ∧ record.parameter = 281474976710655 ∧
      (∃ name, record.identifier = some name ∧ TimeUnit.Unknown name) ∧
      compile ⟨1000000000⟩
        "AND 0x1000000000000\nWAIT 281474976710655 cycles" = .ok program ∧
      ⟨1, .operation .and, .reduced (.tooLarge 281474976710656) 0⟩
        ∈ program.warnings ∧
      ∃ row ∈ program.listing, row.line = record.line ∧
        (row.instruction.parameter.toNat : Int) = record.parameter := by
  have h := except_eq_ok_of_toOption
    (show (compile ⟨1000000000⟩
        "AND 0x1000000000000\nWAIT 281474976710655 cycles").toOption = some
      { image := #[5, 0, 0, 0, 0, 0, 0, 0,
          10, 0, 255, 255, 255, 255, 255, 255]
        instructions := #[⟨.and, 0⟩, ⟨.wait, 281474976710655⟩]
        warnings := #[⟨1, .operation .and,
          .reduced (.tooLarge 281474976710656) 0⟩]
        listing := #[⟨1, "AND 0x1000000000000", false, ⟨.and, 0⟩⟩,
          ⟨2, "WAIT 281474976710655 cycles", false,
            ⟨.wait, 281474976710655⟩⟩] } by
      decide +kernel)
  obtain ⟨⟨records, warnings⟩, hread, hrecord⟩ := Option.map_eq_some_iff.mp
    (show (Reading.ofLine 2 "WAIT 281474976710655 cycles").toOption.map
        Reading.records = some
      [⟨.wait, none, 281474976710655, some "cycles", 2, false⟩] by
      decide +kernel)
  obtain rfl := hrecord
  have hpass : Record.PassesThrough
      ⟨.wait, none, 281474976710655, some "cycles", 2, false⟩ :=
    ⟨"cycles", rfl, by decide⟩
  obtain ⟨⟨row, hrow, hl, -, -, hvalue⟩, -⟩ :=
    (encode_as_written hpass ⟨1000000000⟩).2 _ _ _ _ h (by decide +kernel)
      (except_eq_ok_of_toOption hread) (by decide +kernel)
  exact ⟨_, _, rfl, rfl, hpass, h, Array.mem_singleton.mpr rfl, row, hrow, hl,
    hvalue⟩

end TimingScript
