import TimingScript.Proofs.Growth
import TimingScript.Proofs.Lines
import TimingScript.Proofs.Residues
import TimingScript.Proofs.Rules

/-! # Written numbers — zero is refused, but it can be encoded

    Operations that need a parameter are checked for one while it is still
    the number of the source, of any size.  It is reduced to 48 bits only
    when it is encoded, and then a multiple of 2^48 becomes zero after all.
    That is the only way for such an instruction to carry zero, and it does
    not happen silently. -/

namespace TimingScript

open Source (LineNumber)

namespace Record

/-- What is written is encoded by its residue, with or without a
    warning. -/
theorem value_written (record : Record) :
    record.written.value = Parameter.wrapping record.parameter := by
  rw [written]
  split
  · rename_i value hc
    exact Parameter.checked_eq_ok hc
  · rfl

/-- A multiple of 2^48 is written as zero, with a warning. -/
theorem written_of_dvd {record : Record} (hpos : 0 < record.parameter)
    (h : (Parameter.modulus : Int) ∣ record.parameter) :
    record.written = ⟨0, some (record.warning
      (.reduced (.tooLarge record.parameter.toNat) 0))⟩ := by
  rw [written, Parameter.checked_of_dvd hpos h]
  dsimp only
  rw [Parameter.wrapping_eq_zero_iff.mpr h]

/-- A parameter that is needed is encoded as it is written. -/
theorem encode_of_needsParameter {record : Record} (h : record.NeedsParameter)
    (loops : LoopStack) (clock : Clock) :
    record.encode loops clock = .ok record.written := by
  rw [NeedsParameter] at h
  rw [encode]
  cases ho : record.opcode with
  | start | loop | set | and | or => rfl
  | dataRequest =>
      rw [ho] at h
      exact if_neg h
  | noop | inc | doLoop | repeatProgram | wait | endProgram =>
      simp only [ho] at h

end Record

/-! ## Instructions that carry zero -/

/-- The operations that need a parameter other than zero. -/
def Opcode.needsParameter : Opcode → Bool
  | .start | .dataRequest | .set | .and | .or | .loop => true
  | _ => false

/-- Only the record of an operation that needs a parameter needs one. -/
theorem Record.needsParameter_opcode {record : Record}
    (h : record.NeedsParameter) : record.opcode.needsParameter = true := by
  rw [NeedsParameter] at h
  cases ho : record.opcode with
  | start | loop | set | and | or | dataRequest => rfl
  | noop | inc | doLoop | repeatProgram | wait | endProgram =>
      rw [ho] at h
      exact h.elim

/-- A written record needs a parameter if its operation does, unless it
    asks for the current tag. -/
theorem Record.needsParameter_or_current {record : Record}
    (hop : record.opcode.needsParameter = true)
    (hs : record.synthetic = false) :
    record.NeedsParameter ∨
      record.opcode = .dataRequest ∧ record.argument = some "CURRENT" := by
  rw [NeedsParameter]
  cases ho : record.opcode with
  | start | loop => exact .inl trivial
  | set | and | or => exact .inl hs
  | dataRequest =>
      by_cases ha : record.argument = some "CURRENT"
      · exact .inr ⟨rfl, ha⟩
      · exact .inl ha
  | noop | inc | doLoop | repeatProgram | wait | endProgram =>
      rw [ho] at hop
      cases hop

/-- A request for the current tag carries the largest parameter. -/
theorem Record.encode_current {record : Record}
    (ho : record.opcode = .dataRequest)
    (ha : record.argument = some "CURRENT") (loops : LoopStack)
    (clock : Clock) :
    record.encode loops clock = .ok ⟨Parameter.max, none⟩ := by
  rw [encode, ho]
  exact if_pos ha

/-- A written record carries zero only if its number is a multiple of 2^48
    other than zero, and then it is warned of. -/
theorem Reading.Written.value_eq_zero_iff {line : LineNumber}
    {source : String} {record : Record} {loops : LoopStack} {clock : Clock}
    {noted : Noted Parameter} (hw : Written line source record)
    (hop : record.opcode.needsParameter = true)
    (he : record.encode loops clock = .ok noted) :
    (noted.value = 0 ↔ record.NeedsParameter ∧
        (Parameter.modulus : Int) ∣ record.parameter) ∧
      (noted.value = 0 → record.parameter ≠ 0 ∧
        noted.warning = some (record.warning
          (.reduced (.tooLarge record.parameter.toNat) 0))) := by
  rcases Record.needsParameter_or_current hop hw.synthetic with
    hneeds | ⟨ho, ha⟩
  · rw [Record.encode_of_needsParameter hneeds] at he
    obtain rfl := Except.ok.inj he
    have hzero : record.written.value = 0
        ↔ (Parameter.modulus : Int) ∣ record.parameter := by
      rw [record.value_written, Parameter.wrapping_eq_zero_iff]
    refine ⟨⟨fun h => ⟨hneeds, hzero.mp h⟩, fun h => hzero.mpr h.2⟩, ?_⟩
    intro h
    obtain ⟨checked, hc⟩ := hw.checked
    have hne : record.parameter ≠ 0 := (Record.check_eq_ok hc).2 hneeds
    have hpos : 0 < record.parameter := by
      have := hw.nonneg
      omega
    rw [Record.written_of_dvd hpos (hzero.mp h)]
    exact ⟨hne, rfl⟩
  · rw [Record.encode_current ho ha] at he
    obtain rfl := Except.ok.inj he
    have hmax : Parameter.max ≠ 0 := by decide
    refine ⟨⟨fun h => absurd h hmax, ?_⟩, fun h => absurd h hmax⟩
    rintro ⟨hneeds, -⟩
    rw [Record.NeedsParameter, ho] at hneeds
    exact absurd ha hneeds

section

variable {clock : Clock} {text : String} {program : Program}

/-- **Where an instruction carries zero.**  An instruction that was written
    for an operation that needs a parameter carries zero exactly if the
    number on its line is a multiple of 2^48; that number is not zero, and
    the program warns of it. -/
theorem parameter_eq_zero_iff_dvd (h : compile clock text = .ok program) :
    program.listing.map ListingRow.instruction = program.instructions ∧
    ∀ row ∈ program.listing, row.synthetic = false →
      row.instruction.opcode.needsParameter = true →
      ∃ source record warnings,
        (row.line, source) ∈ Source.numberedLines text ∧
        row.source = Text.trim source ∧
        Reading.ofLine row.line source = .ok ⟨[record], warnings⟩ ∧
        record.opcode = row.instruction.opcode ∧
        (row.instruction.parameter = 0 ↔ record.NeedsParameter ∧
          (Parameter.modulus : Int) ∣ record.parameter) ∧
        (row.instruction.parameter = 0 → record.parameter ≠ 0 ∧
          ⟨row.line, .operation record.opcode,
            .reduced (.tooLarge record.parameter.toNat) 0⟩
              ∈ program.warnings) := by
  obtain ⟨ys, hy, rfl⟩ := compile_eq_ok h
  refine ⟨Yield.map_instruction_listing _, ?_⟩
  · intro row hrow hsynthetic hop
    rw [Yield.program, List.mem_toArray] at hrow
    obtain ⟨line, source, _, _, y, hmem, hmade, hy, hws⟩ :=
      Yield.exists_line_of_mem_rows _ _ _ _ hy hrow
    obtain ⟨record, warnings, noted, hread, hw, he, rfl, hnoted⟩ :=
      hmade.exists_written hy hsynthetic
    obtain ⟨hiff, hwarn⟩ := hw.value_eq_zero_iff hop he
    have hline : (record.row source noted.value).line = line := hw.line_eq
    rw [hline]
    refine ⟨source, record, warnings, hmem, rfl, hread, rfl, hiff, ?_⟩
    intro hzero
    obtain ⟨hne, hwarning⟩ := hwarn hzero
    refine ⟨hne, ?_⟩
    rw [Yield.program, List.mem_toArray]
    refine hws _ ?_
    -- the warning of the encoding is the last one of its line
    rw [hnoted, hwarning, ← hw.line_eq]
    exact List.mem_append_right _ (List.mem_singleton_self _)

end

/-- The smallest number that is accepted and carried as zero. -/
theorem parameter_eq_zero_iff_dvd_of_and :
    ∃ (program : Program) (row : ListingRow) (record : Record),
      compile ⟨1000000000⟩ "AND 0x1000000000000" = .ok program ∧
      row ∈ program.listing ∧
      row.instruction.parameter = 0 ∧ record.opcode = .and ∧
      (Parameter.modulus : Int) ∣ record.parameter ∧
      record.parameter ≠ 0 ∧
      ⟨row.line, .operation record.opcode,
        .reduced (.tooLarge record.parameter.toNat) 0⟩
          ∈ program.warnings := by
  have h := except_eq_ok_of_toOption
    (show (compile ⟨1000000000⟩ "AND 0x1000000000000").toOption = some
      { image := #[5, 0, 0, 0, 0, 0, 0, 0]
        instructions := #[⟨.and, 0⟩]
        warnings := #[⟨1, .operation .and,
          .reduced (.tooLarge 281474976710656) 0⟩]
        listing := #[⟨1, "AND 0x1000000000000", false, ⟨.and, 0⟩⟩] } by
      decide +kernel)
  have hrow := Array.mem_singleton.mpr
    (rfl : ListingRow.mk 1 "AND 0x1000000000000" false ⟨.and, 0⟩ = _)
  obtain ⟨-, record, -, -, -, -, hop, hiff, hwarn⟩ :=
    (parameter_eq_zero_iff_dvd h).2 _ hrow rfl rfl
  obtain ⟨hne, hmem⟩ := hwarn rfl
  exact ⟨_, _, record, h, hrow, rfl, hop, (hiff.mp rfl).2, hne, hmem⟩

/-- A check that refuses zero is not enough to keep it out. -/
theorem not_forall_parameter_ne_zero :
    ¬ ∀ (clock : Clock) (text : String) (program : Program),
      compile clock text = .ok program →
      ∀ row ∈ program.listing, row.synthetic = false →
        row.instruction.opcode.needsParameter = true →
        row.instruction.parameter ≠ 0 := by
  intro hclaim
  have h := except_eq_ok_of_toOption
    (show (compile ⟨1000000000⟩ "SET event_tag=0x1000000000000").toOption
      = some
        { image := #[4, 0, 0, 0, 0, 0, 0, 0]
          instructions := #[⟨.set, 0⟩]
          warnings := #[⟨1, .operation .set,
            .reduced (.tooLarge 281474976710656) 0⟩]
          listing :=
            #[⟨1, "SET event_tag=0x1000000000000", false, ⟨.set, 0⟩⟩] } by
      decide +kernel)
  exact hclaim _ _ _ h _ (Array.mem_singleton.mpr rfl) rfl rfl rfl

end TimingScript
