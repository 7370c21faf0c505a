import TimingScript.Proofs.Disassembly
import TimingScript.Proofs.Growth

/-! # Lockstep — image, instructions and listing tell the same story

    An assembly keeps an instruction three times: as itself, as eight bytes
    of the image and in a row of the listing.  Every line, also one that
    fails, extends the three together (`Lockstep.extend`), so they agree in
    each assembly that a run over lines passes through.  A program is taken
    from such an assembly; therefore its image can always be disassembled,
    and holds exactly its instructions. -/

namespace TimingScript

open Source (LineNumber)

namespace Assembly

/-- Image and listing agree with the instructions. -/
structure Lockstep (assembly : Assembly) : Prop where
  image : assembly.image.toList
    = Image.ofInstructions assembly.instructions.toList
  listing : assembly.listing.toList.map ListingRow.instruction
    = assembly.instructions.toList

/-- Nothing agrees with nothing. -/
theorem Lockstep.fresh (clock : Clock) : (fresh clock).Lockstep :=
  ⟨rfl, rfl⟩

/-- A yield extends the three together. -/
theorem Lockstep.extend {assembly : Assembly} (h : assembly.Lockstep)
    (y : Yield) (loops : LoopStack) : (assembly.extend y loops).Lockstep where
  image := by
    simp only [Assembly.extend, Array.toList_appendList, h.image,
      Image.ofInstructions_append]
  listing := by
    simp only [Assembly.extend, Array.toList_appendList, List.map_append,
      h.listing]
    rfl

/-- Whether a line succeeds or fails, it extends an assembly by some
    yield. -/
theorem exists_extend_compileLine (assembly : Assembly) (line : LineNumber)
    (source : String) :
    ∃ y loops, (assembly.compileLine line source).assembly
      = assembly.extend y loops := by
  cases hy : Yield.ofLine assembly.clock assembly.loops line source with
  | ok found =>
      obtain ⟨y, loops⟩ := found
      have hend := ending_compileLine_of_ok hy
      exact ⟨y, loops, congrArg Prod.fst hend⟩
  | error error =>
      obtain ⟨warnings, hend⟩ := ending_compileLine_of_error hy
      exact ⟨⟨[], warnings⟩, assembly.loops, congrArg Prod.fst hend⟩

/-- One line keeps the three in step. -/
theorem Lockstep.compileLine {assembly : Assembly} (h : assembly.Lockstep)
    (line : LineNumber) (source : String) :
    (assembly.compileLine line source).assembly.Lockstep := by
  obtain ⟨y, loops, hy⟩ := exists_extend_compileLine assembly line source
  rw [hy]
  exact h.extend y loops

/-- A run over lines keeps the three in step, also where it stops. -/
theorem Lockstep.compileLines {assembly : Assembly} (h : assembly.Lockstep)
    (log : Array Event) (lines : List (LineNumber × String)) :
    (assembly.compileLines log lines).assembly.Lockstep := by
  induction lines generalizing assembly log with
  | nil => exact h
  | cons numbered rest ih =>
      obtain ⟨line, source⟩ := numbered
      have hline := h.compileLine line source
      cases he : (assembly.compileLine line source).error with
      | none =>
          rw [compileLines_cons_of_ok (Prod.ext rfl he)]
          exact ih hline _
      | some error =>
          rw [compileLines_cons_of_error (Prod.ext rfl he)]
          exact hline

/-- The last check looks at the assembly and leaves it alone. -/
theorem assembly_finish (report : Report Unit) :
    (finish report).assembly = report.assembly := by
  rw [finish]
  split <;> rfl

end Assembly

section

variable {clock : Clock} {text : String} {program : Program}

/-- A program is what the run over its lines collected. -/
theorem program_of_compile (h : compile clock text = .ok program) :
    program = ((Assembly.fresh clock).compileLines #[]
      (Source.numberedLines text)).assembly.program := by
  rw [compile, Assembly.compile,
    show (Assembly.fresh clock).reset = Assembly.fresh clock from rfl] at h
  split at h
  · rw [← Except.ok.inj h, Assembly.assembly_finish]
  · cases h

/-- **Image, instructions and listing of a program agree.**  The image is
    made of the instructions in order, the listing has a row for each of
    them, and the image is disassembled to exactly these. -/
theorem compile_lockstep (h : compile clock text = .ok program) :
    program.image.toList
        = Image.ofInstructions program.instructions.toList ∧
      program.listing.size = program.instructions.size ∧
      (∀ k : Nat, program.listing[k]?.map ListingRow.instruction
        = program.instructions[k]?) ∧
      program.image.disassemble = .ok program.instructions.toList := by
  obtain ⟨last, hstep, rfl⟩ : ∃ last : Assembly, last.Lockstep ∧
      program = last.program :=
    ⟨_, (Assembly.Lockstep.fresh clock).compileLines _ _,
      program_of_compile h⟩
  have hlisting := congrArg List.length hstep.listing
  rw [List.length_map, Array.length_toList, Array.length_toList] at hlisting
  refine ⟨hstep.image, hlisting, ?_,
    Image.disassemble_of_toList_eq hstep.image⟩
  intro k
  have hk := congrArg (fun rows : List Instruction => rows[k]?) hstep.listing
  rw [List.getElem?_map, Array.getElem?_toList, Array.getElem?_toList] at hk
  exact hk

end

/-- A loop around a `SLICE`, whose two instructions have a row each. -/
theorem compile_lockstep_slice_in_loop :
    ∃ program : Program,
      compile ⟨40000000⟩ "LOOP 2\nSLICE bitposition=48 bitwidth=1 event_tag=1\n\nDO_LOOP"
        = .ok program ∧
      program.listing.size = 4 ∧
      program.image.disassemble
        = .ok [⟨.loop, 2⟩, ⟨.and, 0x7fffffffffff⟩, ⟨.or, 0x800000000000⟩,
          ⟨.doLoop, 3⟩] := by
  have h := except_eq_ok_of_toOption
    (show (compile ⟨40000000⟩ "LOOP 2\nSLICE bitposition=48 bitwidth=1 event_tag=1\n\nDO_LOOP").toOption
        = some
      { image := #[7, 0, 0, 0, 0, 0, 0, 2,
          5, 0, 0x7f, 0xff, 0xff, 0xff, 0xff, 0xff,
          6, 0, 0x80, 0, 0, 0, 0, 0, 8, 0, 0, 0, 0, 0, 0, 3]
        instructions := #[⟨.loop, 2⟩, ⟨.and, 0x7fffffffffff⟩,
          ⟨.or, 0x800000000000⟩, ⟨.doLoop, 3⟩]
        warnings := #[]
        listing := #[⟨1, "LOOP 2", false, ⟨.loop, 2⟩⟩,
          ⟨2, "SLICE bitposition=48 bitwidth=1 event_tag=1", true,
            ⟨.and, 0x7fffffffffff⟩⟩,
          ⟨2, "SLICE bitposition=48 bitwidth=1 event_tag=1", true,
            ⟨.or, 0x800000000000⟩⟩,
          ⟨4, "DO_LOOP", false, ⟨.doLoop, 3⟩⟩] } by
      decide +kernel)
  obtain ⟨-, hsize, -, hread⟩ := compile_lockstep h
  exact ⟨_, h, hsize, hread⟩

end TimingScript
