import TimingScript.Exit
import TimingScript.Proofs.Lockstep
import TimingScript.Proofs.Tables

/-! # Dumps — a dump shows what the listing shows

    A program is listed while it is compiled, and dumped from its image.
    The two tables are made independently, but the image and the listing are
    in lockstep, so they have a row for the same instructions.  A row of the
    dump is the offset of its instruction and the end of its row of the
    listing, and the bytes of either table are the image.  Of an image that
    is refused nothing is printed, whatever it begins with. -/

namespace TimingScript

/-! ## Rows of dumps -/

namespace Image

/-- A dump has a row for each instruction. -/
theorem length_rows (instructions : List Instruction) :
    (rows instructions).length = instructions.length := by
  rw [rows, List.length_map, List.length_zipIdx]

/-- A row of a dump is an offset and the row of an instruction. -/
theorem getElem?_rows (instructions : List Instruction) (k : Nat) :
    (rows instructions)[k]? = instructions[k]?.map fun instruction =>
      Text.paddedHex 8 (8 * k) ++ instruction.row := by
  rw [rows, List.getElem?_map, List.getElem?_zipIdx, Option.map_map,
    Nat.zero_add]
  rfl

/-- What a row of a dump looks like. -/
theorem exists_of_mem_rows {instructions : List Instruction} {row : String}
    (h : row ∈ rows instructions) :
    ∃ (k : Nat) (instruction : Instruction),
      row = Text.paddedHex 8 (8 * k) ++ instruction.row := by
  obtain ⟨k, hk⟩ := List.getElem?_of_mem h
  rw [getElem?_rows, Option.map_eq_some_iff] at hk
  obtain ⟨instruction, -, rfl⟩ := hk
  exact ⟨k, instruction, rfl⟩

/-- The bytes that a dump shows are those of its instructions. -/
theorem bytesOf_rows (instructions : List Instruction) :
    (rows instructions).flatMap Text.bytesOf
      = ofInstructions instructions := by
  have hrow : ∀ indexed : Instruction × Nat,
      Text.bytesOf (Text.paddedHex 8 (Instruction.size * indexed.2)
        ++ indexed.1.row) = indexed.1.bytes :=
    fun indexed => indexed.1.bytesOf_row _
  rw [rows, List.flatMap_map]
  simp only [hrow]
  rw [← List.flatMap_map (f := Prod.fst), List.zipIdx_map_fst]
  rfl

/-- The rows of a dump are the lines of what is printed. -/
theorem lines_unlines_rows (instructions : List Instruction) :
    Source.lines (Source.unlines (rows instructions))
      = rows instructions := by
  apply Source.lines_unlines_of_rows
  · intro row hrow hfeed
    obtain ⟨k, instruction, rfl⟩ := exists_of_mem_rows hrow
    rw [String.toList_append] at hfeed
    rcases List.mem_append.mp hfeed with h | h
    · have hlower := (Text.writesHex_paddedHex (by decide) _).lower _ h
      exact absurd hlower (by decide)
    · exact instruction.not_mem_row (by decide) (by decide) h
  · intro row hrow
    obtain ⟨k, instruction, rfl⟩ := exists_of_mem_rows hrow
    exact instruction.getLast?_row_ne _

end Image

/-! ## Listings and dumps -/

/-- The rows are the dump of a program: one for each instruction, with the
    offset of the instruction in front of the last two cells of its row in
    the listing.  The bytes of either table are the image. -/
structure Program.DumpedAs (program : Program) (rows : List String) :
    Prop where
  length : rows.length = program.instructions.size
  row : ∀ k : Nat, k < program.instructions.size →
    ∃ listed offset, program.listing[k]? = some listed ∧
      Text.bytesOf listed.text = listed.instruction.bytes ∧
      Text.WritesHex 8 (8 * k) offset ∧
      rows[k]? = some (offset ++ Text.lastCells listed.text)
  image : rows.flatMap Text.bytesOf = program.image.toList
  listing : program.listing.toList.flatMap
    (fun listed => Text.bytesOf listed.text) = program.image.toList

/-- The end of a row of the listing is the row of its instruction. -/
theorem ListingRow.lastCells_text (row : ListingRow) :
    Text.lastCells row.text = row.instruction.row := by
  obtain ⟨front, htext⟩ := row.exists_text_eq
  rw [Text.lastCells, htext, String.toList_append,
    row.instruction.fromBars_row, String.ofList_toList]

/-- The bytes that a row of the listing shows are those of its
    instruction. -/
theorem ListingRow.bytesOf_text (row : ListingRow) :
    Text.bytesOf row.text = row.instruction.bytes := by
  obtain ⟨front, htext⟩ := row.exists_text_eq
  rw [htext, row.instruction.bytesOf_row]

/-- A program is collected by an assembly in lockstep. -/
theorem exists_lockstep {clock : Clock} {text : String} {program : Program}
    (h : compile clock text = .ok program) :
    ∃ last : Assembly, last.Lockstep ∧ program = last.program :=
  ⟨_, (Assembly.Lockstep.fresh clock).compileLines _ _,
    program_of_compile h⟩

/-- An assembly in lockstep is dumped as its program. -/
theorem Assembly.Lockstep.dumpedAs {assembly : Assembly}
    (h : assembly.Lockstep) :
    assembly.program.DumpedAs (Image.rows assembly.instructions.toList) where
  length := by
    rw [Image.length_rows, Array.length_toList]
    rfl
  row := by
    intro k hk
    -- the instruction is that of a row of the listing
    have hat : assembly.instructions.toList[k]?
        = some assembly.instructions[k] := by
      rw [Array.getElem?_toList]
      exact Array.getElem?_eq_getElem hk
    have hlisted := hat
    rw [← h.listing, List.getElem?_map, Option.map_eq_some_iff,
      Array.getElem?_toList] at hlisted
    obtain ⟨listed, hlisted, hsame⟩ := hlisted
    refine ⟨listed, Text.paddedHex 8 (8 * k), hlisted, listed.bytesOf_text,
      Text.writesHex_paddedHex (by decide) _, ?_⟩
    rw [Image.getElem?_rows, hat, listed.lastCells_text, hsame]
    rfl
  image := by
    rw [Image.bytesOf_rows]
    exact h.image.symm
  listing := by
    simp only [ListingRow.bytesOf_text]
    rw [← List.flatMap_map (f := ListingRow.instruction)]
    show (assembly.listing.toList.map ListingRow.instruction).flatMap _ = _
    rw [h.listing]
    exact h.image.symm

namespace Image

/-- An image of instructions is dumped as their rows. -/
theorem dumpExit_of_toList_eq {image : Image}
    {instructions : List Instruction}
    (h : image.toList = ofInstructions instructions) :
    image.dumpExit = ⟨0, Source.unlines (rows instructions), ""⟩ := by
  rw [dumpExit, dump, disassemble_of_toList_eq h]
  rfl

/-- Nothing is printed of an image that is refused. -/
theorem dumpExit_of_error {image : Image} {fault : ImageFault}
    (h : image.disassemble = .error fault) :
    image.dumpExit
      = ⟨1, "", s!"input is not a valid program: {fault.message}" ++ "\n"⟩ := by
  rw [dumpExit, dump, h]
  rfl

/-- **A dump shows what the listing shows.**  The image of a program is
    dumped, line by line, as the offsets and the ends of the rows of its
    listing.  An image that is refused is not dumped, not even in part. -/
theorem dump_shows_listing :
    (∀ (clock : Clock) (text : String) (program : Program),
      compile clock text = .ok program →
      program.image.dumpExit.code = 0 ∧ program.image.dumpExit.stderr = "" ∧
        ∃ rows, program.image.dumpExit.stdout = Source.unlines rows ∧
          Source.lines program.image.dumpExit.stdout = rows ∧
          program.DumpedAs rows) ∧
    ∀ (image : Image) (fault : ImageFault),
      image.disassemble = .error fault →
      image.dumpExit.code = 1 ∧ image.dumpExit.stdout = "" := by
  constructor
  · intro clock text program h
    obtain ⟨last, hstep, rfl⟩ := exists_lockstep h
    have hexit : last.program.image.dumpExit
        = ⟨0, Source.unlines (rows last.instructions.toList), ""⟩ :=
      dumpExit_of_toList_eq hstep.image
    rw [hexit]
    exact ⟨rfl, rfl, _, rfl, lines_unlines_rows _, hstep.dumpedAs⟩
  · intro image fault h
    rw [dumpExit_of_error h]
    exact ⟨rfl, rfl⟩

/-- A comment that looks like the end of a row, and an image whose second
    word is none. -/
theorem dump_shows_listing_behind_bars :
    ∃ program : Program,
      compile ⟨40000000⟩ "NOOP 258 // | 00 ff | NOOP 1" = .ok program ∧
      (Source.lines program.image.dumpExit.stdout).length = 1 ∧
      (Source.lines program.image.dumpExit.stdout).flatMap Text.bytesOf
        = [0, 0, 0, 0, 0, 0, 1, 2] ∧
      (dumpExit #[0, 0, 0, 0, 0, 0, 1, 2, 12, 0, 0, 0, 0, 0, 0, 0]).stdout
        = "" := by
  have h := except_eq_ok_of_toOption
    (show (compile ⟨40000000⟩ "NOOP 258 // | 00 ff | NOOP 1").toOption = some
      { image := #[0, 0, 0, 0, 0, 0, 1, 2]
        instructions := #[⟨.noop, 258⟩]
        warnings := #[]
        listing := #[⟨1, "NOOP 258 // | 00 ff | NOOP 1", false,
          ⟨.noop, 258⟩⟩] } by
      decide +kernel)
  obtain ⟨-, -, rows, -, hlines, hdump⟩ := dump_shows_listing.1 _ _ _ h
  have hfault : disassemble
      #[0, 0, 0, 0, 0, 0, 1, 2, 12, 0, 0, 0, 0, 0, 0, 0]
        = .error (.badWord 8 (.unknownOpcode 12)) := by
    rfl
  refine ⟨_, h, ?_, ?_, (dump_shows_listing.2 _ _ hfault).2⟩
  · rw [hlines]
    exact hdump.length
  · rw [hlines]
    exact hdump.image

end Image

end TimingScript
