import TimingScript.Proofs.Lockstep
import TimingScript.Proofs.Rollover

/-! # Accounting — which line makes which rows

    A program has the rows that its lines account for, in the order of the
    lines, and no others: a line without words has none, a use of `SLICE`
    has an AND and an OR, and every other line has the one row of the
    operation that it begins with.  A line can be recognised by its first
    word, so the instructions of a program are counted on its text. -/

namespace TimingScript

open Source (LineNumber Word)

/-! ## Kinds of lines -/

namespace Source

/-- The first word of a line, if it has words. -/
def firstWord? (source : String) : Option String :=
  match Word.scan 1 source.toList with
  | .ok (first :: _) => some first.text
  | _ => none

/-- The line has no words. -/
def isBlank (source : String) : Bool :=
  match Word.scan 1 source.toList with
  | .ok [] => true
  | _ => false

/-- The line begins with `SLICE`. -/
def isSlice (source : String) : Bool :=
  (firstWord? source).any (· == "SLICE")

/-- The line begins with another word. -/
def isPrimitive (source : String) : Bool :=
  (firstWord? source).any (· != "SLICE")

/-- The rows that a line accounts for. -/
inductive Accounts (line : LineNumber) (source : String) :
    List ListingRow → Prop where
  | blank : Word.read line source = .ok [] → Accounts line source []
  | slice {first : Word} {rest : List Word} {clear set : Parameter} :
      Word.read line source = .ok (first :: rest) → first.text = "SLICE" →
      Accounts line source
        [⟨line, Text.trim source, true, ⟨.and, clear⟩⟩,
          ⟨line, Text.trim source, true, ⟨.or, set⟩⟩]
  | primitive {first : Word} {rest : List Word} {opcode : Opcode}
      {parameter : Parameter} :
      Word.read line source = .ok (first :: rest) → first.text ≠ "SLICE" →
      opcode.mnemonic = first.text →
      Accounts line source
        [⟨line, Text.trim source, false, ⟨opcode, parameter⟩⟩]

/-- The rows that lines account for, one by one. -/
def Accounted (lines : List (LineNumber × String))
    (rows : List (List ListingRow)) : Prop :=
  List.Forall₂ (fun numbered rs => Accounts numbered.1 numbered.2 rs) lines
    rows

section

variable {line : LineNumber} {source : String}

/-- The first word is the one that is read first. -/
theorem firstWord?_of_read {first : Word} {rest : List Word}
    (h : Word.read line source = .ok (first :: rest)) :
    firstWord? source = some first.text := by
  rw [firstWord?, Word.read_eq_ok h]

/-- A line has no words, or it begins with `SLICE` or with another word. -/
theorem Accounts.kind {rows : List ListingRow}
    (h : Accounts line source rows) :
    (isBlank source = true ∧ isSlice source = false ∧
        isPrimitive source = false ∧ rows.length = 0) ∨
      (isBlank source = false ∧ isSlice source = true ∧
        isPrimitive source = false ∧ rows.length = 2) ∨
      (isBlank source = false ∧ isSlice source = false ∧
        isPrimitive source = true ∧ rows.length = 1) := by
  rw [isBlank, isSlice, isPrimitive]
  cases h with
  | blank hw =>
      rw [firstWord?, Word.read_eq_ok hw]
      exact .inl ⟨rfl, rfl, rfl, rfl⟩
  | slice hw hs =>
      rw [firstWord?_of_read hw, Word.read_eq_ok hw, hs]
      exact .inr (.inl ⟨rfl, rfl, rfl, rfl⟩)
  | @primitive first _ _ _ hw hs _ =>
      rw [firstWord?_of_read hw, Word.read_eq_ok hw]
      refine .inr (.inr ⟨rfl, ?_, ?_, rfl⟩)
      · exact beq_false_of_ne hs
      · exact bne_iff_ne.mpr hs

/-- The rows that a line accounts for stand on it. -/
theorem Accounts.line_eq {rows : List ListingRow}
    (h : Accounts line source rows) : ∀ row ∈ rows, row.line = line := by
  intro row hrow
  cases h with
  | blank _ => cases hrow
  | slice _ _ =>
      rcases List.mem_cons.mp hrow with rfl | hrow
      · rfl
      · rw [List.mem_singleton.mp hrow]
  | primitive _ _ _ => rw [List.mem_singleton.mp hrow]

end

namespace Accounted

variable {lines : List (LineNumber × String)} {rows : List (List ListingRow)}

/-- Every line is blank, begins with `SLICE` or is primitive. -/
theorem length_lines (h : Accounted lines rows) :
    lines.length = (lines.map Prod.snd).countP isBlank
      + (lines.map Prod.snd).countP isSlice
      + (lines.map Prod.snd).countP isPrimitive := by
  induction h with
  | nil => rfl
  | cons hfirst _ ih =>
      simp only [List.map_cons, List.countP_cons, List.length_cons]
      rcases hfirst.kind with ⟨hb, hs, hp, -⟩ | ⟨hb, hs, hp, -⟩ |
        ⟨hb, hs, hp, -⟩
      all_goals
        rw [hb, hs, hp, ih]
        simp only [Bool.false_eq_true, if_true, if_false]
        omega

/-- A primitive line makes one row and a use of `SLICE` makes two. -/
theorem length_rows (h : Accounted lines rows) :
    rows.flatten.length = (lines.map Prod.snd).countP isPrimitive
      + 2 * (lines.map Prod.snd).countP isSlice := by
  induction h with
  | nil => rfl
  | cons hfirst _ ih =>
      simp only [List.map_cons, List.countP_cons, List.flatten_cons,
        List.length_append]
      rcases hfirst.kind with ⟨-, hs, hp, hl⟩ | ⟨-, hs, hp, hl⟩ |
        ⟨-, hs, hp, hl⟩
      all_goals
        rw [hs, hp, hl, ih]
        simp only [Bool.false_eq_true, if_true, if_false]
        omega

/-- The rows stand on their lines. -/
theorem placed (h : Accounted lines rows) :
    Placed ListingRow.line lines rows :=
  h.imp fun _ _ => Accounts.line_eq

/-- The rows of lines in order are in the order of the lines. -/
theorem pairwise_rows (h : Accounted lines rows)
    (hlines : lines.Pairwise fun p q => p.1 < q.1) :
    rows.flatten.Pairwise fun r s => r.line ≤ s.line :=
  h.placed.pairwise_flatten hlines

end Accounted

end Source

/-! ## Rows of a line -/

/-- A mnemonic is not the word `SLICE`. -/
theorem Opcode.mnemonic_ne_slice (opcode : Opcode) :
    opcode.mnemonic ≠ "SLICE" := by
  cases opcode <;> decide

section

variable {line : LineNumber} {source : String}

/-- A line that reads well and has no keyword has no words. -/
theorem Reading.read_of_no_keyword {reading : Reading}
    (h : ofLine line source = .ok reading)
    (hk : Source.keyword? source = none) :
    Word.read line source = .ok [] := by
  cases ofLine_eq_ok h with
  | blank hw => exact hw
  | @decoded _ _ statement _ _ hw hd _ =>
      rw [Source.keyword?_of_read hw] at hk
      have hdecoded : Statement.Decoded line _ statement :=
        Statement.decode_eq_ok hd
      cases hdecoded with
      | primitive hkw _ _ _ => rw [hkw] at hk; cases hk
      | slice hkw _ => rw [hkw] at hk; cases hk

/-- A line yields the rows that it accounts for. -/
theorem Yield.accounts_of_ofLine {clock : Clock} {loops next : LoopStack}
    {y : Yield} (h : ofLine clock loops line source = .ok (y, next)) :
    Source.Accounts line source y.rows := by
  have hmade := ofLine_eq_ok h
  rw [ofLine] at h
  cases hr : Reading.ofLine line source with
  | error e => rw [hr] at h; cases h
  | ok reading =>
      cases hmade with
      | blank hk => exact .blank (Reading.read_of_no_keyword hr hk)
      | @written record _ noted _ hw _ =>
          -- the keyword of the line is the mnemonic of the record
          obtain ⟨first, rest, hread, htext⟩ :=
            Source.exists_read_of_keyword? hw.keyword
          have hrow : record.row source noted.value
              = ⟨line, Text.trim source, false,
                ⟨record.opcode, noted.value⟩⟩ := by
            rw [Record.row, hw.line_eq, hw.synthetic]
          rw [hrow]
          refine .primitive hread ?_ htext.symm
          rw [htext]
          exact record.opcode.mnemonic_ne_slice
      | expanded hk hl =>
          subst hl
          obtain ⟨first, rest, hread, htext⟩ :=
            Source.exists_read_of_keyword? hk
          exact .slice hread htext

/-- Lines yield the rows that they account for. -/
theorem Yield.accounted_of_ofLines {clock : Clock} {loops last : LoopStack}
    {lines : List (LineNumber × String)} {ys : List Yield}
    (h : ofLines clock loops lines = .ok (ys, last)) :
    Source.Accounted lines (ys.map rows) :=
  List.forall₂_map_right_iff.mpr (forall₂_of_ofLines accounts_of_ofLine h)

end

/-! ## Programs -/

section

variable {clock : Clock} {text : String} {program : Program}

/-- The listing of a program has the rows that its lines account for. -/
theorem exists_accounted (h : compile clock text = .ok program) :
    ∃ rows, program.listing.toList = rows.flatten ∧
      Source.Accounted (Source.numberedLines text) rows := by
  obtain ⟨ys, hys, rfl⟩ := compile_eq_ok h
  refine ⟨ys.map Yield.rows, ?_, Yield.accounted_of_ofLines hys⟩
  rw [Yield.program, List.toList_toArray, Yield.join, List.flatMap_def]

/-- A program has an instruction for each row. -/
theorem size_instructions (h : compile clock text = .ok program) :
    program.instructions.size = program.listing.size := by
  obtain ⟨ys, -, rfl⟩ := compile_eq_ok h
  rw [← Yield.map_instruction_listing, Array.size_map]

/-- A program has eight bytes for each instruction. -/
theorem size_image (h : compile clock text = .ok program) :
    program.image.size = 8 * program.instructions.size := by
  obtain ⟨ys, -, rfl⟩ := compile_eq_ok h
  exact Image.size_of_toList_eq rfl

/-- **Every line is accounted for.**  The listing of a program is what its
    lines account for, in their order.  So there is an instruction for each
    primitive line and there are two for each use of `SLICE`, each
    instruction has eight bytes, and line numbers never decrease, unless
    there are not enough of them for the text. -/
theorem compile_accounted (h : compile clock text = .ok program) :
    (∃ rows, program.listing.toList = rows.flatten ∧
      Source.Accounted (Source.numberedLines text) rows) ∧
    program.instructions.size
      = (Source.lines text).countP Source.isPrimitive
        + 2 * (Source.lines text).countP Source.isSlice ∧
    program.image.size = 8 * program.instructions.size ∧
    ((Source.lines text).length < Source.lineLimit →
      program.listing.toList.Pairwise fun r s => r.line ≤ s.line) := by
  obtain ⟨rows, hrows, haccounted⟩ := exists_accounted h
  refine ⟨⟨rows, hrows, haccounted⟩, ?_, size_image h, fun hsize => ?_⟩
  · rw [size_instructions h, ← Array.length_toList, hrows,
      haccounted.length_rows, Source.map_snd_numberedLines]
  · rw [hrows]
    exact haccounted.pairwise_rows (Source.pairwise_numberedLines hsize)

end

/-- A loop around a line without words and an expansion. -/
def sparseLoop : String :=
  "LOOP 2 // twice\n // set\n SLICE bitposition 1 bitwidth 4 event_tag 3\n"
    ++ "DO_LOOP"

/-- Two primitive lines and one expansion make four instructions. -/
theorem compile_accounted_sparseLoop :
    ∃ program, compile ⟨1000000000⟩ sparseLoop = .ok program ∧
      (∃ rows, program.listing.toList = rows.flatten ∧
        Source.Accounted (Source.numberedLines sparseLoop) rows) ∧
      program.instructions.size = 4 ∧ program.image.size = 32 ∧
      program.listing.toList.Pairwise fun r s => r.line ≤ s.line := by
  have hcompiles : (compile ⟨1000000000⟩ sparseLoop).toOption.isSome := by
    decide +kernel
  obtain ⟨program, hprogram⟩ := Option.isSome_iff_exists.mp hcompiles
  have h := except_eq_ok_of_toOption hprogram
  obtain ⟨hrows, hsize, himage, horder⟩ := compile_accounted h
  have hprimitive :
      (Source.lines sparseLoop).countP Source.isPrimitive = 2 := by
    decide +kernel
  have hslice : (Source.lines sparseLoop).countP Source.isSlice = 1 := by
    decide +kernel
  rw [hprimitive, hslice] at hsize
  rw [hsize] at himage
  exact ⟨program, h, hrows, hsize, himage, horder (by decide +kernel)⟩

/-- At the rollover the second line is listed as line 0. -/
theorem not_forall_listing_ordered :
    ¬ ∀ (clock : Clock) (text : String) (program : Program),
      compile clock text = .ok program →
      program.listing.toList.Pairwise fun r s => r.line ≤ s.line := by
  intro hclaim
  have hevaluated : (compile ⟨40000000⟩ (Source.atRollover "NOOP\nNOOP")
      ).toOption.map (fun program => program.listing.toList.map ListingRow.line)
        = some [4294967295, 0] := by
    rw [compile, Assembly.compile, Assembly.compileLines_atRollover]
    decide +kernel
  obtain ⟨program, hprogram, hlines⟩ := Option.map_eq_some_iff.mp hevaluated
  have hordered := List.pairwise_map.mpr
    (hclaim _ _ program (except_eq_ok_of_toOption hprogram))
  rw [hlines] at hordered
  exact absurd hordered (by decide)

end TimingScript
