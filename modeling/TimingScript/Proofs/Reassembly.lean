import TimingScript.Proofs.Nesting
import TimingScript.Proofs.Printing
import TimingScript.Proofs.Written

/-! # Reassembly — instructions that are printed compile to themselves

    An instruction is printed as a mnemonic and a decimal number.  Read as
    a line of source, that is a record without argument, whose number is
    the parameter; a `WAIT` is given the identifier `cycles` besides, since
    without any it would wait for an event or for one tick.

    Which parameter the record is encoded with depends on the loops that
    are open.  An instruction `Fits` where it is encoded with its own
    parameter.  In a list that is `Reassemblable` every instruction fits
    behind those in front of it, because the open loops are tracked by the
    brackets of the list and the lines are its places. -/

namespace TimingScript

open Source (LineNumber Word)
open TimingScript.Bracket

namespace Instruction

/-! ## Printed lines -/

/-- The words behind the mnemonic of a printed instruction. -/
def operandWords (instruction : Instruction) : List String :=
  instruction.parameter.text
    :: if instruction.opcode = .wait then ["cycles"] else []

/-- An instruction as a line of source. -/
def sourceLine (instruction : Instruction) : String :=
  if instruction.opcode = .wait then instruction.text ++ " cycles"
  else instruction.text

/-- The record that a printed instruction is read as. -/
def record (instruction : Instruction) (line : LineNumber) : Record :=
  { opcode := instruction.opcode
    argument := none
    parameter := instruction.parameter.toNat
    identifier := if instruction.opcode = .wait then some "cycles" else none
    line
    synthetic := false }

/-- A printed line consists of its words. -/
theorem toList_sourceLine (instruction : Instruction) :
    instruction.sourceLine.toList
      = instruction.opcode.mnemonic.toList
        ++ Word.spaced instruction.operandWords := by
  rw [sourceLine, operandWords]
  split <;> simp [text, Word.spaced]

/-- The operands of a printed instruction are words. -/
theorem isWord_of_mem_operandWords {instruction : Instruction}
    {word : String} (h : word ∈ instruction.operandWords) :
    Word.IsWord word := by
  rw [operandWords] at h
  rcases List.mem_cons.mp h with rfl | h
  · exact (Text.Numeral.spells_toString _).isWord
  · split at h
    · rw [List.mem_singleton.mp h]
      decide
    · cases h

/-- A printed line consists of blanks and letters of words. -/
theorem of_mem_sourceLine {instruction : Instruction} {c : Char}
    (h : c ∈ instruction.sourceLine.toList) :
    c = ' ' ∨ Word.isLetter c = true := by
  rw [toList_sourceLine, Word.spaced] at h
  rcases List.mem_append.mp h with h | h
  · exact .inr ((Word.isWord_mnemonic instruction.opcode).2 c h)
  · obtain ⟨word, hword, hc⟩ := List.mem_flatMap.mp h
    rcases List.mem_cons.mp hc with rfl | hc
    · exact .inl rfl
    · exact .inr ((isWord_of_mem_operandWords hword).2 c hc)

/-- A printed instruction is its printed record. -/
theorem sourceLine_record (instruction : Instruction) (line : LineNumber) :
    (instruction.record line).sourceLine instruction.parameter.text
      = instruction.sourceLine := by
  rw [Record.sourceLine, sourceLine, record, text]
  split <;> simp

/-- The record of an instruction can be written out: no parameter is beyond
    the limit of source text. -/
theorem printable_record (instruction : Instruction) (line : LineNumber) :
    (instruction.record line).Printable where
  argument := nofun
  identifier := by
    intro word hword
    obtain ⟨-, hword⟩ := Option.ite_none_right_eq_some.mp hword
    rw [← Option.some.inj hword]
    decide
  nonneg := Int.natCast_nonneg _
  below := by
    have hlt : instruction.parameter.toNat < 2 ^ 48 :=
      instruction.parameter.isLt
    show (instruction.parameter.toNat : Int) < 2 ^ 63
    omega
  written := rfl

/-- A printed instruction is read as its record. -/
theorem readFrom_record (instruction : Instruction) (line : LineNumber) :
    (instruction.record line).ReadFrom instruction.sourceLine := by
  rw [← instruction.sourceLine_record line]
  exact (instruction.printable_record line).readFrom_of_spells
    (Text.Numeral.spells_toString _)

/-! ## Printed lines in their place -/

/-- The instruction is encoded as it is on a line where the given loops are
    open. -/
structure Fits (instruction : Instruction) (loops : LoopStack)
    (line : LineNumber) : Prop where
  nonzero : instruction.opcode.needsParameter = true ∨
    instruction.opcode = .inc → instruction.parameter ≠ 0
  closes : instruction.opcode = .doLoop → ∃ opened,
    loops.innermost? = some opened ∧
      instruction.parameter.toNat = line - opened
  ends : instruction.opcode = .endProgram →
    loops.isEmpty = true ∧ instruction.parameter = 0

section

variable {instruction : Instruction} {loops : LoopStack} {line : LineNumber}

/-- The record of an instruction carries zero only if the instruction
    does. -/
theorem parameter_record_ne_zero (h : instruction.parameter ≠ 0) :
    (instruction.record line).parameter ≠ 0 := by
  intro hzero
  have hnat : instruction.parameter.toNat = 0 := Int.ofNat.inj hzero
  exact h (BitVec.eq_of_toNat_eq hnat)

/-- The number of a printed instruction is its parameter. -/
theorem written_record (instruction : Instruction) (line : LineNumber) :
    (instruction.record line).written = ⟨instruction.parameter, none⟩ := by
  rw [Record.written, show (instruction.record line).parameter
    = instruction.parameter.toNat from rfl, Parameter.checked_toNat]

/-- An instruction that fits is encoded with its own parameter. -/
theorem Fits.encode_record (h : instruction.Fits loops line)
    (clock : Clock) :
    (instruction.record line).encode loops clock
      = .ok ⟨instruction.parameter, none⟩ := by
  cases ho : instruction.opcode with
  | doLoop =>
      obtain ⟨opened, hopened, hdistance⟩ := h.closes ho
      rw [Record.encode_doLoop ho, hopened]
      show Except.ok (Noted.mk (Parameter.masked (line - opened)) none) = _
      rw [← hdistance, Parameter.masked, BitVec.ofNat_toNat,
        BitVec.setWidth_eq]
  | endProgram =>
      obtain ⟨hempty, hzero⟩ := h.ends ho
      rw [Record.encode_endProgram ho, if_pos hempty, hzero]
  | inc =>
      have hne : (instruction.record line).parameter ≠ 0 :=
        parameter_record_ne_zero (h.nonzero (.inr ho))
      have hnormal : ¬ ((instruction.record line).parameter = 0 ∨
          (instruction.record line).argument = some "event_tag") := by
        rintro (hzero | hargument)
        · exact hne hzero
        · cases hargument
      rw [Record.encode, show (instruction.record line).opcode = .inc from ho]
      dsimp only
      rw [if_neg hnormal, written_record]
  | wait =>
      rw [Record.encode, show (instruction.record line).opcode = .wait from ho]
      have hcycles : (instruction.record line).identifier = some "cycles" :=
        if_pos ho
      dsimp only
      rw [Record.waitTicks, hcycles]
      exact congrArg Except.ok (written_record instruction line)
  | _ =>
      rw [Record.encode, show (instruction.record line).opcode = _ from ho]
      exact congrArg Except.ok (written_record instruction line)

/-- An instruction that fits passes its checks. -/
theorem Fits.exists_check (h : instruction.Fits loops line) :
    ∃ noted, (instruction.record line).check = .ok noted := by
  apply Record.exists_check_eq_ok rfl
  · intro hloop
    have hne : instruction.opcode ≠ .wait := by
      rw [show instruction.opcode = .loop from hloop]
      decide
    exact if_neg hne
  · intro hneeds
    exact parameter_record_ne_zero
      (h.nonzero (.inl (Record.needsParameter_opcode hneeds)))

/-- **One line.**  Where an instruction fits, its printed line yields that
    instruction, and the open loops change as its bracket says. -/
theorem Fits.exists_yield (h : instruction.Fits loops line)
    (clock : Clock) :
    ∃ y next, Yield.ofLine clock loops line instruction.sourceLine
        = .ok (y, next) ∧
      LoopStack.Follows line instruction.opcode.bracket loops next ∧
      y.instructions = [instruction] := by
  obtain ⟨noted, hc⟩ := h.exists_check
  have hr : Reading.ofLine line instruction.sourceLine
      = .ok ⟨[instruction.record line], noted.warning.toList⟩ :=
    (instruction.readFrom_record line).ofLine hc
  have he := h.encode_record clock
  refine ⟨⟨[(instruction.record line).row instruction.sourceLine
      instruction.parameter], noted.warning.toList⟩, _, ?_,
    Record.follows_of_encode he, rfl⟩
  rw [Yield.ofLine, hr]
  show (Yield.ofRecords _ _ _ _).map _ = _
  rw [Yield.ofRecords, he]
  simp [Yield.ofRecords, Except.map, Yield.append, Yield.empty]

end

/-! ## Printed lists -/

/-- The brackets of a list of instructions. -/
def brackets (is : List Instruction) : List Bracket :=
  is.map fun i => i.opcode.bracket

/-- Lists of instructions that a text without arguments can stand for.  Of
    the places in a list the first one is 0. -/
structure Reassemblable (is : List Instruction) : Prop where
  /-- Operations whose parameter is needed carry one, and so does `INC`. -/
  nonzero : ∀ i ∈ is, i.opcode.needsParameter = true ∨ i.opcode = .inc →
    i.parameter ≠ 0
  /-- The loops are balanced. -/
  balanced : Balanced (brackets is)
  /-- A `DO_LOOP` carries the distance to the `LOOP` that it closes. -/
  distance : ∀ {i j : Nat} {closed : Instruction}, Partners (brackets is) i j →
    is[j]? = some closed → closed.parameter.toNat = j - i
  /-- An `END` carries zero, and in front of it every loop is closed. -/
  ends : ∀ {k : Nat} {i : Instruction}, is[k]? = some i →
    i.opcode = .endProgram →
    i.parameter = 0 ∧ Balanced (brackets (is.take k))

/-- The loops that are open behind printed lines, numbered from 1. -/
abbrev Tracks (is : List Instruction) (loops : LoopStack) : Prop :=
  LoopStack.Tracks (fun p : Instruction × LineNumber => p.1.opcode.bracket)
    Prod.snd (is.zipIdx 1) loops

section

variable {u v : List Instruction} {i : Instruction} {loops : LoopStack}

/-- The brackets of numbered instructions are those of the instructions. -/
theorem map_bracket_zipIdx (is : List Instruction) (n : Nat) :
    (is.zipIdx n).map (fun p => p.1.opcode.bracket) = brackets is := by
  calc (is.zipIdx n).map (fun p => p.1.opcode.bracket)
      = brackets ((is.zipIdx n).map Prod.fst) := by
        rw [brackets, List.map_map]
        rfl
    _ = brackets is := by rw [List.zipIdx_map_fst]

/-- Where a list goes on with a closing bracket, a loop is open: the one
    that it closes. -/
theorem exists_partner_of_tracks (ht : Tracks u loops)
    (hb : Balanced (brackets (u ++ i :: v)))
    (hi : i.opcode.bracket = closing) :
    ∃ k, loops.innermost? = some (k + 1) ∧
      Partners (brackets (u ++ i :: v)) k u.length := by
  have hword : brackets (u ++ i :: v)
      = (u.zipIdx 1).map (fun p => p.1.opcode.bracket)
        ++ closing :: brackets v := by
    rw [map_bracket_zipIdx, brackets, List.map_append, List.map_cons, hi]
    rfl
  rw [hword] at hb ⊢
  obtain ⟨lines⟩ := loops
  cases lines with
  | nil => exact absurd hb (not_balanced_append_closing ht.balanced)
  | cons opened others =>
      obtain ⟨k, p, hat, rfl, hp⟩ := ht.exists_partner (brackets v)
      rw [List.length_zipIdx] at hp
      rw [List.getElem?_zipIdx] at hat
      obtain ⟨_, -, rfl⟩ := Option.map_eq_some_iff.mp hat
      exact ⟨k, congrArg some (Nat.add_comm 1 k), hp⟩

/-- **One place.**  Every instruction fits behind those in front of it. -/
theorem Reassemblable.fits (h : Reassemblable (u ++ i :: v))
    (ht : Tracks u loops) : i.Fits loops (u.length + 1) where
  nonzero := h.nonzero i (by simp)
  closes := by
    intro ho
    obtain ⟨k, hk, hp⟩ := exists_partner_of_tracks ht h.balanced
      (Opcode.bracket_eq_closing.mpr ho)
    refine ⟨k + 1, hk, ?_⟩
    rw [h.distance hp (by simp), Nat.add_sub_add_right]
  ends := by
    intro ho
    obtain ⟨hzero, hb⟩ := h.ends (k := u.length) (by simp) ho
    rw [List.take_left, ← map_bracket_zipIdx u 1] at hb
    rw [ht.eq_empty hb]
    exact ⟨rfl, hzero⟩

end

/-- Instructions as numbered lines of source, the first with a given
    number. -/
def numberedSource (n : Nat) (is : List Instruction) :
    List (LineNumber × String) :=
  (is.zipIdx n).map fun p => (p.2, p.1.sourceLine)

/-- **All places.**  The lines behind any part of a list yield its other
    instructions. -/
theorem Reassemblable.exists_yields {is : List Instruction}
    (h : Reassemblable is) (clock : Clock) :
    ∀ (v u : List Instruction) (loops : LoopStack), is = u ++ v →
      Tracks u loops →
      ∃ ys last, Yield.ofLines clock loops (numberedSource (u.length + 1) v)
          = .ok (ys, last) ∧
        Tracks is last ∧ (Yield.join ys).instructions = v := by
  intro v
  induction v with
  | nil =>
      intro u loops his ht
      rw [List.append_nil] at his
      exact ⟨[], loops, rfl, his ▸ ht, rfl⟩
  | cons i rest ih =>
      intro u loops his ht
      have hfits : i.Fits loops (u.length + 1) := (his ▸ h).fits ht
      obtain ⟨y, next, hy, hfollows, hyi⟩ := hfits.exists_yield clock
      have hnext : Tracks (u ++ [i]) next := by
        rw [Tracks, List.zipIdx_append]
        exact ht.snoc (a := (i, 1 + u.length)) (Nat.add_comm 1 _ ▸ hfollows)
      obtain ⟨ys, last, hys, hlast, hysi⟩ :=
        ih (u ++ [i]) next (by rw [his]; simp) hnext
      rw [List.length_append, List.length_singleton] at hys
      refine ⟨y :: ys, last, ?_, hlast, ?_⟩
      · rw [numberedSource, List.zipIdx_cons, List.map_cons, ← numberedSource,
          Yield.ofLines_cons_of_ok hy, hys]
        rfl
      · rw [Yield.join_cons, Yield.append, Yield.instructions,
          List.map_append, ← Yield.instructions, ← Yield.instructions, hyi,
          hysi]
        rfl

/-- The printed lines of instructions, below each other. -/
def sourceText (is : List Instruction) : String :=
  Source.unlines (is.map sourceLine)

/-- Printed lines are the lines of their text. -/
theorem lines_sourceText (is : List Instruction) :
    Source.lines (sourceText is) = is.map sourceLine := by
  have hfeed : ∀ line ∈ is.map sourceLine, '\n' ∉ line.toList := by
    intro line hline hmem
    obtain ⟨i, -, rfl⟩ := List.mem_map.mp hline
    exact absurd (of_mem_sourceLine hmem) (by decide)
  have hreturn : ∀ i : Instruction,
      Source.stripReturn i.sourceLine.toList = i.sourceLine.toList := by
    intro i
    refine if_neg fun hlast => ?_
    exact absurd (of_mem_sourceLine (List.mem_of_getLast? hlast)) (by decide)
  rw [sourceText, Source.lines_unlines hfeed, List.map_map]
  refine List.map_congr_left fun i _ => ?_
  show String.ofList (Source.stripReturn i.sourceLine.toList) = _
  rw [hreturn, String.ofList_toList]

/-- Printed lines are numbered from 1, as long as there are numbers for
    them. -/
theorem numberedLines_of_sourceLines {is : List Instruction}
    (hsize : is.length < Source.lineLimit) {text : String}
    (htext : Source.lines text = is.map sourceLine) :
    Source.numberedLines text = numberedSource 1 is := by
  apply List.ext_getElem?
  intro k
  rw [Source.getElem?_numberedLines, htext, numberedSource,
    List.getElem?_map, List.getElem?_map, List.getElem?_zipIdx]
  cases hk : is[k]? with
  | none => rfl
  | some i =>
      obtain ⟨hlt, -⟩ := List.getElem?_eq_some_iff.mp hk
      show some (Source.numberAt k, i.sourceLine)
        = some (1 + k, i.sourceLine)
      rw [Source.numberAt_of_lt (Nat.lt_of_le_of_lt hlt hsize),
        Nat.add_comm]

/-- **Reassembly.**  Whatever the clock, the printed lines of a list that is
    reassemblable compile to that list, however their text ends its
    lines. -/
theorem compile_sourceLines {is : List Instruction}
    (hsize : is.length < Source.lineLimit) (h : Reassemblable is)
    (clock : Clock) :
    (compile clock (sourceText is)).map Program.instructions
        = .ok is.toArray ∧
      ∀ text, Source.lines text = is.map sourceLine →
        (compile clock text).map Program.instructions = .ok is.toArray := by
  have hall : ∀ text, Source.lines text = is.map sourceLine →
      (compile clock text).map Program.instructions = .ok is.toArray := by
    intro text htext
    obtain ⟨ys, last, hys, hlast, hinstructions⟩ :=
      h.exists_yields clock is [] .empty rfl .nil
    have hclosed : last = .empty := by
      refine hlast.eq_empty ?_
      rw [map_bracket_zipIdx]
      exact h.balanced
    rw [List.length_nil, ← numberedLines_of_sourceLines hsize htext, hclosed]
      at hys
    rw [compile_of_closed hys rfl, ← hinstructions]
    rfl
  exact ⟨hall _ (lines_sourceText is), hall⟩

/-- A loop in a loop, and an end. -/
def nestedLoops : List Instruction :=
  [⟨.loop, 2⟩, ⟨.loop, 3⟩, ⟨.wait, 5⟩, ⟨.doLoop, 2⟩, ⟨.doLoop, 4⟩,
    ⟨.endProgram, 0⟩]

/-- Each `DO_LOOP` of it carries its own distance. -/
theorem reassemblable_nestedLoops : Reassemblable nestedLoops where
  nonzero := by decide
  balanced := .nest (.nest (.plain .nil) .nil) (.plain .nil)
  distance := by
    intro i j closed hp hj
    have hplaces : ∀ j < 6, (brackets nestedLoops)[j]? = some closing →
        j = 3 ∨ j = 4 := by decide
    obtain ⟨hlt, -⟩ := List.getElem?_eq_some_iff.mp hj
    rcases hplaces j hlt hp.closes with rfl | rfl
    · have hinner : Partners (brackets nestedLoops) 1 3 :=
        Partners.of_split (u := [opening]) (.plain .nil)
      rw [hp.opening_unique hinner, ← Option.some.inj hj]
      rfl
    · have houter : Partners (brackets nestedLoops) 0 4 :=
        Partners.of_split (u := []) (.nest (.plain .nil) .nil)
      rw [hp.opening_unique houter, ← Option.some.inj hj]
      rfl
  ends := by
    intro k i hk ho
    have hplaces : ∀ k < 6, nestedLoops[k]?.map Instruction.opcode
        = some .endProgram → k = 5 := by decide
    obtain ⟨hlt, -⟩ := List.getElem?_eq_some_iff.mp hk
    obtain rfl := hplaces k hlt (by rw [hk, Option.map_some, ho])
    rw [← Option.some.inj hk]
    exact ⟨rfl, .nest (.nest (.plain .nil) .nil) .nil⟩

/-- The loops as they are printed, and with other line ends. -/
theorem compile_sourceLines_of_nestedLoops :
    Reassemblable nestedLoops ∧
      sourceText nestedLoops = "LOOP 2\nLOOP 3\nWAIT 5 cycles\n" ++
        "DO_LOOP 2\nDO_LOOP 4\nEND 0\n" ∧
      (compile ⟨40000000⟩ (sourceText nestedLoops)).map Program.instructions
        = .ok nestedLoops.toArray ∧
      (compile ⟨0⟩ ("LOOP 2\r\nLOOP 3\r\nWAIT 5 cycles\r\n" ++
        "DO_LOOP 2\nDO_LOOP 4\nEND 0")).map Program.instructions
        = .ok nestedLoops.toArray :=
  ⟨reassemblable_nestedLoops, by decide +kernel,
    (compile_sourceLines (by decide) reassemblable_nestedLoops
      ⟨40000000⟩).1,
    (compile_sourceLines (by decide) reassemblable_nestedLoops ⟨0⟩).2 _
      (by decide +kernel)⟩

end Instruction

end TimingScript
