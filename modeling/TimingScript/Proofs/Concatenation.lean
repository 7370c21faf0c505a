import TimingScript.Proofs.Growth
import TimingScript.Proofs.Lines
import TimingScript.Proofs.Relocation

/-! # Concatenation — texts behind each other are programs behind each other

    All that one line hands to the next is which loops are open, and behind
    a text that compiles there are none.  The lines of a second text are
    therefore compiled as if they stood alone, only that they stand further
    down (`compile_append_of_ok`).

    A text of nothing but blanks and comments compiles to the empty program,
    so what it does to a text behind it is to move it down. -/

namespace TimingScript

open Source (LineNumber Word)
open Relocatable

/-! ## Programs -/

namespace Program

/-- A program without instructions. -/
def empty : Program :=
  { image := #[], instructions := #[], warnings := #[], listing := #[] }

/-- One program behind another. -/
def append (first second : Program) : Program :=
  { image := first.image ++ second.image
    instructions := first.instructions ++ second.instructions
    warnings := first.warnings ++ second.warnings
    listing := first.listing ++ second.listing }

/-- Nothing in front of a program. -/
theorem empty_append (program : Program) : empty.append program = program := by
  simp [append, empty]

end Program

/-- Warnings and listing of a program speak of lines. -/
instance : Relocatable Program :=
  ⟨fun n program =>
    { program with
      warnings := program.warnings.map (relocate n)
      listing := program.listing.map (relocate n) }⟩

namespace Yield

/-- Yields behind each other make programs behind each other. -/
theorem program_append (y z : Yield) :
    (y.append z).program = y.program.append z.program := by
  simp [program, Program.append, append, instructions, Image.ofInstructions]

/-- A yield further down has the same instructions. -/
theorem instructions_relocate (n : Nat) (y : Yield) :
    (relocate n y).instructions = y.instructions := by
  rw [instructions, instructions,
    show (relocate n y).rows = y.rows.map (relocate n) from rfl,
    List.map_map]
  rfl

/-- A yield further down makes the same program, further down. -/
theorem program_relocate (n : Nat) (y : Yield) :
    (relocate n y).program = relocate n y.program := by
  have hwarnings : (relocate n y).warnings.toArray
      = y.warnings.toArray.map (relocate n) := (List.map_toArray ..).symm
  have hrows : (relocate n y).rows.toArray
      = y.rows.toArray.map (relocate n) := (List.map_toArray ..).symm
  rw [program, instructions_relocate, hwarnings, hrows]
  rfl

end Yield

/-! ## Lines further down -/

/-- Lines that are numbered on are moved down, as long as there are numbers
    for them. -/
theorem Source.numberedFrom_eq_relocate {n : Nat} {text : String}
    (h : n + (lines text).length < lineLimit) :
    numberedFrom n (lines text) = relocate n (numberedLines text) := by
  have hrelocate : relocate n (numberedLines text)
      = (numberedLines text).map fun p => (p.1 + n, p.2) := rfl
  apply List.ext_getElem?
  intro k
  rw [hrelocate, numberedFrom, List.getElem?_map, List.getElem?_map,
    List.getElem?_zipIdx, getElem?_numberedLines]
  cases hk : (lines text)[k]? with
  | none => rfl
  | some s =>
      obtain ⟨hlt, -⟩ := List.getElem?_eq_some_iff.mp hk
      have hnumber : numberAt (n + k) = numberAt k + n := by
        rw [numberAt_of_lt (k := n + k) (by omega),
          numberAt_of_lt (k := k) (by omega)]
        exact Nat.add_comm n (k + 1)
      show some (numberAt (n + k), s) = some (numberAt k + n, s)
      rw [hnumber]

/-- A text behind a program is compiled as if it stood alone, and moved
    down. -/
theorem compile_append_of_ok {clock : Clock} {front back : String}
    {first : Program} (hend : Source.EndsLine front)
    (hsize : (Source.lines (front ++ back)).length < Source.lineLimit)
    (hfirst : compile clock front = .ok first) :
    compile clock (front ++ back)
      = (relocate (Source.lines front).length (compile clock back)).map
          first.append := by
  obtain ⟨ys, hys, rfl⟩ := compile_eq_ok hfirst
  have hrest := Yield.ofLines_relocate (Source.lines front).length clock
    (Source.numberedLines back) .empty
  rw [Source.lines_append hend, List.length_append] at hsize
  rw [compile_eq, compile_eq, Source.numberedLines_append hend,
    Source.numberedFrom_eq_relocate hsize, Yield.ofLines_append_of_ok _ hys]
  rw [show relocate (Source.lines front).length LoopStack.empty
    = LoopStack.empty from rfl] at hrest
  rw [hrest]
  cases Yield.ofLines clock .empty (Source.numberedLines back) with
  | error error => rfl
  | ok found =>
      obtain ⟨zs, last⟩ := found
      obtain ⟨lines⟩ := last
      cases lines with
      | cons opened rest => rfl
      | nil =>
          show Except.ok (Yield.join (ys ++ relocate _ zs)).program = _
          rw [Yield.join_append, Yield.program_append, Yield.join_relocate,
            Yield.program_relocate]
          rfl

/-! ## Remarks -/

/-- Behind its blanks a line holds nothing, or a comment. -/
def Source.IsRemark (source : String) : Prop :=
  source.toList.dropWhile Word.isSeparator = [] ∨
    ['/', '/'] <+: source.toList.dropWhile Word.isSeparator

instance (source : String) : Decidable (Source.IsRemark source) :=
  inferInstanceAs (Decidable (_ ∨ _))

/-- Blanks and comments hold no words. -/
theorem Source.Word.scan_of_remark {cs : List Char}
    (h : cs.dropWhile isSeparator = [] ∨
      ['/', '/'] <+: cs.dropWhile isSeparator) :
    ∀ column : Nat, scan column cs = .ok [] := by
  induction cs with
  | nil =>
      intro column
      rw [scan]
  | cons c rest ih =>
      intro column
      by_cases hc : isSeparator c = true
      · rw [List.dropWhile_cons_of_pos hc] at h
        have hslash : c ≠ '/' := by
          rintro rfl
          exact absurd hc (by decide)
        have hfeed : c ≠ '\n' := by
          rintro rfl
          exact absurd hc (by decide)
        rw [scan, if_neg hslash, if_neg hfeed, if_pos hc]
        exact ih h (column + 1)
      · rw [List.dropWhile_cons_of_neg hc] at h
        rcases h with h | ⟨tail, h⟩
        · cases h
        · obtain ⟨rfl, rfl⟩ := List.cons.inj h
          rw [scan, if_pos rfl]
          rfl

/-- A remark has no words. -/
theorem Source.Word.read_of_remark {source : String}
    (h : Source.IsRemark source) (line : LineNumber) :
    read line source = .ok [] := by
  rw [read, scan_of_remark h]
  rfl

/-- Remarks yield nothing, whatever loops are open. -/
theorem Yield.ofLines_of_remarks (clock : Clock) (loops : LoopStack)
    {lines : List (LineNumber × String)}
    (h : ∀ numbered ∈ lines, Source.IsRemark numbered.2) :
    ∃ ys, ofLines clock loops lines = .ok (ys, loops) ∧ join ys = empty := by
  induction lines with
  | nil => exact ⟨[], rfl, rfl⟩
  | cons numbered rest ih =>
      obtain ⟨line, source⟩ := numbered
      have hwords := Source.Word.read_of_remark (h _ List.mem_cons_self) line
      have hline : ofLine clock loops line source = .ok (empty, loops) := by
        rw [ofLine, Reading.ofLine_of_no_words hwords]
        rfl
      obtain ⟨ys, hys, hjoin⟩ :=
        ih fun p hp => h p (List.mem_cons_of_mem _ hp)
      refine ⟨empty :: ys, ?_, ?_⟩
      · rw [ofLines_cons_of_ok hline, hys]
        rfl
      · rw [join_cons, hjoin, append_empty]

/-- Remarks are the empty program. -/
theorem compile_of_remarks (clock : Clock) {text : String}
    (h : ∀ source ∈ Source.lines text, Source.IsRemark source) :
    compile clock text = .ok Program.empty := by
  have hnumbered : ∀ numbered ∈ Source.numberedLines text,
      Source.IsRemark numbered.2 := by
    intro numbered hmem
    apply h
    rw [← Source.map_snd_numberedLines]
    exact List.mem_map_of_mem hmem
  obtain ⟨ys, hys, hjoin⟩ := Yield.ofLines_of_remarks clock .empty hnumbered
  rw [compile_of_closed hys rfl, hjoin]
  rfl

/-- **Texts behind each other.**  Behind a text that compiles and ends with
    a whole line, a text fails with its own error or compiles to its own
    program, further down by the number of lines in front, and the program
    is appended.  Remarks in front of a text leave its bytes as they are. -/
theorem compile_append (clock : Clock) {front back : String}
    (hend : Source.EndsLine front)
    (hsize : (Source.lines (front ++ back)).length < Source.lineLimit) :
    (∀ first, compile clock front = .ok first →
      compile clock (front ++ back)
        = (relocate (Source.lines front).length (compile clock back)).map
            first.append) ∧
    ((∀ source ∈ Source.lines front, Source.IsRemark source) →
      (compile clock (front ++ back)).toOption.map Program.image
        = (compile clock back).toOption.map Program.image) := by
  refine ⟨fun first hfirst => compile_append_of_ok hend hsize hfirst, ?_⟩
  intro hremarks
  rw [compile_append_of_ok hend hsize (compile_of_remarks clock hremarks)]
  cases compile clock back with
  | error error => rfl
  | ok second =>
      show some (Program.empty.append (relocate _ second)).image = _
      rw [Program.empty_append]
      rfl

/-- A loop in front of another one, and a remark in front of a program. -/
theorem compile_append_loops :
    compile ⟨40000000⟩ ("LOOP 2\nDO_LOOP\n" ++ "\nLOOP 3\nDO_LOOP 9")
        = .ok
          { image := #[7, 0, 0, 0, 0, 0, 0, 2, 8, 0, 0, 0, 0, 0, 0, 1,
              7, 0, 0, 0, 0, 0, 0, 3, 8, 0, 0, 0, 0, 0, 0, 1]
            instructions :=
              #[⟨.loop, 2⟩, ⟨.doLoop, 1⟩, ⟨.loop, 3⟩, ⟨.doLoop, 1⟩]
            warnings := #[⟨5, .operation .doLoop, .distanceIgnored 9⟩]
            listing :=
              #[⟨1, "LOOP 2", false, ⟨.loop, 2⟩⟩,
                ⟨2, "DO_LOOP", false, ⟨.doLoop, 1⟩⟩,
                ⟨4, "LOOP 3", false, ⟨.loop, 3⟩⟩,
                ⟨5, "DO_LOOP 9", false, ⟨.doLoop, 1⟩⟩] } ∧
      (compile ⟨40000000⟩ ("\t// remark\n\r\n" ++ "END")).toOption.map
          Program.image
        = some #[11, 0, 0, 0, 0, 0, 0, 0] := by
  have hfirst := except_eq_ok_of_toOption
    (show (compile ⟨40000000⟩ "LOOP 2\nDO_LOOP\n").toOption = some
      { image := #[7, 0, 0, 0, 0, 0, 0, 2, 8, 0, 0, 0, 0, 0, 0, 1]
        instructions := #[⟨.loop, 2⟩, ⟨.doLoop, 1⟩]
        warnings := #[]
        listing :=
          #[⟨1, "LOOP 2", false, ⟨.loop, 2⟩⟩,
            ⟨2, "DO_LOOP", false, ⟨.doLoop, 1⟩⟩] } by
      decide +kernel)
  have hsecond := except_eq_ok_of_toOption
    (show (compile ⟨40000000⟩ "\nLOOP 3\nDO_LOOP 9").toOption = some
      { image := #[7, 0, 0, 0, 0, 0, 0, 3, 8, 0, 0, 0, 0, 0, 0, 1]
        instructions := #[⟨.loop, 3⟩, ⟨.doLoop, 1⟩]
        warnings := #[⟨3, .operation .doLoop, .distanceIgnored 9⟩]
        listing :=
          #[⟨2, "LOOP 3", false, ⟨.loop, 3⟩⟩,
            ⟨3, "DO_LOOP 9", false, ⟨.doLoop, 1⟩⟩] } by
      decide +kernel)
  have hlines : (Source.lines "LOOP 2\nDO_LOOP\n").length = 2 := by
    decide +kernel
  constructor
  · rw [(compile_append ⟨40000000⟩ (by decide +kernel)
      (by decide +kernel)).1 _ hfirst, hsecond, hlines]
    exact congrArg Except.ok (by decide +kernel)
  · rw [(compile_append ⟨40000000⟩ (by decide +kernel)
      (by decide +kernel)).2 (by decide +kernel)]
    decide +kernel

end TimingScript
