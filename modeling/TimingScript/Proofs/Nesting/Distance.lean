import TimingScript.Proofs.Lines
import TimingScript.Proofs.Nesting
import Mathlib.Logic.ExistsUnique

/-! # Distances — a `DO_LOOP` carries the lines back to its `LOOP`

    A run over lines is a run over the rows that they yield: each row is
    made of a record that was encoded where the loops of the earlier rows
    are open.  So the brackets of a program are balanced, and a `DO_LOOP`
    is encoded with the line of its partner on top of the stack.  A
    written record has its line for itself, which is why the lines of
    partners differ and the distance between them is never cut off. -/

namespace TimingScript

open Source (LineNumber)
open TimingScript.Bracket

/-- The bracket of a row. -/
def ListingRow.bracket (row : ListingRow) : Bracket :=
  row.instruction.opcode.bracket

/-- The brackets of a program. -/
def Program.brackets (program : Program) : List Bracket :=
  program.instructions.toList.map fun i => i.opcode.bracket

/-! ## Runs over rows -/

/-- Rows whose records are encoded in order, from the loops that are open
    in front of them to those open behind them. -/
inductive Run (clock : Clock) :
    LoopStack → List ListingRow → LoopStack → Prop where
  | nil {loops : LoopStack} : Run clock loops [] loops
  | cons {loops last : LoopStack} {record : Record} {source : String}
      {noted : Noted Parameter} {rest : List ListingRow} :
      record.encode loops clock = .ok noted →
      Run clock (loops.after record) rest last →
      Run clock loops (record.row source noted.value :: rest) last

namespace Run

variable {clock : Clock}

/-- Two runs make one. -/
theorem append {loops mid last : LoopStack} {u v : List ListingRow}
    (hu : Run clock loops u mid) (hv : Run clock mid v last) :
    Run clock loops (u ++ v) last := by
  induction hu with
  | nil => exact hv
  | cons he _ ih => exact .cons he (ih hv)

/-- A run can be cut anywhere. -/
theorem split {u v : List ListingRow} :
    ∀ {loops last : LoopStack}, Run clock loops (u ++ v) last →
      ∃ mid, Run clock loops u mid ∧ Run clock mid v last := by
  induction u with
  | nil => intro loops last h; exact ⟨loops, .nil, h⟩
  | cons row rest ih =>
      intro loops last h
      cases h with
      | cons he hrest =>
          obtain ⟨mid, hu, hv⟩ := ih hrest
          exact ⟨mid, .cons he hu, hv⟩

/-- Behind a run the open loops are those that its rows leave open. -/
theorem tracks {loops last : LoopStack} {rows : List ListingRow}
    (h : Run clock loops rows last) :
    ∀ w, LoopStack.Tracks ListingRow.bracket ListingRow.line w loops →
      LoopStack.Tracks ListingRow.bracket ListingRow.line (w ++ rows)
        last := by
  induction h with
  | nil => intro w hw; rw [List.append_nil]; exact hw
  | @cons loops last record source noted rest he _ ih =>
      intro w hw
      have hstep : LoopStack.Follows (record.row source noted.value).line
          (record.row source noted.value).bracket loops
          (loops.after record) := Record.follows_of_encode he
      have hnext := ih _ (hw.snoc hstep)
      rw [List.append_assoc] at hnext
      exact hnext

/-- A `DO_LOOP` in a run carries the distance to the line of the innermost
    open loop. -/
theorem parameter_of_closing {loops last : LoopStack} {row : ListingRow}
    {rest : List ListingRow} (h : Run clock loops (row :: rest) last)
    (hb : row.bracket = closing) :
    ∃ opened others, loops = ⟨opened :: others⟩ ∧
      row.instruction.parameter = Parameter.masked (row.line - opened) := by
  cases h with
  | @cons _ _ record source noted _ he _ =>
      rw [Record.encode_doLoop (Opcode.bracket_eq_closing.mp hb)] at he
      obtain ⟨lines⟩ := loops
      cases lines with
      | nil => cases he
      | cons opened others =>
          refine ⟨opened, others, rfl, ?_⟩
          rw [← Except.ok.inj he]
          rfl

/-- The rows of a line are a run. -/
theorem of_made {loops next : LoopStack} {line : LineNumber}
    {source : String} {y : Yield}
    (h : Yield.Made clock loops line source y next) :
    Run clock loops y.rows next := by
  cases h with
  | blank _ => exact .nil
  | written _ _ he => exact .cons he .nil
  | @expanded expansion warnings _ _ =>
      exact .cons (Expansion.encode_clear clock loops expansion)
        (.cons (Expansion.encode_set clock loops expansion) .nil)

/-- The rows of lines are a run. -/
theorem of_ofLines :
    ∀ (lines : List (LineNumber × String)) (loops last : LoopStack)
      (ys : List Yield), Yield.ofLines clock loops lines = .ok (ys, last) →
      Run clock loops (Yield.join ys).rows last := by
  intro lines
  induction lines with
  | nil =>
      intro loops last ys h
      obtain ⟨rfl, rfl⟩ := Prod.mk.inj (Except.ok.inj h)
      exact .nil
  | cons numbered rest ih =>
      intro loops last ys h
      obtain ⟨line, source⟩ := numbered
      obtain ⟨y, next, zs, hy, hz, rfl⟩ := Yield.ofLines_cons_eq_ok h
      rw [Yield.join_cons]
      exact (of_made (Yield.ofLine_eq_ok hy)).append (ih _ _ _ hz)

/-- Every `DO_LOOP` in a run that starts with no loop open has a partner
    in front of it, and carries the distance to that one's line. -/
theorem exists_partner {last : LoopStack} {rows : List ListingRow}
    (h : Run clock .empty rows last) {j : Nat} {closed : ListingRow}
    (hj : rows[j]? = some closed) (hb : closed.bracket = closing) :
    ∃ i opened, rows[i]? = some opened ∧
      Partners (rows.map ListingRow.bracket) i j ∧
      closed.instruction.parameter
        = Parameter.masked (closed.line - opened.line) := by
  obtain ⟨front, back, rfl, hlen⟩ : ∃ front back,
      rows = front ++ closed :: back ∧ front.length = j := by
    obtain ⟨hlt, -⟩ := List.getElem?_eq_some_iff.mp hj
    refine ⟨rows.take j, rows.drop (j + 1), split_at hj, ?_⟩
    rw [List.length_take, Nat.min_eq_left (Nat.le_of_lt hlt)]
  obtain ⟨mid, hfront, hback⟩ := h.split
  obtain ⟨line, others, rfl, hp⟩ := hback.parameter_of_closing hb
  -- the loop that is closed is the last one that the front leaves open
  obtain ⟨i, a, hi, rfl, hpartners⟩ :=
    (hfront.tracks [] LoopStack.Tracks.nil).exists_partner
      (back.map ListingRow.bracket)
  have hlt : i < front.length := (List.getElem?_eq_some_iff.mp hi).1
  refine ⟨i, a, ?_, ?_, hp⟩
  · rw [List.getElem?_append_left hlt]
    exact hi
  · rw [List.map_append, List.map_cons, hb, ← hlen]
    exact hpartners

end Run

/-! ## Rows along the text -/

/-- The keyword of a line of a text, counted from one, if there is such a
    line and it has one. -/
def Source.keywordAt (text : String) (line : Nat) : Option Keyword :=
  (lines text)[line - 1]?.bind keyword?

namespace Yield

variable {clock : Clock}

/-- A row that opens or closes a loop has the operation that is written on
    its line. -/
theorem Made.keyword_of_row {loops next : LoopStack} {line : LineNumber}
    {source : String} {y : Yield} (h : Made clock loops line source y next)
    {row : ListingRow} (hrow : row ∈ y.rows) (hb : row.bracket ≠ plain) :
    Source.keyword? source = some (.operation row.instruction.opcode) := by
  cases h with
  | blank _ => cases hrow
  | written _ hw _ =>
      rw [List.mem_singleton.mp hrow]
      exact hw.keyword
  | expanded _ _ =>
      rcases List.mem_cons.mp hrow with rfl | hrow
      · exact absurd rfl hb
      · rw [List.mem_singleton.mp hrow] at hb
        exact absurd rfl hb

/-- A row that opens a loop is the only row of its line. -/
theorem Made.pairwise_rows {loops next : LoopStack} {line : LineNumber}
    {source : String} {y : Yield} (h : Made clock loops line source y next) :
    y.rows.Pairwise fun r s => r.bracket = opening → r.line < s.line := by
  cases h with
  | blank _ => exact .nil
  | written _ _ _ => exact List.pairwise_singleton _ _
  | expanded _ _ =>
      refine List.pairwise_pair.mpr fun hb => ?_
      exact absurd hb (show plain ≠ opening by decide)

/-- What follows a row that opens a loop stands on later lines. -/
theorem pairwise_rows :
    ∀ (lines : List (LineNumber × String)) (loops last : LoopStack)
      (ys : List Yield), ofLines clock loops lines = .ok (ys, last) →
      lines.Pairwise (fun p q => p.1 < q.1) →
      (join ys).rows.Pairwise
        fun r s => r.bracket = opening → r.line < s.line := by
  intro lines
  induction lines with
  | nil =>
      intro loops last ys h _
      obtain ⟨rfl, -⟩ := Prod.mk.inj (Except.ok.inj h)
      exact .nil
  | cons numbered rest ih =>
      intro loops last ys h hlines
      obtain ⟨line, source⟩ := numbered
      obtain ⟨hfirst, hrest⟩ := List.pairwise_cons.mp hlines
      obtain ⟨y, next, zs, hy, hz, rfl⟩ := ofLines_cons_eq_ok h
      have hmade := ofLine_eq_ok hy
      rw [join_cons]
      refine List.pairwise_append.mpr
        ⟨hmade.pairwise_rows, ih _ _ _ hz hrest, ?_⟩
      intro r hr s hs _
      -- `s` stands on one of the later lines
      obtain ⟨l, src, _, _, z, hmem, hz', hs', -⟩ :=
        exists_line_of_mem_rows _ _ _ _ hz hs
      rw [hmade.line_eq r hr, hz'.line_eq s hs']
      exact hfirst _ hmem

/-- A row that opens or closes a loop has the operation that the text has
    on its line. -/
theorem keywordAt_of_mem_rows {text : String} {last : LoopStack}
    {ys : List Yield} {row : ListingRow}
    (hsize : (Source.lines text).length < Source.lineLimit)
    (h : ofLines clock .empty (Source.numberedLines text) = .ok (ys, last))
    (hrow : row ∈ (join ys).rows) (hb : row.bracket ≠ plain) :
    Source.keywordAt text row.line
        = some (.operation row.instruction.opcode) ∧
      row.line ≤ (Source.lines text).length := by
  obtain ⟨line, source, _, _, y, hmem, hmade, hy, -⟩ :=
    exists_line_of_mem_rows _ _ _ _ h hrow
  obtain ⟨hone, hat⟩ := Source.getElem?_of_mem_numberedLines hsize hmem
  obtain ⟨hlt, -⟩ := List.getElem?_eq_some_iff.mp hat
  rw [hmade.line_eq row hy]
  constructor
  · rw [Source.keywordAt, hat]
    exact hmade.keyword_of_row hy hb
  · exact Nat.le_of_pred_lt hlt

end Yield

/-! ## Programs -/

/-- The brackets of a program are those of its rows. -/
theorem Yield.brackets_program (y : Yield) :
    y.program.brackets = y.rows.map ListingRow.bracket := by
  rw [Program.brackets, Yield.program, List.toList_toArray, instructions,
    List.map_map]
  rfl

section

variable {clock : Clock} {text : String} {program : Program}

/-- The loops of a program are balanced. -/
theorem balanced_of_compile (h : compile clock text = .ok program) :
    Balanced program.brackets := by
  obtain ⟨ys, hy, rfl⟩ := compile_eq_ok h
  rw [Yield.brackets_program]
  exact ((Run.of_ofLines _ _ _ _ hy).tracks [] .nil).balanced

/-- Every `DO_LOOP` of a program has a partner. -/
theorem exists_partner_of_closing (h : compile clock text = .ok program)
    {j : Nat} (hj : program.brackets[j]? = some closing) :
    ∃ i, Partners program.brackets i j := by
  obtain ⟨ys, hy, rfl⟩ := compile_eq_ok h
  rw [Yield.brackets_program] at hj ⊢
  obtain ⟨closed, hrow, hc⟩ := Option.map_eq_some_iff.mp
    ((List.getElem?_map ..).symm.trans hj)
  obtain ⟨i, -, -, hp, -⟩ :=
    (Run.of_ofLines _ _ _ _ hy).exists_partner hrow hc
  exact ⟨i, hp⟩

section

variable (hsize : (Source.lines text).length < Source.lineLimit)

include hsize

/-- The rows of partners stand on the lines of a `LOOP` and of a later
    `DO_LOOP`, which carries the distance. -/
theorem distance_of_partners (h : compile clock text = .ok program)
    {i j : Nat} (hp : Partners program.brackets i j) :
    ∃ opened closed, program.listing[i]? = some opened ∧
      program.listing[j]? = some closed ∧
      Source.keywordAt text opened.line = some (.operation .loop) ∧
      Source.keywordAt text closed.line = some (.operation .doLoop) ∧
      opened.line < closed.line ∧
      closed.instruction.parameter.toNat = closed.line - opened.line := by
  obtain ⟨ys, hy, rfl⟩ := compile_eq_ok h
  rw [Yield.brackets_program] at hp
  obtain ⟨closed, hj, hc⟩ := Option.map_eq_some_iff.mp
    ((List.getElem?_map ..).symm.trans hp.closes)
  -- the run knows of a partner, and there is no other
  obtain ⟨i', opened, hi, hp', hdist⟩ :=
    (Run.of_ofLines _ _ _ _ hy).exists_partner hj hc
  obtain rfl := hp.opening_unique hp'
  have ho : opened.bracket = opening := by
    have hopens := hp.opens
    rw [List.getElem?_map, hi] at hopens
    exact Option.some.inj hopens
  obtain ⟨hko, -⟩ := Yield.keywordAt_of_mem_rows hsize hy
    (List.mem_of_getElem? hi) (by rw [ho]; decide)
  obtain ⟨hkc, hle⟩ := Yield.keywordAt_of_mem_rows hsize hy
    (List.mem_of_getElem? hj) (by rw [hc]; decide)
  rw [Opcode.bracket_eq_opening.mp ho] at hko
  rw [Opcode.bracket_eq_closing.mp hc] at hkc
  have hlt : opened.line < closed.line := by
    obtain ⟨hil, rfl⟩ := List.getElem?_eq_some_iff.mp hi
    obtain ⟨hjl, rfl⟩ := List.getElem?_eq_some_iff.mp hj
    exact List.pairwise_iff_getElem.mp
      (Yield.pairwise_rows _ _ _ _ hy (Source.pairwise_numberedLines hsize))
      i j hil hjl hp.before ho
  -- a text of this size keeps distances far below the largest parameter
  have hsmall : closed.line - opened.line < Parameter.modulus :=
    calc closed.line - opened.line
      _ ≤ closed.line := Nat.sub_le _ _
      _ ≤ (Source.lines text).length := hle
      _ < Source.lineLimit := hsize
      _ ≤ Parameter.modulus := by decide
  refine ⟨opened, closed, ?_, ?_, hko, hkc, hlt, ?_⟩
  · rw [Yield.program, List.getElem?_toArray]
    exact hi
  · rw [Yield.program, List.getElem?_toArray]
    exact hj
  · rw [hdist, Parameter.masked, BitVec.toNat_ofNat]
    exact Nat.mod_eq_of_lt hsmall

/-- **Loops are paired, and jumps go back to their loop.**  Every `DO_LOOP`
    of a program closes one `LOOP` and every `LOOP` is closed by one
    `DO_LOOP`, which stands on a later line of the text and carries the
    number of lines between the two. -/
theorem compile_loops_paired
    (h : compile clock text = .ok program) :
    program.listing.map ListingRow.instruction = program.instructions ∧
    (∀ j, program.brackets[j]? = some closing →
      ∃! i, Partners program.brackets i j) ∧
    (∀ i, program.brackets[i]? = some opening →
      ∃! j, Partners program.brackets i j) ∧
    ∀ i j, Partners program.brackets i j →
      ∃ opened closed, program.listing[i]? = some opened ∧
        program.listing[j]? = some closed ∧
        Source.keywordAt text opened.line = some (.operation .loop) ∧
        Source.keywordAt text closed.line = some (.operation .doLoop) ∧
        opened.line < closed.line ∧
        closed.instruction.parameter.toNat = closed.line - opened.line := by
  refine ⟨?_, ?_, ?_, ?_⟩
  · obtain ⟨ys, -, rfl⟩ := compile_eq_ok h
    exact Yield.map_instruction_listing _
  · intro j hj
    obtain ⟨i, hp⟩ := exists_partner_of_closing h hj
    exact ⟨i, hp, fun i' hp' => hp'.opening_unique hp⟩
  · intro i hi
    obtain ⟨j, hp⟩ := (balanced_of_compile h).exists_partner hi
    exact ⟨j, hp, fun j' hp' => hp'.closing_unique hp⟩
  · intro i j hp
    exact distance_of_partners hsize h hp

end

end

/-- Two loops, one in the other, with a blank line and an expansion between
    their brackets. -/
def nestedLoops : String :=
  "LOOP 2\n\nLOOP 3\nSLICE bitposition 1 bitwidth 4 event_tag 3\n"
    ++ "DO_LOOP\nDO_LOOP"

/-- The last line closes the outer loop. -/
theorem compile_loops_paired_nested :
    ∃ program, compile ⟨1000000000⟩ nestedLoops = .ok program ∧
      program.brackets[5]? = some closing ∧
      (∃! i, Partners program.brackets i 5) ∧
      ∀ i, Partners program.brackets i 5 →
        ∃ opened closed, program.listing[i]? = some opened ∧
          program.listing[5]? = some closed ∧
          opened.line < closed.line ∧
          closed.instruction.parameter.toNat
            = closed.line - opened.line := by
  have hlast : (compile ⟨1000000000⟩ nestedLoops).toOption.map
      (fun program => program.brackets[5]?) = some (some closing) := by
    decide +kernel
  obtain ⟨program, hprogram, hb⟩ := Option.map_eq_some_iff.mp hlast
  have h := except_eq_ok_of_toOption hprogram
  obtain ⟨-, hclosing, -, hpartners⟩ :=
    compile_loops_paired (by decide +kernel) h
  refine ⟨program, h, hb, hclosing 5 hb, ?_⟩
  intro i hp
  obtain ⟨opened, closed, hi, hj, -, -, hlt, hdist⟩ := hpartners i 5 hp
  exact ⟨opened, closed, hi, hj, hlt, hdist⟩

end TimingScript
