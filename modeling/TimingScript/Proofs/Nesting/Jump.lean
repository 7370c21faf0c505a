import TimingScript.Proofs.Accounting
import TimingScript.Proofs.Nesting.Distance

/-! # Jumps — lines and instructions between a `LOOP` and its `DO_LOOP`

    A `DO_LOOP` counts lines, and a program consists of instructions.  The
    place of an instruction and the number of its line drift apart by the
    lines in front of it: a line without words pushes the number on and a
    use of `SLICE` pushes the place on.  So a jump is as long as the way
    over the instructions, and the lines without words more and the uses
    of `SLICE` less that lie between the two brackets.  That holds of a text
    with a number for each of its lines. -/

namespace TimingScript

open Source (LineNumber)
open TimingScript.Bracket

/-! ## Lines in between -/

namespace Source

/-- The lines of a text strictly between two others, counted from one. -/
def linesBetween (text : String) (first last : Nat) : List String :=
  ((lines text).take (last - 1)).drop first

/-- How many lines in between have no words. -/
def blanksBetween (text : String) (first last : Nat) : Nat :=
  (linesBetween text first last).countP isBlank

/-- How many lines in between are uses of `SLICE`. -/
def slicesBetween (text : String) (first last : Nat) : Nat :=
  (linesBetween text first last).countP isSlice

/-- A line that does not count sets what is in front of it apart from what
    is in between. -/
theorem countP_take_of_not {p : String → Bool} {text source : String}
    {first last : Nat} (hone : 1 ≤ first) (hlt : first < last)
    (hat : (lines text)[first - 1]? = some source) (hp : p source = false) :
    ((lines text).take (last - 1)).countP p
      = ((lines text).take (first - 1)).countP p
        + (linesBetween text first last).countP p := by
  have hfirst : (lines text).take first
      = (lines text).take (first - 1) ++ [source] := by
    obtain ⟨k, rfl⟩ := Nat.exists_eq_add_of_le' hone
    rw [Nat.add_sub_cancel] at hat ⊢
    rw [List.take_add_one, hat]
    rfl
  calc ((lines text).take (last - 1)).countP p
    _ = (((lines text).take (last - 1)).take first).countP p
          + (linesBetween text first last).countP p := by
        rw [linesBetween, ← List.countP_append, List.take_append_drop]
    _ = ((lines text).take first).countP p
          + (linesBetween text first last).countP p := by
        rw [List.take_take, Nat.min_eq_left (Nat.le_sub_one_of_lt hlt)]
    _ = ((lines text).take (first - 1)).countP p
          + (linesBetween text first last).countP p := by
        rw [hfirst, List.countP_append, List.countP_singleton, hp]
        rfl

end Source

/-! ## The place of a row -/

/-- A line that opens or closes a loop makes no other rows. -/
theorem Source.Accounts.lone_of_bracket {line : LineNumber} {source : String}
    {rows : List ListingRow} (h : Accounts line source rows)
    {row : ListingRow} (hrow : row ∈ rows) (hb : row.bracket ≠ plain) :
    isBlank source = false ∧ isSlice source = false ∧ rows.length = 1 := by
  have hkind := h.kind
  cases h with
  | blank _ => cases hrow
  | slice _ _ =>
      -- neither an AND nor an OR is a bracket
      rcases List.mem_cons.mp hrow with rfl | hrow
      · exact absurd rfl hb
      · rw [List.mem_singleton.mp hrow] at hb
        exact absurd rfl hb
  | primitive _ _ _ =>
      rcases hkind with ⟨-, -, -, hl⟩ | ⟨-, -, -, hl⟩ | ⟨hblank, hslice, -, hl⟩
      · cases hl
      · cases hl
      · exact ⟨hblank, hslice, hl⟩

/-- A row that opens or closes a loop has its line for itself, and the rows
    in front of it are those of the lines in front. -/
theorem Source.Accounted.exists_split {lines : List (LineNumber × String)}
    {rows : List (List ListingRow)} (h : Accounted lines rows) :
    ∀ {k : Nat} {row : ListingRow}, rows.flatten[k]? = some row →
      row.bracket ≠ plain →
      ∃ front source back us, lines = front ++ (row.line, source) :: back ∧
        isBlank source = false ∧ isSlice source = false ∧
        Accounted front us ∧ us.flatten.length = k := by
  induction h with
  | nil => intro k row hk _; cases hk
  | @cons numbered first others rest hfirst _ ih =>
      intro k row hk hb
      rw [List.flatten_cons] at hk
      by_cases hplace : k < first.length
      · -- the row is the only one of the first line
        rw [List.getElem?_append_left hplace] at hk
        have hmem := List.mem_of_getElem? hk
        obtain ⟨hblank, hslice, hl⟩ := hfirst.lone_of_bracket hmem hb
        refine ⟨[], numbered.2, others, [], ?_, hblank, hslice, .nil, ?_⟩
        · rw [hfirst.line_eq row hmem]
          rfl
        · rw [hl] at hplace
          exact (Nat.lt_one_iff.mp hplace).symm
      · -- the row is one of a later line
        replace hplace := Nat.not_lt.mp hplace
        rw [List.getElem?_append_right hplace] at hk
        obtain ⟨front, source, back, us, rfl, hblank, hslice, hus, hlen⟩ :=
          ih hk hb
        refine ⟨numbered :: front, source, back, first :: us, rfl, hblank,
          hslice, .cons hfirst hus, ?_⟩
        rw [List.flatten_cons, List.length_append, hlen]
        exact Nat.add_sub_cancel' hplace

/-- The place of a row that opens or closes a loop, and the number of its
    line: the lines without words and the uses of `SLICE` in front of the
    line make up for the difference. -/
theorem Source.Accounted.drift {text : String}
    {rows : List (List ListingRow)}
    (hsize : (lines text).length < lineLimit)
    (h : Accounted (numberedLines text) rows) {k : Nat} {row : ListingRow}
    (hk : rows.flatten[k]? = some row) (hb : row.bracket ≠ plain) :
    ∃ source, 1 ≤ row.line ∧ (lines text)[row.line - 1]? = some source ∧
      isBlank source = false ∧ isSlice source = false ∧
      k + ((lines text).take (row.line - 1)).countP isBlank
        = row.line - 1
          + ((lines text).take (row.line - 1)).countP isSlice := by
  obtain ⟨front, source, back, us, hsplit, hblank, hslice, hus, hlen⟩ :=
    h.exists_split hk hb
  have hat : (numberedLines text)[front.length]?
      = some (row.line, source) := by
    rw [hsplit, List.getElem?_append_right (Nat.le_refl _), Nat.sub_self]
    rfl
  rw [getElem?_numberedLines] at hat
  obtain ⟨_, hline, hpair⟩ := Option.map_eq_some_iff.mp hat
  obtain ⟨hnumber, rfl⟩ := Prod.mk.inj hpair
  obtain ⟨hlt, -⟩ := List.getElem?_eq_some_iff.mp hline
  rw [numberAt_of_lt_length hsize hlt] at hnumber
  have hfront : front.map Prod.snd = (lines text).take front.length := by
    rw [← map_snd_numberedLines, hsplit, List.map_append,
      ← List.length_map Prod.snd, List.take_left]
  have hlines := hus.length_lines
  have hrows := hus.length_rows
  rw [← hnumber, Nat.add_sub_cancel, ← hfront]
  refine ⟨_, Nat.le_add_left 1 _, hline, hblank, hslice, ?_⟩
  omega

/-! ## Programs -/

section

variable {clock : Clock} {text : String} {program : Program}

/-- A row has the bracket that the program has at its place. -/
theorem bracket_of_listing (h : compile clock text = .ok program) {k : Nat}
    {row : ListingRow} {b : Bracket} (hrow : program.listing[k]? = some row)
    (hb : program.brackets[k]? = some b) : row.bracket = b := by
  obtain ⟨ys, -, rfl⟩ := compile_eq_ok h
  rw [Yield.program, List.getElem?_toArray] at hrow
  rw [Yield.brackets_program, List.getElem?_map, hrow] at hb
  exact Option.some.inj hb

variable (hsize : (Source.lines text).length < Source.lineLimit)

include hsize

/-- The lines of partners are as far apart as their instructions, but for
    what the lines in between drift. -/
theorem drift_of_partners (h : compile clock text = .ok program)
    {i j : Nat} (hp : Partners program.brackets i j)
    {opened closed : ListingRow} (hi : program.listing[i]? = some opened)
    (hj : program.listing[j]? = some closed)
    (hlt : opened.line < closed.line) :
    closed.line - opened.line
        + Source.slicesBetween text opened.line closed.line
      = j - i + Source.blanksBetween text opened.line closed.line := by
  obtain ⟨rows, hrows, haccounted⟩ := exists_accounted h
  have ho : opened.bracket = opening := bracket_of_listing h hi hp.opens
  have hc : closed.bracket = closing := bracket_of_listing h hj hp.closes
  rw [← Array.getElem?_toList, hrows] at hi hj
  obtain ⟨_, hone, hat, hblank, hslice, hopen⟩ :=
    haccounted.drift hsize hi (by rw [ho]; decide)
  obtain ⟨_, -, -, -, -, hclose⟩ :=
    haccounted.drift hsize hj (by rw [hc]; decide)
  have hblanks := Source.countP_take_of_not hone hlt hat hblank
  have hslices := Source.countP_take_of_not hone hlt hat hslice
  have hbefore := hp.before
  rw [Source.slicesBetween, Source.blanksBetween]
  -- line numbers are natural numbers, which has to be seen for the rest
  dsimp only [LineNumber] at hone hlt hopen hclose ⊢
  omega

/-- **A jump against the way over the instructions.**  The `DO_LOOP` at `j`
    of a program closes a `LOOP`, and if this is the one at `i`, then the
    parameter of the `DO_LOOP` is `j - i`, and the lines without words that
    stand between the two more and the uses of `SLICE` there less.  So it
    is `j - i` if there are as many of the ones as of the others, and only
    then. -/
theorem compile_jump_lengths (h : compile clock text = .ok program) :
    (∀ j, program.brackets[j]? = some closing →
      ∃ i, Partners program.brackets i j) ∧
    ∀ i j, Partners program.brackets i j →
      ∃ opened closed, program.listing[i]? = some opened ∧
        program.listing[j]? = some closed ∧
        program.instructions[j]? = some closed.instruction ∧
        opened.line < closed.line ∧
        Source.slicesBetween text opened.line closed.line
          ≤ j - i + Source.blanksBetween text opened.line closed.line ∧
        closed.instruction.parameter.toNat
          = j - i + Source.blanksBetween text opened.line closed.line
            - Source.slicesBetween text opened.line closed.line ∧
        (closed.instruction.parameter.toNat = j - i ↔
          Source.blanksBetween text opened.line closed.line
            = Source.slicesBetween text opened.line closed.line) := by
  refine ⟨fun j hj => exists_partner_of_closing h hj, ?_⟩
  intro i j hp
  obtain ⟨opened, closed, hi, hj, -, -, hlt, hdistance⟩ :=
    distance_of_partners hsize h hp
  have hdrift := drift_of_partners hsize h hp hi hj hlt
  have hinstruction :
      program.instructions[j]? = some closed.instruction := by
    obtain ⟨ys, -, rfl⟩ := compile_eq_ok h
    rw [← Yield.map_instruction_listing, Array.getElem?_map, hj]
    rfl
  rw [← hdistance] at hdrift
  refine ⟨opened, closed, hi, hj, hinstruction, hlt, ?_,
    Nat.eq_sub_of_add_eq hdrift, ?_⟩
  · rw [← hdrift]
    exact Nat.le_add_left _ _
  · constructor
    · intro heq
      rw [heq] at hdrift
      exact (Nat.add_left_cancel hdrift).symm
    · intro heq
      rw [heq] at hdrift
      exact Nat.add_right_cancel hdrift

end

/-- Two loops, one in the other, around two lines without words and an
    expansion. -/
def driftingLoops : String :=
  "LOOP 2\n\n// x\nLOOP 3\nSLICE bitposition 1 bitwidth 4 event_tag 3\n"
    ++ "DO_LOOP\nDO_LOOP"

/-- The outer jump goes back six lines, which are five instructions. -/
theorem compile_jump_lengths_drifting :
    ∃ program, compile ⟨1000000000⟩ driftingLoops = .ok program ∧
      Partners program.brackets 0 5 ∧
      ∃ closed, program.instructions[5]? = some closed ∧
        closed.parameter.toNat = 5 - 0 + 2 - 1 ∧
        closed.parameter.toNat ≠ 5 - 0 := by
  have hevaluated : (compile ⟨1000000000⟩ driftingLoops).toOption.map
      (fun program => (program.brackets,
        program.listing[0]?.map ListingRow.line,
        program.listing[5]?.map ListingRow.line))
        = some ([opening, opening, plain, plain, closing, closing],
          some 1, some 7) := by
    decide +kernel
  obtain ⟨program, hprogram, hvalues⟩ := Option.map_eq_some_iff.mp hevaluated
  obtain ⟨hbrackets, hlines⟩ := Prod.mk.inj hvalues
  obtain ⟨hfirst, hlast⟩ := Prod.mk.inj hlines
  have h := except_eq_ok_of_toOption hprogram
  have hp : Partners program.brackets 0 5 := by
    rw [hbrackets]
    exact Partners.of_split (u := []) (r := [])
      (.nest (.plain (.plain .nil)) .nil)
  have hblanks : Source.blanksBetween driftingLoops 1 7 = 2 := by
    decide +kernel
  have hslices : Source.slicesBetween driftingLoops 1 7 = 1 := by
    decide +kernel
  obtain ⟨opened, closed, hi, hj, hinstruction, -, -, hparameter, hexact⟩ :=
    (compile_jump_lengths (by decide +kernel) h).2 0 5 hp
  rw [hi] at hfirst
  rw [hj] at hlast
  rw [Option.some.inj hfirst, Option.some.inj hlast, hblanks, hslices]
    at hparameter hexact
  refine ⟨program, h, hp, closed.instruction, hinstruction, hparameter, ?_⟩
  intro heq
  exact absurd (hexact.mp heq) (by decide)

/-- Only the lines behind the blank ones have keywords. -/
theorem Source.keywordAt_atRollover {text : String} {line : Nat}
    {keyword : Keyword}
    (h : keywordAt (atRollover text) line = some keyword) :
    ∃ k, line = lineLimit - 2 + k + 1 ∧
      ((lines text).map keyword?)[k]? = some (some keyword) := by
  have hblank : keyword? "" = none := by decide +kernel
  rw [keywordAt, atRollover, lines_blankLines_append] at h
  rcases Nat.lt_or_ge (line - 1) (lineLimit - 2) with hlt | hge
  · rw [List.getElem?_append_left (by rwa [List.length_replicate]),
      List.getElem?_replicate, if_pos hlt, Option.bind_some, hblank] at h
    cases h
  · rw [List.getElem?_append_right (by rwa [List.length_replicate]),
      List.length_replicate] at h
    have hlimit : 2 < lineLimit := by decide
    obtain ⟨source, hsource, hkeyword⟩ := Option.bind_eq_some_iff.mp h
    refine ⟨line - 1 - (lineLimit - 2), by omega, ?_⟩
    rw [List.getElem?_map, hsource, Option.map_some, hkeyword]

/-- There is nothing between a line and the next one. -/
theorem Source.linesBetween_succ (text : String) (line : Nat) :
    linesBetween text line (line + 1) = [] :=
  List.drop_eq_nil_of_le (List.length_take_le line _)

/-- At the rollover the number of a `DO_LOOP` can be smaller than that of its
    `LOOP`, and then the jump has no length. -/
theorem not_forall_jump_length :
    ¬ ∀ (clock : Clock) (text : String) (program : Program),
      compile clock text = .ok program →
      ∀ i j, Partners program.brackets i j →
        ∃ first last closed,
          Source.keywordAt text first = some (.operation .loop) ∧
          Source.keywordAt text last = some (.operation .doLoop) ∧
          first < last ∧ program.instructions[j]? = some closed ∧
          closed.parameter.toNat + Source.slicesBetween text first last
            = j - i + Source.blanksBetween text first last := by
  intro hclaim
  have hevaluated : (compile ⟨40000000⟩
      (Source.atRollover "LOOP 2\nDO_LOOP")).toOption.map
        (fun program => (program.brackets, program.instructions))
        = some ([opening, closing], #[⟨.loop, 2⟩, ⟨.doLoop, 0⟩]) := by
    rw [compile, Assembly.compile, Assembly.compileLines_atRollover]
    decide +kernel
  obtain ⟨program, hprogram, hvalues⟩ := Option.map_eq_some_iff.mp hevaluated
  obtain ⟨hbrackets, hinstructions⟩ := Prod.mk.inj hvalues
  have hp : Partners program.brackets 0 1 := by
    rw [hbrackets]
    exact Partners.of_split (u := []) (r := []) .nil
  obtain ⟨first, last, closed, hfirst, hlast, -, hclosed, hlength⟩ :=
    hclaim _ _ program (except_eq_ok_of_toOption hprogram) 0 1 hp
  -- there is one `LOOP` and one `DO_LOOP`, on the next line
  have hkeywords : (Source.lines "LOOP 2\nDO_LOOP").map Source.keyword?
      = [some (.operation .loop), some (.operation .doLoop)] := by
    decide +kernel
  obtain ⟨k, hfirst, hloop⟩ := Source.keywordAt_atRollover hfirst
  obtain ⟨m, hlast, hdoLoop⟩ := Source.keywordAt_atRollover hlast
  rw [hkeywords] at hloop hdoLoop
  have hk : k = 0 := by
    rcases k with _ | _ | k
    · rfl
    · cases hloop
    · cases hloop
  have hm : m = 1 := by
    rcases m with _ | _ | m
    · cases hdoLoop
    · rfl
    · cases hdoLoop
  have hnext : last = first + 1 := by rw [hfirst, hlast, hk, hm]
  rw [hinstructions] at hclosed
  obtain rfl : ⟨.doLoop, 0⟩ = closed := Option.some.inj hclosed
  rw [hnext, Source.slicesBetween, Source.blanksBetween,
    Source.linesBetween_succ] at hlength
  exact absurd hlength (by decide)

end TimingScript
