import TimingScript.Proofs.Lines
import TimingScript.Proofs.Nesting
import Mathlib.Data.Nat.Find

/-! # Verdicts — which texts nest their loops, and what is said of others

    For a text whose lines all read well, only the nesting of its loops
    is left to fail.  It is judged here by counting alone: `WellNested`
    compares how many lines begin with `LOOP` and with `DO_LOOP`, a
    `Breach` is a place at which the counts go wrong, and `NestingError`
    is the error that the text deserves.  A compilation agrees with the
    counts, since behind each line the length of the stack is the
    difference of the two. -/

namespace TimingScript

open Source (LineNumber)
open TimingScript.Bracket

/-! ## Counting -/

namespace Source

/-- Whether a line begins with a given operation. -/
def beginsWith (opcode : Opcode) (source : String) : Bool :=
  decide (keyword? source = some (.operation opcode))

/-- How many lines begin with a given operation. -/
def count (opcode : Opcode) (lines : List String) : Nat :=
  lines.countP (beginsWith opcode)

/-- Loops are closed after they were opened, all of them before an `END`
    and before the text ends. -/
structure WellNested (lines : List String) : Prop where
  closed : ∀ k, count .doLoop (lines.take k) ≤ count .loop (lines.take k)
  ended : ∀ k source, lines[k]? = some source →
    keyword? source = some (.operation .endProgram) →
    count .loop (lines.take k) = count .doLoop (lines.take k)
  total : count .loop lines = count .doLoop lines

/-- At the place `k`, counted from zero, there is a `DO_LOOP` with no loop
    open in front of it, or an `END` with one. -/
inductive Breach (lines : List String) (k : Nat) : CompileError → Prop where
  | nothingToClose {source : String} : lines[k]? = some source →
      keyword? source = some (.operation .doLoop) →
      count .loop (lines.take k) = count .doLoop (lines.take k) →
      Breach lines k ⟨numberAt k, .nothingToClose⟩
  | endInsideLoop {source : String} : lines[k]? = some source →
      keyword? source = some (.operation .endProgram) →
      count .doLoop (lines.take k) < count .loop (lines.take k) →
      Breach lines k ⟨numberAt k, .endInsideLoop⟩

/-- What is wrong with the loops of a text: its first breach, or, if it has
    none, the last loop that is not closed. -/
inductive NestingError (lines : List String) : CompileError → Prop where
  | breach {k : Nat} {error : CompileError} : Breach lines k error →
      (∀ m < k, ∀ e, ¬ Breach lines m e) → NestingError lines error
  | leftOpen {k : Nat} : (∀ m e, ¬ Breach lines m e) →
      LastUnmatched (lines.map bracket) k →
      NestingError lines ⟨numberAt k, .loopLeftOpen⟩

/-- Counting openings is counting `LOOP`. -/
theorem count_opening (lines : List String) :
    (lines.map bracket).count opening = count .loop lines := by
  rw [List.count_eq_countP, List.countP_map, count]
  refine List.countP_congr fun source _ => ?_
  simp [beginsWith, bracket_eq_opening]

/-- Counting closing brackets is counting `DO_LOOP`. -/
theorem count_closing (lines : List String) :
    (lines.map bracket).count closing = count .doLoop lines := by
  rw [List.count_eq_countP, List.countP_map, count]
  refine List.countP_congr fun source _ => ?_
  simp [beginsWith, bracket_eq_closing]

/-- One line more counts for the operation that it begins with. -/
theorem count_take_succ {lines : List String} {k : Nat} {source : String}
    (hat : lines[k]? = some source) (opcode : Opcode) :
    count opcode (lines.take (k + 1))
      = count opcode (lines.take k)
        + if beginsWith opcode source then 1 else 0 := by
  rw [List.take_add_one, hat, count, List.countP_append, count,
    Option.toList_some, List.countP_singleton]

/-- There is no breach, or there is a first one. -/
theorem exists_first_breach (lines : List String) :
    (∀ m e, ¬ Breach lines m e) ∨
      ∃ k error, Breach lines k error ∧ ∀ m < k, ∀ e, ¬ Breach lines m e := by
  by_cases h : ∃ k error, Breach lines k error
  · right
    classical
    obtain ⟨error, hb⟩ := Nat.find_spec h
    refine ⟨Nat.find h, error, hb, ?_⟩
    intro m hm e he
    exact Nat.find_min h hm ⟨e, he⟩
  · left
    intro m e he
    exact h ⟨m, e, he⟩

/-- Well nested lines have no breach. -/
theorem WellNested.not_breach {lines : List String} (h : WellNested lines)
    (k : Nat) (error : CompileError) : ¬ Breach lines k error := by
  intro hb
  cases hb with
  | nothingToClose hat hk heq =>
      have hle := h.closed (k + 1)
      have hcloses : beginsWith .doLoop _ = true := decide_eq_true hk
      have hopens : beginsWith .loop _ = false :=
        decide_eq_false (by rw [hk]; decide)
      rw [count_take_succ hat, count_take_succ hat, hcloses, hopens, heq,
        if_pos rfl, if_neg Bool.false_ne_true] at hle
      exact absurd hle (Nat.not_succ_le_self _)
  | endInsideLoop hat hk hlt =>
      have heq := h.ended k _ hat hk
      omega

end Source

/-! ## The open loops behind a part of a text -/

/-- The first `k` lines of a text leave the given loops open. -/
def LoopStack.LeftBy (text : String) (k : Nat) (loops : LoopStack) : Prop :=
  Tracks (fun numbered : LineNumber × String => Source.bracket numbered.2)
    Prod.fst ((Source.numberedLines text).take k) loops

namespace LoopStack

variable {text : String} {k : Nat} {loops : LoopStack}

/-- The brackets of numbered lines are those of the lines. -/
theorem map_bracket_take (text : String) (k : Nat) :
    ((Source.numberedLines text).take k).map
        (fun numbered => Source.bracket numbered.2)
      = ((Source.lines text).take k).map Source.bracket := by
  rw [← Source.map_snd_numberedLines, ← List.map_take, List.map_map]
  rfl

/-- As many loops are open as the counts differ by. -/
theorem LeftBy.count_eq (h : LeftBy text k loops) :
    Source.count .loop ((Source.lines text).take k)
      = Source.count .doLoop ((Source.lines text).take k)
        + loops.lines.length := by
  have hcount := Tracks.count_eq h
  rw [map_bracket_take, Source.count_opening, Source.count_closing] at hcount
  exact hcount

/-- A line is blocked by the loops in front of it exactly where the counts
    are breached. -/
theorem LeftBy.blocked_iff (h : LeftBy text k loops) {source : String}
    (hat : (Source.lines text)[k]? = some source) {error : CompileError} :
    loops.Blocked (Source.numberAt k) source error
      ↔ Source.Breach (Source.lines text) k error := by
  have hcount := h.count_eq
  constructor
  · intro hb
    cases hb with
    | nothingToClose hk hempty =>
        rw [hempty] at hcount
        exact .nothingToClose hat hk hcount
    | endInsideLoop hk hopen =>
        have hpos := List.length_pos_iff.mpr hopen
        exact .endInsideLoop hat hk (by omega)
  · intro hb
    cases hb with
    | nothingToClose hat' hk heq =>
        obtain rfl := Option.some.inj (hat.symm.trans hat')
        refine .nothingToClose hk ?_
        exact List.length_eq_zero_iff.mp (by omega)
    | endInsideLoop hat' hk hlt =>
        obtain rfl := Option.some.inj (hat.symm.trans hat')
        refine .endInsideLoop hk ?_
        exact List.length_pos_iff.mp (by omega)

/-- Behind the whole text the counts are those of all lines. -/
theorem LeftBy.count_eq_of_all
    (h : LeftBy text (Source.lines text).length loops) :
    Source.count .loop (Source.lines text)
      = Source.count .doLoop (Source.lines text) + loops.lines.length := by
  have hcount := h.count_eq
  rw [List.take_length] at hcount
  exact hcount

/-- A text that leaves no loop open has balanced brackets. -/
theorem LeftBy.balanced
    (h : LeftBy text (Source.lines text).length empty) :
    Balanced ((Source.lines text).map Source.bracket) := by
  have hbal := Tracks.balanced h
  rw [map_bracket_take, List.take_length] at hbal
  exact hbal

/-- The innermost loop that a text leaves open is the last one that nothing
    in it closes. -/
theorem LeftBy.lastUnmatched {opened : LineNumber} {rest : List LineNumber}
    (h : LeftBy text (Source.lines text).length ⟨opened :: rest⟩) :
    ∃ k, opened = Source.numberAt k ∧
      LastUnmatched ((Source.lines text).map Source.bracket) k := by
  rw [LeftBy, ← Source.length_numberedLines, List.take_length] at h
  obtain ⟨u, ⟨line, source⟩, v, hw, rfl, ha, hv⟩ := h.split
  have hat : (Source.numberedLines text)[u.length]? = some (line, source) := by
    rw [hw]
    simp
  rw [Source.getElem?_numberedLines] at hat
  obtain ⟨s, -, hpair⟩ := Option.map_eq_some_iff.mp hat
  obtain ⟨hline, -⟩ := Prod.mk.inj hpair
  refine ⟨u.length, hline.symm, ?_⟩
  have hlast := LastUnmatched.of_split
    (u := u.map fun numbered => Source.bracket numbered.2) hv
  have hbrackets := congrArg
    (List.map fun numbered => Source.bracket numbered.2) hw
  rw [List.map_append, List.map_cons, ha] at hbrackets
  rw [← hbrackets, List.length_map] at hlast
  rw [← Source.map_snd_numberedLines, List.map_map]
  exact hlast

end LoopStack

/-! ## Runs over texts that read well -/

section

variable {text : String} (clock : Clock)
  (hacc : ∀ numbered ∈ Source.numberedLines text,
    Source.Acceptable numbered.1 numbered.2)

include hacc

/-- As far as there is no breach, lines have yields. -/
theorem Yield.exists_ofLines_take {k : Nat}
    (hk : ∀ m < k, ∀ e, ¬ Source.Breach (Source.lines text) m e) :
    ∃ ys loops, ofLines clock .empty ((Source.numberedLines text).take k)
        = .ok (ys, loops) ∧ LoopStack.LeftBy text k loops := by
  induction k with
  | zero => exact ⟨[], .empty, rfl, LoopStack.Tracks.nil⟩
  | succ k ih =>
      obtain ⟨ys, loops, hrun, hleft⟩ :=
        ih fun m hm => hk m (Nat.lt_succ_of_lt hm)
      have htake := List.take_add_one (l := Source.numberedLines text) (i := k)
      cases hat : (Source.numberedLines text)[k]? with
      | none =>
          rw [hat, Option.toList_none, List.append_nil] at htake
          refine ⟨ys, loops, ?_, ?_⟩
          · rw [htake]
            exact hrun
          · rw [LoopStack.LeftBy, htake]
            exact hleft
      | some numbered =>
          rw [hat, Option.toList_some] at htake
          obtain ⟨source, hsource, rfl⟩ := Option.map_eq_some_iff.mp
            ((Source.getElem?_numberedLines text k).symm.trans hat)
          have hread := hacc _ (List.mem_of_getElem? hat)
          cases hy : ofLine clock loops (Source.numberAt k) source with
          | error e =>
              -- what blocks the line is a breach at `k`
              have hb := (ofLine_eq_error_iff hread).mp hy
              exact absurd ((hleft.blocked_iff hsource).mp hb)
                (hk k (Nat.lt_succ_self k) e)
          | ok found =>
              obtain ⟨y, next⟩ := found
              refine ⟨ys ++ [y], next, ?_, ?_⟩
              · rw [htake, ofLines_append_of_ok _ hrun, ofLines_cons_of_ok hy]
                rfl
              · rw [LoopStack.LeftBy, htake]
                exact LoopStack.Tracks.snoc hleft (ofLine_eq_ok hy).follows

/-- The first breach is the error of a run. -/
theorem Yield.ofLines_of_breach {k : Nat} {error : CompileError}
    (hb : Source.Breach (Source.lines text) k error)
    (hfirst : ∀ m < k, ∀ e, ¬ Source.Breach (Source.lines text) m e) :
    ofLines clock .empty (Source.numberedLines text) = .error error := by
  obtain ⟨ys, loops, hrun, hleft⟩ := exists_ofLines_take clock hacc hfirst
  obtain ⟨source, hat⟩ : ∃ source, (Source.lines text)[k]? = some source := by
    cases hb with
    | nothingToClose hat _ _ => exact ⟨_, hat⟩
    | endInsideLoop hat _ _ => exact ⟨_, hat⟩
  have hnumbered := Source.getElem?_numberedLines text k
  rw [hat, Option.map_some] at hnumbered
  have hread := hacc _ (List.mem_of_getElem? hnumbered)
  have hline : ofLine clock loops (Source.numberAt k) source
      = .error error :=
    (ofLine_eq_error_iff hread).mpr ((hleft.blocked_iff hat).mpr hb)
  rw [split_at hnumbered, ofLines_append_of_ok _ hrun,
    ofLines_cons_of_error hline]
  rfl

/-- A text without a breach has yields for all of its lines. -/
theorem Yield.exists_ofLines
    (hno : ∀ m e, ¬ Source.Breach (Source.lines text) m e) :
    ∃ ys loops, ofLines clock .empty (Source.numberedLines text)
        = .ok (ys, loops) ∧
      LoopStack.LeftBy text (Source.lines text).length loops := by
  have h := exists_ofLines_take clock hacc
    (k := (Source.lines text).length) fun m _ => hno m
  rw [← Source.length_numberedLines, List.take_length] at h
  rw [← Source.length_numberedLines]
  exact h

/-- A text that reads well compiles if its loops are well nested, and only
    then. -/
theorem exists_compile_iff :
    (∃ program, compile clock text = .ok program)
      ↔ Source.WellNested (Source.lines text) := by
  constructor
  · rintro ⟨program, h⟩
    rcases Source.exists_first_breach (Source.lines text) with
      hno | ⟨k, e, hb, hfirst⟩
    · refine ⟨?_, ?_, ?_⟩
      · intro k
        obtain ⟨_, loops, -, hleft⟩ :=
          Yield.exists_ofLines_take clock hacc (k := k) fun m _ => hno m
        exact Nat.le.intro hleft.count_eq.symm
      · intro k source hat hk
        obtain ⟨_, loops, -, hleft⟩ :=
          Yield.exists_ofLines_take clock hacc (k := k) fun m _ => hno m
        have hcount := hleft.count_eq
        -- a loop that is open here would be a breach
        rcases Nat.lt_or_ge (Source.count .doLoop ((Source.lines text).take k))
          (Source.count .loop ((Source.lines text).take k)) with hlt | hge
        · exact absurd (Source.Breach.endInsideLoop hat hk hlt) (hno k _)
        · omega
      · obtain ⟨ys, ⟨lines⟩, hrun, hleft⟩ :=
          Yield.exists_ofLines clock hacc hno
        cases lines with
        | nil => exact hleft.count_eq_of_all
        | cons opened rest =>
            rw [compile_of_open hrun rfl] at h
            cases h
    · rw [compile_of_error (Yield.ofLines_of_breach clock hacc hb hfirst)] at h
      cases h
  · intro hnested
    obtain ⟨ys, ⟨lines⟩, hrun, hleft⟩ :=
      Yield.exists_ofLines clock hacc hnested.not_breach
    have hcount := hleft.count_eq_of_all
    rw [hnested.total] at hcount
    obtain rfl : lines = [] :=
      List.length_eq_zero_iff.mp (Nat.left_eq_add.mp hcount)
    exact ⟨_, compile_of_closed hrun rfl⟩

/-- A text that reads well fails with what is wrong with its loops. -/
theorem compile_eq_error_iff (error : CompileError) :
    compile clock text = .error error
      ↔ Source.NestingError (Source.lines text) error := by
  constructor
  · intro h
    rcases Source.exists_first_breach (Source.lines text) with
      hno | ⟨k, e, hb, hfirst⟩
    · obtain ⟨ys, ⟨lines⟩, hrun, hleft⟩ := Yield.exists_ofLines clock hacc hno
      cases lines with
      | nil =>
          rw [compile_of_closed hrun rfl] at h
          cases h
      | cons opened rest =>
          rw [compile_of_open hrun rfl] at h
          obtain rfl := Except.error.inj h
          obtain ⟨k, rfl, hlast⟩ := hleft.lastUnmatched
          exact .leftOpen hno hlast
    · rw [compile_of_error (Yield.ofLines_of_breach clock hacc hb hfirst)] at h
      obtain rfl := Except.error.inj h
      exact .breach hb hfirst
  · intro h
    cases h with
    | breach hb hfirst =>
        exact compile_of_error (Yield.ofLines_of_breach clock hacc hb hfirst)
    | @leftOpen k hno hlast =>
        obtain ⟨ys, ⟨lines⟩, hrun, hleft⟩ :=
          Yield.exists_ofLines clock hacc hno
        cases lines with
        | nil =>
            -- in a balanced word nothing is left without a partner
            obtain ⟨j, hj⟩ := hleft.balanced.exists_partner hlast.opens
            exact absurd hj (hlast.unmatched j)
        | cons opened rest =>
            obtain ⟨k', rfl, hlast'⟩ := hleft.lastUnmatched
            obtain rfl := hlast.unique hlast'
            exact compile_of_open hrun rfl

/-- **The verdict on a text that reads well.**  It compiles exactly if its
    loops are well nested, and fails exactly with its nesting error. -/
theorem compile_verdict :
    ((∃ program, compile clock text = .ok program)
        ↔ Source.WellNested (Source.lines text)) ∧
      ∀ error, compile clock text = .error error
        ↔ Source.NestingError (Source.lines text) error :=
  ⟨exists_compile_iff clock hacc, compile_eq_error_iff clock hacc⟩

end

/-- An `END` in a loop is the first breach, although the loop is closed
    behind it. -/
theorem compile_verdict_end_in_loop :
    compile ⟨1000000000⟩ "LOOP 2\nEND\nDO_LOOP"
      = .error ⟨2, .endInsideLoop⟩ := by
  refine ((compile_verdict ⟨1000000000⟩
    (by decide +kernel)).2 ⟨2, .endInsideLoop⟩).mpr ?_
  have hend : (Source.lines "LOOP 2\nEND\nDO_LOOP")[1]? = some "END" := by
    decide +kernel
  have hloop : (Source.lines "LOOP 2\nEND\nDO_LOOP")[0]? = some "LOOP 2" := by
    decide +kernel
  have hkeyword : Source.keyword? "LOOP 2" = some (.operation .loop) := by
    decide +kernel
  refine .breach
    (.endInsideLoop hend (by decide +kernel) (by decide +kernel)) ?_
  intro m hm e hb
  obtain rfl : m = 0 := Nat.lt_one_iff.mp hm
  cases hb with
  | nothingToClose hat hk _ =>
      rw [← Option.some.inj (hloop.symm.trans hat), hkeyword] at hk
      cases hk
  | endInsideLoop hat hk _ =>
      rw [← Option.some.inj (hloop.symm.trans hat), hkeyword] at hk
      cases hk

end TimingScript
