import TimingScript.Proofs.Blame
import TimingScript.Proofs.Rollover

/-! # First errors — what follows a faulty line does not matter

    A run over lines stops at the first one without a yield, and that line
    is the one that the error names (`Yield.ofLines_eq_error`).  Nothing in
    front of it is at fault, and nothing behind it is looked at, so every
    text that begins with the same lines fails in the same way.

    Only a loop that is left open is found at the end of the text.  It
    never hides another error, because it is looked for after all lines had
    their yields. -/

namespace TimingScript

open Source (LineNumber)

namespace Yield

variable {clock : Clock}

/-- What follows a run that fails does not matter. -/
theorem ofLines_append_of_error {u : List (LineNumber × String)}
    {error : CompileError} :
    ∀ {loops : LoopStack}, ofLines clock loops u = .error error →
      ∀ v, ofLines clock loops (u ++ v) = .error error := by
  induction u with
  | nil => intro loops h; cases h
  | cons numbered rest ih =>
      intro loops h v
      obtain ⟨line, source⟩ := numbered
      rw [List.cons_append]
      rcases ofLines_cons_eq_error h with hy | ⟨y, next, hy, hrest⟩
      · exact ofLines_cons_of_error hy _
      · rw [ofLines_cons_of_ok hy, ih hrest v]
        rfl

/-- A run that fails stops at a line without a yield, and up to there it
    succeeds. -/
theorem ofLines_eq_error {lines : List (LineNumber × String)}
    {error : CompileError} :
    ∀ {loops : LoopStack}, ofLines clock loops lines = .error error →
      ∃ u line source v ys mid, lines = u ++ (line, source) :: v ∧
        ofLines clock loops u = .ok (ys, mid) ∧
        ofLine clock mid line source = .error error := by
  induction lines with
  | nil => intro loops h; cases h
  | cons numbered rest ih =>
      intro loops h
      obtain ⟨line, source⟩ := numbered
      rcases ofLines_cons_eq_error h with hy | ⟨y, next, hy, hrest⟩
      · exact ⟨[], line, source, rest, [], loops, rfl, rfl, hy⟩
      · obtain ⟨u, l, s, v, ys, mid, rfl, hu, hl⟩ := ih hrest
        refine ⟨(line, source) :: u, l, s, v, y :: ys, mid, rfl, ?_, hl⟩
        rw [ofLines_cons_of_ok hy, hu]
        rfl

end Yield

/-! ## Texts -/

/-- The text compiles, or all that is wrong with it is that it leaves a
    loop open. -/
def SoundLines (clock : Clock) (text : String) : Prop :=
  ∀ error, compile clock text = .error error → error.fault = .loopLeftOpen

section

variable {clock : Clock} {text : String}

/-- The lines of a text are sound if they have yields. -/
theorem SoundLines.of_ofLines {ys : List Yield} {loops : LoopStack}
    (h : Yield.ofLines clock .empty (Source.numberedLines text)
      = .ok (ys, loops)) : SoundLines clock text := by
  intro error herror
  cases hl : loops.innermost? with
  | none =>
      rw [compile_of_closed h hl] at herror
      cases herror
  | some line =>
      rw [compile_of_open h hl] at herror
      rw [← Except.error.inj herror]

/-- No error of a run says that a loop is left open. -/
theorem Yield.fault_of_ofLines {loops : LoopStack}
    {lines : List (LineNumber × String)} {error : CompileError}
    (h : ofLines clock loops lines = .error error) :
    error.fault ≠ .loopLeftOpen := by
  obtain ⟨_, line, source, _, _, mid, -, -, hline⟩ := ofLines_eq_error h
  exact (ofLine_failsOn clock mid line source error hline).2

/-- The lines of a text have yields exactly if they are sound. -/
theorem soundLines_iff :
    SoundLines clock text ↔ ∃ ys loops,
      Yield.ofLines clock .empty (Source.numberedLines text)
        = .ok (ys, loops) := by
  constructor
  · intro hsound
    cases hy : Yield.ofLines clock .empty (Source.numberedLines text) with
    | ok found => exact ⟨found.1, found.2, rfl⟩
    | error error =>
        have hfault := hsound error (compile_of_error hy)
        exact absurd hfault (Yield.fault_of_ofLines hy)
  · rintro ⟨ys, loops, h⟩
    exact .of_ofLines h

/-- The first lines of sound lines are sound. -/
theorem SoundLines.front (h : SoundLines clock text) {front : String}
    (hfront : Source.lines front <+: Source.lines text) :
    SoundLines clock front := by
  obtain ⟨ys, loops, hy⟩ := soundLines_iff.mp h
  have hlines := Source.numberedLines_of_lines_eq_take
    (List.prefix_iff_eq_take.mp hfront)
  rw [← List.take_append_drop (Source.lines front).length
    (Source.numberedLines text), ← hlines] at hy
  obtain ⟨zs, mid, -, hzs, -⟩ := Yield.ofLines_append_eq_ok hy
  exact soundLines_iff.mpr ⟨zs, mid, hzs⟩

/-- An error other than a loop left open is that of a line, and names the
    number of its place. -/
theorem exists_faulty_line {error : CompileError}
    (h : compile clock text = .error error)
    (hfault : error.fault ≠ .loopLeftOpen) :
    ∃ u source v ys mid,
      Source.numberedLines text = u ++ (error.line, source) :: v ∧
      error.line = Source.numberAt u.length ∧
      Yield.ofLines clock .empty u = .ok (ys, mid) ∧
      Yield.ofLine clock mid error.line source = .error error := by
  cases hy : Yield.ofLines clock .empty (Source.numberedLines text) with
  | ok found =>
      exact absurd (SoundLines.of_ofLines hy error h) hfault
  | error e =>
      rw [compile_of_error hy] at h
      obtain rfl := Except.error.inj h
      obtain ⟨u, line, source, v, ys, mid, hsplit, hu, hline⟩ :=
        Yield.ofLines_eq_error hy
      obtain ⟨rfl, -⟩ := Yield.ofLine_failsOn clock mid line source e hline
      refine ⟨u, source, v, ys, mid, hsplit, ?_, hu, hline⟩
      -- the line at the place `u.length` has the next number
      have hat := Source.getElem?_numberedLines text u.length
      rw [hsplit, List.getElem?_append_right (Nat.le_refl _),
        Nat.sub_self, List.getElem?_cons_zero] at hat
      obtain ⟨_, -, hpair⟩ := Option.map_eq_some_iff.mp hat.symm
      exact (congrArg Prod.fst hpair).symm

/-- **The first error wins.**  An error other than a loop left open names
    the n-th line of the text; the lines in front of it are sound, and every
    text with the same lines up to there fails with the same error, whatever
    follows.  Where a loop is left open, all first lines of the text are
    sound. -/
theorem compile_first_error {error : CompileError}
    (h : compile clock text = .error error) :
    (error.fault ≠ .loopLeftOpen → ∃ n,
      (1 ≤ n ∧ n ≤ (Source.lines text).length) ∧
      error.line = n % Source.lineLimit ∧
      (∃ front, Source.lines front = (Source.lines text).take (n - 1)) ∧
      (∀ front, Source.lines front = (Source.lines text).take (n - 1) →
        SoundLines clock front) ∧
      ∀ other, (Source.lines other).take n = (Source.lines text).take n →
        compile clock other = .error error) ∧
    (error.fault = .loopLeftOpen →
      ∀ front, Source.lines front <+: Source.lines text →
        SoundLines clock front) := by
  refine ⟨fun hfault => ?_, fun hopen front hfront => ?_⟩
  · obtain ⟨u, source, v, ys, mid, hsplit, hplace, hu, hline⟩ :=
      exists_faulty_line h hfault
    refine ⟨u.length + 1, ⟨Nat.le_add_left 1 u.length, ?_⟩, hplace,
      Source.exists_lines_eq_take text _, ?_, ?_⟩
    · rw [← Source.length_numberedLines, hsplit, List.length_append]
      exact Nat.add_le_add_left (Nat.le_add_left 1 v.length) u.length
    · intro front hfront
      have hnumbered : Source.numberedLines front = u := by
        rw [Source.numberedLines_of_lines_eq_take hfront, hsplit,
          Nat.add_sub_cancel, List.take_left]
      rw [← hnumbered] at hu
      exact .of_ofLines hu
    · intro other hother
      have hsame := Source.take_numberedLines_congr hother
      rw [hsplit, List.take_length_add_append, List.take_succ_cons,
        List.take_zero] at hsame
      apply compile_of_error
      rw [← List.take_append_drop (u.length + 1)
        (Source.numberedLines other), hsame]
      refine Yield.ofLines_append_of_error ?_ _
      rw [Yield.ofLines_append_of_ok _ hu, Yield.ofLines_cons_of_error hline]
      rfl
  · refine SoundLines.front ?_ hfront
    intro e he
    rw [h] at he
    rw [← Except.error.inj he]
    exact hopen

end

/-- A `DO_LOOP` too many on the third line, in front of a line that cannot
    be read, and a loop that is left open. -/
theorem compile_first_error_third_line :
    SoundLines ⟨40000000⟩ "LOOP 2\nDO_LOOP" ∧
    compile ⟨40000000⟩ "LOOP 2\r\nDO_LOOP\r\nDO_LOOP\r\nSTART 0\r\n"
      = .error ⟨3, .nothingToClose⟩ ∧
    SoundLines ⟨40000000⟩ "LOOP 2\nDO_LOOP\nLOOP 3\n" := by
  have hclosed : compile ⟨40000000⟩ "LOOP 2\nDO_LOOP\nDO_LOOP\nEND /"
      = .error ⟨3, .nothingToClose⟩ := by
    decide +kernel
  have hopen : compile ⟨40000000⟩ "LOOP 2\nDO_LOOP\nLOOP 3\n\nSTART 1"
      = .error ⟨3, .loopLeftOpen⟩ := by
    decide +kernel
  obtain ⟨n, ⟨-, hle⟩, hline, -, hfront, hsame⟩ :=
    (compile_first_error hclosed).1 (by decide)
  -- there are only four lines, so their numbers are their places
  have hlines : (Source.lines "LOOP 2\nDO_LOOP\nDO_LOOP\nEND /").length = 4 := by
    decide +kernel
  rw [hlines] at hle
  have hlimit : n < Source.lineLimit := Nat.lt_of_le_of_lt hle (by decide)
  obtain rfl : 3 = n := hline.trans (Nat.mod_eq_of_lt hlimit)
  refine ⟨hfront _ (by decide +kernel), hsame _ (by decide +kernel), ?_⟩
  exact (compile_first_error hopen).2 rfl _ (by decide +kernel)

/-- At the rollover an error of the second line is reported of line 0. -/
theorem not_forall_error_on_line :
    ¬ ∀ (clock : Clock) (text : String) (error : CompileError),
      compile clock text = .error error → error.fault ≠ .loopLeftOpen →
      1 ≤ error.line ∧ error.line ≤ (Source.lines text).length := by
  intro hclaim
  have herror : compile ⟨40000000⟩ (Source.atRollover "NOOP\nFOO")
      = .error ⟨0, .unknownInstruction "FOO"⟩ := by
    rw [compile, Assembly.compile, Assembly.compileLines_atRollover]
    decide +kernel
  obtain ⟨hone, -⟩ := hclaim _ _ _ herror (by decide)
  exact absurd hone (by decide)

end TimingScript
