import TimingScript.Proofs.Attribution

/-! # Locality — an edit of one line stays on that line

    Lines know of each other only through the open loops, and these change
    by the bracket that a line stands for.  If a line is replaced by another
    one with the same bracket, the same loops are open behind it, so all
    lines behind it have the same yields as before, and those in front of it
    are not affected anyway.  What is on the line itself may change freely:
    it can become longer by instructions or lose all of them, and no jump
    over it is the longer for it, since jumps count lines. -/

namespace TimingScript

open Source (LineNumber)
open TimingScript.Bracket

/-! ## Edits -/

namespace Source

/-- The texts have the same lines but for the one that is given, counted
    from one. -/
structure EditedAt (line : Nat) (text other : String) : Prop where
  length : (lines text).length = (lines other).length
  front : (lines text).take (line - 1) = (lines other).take (line - 1)
  back : (lines text).drop line = (lines other).drop line

instance (line : Nat) (text other : String) :
    Decidable (EditedAt line text other) :=
  decidable_of_iff
    ((lines text).length = (lines other).length ∧
      (lines text).take (line - 1) = (lines other).take (line - 1) ∧
      (lines text).drop line = (lines other).drop line)
    ⟨fun ⟨hl, hf, hb⟩ => ⟨hl, hf, hb⟩, fun ⟨hl, hf, hb⟩ => ⟨hl, hf, hb⟩⟩

/-- What is edited is one numbered line, if there is such a line. -/
theorem EditedAt.split {line : Nat} {text other : String}
    (h : EditedAt line text other) :
    numberedLines text = numberedLines other ∨
      ∃ u source edited v,
        (lines text)[line - 1]? = some source ∧
        (lines other)[line - 1]? = some edited ∧
        numberedLines text = u ++ (numberAt (line - 1), source) :: v ∧
        numberedLines other = u ++ (numberAt (line - 1), edited) :: v := by
  have hfront := take_numberedLines_congr h.front
  have hback := drop_numberedLines_congr h.back
  cases line with
  | zero => exact .inl hback
  | succ k =>
      rw [Nat.succ_sub_one] at hfront ⊢
      rcases Nat.lt_or_ge k (lines text).length with hlt | hge
      · right
        have hlt' : k < (lines other).length := h.length ▸ hlt
        have htext := getElem?_numberedLines text k
        have hother := getElem?_numberedLines other k
        rw [List.getElem?_eq_getElem hlt] at htext
        rw [List.getElem?_eq_getElem hlt'] at hother
        refine ⟨(numberedLines text).take k, (lines text)[k],
          (lines other)[k], (numberedLines text).drop (k + 1),
          List.getElem?_eq_getElem hlt, List.getElem?_eq_getElem hlt',
          split_at htext, ?_⟩
        rw [hfront, hback]
        exact split_at hother
      · left
        -- there is no such line, so the lines in front are all lines
        have hall : ∀ {t : String}, (lines t).length ≤ k →
            (numberedLines t).take k = numberedLines t := by
          intro t hle
          rw [← length_numberedLines] at hle
          exact List.take_of_length_le hle
        rw [← hall hge, hfront, hall (h.length ▸ hge)]

/-- Lines that agree on whether they begin with `LOOP`, and on whether they
    begin with `DO_LOOP`, have the same bracket. -/
theorem bracket_congr {source other : String}
    (hloop : firstWord? source = some "LOOP"
      ↔ firstWord? other = some "LOOP")
    (hdoLoop : firstWord? source = some "DO_LOOP"
      ↔ firstWord? other = some "DO_LOOP") :
    bracket source = bracket other := by
  have hopens : ∀ s : String,
      firstWord? s = some "LOOP" ↔ bracket s = opening := fun s =>
    (firstWord?_eq_text_iff s (.operation .loop)).trans
      bracket_eq_opening.symm
  have hcloses : ∀ s : String,
      firstWord? s = some "DO_LOOP" ↔ bracket s = closing := fun s =>
    (firstWord?_eq_text_iff s (.operation .doLoop)).trans
      bracket_eq_closing.symm
  rw [hopens, hopens] at hloop
  rw [hcloses, hcloses] at hdoLoop
  cases hs : bracket source with
  | opening => exact (hloop.mp hs).symm
  | closing => exact (hdoLoop.mp hs).symm
  | plain =>
      cases ho : bracket other with
      | opening => rw [hloop.mpr ho] at hs; cases hs
      | closing => rw [hdoLoop.mpr ho] at hs; cases hs
      | plain => rfl

end Source

/-- A bracket leaves one stack of open loops behind. -/
theorem LoopStack.Follows.unique {line : LineNumber} {b : Bracket}
    {loops next other : LoopStack} (h : Follows line b loops next)
    (h' : Follows line b loops other) : next = other := by
  cases h with
  | opens => cases h'; rfl
  | closes => cases h'; rfl
  | keeps => cases h'; rfl

/-! ## What stands elsewhere -/

namespace Yield

/-- The rows and warnings that do not stand on a line. -/
def elsewhere (line : LineNumber) (y : Yield) : Yield :=
  ⟨y.rows.filter fun row => row.line ≠ line,
    y.warnings.filter fun warning => warning.line ≠ line⟩

/-- What stands elsewhere is in both parts. -/
theorem elsewhere_append (line : LineNumber) (y z : Yield) :
    elsewhere line (y.append z)
      = (elsewhere line y).append (elsewhere line z) := by
  rw [elsewhere, append, List.filter_append, List.filter_append]
  rfl

variable {clock : Clock} {line : LineNumber} {source edited : String}

/-- All that is in a yield is on a line with the given number. -/
structure StandsOn (line : LineNumber) (y : Yield) : Prop where
  rows : ∀ row ∈ y.rows, row.line = line
  warnings : ∀ warning ∈ y.warnings, warning.line = line

/-- What a line yields stands on it. -/
theorem standsOn_of_ofLine {loops next : LoopStack} {y : Yield}
    (h : ofLine clock loops line source = .ok (y, next)) :
    y.StandsOn line where
  rows := (ofLine_eq_ok h).line_eq
  warnings := (areAbout_of_ofLine h).line

/-- Nothing that stands on a line stands elsewhere. -/
theorem StandsOn.elsewhere_eq {y : Yield} (h : y.StandsOn line) :
    elsewhere line y = empty := by
  have hrows : (y.rows.filter fun row => row.line ≠ line) = [] := by
    refine List.filter_eq_nil_iff.mpr fun row hrow => ?_
    rw [h.rows row hrow]
    simp
  have hwarnings :
      (y.warnings.filter fun warning => warning.line ≠ line) = [] := by
    refine List.filter_eq_nil_iff.mpr fun warning hw => ?_
    rw [h.warnings warning hw]
    simp
  rw [elsewhere, hrows, hwarnings]
  rfl

/-- The yields differ in a part only that stands on the given line. -/
def DiffersOn (line : LineNumber) (y z : Yield) : Prop :=
  ∃ front mid mid' back : Yield, mid.StandsOn line ∧ mid'.StandsOn line ∧
    y = front.append (mid.append back) ∧
    z = front.append (mid'.append back)

/-- Yields that differ on a line are the same elsewhere. -/
theorem DiffersOn.elsewhere_eq {y z : Yield} (h : DiffersOn line y z) :
    elsewhere line y = elsewhere line z := by
  obtain ⟨front, mid, mid', back, hmid, hmid', rfl, rfl⟩ := h
  rw [elsewhere_append, elsewhere_append, elsewhere_append, elsewhere_append,
    hmid.elsewhere_eq, hmid'.elsewhere_eq]

/-- Two runs over the same lines but for one, which has the same bracket in
    both, leave the same loops open and differ on that line only. -/
theorem differsOn_of_edited {loops last last' : LoopStack}
    {u v : List (LineNumber × String)} {ys zs : List Yield}
    (hb : Source.bracket source = Source.bracket edited)
    (hy : ofLines clock loops (u ++ (line, source) :: v) = .ok (ys, last))
    (hz : ofLines clock loops (u ++ (line, edited) :: v) = .ok (zs, last')) :
    last = last' ∧ DiffersOn line (join ys) (join zs) := by
  obtain ⟨front, mid, ys', hfront, hys, rfl⟩ := ofLines_append_eq_ok hy
  obtain ⟨front', mid', zs', hfront', hzs, rfl⟩ := ofLines_append_eq_ok hz
  obtain ⟨rfl, rfl⟩ :=
    Prod.mk.inj (Except.ok.inj (hfront.symm.trans hfront'))
  obtain ⟨y, next, back, hyline, hback, rfl⟩ := ofLines_cons_eq_ok hys
  obtain ⟨z, next', back', hzline, hback', rfl⟩ := ofLines_cons_eq_ok hzs
  -- the line leaves the same loops open, whatever it says
  have hfollows := (ofLine_eq_ok hyline).follows
  rw [hb] at hfollows
  obtain rfl := hfollows.unique (ofLine_eq_ok hzline).follows
  obtain ⟨rfl, rfl⟩ := Prod.mk.inj (Except.ok.inj (hback.symm.trans hback'))
  refine ⟨rfl, join front, y, z, join back, standsOn_of_ofLine hyline,
    standsOn_of_ofLine hzline, ?_, ?_⟩
  · rw [join_append, join_cons]
  · rw [join_append, join_cons]

end Yield

/-! ## Programs -/

/-- The programs have the same rows and the same warnings, in the same
    order, on all lines that do not have the given number. -/
structure Program.AgreesOff (line : LineNumber) (program other : Program) :
    Prop where
  listing : (program.listing.filter fun row => row.line ≠ line)
    = other.listing.filter fun row => row.line ≠ line
  warnings : (program.warnings.filter fun warning => warning.line ≠ line)
    = other.warnings.filter fun warning => warning.line ≠ line

/-- The programs are the same in front of a part that stands on the given
    line, and the same behind it. -/
def Program.AgreesAround (line : LineNumber) (program other : Program) :
    Prop :=
  ∃ y z : Yield, y.DiffersOn line z ∧ program = y.program ∧
    other = z.program

/-- Programs that agree around a line agree off it. -/
theorem Program.AgreesAround.agreesOff {line : LineNumber}
    {program other : Program} (h : program.AgreesAround line other) :
    program.AgreesOff line other := by
  obtain ⟨y, z, hdiffers, rfl, rfl⟩ := h
  have helsewhere := hdiffers.elsewhere_eq
  constructor
  · have hrows := congrArg (fun y : Yield => y.rows.toArray) helsewhere
    rw [Yield.program, Yield.program, List.filter_toArray,
      List.filter_toArray]
    exact hrows
  · have hwarnings :=
      congrArg (fun y : Yield => y.warnings.toArray) helsewhere
    rw [Yield.program, Yield.program, List.filter_toArray,
      List.filter_toArray]
    exact hwarnings

/-- Nothing was edited. -/
theorem Program.AgreesAround.refl (line : LineNumber) (y : Yield) :
    y.program.AgreesAround line y.program :=
  have hempty : Yield.empty.StandsOn line := ⟨nofun, nofun⟩
  have hy : y = y.append (Yield.empty.append .empty) := by
    rw [Yield.append_empty, Yield.append_empty]
  ⟨y, y, ⟨y, .empty, .empty, .empty, hempty, hempty, hy, hy⟩, rfl, rfl⟩

/-- **Edits are local.**  If two texts differ in one line, which begins with
    `LOOP` in both or in neither and likewise with `DO_LOOP`, and both
    compile, then their programs are the same around what stands on that
    line, so they have the same rows and the same warnings on all other
    lines. -/
theorem compile_edited {clock : Clock} {line : Nat}
    {text other : String} {program edited : Program}
    (h : Source.EditedAt line text other)
    (hloop : Source.firstWordAt text line = some "LOOP"
      ↔ Source.firstWordAt other line = some "LOOP")
    (hdoLoop : Source.firstWordAt text line = some "DO_LOOP"
      ↔ Source.firstWordAt other line = some "DO_LOOP")
    (hprogram : compile clock text = .ok program)
    (hedited : compile clock other = .ok edited) :
    program.AgreesAround (Source.numberAt (line - 1)) edited ∧
      program.AgreesOff (Source.numberAt (line - 1)) edited := by
  have haround : program.AgreesAround (Source.numberAt (line - 1)) edited := by
    obtain ⟨ys, hy, rfl⟩ := compile_eq_ok hprogram
    obtain ⟨zs, hz, rfl⟩ := compile_eq_ok hedited
    rcases h.split with
      hsame | ⟨u, source, source', v, hat, hat', htext, hother⟩
    · rw [hsame, hz] at hy
      obtain ⟨rfl, -⟩ := Prod.mk.inj (Except.ok.inj hy)
      exact .refl _ _
    · rw [Source.firstWordAt, Source.firstWordAt, hat, hat'] at hloop hdoLoop
      rw [htext] at hy
      rw [hother] at hz
      obtain ⟨-, hdiffers⟩ := Yield.differsOn_of_edited
        (Source.bracket_congr hloop hdoLoop) hy hz
      exact ⟨_, _, hdiffers, rfl, rfl⟩
  exact ⟨haround, haround.agreesOff⟩

/-- A line between a `LOOP` and its `DO_LOOP` becomes longer by an
    instruction and loses a warning; the jump over it stays as it is. -/
theorem compile_edited_in_loop :
    ∃ program edited,
      compile ⟨40000000⟩ "LOOP 2\nWAIT 3 turns\n\nDO_LOOP 9" = .ok program ∧
      compile ⟨40000000⟩
          "LOOP 2\nSLICE bitposition 1 bitwidth 4 event_tag 3\n\nDO_LOOP 9"
        = .ok edited ∧
      program.instructions.size = 3 ∧ edited.instructions.size = 4 ∧
      program.AgreesOff 2 edited := by
  have hprogram : (compile ⟨40000000⟩
      "LOOP 2\nWAIT 3 turns\n\nDO_LOOP 9").toOption.map
        (fun program => program.instructions.size) = some 3 := by
    decide +kernel
  have hedited : (compile ⟨40000000⟩
      "LOOP 2\nSLICE bitposition 1 bitwidth 4 event_tag 3\n\nDO_LOOP 9").toOption.map
        (fun program => program.instructions.size) = some 4 := by
    decide +kernel
  obtain ⟨program, h, hsize⟩ := Option.map_eq_some_iff.mp hprogram
  obtain ⟨edited, h', hsize'⟩ := Option.map_eq_some_iff.mp hedited
  replace h := except_eq_ok_of_toOption h
  replace h' := except_eq_ok_of_toOption h'
  have hedits : Source.EditedAt 2 "LOOP 2\nWAIT 3 turns\n\nDO_LOOP 9"
      "LOOP 2\nSLICE bitposition 1 bitwidth 4 event_tag 3\n\nDO_LOOP 9" := by
    decide +kernel
  exact ⟨program, edited, h, h', hsize, hsize',
    (compile_edited hedits (by decide +kernel) (by decide +kernel) h h').2⟩

end TimingScript
