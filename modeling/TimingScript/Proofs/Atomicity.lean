import TimingScript.Proofs.Lockstep
import TimingScript.Proofs.SliceLine

/-! # Atomicity — a line does all of its work or none of it

    The steps of a line can fail one after the other: words, statement,
    expansion, rules, encoding.  All that a step leaves behind before a
    later one fails are warnings (`Outcome.Atomic`), so that an error never
    leaves half of a line in an assembly.

    `SLICE` is the one line that appends twice.  Nothing can go wrong
    between its two instructions, since an expansion passes the rules and
    the encoding in every assembly (`emitAll_expansion`). -/

namespace TimingScript

open Source (LineNumber Word)

/-! ## Growing at the end -/

/-- Everything that an assembly holds stands in front of what another one
    of the same clock holds. -/
structure Assembly.Precedes (before after : Assembly) : Prop where
  clock : after.clock = before.clock
  image : before.image.toList <+: after.image.toList
  instructions : before.instructions.toList <+: after.instructions.toList
  warnings : before.warnings.toList <+: after.warnings.toList
  listing : before.listing.toList <+: after.listing.toList

/-- A step that fails leaves nothing but warnings, and one that succeeds
    only appends. -/
structure Outcome.Atomic (outcome : Outcome) (before : Assembly) : Prop where
  failed : ∀ error, outcome.error = some error →
    ∃ warnings : List Warning, outcome.assembly
      = { before with warnings := before.warnings ++ warnings }
  succeeded : outcome.error = none → before.Precedes outcome.assembly

namespace Assembly

/-- A yield is appended behind everything else. -/
theorem precedes_extend (assembly : Assembly) (y : Yield)
    (loops : LoopStack) : assembly.Precedes (assembly.extend y loops) where
  clock := rfl
  image := by simp [extend]
  instructions := by simp [extend]
  warnings := by simp [extend]
  listing := by simp [extend]

/-- A yield without rows only adds warnings. -/
theorem extend_warnings (assembly : Assembly) (warnings : List Warning) :
    assembly.extend ⟨[], warnings⟩ assembly.loops
      = { assembly with warnings := assembly.warnings ++ warnings } := by
  simp [extend, Yield.instructions, Image.ofInstructions]

/-- Every line is atomic, wherever it stands. -/
theorem atomic_compileLine (assembly : Assembly) (line : LineNumber)
    (source : String) :
    (assembly.compileLine line source).Atomic assembly := by
  cases hy : Yield.ofLine assembly.clock assembly.loops line source with
  | ok found =>
      obtain ⟨y, loops⟩ := found
      obtain ⟨hafter, hnone⟩ := Prod.mk.inj (ending_compileLine_of_ok hy)
      refine ⟨fun error herror => ?_, fun _ => ?_⟩
      · rw [hnone] at herror
        cases herror
      · rw [hafter]
        exact assembly.precedes_extend y loops
  | error error =>
      obtain ⟨warnings, hend⟩ := ending_compileLine_of_error hy
      obtain ⟨hafter, hsome⟩ := Prod.mk.inj hend
      refine ⟨fun _ _ => ⟨warnings, ?_⟩, fun hnone => ?_⟩
      · rw [hafter, extend_warnings]
      · rw [hsome] at hnone
        cases hnone

/-! ## Two instructions of one line -/

/-- The records of an expansion are emitted in every assembly. -/
theorem emitAll_expansion (assembly : Assembly) (source : String)
    (expansion : Expansion) :
    (assembly.emitAll source expansion.records).error = none ∧
      (assembly.emitAll source expansion.records).assembly.instructions
        = assembly.instructions
          ++ [Instruction.mk .and expansion.clearMask,
            Instruction.mk .or expansion.setMask] := by
  rw [emitAll_records]
  exact ⟨rfl, rfl⟩

/-- A line with `SLICE` that fails appends no instruction, and one that
    succeeds appends an AND and an OR. -/
theorem instructions_slice (assembly : Assembly) (line : LineNumber)
    {source : String} (hk : Source.keyword? source = some .slice) :
    ((assembly.compileLine line source).error ≠ none ∧
      (assembly.compileLine line source).assembly.instructions
        = assembly.instructions) ∨
    ((assembly.compileLine line source).error = none ∧
      ∃ clear set, (assembly.compileLine line source).assembly.instructions
        = assembly.instructions
          ++ [Instruction.mk .and clear, Instruction.mk .or set]) := by
  cases he : (assembly.compileLine line source).error with
  | some error =>
      left
      obtain ⟨warnings, hafter⟩ :=
        (assembly.atomic_compileLine line source).failed error he
      refine ⟨Option.some_ne_none error, ?_⟩
      rw [hafter]
  | none =>
      right
      obtain ⟨_, _, _, _, field, -, -, -, -, hafter⟩ :=
        exists_field_of_accepted hk he
      refine ⟨rfl, field.clearMask, field.setMask, ?_⟩
      rw [hafter]
      rfl

/-- **Lines are atomic.**  A line that fails leaves nothing but warnings,
    and one that succeeds only appends.  A line with `SLICE` appends both of
    its instructions or none: once it is expanded, it is emitted in every
    assembly. -/
theorem compileLine_atomic (assembly : Assembly) (line : LineNumber)
    (source : String) :
    (assembly.compileLine line source).Atomic assembly ∧
    (Source.keyword? source = some .slice →
      ((assembly.compileLine line source).error ≠ none ∧
        (assembly.compileLine line source).assembly.instructions
          = assembly.instructions) ∨
      ((assembly.compileLine line source).error = none ∧
        ∃ clear set,
          (assembly.compileLine line source).assembly.instructions
            = assembly.instructions
              ++ [Instruction.mk .and clear, Instruction.mk .or set])) ∧
    ∀ (current : Assembly) (text : String) (expansion : Expansion),
      (current.emitAll text expansion.records).error = none ∧
      (current.emitAll text expansion.records).assembly.instructions
        = current.instructions
          ++ [Instruction.mk .and expansion.clearMask,
            Instruction.mk .or expansion.setMask] :=
  ⟨assembly.atomic_compileLine line source,
    assembly.instructions_slice line, emitAll_expansion⟩

/-- In a loop an `END` is stopped after its number was warned of, and a
    `SLICE` appends twice. -/
theorem compileLine_atomic_in_loop :
    ∃ (assembly : Assembly) (warnings : List Warning),
      assembly.loops = ⟨[3]⟩ ∧ assembly.instructions = #[⟨.loop, 2⟩] ∧
      (assembly.compileLine 7 "END 5").error
        = some ⟨7, .endInsideLoop⟩ ∧
      (assembly.compileLine 7 "END 5").assembly
        = { assembly with warnings := assembly.warnings ++ warnings } ∧
      assembly.warnings ++ warnings
        = #[⟨7, .operation .endProgram, .valueIgnored .endProgram 5⟩] ∧
      ∃ clear set,
        (assembly.compileLine 7
            "SLICE bitposition=2 bitwidth=3 event_tag=5").assembly.instructions
          = assembly.instructions
            ++ [Instruction.mk .and clear, Instruction.mk .or set] := by
  have herror : (((fresh ⟨40000000⟩).compileLine 3 "LOOP 2").assembly
      |>.compileLine 7 "END 5").error = some ⟨7, .endInsideLoop⟩ := by
    decide +kernel
  have hwarned : (((fresh ⟨40000000⟩).compileLine 3 "LOOP 2").assembly
      |>.compileLine 7 "END 5").assembly.warnings
        = #[⟨7, .operation .endProgram, .valueIgnored .endProgram 5⟩] := by
    decide +kernel
  have hslice : (((fresh ⟨40000000⟩).compileLine 3 "LOOP 2").assembly
      |>.compileLine 7
        "SLICE bitposition=2 bitwidth=3 event_tag=5").error = none := by
    decide +kernel
  obtain ⟨warnings, hafter⟩ :=
    (compileLine_atomic _ 7 "END 5").1.failed _ herror
  refine ⟨_, warnings, ?_, ?_, herror, hafter, ?_, ?_⟩
  · decide +kernel
  · decide +kernel
  · rw [hafter] at hwarned
    exact hwarned
  · obtain ⟨hfailed, -⟩ | ⟨-, happended⟩ :=
      (compileLine_atomic _ 7 "SLICE bitposition=2 bitwidth=3 event_tag=5").2.1
        (by decide +kernel)
    · exact absurd hslice hfailed
    · exact happended

end Assembly

end TimingScript
