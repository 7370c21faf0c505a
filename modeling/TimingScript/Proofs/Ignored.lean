import TimingScript.Proofs.Nesting
import TimingScript.Proofs.Written

/-! # Ignored operands — what a warning promises and what is encoded

    Some warnings say that a part of a record is ignored: the identifier
    of `INC`, or the parameter of an operation that takes none.  Two
    records that differ only there should be encoded alike, wherever they
    stand.  For `INC`, `DO_LOOP` and `END` they are.  `REPEAT` gives the
    same warning as `END` and is encoded with its parameter all the same,
    so there the promise holds only between numbers with one residue. -/

namespace TimingScript

/-! ## What warnings say -/

/-- The warning says that something is ignored. -/
def Warning.SaysIgnored (warning : Warning) : Prop :=
  "is ignored".toList <:+ warning.message.toList

instance (warning : Warning) : Decidable warning.SaysIgnored :=
  inferInstanceAs (Decidable (_ <:+ _))

/-- Only the end of a message decides what it says. -/
theorem Warning.saysIgnored_iff_of_append {warning : Warning} (tail : String)
    (hm : ∃ front, warning.message = front ++ tail)
    (hlen : "is ignored".toList.length ≤ tail.toList.length) :
    warning.SaysIgnored ↔ "is ignored".toList <:+ tail.toList := by
  obtain ⟨front, hm⟩ := hm
  rw [SaysIgnored, hm, String.toList_append]
  constructor
  · intro h
    exact List.suffix_of_suffix_length_le h (List.suffix_append _ _) hlen
  · intro h
    exact h.trans (List.suffix_append _ _)

namespace Record

section

variable (record : Record)

/-- An unused identifier is said to be ignored. -/
theorem saysIgnored_identifier (name : String) :
    (record.warning (.identifierIgnored name)).SaysIgnored := by
  rw [Warning.saysIgnored_iff_of_append "' is ignored" ⟨_, rfl⟩ (by decide)]
  decide

/-- An unused distance is said to be ignored. -/
theorem saysIgnored_distance (n : Int) :
    (record.warning (.distanceIgnored n)).SaysIgnored := by
  rw [Warning.saysIgnored_iff_of_append " is ignored" ⟨_, rfl⟩ (by decide)]
  decide

/-- An unused value is said to be ignored. -/
theorem saysIgnored_value (opcode : Opcode) (n : Int) :
    (record.warning (.valueIgnored opcode n)).SaysIgnored := by
  rw [Warning.saysIgnored_iff_of_append " is ignored" ⟨_, rfl⟩ (by decide)]
  decide

/-- A strange unit is not said to be ignored. -/
theorem not_saysIgnored_unit (unit : String) :
    ¬ (record.warning (.unknownUnit unit)).SaysIgnored := by
  rw [Warning.saysIgnored_iff_of_append
    "); the parameter is taken as a count of clock ticks" ⟨_, rfl⟩ (by decide)]
  decide

end

/-- The record has an operand that its operation has no use for. -/
inductive HasUnused (record : Record) : Prop where
  | identifier : record.opcode = .inc → record.identifier ≠ none →
      HasUnused record
  | distance : record.opcode = .doLoop → record.parameter ≠ 0 →
      HasUnused record
  | value : record.opcode = .repeatProgram ∨ record.opcode = .endProgram →
      record.parameter ≠ 0 → record.identifier = none → HasUnused record

/-- The warnings that say that something is ignored are those about unused
    operands. -/
theorem saysIgnored_iff {record : Record} {warning : Warning}
    (h : record.check = .ok ⟨(), some warning⟩) :
    warning.SaysIgnored ↔ record.HasUnused := by
  obtain ⟨hw, -⟩ := check_eq_ok h
  obtain ⟨caution, hc, rfl⟩ := Option.map_eq_some_iff.mp hw.symm
  cases caution_eq_some_iff.mp hc with
  | @identifier name ho hi =>
      exact iff_of_true (record.saysIgnored_identifier name)
        (.identifier ho (by rw [hi]; exact Option.some_ne_none name))
  | distance ho hp =>
      exact iff_of_true (record.saysIgnored_distance _) (.distance ho hp)
  | value ho hp hi =>
      exact iff_of_true (record.saysIgnored_value _ _) (.value ho hp hi)
  | @unit name ho _ _ =>
      refine iff_of_false (record.not_saysIgnored_unit name) ?_
      intro hu
      cases hu with
      | identifier hop _ => rw [ho] at hop; cases hop
      | distance hop _ => rw [ho] at hop; cases hop
      | value hop _ _ =>
          rw [ho] at hop
          rcases hop with hop | hop <;> cases hop

end Record

/-! ## What is encoded -/

namespace Record

/-- The other record differs at most in what a warning about the operation
    calls ignored: the identifier of `INC`, else the parameter. -/
inductive Altered (record : Record) : Record → Prop where
  | identifier (identifier : Option String) : record.opcode = .inc →
      Altered record { record with identifier }
  | parameter (parameter : Int) : record.opcode ≠ .inc →
      Altered record { record with parameter }

/-- Alterations leave the operation and the line. -/
theorem Altered.same {record other : Record} (h : record.Altered other) :
    other.opcode = record.opcode ∧ other.line = record.line := by
  cases h <;> exact ⟨rfl, rfl⟩

/-- Alterations do not matter to the open loops. -/
theorem Altered.after_eq {record other : Record} (h : record.Altered other)
    (loops : LoopStack) : loops.after other = loops.after record := by
  obtain ⟨ho, hl⟩ := h.same
  rw [LoopStack.after, LoopStack.after, ho, hl]

/-- `INC` carries one where no parameter is given, or where it adds to a
    tag. -/
theorem encode_inc {record : Record} (ho : record.opcode = .inc)
    (loops : LoopStack) (clock : Clock) :
    record.encode loops clock
      = if record.parameter = 0 ∨ record.argument = some "event_tag" then
          .ok ⟨1, none⟩
        else .ok record.written := by
  rw [encode, ho]

/-- The identifier of `INC` is not encoded. -/
theorem encode_inc_identifier {record : Record} (ho : record.opcode = .inc)
    (identifier : Option String) (loops : LoopStack) (clock : Clock) :
    { record with identifier }.encode loops clock
      = record.encode loops clock := by
  have ho' : { record with identifier }.opcode = .inc := ho
  rw [encode_inc ho', encode_inc ho]
  rfl

/-- `REPEAT` carries the residue of its parameter. -/
theorem map_value_encode_repeat {record : Record}
    (ho : record.opcode = .repeatProgram) (loops : LoopStack)
    (clock : Clock) :
    (record.encode loops clock).map Noted.value
      = .ok (Parameter.wrapping record.parameter) := by
  rw [encode, ho]
  exact congrArg Except.ok record.value_written

/-- **Where an ignored operand is ignored.**  A record that is warned of an
    ignored operand is encoded like any other that differs only there,
    except that `REPEAT` is encoded with its parameter; the open loops do
    not differ. -/
theorem encode_altered_iff {record other : Record} {warning : Warning}
    (h : record.check = .ok ⟨(), some warning⟩) (hignored : warning.SaysIgnored)
    (hother : record.Altered other) (loops : LoopStack) (clock : Clock) :
    ((other.encode loops clock).map Noted.value
          = (record.encode loops clock).map Noted.value
        ↔ (record.opcode = .repeatProgram →
          Parameter.wrapping other.parameter
            = Parameter.wrapping record.parameter)) ∧
      loops.after other = loops.after record := by
  refine ⟨?_, hother.after_eq loops⟩
  obtain ⟨hop, hline⟩ := hother.same
  cases (saysIgnored_iff h).mp hignored with
  | identifier ho _ =>
      cases hother with
      | parameter _ hne => exact absurd ho hne
      | identifier identifier _ =>
          rw [encode_inc_identifier ho]
          exact iff_of_true rfl fun hr => absurd (hr.symm.trans ho) (by decide)
  | distance ho _ =>
      rw [encode_doLoop (hop.trans ho), encode_doLoop ho, hline]
      exact iff_of_true rfl fun hr => absurd (hr.symm.trans ho) (by decide)
  | value ho _ _ =>
      -- the two operations share their warning, not their encoding
      rcases ho with ho | ho
      · rw [map_value_encode_repeat (hop.trans ho), map_value_encode_repeat ho]
        constructor
        · intro heq _
          exact Except.ok.inj heq
        · intro heq
          exact congrArg Except.ok (heq ho)
      · rw [encode_endProgram (hop.trans ho), encode_endProgram ho, hline]
        exact iff_of_true rfl fun hr => absurd (hr.symm.trans ho) (by decide)

/-- Inside of a loop and outside, a `DO_LOOP` with a parameter is encoded
    like one without. -/
theorem encode_altered_iff_doLoop :
    (Record.mk .doLoop none 5 none 7 false).check
        = .ok ⟨(), some ⟨7, .operation .doLoop, .distanceIgnored 5⟩⟩ ∧
      ((Record.mk .doLoop none 0 none 7 false).encode ⟨[3]⟩ ⟨1000⟩).map
          Noted.value
        = ((Record.mk .doLoop none 5 none 7 false).encode ⟨[3]⟩ ⟨1000⟩).map
          Noted.value := by
  have hcheck : (Record.mk .doLoop none 5 none 7 false).check
      = .ok ⟨(), some ⟨7, .operation .doLoop, .distanceIgnored 5⟩⟩ := rfl
  have hignored : (Warning.mk 7 (.operation .doLoop)
      (.distanceIgnored 5)).SaysIgnored :=
    saysIgnored_distance (Record.mk .doLoop none 5 none 7 false) 5
  refine ⟨hcheck, ?_⟩
  refine ((encode_altered_iff hcheck hignored (.parameter 0 ?_) ⟨[3]⟩
    ⟨1000⟩).1).mpr ?_
  · decide
  · intro hr
    cases hr

/-- The parameter of `REPEAT` is said to be ignored and is encoded. -/
theorem not_forall_encode_altered :
    ¬ ∀ (record other : Record) (warning : Warning) (loops : LoopStack)
      (clock : Clock), record.check = .ok ⟨(), some warning⟩ →
      warning.SaysIgnored → record.Altered other →
      (other.encode loops clock).map Noted.value
          = (record.encode loops clock).map Noted.value ∧
        loops.after other = loops.after record := by
  intro hclaim
  have hcheck : (Record.mk .repeatProgram none 5 none 1 false).check
      = .ok ⟨(), some ⟨1, .operation .repeatProgram,
          .valueIgnored .repeatProgram 5⟩⟩ := rfl
  have hignored : (Warning.mk 1 (.operation .repeatProgram)
      (.valueIgnored .repeatProgram 5)).SaysIgnored :=
    saysIgnored_value (Record.mk .repeatProgram none 5 none 1 false)
      .repeatProgram 5
  obtain ⟨heq, -⟩ := hclaim _ _ _ .empty ⟨40000000⟩ hcheck hignored
    (.parameter 0 (by decide))
  rw [map_value_encode_repeat rfl, map_value_encode_repeat rfl] at heq
  exact absurd (Except.ok.inj heq) (by decide)

end Record

end TimingScript
