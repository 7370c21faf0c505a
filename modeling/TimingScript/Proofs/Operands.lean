import TimingScript.Assembly
import TimingScript.Proofs.Rules

/-! # Operands — which records pass, and what they are warned of

    The tables of arguments and identifiers and the need for a parameter
    decide together whether a record passes its check, whatever its operands
    are.  A record that is refused is refused for the first rule that it
    breaks, before anything of it is kept; one that passes is warned of at
    most one of its operands. -/

namespace TimingScript.Record

/-- A record that is refused leaves nothing behind. -/
theorem emit_of_breaks {record : Record} {fault : Fault}
    (h : record.Breaks fault) (assembly : Assembly) (source : String) :
    assembly.emit record source
      = ⟨assembly, [], some (record.error fault)⟩ := by
  rw [Assembly.emit, check_of_breaks h]
  rfl

/-- The warning of a check is that of its caution, if every warning is. -/
theorem warning_eq_iff {record : Record} {warned : Option Warning} :
    warned = record.caution.map record.warning ↔
      ∀ warning, warned = some warning ↔
        ∃ caution, record.Cautions caution ∧
          warning = record.warning caution := by
  have hcaution : ∀ warning, record.caution.map record.warning = some warning
      ↔ ∃ caution, record.Cautions caution ∧
        warning = record.warning caution := by
    intro warning
    rw [Option.map_eq_some_iff]
    exact exists_congr fun _ => and_congr caution_eq_some_iff eq_comm
  constructor
  · rintro rfl
    exact hcaution
  · intro h
    exact Option.ext fun warning => (h warning).trans (hcaution warning).symm

/-- **Which records pass.**  A record is refused exactly if it breaks a rule,
    with the fault of the first one, and nothing of it is kept.  Otherwise it
    passes, with a warning exactly if it has an operand to be cautious
    about. -/
theorem check_verdict (record : Record) :
    (∀ error, record.check = .error error ↔
      ∃ fault, record.Breaks fault ∧ error = record.error fault ∧
        ∀ (assembly : Assembly) (source : String),
          assembly.emit record source = ⟨assembly, [], some error⟩) ∧
    (∀ noted, record.check = .ok noted ↔
      (¬ ∃ fault, record.Breaks fault) ∧
        ∀ warning, noted.warning = some warning ↔
          ∃ caution, record.Cautions caution ∧
            warning = record.warning caution) := by
  constructor
  · intro error
    rw [check_eq_error_iff]
    constructor
    · rintro ⟨fault, hb, rfl⟩
      exact ⟨fault, hb, rfl, emit_of_breaks hb⟩
    · rintro ⟨fault, hb, herror, -⟩
      exact ⟨fault, hb, herror⟩
  · intro noted
    rw [check_eq_ok_iff, keeps_iff, warning_eq_iff, not_exists]

/-- A wrong argument is found before a missing parameter, and that before a
    wrong identifier. -/
example (line : Source.LineNumber) :
    check ⟨.loop, some "times", 0, some "x", line, false⟩
        = .error ⟨line, .argumentRefused .loop "times"⟩ ∧
      check ⟨.loop, some "count", 0, some "x", line, false⟩
        = .error ⟨line, .parameterMissing .loop⟩ ∧
      check ⟨.loop, some "count", 1, some "x", line, false⟩
        = .error ⟨line, .identifierRefused .loop "x"⟩ :=
  ⟨rfl, rfl, rfl⟩

end TimingScript.Record
