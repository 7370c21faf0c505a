import TimingScript.Record

/-! # Rules — which operands an operation takes

    Each operation accepts certain arguments and identifiers, and some
    need a parameter other than zero.  A wrong argument is found before a
    missing parameter, and that before a wrong identifier.  Operands
    that are accepted but do nothing are warned about. -/

namespace TimingScript.Record

/-- Accepts a record, with a warning if there is a caution. -/
def accept (record : Record) (caution : Option Caution) :
    Except CompileError (Noted Unit) :=
  .ok ⟨(), caution.map record.warning⟩

/-- Requires the argument, if there is one, to be among `allowed`. -/
def allowArguments (record : Record) (allowed : List String) :
    Except CompileError Unit :=
  match record.argument with
  | none => .ok ()
  | some argument =>
      if argument ∈ allowed then .ok ()
      else .error (record.error (.argumentRefused record.opcode argument))

/-- Requires a parameter other than zero. -/
def requireParameter (record : Record) : Except CompileError Unit :=
  if record.parameter = 0 then
    .error (record.error (.parameterMissing record.opcode))
  else .ok ()

/-- Requires the identifier, if there is one, to be among `allowed`. -/
def allowIdentifiers (record : Record) (allowed : List String) :
    Except CompileError Unit :=
  match record.identifier with
  | none => .ok ()
  | some identifier =>
      if identifier ∈ allowed then .ok ()
      else .error (record.error (.identifierRefused record.opcode identifier))

/-- The caution about a parameter of an operation that takes none.  An
    identifier behind it makes it a remark of the author. -/
def unusedValue (record : Record) : Option Caution :=
  if record.parameter ≠ 0 ∧ record.identifier = none then
    some (.valueIgnored record.opcode record.parameter)
  else none

/-- The caution about a parameter of `DO_LOOP`. -/
def unusedDistance (record : Record) : Option Caution :=
  if record.parameter ≠ 0 then some (.distanceIgnored record.parameter)
  else none

/-- The caution about an identifier of `WAIT` that is no unit. -/
def strangeUnit (record : Record) : Option Caution :=
  match record.identifier with
  | none => none
  | some unit => if unit ∈ waitUnits then none else some (.unknownUnit unit)

/-- Checks the operands of one record. -/
def check (record : Record) : Except CompileError (Noted Unit) :=
  match record.opcode with
  | .noop => record.accept none
  | .start => do
      record.allowArguments ["event_mode"]
      record.requireParameter
      record.accept none
  | .dataRequest => do
      record.allowArguments ["request_tag", "CURRENT"]
      if record.argument ≠ some "CURRENT" then record.requireParameter
      record.accept none
  | .inc => do
      record.allowArguments ["event_by", "event_tag"]
      record.accept (record.identifier.map .identifierIgnored)
  | .set | .and | .or => do
      record.allowArguments ["event_tag"]
      if !record.synthetic then record.requireParameter
      record.accept none
  | .loop => do
      record.allowArguments ["count"]
      record.requireParameter
      record.allowIdentifiers ["times"]
      record.accept none
  | .doLoop => record.accept record.unusedDistance
  | .wait => do
      record.allowArguments ["period", "NEXT"]
      record.accept record.strangeUnit
  | .repeatProgram | .endProgram => record.accept record.unusedValue

end TimingScript.Record
