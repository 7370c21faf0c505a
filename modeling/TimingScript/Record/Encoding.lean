import TimingScript.LoopStack

/-! # Encodings — the parameter that an instruction carries

    Most instructions carry the number that is written.  `WAIT` converts
    spans of time into ticks, `DO_LOOP` carries the distance in lines
    back to its `LOOP`, and a few forms stand for a fixed value. -/

namespace TimingScript.Record

/-- The parameter as written.  A number out of range is reduced, with a
    warning. -/
def written (record : Record) : Noted Parameter :=
  match Parameter.checked record.parameter with
  | .ok value => ⟨value, none⟩
  | .error cause =>
      let value := Parameter.wrapping record.parameter
      ⟨value, some (record.warning (.reduced cause value))⟩

/-- The ticks of a span of time in a given unit.  A part of a tick that
    was dropped is reported for nanoseconds. -/
def span (record : Record) (clock : Clock) (unit : TimeUnit) :
    Noted Parameter :=
  let ticks := clock.ticks unit record.parameter
  let warning : Option Warning :=
    if unit = .nanoseconds ∧ !clock.isExact unit record.parameter then
      some (record.warning (.inexactSpan clock record.parameter ticks))
    else none
  ⟨Parameter.wrapping ticks, warning⟩

/-- The ticks that a `WAIT` waits.  Without an identifier it waits for
    the next event or for a single tick. -/
def waitTicks (record : Record) (clock : Clock) : Noted Parameter :=
  match record.identifier with
  | none =>
      if record.argument = some "NEXT" then ⟨Parameter.max, none⟩
      else ⟨1, none⟩
  | some name =>
      match TimeUnit.ofName? name with
      | none => record.written
      | some unit => record.span clock unit

/-- The parameter of a record where the given loops are open. -/
def encode (record : Record) (loops : LoopStack) (clock : Clock) :
    Except CompileError (Noted Parameter) :=
  match record.opcode with
  | .noop | .start | .set | .and | .or | .loop | .repeatProgram =>
      .ok record.written
  | .dataRequest =>
      if record.argument = some "CURRENT" then .ok ⟨Parameter.max, none⟩
      else .ok record.written
  | .inc =>
      if record.parameter = 0 ∨ record.argument = some "event_tag" then
        .ok ⟨1, none⟩
      else .ok record.written
  | .wait => .ok (record.waitTicks clock)
  | .doLoop =>
      match loops.innermost? with
      | none => .error (record.error .nothingToClose)
      | some opened => .ok ⟨Parameter.masked (record.line - opened), none⟩
  | .endProgram =>
      if loops.isEmpty then .ok ⟨0, none⟩
      else .error (record.error .endInsideLoop)

end TimingScript.Record
