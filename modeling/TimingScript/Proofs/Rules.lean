import TimingScript.Record.Rules

/-! # Rules, inverted — what a record is that passes its checks

    The checks of an operation are made in a fixed order, and each of them
    either stops with an error or lets the record pass.  Which checks an
    operation makes is a matter of a table: the arguments that it takes,
    whether it needs a parameter, and the identifiers that it takes.  All
    operations go through the same three steps (`check_eq`), so a record
    passes unless it breaks one of three rules, and a rule is looked at
    only where those in front of it are kept (`Breaks`).  A record that has
    neither argument nor identifier passes if it has the parameter that its
    operation needs (`exists_check_eq_ok`). -/

namespace TimingScript

/-! ## The tables -/

/-- The arguments that an operation takes; without a list it takes any. -/
def Opcode.arguments : Opcode → Option (List String)
  | .start => some ["event_mode"]
  | .dataRequest => some ["request_tag", "CURRENT"]
  | .inc => some ["event_by", "event_tag"]
  | .set | .and | .or => some ["event_tag"]
  | .loop => some ["count"]
  | .wait => some ["period", "NEXT"]
  | .noop | .doLoop | .repeatProgram | .endProgram => none

/-- The identifiers that an operation takes; without a list it takes any. -/
def Opcode.identifiers : Opcode → Option (List String)
  | .loop => some ["times"]
  | _ => none

namespace Record

/-- The operation of a record needs a parameter other than zero.  The masks
    of `SLICE` are exempt, and so is a request for the current tag. -/
def NeedsParameter (record : Record) : Prop :=
  match record.opcode with
  | .start | .loop => True
  | .set | .and | .or => record.synthetic = false
  | .dataRequest => record.argument ≠ some "CURRENT"
  | _ => False

instance (record : Record) : Decidable record.NeedsParameter :=
  match h : record.opcode with
  | .start | .loop => isTrue (by simp [NeedsParameter, h])
  | .set | .and | .or =>
      decidable_of_iff (record.synthetic = false) (by simp [NeedsParameter, h])
  | .dataRequest =>
      decidable_of_iff (record.argument ≠ some "CURRENT")
        (by simp [NeedsParameter, h])
  | .noop | .inc | .doLoop | .repeatProgram | .wait | .endProgram =>
      isFalse (by simp [NeedsParameter, h])

/-- What there is to warn about in the operands of a record. -/
def caution (record : Record) : Option Caution :=
  match record.opcode with
  | .inc => record.identifier.map .identifierIgnored
  | .doLoop => record.unusedDistance
  | .wait => record.strangeUnit
  | .repeatProgram | .endProgram => record.unusedValue
  | _ => none

section

variable (record : Record)

/-! ## Steps -/

/-- The check of the argument. -/
def checkArgument : Except CompileError Unit :=
  match record.opcode.arguments with
  | none => .ok ()
  | some allowed => record.allowArguments allowed

/-- The check of the parameter. -/
def checkParameter : Except CompileError Unit :=
  if record.NeedsParameter then record.requireParameter else .ok ()

/-- The check of the identifier. -/
def checkIdentifier : Except CompileError Unit :=
  match record.opcode.identifiers with
  | none => .ok ()
  | some allowed => record.allowIdentifiers allowed

/-- **One check for all operations.**  What an operation checks is said by
    the tables alone. -/
theorem check_eq :
    record.check
      = (do
          record.checkArgument
          record.checkParameter
          record.checkIdentifier
          record.accept record.caution) := by
  have hneeds : record.NeedsParameter →
      record.checkParameter = record.requireParameter := fun h => if_pos h
  have hfree : ¬ record.NeedsParameter →
      record.checkParameter = .ok () := fun h => if_neg h
  rw [NeedsParameter] at hneeds hfree
  rw [check, checkArgument, checkIdentifier, caution]
  cases ho : record.opcode with
  | noop | doLoop | repeatProgram | endProgram | inc | wait =>
      rw [hfree (by rw [ho]; exact id)]
      rfl
  | start | loop =>
      rw [hneeds (by rw [ho]; trivial)]
      rfl
  | dataRequest =>
      rw [ho] at hneeds hfree
      dsimp only
      split
      · rename_i hc
        rw [hneeds hc]
        rfl
      · rename_i hc
        rw [hfree hc]
        rfl
  | set | and | or =>
      rw [ho] at hneeds hfree
      cases hs : record.synthetic with
      | true =>
          rw [hfree (by rw [hs]; nofun)]
          rfl
      | false =>
          rw [hneeds hs]
          rfl

/-! ## Rules -/

/-- The operation of the record does not take its argument. -/
def RefusesArgument (argument : String) : Prop :=
  record.argument = some argument ∧
    ∃ allowed, record.opcode.arguments = some allowed ∧ argument ∉ allowed

/-- The operation of the record needs a parameter, and there is none. -/
def LacksParameter : Prop :=
  record.NeedsParameter ∧ record.parameter = 0

/-- The operation of the record does not take its identifier. -/
def RefusesIdentifier (identifier : String) : Prop :=
  record.identifier = some identifier ∧
    ∃ allowed, record.opcode.identifiers = some allowed ∧
      identifier ∉ allowed

/-- The record breaks a rule, and the fault is that of the first one. -/
inductive Breaks : Fault → Prop where
  | argument {argument : String} : record.RefusesArgument argument →
      Breaks (.argumentRefused record.opcode argument)
  | parameter : (∀ argument, ¬ record.RefusesArgument argument) →
      record.LacksParameter → Breaks (.parameterMissing record.opcode)
  | identifier {identifier : String} :
      (∀ argument, ¬ record.RefusesArgument argument) →
      ¬ record.LacksParameter → record.RefusesIdentifier identifier →
      Breaks (.identifierRefused record.opcode identifier)

/-- The record keeps all rules. -/
structure Keeps : Prop where
  argument : ∀ argument, ¬ record.RefusesArgument argument
  parameter : ¬ record.LacksParameter
  identifier : ∀ identifier, ¬ record.RefusesIdentifier identifier

/-- The record has an operand that its operation has no use for, or does not
    know. -/
inductive Cautions : Caution → Prop where
  | identifier {identifier : String} : record.opcode = .inc →
      record.identifier = some identifier →
      Cautions (.identifierIgnored identifier)
  | distance : record.opcode = .doLoop → record.parameter ≠ 0 →
      Cautions (.distanceIgnored record.parameter)
  | value : record.opcode = .repeatProgram ∨ record.opcode = .endProgram →
      record.parameter ≠ 0 → record.identifier = none →
      Cautions (.valueIgnored record.opcode record.parameter)
  | unit {unit : String} : record.opcode = .wait →
      record.identifier = some unit →
      unit ∉ ["cycles", "ns", "us", "ms", "sec"] →
      Cautions (.unknownUnit unit)

end

section

variable {record : Record}

/-- A record keeps all rules unless it breaks one. -/
theorem keeps_iff : record.Keeps ↔ ∀ fault, ¬ record.Breaks fault := by
  constructor
  · intro h fault hb
    cases hb with
    | argument ha => exact h.argument _ ha
    | parameter _ hp => exact h.parameter hp
    | identifier _ _ hi => exact h.identifier _ hi
  · intro h
    have ha : ∀ argument, ¬ record.RefusesArgument argument :=
      fun _ ha => h _ (.argument ha)
    have hp : ¬ record.LacksParameter := fun hp => h _ (.parameter ha hp)
    exact ⟨ha, hp, fun _ hi => h _ (.identifier ha hp hi)⟩

/-- A caution that is found is about an operand of the record. -/
theorem cautions_of_caution {found : Caution}
    (h : record.caution = some found) : record.Cautions found := by
  rw [caution] at h
  cases ho : record.opcode with
  | inc =>
      rw [ho] at h
      obtain ⟨identifier, hi, rfl⟩ := Option.map_eq_some_iff.mp h
      exact .identifier ho hi
  | doLoop =>
      rw [ho] at h
      obtain ⟨hp, hfound⟩ := Option.ite_none_right_eq_some.mp h
      obtain rfl := Option.some.inj hfound
      exact .distance ho hp
  | repeatProgram | endProgram =>
      rw [ho] at h
      obtain ⟨⟨hp, hi⟩, hfound⟩ := Option.ite_none_right_eq_some.mp h
      obtain rfl := Option.some.inj hfound
      exact .value (by simp [ho]) hp hi
  | wait =>
      rw [ho] at h
      dsimp only at h
      rw [strangeUnit] at h
      cases hi : record.identifier with
      | none =>
          rw [hi] at h
          cases h
      | some unit =>
          rw [hi] at h
          obtain ⟨hunit, hfound⟩ := Option.ite_none_left_eq_some.mp h
          obtain rfl := Option.some.inj hfound
          exact .unit ho hi hunit
  | noop | start | dataRequest | set | and | or | loop =>
      rw [ho] at h
      cases h

/-- The caution of a record is the one about its operands. -/
theorem caution_eq_some_iff {found : Caution} :
    record.caution = some found ↔ record.Cautions found := by
  refine ⟨cautions_of_caution, ?_⟩
  intro h
  rw [caution]
  cases h with
  | identifier ho hi =>
      rw [ho, hi]
      rfl
  | distance ho hp =>
      rw [ho]
      exact if_pos hp
  | value ho hp hi =>
      have hvalue : record.unusedValue
          = some (.valueIgnored record.opcode record.parameter) :=
        if_pos ⟨hp, hi⟩
      rw [← hvalue]
      rcases ho with ho | ho
      · rw [ho]
      · rw [ho]
  | unit ho hi hunit =>
      rw [ho]
      dsimp only
      rw [strangeUnit, hi]
      exact if_neg hunit

/-- An argument that is refused stops the check. -/
theorem checkArgument_of_refuses {argument : String}
    (h : record.RefusesArgument argument) :
    record.checkArgument
      = .error (record.error (.argumentRefused record.opcode argument)) := by
  obtain ⟨ha, allowed, hallowed, hno⟩ := h
  rw [checkArgument, hallowed]
  show record.allowArguments allowed = _
  rw [allowArguments, ha]
  exact if_neg hno

/-- An argument that is not refused passes. -/
theorem checkArgument_of_keeps
    (h : ∀ argument, ¬ record.RefusesArgument argument) :
    record.checkArgument = .ok () := by
  rw [checkArgument]
  cases hallowed : record.opcode.arguments with
  | none => rfl
  | some allowed =>
      show record.allowArguments allowed = _
      rw [allowArguments]
      cases ha : record.argument with
      | none => rfl
      | some argument =>
          exact if_pos (Decidable.byContradiction fun hno =>
            h argument ⟨ha, allowed, hallowed, hno⟩)

/-- A parameter that is missing stops the check. -/
theorem checkParameter_of_lacks (h : record.LacksParameter) :
    record.checkParameter
      = .error (record.error (.parameterMissing record.opcode)) := by
  obtain ⟨hneeds, hzero⟩ := h
  rw [checkParameter, if_pos hneeds, requireParameter, if_pos hzero]

/-- A parameter that is not missing passes. -/
theorem checkParameter_of_keeps (h : ¬ record.LacksParameter) :
    record.checkParameter = .ok () := by
  rw [checkParameter]
  split
  · rename_i hneeds
    exact if_neg fun hzero => h ⟨hneeds, hzero⟩
  · rfl

/-- An identifier that is refused stops the check. -/
theorem checkIdentifier_of_refuses {identifier : String}
    (h : record.RefusesIdentifier identifier) :
    record.checkIdentifier
      = .error (record.error (.identifierRefused record.opcode identifier)) := by
  obtain ⟨hi, allowed, hallowed, hno⟩ := h
  rw [checkIdentifier, hallowed]
  show record.allowIdentifiers allowed = _
  rw [allowIdentifiers, hi]
  exact if_neg hno

/-- An identifier that is not refused passes. -/
theorem checkIdentifier_of_keeps
    (h : ∀ identifier, ¬ record.RefusesIdentifier identifier) :
    record.checkIdentifier = .ok () := by
  rw [checkIdentifier]
  cases hallowed : record.opcode.identifiers with
  | none => rfl
  | some allowed =>
      show record.allowIdentifiers allowed = _
      rw [allowIdentifiers]
      cases hi : record.identifier with
      | none => rfl
      | some identifier =>
          exact if_pos (Decidable.byContradiction fun hno =>
            h identifier ⟨hi, allowed, hallowed, hno⟩)

/-! ## The whole check -/

/-- The first rule that is broken decides the error. -/
theorem check_of_breaks {fault : Fault} (h : record.Breaks fault) :
    record.check = .error (record.error fault) := by
  rw [check_eq]
  cases h with
  | argument ha =>
      rw [checkArgument_of_refuses ha]
      rfl
  | parameter ha hp =>
      rw [checkArgument_of_keeps ha, checkParameter_of_lacks hp]
      rfl
  | identifier ha hp hi =>
      rw [checkArgument_of_keeps ha, checkParameter_of_keeps hp,
        checkIdentifier_of_refuses hi]
      rfl

/-- A record that keeps the rules passes, with the warning of its
    caution. -/
theorem check_of_keeps (h : record.Keeps) :
    record.check = .ok ⟨(), record.caution.map record.warning⟩ := by
  rw [check_eq, checkArgument_of_keeps h.argument,
    checkParameter_of_keeps h.parameter, checkIdentifier_of_keeps h.identifier]
  rfl

/-- A record fails exactly if it breaks a rule. -/
theorem check_eq_error_iff {error : CompileError} :
    record.check = .error error
      ↔ ∃ fault, record.Breaks fault ∧ error = record.error fault := by
  constructor
  · intro h
    by_cases hkeeps : record.Keeps
    · rw [check_of_keeps hkeeps] at h
      cases h
    · obtain ⟨fault, hb⟩ := Classical.not_forall_not.mp (mt keeps_iff.mpr hkeeps)
      rw [check_of_breaks hb] at h
      exact ⟨fault, hb, (Except.error.inj h).symm⟩
  · rintro ⟨fault, hb, rfl⟩
    exact check_of_breaks hb

/-- A record passes exactly if it keeps the rules. -/
theorem check_eq_ok_iff {noted : Noted Unit} :
    record.check = .ok noted
      ↔ record.Keeps ∧ noted.warning = record.caution.map record.warning := by
  constructor
  · intro h
    have hkeeps : record.Keeps := keeps_iff.mpr fun fault hb => by
      rw [check_of_breaks hb] at h
      cases h
    rw [check_of_keeps hkeeps] at h
    rw [← Except.ok.inj h]
    exact ⟨hkeeps, rfl⟩
  · rintro ⟨hkeeps, hwarning⟩
    rw [check_of_keeps hkeeps, ← hwarning]

/-- A record that passes has the parameter it needs, and is warned of its
    caution. -/
theorem check_eq_ok {noted : Noted Unit} (h : record.check = .ok noted) :
    noted.warning = record.caution.map record.warning ∧
      (record.NeedsParameter → record.parameter ≠ 0) := by
  obtain ⟨hkeeps, hwarning⟩ := check_eq_ok_iff.mp h
  exact ⟨hwarning, fun hneeds hzero => hkeeps.parameter ⟨hneeds, hzero⟩⟩

/-- A record without argument passes if it has the parameter it needs.
    Only `LOOP` looks at the identifier. -/
theorem exists_check_eq_ok (ha : record.argument = none)
    (hi : record.opcode = .loop → record.identifier = none)
    (hp : record.NeedsParameter → record.parameter ≠ 0) :
    ∃ noted, record.check = .ok noted := by
  refine ⟨_, check_of_keeps ⟨?argument, ?parameter, ?identifier⟩⟩
  case argument =>
    rintro argument ⟨hsome, -⟩
    rw [ha] at hsome
    cases hsome
  case parameter =>
    rintro ⟨hneeds, hzero⟩
    exact hp hneeds hzero
  case identifier =>
    rintro identifier ⟨hsome, allowed, hallowed, -⟩
    cases ho : record.opcode with
    | loop =>
        rw [hi ho] at hsome
        cases hsome
    | _ =>
        rw [ho] at hallowed
        cases hallowed

end

end Record

end TimingScript
