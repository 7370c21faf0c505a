import TimingScript.Proofs.Written

/-! # Waiting — how long a `WAIT` waits, and what is said about it

    A `WAIT` is encoded whatever its operands are and whatever the clock is,
    and it leaves the loops alone.  Without an identifier it waits for the
    next event or for one tick.  With a unit of time its number is scaled by
    the frequency of the clock, divided towards zero and reduced to 48 bits;
    with any other identifier the number is reduced as it stands.  The check
    of the operands has a table of units of its own: it takes `cycles`
    besides the units that are converted, and warns of all others. -/

namespace TimingScript

/-! ## Units -/

/-- The units of time by name, each with the number of them in a second. -/
def TimeUnit.table : List (String × Nat) :=
  [("sec", 1), ("ms", 1000), ("us", 1000000), ("ns", 1000000000)]

/-- The identifier is none of the units of time. -/
def TimeUnit.Unknown (name : String) : Prop :=
  name ∉ table.map Prod.fst

namespace TimeUnit

instance (name : String) : Decidable (Unknown name) :=
  inferInstanceAs (Decidable (_ ∉ _))

/-- A unit is found under each name of the table. -/
theorem exists_ofName? {name : String} {perSecond : Nat}
    (h : (name, perSecond) ∈ table) :
    ∃ unit, ofName? name = some unit ∧ unit.perSecond = perSecond := by
  simp only [table, List.mem_cons, Prod.mk.injEq, List.not_mem_nil,
    or_false] at h
  rcases h with ⟨rfl, rfl⟩ | ⟨rfl, rfl⟩ | ⟨rfl, rfl⟩ | ⟨rfl, rfl⟩
  · exact ⟨seconds, rfl, rfl⟩
  · exact ⟨milliseconds, rfl, rfl⟩
  · exact ⟨microseconds, rfl, rfl⟩
  · exact ⟨nanoseconds, rfl, rfl⟩

/-- A unit that is found stands in the table. -/
theorem mem_table {name : String} {unit : TimeUnit}
    (h : ofName? name = some unit) : (name, unit.perSecond) ∈ table := by
  unfold ofName? at h
  split at h <;> cases h <;> decide

/-- No unit is found under other names. -/
theorem ofName?_eq_none_iff {name : String} :
    ofName? name = none ↔ Unknown name := by
  constructor
  · intro h hmem
    obtain ⟨⟨_, perSecond⟩, hrow, rfl⟩ := List.mem_map.mp hmem
    obtain ⟨unit, hunit, -⟩ := exists_ofName? hrow
    rw [h] at hunit
    cases hunit
  · intro h
    cases hu : ofName? name with
    | none => rfl
    | some unit => exact absurd (List.mem_map_of_mem (mem_table hu)) h

/-- Only one unit is a billionth of a second. -/
theorem ofName?_eq_nanoseconds_iff {name : String} :
    ofName? name = some nanoseconds ↔ name = "ns" := by
  constructor
  · intro h
    simpa [table, perSecond] using mem_table h
  · rintro rfl
    rfl

/-- The check of a `WAIT` takes `cycles` and the units of time. -/
theorem not_mem_waitUnits_iff {name : String} :
    name ∉ waitUnits ↔ name ≠ "cycles" ∧ Unknown name := by
  simp only [waitUnits, Unknown, table, List.map_cons, List.map_nil,
    List.mem_cons, List.not_mem_nil, or_false]
  tauto

end TimeUnit

/-! ## Numbers -/

/-- A frequency of 64 bits times a signed number of 64 bits is a signed
    number of 128 bits. -/
theorem Clock.scaled_bounds {clock : Clock} {amount : Int}
    (hf : clock.frequency < 18446744073709551616)
    (hlow : -9223372036854775808 ≤ amount)
    (hhigh : amount < 9223372036854775808) :
    -170141183460469231731687303715884105728 ≤ clock.scaled amount ∧
      clock.scaled amount < 170141183460469231731687303715884105728 := by
  have hsize : (clock.scaled amount).natAbs
      ≤ 18446744073709551615 * 9223372036854775808 := by
    rw [scaled, Int.natAbs_mul, Int.natAbs_natCast]
    exact Nat.mul_le_mul (by omega) (by omega)
  omega

namespace Record

/-- A number is reduced with a warning exactly if it does not fit. -/
theorem written_warning_ne_none_iff {record : Record} :
    record.written.warning ≠ none
      ↔ ¬ (0 ≤ record.parameter
        ∧ record.parameter < (Parameter.modulus : Int)) := by
  rw [← Parameter.exists_checked_iff, written]
  cases Parameter.checked record.parameter with
  | ok p => simp
  | error cause => simp

/-- A span is inexact exactly if a part of a tick remains. -/
theorem span_warning_ne_none_iff {record : Record} {clock : Clock}
    {unit : TimeUnit} :
    (record.span clock unit).warning ≠ none
      ↔ unit = .nanoseconds ∧
        ¬ (1000000000 : Int) ∣ clock.frequency * record.parameter := by
  rw [span]
  by_cases hunit : unit = .nanoseconds
  · subst hunit
    have hexact : clock.isExact .nanoseconds record.parameter = true
        ↔ (1000000000 : Int) ∣ clock.frequency * record.parameter := by
      rw [Clock.isExact, decide_eq_true_eq, Int.dvd_iff_tmod_eq_zero]
      rfl
    simp [← hexact]
  · simp [hunit]

/-! ## Encodings -/

/-- What a `WAIT` is encoded as: without an identifier all ones or one,
    with a unit of time its ticks, and else its number; reduced to 48 bits.
    There is a warning if a part of a tick of a span in nanoseconds remains,
    or if a number without a unit of time does not fit. -/
structure Waits (record : Record) (clock : Clock) (noted : Noted Parameter) :
    Prop where
  event : record.identifier = none → record.argument = some "NEXT" →
    noted.value.toNat = Parameter.modulus - 1
  tick : record.identifier = none → record.argument ≠ some "NEXT" →
    noted.value.toNat = 1
  span : ∀ name perSecond, record.identifier = some name →
    (name, perSecond) ∈ TimeUnit.table →
    (noted.value.toNat : Int)
      = (clock.frequency * record.parameter : Int).tdiv perSecond
        % (Parameter.modulus : Int)
  ticks : ∀ name, record.identifier = some name → TimeUnit.Unknown name →
    (noted.value.toNat : Int) = record.parameter % (Parameter.modulus : Int)
  warned : noted.warning ≠ none ↔
    (record.identifier = some "ns" ∧
      ¬ (1000000000 : Int) ∣ clock.frequency * record.parameter) ∨
    ∃ name, record.identifier = some name ∧ TimeUnit.Unknown name ∧
      ¬ (0 ≤ record.parameter
        ∧ record.parameter < (Parameter.modulus : Int))

/-- Without an identifier there is nothing to convert. -/
theorem waits_of_none {record : Record} (hi : record.identifier = none)
    (clock : Clock) : record.Waits clock (record.waitTicks clock) := by
  rw [waitTicks, hi]
  dsimp only
  have hno : ∀ name, record.identifier ≠ some name := by
    intro name h
    rw [hi] at h
    cases h
  split
  · rename_i ha
    exact {
      event := fun _ _ => rfl
      tick := fun _ hne => absurd ha hne
      span := fun name _ h => absurd h (hno name)
      ticks := fun name h => absurd h (hno name)
      warned := by simp [hno] }
  · rename_i ha
    exact {
      event := fun _ h => absurd h ha
      tick := fun _ _ => rfl
      span := fun name _ h => absurd h (hno name)
      ticks := fun name h => absurd h (hno name)
      warned := by simp [hno] }

/-- Of the identifiers only the one that is given counts. -/
theorem Waits.of_identifier {record : Record} {name : String} {clock : Clock}
    {noted : Noted Parameter} (hi : record.identifier = some name)
    (span : ∀ perSecond, (name, perSecond) ∈ TimeUnit.table →
      (noted.value.toNat : Int)
        = (clock.frequency * record.parameter : Int).tdiv perSecond
          % (Parameter.modulus : Int))
    (ticks : TimeUnit.Unknown name →
      (noted.value.toNat : Int)
        = record.parameter % (Parameter.modulus : Int))
    (warned : noted.warning ≠ none ↔
      (name = "ns" ∧
        ¬ (1000000000 : Int) ∣ clock.frequency * record.parameter) ∨
      (TimeUnit.Unknown name ∧
        ¬ (0 ≤ record.parameter
          ∧ record.parameter < (Parameter.modulus : Int)))) :
    record.Waits clock noted where
  event := fun h => by rw [hi] at h; cases h
  tick := fun h => by rw [hi] at h; cases h
  span := by
    intro other perSecond h hmem
    obtain rfl : name = other := Option.some.inj (hi.symm.trans h)
    exact span perSecond hmem
  ticks := by
    intro other h hunknown
    obtain rfl : name = other := Option.some.inj (hi.symm.trans h)
    exact ticks hunknown
  warned := by
    rw [warned]
    simp [hi]

/-- An identifier that is no unit of time leaves the number as it is. -/
theorem waits_of_unknown {record : Record} {name : String}
    (hi : record.identifier = some name) (hu : TimeUnit.Unknown name)
    (clock : Clock) : record.Waits clock (record.waitTicks clock) := by
  have hticks : record.waitTicks clock = record.written := by
    rw [waitTicks, hi]
    dsimp only
    rw [TimeUnit.ofName?_eq_none_iff.mpr hu]
  have hns : name ≠ "ns" := by
    rintro rfl
    exact absurd hu (by decide)
  rw [hticks]
  apply Waits.of_identifier hi
  · intro perSecond hmem
    exact absurd (List.mem_map_of_mem hmem) hu
  · intro _
    rw [value_written, Parameter.toNat_wrapping]
  · rw [written_warning_ne_none_iff]
    simp [hns, hu]

/-- A number in a unit of time is converted. -/
theorem waits_of_unit {record : Record} {name : String} {unit : TimeUnit}
    (hi : record.identifier = some name)
    (hu : TimeUnit.ofName? name = some unit) (clock : Clock) :
    record.Waits clock (record.waitTicks clock) := by
  have hticks : record.waitTicks clock = record.span clock unit := by
    rw [waitTicks, hi]
    dsimp only
    rw [hu]
  have hknown : ¬ TimeUnit.Unknown name := by
    rw [← TimeUnit.ofName?_eq_none_iff, hu]
    nofun
  rw [hticks]
  apply Waits.of_identifier hi
  · intro perSecond hmem
    obtain ⟨found, hfound, rfl⟩ := TimeUnit.exists_ofName? hmem
    obtain rfl := Option.some.inj (hu.symm.trans hfound)
    exact Parameter.toNat_wrapping _
  · intro hunknown
    exact absurd hunknown hknown
  · rw [span_warning_ne_none_iff, ← TimeUnit.ofName?_eq_nanoseconds_iff, hu]
    simp [hknown]

/-- Every `WAIT` is encoded as it has to be. -/
theorem waits_waitTicks (record : Record) (clock : Clock) :
    record.Waits clock (record.waitTicks clock) := by
  cases hi : record.identifier with
  | none => exact waits_of_none hi clock
  | some name =>
      cases hu : TimeUnit.ofName? name with
      | none =>
          exact waits_of_unknown hi (TimeUnit.ofName?_eq_none_iff.mp hu) clock
      | some unit => exact waits_of_unit hi hu clock

end Record

/-! ## What the check says -/

/-- The warning says that a number is taken as clock ticks. -/
def Warning.SaysTicks (warning : Warning) : Prop :=
  "the parameter is taken as a count of clock ticks".toList
    <:+ warning.message.toList

namespace Record

/-- An unknown unit is said to be taken as ticks. -/
theorem saysTicks_unit (record : Record) (unit : String) :
    (record.warning (.unknownUnit unit)).SaysTicks := by
  obtain ⟨front, hm⟩ : ∃ front,
      (record.warning (.unknownUnit unit)).message
        = front ++ "); the parameter is taken as a count of clock ticks" :=
    ⟨_, rfl⟩
  rw [Warning.SaysTicks, hm, String.toList_append]
  exact List.IsSuffix.trans (by decide) (List.suffix_append _ _)

/-- The check of a `WAIT` says that its number is taken as ticks exactly if
    the identifier is neither `cycles` nor a unit of time. -/
theorem saysTicks_iff {record : Record} (ho : record.opcode = .wait)
    {noted : Noted Unit} (h : record.check = .ok noted) :
    (∃ warning ∈ noted.warning, warning.SaysTicks) ↔
      ∃ name, record.identifier = some name ∧ name ≠ "cycles" ∧
        TimeUnit.Unknown name := by
  have hw : noted.warning = record.strangeUnit.map record.warning := by
    rw [(check_eq_ok h).1, caution, ho]
  rw [hw, strangeUnit]
  cases hi : record.identifier with
  | none => simp
  | some name =>
      by_cases hname : name ∈ waitUnits
      · have hno : ¬ (name ≠ "cycles" ∧ TimeUnit.Unknown name) :=
          fun h => TimeUnit.not_mem_waitUnits_iff.mpr h hname
        simp [hname, hno]
      · have hyes := TimeUnit.not_mem_waitUnits_iff.mp hname
        simp [hname, hyes, saysTicks_unit]

/-- **How long a `WAIT` waits.**  It is encoded for every clock and every
    stack of loops, which it leaves alone; its ticks are scaled by the clock
    if it has a unit of time, and only then.  The check of its operands has
    the same units, besides `cycles`.  Nothing overflows 128 bits on the
    way. -/
theorem encode_wait {record : Record} (ho : record.opcode = .wait)
    (loops : LoopStack) (clock : Clock) :
    (∃ noted, record.encode loops clock = .ok noted ∧
      record.Waits clock noted) ∧
    loops.after record = loops ∧
    (∀ checked, record.check = .ok checked →
      ((∃ warning ∈ checked.warning, warning.SaysTicks) ↔
        ∃ name, record.identifier = some name ∧ name ≠ "cycles" ∧
          TimeUnit.Unknown name)) ∧
    (clock.frequency < 18446744073709551616 →
      -9223372036854775808 ≤ record.parameter →
      record.parameter < 9223372036854775808 →
      -170141183460469231731687303715884105728
          ≤ clock.frequency * record.parameter ∧
        clock.frequency * record.parameter
          < 170141183460469231731687303715884105728) := by
  refine ⟨⟨record.waitTicks clock, ?_, record.waits_waitTicks clock⟩, ?_,
    fun _ => saysTicks_iff ho, Clock.scaled_bounds⟩
  · rw [encode, ho]
  · rw [LoopStack.after, ho]

/-- A negative span is divided towards zero before it wraps: two ticks and a
    third below zero are two below 2^48. -/
theorem encode_wait_negative :
    ∃ noted,
      encode ⟨.wait, some "period", -7, some "ns", 3, false⟩ ⟨[1]⟩
        ⟨333333333⟩ = .ok noted ∧
      noted.value.toNat = 281474976710654 ∧ noted.warning ≠ none := by
  obtain ⟨⟨noted, he, hwaits⟩, -⟩ :=
    @encode_wait ⟨.wait, some "period", -7, some "ns", 3, false⟩ rfl ⟨[1]⟩
      ⟨333333333⟩
  have hvalue := hwaits.span "ns" 1000000000 rfl (by decide)
  refine ⟨noted, he, ?_, hwaits.warned.mpr (.inl ⟨rfl, by decide⟩)⟩
  rw [show (((333333333 : Nat) : Int) * (-7)).tdiv (1000000000 : Nat)
    % (Parameter.modulus : Int) = 281474976710654 by decide] at hvalue
  omega

end Record

end TimingScript
