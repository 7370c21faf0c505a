import TimingScript.Proofs.Yield

/-! # Relocation — a line means the same further down

    A line is compiled with its number at hand, and the number ends up in
    errors, warnings, records, rows and open loops.  Nothing else depends on
    it: compiling the same line `n` lines further down, with all open loops
    `n` lines further down as well, gives the same result with `n` added to
    every number.  Even the one number that is encoded, the distance of a
    `DO_LOOP`, is a difference of two lines.

    What is relocated is collected in a class, so that every stage from
    words to yields has the same law: the stage commutes with
    `relocate`. -/

namespace TimingScript

open Source (LineNumber Word)

/-! ## What speaks of lines -/

/-- Values that may speak of lines. -/
class Relocatable (α : Type) where
  /-- The value for a text that stands some lines further down. -/
  relocate : Nat → α → α

namespace Relocatable

variable {α β : Type}

instance : Relocatable LineNumber := ⟨fun n line => line + n⟩

instance : Relocatable String := ⟨fun _ s => s⟩

instance : Relocatable Parameter := ⟨fun _ p => p⟩

instance : Relocatable Unit := ⟨fun _ u => u⟩

instance : Relocatable CompileError :=
  ⟨fun n error => { error with line := error.line + n }⟩

instance : Relocatable Warning :=
  ⟨fun n warning => { warning with line := warning.line + n }⟩

instance : Relocatable ListingRow :=
  ⟨fun n row => { row with line := row.line + n }⟩

instance : Relocatable Record :=
  ⟨fun n record => { record with line := record.line + n }⟩

instance : Relocatable SliceCall :=
  ⟨fun n call => { call with line := call.line + n }⟩

instance : Relocatable Expansion :=
  ⟨fun n expansion => { expansion with line := expansion.line + n }⟩

instance [Relocatable α] : Relocatable (Option α) :=
  ⟨fun n => Option.map (relocate n)⟩

instance [Relocatable α] : Relocatable (List α) :=
  ⟨fun n => List.map (relocate n)⟩

instance : Relocatable LoopStack :=
  ⟨fun n loops => ⟨relocate n loops.lines⟩⟩

instance [Relocatable α] [Relocatable β] : Relocatable (α × β) :=
  ⟨fun n => Prod.map (relocate n) (relocate n)⟩

instance [Relocatable α] : Relocatable (Noted α) :=
  ⟨fun n noted => ⟨relocate n noted.value, relocate n noted.warning⟩⟩

instance : Relocatable Statement where
  relocate n
    | .primitive record => .primitive (relocate n record)
    | .slice call => .slice (relocate n call)

instance : Relocatable Reading :=
  ⟨fun n reading =>
    ⟨relocate n reading.records, relocate n reading.warnings⟩⟩

instance : Relocatable Yield :=
  ⟨fun n y => ⟨relocate n y.rows, relocate n y.warnings⟩⟩

instance [Relocatable α] : Relocatable (Except CompileError α) where
  relocate n
    | .error error => .error (relocate n error)
    | .ok a => .ok (relocate n a)

variable [Relocatable α] [Relocatable β] (n : Nat)

/-- A relocated list is relocated element by element. -/
theorem relocate_cons (x : α) (xs : List α) :
    relocate n (x :: xs) = relocate n x :: relocate n xs := rfl

/-- A relocated list in two parts. -/
theorem relocate_append (xs ys : List α) :
    relocate n (xs ++ ys) = relocate n xs ++ relocate n ys :=
  List.map_append

/-- A warning is listed where it is noted. -/
theorem relocate_toList (x : Option α) :
    relocate n x.toList = (relocate n x).toList := by
  cases x <;> rfl

/-- A choice between relocated values is a relocated choice. -/
theorem ite_relocate (p : Prop) [Decidable p] (x y : α) :
    (if p then relocate n x else relocate n y)
      = relocate n (if p then x else y) :=
  (apply_ite (relocate n) p x y).symm

/-- Functions that agree on relocated values agree on relocated results. -/
theorem map_relocate {f g : α → β}
    (h : ∀ a, g (relocate n a) = relocate n (f a))
    (x : Except CompileError α) :
    (relocate n x).map g = relocate n (x.map f) := by
  cases x with
  | error error => rfl
  | ok a => exact congrArg Except.ok (h a)

/-- Checks in a row are relocated together. -/
theorem bind_relocate (x : Except CompileError Unit)
    (next : Except CompileError α) :
    (relocate n x >>= fun _ => relocate n next)
      = relocate n (x >>= fun _ => next) := by
  cases x <;> rfl

end Relocatable

open Relocatable

/-! ## Words and statements -/

/-- Words are the same on every line. -/
theorem Source.Word.read_relocate (n : Nat) (line : LineNumber)
    (source : String) :
    Word.read (line + n) source
      = (Word.read line source).mapError (relocate n) := by
  rw [Word.read, Word.read]
  cases Word.scan 1 source.toList <;> rfl

namespace Statement

variable (n : Nat) (line : LineNumber)

/-- A number is read alike on every line. -/
theorem number_relocate (keyword token : String) :
    number (line + n) keyword token
      = (number line keyword token).mapError (relocate n) := by
  rw [number, number]
  cases Text.Numeral.read? token <;> rfl

/-- The warning about unused words, further down. -/
theorem unused_relocate (keyword : Keyword) (words : List Word) :
    unused (line + n) keyword words
      = relocate n (unused line keyword words) := by
  cases words <;> rfl

/-- Operands are told apart alike on every line. -/
theorem operands_relocate (keyword : String) (words : List Word) :
    operands (line + n) keyword words
      = (operands line keyword words).mapError (relocate n) := by
  have hmap : ∀ {α : Type} (f : Nat → α) (token : String),
      (number (line + n) keyword token).map f
        = ((number line keyword token).map f).mapError (relocate n) := by
    intro α f token
    rw [number_relocate]
    cases number line keyword token <;> rfl
  cases words with
  | nil => rfl
  | cons word rest =>
      rw [operands.eq_def, operands.eq_def]
      dsimp only
      by_cases hw : word.startsWithDigit = true
      · rw [if_pos hw, if_pos hw]
        exact hmap _ _
      rw [if_neg hw, if_neg hw]
      cases rest with
      | nil => rfl
      | cons value others =>
          dsimp only
          by_cases hv : value.startsWithDigit = true
          · rw [if_pos hv, if_pos hv]
            exact hmap _ _
          · rw [if_neg hv, if_neg hv]
            rfl

/-- A line with a mnemonic is decoded to the same record, further down. -/
theorem decodePrimitive_relocate (opcode : Opcode) (words : List Word) :
    decodePrimitive (line + n) opcode words
      = relocate n (decodePrimitive line opcode words) := by
  rw [decodePrimitive, decodePrimitive, operands_relocate]
  cases operands line opcode.mnemonic words with
  | error error => rfl
  | ok found =>
      obtain ⟨argument, parameter, rest⟩ := found
      show Except.ok (Noted.mk _ (unused (line + n) _ _)) = _
      rw [unused_relocate]
      rfl

/-- A use of `SLICE` is decoded to the same call, further down. -/
theorem decodeSlice_relocate (words : List Word) :
    decodeSlice (line + n) words = relocate n (decodeSlice line words) := by
  rw [decodeSlice, decodeSlice]
  by_cases hlen : words.length < sliceWords
  · rw [if_pos hlen, if_pos hlen]
    rfl
  · rw [if_neg hlen, if_neg hlen, unused_relocate]
    rfl

/-- Words make the same statement on every line. -/
theorem decode_relocate (words : List Word) :
    decode (line + n) words = relocate n (decode line words) := by
  cases words with
  | nil => rfl
  | cons first rest =>
      rw [decode, decode]
      cases Keyword.ofWord? first.text with
      | none => rfl
      | some keyword =>
          cases keyword with
          | slice => exact decodeSlice_relocate n line rest
          | operation opcode =>
              exact decodePrimitive_relocate n line opcode rest

end Statement

/-- A use of `SLICE` is expanded to the same masks, further down. -/
theorem SliceCall.expand_relocate (n : Nat) (call : SliceCall) :
    (relocate n call).expand = relocate n call.expand := by
  rw [expand, expand, show (relocate n call).words = call.words from rfl]
  cases field call.words with
  | error fault => rfl
  | ok found =>
      dsimp only
      cases found.spills <;> rfl

/-! ## Records -/

namespace Record

variable (n : Nat) (record : Record)

@[simp] theorem opcode_relocate :
    (relocate n record).opcode = record.opcode := rfl

@[simp] theorem argument_relocate :
    (relocate n record).argument = record.argument := rfl

@[simp] theorem parameter_relocate :
    (relocate n record).parameter = record.parameter := rfl

@[simp] theorem identifier_relocate :
    (relocate n record).identifier = record.identifier := rfl

/-- A record is accepted with the same caution, further down. -/
theorem accept_relocate (caution : Option Caution) :
    (relocate n record).accept caution
      = relocate n (record.accept caution) := by
  cases caution <;> rfl

/-- An argument is refused on every line or on none. -/
theorem allowArguments_relocate (allowed : List String) :
    (relocate n record).allowArguments allowed
      = relocate n (record.allowArguments allowed) := by
  rw [allowArguments, allowArguments, argument_relocate]
  cases record.argument with
  | none => rfl
  | some argument =>
      dsimp only
      rw [← ite_relocate]
      rfl

/-- A parameter is required on every line or on none. -/
theorem requireParameter_relocate :
    (relocate n record).requireParameter
      = relocate n record.requireParameter := by
  rw [requireParameter, requireParameter, ← ite_relocate]
  rfl

/-- An identifier is refused on every line or on none. -/
theorem allowIdentifiers_relocate (allowed : List String) :
    (relocate n record).allowIdentifiers allowed
      = relocate n (record.allowIdentifiers allowed) := by
  rw [allowIdentifiers, allowIdentifiers, identifier_relocate]
  cases record.identifier with
  | none => rfl
  | some identifier =>
      dsimp only
      rw [← ite_relocate]
      rfl

/-- The operands of a record are checked alike on every line. -/
theorem check_relocate :
    (relocate n record).check = relocate n record.check := by
  rw [check, check, opcode_relocate]
  cases record.opcode with
  | noop => exact record.accept_relocate n none
  | doLoop => exact record.accept_relocate n record.unusedDistance
  | repeatProgram | endProgram =>
      exact record.accept_relocate n record.unusedValue
  | inc | wait =>
      dsimp only
      rw [allowArguments_relocate, accept_relocate, bind_relocate]
      rfl
  | start =>
      dsimp only
      rw [allowArguments_relocate, requireParameter_relocate,
        accept_relocate, bind_relocate, bind_relocate]
  | loop =>
      dsimp only
      rw [allowArguments_relocate, requireParameter_relocate,
        allowIdentifiers_relocate, accept_relocate, bind_relocate,
        bind_relocate, bind_relocate]
  | dataRequest | set | and | or =>
      dsimp only
      rw [allowArguments_relocate, requireParameter_relocate,
        accept_relocate, bind_relocate, ite_relocate, bind_relocate]
      rfl

/-- A number is written alike on every line. -/
theorem written_relocate :
    (relocate n record).written = relocate n record.written := by
  rw [written, written, parameter_relocate]
  cases Parameter.checked record.parameter <;> rfl

/-- A span has the same ticks on every line. -/
theorem span_relocate (clock : Clock) (unit : TimeUnit) :
    (relocate n record).span clock unit
      = relocate n (record.span clock unit) := by
  have hwarning := ite_relocate n
    (unit = .nanoseconds ∧ !clock.isExact unit record.parameter)
    (some (record.warning (.inexactSpan clock record.parameter
      (clock.ticks unit record.parameter)))) none
  exact congrArg (Noted.mk _) hwarning

/-- A `WAIT` waits as long on every line. -/
theorem waitTicks_relocate (clock : Clock) :
    (relocate n record).waitTicks clock
      = relocate n (record.waitTicks clock) := by
  rw [waitTicks, waitTicks, identifier_relocate]
  cases record.identifier with
  | none =>
      dsimp only
      rw [← ite_relocate]
      rfl
  | some name =>
      dsimp only
      cases TimeUnit.ofName? name with
      | none => exact record.written_relocate n
      | some unit => exact record.span_relocate n clock unit

/-- A record is encoded alike further down, if the open loops are further
    down too. -/
theorem encode_relocate (loops : LoopStack) (clock : Clock) :
    (relocate n record).encode (relocate n loops) clock
      = relocate n (record.encode loops clock) := by
  have hwritten : (.ok (relocate n record).written
      : Except CompileError (Noted Parameter))
      = relocate n (.ok record.written) :=
    congrArg Except.ok (record.written_relocate n)
  rw [encode, encode, opcode_relocate]
  obtain ⟨lines⟩ := loops
  cases record.opcode with
  | noop | start | set | and | or | loop | repeatProgram => exact hwritten
  | wait => exact congrArg Except.ok (record.waitTicks_relocate n clock)
  | dataRequest | inc =>
      dsimp only
      rw [hwritten, ← ite_relocate]
      rfl
  | doLoop =>
      cases lines with
      | nil => rfl
      | cons opened rest =>
          -- the distance is the difference of two relocated lines
          show Except.ok (Noted.mk (Parameter.masked
            (record.line + n - (opened + n))) none) = _
          rw [Nat.add_sub_add_right]
          rfl
  | endProgram => cases lines <;> rfl

end Record

/-- A record opens and closes the same loops, further down. -/
theorem LoopStack.after_relocate (n : Nat) (loops : LoopStack)
    (record : Record) :
    (relocate n loops).after (relocate n record)
      = relocate n (loops.after record) := by
  rw [after, after, Record.opcode_relocate]
  cases record.opcode with
  | doLoop => exact congrArg LoopStack.mk List.map_tail.symm
  | _ => rfl

/-! ## Readings -/

namespace Reading

variable (n : Nat)

/-- Records are checked alike on every line. -/
theorem checkAll_relocate (records : List Record) :
    checkAll (relocate n records) = relocate n (checkAll records) := by
  induction records with
  | nil => rfl
  | cons record rest ih =>
      rw [relocate_cons, checkAll, checkAll, Record.check_relocate]
      cases record.check with
      | error error => rfl
      | ok noted =>
          show (checkAll (relocate n rest)).map _ = _
          rw [ih]
          apply map_relocate
          intro ws
          rw [relocate_append, relocate_toList]
          rfl

/-- Warnings in front of a reading are relocated with it. -/
theorem warn_relocate (warnings : List Warning) (reading : Reading) :
    (relocate n reading).warn (relocate n warnings)
      = relocate n (reading.warn warnings) :=
  congrArg (Reading.mk _) (relocate_append n warnings reading.warnings).symm

/-- A statement is read alike on every line. -/
theorem ofStatement_relocate (statement : Statement) :
    ofStatement (relocate n statement)
      = relocate n (ofStatement statement) := by
  cases statement with
  | primitive record =>
      show (checkAll (relocate n [record])).map _ = _
      rw [checkAll_relocate]
      apply map_relocate
      intro ws
      rfl
  | slice call =>
      show ofStatement (.slice (relocate n call)) = _
      rw [ofStatement, ofStatement, SliceCall.expand_relocate]
      cases call.expand with
      | error error => rfl
      | ok noted =>
          show (checkAll (relocate n noted.value.records)).map _ = _
          rw [checkAll_relocate]
          apply map_relocate
          intro ws
          have hwarn := warn_relocate n noted.warning.toList
            ⟨noted.value.records, ws⟩
          rw [relocate_toList] at hwarn
          exact hwarn

/-- The words of a line are read alike on every line. -/
theorem ofWords_relocate (line : LineNumber) (words : List Word) :
    ofWords (line + n) words = relocate n (ofWords line words) := by
  cases words with
  | nil => rfl
  | cons first rest =>
      rw [ofWords, ofWords, Statement.decode_relocate]
      cases Statement.decode line (first :: rest) with
      | error error => rfl
      | ok noted =>
          show (ofStatement (relocate n noted.value)).map _ = _
          rw [ofStatement_relocate]
          apply map_relocate
          intro reading
          rw [← warn_relocate, relocate_toList]
          rfl

/-- A line is read alike wherever it stands. -/
theorem ofLine_relocate (line : LineNumber) (source : String) :
    ofLine (line + n) source = relocate n (ofLine line source) := by
  rw [ofLine, ofLine, Word.read_relocate]
  cases Word.read line source with
  | error error => rfl
  | ok words => exact ofWords_relocate n line words

end Reading

/-! ## Yields -/

namespace Yield

variable (n : Nat) (clock : Clock)

/-- Yields behind each other are relocated together. -/
theorem append_relocate (y z : Yield) :
    (relocate n y).append (relocate n z) = relocate n (y.append z) := by
  show Yield.mk (relocate n y.rows ++ relocate n z.rows)
    (relocate n y.warnings ++ relocate n z.warnings) = _
  rw [← relocate_append, ← relocate_append]
  rfl

/-- Records yield the same further down. -/
theorem ofRecords_relocate (source : String) (records : List Record) :
    ∀ loops : LoopStack,
      ofRecords clock source (relocate n loops) (relocate n records)
        = relocate n (ofRecords clock source loops records) := by
  induction records with
  | nil => intro loops; rfl
  | cons record rest ih =>
      intro loops
      rw [relocate_cons, ofRecords, ofRecords, Record.encode_relocate,
        LoopStack.after_relocate]
      cases record.encode loops clock with
      | error error => rfl
      | ok noted =>
          dsimp only [relocate]
          show (ofRecords clock source (relocate n (loops.after record))
            (relocate n rest)).map _ = _
          rw [ih]
          apply map_relocate
          intro y
          rw [← append_relocate,
            show relocate n (Yield.mk [record.row source noted.value]
              noted.warning.toList) = ⟨_, _⟩ from rfl, relocate_toList]
          rfl

/-- Records open and close the same loops further down. -/
theorem foldl_after_relocate (records : List Record) :
    ∀ loops : LoopStack,
      (relocate n records).foldl LoopStack.after (relocate n loops)
        = relocate n (records.foldl LoopStack.after loops) := by
  induction records with
  | nil => intro loops; rfl
  | cons record rest ih =>
      intro loops
      rw [relocate_cons, List.foldl_cons, List.foldl_cons,
        LoopStack.after_relocate, ih]

/-- A reading yields the same further down. -/
theorem ofReading_relocate (source : String) (loops : LoopStack)
    (reading : Reading) :
    ofReading clock source (relocate n loops) (relocate n reading)
      = relocate n (ofReading clock source loops reading) := by
  rw [ofReading, ofReading,
    show (relocate n reading).records = relocate n reading.records from rfl,
    ofRecords_relocate, foldl_after_relocate]
  apply map_relocate
  intro y
  rw [show relocate n (append ⟨[], reading.warnings⟩ y,
      reading.records.foldl LoopStack.after loops) = (_, _) from rfl,
    ← append_relocate]
  rfl

/-- A line yields the same further down. -/
theorem ofLine_relocate (loops : LoopStack) (line : LineNumber)
    (source : String) :
    ofLine clock (relocate n loops) (line + n) source
      = relocate n (ofLine clock loops line source) := by
  rw [ofLine, ofLine, Reading.ofLine_relocate]
  cases Reading.ofLine line source with
  | error error => rfl
  | ok reading => exact ofReading_relocate n clock source loops reading

/-- Lines yield the same further down. -/
theorem ofLines_relocate (lines : List (LineNumber × String)) :
    ∀ loops : LoopStack,
      ofLines clock (relocate n loops) (relocate n lines)
        = relocate n (ofLines clock loops lines) := by
  induction lines with
  | nil => intro loops; rfl
  | cons numbered rest ih =>
      intro loops
      obtain ⟨line, source⟩ := numbered
      have hline := ofLine_relocate n clock loops line source
      rw [relocate_cons]
      show ofLines clock (relocate n loops)
        ((line + n, source) :: relocate n rest) = _
      cases hy : ofLine clock loops line source with
      | error error =>
          rw [hy] at hline
          rw [ofLines_cons_of_error hy, ofLines_cons_of_error hline]
          rfl
      | ok found =>
          obtain ⟨y, next⟩ := found
          rw [hy] at hline
          rw [ofLines_cons_of_ok hy, ofLines_cons_of_ok hline, ih]
          apply map_relocate
          intro zs
          rfl

/-- The yields of lines are joined alike further down. -/
theorem join_relocate (ys : List Yield) :
    join (relocate n ys) = relocate n (join ys) := by
  induction ys with
  | nil => rfl
  | cons y rest ih =>
      rw [relocate_cons, join_cons, join_cons, ih, append_relocate]

end Yield

end TimingScript
