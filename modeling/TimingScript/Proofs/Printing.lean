import TimingScript.Proofs.Division
import TimingScript.Proofs.Spelling
import TimingScript.Proofs.Words

/-! # Printing — records that are written out are read back

    A record that was written by hand can be written out again: mnemonic,
    argument, number, identifier, with `=` only between an argument and its
    number.  Its words stand apart, so they are read as they are; and they
    are divided as they were meant, because a numeral begins with a digit in
    every spelling and an argument does not.  An identifier may begin with
    one, since nothing is looked for behind the number (`Printable`). -/

namespace TimingScript

open Source (LineNumber Word)
open Text (Numeral.Spells)

/-! ## Numerals as words -/

namespace Text.Numeral

variable {token : String} {n : Nat}

/-- Every numeral begins with a digit. -/
theorem Spells.startsWithDigit (h : Spells token n) (column : Nat) :
    (Word.mk token column).startsWithDigit = true := by
  rw [Word.startsWithDigit]
  cases h with
  | decimal hwrites =>
      obtain ⟨c, rest, htoken⟩ := List.exists_cons_of_ne_nil hwrites.ne_nil
      have hdigit := hwrites.isDigit c
      rw [htoken] at hdigit ⊢
      exact hdigit List.mem_cons_self
  | hexadecimal htoken _ _ =>
      rw [htoken]
      rfl

/-- Every numeral is a word. -/
theorem Spells.isWord (h : Spells token n) : Word.IsWord token := by
  cases h with
  | decimal hwrites =>
      exact ⟨hwrites.ne_nil, fun c hc =>
        Word.isLetter_of_isDigit (hwrites.isDigit c hc)⟩
  | hexadecimal htoken hmark hwrites =>
      rw [Word.IsWord, htoken]
      refine ⟨nofun, List.forall_mem_cons.mpr ⟨rfl,
        List.forall_mem_cons.mpr ⟨?_, hwrites.forall_mem (by decide)⟩⟩⟩
      rcases hmark with rfl | rfl
      · decide
      · decide

end Text.Numeral

namespace Record

/-! ## Printed records -/

/-- A record as a line of source, with a numeral for its number. -/
def sourceLine (record : Record) (numeral : String) : String :=
  record.opcode.mnemonic ++ " "
    ++ (record.argument.elim "" fun argument => argument ++ "=")
    ++ numeral
    ++ record.identifier.elim "" fun identifier => " " ++ identifier

/-- The operands of a printed record, each behind its separator. -/
def operandWords (record : Record) (numeral : String) :
    List (Char × String) :=
  let rest := record.identifier.toList.map fun word => (' ', word)
  match record.argument with
  | none => (' ', numeral) :: rest
  | some argument => (' ', argument) :: ('=', numeral) :: rest

/-- The record can be written out: its texts are words, of which the
    argument does not begin with a digit, and its number is one of source
    text. -/
structure Printable (record : Record) : Prop where
  argument : ∀ word ∈ record.argument,
    Word.IsWord word ∧ ∀ c ∈ word.toList.head?, c.isDigit = false
  identifier : ∀ word ∈ record.identifier, Word.IsWord word
  nonneg : 0 ≤ record.parameter
  below : record.parameter < 2 ^ 63
  written : record.synthetic = false

/-- A line of source is read as the record, and there is nothing to warn
    about. -/
def ReadFrom (record : Record) (source : String) : Prop :=
  ∃ words, Word.read record.line source = .ok words ∧
    Statement.decode record.line words = .ok ⟨.primitive record, none⟩

/-- A printed record consists of its words. -/
theorem toList_sourceLine (record : Record) (numeral : String) :
    (record.sourceLine numeral).toList
      = record.opcode.mnemonic.toList
        ++ Word.separated (record.operandWords numeral) := by
  rw [sourceLine, operandWords, Word.separated]
  cases record.argument with
  | none => cases record.identifier <;> simp
  | some argument => cases record.identifier <;> simp

section

variable {record : Record} {numeral : String}

/-- The operands of a printed record are words that stand apart. -/
theorem Printable.separated (h : record.Printable)
    (hn : Numeral.Spells numeral record.parameter.toNat) :
    ∀ w ∈ record.operandWords numeral,
      Word.isSeparator w.1 = true ∧ Word.IsWord w.2 := by
  have hrest : ∀ w ∈ record.identifier.toList.map fun word => (' ', word),
      Word.isSeparator w.1 = true ∧ Word.IsWord w.2 := by
    rintro _ hw
    obtain ⟨word, hword, rfl⟩ := List.mem_map.mp hw
    exact ⟨rfl, h.identifier word (Option.mem_toList.mp hword)⟩
  rw [operandWords]
  cases ha : record.argument with
  | none => exact List.forall_mem_cons.mpr ⟨⟨rfl, hn.isWord⟩, hrest⟩
  | some argument =>
      have hargument := (h.argument argument ha).1
      exact List.forall_mem_cons.mpr ⟨⟨rfl, hargument⟩,
        List.forall_mem_cons.mpr ⟨⟨rfl, hn.isWord⟩, hrest⟩⟩

/-- The words behind a printed mnemonic are the argument, if there is one, the
    number, and then the identifier. -/
theorem exists_words_eq (record : Record) (numeral : String)
    (column : Nat) :
    ∃ argument place column', argument.map Word.text = record.argument ∧
      Word.placed column ((record.operandWords numeral).map Prod.snd)
        = (Division.withOthers argument (some ⟨numeral, place⟩)
          (Word.placed column' record.identifier.toList)).words := by
  have hrest : (record.identifier.toList.map fun word => (' ', word)).map
      Prod.snd = record.identifier.toList := by
    rw [List.map_map]
    exact List.map_id _
  rw [operandWords]
  cases record.argument with
  | none =>
      refine ⟨none, column + 1, column + 1 + numeral.length, rfl, ?_⟩
      rw [Division.words, Division.others_withOthers, List.map_cons, hrest]
      rfl
  | some argument =>
      let behind := column + 1 + argument.length
      refine ⟨some ⟨argument, column + 1⟩, behind + 1,
        behind + 1 + numeral.length, rfl, ?_⟩
      rw [Division.words, Division.others_withOthers, List.map_cons,
        List.map_cons, hrest]
      rfl

/-- The number of a printed record is within the limit of source text. -/
theorem Printable.toNat_le_limit (h : record.Printable) :
    record.parameter.toNat ≤ Text.Numeral.limit := by
  have hbelow := h.below
  rw [show Text.Numeral.limit = 2 ^ 63 - 1 from rfl]
  omega

/-- Wherever the words of a printed record stand, they are divided as they
    were meant. -/
theorem Printable.decode_division (h : record.Printable)
    (hn : Numeral.Spells numeral record.parameter.toNat)
    {argument : Option Word}
    (ha : argument.map Word.text = record.argument) (place column : Nat) :
    Statement.decode record.line (⟨record.opcode.mnemonic, 1⟩
        :: (Division.withOthers argument (some ⟨numeral, place⟩)
          (Word.placed column record.identifier.toList)).words)
      = .ok ⟨.primitive record, none⟩ := by
  have hdigit : ∀ word ∈ argument, word.startsWithDigit = false := by
    intro word hword
    have hmem : word.text ∈ record.argument :=
      ha ▸ Option.mem_map_of_mem Word.text hword
    have hhead := (h.argument word.text hmem).2
    rw [Word.startsWithDigit]
    cases hc : word.text.toList.head? with
    | none => rfl
    | some c => exact hhead c hc
  have hnumber : Statement.amount record.line record.opcode.mnemonic
      (some ⟨numeral, place⟩) = .ok record.parameter.toNat :=
    Statement.number_eq_ok_iff.mpr ⟨hn, h.toNat_le_limit⟩
  have hidentifier : (Word.placed column
      record.identifier.toList).head?.map Word.text = record.identifier ∧
      (Word.placed column record.identifier.toList).tail = [] := by
    cases record.identifier with
    | none => exact ⟨rfl, rfl⟩
    | some word => exact ⟨rfl, rfl⟩
  refine Statement.decode_eq_primitive_iff.mpr ⟨_, rfl,
    Division.lawful_withOthers hdigit ?_ ?_ ?_,
    Statement.explains_iff.mpr ⟨rfl, _, hnumber, ?_, ?_⟩⟩
  · rintro _ ⟨⟩
    exact hn.startsWithDigit place
  · intro hnone
    cases hnone
  · intro _ hnone
    cases hnone
  · rw [Statement.recordOf, Int.toNat_of_nonneg h.nonneg, ← h.written]
    dsimp only [Division.withOthers]
    rw [ha, hidentifier.1]
  · rw [show (Division.withOthers _ _ _).trailing = [] from hidentifier.2]
    rfl

/-- A printed record is read back, in whichever way its number is spelled. -/
theorem Printable.readFrom_of_spells (h : record.Printable)
    (hn : Numeral.Spells numeral record.parameter.toNat) :
    record.ReadFrom (record.sourceLine numeral) := by
  refine ⟨_, Word.read_separated (record.toList_sourceLine numeral)
    (Word.isWord_mnemonic _) (h.separated hn), ?_⟩
  obtain ⟨argument, place, column, hargument, hwords⟩ :=
    record.exists_words_eq numeral (1 + record.opcode.mnemonic.length)
  rw [hwords]
  exact h.decode_division hn hargument place column

/-- A record that keeps the rules is all that is read from its line. -/
theorem ReadFrom.ofLine {source : String} {noted : Noted Unit}
    (h : record.ReadFrom source) (hc : record.check = .ok noted) :
    Reading.ofLine record.line source
      = .ok ⟨[record], noted.warning.toList⟩ := by
  obtain ⟨words, hw, hd⟩ := h
  cases words with
  | nil => cases hd
  | cons first rest =>
      rw [Reading.ofLine_of_decoded hw hd, Reading.ofStatement_primitive_ok hc]
      rfl

end

/-- **Printing and reading.**  A record that can be written out is read back
    from its line without a warning: with its number in decimal digits, and
    in every other spelling of a numeral. -/
theorem readFrom_sourceLine {record : Record} (h : record.Printable) :
    record.ReadFrom
        (record.sourceLine (toString record.parameter.toNat)) ∧
      ∀ numeral, Numeral.Spells numeral record.parameter.toNat →
        record.ReadFrom (record.sourceLine numeral) := by
  refine ⟨h.readFrom_of_spells (Text.Numeral.spells_toString _), ?_⟩
  intro numeral hn
  exact h.readFrom_of_spells hn

/-- A record whose identifier begins with a digit. -/
def timedRemark : Record :=
  { opcode := .wait
    argument := some "period"
    parameter := 255
    identifier := some "3rd"
    line := 12
    synthetic := false }

/-- It is read back from a line with a hexadecimal numeral, which has zeros in
    front and digits of both cases. -/
theorem readFrom_sourceLine_hexadecimal :
    timedRemark.Printable ∧
      timedRemark.sourceLine "0X00fF" = "WAIT period=0X00fF 3rd" ∧
      timedRemark.ReadFrom "WAIT period=255 3rd" ∧
      timedRemark.ReadFrom "WAIT period=0X00fF 3rd" := by
  have hprintable : timedRemark.Printable := {
    argument := by
      rintro _ ⟨⟩
      refine ⟨by decide, ?_⟩
      rintro _ ⟨⟩
      decide
    identifier := by
      rintro _ ⟨⟩
      decide
    nonneg := by decide
    below := by decide
    written := rfl }
  have hspells : Numeral.Spells "0X00fF" 255 :=
    (Text.Numeral.read?_eq_some_iff.mp (by decide +kernel)).1
  have hdecimal : timedRemark.sourceLine (toString timedRemark.parameter.toNat)
      = "WAIT period=255 3rd" := by
    decide +kernel
  have hhexadecimal : timedRemark.sourceLine "0X00fF"
      = "WAIT period=0X00fF 3rd" := by
    decide +kernel
  obtain ⟨hread, hall⟩ := readFrom_sourceLine hprintable
  rw [hdecimal] at hread
  have hspelled := hall _ hspells
  rw [hhexadecimal] at hspelled
  exact ⟨hprintable, hhexadecimal, hread, hspelled⟩

end Record

end TimingScript
