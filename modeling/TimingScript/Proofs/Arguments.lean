import TimingScript.Proofs.SliceLine
import TimingScript.Proofs.Spelling

/-! # Arguments — which words `SLICE` accepts

    The words behind `SLICE` describe a bit field if the keywords stand in
    their places and a numeral stands behind each (`Describes`).  Which
    numbers are then allowed is a question of the field alone.  The checks
    are made one after the other, but all of them together accept exactly
    the words that describe a valid field (`field_eq_ok_iff`), whatever
    their order.  Everything else is refused on the line of the call, and
    nothing is kept of it (`expand_verdict`). -/

namespace TimingScript

open Text (Numeral.Spells)

namespace SliceCall

/-- The words describe a field: its keywords are there, and the words behind
    them are numerals of its numbers. -/
inductive Describes (words : List String) (field : BitField) : Prop where
  | intro {position width tag : String} :
      words = ["bitposition", position, "bitwidth", width, "event_tag", tag] →
      Numeral.Spells position field.position →
      Numeral.Spells width field.width →
      Numeral.Spells tag field.tag → Describes words field

/-- What the expansion of a field consists of: an AND and an OR made by
    `SLICE` itself, on the line of the call, and a warning if the value has
    more bits than the field. -/
structure Makes (call : SliceCall) (field : BitField)
    (noted : Noted Expansion) : Prop where
  masks : noted.value = ⟨call.line, field.clearMask, field.setMask⟩
  records : ∃ clear set : Record, noted.value.records = [clear, set] ∧
    clear.opcode = .and ∧ set.opcode = .or
  plain : ∀ record ∈ noted.value.records,
    record.synthetic = true ∧ record.argument = none ∧
      record.identifier = none ∧ record.line = call.line
  bounded : ∀ record ∈ noted.value.records,
    0 ≤ record.parameter ∧ record.parameter ≤ 2 ^ 48 - 1
  warned : noted.warning ≠ none ↔ 2 ^ field.width ≤ field.tag
  told : ∀ warning ∈ noted.warning,
    warning = ⟨call.line, .slice, .tagSpills field.tag field.width⟩

/-! ## Fields -/

section

variable {words : List String} {found : BitField}

/-- Numbers that are spelled and allowed are found. -/
theorem field_of_spelledBy {position width tag : String}
    (hs : found.SpelledBy position width tag) (hvalid : found.Valid) :
    field (wordsFor position width tag) = .ok found := by
  have hpos := hvalid.position_pos
  have hone := hvalid.width_pos
  have hend := hvalid.end_le
  have hposition : bitCount .bitPosition position = .ok found.position := by
    rw [bitCount, value, hs.position]
    exact if_pos ⟨hpos, by omega⟩
  have hwidth : bitCount .bitWidth width = .ok found.width := by
    rw [bitCount, value, hs.width]
    exact if_pos ⟨hone, by omega⟩
  have htag : value .eventTag tag = .ok found.tag := by
    rw [value, hs.tag]
  have hfits : ¬ Parameter.bits < found.position + found.width - 1 :=
    Nat.not_lt.mpr hend
  have hsmall : ¬ largestSliceTag < found.tag := Nat.not_lt.mpr hvalid.tag_le
  rw [wordsFor, field]
  simp [expect, SliceArgument.keyword, hposition, hwidth, htag, hfits, hsmall,
    bind, Except.bind, pure, Except.pure]

/-- The checks together accept the words that describe a valid field. -/
theorem field_eq_ok_iff :
    field words = .ok found ↔ Describes words found ∧ found.Valid := by
  constructor
  · intro h
    obtain ⟨position, width, tag, hwords, hs, hvalid⟩ := field_eq_ok h
    exact ⟨.intro hwords (Text.Numeral.read?_eq_some_iff.mp hs.position).1
      (Text.Numeral.read?_eq_some_iff.mp hs.width).1
      (Text.Numeral.read?_eq_some_iff.mp hs.tag).1, hvalid⟩
  · rintro ⟨⟨rfl, hposition, hwidth, htag⟩, hvalid⟩
    have hpos := hvalid.position_pos
    have hone := hvalid.width_pos
    have hend := hvalid.end_le
    have htop := hvalid.tag_le
    have hread : ∀ {token : String} {n : Nat}, Numeral.Spells token n →
        n ≤ 1536 → Text.Numeral.read? token = some n := fun hspells hle =>
      Text.Numeral.read?_eq_some_iff.mpr
        ⟨hspells, Nat.le_trans hle (by decide)⟩
    rw [Parameter.bits] at hend
    exact field_of_spelledBy ⟨hread hposition (by omega),
      hread hwidth (by omega), hread htag htop⟩ hvalid

end

/-! ## Calls -/

section

variable {call : SliceCall} {field : BitField} {noted : Noted Expansion}

/-- The masks and the warning of a field are what it makes, and nothing else
    is. -/
theorem makes_iff :
    call.Makes field noted ↔
      noted = ⟨⟨call.line, field.clearMask, field.setMask⟩,
        spill call.line field⟩ := by
  constructor
  · intro h
    have hwarning : noted.warning = spill call.line field := by
      rw [spill]
      split
      · rename_i hspills
        obtain ⟨warning, hsome⟩ :=
          Option.ne_none_iff_exists'.mp (h.warned.mpr hspills)
        rw [hsome, h.told warning hsome]
      · rename_i hfits
        exact not_not.mp fun hne => hfits (h.warned.mp hne)
    obtain ⟨value, warning⟩ := noted
    rw [← h.masks, ← hwarning]
  · rintro rfl
    have hmask : ∀ (opcode : Opcode) (mask : Parameter),
        0 ≤ (Expansion.record call.line opcode mask).parameter ∧
          (Expansion.record call.line opcode mask).parameter
            ≤ 2 ^ 48 - 1 := by
      intro opcode mask
      have hlt : mask.toNat < 2 ^ 48 := mask.isLt
      show (0 : Int) ≤ mask.toNat ∧ (mask.toNat : Int) ≤ 2 ^ 48 - 1
      omega
    refine ⟨rfl, ⟨_, _, rfl, rfl, rfl⟩, ?plain, ?bounded, ?warned, ?told⟩
    case plain =>
      simp [Expansion.records, Expansion.record]
    case bounded =>
      simp only [Expansion.records, List.forall_mem_cons]
      exact ⟨hmask _ _, hmask _ _, List.forall_mem_nil _⟩
    case warned =>
      rw [spill]
      split
      · rename_i hspills
        exact iff_of_true (Option.some_ne_none _) hspills
      · rename_i hfits
        exact iff_of_false (fun h => h rfl) hfits
    case told =>
      intro warning hwarning
      obtain ⟨-, hwarning⟩ := Option.ite_none_right_eq_some.mp hwarning
      exact (Option.some.inj hwarning).symm

/-- A call is expanded to what the valid field makes that its words
    describe. -/
theorem expand_eq_ok_iff :
    call.expand = .ok noted ↔
      ∃ field, Describes call.words field ∧ field.Valid ∧
        call.Makes field noted := by
  constructor
  · intro h
    cases hf : SliceCall.field call.words with
    | error fault =>
        rw [expand, hf] at h
        cases h
    | ok found =>
        obtain ⟨hdescribes, hvalid⟩ := field_eq_ok_iff.mp hf
        rw [expand_of_field hf hvalid] at h
        exact ⟨found, hdescribes, hvalid,
          makes_iff.mpr (Except.ok.inj h).symm⟩
  · rintro ⟨found, hdescribes, hvalid, hmakes⟩
    rw [makes_iff.mp hmakes]
    exact expand_of_field (field_eq_ok_iff.mpr ⟨hdescribes, hvalid⟩) hvalid

/-- Words that are refused are refused on the line of the call, and nothing
    is kept of them. -/
theorem refused_of_field_error {fault : SliceFault}
    (h : SliceCall.field call.words = .error fault) :
    call.expand = .error ⟨call.line, .sliceRefused fault⟩ ∧
      ∀ (assembly : Assembly) (source : String),
        assembly.execute source (.slice call)
          = ⟨assembly, [], some ⟨call.line, .sliceRefused fault⟩⟩ := by
  have hexpand : call.expand = .error ⟨call.line, .sliceRefused fault⟩ := by
    rw [expand, h]
  refine ⟨hexpand, ?_⟩
  intro assembly source
  rw [Assembly.execute, hexpand]
  rfl

end

/-- **What `SLICE` accepts.**  A call is expanded exactly if its words
    describe a valid field, and what comes out is what this field makes.
    Otherwise the call is refused on its line, and the compilation is left as
    it was, without a record or a warning. -/
theorem expand_verdict (call : SliceCall) :
    ((∃ noted, call.expand = .ok noted) ↔
      ∃ field, Describes call.words field ∧ field.Valid) ∧
    (∀ noted, call.expand = .ok noted ↔
      ∃ field, Describes call.words field ∧ field.Valid ∧
        call.Makes field noted) ∧
    ((∃ fault, call.expand = .error ⟨call.line, .sliceRefused fault⟩ ∧
        ∀ (assembly : Assembly) (source : String),
          assembly.execute source (.slice call)
            = ⟨assembly, [], some ⟨call.line, .sliceRefused fault⟩⟩) ↔
      ¬ ∃ field, Describes call.words field ∧ field.Valid) := by
  have haccepts : (∃ noted, call.expand = .ok noted) ↔
      ∃ field, Describes call.words field ∧ field.Valid := by
    constructor
    · rintro ⟨noted, h⟩
      obtain ⟨field, hdescribes, hvalid, -⟩ := expand_eq_ok_iff.mp h
      exact ⟨field, hdescribes, hvalid⟩
    · rintro ⟨field, hdescribes, hvalid⟩
      exact ⟨_, expand_eq_ok_iff.mpr
        ⟨field, hdescribes, hvalid, makes_iff.mpr rfl⟩⟩
  refine ⟨haccepts, fun noted => expand_eq_ok_iff, ?_⟩
  constructor
  · rintro ⟨fault, hrefused, -⟩ hfield
    obtain ⟨noted, haccepted⟩ := haccepts.mpr hfield
    rw [hrefused] at haccepted
    cases haccepted
  · intro hnone
    cases hf : field call.words with
    | error fault => exact ⟨fault, refused_of_field_error hf⟩
    | ok found => exact absurd ⟨found, field_eq_ok_iff.mp hf⟩ hnone

/-- A field of two bits that begins at the last one ends beyond it. -/
example :
    (∃ noted, (mk (wordsFor "47" "0x2" "3") 5).expand = .ok noted) ∧
    (mk (wordsFor "48" "0x2" "3") 5).expand
      = .error ⟨5, .sliceRefused (.fieldTooLong 48 2)⟩ :=
  ⟨⟨_, rfl⟩, by decide +kernel⟩

end SliceCall

end TimingScript
