import TimingScript.Image
import TimingScript.Proofs.Bytes

/-! # Disassembly — which images are programs, and of which instructions

    Eight bytes are the word of an instruction if the first is the number
    of an operation and the second is zero; what is wrong with any other
    word is told by the first of the two that is not as it should be
    (`WordFault.Of`).

    Every sequence of bytes begins with words of instructions and goes on
    with a bad word, or with less than a word (`Image.exists_split`).  So
    an image is disassembled exactly to the instructions that it encodes,
    and what is wrong with it otherwise is `Faulty`: its size, or if that
    is right, its first bad word. -/

namespace TimingScript

/-! ## Numbers of operations -/

namespace Opcode

/-- The operation of a number is the one that has it. -/
theorem ofNumber?_eq_some_iff {byte : UInt8} {op : Opcode} :
    ofNumber? byte = some op ↔ op.number = byte := by
  constructor
  · intro h
    have hnumber := List.find?_some h
    exact of_decide_eq_true hnumber
  · rintro rfl
    exact ofNumber?_number op

/-- Only the numbers above 11 belong to no operation. -/
theorem ofNumber?_eq_none_iff {byte : UInt8} :
    ofNumber? byte = none ↔ 11 < byte := by
  constructor
  · intro h
    by_contra hle
    -- the numbers up to 11 are few enough to look all of them up
    have hall : ∀ n : Fin 12, (ofNumber? (UInt8.ofNat n)).isSome = true := by
      decide
    have hlt : byte.toNat < 12 := by
      have := UInt8.le_iff_toNat_le.mp (UInt8.not_lt.mp hle)
      exact Nat.lt_succ_of_le this
    have hbyte := hall ⟨byte.toNat, hlt⟩
    rw [UInt8.ofNat_toNat, h] at hbyte
    cases hbyte
  · intro h
    cases ho : ofNumber? byte with
    | none => rfl
    | some op =>
        obtain rfl := ofNumber?_eq_some_iff.mp ho
        have hle : op.number ≤ 11 := by cases op <;> decide
        exact absurd h (UInt8.not_lt.mpr hle)

end Opcode

/-! ## Words -/

/-- Bytes are the word of an instruction. -/
def Instruction.IsWord (word : List UInt8) : Prop :=
  ∃ instruction : Instruction, instruction.bytes = word

/-- What is wrong with a word: its first byte, or its second where the
    first is the number of an operation. -/
inductive WordFault.Of : List UInt8 → WordFault → Prop where
  | unknownOpcode {first : UInt8} {rest : List UInt8} :
      11 < first → Of (first :: rest) (.unknownOpcode first)
  | reservedInUse {first second : UInt8} {rest : List UInt8} :
      first ≤ 11 → second ≠ 0 →
      Of (first :: second :: rest) (.reservedInUse second)

/-- A word has one fault. -/
theorem WordFault.Of.unique {word : List UInt8} {fault fault' : WordFault}
    (h : fault.Of word) (h' : fault'.Of word) : fault = fault' := by
  cases h with
  | unknownOpcode hlt =>
      cases h' with
      | unknownOpcode _ => rfl
      | reservedInUse hle _ => exact absurd hlt (UInt8.not_lt.mpr hle)
  | reservedInUse hle _ =>
      cases h' with
      | unknownOpcode hlt => exact absurd hlt (UInt8.not_lt.mpr hle)
      | reservedInUse _ _ => rfl

namespace Instruction

@[simp] theorem length_bytes (instruction : Instruction) :
    instruction.bytes.length = size := rfl

/-- A word is read as the instruction that it encodes. -/
theorem decode_eq_ok_iff {first second : UInt8} {parameter : List UInt8}
    (h : parameter.length = 6) {instruction : Instruction} :
    decode first second parameter = .ok instruction
      ↔ instruction.bytes = first :: second :: parameter := by
  constructor
  · intro hd
    rw [decode] at hd
    cases ho : Opcode.ofNumber? first with
    | none => rw [ho] at hd; cases hd
    | some op =>
        rw [ho] at hd
        by_cases hz : second = 0
        · replace hd := (if_pos hz).symm.trans hd
          rw [← Except.ok.inj hd, bytes, Opcode.ofNumber?_eq_some_iff.mp ho,
            Parameter.bytes_ofBytes h, hz]
        · replace hd := (if_neg hz).symm.trans hd
          cases hd
  · intro hb
    obtain ⟨op, p⟩ := instruction
    obtain ⟨rfl, hrest⟩ := List.cons.inj hb
    obtain ⟨rfl, rfl⟩ := List.cons.inj hrest
    rw [decode, Opcode.ofNumber?_number]
    show Except.ok (Instruction.mk op (Parameter.ofBytes p.bytes)) = _
    rw [Parameter.ofBytes_bytes]

/-- A word is refused for its fault. -/
theorem decode_eq_error_iff {first second : UInt8} {parameter : List UInt8}
    {fault : WordFault} :
    decode first second parameter = .error fault
      ↔ fault.Of (first :: second :: parameter) := by
  rw [decode]
  cases ho : Opcode.ofNumber? first with
  | none =>
      have hlt := Opcode.ofNumber?_eq_none_iff.mp ho
      constructor
      · intro h
        rw [← Except.error.inj h]
        exact .unknownOpcode hlt
      · intro h
        rw [h.unique (.unknownOpcode hlt)]
  | some op =>
      have hle : first ≤ 11 := by
        apply UInt8.not_lt.mp
        intro hlt
        rw [Opcode.ofNumber?_eq_none_iff.mpr hlt] at ho
        cases ho
      by_cases hz : second = 0
      · constructor
        · intro h
          replace h := (if_pos hz).symm.trans h
          cases h
        · intro h
          cases h with
          | unknownOpcode hlt => exact absurd hlt (UInt8.not_lt.mpr hle)
          | reservedInUse _ hne => exact absurd hz hne
      · constructor
        · intro h
          replace h := (if_neg hz).symm.trans h
          rw [← Except.error.inj h]
          exact .reservedInUse hle hz
        · intro h
          rw [h.unique (.reservedInUse hle hz)]
          exact if_neg hz

/-- Eight bytes are two and the six of a parameter. -/
theorem exists_of_length_eq_size {word : List UInt8}
    (h : word.length = size) :
    ∃ first second parameter, word = first :: second :: parameter ∧
      parameter.length = 6 := by
  cases word with
  | nil => cases h
  | cons first rest =>
      cases rest with
      | nil => cases h
      | cons second parameter =>
          exact ⟨first, second, parameter, rfl,
            Nat.succ.inj (Nat.succ.inj h)⟩

/-- Eight bytes that are not the word of an instruction have a fault. -/
theorem not_isWord_iff {word : List UInt8} (h : word.length = size) :
    ¬ IsWord word ↔ ∃ fault : WordFault, fault.Of word := by
  obtain ⟨first, second, parameter, rfl, hp⟩ := exists_of_length_eq_size h
  constructor
  · intro hno
    cases hd : decode first second parameter with
    | ok instruction => exact absurd ⟨_, (decode_eq_ok_iff hp).mp hd⟩ hno
    | error fault => exact ⟨fault, decode_eq_error_iff.mp hd⟩
  · rintro ⟨fault, hfault⟩ ⟨instruction, hi⟩
    have hok := (decode_eq_ok_iff hp).mpr hi
    rw [decode_eq_error_iff.mpr hfault] at hok
    cases hok

end Instruction

/-! ## Runs of words -/

namespace Image

@[simp] theorem ofInstructions_cons (instruction : Instruction)
    (rest : List Instruction) :
    ofInstructions (instruction :: rest)
      = instruction.bytes ++ ofInstructions rest := rfl

@[simp] theorem ofInstructions_append (front back : List Instruction) :
    ofInstructions (front ++ back)
      = ofInstructions front ++ ofInstructions back :=
  List.flatMap_append

/-- A program has eight bytes for each instruction. -/
@[simp] theorem length_ofInstructions (instructions : List Instruction) :
    (ofInstructions instructions).length
      = Instruction.size * instructions.length := by
  induction instructions with
  | nil => rfl
  | cons instruction rest ih =>
      rw [ofInstructions_cons, List.length_append, ih,
        Instruction.length_bytes, List.length_cons, Nat.mul_succ,
        Nat.add_comm]

/-- The bytes of a word are read first. -/
theorem decodeWords_cons (offset : Nat) (first second : UInt8)
    {parameter : List UInt8} (h : parameter.length = 6)
    (rest : List UInt8) :
    decodeWords offset (first :: second :: (parameter ++ rest))
      = match Instruction.decode first second parameter with
        | .error fault => .error (.badWord offset fault)
        | .ok instruction =>
            match decodeWords (offset + Instruction.size) rest with
            | .error fault => .error fault
            | .ok instructions => .ok (instruction :: instructions) := by
  match parameter, h with
  | [_, _, _, _, _, _], _ => rw [List.cons_append]; rfl

/-- Words of instructions are read in order. -/
theorem decodeWords_ofInstructions_append (front : List Instruction)
    (rest : List UInt8) (offset : Nat) :
    decodeWords offset (ofInstructions front ++ rest)
      = (decodeWords (offset + Instruction.size * front.length) rest).map
          (front ++ ·) := by
  induction front generalizing offset with
  | nil =>
      show decodeWords offset rest = (decodeWords offset rest).map _
      cases decodeWords offset rest <;> rfl
  | cons instruction front ih =>
      have hd : Instruction.decode instruction.opcode.number 0
          instruction.parameter.bytes = .ok instruction :=
        (Instruction.decode_eq_ok_iff
          instruction.parameter.length_bytes).mpr rfl
      have hoffset : offset + Instruction.size
          + Instruction.size * front.length
          = offset + Instruction.size * (front.length + 1) := by
        rw [Nat.mul_succ]
        omega
      rw [ofInstructions_cons, List.append_assoc]
      show decodeWords offset (instruction.opcode.number :: 0
        :: (instruction.parameter.bytes ++ (ofInstructions front ++ rest))) = _
      rw [decodeWords_cons offset _ _ instruction.parameter.length_bytes, hd]
      dsimp only
      rw [ih, hoffset, List.length_cons]
      cases decodeWords (offset + Instruction.size * (front.length + 1))
        rest <;> rfl

/-- A bad word ends the reading. -/
theorem decodeWords_of_fault (offset : Nat) {word : List UInt8}
    {fault : WordFault} (h : word.length = Instruction.size)
    (hf : fault.Of word) (rest : List UInt8) :
    decodeWords offset (word ++ rest) = .error (.badWord offset fault) := by
  obtain ⟨first, second, parameter, rfl, hp⟩ :=
    Instruction.exists_of_length_eq_size h
  rw [List.cons_append, List.cons_append, decodeWords_cons offset _ _ hp,
    Instruction.decode_eq_error_iff.mpr hf]

/-- Bytes begin with words of instructions, up to a bad word or to what
    is less than a word. -/
theorem exists_split (bytes : List UInt8) :
    ∃ front rest, bytes = ofInstructions front ++ rest ∧
      (rest.length < Instruction.size ∨
        ∃ word back fault, rest = word ++ back ∧
          word.length = Instruction.size ∧ WordFault.Of word fault) := by
  induction hn : bytes.length using Nat.strongRecOn generalizing bytes with
  | ind n ih =>
      rcases Nat.lt_or_ge bytes.length Instruction.size with hlt | hge
      · exact ⟨[], bytes, rfl, .inl hlt⟩
      have hword : (bytes.take Instruction.size).length
          = Instruction.size := List.length_take_of_le hge
      have hsplit := List.take_append_drop Instruction.size bytes
      by_cases hw : Instruction.IsWord (bytes.take Instruction.size)
      · obtain ⟨instruction, hi⟩ := hw
        -- the rest is shorter by a word
        have hshort : (bytes.drop Instruction.size).length < n := by
          rw [List.length_drop, hn]
          have : 0 < Instruction.size := by decide
          omega
        obtain ⟨front, rest, hrest, hend⟩ := ih _ hshort _ rfl
        refine ⟨instruction :: front, rest, ?_, hend⟩
        rw [ofInstructions_cons, List.append_assoc, ← hrest, hi, hsplit]
      · obtain ⟨fault, hfault⟩ := (Instruction.not_isWord_iff hword).mp hw
        exact ⟨[], bytes, rfl,
          .inr ⟨_, _, fault, hsplit.symm, hword, hfault⟩⟩

/-! ## Whole images -/

/-- The word at a place of an image, counted from zero. -/
def word (image : Image) (k : Nat) : List UInt8 :=
  (image.toList.drop (Instruction.size * k)).take Instruction.size

/-- What is wrong with an image: it is not a whole number of words, or
    else its first word that is not that of an instruction. -/
inductive Faulty (image : Image) : ImageFault → Prop where
  | trailing : image.size % 8 ≠ 0 →
      Faulty image (.trailing (8 * (image.size / 8)) (image.size % 8))
  | badWord {k : Nat} {fault : WordFault} :
      image.size % 8 = 0 → k < image.size / 8 →
      (∀ j < k, Instruction.IsWord (image.word j)) →
      ¬ Instruction.IsWord (image.word k) → fault.Of (image.word k) →
      Faulty image (.badWord (8 * k) fault)

/-- An image has one fault. -/
theorem Faulty.unique {image : Image} {fault fault' : ImageFault}
    (h : Faulty image fault) (h' : Faulty image fault') :
    fault = fault' := by
  cases h with
  | trailing hne =>
      cases h' with
      | trailing _ => rfl
      | badWord hz _ _ _ _ => exact absurd hz hne
  | @badWord k _ hz _ hbefore hbad hof =>
      cases h' with
      | trailing hne => exact absurd hz hne
      | @badWord k' _ _ _ hbefore' hbad' hof' =>
          rcases Nat.lt_trichotomy k k' with hlt | rfl | hgt
          · exact absurd (hbefore' k hlt) hbad
          · rw [hof.unique hof']
          · exact absurd (hbefore k' hgt) hbad'

section

variable {image : Image}

/-- The word behind those of instructions. -/
theorem word_of_split {front : List Instruction} {w rest : List UInt8}
    (h : image.toList = ofInstructions front ++ (w ++ rest))
    (hw : w.length = Instruction.size) : image.word front.length = w := by
  rw [word, h, ← length_ofInstructions, List.drop_left, ← hw, List.take_left]

/-- The words that an image begins with. -/
theorem isWord_of_split {front : List Instruction} {rest : List UInt8}
    (h : image.toList = ofInstructions front ++ rest) {j : Nat}
    (hj : j < front.length) : Instruction.IsWord (image.word j) := by
  have hfront : front = front.take j ++ front[j] :: front.drop (j + 1) := by
    rw [List.getElem_cons_drop, List.take_append_drop]
  have hlen : (front.take j).length = j :=
    List.length_take_of_le (Nat.le_of_lt hj)
  rw [hfront, ofInstructions_append, ofInstructions_cons, List.append_assoc,
    List.append_assoc] at h
  have hword := word_of_split h (Instruction.length_bytes _)
  rw [hlen] at hword
  exact ⟨front[j], hword.symm⟩

/-- An image of whole words is read word by word. -/
theorem disassemble_of_whole (h : image.size % 8 = 0) :
    image.disassemble = decodeWords 0 image.toList :=
  if_pos h

/-- An image that encodes instructions has eight bytes for each. -/
theorem size_of_toList_eq {instructions : List Instruction}
    (h : image.toList = ofInstructions instructions) :
    image.size = 8 * instructions.length := by
  rw [← Array.length_toList, h, length_ofInstructions]
  rfl

/-- An image is disassembled to the instructions that it encodes. -/
theorem disassemble_of_toList_eq {instructions : List Instruction}
    (h : image.toList = ofInstructions instructions) :
    image.disassemble = .ok instructions := by
  have hsize := size_of_toList_eq h
  have hread := decodeWords_ofInstructions_append instructions [] 0
  rw [List.append_nil, ← h] at hread
  rw [disassemble_of_whole (by omega), hread]
  show Except.ok (instructions ++ []) = _
  rw [List.append_nil]

/-- An image with a fault encodes no instructions. -/
theorem Faulty.not_encodes {fault : ImageFault} (h : image.Faulty fault) :
    ¬ ∃ instructions, image.toList = ofInstructions instructions := by
  rintro ⟨instructions, hi⟩
  have hsize := size_of_toList_eq hi
  cases h with
  | trailing hne => omega
  | @badWord k _ _ hk _ hbad _ =>
      rw [← List.append_nil (ofInstructions instructions)] at hi
      exact hbad (isWord_of_split hi (by omega))

/-- An image that encodes no instructions has a fault, for which it is
    refused. -/
theorem exists_faulty
    (h : ¬ ∃ instructions, image.toList = ofInstructions instructions) :
    ∃ fault, image.disassemble = .error fault ∧ image.Faulty fault := by
  by_cases hz : image.size % 8 = 0
  · obtain ⟨front, rest, hsplit, hend⟩ := exists_split image.toList
    have hsize := congrArg List.length hsplit
    rw [List.length_append, length_ofInstructions, Array.length_toList,
      show Instruction.size = 8 from rfl] at hsize
    rcases hend with hshort | ⟨w, back, fault, rfl, hw, hfault⟩
    · -- less than a word of a whole number of words is nothing
      have hlen : rest.length < 8 := hshort
      obtain rfl : rest = [] := List.length_eq_zero_iff.mp (by omega)
      rw [List.append_nil] at hsplit
      exact absurd ⟨front, hsplit⟩ h
    · have hword := word_of_split hsplit hw
      have hplace : front.length < image.size / 8 := by
        have : w.length = 8 := hw
        rw [List.length_append] at hsize
        omega
      refine ⟨.badWord (8 * front.length) fault, ?_, ?_⟩
      · rw [disassemble_of_whole hz, hsplit,
          decodeWords_ofInstructions_append, decodeWords_of_fault _ hw hfault,
          Nat.zero_add]
        rfl
      · have hbad : ¬ Instruction.IsWord w :=
          (Instruction.not_isWord_iff hw).mpr ⟨fault, hfault⟩
        exact .badWord hz hplace (fun j hj => isWord_of_split hsplit hj)
          (by rw [hword]; exact hbad) (by rw [hword]; exact hfault)
  · have hoffset : image.size - image.size % 8 = 8 * (image.size / 8) := by
      omega
    refine ⟨_, ?_, .trailing hz⟩
    rw [← hoffset]
    exact if_neg hz

/-- An image is disassembled exactly to the instructions that it
    encodes. -/
theorem disassemble_eq_ok_iff {instructions : List Instruction} :
    image.disassemble = .ok instructions
      ↔ image.toList = ofInstructions instructions := by
  constructor
  · intro h
    by_cases hany : ∃ others, image.toList = ofInstructions others
    · obtain ⟨others, ho⟩ := hany
      rw [disassemble_of_toList_eq ho] at h
      rw [← Except.ok.inj h]
      exact ho
    · obtain ⟨fault, he, -⟩ := exists_faulty hany
      rw [h] at he
      cases he
  · exact disassemble_of_toList_eq

/-- An image is refused exactly for its fault. -/
theorem disassemble_eq_error_iff {fault : ImageFault} :
    image.disassemble = .error fault ↔ image.Faulty fault := by
  constructor
  · intro h
    have hnone : ¬ ∃ instructions, image.toList
        = ofInstructions instructions := by
      rintro ⟨instructions, hi⟩
      rw [disassemble_of_toList_eq hi] at h
      cases h
    obtain ⟨fault', he, hf⟩ := exists_faulty hnone
    rw [h] at he
    rw [Except.error.inj he]
    exact hf
  · intro h
    obtain ⟨fault', he, hf⟩ := exists_faulty h.not_encodes
    rw [h.unique hf]
    exact he

end

/-- **Disassembly inverts encoding.**  An image is disassembled exactly to
    the instructions whose words it consists of, so that no other image is
    disassembled to them; and it is refused exactly for its fault. -/
theorem disassemble_inverts (image : Image) :
    (∀ instructions, image.disassemble = .ok instructions
        ↔ image.toList = ofInstructions instructions) ∧
      (∀ (other : Image) (instructions : List Instruction),
        image.disassemble = .ok instructions →
        other.disassemble = .ok instructions → other = image) ∧
      ∀ fault, image.disassemble = .error fault ↔ image.Faulty fault := by
  refine ⟨fun _ => disassemble_eq_ok_iff, ?_,
    fun _ => disassemble_eq_error_iff⟩
  intro other instructions h h'
  apply Array.toList_inj.mp
  rw [disassemble_eq_ok_iff.mp h, disassemble_eq_ok_iff.mp h']

/-- A word with two faults is refused for the first of them, and only where
    the words in front of it are good. -/
theorem disassemble_inverts_second_word :
    disassemble #[1, 0, 0, 0, 0, 0, 0, 5] = .ok [⟨.start, 5⟩] ∧
      disassemble #[1, 0, 0, 0, 0, 0, 0, 5, 12, 1, 0, 0, 0, 0, 0, 0]
        = .error (.badWord 8 (.unknownOpcode 12)) := by
  refine ⟨((disassemble_inverts _).1 _).mpr rfl,
    ((disassemble_inverts _).2.2 _).mpr ?_⟩
  have hfault : (WordFault.unknownOpcode 12).Of [12, 1, 0, 0, 0, 0, 0, 0] :=
    .unknownOpcode (by decide)
  refine Faulty.badWord (k := 1) rfl (by decide) ?_ ?_ hfault
  · intro j hj
    obtain rfl : j = 0 := Nat.lt_one_iff.mp hj
    exact ⟨⟨.start, 5⟩, by decide⟩
  · exact (Instruction.not_isWord_iff rfl).mpr ⟨_, hfault⟩

end Image

end TimingScript
