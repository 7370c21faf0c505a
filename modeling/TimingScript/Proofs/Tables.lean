import TimingScript.Listing
import TimingScript.Proofs.Hexadecimal
import TimingScript.Proofs.Lines
import TimingScript.Proofs.Numerals

/-! # Tables — rows, read from their ends

    A row of a listing shows a source text of any length, in which there may
    be bars and what looks like bytes.  It can be read from its end all the
    same: the last bar but one stands in front of the bytes of the
    instruction, whatever is in front of that bar (`Text.lastCells`), and
    the bytes are read back from their digits (`Text.bytesOf`).  No row
    ends with a carriage return, so rows that are printed below each other
    are the lines of what is printed. -/

namespace TimingScript

open Source (LineNumber)

/-! ## Cells -/

namespace Text

/-- The part of a row from its last bar but one on. -/
def fromBars : List Char → List Char
  | [] => []
  | c :: rest =>
      if c = '|' ∧ rest.count '|' = 1 then c :: rest else fromBars rest

/-- The last two cells of a row, each behind its bar. -/
def lastCells (row : String) : String :=
  String.ofList (fromBars row.toList)

/-- Bytes at the front of a cell, two digits each behind a blank. -/
def readBytes : List Char → List UInt8
  | ' ' :: high :: low :: rest =>
      match Numeral.value? 16 [high, low] with
      | some n => UInt8.ofNat n :: readBytes rest
      | none => []
  | _ => []

/-- The bytes that a row shows in its last cell but one. -/
def bytesOf (row : String) : List UInt8 :=
  readBytes (fromBars row.toList).tail

/-- The characters that end cells and lines. -/
def isBound (c : Char) : Bool :=
  c = '|' || c = '\n' || c = '\r'

/-- Where two cells end a row, nothing in front of them matters. -/
theorem fromBars_append {cell last : List Char} (hcell : '|' ∉ cell)
    (hlast : '|' ∉ last) (front : List Char) :
    fromBars (front ++ '|' :: (cell ++ '|' :: last))
      = '|' :: (cell ++ '|' :: last) := by
  have hcount : (cell ++ '|' :: last).count '|' = 1 := by
    simp [List.count_eq_zero.mpr hcell, List.count_eq_zero.mpr hlast]
  induction front with
  | nil =>
      rw [List.nil_append, fromBars, if_pos ⟨rfl, hcount⟩]
  | cons c front ih =>
      rw [List.cons_append, fromBars, if_neg, ih]
      rintro ⟨-, hone⟩
      rw [List.count_append, List.count_cons_self, hcount] at hone
      omega

/-- Two digits behind a blank are a byte. -/
theorem readBytes_digits {high low : Char} {n : Nat}
    (h : Numeral.value? 16 [high, low] = some n) (rest : List Char) :
    readBytes (' ' :: high :: low :: rest)
      = UInt8.ofNat n :: readBytes rest := by
  rw [readBytes, h]

/-- Bytes are read back from their digits. -/
theorem readBytes_append (bytes : List UInt8) (rest : List Char) :
    readBytes (bytes.flatMap (fun byte => ' ' :: (hexByte byte).toList)
        ++ rest) = bytes ++ readBytes rest := by
  induction bytes with
  | nil => rfl
  | cons byte bytes ih =>
      obtain ⟨high, low, hdigits, hvalue⟩ := exists_toList_hexByte byte
      simp [hdigits, readBytes_digits hvalue, ih]

end Text

/-! ## Rows of instructions -/

namespace Instruction

/-- The cell of a row that shows the bytes. -/
def cell (instruction : Instruction) : List Char :=
  instruction.bytes.flatMap (fun byte => ' ' :: (Text.hexByte byte).toList)
    ++ [' ']

/-- A row consists of two cells. -/
theorem toList_row (instruction : Instruction) :
    instruction.row.toList
      = '|' :: (instruction.cell ++ '|' :: ' ' :: instruction.text.toList) := by
  simp [row, cell, List.flatMap_map]

/-- An instruction is printed within its cell. -/
theorem isBound_of_mem_text {instruction : Instruction} {c : Char}
    (h : c ∈ instruction.text.toList) : Text.isBound c = false := by
  have hmnemonic : ∀ opcode : Opcode,
      opcode.mnemonic.toList.all (fun d => !Text.isBound d) = true := by
    intro opcode
    cases opcode <;> rfl
  rw [text, String.toList_append, String.toList_append] at h
  rcases List.mem_append.mp h with h | h
  · rcases List.mem_append.mp h with h | h
    · simpa using List.all_eq_true.mp (hmnemonic _) c h
    · rw [List.mem_singleton.mp h]
      rfl
  · have hdigit := Text.Numeral.isDigit_of_mem_toString h
    cases hb : Text.isBound c with
    | false => rfl
    | true =>
        -- no digit is one of the three
        simp only [Text.isBound, Bool.or_eq_true, decide_eq_true_eq] at hb
        rcases hb with (rfl | rfl) | rfl <;> cases hdigit

/-- Bytes are shown within their cell. -/
theorem isBound_of_mem_cell {instruction : Instruction} {c : Char}
    (h : c ∈ instruction.cell) : Text.isBound c = false := by
  have hlower : "0123456789abcdef".toList.all (fun d => !Text.isBound d)
      = true := by
    rfl
  rcases List.mem_append.mp h with h | h
  · obtain ⟨byte, -, hc⟩ := List.mem_flatMap.mp h
    rcases List.mem_cons.mp hc with rfl | hc
    · rfl
    · have hc := (Text.writesHex_paddedHex (by decide) byte.toNat).lower c hc
      simpa using List.all_eq_true.mp hlower c hc
  · rw [List.mem_singleton.mp h]
    rfl

/-- The two cells of a row end it, whatever stands in front of them. -/
theorem fromBars_row (instruction : Instruction) (front : List Char) :
    Text.fromBars (front ++ instruction.row.toList)
      = instruction.row.toList := by
  rw [toList_row]
  apply Text.fromBars_append
  · intro h
    cases isBound_of_mem_cell h
  · intro h
    rcases List.mem_cons.mp h with h | h
    · cases h
    · cases isBound_of_mem_text h

/-- The bytes of an instruction are read from the end of its row. -/
theorem bytesOf_row (instruction : Instruction) (front : String) :
    Text.bytesOf (front ++ instruction.row) = instruction.bytes := by
  rw [Text.bytesOf, String.toList_append, fromBars_row, toList_row,
    List.tail_cons, cell, List.append_assoc, Text.readBytes_append]
  show instruction.bytes ++ [] = instruction.bytes
  rw [List.append_nil]

/-- A row ends no line. -/
theorem not_mem_row {instruction : Instruction} {c : Char}
    (hc : Text.isBound c = true) (hbar : c ≠ '|') :
    c ∉ instruction.row.toList := by
  rw [toList_row]
  simp only [List.mem_cons, List.mem_append, not_or]
  refine ⟨hbar, ?_, hbar, ?_, ?_⟩
  · intro h
    rw [isBound_of_mem_cell h] at hc
    cases hc
  · rintro rfl
    cases hc
  · intro h
    rw [isBound_of_mem_text h] at hc
    cases hc

/-- What ends with a row does not end with a carriage return. -/
theorem getLast?_row_ne (instruction : Instruction) (front : String) :
    (front ++ instruction.row).toList.getLast? ≠ some '\r' := by
  have hne : instruction.row.toList ≠ [] := by
    rw [toList_row]
    exact List.cons_ne_nil _ _
  rw [String.toList_append, List.getLast?_append_of_ne_nil _ hne]
  intro hlast
  exact instruction.not_mem_row (by decide) (by decide)
    (List.mem_of_getLast? hlast)

end Instruction

/-- A row of a listing ends with the row of its instruction. -/
theorem ListingRow.exists_text_eq (row : ListingRow) :
    ∃ front, row.text = front ++ row.instruction.row :=
  ⟨_, rfl⟩

/-! ## Rows below each other -/

/-- What is printed below each other is read line by line, if no line is
    broken and none ends with a carriage return. -/
theorem Source.lines_unlines_of_rows {rows : List String}
    (hfeed : ∀ row ∈ rows, '\n' ∉ row.toList)
    (hreturn : ∀ row ∈ rows, row.toList.getLast? ≠ some '\r') :
    lines (unlines rows) = rows := by
  rw [lines_unlines hfeed]
  refine (List.map_congr_left fun row hrow => ?_).trans (List.map_id rows)
  rw [stripReturn, if_neg (hreturn row hrow), String.ofList_toList]
  rfl

end TimingScript
