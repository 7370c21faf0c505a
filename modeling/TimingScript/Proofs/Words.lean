import TimingScript.Source.Word

/-! # Words in a row — what is written apart is read apart

    The scanner takes words as long as possible, so a word ends exactly
    where something else stands behind it.  Words that are written with a
    separator in front of each are therefore read as they are, each in the
    column where it was put (`read_separated`). -/

namespace TimingScript.Source.Word

/-- A text that can be a word of a line. -/
def IsWord (text : String) : Prop :=
  text.toList ≠ [] ∧ ∀ c ∈ text.toList, isLetter c = true

/-- Letters are looked for in the text, not among all characters. -/
instance (text : String) : Decidable (IsWord text) :=
  decidable_of_iff (text.toList ≠ [] ∧ text.toList.all isLetter = true)
    (and_congr_right' List.all_eq_true)

/-! ## Single words -/

/-- Digits are letters. -/
theorem isLetter_of_isDigit {c : Char} (h : c.isDigit = true) :
    isLetter c = true := by
  have hne : ∀ d : Char, d.isDigit = false → c ≠ d := by
    rintro d hd rfl
    rw [h] at hd
    cases hd
  simp [isLetter, isSeparator, hne ' ' rfl, hne '\t' rfl, hne '\r' rfl,
    hne '=' rfl, hne '/' rfl, hne '\n' rfl]

/-- Separators only move the column. -/
theorem scan_separator {c : Char} (h : isSeparator c = true) (column : Nat)
    (rest : List Char) : scan column (c :: rest) = scan (column + 1) rest := by
  have hslash : c ≠ '/' := by
    rintro rfl
    exact absurd h (by decide)
  have hfeed : c ≠ '\n' := by
    rintro rfl
    exact absurd h (by decide)
  rw [scan, if_neg hslash, if_neg hfeed, if_pos h]

/-- The first letter of a word takes the other ones with it. -/
theorem scan_letter {c : Char} (h : isLetter c = true) (column : Nat)
    (rest : List Char) :
    scan column (c :: rest)
      = (scan (column + 1 + (rest.takeWhile isLetter).length)
          (rest.dropWhile isLetter)).map
            (⟨String.ofList (c :: rest.takeWhile isLetter), column⟩ :: ·) := by
  simp only [isLetter, Bool.and_eq_true, Bool.not_eq_true', bne_iff_ne] at h
  obtain ⟨⟨hsep, hslash⟩, hfeed⟩ := h
  rw [scan, if_neg hslash, if_neg hfeed, if_neg (by rw [hsep]; decide)]
  dsimp only
  cases scan (column + 1 + (rest.takeWhile isLetter).length)
    (rest.dropWhile isLetter) <;> rfl

/-- A word ends where no letter follows it. -/
theorem scan_word {word : String} (hw : IsWord word) (column : Nat)
    {rest : List Char} (hrest : ∀ c ∈ rest.head?, isLetter c = false) :
    scan column (word.toList ++ rest)
      = (scan (column + word.length) rest).map (⟨word, column⟩ :: ·) := by
  obtain ⟨hne, hletters⟩ := hw
  obtain ⟨c, cs, hcs⟩ := List.exists_cons_of_ne_nil hne
  rw [hcs] at hletters
  obtain ⟨hc, hcs'⟩ := List.forall_mem_cons.mp hletters
  have hstop : rest.takeWhile isLetter = [] ∧ rest.dropWhile isLetter = rest := by
    cases rest with
    | nil => exact ⟨rfl, rfl⟩
    | cons d others =>
        have hd := hrest d rfl
        exact ⟨List.takeWhile_cons_of_neg (by rw [hd]; decide),
          List.dropWhile_cons_of_neg (by rw [hd]; decide)⟩
  rw [hcs, List.cons_append, scan_letter hc,
    List.takeWhile_append_of_pos hcs', List.dropWhile_append_of_pos hcs',
    hstop.1, hstop.2, List.append_nil, ← hcs, String.ofList_toList,
    ← String.length_toList, hcs, List.length_cons, Nat.add_assoc,
    Nat.add_comm 1]

/-- Mnemonics are words. -/
theorem isWord_mnemonic (opcode : Opcode) : IsWord opcode.mnemonic := by
  cases opcode <;> decide

/-! ## Rows of words -/

/-- Words with a separator in front of each. -/
def separated (words : List (Char × String)) : List Char :=
  words.flatMap fun (c, word) => c :: word.toList

/-- Words with a blank in front of each. -/
def spaced (words : List String) : List Char :=
  words.flatMap fun word => ' ' :: word.toList

/-- Where words stand that have a separator in front of each, the first
    separator in the given column. -/
def placed (column : Nat) : List String → List Word
  | [] => []
  | word :: rest =>
      ⟨word, column + 1⟩ :: placed (column + 1 + word.length) rest

section

variable {words : List (Char × String)}

/-- A row of words begins with a separator, if at all. -/
theorem head?_separated (h : ∀ w ∈ words, isSeparator w.1 = true) :
    ∀ c ∈ (separated words).head?, isLetter c = false := by
  cases words with
  | nil => exact nofun
  | cons w rest =>
      rintro _ ⟨⟩
      rw [isLetter, h w List.mem_cons_self]
      rfl

/-- Words with a separator in front of each are read as they are. -/
theorem scan_separated
    (h : ∀ w ∈ words, isSeparator w.1 = true ∧ IsWord w.2) :
    ∀ column, scan column (separated words)
      = .ok (placed column (words.map Prod.snd)) := by
  induction words with
  | nil => intro column; rw [separated, List.flatMap_nil, scan]; rfl
  | cons w rest ih =>
      intro column
      obtain ⟨⟨hseparator, hword⟩, hrest⟩ := List.forall_mem_cons.mp h
      rw [separated, List.flatMap_cons, List.cons_append,
        scan_separator hseparator, ← separated,
        scan_word hword _ (head?_separated fun v hv => (hrest v hv).1),
        ih hrest]
      rfl

/-- **Words in a row.**  A line that consists of words, one separator apart,
    is read as these words. -/
theorem read_separated {line : LineNumber} {text first : String}
    (htext : text.toList = first.toList ++ separated words)
    (hfirst : IsWord first)
    (h : ∀ w ∈ words, isSeparator w.1 = true ∧ IsWord w.2) :
    read line text
      = .ok (⟨first, 1⟩ :: placed (1 + first.length)
          (words.map Prod.snd)) := by
  rw [read, htext,
    scan_word hfirst _ (head?_separated fun v hv => (h v hv).1),
    scan_separated h]
  rfl

end

end TimingScript.Source.Word
