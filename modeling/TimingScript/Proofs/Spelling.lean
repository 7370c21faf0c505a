import TimingScript.Proofs.Numerals
import TimingScript.Statement
import Mathlib.Data.Nat.Digits.Defs

/-! # Spelling — which words are numerals, and of which number

    A word is a numeral by its characters alone: each of them shows a digit
    of the base, there is at least one, and the number is the value of these
    digits (`Writes`).  A hexadecimal numeral has a mark in front of its
    digits (`Spells`).  No bound is needed to say so; reading refuses the
    numerals of larger numbers afterwards, and it refuses all other words
    with the same error (`number_reads_numerals`). -/

namespace TimingScript.Text.Numeral

/-! ## Digits -/

/-- The character is the digit worth `d`, in lower or in upper case. -/
def Shows (d : Nat) (c : Char) : Prop :=
  c = d.digitChar ∨ c = d.digitChar.toUpper

instance (d : Nat) (c : Char) : Decidable (Shows d c) :=
  inferInstanceAs (Decidable (_ ∨ _))

/-- The characters of a range show consecutive numbers. -/
theorem shows_of_range {low count shift : Nat} {c : Char}
    (hall : ∀ k < count, Shows (k + shift) (Char.ofNat (low + k)))
    (hlow : low ≤ c.toNat) (hhigh : c.toNat < low + count) :
    Shows (c.toNat - low + shift) c := by
  have hshows := hall (c.toNat - low) (by omega)
  rwa [Nat.add_sub_cancel' hlow, Char.ofNat_toNat] at hshows

/-- What has the value of a digit is one, in one of the three ranges. -/
theorem shows_of_digitValue? {c : Char} {d : Nat}
    (h : digitValue? c = some d) : d < 16 ∧ Shows d c := by
  have hdecimal : ∀ k < 10, Shows (k + 0) (Char.ofNat (48 + k)) := by decide
  have hlower : ∀ k < 6, Shows (k + 10) (Char.ofNat (97 + k)) := by decide
  have hupper : ∀ k < 6, Shows (k + 10) (Char.ofNat (65 + k)) := by decide
  rw [digitValue?] at h
  split at h
  · rename_i hc
    obtain ⟨hlow, hhigh⟩ : 48 ≤ c.toNat ∧ c.toNat ≤ 57 := hc
    have hlt : c.toNat - 48 < 16 := by omega
    rw [← Option.some.inj h]
    exact ⟨hlt, shows_of_range hdecimal hlow (Nat.lt_succ_of_le hhigh)⟩
  · split at h
    · rename_i hc
      obtain ⟨hlow, hhigh⟩ : 97 ≤ c.toNat ∧ c.toNat ≤ 102 := hc
      have hlt : c.toNat - 97 + 10 < 16 := by omega
      rw [← Option.some.inj h]
      exact ⟨hlt, shows_of_range hlower hlow (Nat.lt_succ_of_le hhigh)⟩
    · split at h
      · rename_i hc
        obtain ⟨hlow, hhigh⟩ : 65 ≤ c.toNat ∧ c.toNat ≤ 70 := hc
        have hlt : c.toNat - 65 + 10 < 16 := by omega
        rw [← Option.some.inj h]
        exact ⟨hlt, shows_of_range hupper hlow (Nat.lt_succ_of_le hhigh)⟩
      · cases h

/-- The digits of a base are the characters that show a smaller number. -/
theorem digit?_eq_some_iff {base d : Nat} (hbase : base ≤ 16) {c : Char} :
    digit? base c = some d ↔ d < base ∧ Shows d c := by
  have hvalues : ∀ d < 16, digitValue? d.digitChar = some d ∧
      digitValue? d.digitChar.toUpper = some d := by decide
  rw [digit?, Option.filter_eq_some_iff, decide_eq_true_eq]
  constructor
  · rintro ⟨hvalue, hlt⟩
    exact ⟨hlt, (shows_of_digitValue? hvalue).2⟩
  · rintro ⟨hlt, hshows⟩
    obtain ⟨hlower, hupper⟩ := hvalues d (Nat.lt_of_lt_of_le hlt hbase)
    rcases hshows with rfl | rfl
    · exact ⟨hlower, hlt⟩
    · exact ⟨hupper, hlt⟩

/-! ## Runs of digits -/

/-- The characters show digits of a base, one at least and the most
    significant first, and `n` is the value of these. -/
inductive Writes (base : Nat) (cs : List Char) (n : Nat) : Prop where
  | intro {digits : List Nat} : digits ≠ [] → (∀ d ∈ digits, d < base) →
      List.Forall₂ Shows digits cs →
      Nat.ofDigits base digits.reverse = n → Writes base cs n

/-- Characters that write a number are what its digits look like. -/
theorem Writes.forall_mem {base n : Nat} {cs : List Char}
    (h : Writes base cs n) {P : Char → Prop}
    (hP : ∀ d < base, P d.digitChar ∧ P d.digitChar.toUpper) :
    ∀ c ∈ cs, P c := by
  obtain ⟨-, hall, hshows, -⟩ := h
  induction hshows with
  | nil => exact nofun
  | cons hd _ ih =>
      obtain ⟨hlt, hall⟩ := List.forall_mem_cons.mp hall
      refine List.forall_mem_cons.mpr ⟨?_, ih hall⟩
      rcases hd with rfl | rfl
      · exact (hP _ hlt).1
      · exact (hP _ hlt).2

/-- A number is written by one character at least. -/
theorem Writes.ne_nil {base n : Nat} {cs : List Char}
    (h : Writes base cs n) : cs ≠ [] := by
  obtain ⟨hne, -, hshows, -⟩ := h
  rintro rfl
  cases hshows
  exact hne rfl

/-- The value of digits is computed from the most significant one on. -/
theorem ofDigits_reverse (base : Nat) (digits : List Nat) :
    Nat.ofDigits base digits.reverse
      = digits.foldl (fun n d => n * base + d) 0 := by
  rw [Nat.ofDigits_eq_foldr, List.foldr_reverse]
  congr 1
  funext n d
  rw [Nat.cast_id, Nat.mul_comm, Nat.add_comm]

/-- Digits in front are passed on as the number that they make. -/
theorem continue?_eq_some_iff {base : Nat} (hbase : base ≤ 16)
    {cs : List Char} {n : Nat} :
    ∀ {acc : Nat}, continue? base acc cs = some n ↔
      ∃ digits : List Nat, (∀ d ∈ digits, d < base) ∧
        List.Forall₂ Shows digits cs ∧
        digits.foldl (fun n d => n * base + d) acc = n := by
  induction cs with
  | nil =>
      intro acc
      rw [continue?, Option.some.injEq]
      constructor
      · rintro rfl
        exact ⟨[], List.forall_mem_nil _, .nil, rfl⟩
      · rintro ⟨digits, -, hshows, rfl⟩
        cases hshows
        rfl
  | cons c rest ih =>
      intro acc
      rw [continue?]
      constructor
      · intro h
        cases hc : digit? base c with
        | none => rw [hc] at h; cases h
        | some d =>
            rw [hc] at h
            obtain ⟨hlt, hd⟩ := (digit?_eq_some_iff hbase).mp hc
            obtain ⟨digits, hall, hshows, hn⟩ := ih.mp h
            exact ⟨d :: digits, List.forall_mem_cons.mpr ⟨hlt, hall⟩,
              .cons hd hshows, hn⟩
      · rintro ⟨_, hall, hshows, hn⟩
        cases hshows with
        | @cons d _ digits _ hd hshows =>
            obtain ⟨hlt, hall⟩ := List.forall_mem_cons.mp hall
            rw [(digit?_eq_some_iff hbase).mpr ⟨hlt, hd⟩]
            exact ih.mpr ⟨digits, hall, hshows, hn⟩

/-- A run of digits is read as the number that it writes. -/
theorem value?_eq_some_iff {base : Nat} (hbase : base ≤ 16)
    {cs : List Char} {n : Nat} :
    value? base cs = some n ↔ Writes base cs n := by
  rw [value?]
  constructor
  · intro h
    split at h
    · cases h
    · rename_i hne
      obtain ⟨digits, hall, hshows, hn⟩ := (continue?_eq_some_iff hbase).mp h
      refine .intro ?_ hall hshows ((ofDigits_reverse base digits).trans hn)
      rintro rfl
      cases hshows
      exact hne rfl
  · intro h
    have hne : ¬ cs.isEmpty = true := fun hempty =>
      h.ne_nil (List.isEmpty_iff.mp hempty)
    obtain ⟨-, hall, hshows, hn⟩ := h
    rename_i digits
    rw [if_neg hne, continue?_eq_some_iff hbase]
    exact ⟨digits, hall, hshows, (ofDigits_reverse base digits).symm.trans hn⟩

/-! ## Numerals -/

/-- The word is a numeral of a number: a run of decimal digits, or a run of
    hexadecimal ones behind a mark. -/
inductive Spells (token : String) (n : Nat) : Prop where
  | decimal : Writes 10 token.toList n → Spells token n
  | hexadecimal {mark : Char} {digits : List Char} :
      token.toList = '0' :: mark :: digits → mark = 'x' ∨ mark = 'X' →
      Writes 16 digits n → Spells token n

/-- Characters that write a decimal number are decimal digits. -/
theorem Writes.isDigit {cs : List Char} {n : Nat} (h : Writes 10 cs n) :
    ∀ c ∈ cs, c.isDigit = true :=
  h.forall_mem (by decide)

/-- The marks tell the two bases apart. -/
theorem unbounded?_eq_some_iff {token : String} {n : Nat} :
    unbounded? token.toList = some n ↔ Spells token n := by
  constructor
  · intro h
    rw [unbounded?.eq_def] at h
    split at h
    · rename_i digits htoken
      exact .hexadecimal htoken (.inl rfl)
        ((value?_eq_some_iff (by decide)).mp h)
    · rename_i digits htoken
      exact .hexadecimal htoken (.inr rfl)
        ((value?_eq_some_iff (by decide)).mp h)
    · exact .decimal ((value?_eq_some_iff (by decide)).mp h)
  · rintro (hdecimal | ⟨htoken, rfl | rfl, hwrites⟩)
    · rw [unbounded?_of_digits hdecimal.isDigit]
      exact (value?_eq_some_iff (by decide)).mpr hdecimal
    · rw [htoken]
      exact (value?_eq_some_iff (by decide)).mpr hwrites
    · rw [htoken]
      exact (value?_eq_some_iff (by decide)).mpr hwrites

/-- A word is read as a number exactly if it is a numeral of it, and the
    number is not beyond the limit of source text. -/
theorem read?_eq_some_iff {token : String} {n : Nat} :
    read? token = some n ↔ Spells token n ∧ n ≤ limit := by
  rw [read?, Option.filter_eq_some_iff, unbounded?_eq_some_iff,
    decide_eq_true_eq]

/-- The largest number can be written, and no larger one. -/
example : read? "9223372036854775807" = some limit ∧
    read? "9223372036854775808" = none := by
  decide +kernel

/-- The decimal digits of a number are a numeral of it. -/
theorem spells_toString (n : Nat) : Spells (toString n) n :=
  unbounded?_eq_some_iff.mp (unbounded?_toString n)

end TimingScript.Text.Numeral

namespace TimingScript.Statement

open Source (LineNumber)
open Text (Numeral.Spells)

section

variable {line : LineNumber} {keyword token : String}

/-- A word is accepted as the number that it is a numeral of. -/
theorem number_eq_ok_iff {n : Nat} :
    number line keyword token = .ok n ↔
      Numeral.Spells token n ∧ n ≤ Text.Numeral.limit := by
  rw [number, ← Text.Numeral.read?_eq_some_iff]
  cases Text.Numeral.read? token with
  | none => exact iff_of_false nofun nofun
  | some m => rw [Except.ok.injEq, Option.some.injEq]

/-- A word is refused if it is not a numeral, or one of too large a
    number. -/
theorem number_eq_error_iff {error : CompileError} :
    number line keyword token = .error error ↔
      error = ⟨line, .malformedNumber keyword token⟩ ∧
        ∀ n, Numeral.Spells token n → Text.Numeral.limit < n := by
  have hnone : (∀ n, Numeral.Spells token n → Text.Numeral.limit < n) ↔
      Text.Numeral.read? token = none := by
    rw [Option.eq_none_iff_forall_ne_some]
    refine forall_congr' fun n => ?_
    rw [Ne, Text.Numeral.read?_eq_some_iff, not_and, Nat.not_le]
  rw [hnone, number]
  cases Text.Numeral.read? token with
  | none =>
      rw [Except.error.injEq, eq_comm]
      exact (and_iff_left rfl).symm
  | some m =>
      refine iff_of_false nofun ?_
      rintro ⟨-, h⟩
      cases h

end

/-- **Numbers are read from numerals only.**  A word is read as a number
    exactly if it is a numeral of that number and the number is below 2^63.
    Every other word is refused, with its line and the keyword of that. -/
theorem number_reads_numerals (line : LineNumber) (keyword token : String) :
    (∀ n, number line keyword token = .ok n ↔
      Numeral.Spells token n ∧ n ≤ 2 ^ 63 - 1) ∧
    ∀ error, number line keyword token = .error error ↔
      error = ⟨line, .malformedNumber keyword token⟩ ∧
        ∀ n, Numeral.Spells token n → 2 ^ 63 - 1 < n := by
  constructor
  · intro n
    exact number_eq_ok_iff
  · intro error
    exact number_eq_error_iff

/-- A mark needs digits, and nothing may stand around them. -/
example : number 4 "SET" "0X00fF" = .ok 255 ∧
    ∀ token ∈ ["", "0x", "+1", "1_0", " 1", "1\n", "0x8000000000000000"],
      number 4 "SET" token = .error ⟨4, .malformedNumber "SET" token⟩ := by
  decide +kernel

end TimingScript.Statement
