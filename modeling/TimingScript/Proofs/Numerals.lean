import TimingScript.Text.Numeral

/-! # Numerals — printed numbers are read back

    The decimal digits of a number are read as that number.  No decimal
    numeral is taken for a hexadecimal one, since its second character is a
    digit and so not the `x` of the mark. -/

namespace TimingScript.Text.Numeral

/-- A decimal digit is worth its distance from zero. -/
theorem digit?_ten {c : Char} (h : c.isDigit = true) :
    digit? 10 c = some (c.toNat - '0'.toNat) := by
  obtain ⟨hlow, hhigh⟩ : '0' ≤ c ∧ c ≤ '9' := by
    rw [Char.isDigit, Bool.and_eq_true, decide_eq_true_eq,
      decide_eq_true_eq] at h
    exact h
  have hbelow : c.toNat - '0'.toNat < 10 := by
    have hnine : c.toNat ≤ '9'.toNat := hhigh
    rw [show '9'.toNat = 57 from rfl] at hnine
    rw [show '0'.toNat = 48 from rfl]
    omega
  rw [digit?, digitValue?, if_pos ⟨hlow, hhigh⟩, Option.filter_some,
    if_pos (decide_eq_true hbelow)]

/-- Digits are read from the left, each a tenth of the one before. -/
theorem continue?_ten {digits : List Char}
    (h : ∀ c ∈ digits, c.isDigit = true) :
    ∀ acc, continue? 10 acc digits = some (Nat.ofDigitChars 10 digits acc) := by
  induction digits with
  | nil => intro acc; rfl
  | cons c rest ih =>
      intro acc
      obtain ⟨hc, hrest⟩ := List.forall_mem_cons.mp h
      rw [continue?, digit?_ten hc, Nat.ofDigitChars_cons, Nat.mul_comm 10 acc]
      exact ih hrest _

/-- A run of decimal digits is no hexadecimal numeral. -/
theorem unbounded?_of_digits {digits : List Char}
    (h : ∀ c ∈ digits, c.isDigit = true) :
    unbounded? digits = value? 10 digits := by
  rw [unbounded?]
  · intro rest hmark
    exact absurd (h 'x' (by simp [hmark])) (by decide)
  · intro rest hmark
    exact absurd (h 'X' (by simp [hmark])) (by decide)

/-- A number is printed with digits only. -/
theorem isDigit_of_mem_toString {n : Nat} {c : Char}
    (h : c ∈ (toString n).toList) : c.isDigit = true := by
  rw [Nat.toString_eq_ofList_toDigits, String.toList_ofList] at h
  exact Nat.isDigit_of_mem_toDigits (by decide) (by decide) h

/-- **Printed numbers are read back.**  The decimal digits of a number are
    read as that number, whichever it is. -/
theorem unbounded?_toString (n : Nat) :
    unbounded? (toString n).toList = some n := by
  have hdigits : ∀ c ∈ (toString n).toList, c.isDigit = true :=
    fun _ => isDigit_of_mem_toString
  have hvalue : Nat.ofDigitChars 10 (toString n).toList 0 = n := by
    rw [Nat.toString_eq_ofList_toDigits, String.toList_ofList,
      Nat.ofDigitChars_ten_toDigits]
  rw [unbounded?_of_digits hdigits, value?, if_neg (by simp),
    continue?_ten hdigits, hvalue]

end TimingScript.Text.Numeral
