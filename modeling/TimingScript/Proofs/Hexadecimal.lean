import TimingScript.Text.Numeral
import TimingScript.Text.Padding
import Mathlib.Algebra.Group.Nat.Defs
import Mathlib.Data.List.Basic

/-! # Hexadecimal digits — padded numbers are read back

    A column of a table holds a number in lower-case hexadecimal digits.
    Zeros in front fill the column up and do not change the number; there
    are more digits than the column is wide only if the number has that
    many (`Text.WritesHex`).  So a byte in two columns is two digits, which
    are read as that byte. -/

namespace TimingScript.Text

/-- The text writes a number in lower-case hexadecimal digits: in at least
    `width` of them, and in more only if fewer would not do. -/
structure WritesHex (width n : Nat) (text : String) : Prop where
  value : Numeral.value? 16 text.toList = some n
  lower : ∀ c ∈ text.toList, c ∈ "0123456789abcdef".toList
  wide : width ≤ text.length
  needed : width < text.length → 16 ^ (text.length - 1) ≤ n

namespace Numeral

/-- A digit below 16 is read as itself, and it is in lower case. -/
theorem digit?_digitChar {d : Nat} (h : d < 16) :
    digit? 16 d.digitChar = some d ∧
      d.digitChar ∈ "0123456789abcdef".toList := by
  have hall : ∀ d : Fin 16, digit? 16 (Nat.digitChar d) = some d.val ∧
      Nat.digitChar d ∈ "0123456789abcdef".toList := by
    decide
  exact hall ⟨d, h⟩

/-- Digits behind others continue their number. -/
theorem continue?_append (base : Nat) (front back : List Char) :
    ∀ acc, continue? base acc (front ++ back)
      = (continue? base acc front).bind (continue? base · back) := by
  induction front with
  | nil => intro acc; rfl
  | cons c rest ih =>
      intro acc
      rw [List.cons_append, continue?, continue?]
      cases digit? base c with
      | none => rfl
      | some d => exact ih _

/-- Zeros in front of a number do not change it. -/
theorem continue?_zeros (count : Nat) (digits : List Char) :
    continue? 16 0 (List.replicate count '0' ++ digits)
      = continue? 16 0 digits := by
  induction count with
  | zero => rfl
  | succ count ih =>
      rw [List.replicate_succ, List.cons_append]
      exact ih

/-- The hexadecimal digits of a number are read as that number. -/
theorem continue?_toDigits (n : Nat) :
    continue? 16 0 (Nat.toDigits 16 n) = some n := by
  induction n using Nat.strongRecOn with
  | ind n ih =>
      have hlast : ∀ acc d, d < 16 →
          continue? 16 acc [Nat.digitChar d] = some (acc * 16 + d) := by
        intro acc d hd
        rw [continue?, (digit?_digitChar hd).1]
        rfl
      rcases Nat.lt_or_ge n 16 with hlt | hge
      · rw [Nat.toDigits_of_lt_base hlt, hlast 0 n hlt, Nat.zero_mul,
          Nat.zero_add]
      · rw [Nat.toDigits_of_base_le (by decide) hge, continue?_append,
          ih (n / 16) (by omega), Option.bind_some,
          hlast _ _ (Nat.mod_lt n (by decide)), Nat.div_add_mod']

/-- The hexadecimal digits of a number are in lower case. -/
theorem lower_of_mem_toDigits {n : Nat} {c : Char}
    (h : c ∈ Nat.toDigits 16 n) : c ∈ "0123456789abcdef".toList := by
  induction n using Nat.strongRecOn with
  | ind n ih =>
      rcases Nat.lt_or_ge n 16 with hlt | hge
      · rw [Nat.toDigits_of_lt_base hlt, List.mem_singleton] at h
        rw [h]
        exact (digit?_digitChar hlt).2
      · rw [Nat.toDigits_of_base_le (by decide) hge] at h
        rcases List.mem_append.mp h with h | h
        · exact ih (n / 16) (by omega) h
        · rw [List.mem_singleton.mp h]
          exact (digit?_digitChar (Nat.mod_lt n (by decide))).2

end Numeral

/-- A padded number is written as it has to be. -/
theorem writesHex_paddedHex {width : Nat} (hwidth : 0 < width) (n : Nat) :
    WritesHex width n (paddedHex width n) where
  value := by
    rw [paddedHex, String.toList_ofList, Numeral.value?, if_neg,
      List.leftpad, Numeral.continue?_zeros, Numeral.continue?_toDigits]
    simp [List.leftpad, Nat.toDigits_ne_nil]
  lower := by
    intro c hc
    rw [paddedHex, String.toList_ofList, List.leftpad] at hc
    rcases List.mem_append.mp hc with hc | hc
    · rw [List.eq_of_mem_replicate hc]
      decide
    · exact Numeral.lower_of_mem_toDigits hc
  wide := by
    rw [paddedHex, String.length_ofList, List.length_leftpad]
    exact Nat.le_max_left _ _
  needed := by
    rw [paddedHex, String.length_ofList, List.length_leftpad]
    intro hlong
    have hlen : max width (Nat.toDigits 16 n).length
        = (Nat.toDigits 16 n).length := by omega
    rw [hlen] at hlong ⊢
    apply Nat.not_lt.mp
    intro hfits
    have hshort :=
      (Nat.length_toDigits_le_iff (by decide) (by omega)).mpr hfits
    omega

/-- A number that fits fills its column exactly. -/
theorem WritesHex.length_eq {width n : Nat} {text : String}
    (h : WritesHex width n text) (hn : n < 16 ^ width) :
    text.length = width := by
  rcases Nat.lt_or_ge width text.length with hlong | hle
  · have hpow : 16 ^ width ≤ 16 ^ (text.length - 1) :=
      Nat.pow_le_pow_right (by decide) (by omega)
    exact absurd (Nat.le_trans hpow (h.needed hlong)) (Nat.not_le.mpr hn)
  · exact Nat.le_antisymm hle h.wide

/-- A byte has two digits, which are read as that byte. -/
theorem exists_toList_hexByte (byte : UInt8) :
    ∃ high low, (hexByte byte).toList = [high, low] ∧
      Numeral.value? 16 [high, low] = some byte.toNat := by
  have h : WritesHex 2 byte.toNat (hexByte byte) :=
    writesHex_paddedHex (by decide) byte.toNat
  have hlen : (hexByte byte).toList.length = 2 :=
    String.length_toList.trans (h.length_eq byte.toNat_lt)
  obtain ⟨high, low, hdigits⟩ := List.length_eq_two.mp hlen
  refine ⟨high, low, hdigits, ?_⟩
  rw [← hdigits]
  exact h.value

end TimingScript.Text
