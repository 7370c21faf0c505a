import TimingScript.Parameter
import Mathlib.Algebra.Group.Nat.Defs
import Mathlib.Data.List.Induction

/-! # Bytes — a parameter is a numeral in base 256

    The six bytes of a parameter are its digits in base 256, the most
    significant one first.  Digits and value are inverse to each other,
    whatever the number of digits: `value_digits` loses what is above the
    leading digit, `digits_value` loses nothing.  Six digits hold exactly
    the parameters, so the bytes of a parameter determine it and every six
    bytes are those of a parameter. -/

namespace TimingScript

namespace Bytes

/-- The number that bytes write in base 256, most significant first. -/
def value (bytes : List UInt8) : Nat :=
  bytes.foldl (fun n byte => n * 256 + byte.toNat) 0

/-- The last `count` digits of a number in base 256. -/
def digits : Nat → Nat → List UInt8
  | 0, _ => []
  | count + 1, n => digits count (n / 256) ++ [UInt8.ofNat n]

/-- One more byte moves the others to the left. -/
theorem value_concat (bytes : List UInt8) (byte : UInt8) :
    value (bytes ++ [byte]) = value bytes * 256 + byte.toNat := by
  rw [value, List.foldl_append]
  rfl

/-- Bytes write numbers below the next power of 256. -/
theorem value_lt (bytes : List UInt8) :
    value bytes < 256 ^ bytes.length := by
  induction bytes using List.reverseRecOn with
  | nil => exact Nat.one_pos
  | append_singleton bytes byte ih =>
      have hbyte := byte.toNat_lt
      rw [value_concat, List.length_append, List.length_singleton,
        Nat.pow_succ]
      omega

/-- The digits of a number write it, except for what is above them. -/
theorem value_digits (count n : Nat) :
    value (digits count n) = n % 256 ^ count := by
  induction count generalizing n with
  | zero => rw [Nat.pow_zero, Nat.mod_one]; rfl
  | succ count ih =>
      have hbyte : (UInt8.ofNat n).toNat = n % 256 := UInt8.toNat_ofNat'
      rw [digits, value_concat, ih, hbyte, Nat.pow_succ', Nat.mod_mul]
      omega

/-- Bytes are the digits of the number that they write. -/
theorem digits_value (bytes : List UInt8) :
    digits bytes.length (value bytes) = bytes := by
  induction bytes using List.reverseRecOn with
  | nil => rfl
  | append_singleton bytes byte ih =>
      have hbyte := byte.toNat_lt
      have hrest : (value bytes * 256 + byte.toNat) / 256 = value bytes := by
        omega
      have hlast : UInt8.ofNat (value bytes * 256 + byte.toNat) = byte := by
        apply UInt8.toNat_inj.mp
        rw [UInt8.toNat_ofNat']
        omega
      rw [value_concat, List.length_append, List.length_singleton, digits,
        hrest, hlast, ih]

end Bytes

namespace Parameter

/-- The bytes of a parameter are its six digits. -/
theorem bytes_eq (p : Parameter) : p.bytes = Bytes.digits 6 p.toNat := by
  simp [bytes, Bytes.digits, Nat.shiftRight_eq_div_pow,
    Nat.div_div_eq_div_mul]

/-- There are six of them. -/
@[simp] theorem length_bytes (p : Parameter) : p.bytes.length = 6 := rfl

/-- The number of six bytes is a parameter as it is. -/
theorem toNat_ofBytes {bytes : List UInt8} (h : bytes.length = 6) :
    (ofBytes bytes).toNat = Bytes.value bytes := by
  have hlt := Bytes.value_lt bytes
  rw [h] at hlt
  show (BitVec.ofNat 48 (Bytes.value bytes)).toNat = _
  rw [BitVec.toNat_ofNat]
  exact Nat.mod_eq_of_lt hlt

/-- A parameter is read from its bytes. -/
theorem ofBytes_bytes (p : Parameter) : ofBytes p.bytes = p := by
  apply BitVec.eq_of_toNat_eq
  rw [toNat_ofBytes p.length_bytes, bytes_eq, Bytes.value_digits]
  exact Nat.mod_eq_of_lt p.isLt

/-- Six bytes are those of the parameter that is read from them. -/
theorem bytes_ofBytes {bytes : List UInt8} (h : bytes.length = 6) :
    (ofBytes bytes).bytes = bytes := by
  have hdigits := Bytes.digits_value bytes
  rw [h] at hdigits
  rw [bytes_eq, toNat_ofBytes h, hdigits]

end Parameter

end TimingScript
