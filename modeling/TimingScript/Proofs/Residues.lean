import Mathlib.Data.Int.ModEq
import TimingScript.Parameter

/-! # Residues — which parameter is made of a number

    Two conversions bring a number back to 48 bits.  The checked one keeps
    the number and refuses those that have no place there, each with the
    reason (`checked_eq_ok_iff`, `checked_eq_error_iff`).  The other one
    takes the residue modulo 2^48 of any number, also of a negative one.
    They agree wherever the first one accepts.

    The low bits of an unsigned number are its residue too.  So a signed
    number may as well be cut off in its two's complement
    (`wrapping_eq_masked`). -/

namespace TimingScript

namespace Parameter

/-! ## Reduction -/

/-- The low bits of an unsigned number are its residue. -/
theorem toNat_masked (n : Nat) : (masked n).toNat = n % modulus :=
  BitVec.toNat_ofNat n 48

/-- A reduced number is the residue that is not negative. -/
theorem toNat_wrapping (n : Int) :
    ((wrapping n).toNat : Int) = n % (modulus : Int) := by
  have hpos : 0 ≤ n % (modulus : Int) := Int.emod_nonneg n (by decide)
  rw [wrapping, BitVec.toNat_ofInt]
  exact Int.toNat_of_nonneg hpos

/-- Among the parameters only the residue of a number is congruent to it. -/
theorem eq_toNat_wrapping_iff {n : Int} {v : Nat} :
    v = (wrapping n).toNat
      ↔ v < modulus ∧ (v : Int) ≡ n [ZMOD (modulus : Int)] := by
  have hresidue := toNat_wrapping n
  constructor
  · rintro rfl
    refine ⟨(wrapping n).isLt, ?_⟩
    rw [Int.ModEq, hresidue, Int.emod_emod]
  · rintro ⟨hlt, hmod⟩
    have hself : (v : Int) % (modulus : Int) = v :=
      Int.emod_eq_of_lt (Int.natCast_nonneg v) (Int.ofNat_lt.mpr hlt)
    rw [Int.ModEq, hself, ← hresidue] at hmod
    exact Int.ofNat_inj.mp hmod

/-- The numbers that are parameters as they are are their own residues. -/
theorem toNat_wrapping_eq_self_iff {n : Int} :
    ((wrapping n).toNat : Int) = n ↔ 0 ≤ n ∧ n < (modulus : Int) := by
  constructor
  · intro h
    have hlt : (wrapping n).toNat < modulus := (wrapping n).isLt
    omega
  · rintro ⟨hnonneg, hlt⟩
    rw [toNat_wrapping, Int.emod_eq_of_lt hnonneg hlt]

/-- A number is reduced to zero exactly if it is a multiple of 2^48. -/
theorem wrapping_eq_zero_iff {n : Int} :
    wrapping n = 0 ↔ (modulus : Int) ∣ n := by
  rw [← BitVec.toInt_inj, wrapping, BitVec.toInt_ofInt]
  constructor
  · intro h
    exact Int.dvd_of_bmod_eq_zero h
  · intro h
    exact Int.bmod_eq_zero_of_dvd h

/-- A number of 128 bits is reduced to the low bits of the lower half of its
    two's complement: 2^48 divides 2^64, and this 2^128. -/
theorem wrapping_eq_masked (n : Int) :
    wrapping n = masked ((BitVec.ofInt 128 n).setWidth 64).toNat := by
  have hwide : 0 ≤ n % ((2 ^ 128 : Nat) : Int) :=
    Int.emod_nonneg n (by decide)
  have hnarrow : (modulus : Int) ∣ ((2 ^ 128 : Nat) : Int) :=
    Int.natCast_dvd_natCast.mpr (by decide)
  apply BitVec.eq_of_toNat_eq
  apply Int.ofNat_inj.mp
  rw [toNat_wrapping, toNat_masked, BitVec.toNat_setWidth,
    Nat.mod_mod_of_dvd _ (show modulus ∣ 2 ^ 64 by decide),
    BitVec.toNat_ofInt, Int.natCast_mod, Int.toNat_of_nonneg hwide,
    Int.emod_emod_of_dvd n hnarrow]

/-! ## Checked conversion -/

/-- What is accepted is kept. -/
theorem checked_eq_ok_iff {n : Int} {p : Parameter} :
    checked n = .ok p ↔ (p.toNat : Int) = n := by
  have hlt : p.toNat < modulus := p.isLt
  rw [checked]
  split
  · exact iff_of_false (by rintro ⟨⟩) (by omega)
  · split
    · exact iff_of_false (by rintro ⟨⟩) (by omega)
    · have hkept : ((masked n.toNat).toNat : Int) = n := by
        rw [toNat_masked, Nat.mod_eq_of_lt (by omega)]
        omega
      constructor
      · intro h
        rw [← Except.ok.inj h]
        exact hkept
      · rintro rfl
        exact congrArg Except.ok
          (BitVec.eq_of_toNat_eq (Int.ofNat_inj.mp hkept))

/-- A parameter is accepted as it is. -/
theorem checked_toNat (p : Parameter) : checked p.toNat = .ok p :=
  checked_eq_ok_iff.mpr rfl

/-- What is refused is negative or too large, and the error names it. -/
theorem checked_eq_error_iff {n : Int} {error : RangeError} :
    checked n = .error error ↔
      (n < 0 ∧ error = .negative n) ∨
      ∃ m : Nat, n = m ∧ modulus ≤ m ∧ error = .tooLarge m := by
  rw [checked]
  split
  · rename_i hneg
    constructor
    · intro h
      exact .inl ⟨hneg, (Except.error.inj h).symm⟩
    · rintro (⟨-, rfl⟩ | ⟨m, rfl, -⟩)
      · rfl
      · omega
  · rename_i hneg
    split
    · rename_i hlarge
      constructor
      · intro h
        exact .inr ⟨n.toNat, (Int.toNat_of_nonneg (Int.not_lt.mp hneg)).symm,
          hlarge, (Except.error.inj h).symm⟩
      · rintro (⟨h, -⟩ | ⟨m, rfl, -, rfl⟩)
        · exact absurd h hneg
        · rfl
    · exact iff_of_false (by rintro ⟨⟩) (by omega)

/-- Numbers that fit are their own residues. -/
theorem checked_eq_ok {n : Int} {p : Parameter} (h : checked n = .ok p) :
    p = wrapping n := by
  obtain rfl := checked_eq_ok_iff.mp h
  rw [wrapping, BitVec.ofInt_natCast, BitVec.ofNat_toNat, BitVec.setWidth_eq]

/-- The numbers that are parameters as they are. -/
theorem exists_checked_iff {n : Int} :
    (∃ p, checked n = .ok p) ↔ 0 ≤ n ∧ n < (modulus : Int) := by
  rw [← toNat_wrapping_eq_self_iff]
  constructor
  · rintro ⟨p, h⟩
    rw [← checked_eq_ok h]
    exact checked_eq_ok_iff.mp h
  · intro h
    exact ⟨wrapping n, checked_eq_ok_iff.mpr h⟩

/-- A multiple of 2^48 above zero is too large for a parameter. -/
theorem checked_of_dvd {n : Int} (hpos : 0 < n) (h : (modulus : Int) ∣ n) :
    checked n = .error (.tooLarge n.toNat) := by
  have hle : (modulus : Int) ≤ n := Int.le_of_dvd hpos h
  exact checked_eq_error_iff.mpr (.inr ⟨n.toNat, by omega, by omega, rfl⟩)

end Parameter

end TimingScript
