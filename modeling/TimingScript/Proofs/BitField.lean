import TimingScript.Slice
import TimingScript.Proofs.Residues

/-! # Bit fields — what the two masks of `SLICE` do to a register

    A field is looked at from outside: which bits it covers, and which
    number these bits hold.  `Puts value before after` says that `after` is
    `before` with a value put into the field, without mentioning a mask.

    An AND with the first mask puts zero into the field.  The OR behind it
    puts the value there, provided that the value fits; otherwise its
    excess bits land on whatever is beyond the field (`stores_masks`). -/

namespace TimingScript

/-- A bit of a parameter, counted from 1 at its least significant end. -/
def Parameter.bit (p : Parameter) (n : Nat) : Bool :=
  p.getLsbD (n - 1)

namespace BitField

/-- The field covers a bit, counted from 1. -/
def Covers (field : BitField) (bit : Nat) : Prop :=
  field.position ≤ bit ∧ bit < field.position + field.width

instance (field : BitField) (bit : Nat) : Decidable (field.Covers bit) :=
  inferInstanceAs (Decidable (_ ∧ _))

/-- The number that the covered bits of a parameter hold. -/
def held (field : BitField) (p : Parameter) : Nat :=
  p.toNat / 2 ^ (field.position - 1) % 2 ^ field.width

/-- A field within a parameter, and a value that `SLICE` writes. -/
structure Valid (field : BitField) : Prop where
  position_pos : 1 ≤ field.position
  width_pos : 1 ≤ field.width
  end_le : field.position + field.width - 1 ≤ Parameter.bits
  tag_le : field.tag ≤ largestSliceTag

/-- A value is put into the field, and the bits that are not covered stay
    as they were. -/
structure Puts (field : BitField) (value : Nat) (before after : Parameter) :
    Prop where
  inside : field.held after = value
  outside : ∀ bit, 1 ≤ bit → ¬ field.Covers bit →
    after.bit bit = before.bit bit

/-- The value is stored in the field if it fits.  A value that does not is
    ORed onto the register with the field cleared, and loses the bits beyond
    the last one. -/
structure Stores (field : BitField) (before after : Parameter) : Prop where
  fits : field.tag < 2 ^ field.width → field.Puts field.tag before after
  spills : 2 ^ field.width ≤ field.tag →
    ∃ cleared, field.Puts 0 before cleared ∧
      after = cleared ||| Parameter.masked
        (field.tag * 2 ^ (field.position - 1))

section

variable {field : BitField}

/-! ## The masks, bit by bit -/

/-- The bits of the number held are the covered ones. -/
theorem testBit_held (h : field.Valid) (p : Parameter) (j : Nat) :
    (field.held p).testBit j
      = (decide (j < field.width) && p.bit (field.position + j)) := by
  have hpos := h.position_pos
  rw [held, Nat.testBit_mod_two_pow, Nat.testBit_div_two_pow,
    BitVec.testBit_toNat, Parameter.bit,
    show j + (field.position - 1) = field.position + j - 1 by omega]

/-- As many ones as the field is wide. -/
theorem getLsbD_ones (h : field.Valid) (i : Nat) :
    field.ones.getLsbD i = decide (i < field.width) := by
  have hend := h.end_le
  have hpos := h.position_pos
  have hwidth := h.width_pos
  rw [Parameter.bits] at hend
  rw [ones, Parameter.shiftedRight, Parameter.bits, if_neg (by omega),
    BitVec.getLsbD_ushiftRight, Parameter.max, BitVec.getLsbD_allOnes]
  exact decide_eq_decide.mpr (by omega)

/-- The first mask has the bits that the field does not cover. -/
theorem bit_clearMask (h : field.Valid) {bit : Nat} (h1 : 1 ≤ bit)
    (h48 : bit ≤ Parameter.bits) :
    field.clearMask.bit bit = !decide (field.Covers bit) := by
  have hend := h.end_le
  have hpos := h.position_pos
  have hwidth := h.width_pos
  rw [Parameter.bits] at hend h48
  rw [clearMask, Parameter.bit, BitVec.getLsbD_not,
    decide_eq_true (show bit - 1 < 48 by omega), Bool.true_and,
    Parameter.shiftedLeft, Parameter.bits, if_neg (by omega),
    BitVec.getLsbD_shiftLeft, getLsbD_ones h,
    decide_eq_true (show bit - 1 < 48 by omega), Bool.true_and]
  congr 1
  rw [Bool.eq_iff_iff]
  simp only [Bool.and_eq_true, Bool.not_eq_true', decide_eq_false_iff_not,
    decide_eq_true_eq]
  rw [Covers]
  omega

/-- The second mask is the value, moved to the field. -/
theorem setMask_eq (h : field.Valid) :
    field.setMask
      = Parameter.masked (field.tag * 2 ^ (field.position - 1)) := by
  have hend := h.end_le
  have hwidth := h.width_pos
  rw [Parameter.bits] at hend
  rw [setMask, Parameter.shiftedLeft, Parameter.bits, if_neg (by omega)]
  apply BitVec.eq_of_toNat_eq
  rw [BitVec.toNat_shiftLeft, Parameter.masked, Parameter.masked,
    BitVec.toNat_ofNat, BitVec.toNat_ofNat, Nat.shiftLeft_eq,
    Nat.mod_mul_mod]

/-- The second mask has the bits of the value from the field's position
    on. -/
theorem bit_setMask (h : field.Valid) {bit : Nat} (h1 : 1 ≤ bit)
    (h48 : bit ≤ Parameter.bits) :
    field.setMask.bit bit
      = (decide (field.position ≤ bit)
        && field.tag.testBit (bit - field.position)) := by
  have hpos := h.position_pos
  rw [Parameter.bits] at h48
  rw [setMask_eq h, Parameter.bit, Parameter.masked, BitVec.getLsbD_ofNat,
    decide_eq_true (show bit - 1 < 48 by omega), Bool.true_and,
    Nat.testBit_mul_two_pow,
    show bit - 1 - (field.position - 1) = bit - field.position by omega]
  congr 1
  exact decide_eq_decide.mpr (by omega)

/-! ## What is put into the field -/

/-- A value is put into the field by making its bits the covered ones. -/
theorem puts_of_bits (h : field.Valid) {value : Nat}
    (hvalue : value < 2 ^ field.width) {x y : Parameter}
    (hin : ∀ j < field.width, y.bit (field.position + j) = value.testBit j)
    (hout : ∀ bit, 1 ≤ bit → bit ≤ Parameter.bits → ¬ field.Covers bit →
      y.bit bit = x.bit bit) : field.Puts value x y where
  inside := by
    apply Nat.eq_of_testBit_eq
    intro j
    rw [testBit_held h]
    by_cases hj : j < field.width
    · rw [decide_eq_true hj, Bool.true_and, hin j hj]
    · have hbig : value < 2 ^ j := Nat.lt_of_lt_of_le hvalue
        (Nat.pow_le_pow_right (by decide) (Nat.not_lt.mp hj))
      rw [decide_eq_false hj, Bool.false_and, Nat.testBit_lt_two_pow hbig]
  outside := by
    intro bit h1 hcovers
    by_cases h48 : bit ≤ Parameter.bits
    · exact hout bit h1 h48 hcovers
    · -- there are no bits beyond the last one
      have hbit : 48 ≤ bit - 1 := Nat.le_sub_one_of_lt (Nat.not_le.mp h48)
      exact (BitVec.getLsbD_of_ge y _ hbit).trans
        (BitVec.getLsbD_of_ge x _ hbit).symm

/-- The covered bits begin at the field's position. -/
theorem covers_add {j : Nat} (hj : j < field.width) :
    field.Covers (field.position + j) :=
  ⟨Nat.le_add_right _ _, Nat.add_lt_add_left hj _⟩

/-- The AND puts zero into the field. -/
theorem puts_zero (h : field.Valid) (x : Parameter) :
    field.Puts 0 x (x &&& field.clearMask) := by
  have hand : ∀ bit, 1 ≤ bit → bit ≤ Parameter.bits →
      Parameter.bit (x &&& field.clearMask) bit
        = (x.bit bit && !decide (field.Covers bit)) := by
    intro bit h1 h48
    rw [← bit_clearMask h h1 h48]
    exact BitVec.getLsbD_and
  have hpos := h.position_pos
  have hend := h.end_le
  apply puts_of_bits h (Nat.two_pow_pos _)
  · intro j hj
    rw [hand _ (by omega) (by omega), decide_eq_true (covers_add hj),
      Bool.not_true, Bool.and_false, Nat.zero_testBit]
  · intro bit h1 h48 hcovers
    rw [hand bit h1 h48, decide_eq_false hcovers, Bool.not_false,
      Bool.and_true]

/-- The AND and the OR put a value that fits into the field. -/
theorem puts_tag (h : field.Valid) (hfits : field.tag < 2 ^ field.width)
    (x : Parameter) :
    field.Puts field.tag x ((x &&& field.clearMask) ||| field.setMask) := by
  have hor : ∀ bit, 1 ≤ bit → bit ≤ Parameter.bits →
      Parameter.bit ((x &&& field.clearMask) ||| field.setMask) bit
        = ((x.bit bit && !decide (field.Covers bit))
          || (decide (field.position ≤ bit)
            && field.tag.testBit (bit - field.position))) := by
    intro bit h1 h48
    rw [← bit_clearMask h h1 h48, ← bit_setMask h h1 h48]
    exact BitVec.getLsbD_or.trans
      (congrArg (· || _) BitVec.getLsbD_and)
  have hpos := h.position_pos
  have hend := h.end_le
  apply puts_of_bits h hfits
  · intro j hj
    have hcovers := covers_add hj
    rw [hor _ (by omega) (by omega), decide_eq_true hcovers,
      decide_eq_true hcovers.1, Bool.not_true, Bool.and_false,
      Bool.false_or, Bool.true_and, Nat.add_sub_cancel_left]
  · intro bit h1 h48 hcovers
    rw [hor bit h1 h48, decide_eq_false hcovers, Bool.not_false,
      Bool.and_true]
    -- a bit above the field is above every bit of the value
    by_cases hle : field.position ≤ bit
    · have hbig : field.tag < 2 ^ (bit - field.position) := by
        have habove : field.position + field.width ≤ bit :=
          Nat.not_lt.mp fun hlt => hcovers ⟨hle, hlt⟩
        exact Nat.lt_of_lt_of_le hfits
          (Nat.pow_le_pow_right (by decide) (by omega))
      rw [Nat.testBit_lt_two_pow hbig, Bool.and_false, Bool.or_false]
    · rw [decide_eq_false hle, Bool.false_and, Bool.or_false]

/-- The two masks store the value. -/
theorem stores_masks (h : field.Valid) (x : Parameter) :
    field.Stores x ((x &&& field.clearMask) ||| field.setMask) where
  fits := fun hfits => puts_tag h hfits x
  spills := fun _ =>
    ⟨x &&& field.clearMask, puts_zero h x, by rw [setMask_eq h]⟩

/-- A value spills if it needs more bits than the field has. -/
theorem spills_iff (h : field.Valid) :
    field.spills = true ↔ 2 ^ field.width ≤ field.tag := by
  have hend := h.end_le
  have hpos := h.position_pos
  have hwidth := h.width_pos
  have htag := h.tag_le
  rw [Parameter.bits] at hend
  rw [largestSliceTag] at htag
  have hones : field.ones.toNat = 2 ^ field.width - 1 := by
    apply Nat.eq_of_testBit_eq
    intro i
    rw [BitVec.testBit_toNat, getLsbD_ones h, Nat.testBit_two_pow_sub_one]
  have hmasked : (Parameter.masked field.tag).toNat = field.tag := by
    rw [Parameter.toNat_masked]
    exact Nat.mod_eq_of_lt (Nat.lt_of_le_of_lt htag (by decide))
  have hone : 0 < 2 ^ field.width := Nat.two_pow_pos _
  rw [spills, decide_eq_true_eq, BitVec.lt_def, hones, hmasked]
  omega

end

end BitField

end TimingScript
