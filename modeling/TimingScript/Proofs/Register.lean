import TimingScript.Parameter.Register
import TimingScript.Proofs.Bytes
import TimingScript.Proofs.Residues
import TimingScript.Proofs.Spelling

/-! # Registers — exact arithmetic modulo 2^48

    What an operation makes of a register is computed exactly, on natural
    numbers where nothing overflows (`Operation.onNumber`).  No operation leaves
    the numbers below 2^48 (`Operation.onNumber_lt`); for those that are given
    a number it is the reduction that keeps them there, and for a shift to
    the right or a complement it is the number that was there before.

    A machine has the register in a word of 64 bits, of which the upper ones
    are to be zero (`Operation.onWord`).  There a shift loses bits and a
    complement sets the upper ones, so the word has to be masked, and a
    count has to be looked at before it is used.  On words that hold a
    parameter this comes to the same numbers (`Operation.toNat_onWord`), so
    the upper bits stay zero in every run. -/

namespace TimingScript

/-- Bytes write the number of which they are the digits. -/
theorem Bytes.value_eq_ofDigits (bytes : List UInt8) :
    value bytes = Nat.ofDigits 256 (bytes.map UInt8.toNat).reverse := by
  rw [Text.Numeral.ofDigits_reverse, List.foldl_map]
  rfl

namespace Parameter

/-! ## Shifts and complements -/

/-- All bits leave to the left if there are 48 places or more. -/
theorem mul_two_pow_mod_modulus {count : Nat} (h : bits ≤ count) (x : Nat) :
    x * 2 ^ count % modulus = 0 :=
  Nat.mod_eq_zero_of_dvd (Dvd.dvd.mul_left (Nat.pow_dvd_pow 2 h) x)

/-- All bits leave to the right if there are 48 places or more. -/
theorem div_two_pow_eq_zero {count : Nat} (h : bits ≤ count) {x : Nat}
    (hx : x < modulus) : x / 2 ^ count = 0 :=
  Nat.div_eq_of_lt
    (Nat.lt_of_lt_of_le hx (Nat.pow_le_pow_right Nat.two_pos h))

/-- A shift to the left multiplies, whatever the count is. -/
theorem toNat_shiftedLeft (p : Parameter) (count : Nat) :
    (p.shiftedLeft count).toNat = p.toNat * 2 ^ count % modulus := by
  rw [shiftedLeft]
  split
  · rename_i hcount
    exact (mul_two_pow_mod_modulus hcount p.toNat).symm
  · rw [BitVec.toNat_shiftLeft, Nat.shiftLeft_eq]
    rfl

/-- A shift to the right divides, whatever the count is. -/
theorem toNat_shiftedRight (p : Parameter) (count : Nat) :
    (p.shiftedRight count).toNat = p.toNat / 2 ^ count := by
  rw [shiftedRight]
  split
  · rename_i hcount
    exact (div_two_pow_eq_zero hcount p.isLt).symm
  · rw [BitVec.toNat_ushiftRight, Nat.shiftRight_eq_div_pow]

/-- A complement is what is missing to the largest parameter. -/
theorem toNat_complement (p : Parameter) :
    (~~~p).toNat = modulus - 1 - p.toNat :=
  BitVec.toNat_not

/-! ## Bytes as numerals -/

/-- The six bytes of a parameter are the digits of its number. -/
theorem ofDigits_bytes (p : Parameter) :
    Nat.ofDigits 256 (p.bytes.map UInt8.toNat).reverse = p.toNat := by
  rw [← Bytes.value_eq_ofDigits, ← toNat_ofBytes p.length_bytes,
    ofBytes_bytes]

/-- Six bytes write the number of a parameter. -/
theorem value_lt_modulus (bytes : Vector UInt8 6) :
    Bytes.value bytes.toList < modulus := by
  have hlt := Bytes.value_lt bytes.toList
  rwa [bytes.length_toList] at hlt

namespace Operation

/-! ## Operations on numbers -/

/-- What an operation makes of a number. -/
def onNumber (x : Nat) : Operation → Nat
  | .load n => if 0 ≤ n ∧ n < (modulus : Int) then n.toNat else x
  | .widen n => n.toNat
  | .mask n => n % modulus
  | .wrap n => (n % (modulus : Int)).toNat
  | .shiftLeft count => x * 2 ^ count % modulus
  | .shiftRight count => x / 2 ^ count
  | .complement => modulus - 1 - x
  | .maximum => modulus - 1
  | .read bytes => Nat.ofDigits 256 (bytes.toList.map UInt8.toNat).reverse

/-- No operation leaves the numbers of parameters. -/
theorem onNumber_lt {x : Nat} (h : x < modulus) (operation : Operation) :
    operation.onNumber x < modulus := by
  have hpos : 0 < modulus := by decide
  cases operation with
  | load n =>
      rw [onNumber]
      split
      · omega
      · exact h
  | widen n => exact Nat.lt_trans n.toNat_lt (by decide)
  | mask n => exact Nat.mod_lt n hpos
  | wrap n =>
      have hlt := Int.emod_lt_of_pos n (Int.natCast_pos.mpr hpos)
      rw [onNumber]
      omega
  | shiftLeft count => exact Nat.mod_lt _ hpos
  | shiftRight count => exact Nat.lt_of_le_of_lt (Nat.div_le_self x _) h
  | complement =>
      rw [onNumber]
      omega
  | maximum => exact Nat.sub_lt hpos Nat.one_pos
  | read bytes =>
      rw [onNumber, ← Bytes.value_eq_ofDigits]
      exact value_lt_modulus bytes

/-- Every operation on a parameter is exact. -/
theorem toNat_step (p : Parameter) (operation : Operation) :
    (step p operation).toNat = operation.onNumber p.toNat := by
  cases operation with
  | load n =>
      rw [step, apply, onNumber]
      cases hn : checked n with
      | ok q =>
          obtain rfl := checked_eq_ok_iff.mp hn
          exact (if_pos ⟨Int.natCast_nonneg _, Int.ofNat_lt.mpr q.isLt⟩).symm
      | error cause =>
          refine (if_neg fun hfits => ?_).symm
          obtain ⟨q, hq⟩ := exists_checked_iff.mpr hfits
          rw [hn] at hq
          cases hq
  | widen n =>
      have hlt : n.toNat < modulus := Nat.lt_trans n.toNat_lt (by decide)
      exact (toNat_masked n.toNat).trans (Nat.mod_eq_of_lt hlt)
  | mask n => exact toNat_masked n
  | wrap n =>
      rw [onNumber, ← toNat_wrapping, Int.toNat_natCast]
      rfl
  | shiftLeft count => exact toNat_shiftedLeft p count
  | shiftRight count => exact toNat_shiftedRight p count
  | complement => exact toNat_complement p
  | maximum => rfl
  | read bytes =>
      rw [onNumber, ← Bytes.value_eq_ofDigits]
      exact toNat_ofBytes bytes.length_toList

/-! ## Operations on words -/

/-- The word with a one for each bit of a parameter. -/
def lowBits : BitVec 64 := BitVec.ofNat 64 (modulus - 1)

/-- Bytes put into a word one behind the other. -/
def wordOfBytes (bytes : List UInt8) : BitVec 64 :=
  bytes.foldl (fun w byte => w <<< 8 ||| byte.toBitVec.setWidth 64) 0

/-- What an operation makes of a word of 64 bits. -/
def onWord (w : BitVec 64) : Operation → BitVec 64
  | .load n =>
      if 0 ≤ n ∧ n < (modulus : Int) then BitVec.ofInt 64 n else w
  | .widen n => n.toBitVec.setWidth 64
  | .mask n => BitVec.ofNat 64 n &&& lowBits
  | .wrap n => BitVec.ofInt 64 (n % (modulus : Int))
  | .shiftLeft count => if bits ≤ count then 0 else w <<< count &&& lowBits
  | .shiftRight count => if bits ≤ count then 0 else w >>> count
  | .complement => ~~~w &&& lowBits
  | .maximum => lowBits
  | .read bytes => wordOfBytes bytes.toList

/-- Masking a word reduces its number. -/
theorem toNat_and_lowBits (w : BitVec 64) :
    (w &&& lowBits).toNat = w.toNat % modulus := by
  rw [BitVec.toNat_and]
  exact Nat.and_two_pow_sub_one_eq_mod w.toNat 48

/-- What is cut off to a word first is masked to the same. -/
theorem mod_word_mod_modulus (n : Nat) :
    n % 2 ^ 64 % modulus = n % modulus :=
  Nat.mod_mod_of_dvd n (show modulus ∣ 2 ^ 64 by decide)

/-- One more byte moves the others to the left. -/
theorem toNat_shiftLeft_or_byte (w : BitVec 64) (byte : UInt8) :
    (w <<< 8 ||| byte.toBitVec.setWidth 64).toNat
      = (w.toNat * 256 + byte.toNat) % 2 ^ 64 := by
  have hbyte : byte.toNat < 2 ^ 8 := byte.toNat_lt
  -- the places that become free are those of the byte
  have hmoved : w.toNat * 2 ^ 8 % 2 ^ 64 = (w.toNat % 2 ^ 56) <<< 8 := by
    rw [Nat.shiftLeft_eq]
    omega
  rw [BitVec.toNat_or, BitVec.toNat_shiftLeft, BitVec.toNat_setWidth,
    UInt8.toNat_toBitVec, Nat.shiftLeft_eq, hmoved,
    Nat.mod_eq_of_lt (Nat.lt_trans hbyte (by decide)),
    ← Nat.shiftLeft_add_eq_or_of_lt hbyte, ← hmoved]
  omega

/-- Bytes in a word write their number, except for what leaves the word. -/
theorem toNat_wordOfBytes (bytes : List UInt8) :
    (wordOfBytes bytes).toNat = Bytes.value bytes % 2 ^ 64 := by
  induction bytes using List.reverseRecOn with
  | nil => rfl
  | append_singleton bytes byte ih =>
      have hsnoc : wordOfBytes (bytes ++ [byte])
          = wordOfBytes bytes <<< 8 ||| byte.toBitVec.setWidth 64 := by
        rw [wordOfBytes, List.foldl_append]
        rfl
      rw [hsnoc, toNat_shiftLeft_or_byte, ih, Bytes.value_concat]
      omega

/-- Every operation on a word that holds a parameter is exact. -/
theorem toNat_onWord {w : BitVec 64} (h : w.toNat < modulus)
    (operation : Operation) :
    (operation.onWord w).toNat = operation.onNumber w.toNat := by
  have hmodulus : modulus = 281474976710656 := rfl
  cases operation with
  | load n =>
      rw [onWord, onNumber]
      split
      · rw [BitVec.toNat_ofInt]
        omega
      · rfl
  | widen n =>
      have hlt : n.toNat < 2 ^ 64 := Nat.lt_trans n.toNat_lt (by decide)
      rw [onWord, BitVec.toNat_setWidth]
      exact Nat.mod_eq_of_lt hlt
  | mask n =>
      rw [onWord, toNat_and_lowBits, BitVec.toNat_ofNat, mod_word_mod_modulus]
      rfl
  | wrap n =>
      rw [onWord, BitVec.toNat_ofInt, onNumber, hmodulus]
      omega
  | shiftLeft count =>
      rw [onWord, onNumber]
      split
      · rename_i hcount
        exact (mul_two_pow_mod_modulus hcount w.toNat).symm
      · rw [toNat_and_lowBits, BitVec.toNat_shiftLeft, mod_word_mod_modulus,
          Nat.shiftLeft_eq]
  | shiftRight count =>
      rw [onWord, onNumber]
      split
      · rename_i hcount
        exact (div_two_pow_eq_zero hcount h).symm
      · rw [BitVec.toNat_ushiftRight, Nat.shiftRight_eq_div_pow]
  | complement =>
      rw [hmodulus] at h
      rw [onWord, toNat_and_lowBits, BitVec.toNat_not, onNumber, hmodulus]
      omega
  | maximum => rfl
  | read bytes =>
      -- six bytes leave two bytes of the word free
      have hlt : Bytes.value bytes.toList < 2 ^ 64 :=
        Nat.lt_trans (value_lt_modulus bytes) (by decide)
      rw [onWord, toNat_wordOfBytes, Nat.mod_eq_of_lt hlt,
        Bytes.value_eq_ofDigits]
      rfl

end Operation

/-! ## Sequences of operations -/

/-- A sequence of operations keeps to the numbers of parameters. -/
theorem foldl_onNumber_lt {x : Nat} (h : x < modulus)
    (operations : List Operation) :
    operations.foldl Operation.onNumber x < modulus := by
  induction operations generalizing x with
  | nil => exact h
  | cons operation operations ih => exact ih (operation.onNumber_lt h)

/-- A sequence of operations on a parameter is exact. -/
theorem toNat_foldl_step (p : Parameter) (operations : List Operation) :
    (operations.foldl step p).toNat
      = operations.foldl Operation.onNumber p.toNat := by
  induction operations generalizing p with
  | nil => rfl
  | cons operation operations ih =>
      rw [List.foldl_cons, List.foldl_cons, ih, Operation.toNat_step]

/-- So is one on a word, in which the upper bits stay zero. -/
theorem toNat_foldl_onWord {w : BitVec 64} (h : w.toNat < modulus)
    (operations : List Operation) :
    (operations.foldl Operation.onWord w).toNat
      = operations.foldl Operation.onNumber w.toNat := by
  induction operations generalizing w with
  | nil => rfl
  | cons operation operations ih =>
      have hstep := operation.toNat_onWord h
      have hlt : (operation.onWord w).toNat < modulus := by
        rw [hstep]
        exact operation.onNumber_lt h
      rw [List.foldl_cons, List.foldl_cons, ih hlt, hstep]

/-- **Exact arithmetic modulo 2^48.**  A sequence of operations makes of a
    register, and of a word that holds one, what it makes of the number, and
    this stays below 2^48.  Each operation is exact for all that it is given:
    reduction, checked conversion, shifts by any count, complement, and the
    bytes in base 256. -/
theorem run_exact :
    (∀ operations : List Operation,
      (run operations).toNat = operations.foldl Operation.onNumber 0 ∧
      (operations.foldl Operation.onWord 0).toNat
        = operations.foldl Operation.onNumber 0 ∧
      operations.foldl Operation.onNumber 0 < modulus) ∧
    (∀ n : Nat, (masked n).toNat = n % modulus) ∧
    (∀ n : Int, ((wrapping n).toNat : Int) = n % (modulus : Int) ∧
      wrapping n = masked ((BitVec.ofInt 128 n).setWidth 64).toNat) ∧
    (∀ n : Int,
      (∀ p : Parameter, checked n = .ok p ↔ (p.toNat : Int) = n) ∧
      ((∃ p, checked n = .ok p) ↔ 0 ≤ n ∧ n < (modulus : Int)) ∧
      ∀ error, checked n = .error error ↔
        (n < 0 ∧ error = .negative n) ∨
        ∃ m : Nat, n = m ∧ modulus ≤ m ∧ error = .tooLarge m) ∧
    (∀ (p : Parameter) (count : Nat),
      (p.shiftedLeft count).toNat = p.toNat * 2 ^ count % modulus ∧
      (p.shiftedRight count).toNat = p.toNat / 2 ^ count) ∧
    (∀ p : Parameter, (~~~p).toNat = modulus - 1 - p.toNat) ∧
    (∀ p : Parameter, p.bytes.length = 6 ∧
      Nat.ofDigits 256 (p.bytes.map UInt8.toNat).reverse = p.toNat ∧
      ofBytes p.bytes = p) ∧
    ∀ bytes : Vector UInt8 6,
      (ofBytes bytes.toList).toNat
        = Nat.ofDigits 256 (bytes.toList.map UInt8.toNat).reverse ∧
      (ofBytes bytes.toList).bytes = bytes.toList := by
  refine ⟨?runs, toNat_masked, ?residue, ?conversion, ?shifts,
    toNat_complement, ?written, ?read⟩
  case runs =>
    intro operations
    have hword : (0 : BitVec 64).toNat < modulus := by decide
    exact ⟨toNat_foldl_step 0 operations, toNat_foldl_onWord hword operations,
      foldl_onNumber_lt hword operations⟩
  case residue =>
    intro n
    exact ⟨toNat_wrapping n, wrapping_eq_masked n⟩
  case conversion =>
    intro n
    exact ⟨fun _ => checked_eq_ok_iff, exists_checked_iff,
      fun _ => checked_eq_error_iff⟩
  case shifts =>
    intro p count
    exact ⟨toNat_shiftedLeft p count, toNat_shiftedRight p count⟩
  case written =>
    intro p
    exact ⟨p.length_bytes, ofDigits_bytes p, ofBytes_bytes p⟩
  case read =>
    intro bytes
    have hlength : bytes.toList.length = 6 := Vector.length_toList
    rw [← Bytes.value_eq_ofDigits]
    exact ⟨toNat_ofBytes hlength, bytes_ofBytes hlength⟩

example :
    (run [.wrap (-1), .load (-1), .shiftLeft 44, .shiftRight 40]).toNat
      = 240 := by
  decide

end Parameter

end TimingScript
