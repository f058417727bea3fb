import Mathlib.Algebra.Group.Nat.Defs

namespace Library.Bits

/-! Fields that are packed into one machine word, and single bits of it -/

variable {w k : ℕ} {low high x : BitVec w}

/-- A field that is shifted to where no lower bits reach is added to them. -/
theorem pack_toNat (hlow : low.toNat < 2 ^ k) (hhigh : high.toNat * 2 ^ k < 2 ^ w) :
    (low ||| high <<< k).toNat = low.toNat + high.toNat * 2 ^ k := by
  rw [BitVec.toNat_or, BitVec.toNat_shiftLeft, Nat.shiftLeft_eq, Nat.mod_eq_of_lt hhigh,
    Nat.or_comm, ← Nat.shiftLeft_eq, ← Nat.shiftLeft_add_eq_or_of_lt hlow, Nat.add_comm]

theorem pack_lt {n : ℕ} (hlow : low.toNat < 2 ^ k) (hhigh : high.toNat < 2 ^ n)
    (hw : k + n ≤ w) : (low ||| high <<< k).toNat < 2 ^ (k + n) := by
  have hpow : 2 ^ (k + n) ≤ 2 ^ w := Nat.pow_le_pow_right (by omega) hw
  have hfield : (high.toNat + 1) * 2 ^ k ≤ 2 ^ n * 2 ^ k := Nat.mul_le_mul_right _ hhigh
  rw [Nat.add_mul, Nat.one_mul, ← Nat.pow_add, Nat.add_comm n] at hfield
  rw [pack_toNat hlow (by omega)]
  omega

/-- A field does not reach the bits below it. -/
theorem pack_getLsbD {i : ℕ} (hi : i < k) : (low ||| high <<< k).getLsbD i = low.getLsbD i := by
  simp [BitVec.getLsbD_shiftLeft, hi]

/-- A test for a flag reads its bit. -/
theorem flag_set {i : ℕ} : x &&& 1#w <<< i ≠ 0 ↔ x.getLsbD i = true := by
  rw [← BitVec.twoPow_eq, BitVec.and_twoPow]
  cases hx : x.getLsbD i with
  | false => simp
  | true =>
    have hi : i < w := BitVec.lt_of_getLsbD hx
    simp [← BitVec.toNat_inj, BitVec.toNat_twoPow_of_lt hi]

/-- A mask for the bits from `k` on reads the field that starts there. -/
theorem and_shifted (n m k : ℕ) : n &&& m <<< k = (n >>> k &&& m) <<< k := by
  apply Nat.eq_of_testBit_eq
  intro i
  by_cases hi : k ≤ i
  · simp [hi]
  · simp [hi]

/-- Nothing is left of a word without bits from the field on. -/
theorem shifted_zero : x >>> k = 0#w ↔ x.toNat < 2 ^ k := by
  rw [← BitVec.toNat_inj, BitVec.toNat_ushiftRight, Nat.shiftRight_eq_div_pow, BitVec.toNat_zero,
    Nat.div_eq_zero_iff_lt (Nat.two_pow_pos k)]

end Library.Bits
