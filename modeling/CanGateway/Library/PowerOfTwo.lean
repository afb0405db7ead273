import Mathlib.Data.Nat.Bitwise
import Mathlib.Tactic.Common

/-!
# Rounding down to a power of two

Or-ing a number with its own right shift by `w` doubles the run of ones below its highest bit.
Once the run covers the whole number, subtracting the half leaves the highest bit alone.
-/

namespace PowerOfTwo

/-- `x` has its highest bit at `h`, and the `w` bits from there down are all set. -/
structure TopBits (h w x : Nat) : Prop where
  lt : x < 2 ^ (h + 1)
  ones : ∀ i, i ≤ h → h < i + w → x.testBit i = true

theorem topBits_log2 (x : Nat) (hx : x ≠ 0) : TopBits x.log2 1 x where
  lt := Nat.lt_log2_self
  ones := by
    intro i hi hw
    obtain rfl : i = x.log2 := by omega
    exact Nat.testBit_log2 hx

-- One smearing step doubles the run.
theorem TopBits.smear {h w x : Nat} (hx : TopBits h w x) : TopBits h (w + w) (x ||| x >>> w) where
  lt := Nat.or_lt_two_pow hx.lt (Nat.lt_of_le_of_lt (Nat.shiftRight_le x w) hx.lt)
  ones := by
    intro i hi hw
    rw [Nat.testBit_or, Nat.testBit_shiftRight, Bool.or_eq_true]
    by_cases hrun : h < i + w
    · left
      exact hx.ones i hi hrun
    · right
      exact hx.ones (w + i) (by omega) (by omega)

-- A run of full length leaves no zero bit.
theorem TopBits.eq_of_full {h w x : Nat} (hx : TopBits h w x) (hw : h < w) :
    x = 2 ^ (h + 1) - 1 := by
  apply Nat.eq_of_testBit_eq
  intro i
  rw [Nat.testBit_two_pow_sub_one]
  by_cases hi : i ≤ h
  · rw [hx.ones i hi (by omega), decide_eq_true (by omega)]
  · have hlt : x < 2 ^ i := Nat.lt_of_lt_of_le hx.lt (Nat.pow_le_pow_right (by omega) (by omega))
    rw [Nat.testBit_lt_two_pow hlt, decide_eq_false (by omega)]

-- Subtracting its half from a number of ones leaves the highest bit.
theorem ones_sub_half (h : Nat) : 2 ^ (h + 1) - 1 - (2 ^ (h + 1) - 1) >>> 1 = 2 ^ h := by
  have hpos : 0 < 2 ^ h := Nat.two_pow_pos h
  rw [Nat.shiftRight_eq_div_pow, Nat.pow_succ]
  omega

-- Masking with `2 ^ k - 1` is reduction modulo `2 ^ k`, for a mask given by its successor.
theorem and_mask (x mask k : Nat) (h : mask + 1 = 2 ^ k) : x &&& mask = x % 2 ^ k := by
  rw [show mask = 2 ^ k - 1 by omega, Nat.and_two_pow_sub_one_eq_mod]

end PowerOfTwo
