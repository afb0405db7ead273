import Mathlib.Algebra.Order.Ring.Nat
import Mathlib.Tactic.Common

/-!
# Rounding up to a multiple

`up n k` is the least multiple of `k` that is not below `n`.
-/

namespace Rounding

/-- `n` rounded up to a multiple of `k`. -/
def up (n k : Nat) : Nat := (n + k - 1) / k * k

variable {n m k d c : Nat}

theorem dvd_up (n k : Nat) : k ∣ up n k := Dvd.intro_left _ rfl

theorem le_up (hk : 0 < k) : n ≤ up n k := by
  have hmod := Nat.mod_lt (n + k - 1) hk
  have hdiv := Nat.div_add_mod (n + k - 1) k
  rw [up, Nat.mul_comm]
  omega

-- A multiple bounds the rounded number if it bounds the number.
theorem up_le_iff (hk : 0 < k) (hm : k ∣ m) : up n k ≤ m ↔ n ≤ m := by
  constructor
  · exact fun h => (le_up hk).trans h
  · intro h
    obtain ⟨q, rfl⟩ := hm
    have hlt : (n + k - 1) / k < q + 1 := by
      rw [Nat.div_lt_iff_lt_mul hk, Nat.add_mul, Nat.one_mul, Nat.mul_comm q k]
      omega
    rw [up, Nat.mul_comm k q]
    exact Nat.mul_le_mul_right k (Nat.le_of_lt_succ hlt)

theorem up_mono (hk : 0 < k) (h : n ≤ m) : up n k ≤ up m k :=
  (up_le_iff hk (dvd_up m k)).mpr (h.trans (le_up hk))

theorem up_of_dvd (hk : 0 < k) (h : k ∣ n) : up n k = n :=
  Nat.le_antisymm ((up_le_iff hk h).mpr (Nat.le_refl n)) (le_up hk)

-- Part of another multiple counts as a whole.
theorem up_add (hk : 0 < k) (hd : k ∣ d) (hc : 0 < c) (hck : c ≤ k) : up (d + c) k = d + k := by
  apply Nat.le_antisymm
  · exact (up_le_iff hk (Nat.dvd_add hd (Nat.dvd_refl k))).mpr (Nat.add_le_add_left hck d)
  · have hle : d + c ≤ up (d + c) k := le_up hk
    obtain ⟨p, hp⟩ := hd
    obtain ⟨q, hq⟩ := dvd_up (d + c) k
    rw [hq] at hle ⊢
    have hlt : k * p < k * q := by omega
    have hpq : p + 1 ≤ q := Nat.lt_of_mul_lt_mul_left hlt
    have hmul := Nat.mul_le_mul_left k hpq
    rw [Nat.mul_add, Nat.mul_one, ← hp] at hmul
    exact hmul

end Rounding
