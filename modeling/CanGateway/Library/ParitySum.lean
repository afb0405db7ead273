import Mathlib.Tactic.Common

/-!
# Parity sums

A checksum that combines the words of a record by an operation in which every word is its own
inverse.  Replacing one word shifts the sum by the difference of the two words, so no single change
goes unseen.
-/

namespace ParitySum

variable {α : Type*}

/-- The combination of the first `n` words. -/
def sum (op : α → α → α) (e : α) (f : Nat → α) : Nat → α
  | 0 => e
  | n + 1 => op (sum op e f n) (f n)

variable {op : α → α → α} {e : α}

theorem sum_congr {f g : Nat → α} {n : Nat} (h : ∀ i, i < n → f i = g i) :
    sum op e f n = sum op e g n := by
  induction n with
  | zero => rfl
  | succ n ih =>
      rw [sum, sum, ih (fun i hi => h i (Nat.lt_succ_of_lt hi)), h n (Nat.lt_succ_self n)]

section Group

variable [Std.Associative op] [Std.LawfulIdentity op e]

-- A record that is cut in two.
theorem sum_add (f : Nat → α) (m n : Nat) :
    sum op e f (m + n) = op (sum op e f m) (sum op e (fun i => f (m + i)) n) := by
  induction n with
  | zero => exact (Std.LawfulRightIdentity.right_id _).symm
  | succ n ih =>
      show op (sum op e f (m + n)) (f (m + n)) = _
      rw [ih, ‹Std.Associative op›.assoc]
      rfl

theorem sum_succ_front (f : Nat → α) (n : Nat) :
    sum op e f (n + 1) = op (f 0) (sum op e (fun i => f (i + 1)) n) := by
  have hone : sum op e f 1 = f 0 := Std.LawfulLeftIdentity.left_id _
  rw [Nat.add_comm n 1, sum_add f 1 n, hone]
  congr 1
  exact sum_congr fun i _ => congrArg f (Nat.add_comm 1 i)

variable (hself : ∀ x, op x x = e)

include hself

theorem op_cancel_left (a b : α) : op a (op a b) = b := by
  rw [← ‹Std.Associative op›.assoc, hself]
  exact Std.LawfulLeftIdentity.left_id b

theorem op_eq_iff (a b c : α) : op a b = c ↔ b = op a c := by
  constructor
  · intro h
    rw [← h, op_cancel_left hself]
  · intro h
    rw [h, op_cancel_left hself]

-- The sum after one word was replaced.
theorem sum_replace [Std.Commutative op] {f g : Nat → α} {n i : Nat} (hi : i < n)
    (h : ∀ j, j < n → j ≠ i → g j = f j) :
    sum op e g n = op (sum op e f n) (op (f i) (g i)) := by
  induction n with
  | zero => cases hi
  | succ n ih =>
      rw [sum, sum]
      by_cases hn : i = n
      · subst hn
        have hsame : sum op e g i = sum op e f i :=
          sum_congr fun j hj => h j (Nat.lt_succ_of_lt hj) (Nat.ne_of_lt hj)
        rw [hsame, ‹Std.Associative op›.assoc, op_cancel_left hself]
      · rw [ih (by omega) (fun j hj hne => h j (Nat.lt_succ_of_lt hj) hne),
          h n (Nat.lt_succ_self n) (fun heq => hn heq.symm)]
        ac_rfl

end Group

end ParitySum
