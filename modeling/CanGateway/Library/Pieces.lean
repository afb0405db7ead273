import CanGateway.Library.ByteMemory

/-!
# An area read in pieces

`start k` is where the `k`-th piece of an area begins, and the next one begins where it ends.  What
is read piece by piece is the area if no piece is cut short.
-/

open ByteMemory

namespace Pieces

variable {α : Type*} {start : Nat → Nat} {pieces : List (List α)}

/-- The pieces are read from the `k`-th on, and none is longer than its place. -/
def Within (start : Nat → Nat) (k : Nat) (pieces : List (List α)) : Prop :=
  ∀ i piece, pieces[i]? = some piece → start (k + i) + piece.length ≤ start (k + i + 1)

theorem Within.tail {k : Nat} {piece : List α} (h : Within start k (piece :: pieces)) :
    Within start (k + 1) pieces := by
  intro i later hi
  have hlater := h (i + 1) later hi
  rw [← Nat.add_assoc, Nat.add_right_comm] at hlater
  exact hlater

theorem Within.length_le {k : Nat} (h : Within start k pieces) :
    start k + pieces.flatten.length ≤ start (k + pieces.length) := by
  induction pieces generalizing k with
  | nil => exact Nat.le_refl _
  | cons piece pieces ih =>
      have hpiece := h 0 piece rfl
      have hrest := ih h.tail
      rw [List.flatten_cons, List.length_append, List.length_cons, Nat.add_comm pieces.length,
        ← Nat.add_assoc, ← Nat.add_assoc]
      rw [Nat.add_zero] at hpiece
      omega

-- One piece that is cut short leaves a gap at the end.
theorem Within.length_lt {k i : Nat} {piece : List α} (h : Within start k pieces)
    (hi : pieces[i]? = some piece) (hshort : start (k + i) + piece.length < start (k + i + 1)) :
    start k + pieces.flatten.length < start (k + pieces.length) := by
  induction pieces generalizing k i with
  | nil => cases hi
  | cons first pieces ih =>
      have hfirst := h 0 first rfl
      rw [List.flatten_cons, List.length_append, List.length_cons, Nat.add_comm pieces.length,
        ← Nat.add_assoc, ← Nat.add_assoc]
      rw [Nat.add_zero] at hfirst
      cases i with
      | zero =>
          have hrest := h.tail.length_le
          rw [List.getElem?_cons_zero] at hi
          obtain rfl := Option.some.inj hi
          rw [Nat.add_zero] at hshort
          omega
      | succ i =>
          rw [← Nat.add_assoc, Nat.add_right_comm] at hshort
          have hrest := ih h.tail hi hshort
          omega

theorem flatten_eq_slice {mem : List α} {k : Nat} (hstart : ∀ k, start k ≤ start (k + 1))
    (h : ∀ i piece, pieces[i]? = some piece →
      piece = slice mem (start (k + i)) (start (k + i + 1) - start (k + i))) :
    pieces.flatten = slice mem (start k) (start (k + pieces.length) - start k) := by
  have hmono := monotone_nat_of_le_succ hstart
  induction pieces generalizing k with
  | nil =>
      rw [List.length_nil, Nat.add_zero, Nat.sub_self, slice_zero]
      rfl
  | cons piece pieces ih =>
      have hrest : pieces.flatten =
          slice mem (start (k + 1)) (start (k + 1 + pieces.length) - start (k + 1)) := by
        apply ih
        intro i later hi
        have hlater := h (i + 1) later hi
        rw [← Nat.add_assoc, Nat.add_right_comm k i 1] at hlater
        exact hlater
      have hfirst := hstart k
      have hlast := hmono (Nat.le_add_right (k + 1) pieces.length)
      have hsplit : start (k + 1 + pieces.length) - start k =
          (start (k + 1) - start k) + (start (k + 1 + pieces.length) - start (k + 1)) := by omega
      have hnext : start k + (start (k + 1) - start k) = start (k + 1) := by omega
      rw [List.flatten_cons, h 0 piece rfl, hrest, List.length_cons, Nat.add_comm pieces.length,
        ← Nat.add_assoc, hsplit, slice_add, hnext, Nat.add_zero]

end Pieces
