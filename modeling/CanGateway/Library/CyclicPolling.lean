import Mathlib.Data.List.Rotate

/-!
# Polling in cyclic order

A cursor in `0 .. n - 1` looks for the first position, from itself on and around, that satisfies
`p`, and moves behind it.  The `k`-th poll finds the `k`-th satisfying position in cyclic order,
modulo their number.
-/

namespace CyclicPolling

/-- The positions from `start` on and around. -/
def order (n start : Nat) : List Nat := (List.range n).map fun step => (start + step) % n

/-- Those that satisfy `p`, in the same order. -/
def active (p : Nat → Bool) (n start : Nat) : List Nat := (order n start).filter p

def poll (p : Nat → Bool) (n start : Nat) : Option Nat := (order n start).find? p

/-- The cursor after a poll: behind the position found. -/
def next (p : Nat → Bool) (n start : Nat) : Nat :=
  match poll p n start with
  | none => start
  | some c => (c + 1) % n

theorem length_order (n start : Nat) : (order n start).length = n := by
  rw [order, List.length_map, List.length_range]

-- Starting `j` further is a rotation by `j`.
theorem order_add (n start j : Nat) : order n (start + j) = (order n start).rotate j := by
  apply List.ext_getElem
  · rw [List.length_rotate, length_order, length_order]
  · intro i hi _
    rw [List.getElem_rotate]
    simp only [order, List.getElem_map, List.getElem_range, List.length_map, List.length_range,
      Nat.add_mod_mod]
    rw [Nat.add_assoc, Nat.add_comm j i]

theorem order_mod (n start : Nat) : order n (start % n) = order n start := by
  simp only [order, Nat.mod_add_mod]

theorem getElem_order {n start i : Nat} (hi : i < (order n start).length) :
    (order n start)[i] = (start + i) % n := by
  simp only [order, List.getElem_map, List.getElem_range]

theorem poll_eq_head? (p : Nat → Bool) (n start : Nat) :
    poll p n start = (active p n start).head? := by
  rw [poll, active, List.head?_filter]

theorem poll_lt {p : Nat → Bool} {n start c : Nat} (h : poll p n start = some c) : c < n := by
  obtain ⟨step, hstep, rfl⟩ := List.mem_map.mp (List.mem_of_find?_eq_some h)
  exact Nat.mod_lt _ (Nat.lt_of_le_of_lt (Nat.zero_le _) (List.mem_range.mp hstep))

-- A poll that finds something moves the active positions around by one.
theorem active_next (p : Nat → Bool) (n start : Nat) :
    active p n (next p n start) = (active p n start).rotate 1 := by
  unfold next
  cases hpoll : poll p n start with
  | none =>
      have hnil : active p n start = [] := by
        rw [poll_eq_head?] at hpoll
        exact List.head?_eq_none_iff.mp hpoll
      rw [hnil]
      rfl
  | some c =>
      obtain ⟨hc, skipped, rest, horder, hskipped⟩ := List.find?_eq_some_iff_append.mp hpoll
      have hnone : skipped.filter p = [] := by
        rw [List.filter_eq_nil_iff]
        intro a ha hpa
        have hnot := hskipped a ha
        rw [hpa] at hnot
        exact absurd hnot (by decide)
      have hpos : skipped.length < (order n start).length := by
        rw [horder, List.length_append, List.length_cons]
        omega
      -- The position found stands behind the ones skipped.
      have hat : (start + skipped.length) % n = c := by
        rw [← getElem_order hpos]
        simp only [horder, List.getElem_append_right (Nat.le_refl _), Nat.sub_self,
          List.getElem_cons_zero]
      have hnext : order n ((c + 1) % n) = rest ++ (skipped ++ [c]) := by
        have hsplit : order n start = (skipped ++ [c]) ++ rest := by
          rw [horder, List.append_assoc]
          rfl
        have hlen : skipped.length + 1 = (skipped ++ [c]).length := by
          rw [List.length_append, List.length_singleton]
        have hstart : (c + 1) % n = (start + (skipped.length + 1)) % n := by
          rw [← hat, Nat.mod_add_mod, Nat.add_assoc]
        rw [hstart, order_mod, order_add, hsplit, hlen, List.rotate_append_length_eq]
      show (order n ((c + 1) % n)).filter p = ((order n start).filter p).rotate 1
      rw [hnext, horder, List.filter_append, List.filter_append, List.filter_append, hnone,
        List.nil_append, List.nil_append, List.filter_cons_of_pos hc, List.filter_cons_of_pos hc,
        List.filter_nil, List.rotate_cons_succ, List.rotate_zero]

theorem active_iterate (p : Nat → Bool) (n start k : Nat) :
    active p n ((next p n)^[k] start) = (active p n start).rotate k := by
  induction k with
  | zero => rw [List.rotate_zero]; rfl
  | succ k ih => rw [Function.iterate_succ_apply', active_next, ih, List.rotate_rotate]

-- The closed form of the `k`-th poll.
theorem poll_iterate (p : Nat → Bool) (n start k : Nat) :
    poll p n ((next p n)^[k] start) =
      (active p n start)[k % (active p n start).length]? := by
  rw [poll_eq_head?, active_iterate, ← List.rotate_mod]
  by_cases hnil : active p n start = []
  · rw [hnil]
    rfl
  · exact List.head?_rotate (Nat.mod_lt _ (List.length_pos_iff.mpr hnil))

end CyclicPolling
