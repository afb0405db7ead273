import Mathlib.Data.List.Basic
import Mathlib.Tactic.Common

/-!
# Arrays with checked bounds

A list stands for an array, and an access outside of it fails.  A computation that checks all its
accesses gives what the unchecked one gives exactly when none of them fails.
-/

namespace BoundedArray

variable {α β : Type*}

/-- `xs[i] = x`. -/
def store (xs : List α) (i : Nat) (x : α) : Option (List α) :=
  if i < xs.length then some (xs.set i x) else none

/-- `xs[0]` to `xs[n - 1]`, read one by one. -/
def loadFirst (xs : List α) (n : Nat) : Option (List α) :=
  (List.range n).mapM fun i => xs[i]?

/-- `n` elements copied from `xs + off`. -/
def loadSlice (xs : List α) (off n : Nat) : Option (List α) :=
  if off + n ≤ xs.length then some ((xs.drop off).take n) else none

theorem store_of_lt {xs : List α} {i : Nat} (h : i < xs.length) (x : α) :
    store xs i x = some (xs.set i x) := if_pos h

theorem loadSlice_of_le {xs : List α} {off n : Nat} (h : off + n ≤ xs.length) :
    loadSlice xs off n = some ((xs.drop off).take n) := if_pos h

-- A loop whose steps all succeed.
theorem mapM_eq_some {f : α → Option β} {g : α → β} {xs : List α}
    (h : ∀ x ∈ xs, f x = some (g x)) : xs.mapM f = some (xs.map g) := by
  induction xs with
  | nil => rfl
  | cons x xs ih =>
      rw [List.mapM_cons, h x List.mem_cons_self,
        ih fun y hy => h y (List.mem_cons_of_mem x hy)]
      rfl

theorem loadFirst_of_le {xs : List α} {n : Nat} (h : n ≤ xs.length) :
    loadFirst xs n = some (xs.take n) := by
  induction n with
  | zero => rfl
  | succ n ih =>
      have hlast : xs[n]? = some xs[n] := List.getElem?_eq_getElem h
      rw [loadFirst, List.range_succ, List.mapM_append, List.mapM_cons, List.mapM_nil, hlast]
      have hfirst : (List.range n).mapM (fun i => xs[i]?) = some (xs.take n) :=
        ih (Nat.le_of_succ_le h)
      rw [hfirst, List.take_succ_eq_append_getElem h]
      rfl

end BoundedArray
