import CanGateway.Library.Transducer

/-!
# Histories

The answers of a run, oldest first: what they add up to when one more is given, and properties of an
answer that look back at the answers before it.
-/

namespace History

variable {ο β : Type*}

theorem flatMap_concat (f : ο → List β) (past : List ο) (answer : ο) :
    (past ++ [answer]).flatMap f = past.flatMap f ++ f answer := by
  rw [List.flatMap_append, List.flatMap_singleton]

theorem countP_concat (f : ο → Bool) (past : List ο) (answer : ο) :
    (past ++ [answer]).countP f = past.countP f + (f answer).toNat := by
  rw [List.countP_append, List.countP_singleton]
  cases f answer <;> rfl

theorem length_flatMap_le {f : ο → List β} {n : Nat} (h : ∀ a, (f a).length ≤ n) (l : List ο) :
    (l.flatMap f).length ≤ n * l.length := by
  induction l with
  | nil => exact Nat.zero_le _
  | cons a l ih =>
      have ha := h a
      rw [List.flatMap_cons, List.length_append, List.length_cons, Nat.mul_succ]
      omega

-- What every step's answer owes its call, in any state, the answers of a run owe the calls.
theorem run_forall₂ {σ ι : Type*} {step : σ → ι → ο × σ} {R : ι → ο → Prop}
    (hstep : ∀ s i, R i (step s i).1) (is : List ι) (s : σ) :
    List.Forall₂ R is (Transducer.run step is s).1 := by
  induction is generalizing s with
  | nil => exact .nil
  | cons i is ih => exact .cons (hstep s i) (ih (step s i).2)

-- What the answers add up to comes from the calls, in order.
theorem flatMap_run_sublist {σ ι : Type*} {step : σ → ι → ο × σ} {f : ο → List β}
    {g : ι → List β} (hstep : ∀ s i, (f (step s i).1).Sublist (g i)) (is : List ι) (s : σ) :
    ((Transducer.run step is s).1.flatMap f).Sublist (is.flatMap g) := by
  induction is generalizing s with
  | nil => exact List.Sublist.refl []
  | cons i is ih =>
      rw [Transducer.run, List.flatMap_cons, List.flatMap_cons]
      exact (hstep s i).append (ih (step s i).2)

-- Counts beside images are counts beside the things themselves.
theorem exists_counts {α : Type*} (f : α → β) {counts : List (β × Nat)} {xs : List α}
    (h : counts.map Prod.fst = xs.map f) :
    ∃ ys : List (α × Nat), ys.map Prod.fst = xs ∧ ys.map (Prod.map f id) = counts := by
  induction xs generalizing counts with
  | nil =>
      rw [List.map_nil, List.map_eq_nil_iff] at h
      exact ⟨[], rfl, h.symm⟩
  | cons x xs ih =>
      rw [List.map_cons] at h
      obtain ⟨⟨y, n⟩, counts, rfl, hy, hrest⟩ := List.map_eq_cons_iff.mp h
      obtain ⟨ys, hxs, hcounts⟩ := ih hrest
      obtain rfl : y = f x := hy
      exact ⟨(x, n) :: ys, by rw [List.map_cons, hxs], by rw [List.map_cons, hcounts]; rfl⟩

/-- Every answer fits the answers before it. -/
def Justified (P : List ο → ο → Prop) (past : List ο) : Prop :=
  ∀ before answer after, past = before ++ answer :: after → P before answer

section Justified

variable {P : List ο → ο → Prop} {past : List ο}

theorem Justified.concat (h : Justified P past) {answer : ο} (hlast : P past answer) :
    Justified P (past ++ [answer]) := by
  intro before other after heq
  obtain rfl | ⟨after, last, rfl⟩ := List.eq_nil_or_concat after
  · -- the last answer itself
    obtain ⟨rfl, hone⟩ := List.append_inj' heq rfl
    obtain rfl := List.singleton_inj.mp hone
    exact hlast
  · rw [List.concat_eq_append, ← List.cons_append, ← List.append_assoc] at heq
    obtain ⟨rfl, _⟩ := List.append_inj' heq rfl
    exact h _ _ _ rfl

end Justified

end History
