import Mathlib.Data.List.Basic
import Mathlib.Tactic.Common

/-!
# Machines that answer every call

A machine takes a call, answers it and moves on (`step`).  `run` feeds a list of calls and collects
the answers.  Two machines related by an abstraction of their states give the same answers.
-/

namespace Transducer

variable {σ τ ι ο : Type*}

/-- The answers to a list of calls and the state reached. -/
def run (step : σ → ι → ο × σ) : List ι → σ → List ο × σ
  | [], s => ([], s)
  | i :: is, s => ((step s i).1 :: (run step is (step s i).2).1, (run step is (step s i).2).2)

@[simp] theorem run_nil (step : σ → ι → ο × σ) (s : σ) : run step [] s = ([], s) := rfl

theorem run_append (step : σ → ι → ο × σ) (is js : List ι) (s : σ) :
    run step (is ++ js) s =
      ((run step is s).1 ++ (run step js (run step is s).2).1,
        (run step js (run step is s).2).2) := by
  induction is generalizing s with
  | nil => rfl
  | cons i is ih => rw [List.cons_append, run, ih, run, List.cons_append]

-- What every step keeps, every run keeps.
theorem run_invariant {step : σ → ι → ο × σ} {Inv : σ → Prop}
    (hstep : ∀ s i, Inv s → Inv (step s i).2) (is : List ι) (s : σ) (hs : Inv s) :
    Inv (run step is s).2 := by
  induction is generalizing s with
  | nil => exact hs
  | cons i is ih => exact ih _ (hstep s i hs)

-- An invariant that relates the state to the calls made so far.
theorem run_history {step : σ → ι → ο × σ} (Inv : List ι → σ → Prop) {s : σ} (h0 : Inv [] s)
    (hstep : ∀ past t i, Inv past t → Inv (past ++ [i]) (step t i).2) (is : List ι) :
    Inv is (run step is s).2 := by
  have hfrom : ∀ (js past : List ι) (t : σ), Inv past t → Inv (past ++ js) (run step js t).2 := by
    intro js
    induction js with
    | nil =>
        intro past t ht
        rw [List.append_nil]
        exact ht
    | cons j js ih =>
        intro past t ht
        have hnext := ih (past ++ [j]) (step t j).2 (hstep past t j ht)
        rw [List.append_assoc] at hnext
        exact hnext
  exact hfrom is [] s h0

/-- Every call of the run meets `Allowed` in the state it finds. -/
def Meets (step : σ → ι → ο × σ) (Allowed : σ → ι → Prop) : List ι → σ → Prop
  | [], _ => True
  | i :: is, s => Allowed s i ∧ Meets step Allowed is (step s i).2

-- An invariant that relates the state to the answers given so far.
theorem run_answers_meets {step : σ → ι → ο × σ} {Allowed : σ → ι → Prop}
    (Inv : List ο → σ → Prop) {s : σ} (h0 : Inv [] s)
    (hstep : ∀ past t i, Allowed t i → Inv past t →
      Inv (past ++ [(step t i).1]) (step t i).2) (is : List ι) (hmeets : Meets step Allowed is s) :
    Inv (run step is s).1 (run step is s).2 := by
  have hfrom : ∀ (js : List ι) (past : List ο) (t : σ), Meets step Allowed js t → Inv past t →
      Inv (past ++ (run step js t).1) (run step js t).2 := by
    intro js
    induction js with
    | nil =>
        intro past t _ ht
        rw [run_nil, List.append_nil]
        exact ht
    | cons j js ih =>
        intro past t hmeets ht
        have hnext := ih (past ++ [(step t j).1]) (step t j).2 hmeets.2
          (hstep past t j hmeets.1 ht)
        rw [List.append_assoc] at hnext
        exact hnext
  exact hfrom is [] s hmeets h0

-- The same without a condition.
theorem run_answers {step : σ → ι → ο × σ} (Inv : List ο → σ → Prop) {s : σ} (h0 : Inv [] s)
    (hstep : ∀ past t i, Inv past t → Inv (past ++ [(step t i).1]) (step t i).2) (is : List ι) :
    Inv (run step is s).1 (run step is s).2 := by
  have hmeets : ∀ (js : List ι) (t : σ), Meets step (fun _ _ => True) js t := by
    intro js
    induction js with
    | nil => exact fun _ => trivial
    | cons j js ih => exact fun t => ⟨trivial, ih _⟩
  exact run_answers_meets Inv h0 (fun past t i _ => hstep past t i) is (hmeets is s)

-- What the answers show of the calls alone.
theorem map_run {β : Type*} (step : σ → ι → ο × σ) (f : ο → β) (g : ι → β)
    (hstep : ∀ s i, f (step s i).1 = g i) (is : List ι) (s : σ) :
    (run step is s).1.map f = is.map g := by
  induction is generalizing s with
  | nil => rfl
  | cons i is ih => rw [run, List.map_cons, List.map_cons, hstep, ih]

-- Refinement: step by step the same answers and the same abstract state, hence over any run.
theorem run_refines {step : σ → ι → ο × σ} {step' : τ → ι → ο × τ} (abs : σ → τ) {Inv : σ → Prop}
    (hinv : ∀ s i, Inv s → Inv (step s i).2)
    (hstep : ∀ s i, Inv s → (step s i).1 = (step' (abs s) i).1 ∧
      abs (step s i).2 = (step' (abs s) i).2)
    (is : List ι) (s : σ) (hs : Inv s) :
    (run step is s).1 = (run step' is (abs s)).1 ∧
      abs (run step is s).2 = (run step' is (abs s)).2 := by
  induction is generalizing s with
  | nil => exact ⟨rfl, rfl⟩
  | cons i is ih =>
      have h := hstep s i hs
      have hrest := ih (step s i).2 (hinv s i hs)
      rw [h.2] at hrest
      simp only [run]
      rw [h.1, hrest.1, hrest.2]
      exact ⟨rfl, rfl⟩

end Transducer
