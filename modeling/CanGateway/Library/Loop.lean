import Mathlib.Logic.Basic
import Mathlib.Tactic.Common

/-!
# Loops as iterated bodies

A `while` loop with `break` and `continue` is a body `σ → Option σ`: `none` leaves the loop in the
state the body was entered with, `some s'` starts the next iteration from `s'`.  `Exits` is the
loop's big-step relation, `runFuel` evaluates it, and a decreasing measure makes the two agree.

A loop that also returns from inside is a body `σ → σ ⊕ ρ`: `.inl` goes on, `.inr` leaves with a
result.  `Returns` is its big-step relation; `eval` is its result, given a decreasing measure.
-/

namespace Loop

variable {σ : Type*}

/-- `Exits body s t`: started in `s`, the loop stops after finitely many iterations in `t`. -/
inductive Exits (body : σ → Option σ) : σ → σ → Prop
  | done {s : σ} : body s = none → Exits body s s
  | again {s s' t : σ} : body s = some s' → Exits body s' t → Exits body s t

/-- At most `n` iterations; the state reached is returned when the fuel runs out. -/
def runFuel (body : σ → Option σ) : Nat → σ → σ
  | 0, s => s
  | n + 1, s =>
      match body s with
      | none => s
      | some s' => runFuel body n s'

-- A measure that every iteration decreases bounds the number of iterations.
theorem runFuel_exits {body : σ → Option σ} (μ : σ → Nat)
    (hdec : ∀ s s', body s = some s' → μ s' < μ s) (n : Nat) (s : σ) (hn : μ s < n) :
    Exits body s (runFuel body n s) := by
  induction n generalizing s with
  | zero => omega
  | succ n ih =>
      rw [runFuel]
      split
      next hs => exact .done hs
      next s' hs =>
        have hlt := hdec s s' hs
        exact .again hs (ih s' (by omega))

-- A loop stops in at most one state.
theorem Exits.unique {body : σ → Option σ} {s t u : σ} (ht : Exits body s t)
    (hu : Exits body s u) : t = u := by
  induction ht with
  | done hs =>
      cases hu with
      | done _ => rfl
      | again hb _ => rw [hs] at hb; cases hb
  | again hb _ ih =>
      cases hu with
      | done hs => rw [hs] at hb; cases hb
      | again hb' hu =>
          rw [hb, Option.some.injEq] at hb'
          exact ih (hb' ▸ hu)

-- Enough fuel computes the state the loop stops in.
theorem runFuel_eq {body : σ → Option σ} (μ : σ → Nat)
    (hdec : ∀ s s', body s = some s' → μ s' < μ s) {n : Nat} {s t : σ} (hn : μ s < n)
    (h : Exits body s t) : runFuel body n s = t :=
  (runFuel_exits μ hdec n s hn).unique h

/-! ## Loops with a result -/

variable {ρ : Type*}

/-- `Returns body s r`: started in `s`, the loop leaves with `r` after finitely many iterations. -/
inductive Returns (body : σ → σ ⊕ ρ) : σ → ρ → Prop
  | leave {s : σ} {r : ρ} : body s = .inr r → Returns body s r
  | again {s s' : σ} {r : ρ} : body s = .inl s' → Returns body s' r → Returns body s r

/-- The result, if `n` iterations are enough. -/
def evalFuel (body : σ → σ ⊕ ρ) : Nat → σ → Option ρ
  | 0, _ => none
  | n + 1, s =>
      match body s with
      | .inl s' => evalFuel body n s'
      | .inr r => some r

theorem evalFuel_returns {body : σ → σ ⊕ ρ} (μ : σ → Nat)
    (hdec : ∀ s s', body s = .inl s' → μ s' < μ s) (n : Nat) (s : σ) (hn : μ s < n) :
    ∃ r, evalFuel body n s = some r ∧ Returns body s r := by
  induction n generalizing s with
  | zero => omega
  | succ n ih =>
      rw [evalFuel]
      split
      next s' hs =>
        have hlt := hdec s s' hs
        obtain ⟨r, heval, hreturns⟩ := ih s' (by omega)
        exact ⟨r, heval, .again hs hreturns⟩
      next r hs => exact ⟨r, rfl, .leave hs⟩

/-- The result of a loop whose iterations decrease a measure. -/
def eval (body : σ → σ ⊕ ρ) (μ : σ → Nat) (hdec : ∀ s s', body s = .inl s' → μ s' < μ s)
    (s : σ) : ρ :=
  (evalFuel body (μ s + 1) s).get (by
    obtain ⟨r, heval, _⟩ := evalFuel_returns μ hdec (μ s + 1) s (Nat.lt_succ_self _)
    rw [heval]
    rfl)

-- Such a loop terminates.
theorem eval_returns {body : σ → σ ⊕ ρ} {μ : σ → Nat}
    {hdec : ∀ s s', body s = .inl s' → μ s' < μ s} (s : σ) :
    Returns body s (eval body μ hdec s) := by
  obtain ⟨r, heval, hreturns⟩ := evalFuel_returns μ hdec (μ s + 1) s (Nat.lt_succ_self _)
  have hr : eval body μ hdec s = r := by
    rw [eval]
    simp only [heval, Option.get_some]
  rw [hr]
  exact hreturns

-- A loop has at most one result.
theorem Returns.unique {body : σ → σ ⊕ ρ} {s : σ} {r r' : ρ} (h : Returns body s r)
    (h' : Returns body s r') : r = r' := by
  induction h with
  | leave hs =>
      cases h' with
      | leave hs' => exact Sum.inr.inj (hs.symm.trans hs')
      | again hs' _ => cases hs.symm.trans hs'
  | again hs _ ih =>
      cases h' with
      | leave hs' => cases hs.symm.trans hs'
      | again hs' h' =>
          obtain rfl := Sum.inl.inj (hs.symm.trans hs')
          exact ih h'

-- The invariant rule.
theorem Returns.invariant {body : σ → σ ⊕ ρ} (Inv : σ → Prop) (Post : ρ → Prop)
    (hagain : ∀ s s', Inv s → body s = .inl s' → Inv s')
    (hleave : ∀ s r, Inv s → body s = .inr r → Post r) {s : σ} {r : ρ} (h : Returns body s r)
    (hs : Inv s) : Post r := by
  induction h with
  | leave hbody => exact hleave _ _ hs hbody
  | again hbody _ ih => exact ih (hagain _ _ hs hbody)

end Loop
