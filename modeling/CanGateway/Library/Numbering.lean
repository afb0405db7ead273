import Mathlib.Data.List.Basic
import Mathlib.Tactic.Common

/-!
# Numbers drawn from one counter

Messages are numbered from a counter of limited width.  A message may take its number before the
counter moves on or after; where both kinds share a counter, a number can come twice or not at all.
-/

namespace Numbering

/-- A number that was drawn, and whether the counter moved on only afterwards. -/
structure Ticket where
  early : Bool
  number : Nat
  deriving DecidableEq, Repr

/-- What a draw gets from a counter that stands at `n`. -/
def draw (modulus n : Nat) (early : Bool) : Nat := if early then n % modulus else (n + 1) % modulus

/-- The tickets are what a counter that stood at `start` gave out, oldest first. -/
def Drawn (modulus start : Nat) (tickets : List Ticket) : Prop :=
  ∀ i ticket, tickets[i]? = some ticket → ticket.number = draw modulus (start + i) ticket.early

variable {modulus start : Nat} {tickets later : List Ticket}

theorem drawn_nil : Drawn modulus start [] := by
  intro i ticket h
  rw [List.getElem?_nil] at h
  exact absurd h (Option.some_ne_none ticket).symm

theorem drawn_singleton (modulus start : Nat) (early : Bool) :
    Drawn modulus start [⟨early, draw modulus start early⟩] := by
  intro i ticket h
  obtain ⟨hi, rfl⟩ := List.getElem?_eq_some_iff.mp h
  obtain rfl : i = 0 := by
    rw [List.length_singleton] at hi
    omega
  rfl

theorem Drawn.append (h : Drawn modulus start tickets)
    (hlater : Drawn modulus (start + tickets.length) later) :
    Drawn modulus start (tickets ++ later) := by
  intro i ticket hi
  by_cases hlt : i < tickets.length
  · rw [List.getElem?_append_left hlt] at hi
    exact h i ticket hi
  · rw [List.getElem?_append_right (by omega)] at hi
    have hdraw := hlater _ ticket hi
    rwa [show start + tickets.length + (i - tickets.length) = start + i by omega] at hdraw

theorem draw_mod (n i : Nat) (early : Bool) :
    draw modulus (n % modulus + i) early = draw modulus (n + i) early := by
  unfold draw
  rw [Nat.mod_add_mod, Nat.add_assoc, Nat.mod_add_mod, Nat.add_assoc]

-- Only the counter's remainder counts.
theorem drawn_mod : Drawn modulus (start % modulus) tickets ↔ Drawn modulus start tickets := by
  unfold Drawn
  simp only [draw_mod]

theorem mod_eq_iff {a b : Nat} (hle : a ≤ b) (hlt : b < a + modulus) :
    a % modulus = b % modulus ↔ a = b := by
  constructor
  · intro h
    have hzero := Nat.sub_mod_eq_zero_of_mod_eq h.symm
    rw [Nat.mod_eq_of_lt (by omega)] at hzero
    omega
  · exact congrArg (· % modulus)

-- Within one round of the counter, a number comes twice only in neighbours of different kinds.
theorem Drawn.number_eq_iff (h : Drawn modulus start tickets) {i j : Nat} {ticket ticket' : Ticket}
    (hi : tickets[i]? = some ticket) (hj : tickets[j]? = some ticket') (hlt : i < j)
    (hround : j + 1 < i + modulus) :
    ticket.number = ticket'.number ↔ j = i + 1 ∧ ticket.early = false ∧ ticket'.early = true := by
  rw [h i ticket hi, h j ticket' hj]
  unfold draw
  cases ticket.early <;> cases ticket'.early
  · rw [if_neg Bool.false_ne_true, if_neg Bool.false_ne_true,
      mod_eq_iff (by omega) (by omega)]
    exact iff_of_false (by omega) fun h => Bool.false_ne_true h.2.2
  · rw [if_neg Bool.false_ne_true, if_pos rfl, mod_eq_iff (by omega) (by omega)]
    exact ⟨fun heq => ⟨by omega, rfl, rfl⟩, fun h => by omega⟩
  · rw [if_pos rfl, if_neg Bool.false_ne_true, mod_eq_iff (by omega) (by omega)]
    exact iff_of_false (by omega) fun h => Bool.false_ne_true h.2.2
  · rw [if_pos rfl, if_pos rfl, mod_eq_iff (by omega) (by omega)]
    exact iff_of_false (by omega) fun h => Bool.false_ne_true h.2.1.symm

-- Neighbours have successive numbers exactly if they are of one kind.
theorem Drawn.succ_iff (h : Drawn modulus start tickets) (hmodulus : 1 < modulus) {i : Nat}
    {ticket ticket' : Ticket} (hi : tickets[i]? = some ticket)
    (hj : tickets[i + 1]? = some ticket') :
    ticket'.number = (ticket.number + 1) % modulus ↔ ticket.early = ticket'.early := by
  rw [h i ticket hi, h (i + 1) ticket' hj]
  unfold draw
  cases ticket.early <;> cases ticket'.early
  · rw [if_neg Bool.false_ne_true, if_neg Bool.false_ne_true, Nat.mod_add_mod]
    exact iff_of_true (congrArg (· % modulus) (by omega)) rfl
  · rw [if_neg Bool.false_ne_true, if_pos rfl, Nat.mod_add_mod, mod_eq_iff (by omega) (by omega)]
    exact iff_of_false (by omega) Bool.false_ne_true
  · rw [if_pos rfl, if_neg Bool.false_ne_true, Nat.mod_add_mod, eq_comm,
      mod_eq_iff (by omega) (by omega)]
    exact iff_of_false (by omega) Bool.false_ne_true.symm
  · rw [if_pos rfl, if_pos rfl, Nat.mod_add_mod]
    exact iff_of_true (congrArg (· % modulus) (by omega)) rfl

end Numbering
