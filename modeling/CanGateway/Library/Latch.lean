/-!
# A latched signal

Signals set a flag.  One server tests the flag, clears it and serves, each step on its own; a signal
that finds the flag set is absorbed.  Every other signal is served once, and after the last signal
there is always a service, made or owed.
-/

namespace Latch

/-- Where the server stands. -/
inductive Phase where
  | idle
  | tested
  | cleared
  deriving DecidableEq, Repr

structure State where
  flag : Bool
  phase : Phase
  deriving DecidableEq, Repr

inductive Act where
  | signal
  | test
  | clear
  | serve
  | stay

inductive Event where
  | signalled (absorbed : Bool)
  | served
  | quiet
  deriving DecidableEq, Repr

def step (s : State) : Act → Event × State
  | .signal => (.signalled s.flag, { s with flag := true })
  | .test =>
      if s.phase = .idle ∧ s.flag = true then (.quiet, { s with phase := .tested }) else (.quiet, s)
  | .clear => if s.phase = .tested then (.quiet, ⟨false, .cleared⟩) else (.quiet, s)
  | .serve => if s.phase = .cleared then (.served, { s with phase := .idle }) else (.quiet, s)
  | .stay => (.quiet, s)

def State.initial : State := ⟨false, .idle⟩

/-! ## The account of a run -/

namespace Event

def isSignal : Event → Bool
  | signalled _ => true
  | _ => false

def isAbsorbed : Event → Bool
  | signalled absorbed => absorbed
  | _ => false

def isServed : Event → Bool
  | served => true
  | _ => false

end Event

section Account

variable (past : List Event)

def signals : Nat := past.countP Event.isSignal
def absorbed : Nat := past.countP Event.isAbsorbed
def services : Nat := past.countP Event.isServed

/-- Whether a signal came after the last service. -/
def unserved : Bool := (past.reverse.takeWhile fun e => !e.isServed).any Event.isSignal

end Account

/-- The services still to come: one under way, one for a flag that is set and not yet tested. -/
def State.owed (s : State) : Nat :=
  (if s.phase = .idle then 0 else 1) + if s.flag = true ∧ s.phase ≠ .tested then 1 else 0

theorem unserved_concat (past : List Event) (e : Event) :
    unserved (past ++ [e]) = (!e.isServed && (e.isSignal || unserved past)) := by
  rw [unserved, List.reverse_append, List.reverse_singleton, List.singleton_append,
    List.takeWhile_cons]
  cases e <;> rfl

/-- Signals are served, absorbed or owed a service. -/
structure Inv (past : List Event) (s : State) : Prop where
  tested : s.phase = .tested → s.flag = true
  account : signals past = services past + absorbed past + s.owed
  owed : unserved past = true → 0 < s.owed

section Steps

variable {past : List Event} {s t : State} {e : Event}

-- One more event, in terms of what it counts for.
theorem Inv.concat (h : Inv past s) (htested : t.phase = .tested → t.flag = true)
    (haccount : e.isSignal.toNat + s.owed = e.isServed.toNat + e.isAbsorbed.toNat + t.owed)
    (howed : e.isServed = false → (e.isSignal = true ∨ 0 < s.owed) → 0 < t.owed) :
    Inv (past ++ [e]) t := by
  refine ⟨htested, ?_, ?_⟩
  · have hpast := h.account
    have hone : ∀ p : Event → Bool, (past ++ [e]).countP p = past.countP p + (p e).toNat := by
      intro p
      rw [List.countP_append, List.countP_singleton]
      cases p e <;> rfl
    simp only [signals, services, absorbed, hone] at hpast ⊢
    omega
  · rw [unserved_concat]
    intro hun
    simp only [Bool.and_eq_true, Bool.not_eq_true', Bool.or_eq_true] at hun
    exact howed hun.1 (hun.2.imp_right h.owed)

theorem Inv.quiet (h : Inv past s) (htested : t.phase = .tested → t.flag = true)
    (howed : t.owed = s.owed) : Inv (past ++ [.quiet]) t := by
  apply h.concat htested
  · rw [howed]
    rfl
  · intro _ hpos
    rw [howed]
    exact hpos.resolve_left Bool.false_ne_true

end Steps

theorem step_inv (past : List Event) (s : State) (act : Act) (h : Inv past s) :
    Inv (past ++ [(step s act).1]) (step s act).2 := by
  obtain ⟨flag, phase⟩ := s
  have htested := h.tested
  cases act with
  | signal =>
      apply h.concat
      · exact fun _ => rfl
      · cases flag <;> cases phase <;> first | rfl | exact absurd (htested rfl) (by decide)
      · intro _ _
        show 0 < State.owed ⟨true, phase⟩
        cases phase <;> decide
  | test =>
      simp only [step]
      split
      next hready =>
        obtain ⟨rfl, rfl⟩ := hready
        exact h.quiet (fun _ => rfl) rfl
      · exact h.quiet htested rfl
  | clear =>
      simp only [step]
      split
      next hphase =>
        -- the flag that is cleared is the one the service is for
        cases hphase
        obtain rfl := htested rfl
        exact h.quiet (by decide) rfl
      · exact h.quiet htested rfl
  | serve =>
      simp only [step]
      split
      next hphase =>
        cases hphase
        apply h.concat
        · simp
        · cases flag <;> rfl
        · intro hserved
          cases hserved
      · exact h.quiet htested rfl
  | stay => exact h.quiet htested rfl

end Latch
