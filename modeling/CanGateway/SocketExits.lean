import CanGateway.DownloadClients

/-!
# How the handlers end

A handler that has left its loop clears the global socket if it still is its own number, closes the
number and returns.  Nothing another thread does can keep it from that, and no handler waits for
`download_process_mutex` for ever: whoever holds it can release it.
-/

namespace CanGateway

/-! ## Where the handlers are -/

namespace Sockets

/-- Where the handler of connection `c` is. -/
def phase? (s : Sockets) (c : Nat) : Option Phase := (s.clients c).map Client.phase

variable {s : Sockets} {c d : Nat} {cl : Client} {phase : Phase}

theorem phase?_some (hc : s.clients c = some cl) : s.phase? c = some cl.phase := by
  rw [phase?, hc, Option.map_some]

theorem client_of_phase? (h : s.phase? c = some phase) :
    ∃ cl, s.clients c = some cl ∧ cl.phase = phase := Option.map_eq_some_iff.mp h

theorem phase?_setClient_self (s : Sockets) (c : Nat) (cl : Client) :
    (s.setClient c cl).phase? c = some cl.phase := phase?_some (Function.update_self _ _ _)

theorem phase?_setClient_other (s : Sockets) (cl : Client) (h : d ≠ c) :
    (s.setClient c cl).phase? d = s.phase? d := by
  change (Function.update s.clients c (some cl) d).map Client.phase = _
  rw [Function.update_of_ne h]
  rfl

theorem phase?_shutdown (s : Sockets) (fd : Int) (c : Nat) :
    (s.shutdown fd).phase? c = s.phase? c := by
  rw [phase?, shutdown_clients, phase?]
  cases s.clients c with
  | none => rfl
  | some cl =>
    rw [Option.map_some, Option.map_some, Option.map_some]
    split <;> rfl

theorem phase?_register (s : Sockets) (port : Port) (fd : Int) (c : Nat) :
    (registerClient s port fd).phase? c = s.phase? c := by
  rw [registerClient]
  split
  · exact phase?_shutdown s _ c
  · rfl

theorem processMutex_register (s : Sockets) (port : Port) (fd : Int) :
    (registerClient s port fd).processMutex = s.processMutex := by
  rw [registerClient]
  split
  · exact (shutdown_same s _).2.2.2.1
  · rfl

/-- What a step of the handler of connection `c` does to the phases and to the mutex. -/
structure Moves (s t : Sockets) (c : Nat) (before after : Phase) : Prop where
  phase : t.phase? c = some after
  others : ∀ d, d ≠ c → t.phase? d = s.phase? d
  mutex : t.processMutex = s.processMutex ∧ holdsProcess after = holdsProcess before ∨
    t.processMutex = some c ∧ holdsProcess after ∨ t.processMutex = none

-- The handler goes on; the mutex stays where it is.
theorem Moves.keep {t u : Sockets} {cl' : Client} {before : Phase}
    (hclients : u.clients = (t.setClient c cl').clients) (hphases : ∀ d, t.phase? d = s.phase? d)
    (hmutex : u.processMutex = s.processMutex)
    (hholds : holdsProcess cl'.phase = holdsProcess before) :
    Moves s u c before cl'.phase where
  phase := (congrArg (fun clients => (clients c).map Client.phase) hclients).trans
    (phase?_setClient_self t c cl')
  others d h := (congrArg (fun clients => (clients d).map Client.phase) hclients).trans
    ((phase?_setClient_other t cl' h).trans (hphases d))
  mutex := Or.inl ⟨hmutex, hholds⟩

theorem Moves.take (s : Sockets) (c : Nat) (cl' : Client) (before : Phase)
    (h : holdsProcess cl'.phase) :
    Moves s { s.setClient c cl' with processMutex := some c } c before cl'.phase where
  phase := phase?_setClient_self s c cl'
  others _ h := phase?_setClient_other s cl' h
  mutex := Or.inr (Or.inl ⟨rfl, h⟩)

theorem Moves.release (s : Sockets) (c : Nat) (cl' : Client) (before : Phase) :
    Moves s { s.setClient c cl' with processMutex := none } c before cl'.phase where
  phase := phase?_setClient_self s c cl'
  others _ h := phase?_setClient_other s cl' h
  mutex := Or.inr (Or.inr rfl)

theorem clientStep_moves (s : Sockets) (c : Nat) (cl : Client) (step : ClientStep) :
    clientStep s c cl step = s ∨ ∃ after, Moves s (clientStep s c cl step) c cl.phase after := by
  have same : ∀ d, s.phase? d = s.phase? d := fun _ => rfl
  cases step with
  | create ok =>
    simp only [clientStep]
    split
    next hphase =>
      split
      · exact Or.inr ⟨_, .keep rfl same rfl (by rw [hphase]; rfl)⟩
      · exact Or.inr ⟨_, .keep rfl same rfl (by rw [hphase]; rfl)⟩
    next => exact Or.inl rfl
  | allocate ok =>
    simp only [clientStep]
    split
    next hphase =>
      split
      · exact Or.inr ⟨_, .keep rfl same rfl (by rw [hphase.1]; rfl)⟩
      · exact Or.inr ⟨_, .keep rfl same rfl (by rw [hphase.1]; rfl)⟩
    next => exact Or.inl rfl
  | lock =>
    simp only [clientStep]
    split
    · exact Or.inr ⟨_, .take s c _ _ rfl⟩
    · split
      · exact Or.inr ⟨_, .take s c _ _ rfl⟩
      · exact Or.inl rfl
  | register =>
    have hphases := phase?_register s cl.port cl.fd
    have hmutex := processMutex_register s cl.port cl.fd
    simp only [clientStep]
    split
    next hphase => exact Or.inr ⟨_, .keep rfl hphases hmutex (by rw [hphase]; rfl)⟩
    next =>
      split
      next hphase => exact Or.inr ⟨_, .keep rfl hphases hmutex (by rw [hphase.1]; rfl)⟩
      next => exact Or.inl rfl
  | unlock =>
    simp only [clientStep]
    split
    · exact Or.inr ⟨_, .release s c _ _⟩
    · exact Or.inr ⟨_, .release s c _ _⟩
    · exact Or.inl rfl
  | recv chunk =>
    simp only [clientStep]
    split
    next hphase => exact Or.inr ⟨_, .keep rfl same rfl (by rw [hphase.1]; rfl)⟩
    next => exact Or.inl rfl
  | disconnect =>
    simp only [clientStep]
    split
    next hphase => exact Or.inr ⟨_, .keep rfl same rfl (by rw [hphase]; rfl)⟩
    next => exact Or.inl rfl
  | check =>
    simp only [clientStep]
    split
    next hphase => exact Or.inr ⟨_, .keep rfl same rfl (by rw [hphase]; rfl)⟩
    next => exact Or.inl rfl
  | process =>
    simp only [clientStep]
    split
    next hphase => exact Or.inr ⟨_, .keep rfl same rfl (by rw [hphase]; rfl)⟩
    next hphase => exact Or.inr ⟨_, .keep rfl same rfl (by rw [hphase]; rfl)⟩
    next => exact Or.inl rfl
  | withdraw =>
    simp only [clientStep]
    split
    next hphase =>
      split
      · exact Or.inr ⟨_, .keep rfl same rfl (by rw [hphase]; rfl)⟩
      · exact Or.inr ⟨_, .keep rfl same rfl (by rw [hphase]; rfl)⟩
    next => exact Or.inl rfl
  | close =>
    simp only [clientStep]
    split
    next hphase => exact Or.inr ⟨_, .keep rfl same rfl (by rw [hphase]; rfl)⟩
    next => exact Or.inl rfl
  | finish =>
    simp only [clientStep]
    split
    next hphase => exact Or.inr ⟨_, .keep rfl same rfl (by rw [hphase]; rfl)⟩
    next => exact Or.inl rfl

-- A handler moves itself alone.
theorem clientStep_other (s : Sockets) (cl : Client) (step : ClientStep) (h : d ≠ c) :
    (clientStep s c cl step).phase? d = s.phase? d := by
  obtain hsame | ⟨_, hmoves⟩ := clientStep_moves s c cl step
  · rw [hsame]
  · exact hmoves.others d h

/-- The steps of the handler of connection `c`. -/
def ownSteps (c : Nat) (steps : List SocketStep) : List ClientStep :=
  steps.filterMap fun
    | .client d step => if d = c then some step else none
    | _ => none

theorem ownSteps_own (c : Nat) (own : ClientStep) (steps : List SocketStep) :
    ownSteps c (.client c own :: steps) = own :: ownSteps c steps :=
  List.filterMap_cons_some (if_pos rfl)

theorem ownSteps_other {step : SocketStep} {steps : List SocketStep}
    (h : ∀ own, step ≠ .client c own) : ownSteps c (step :: steps) = ownSteps c steps := by
  cases step with
  | accept port d fd => rfl
  | client d own =>
    have hdc : d ≠ c := by
      rintro rfl
      exact h own rfl
    exact List.filterMap_cons_none (if_neg hdc)
  | sendFailure port => rfl

-- No other thread moves it.
theorem socketStep_other (h : s.phase? c = some phase) {step : SocketStep}
    (hstep : ∀ own, step ≠ .client c own) : (socketStep s step).phase? c = some phase := by
  cases step with
  | accept port d fd =>
    simp only [socketStep]
    split
    next hfree =>
      obtain ⟨cl, hc, _⟩ := client_of_phase? h
      have hcd : c ≠ d := by
        rintro rfl
        rw [hc] at hfree
        exact Option.some_ne_none cl hfree.1
      exact (phase?_setClient_other s _ hcd).trans h
    next => exact h
  | client d own =>
    have hcd : c ≠ d := by
      rintro rfl
      exact hstep own rfl
    simp only [socketStep]
    split
    · exact h
    · exact (clientStep_other s _ own hcd).trans h
  | sendFailure port =>
    simp only [socketStep]
    split
    · exact (phase?_shutdown s _ c).trans h
    · exact h

end Sockets

/-! ## The way out -/

/-- What a handler that has left its loop still has to do. -/
def Phase.exitSteps : Phase → List ClientStep
  | .leaving => [.withdraw, .close, .finish]
  | .withdrawn => [.close, .finish]
  | .closed => [.finish]
  | _ => []

/-- The handler has left its loop, or has not entered it for want of memory. -/
def Phase.hasLeft : Phase → Bool
  | .leaving => true
  | .withdrawn => true
  | .closed => true
  | .returned => true
  | _ => false

theorem Phase.eq_returned {phase : Phase} (hleft : phase.hasLeft) (h : phase.exitSteps = []) :
    phase = .returned := by
  cases phase with
  | returned => rfl
  | leaving => cases h
  | withdrawn => cases h
  | closed => cases h
  | _ => cases hleft

namespace Sockets

variable {s : Sockets} {c d : Nat} {cl : Client} {phase : Phase}

-- A handler on its way out does nothing else.
theorem clientStep_idle (s : Sockets) (c : Nat) (hleft : cl.phase.hasLeft) {step : ClientStep}
    (h : cl.phase.exitSteps.head? ≠ some step) : clientStep s c cl step = s := by
  obtain ⟨port, fd, phase, stream, shut, received, parsed⟩ := cl
  dsimp only at hleft h
  cases phase with
  | leaving =>
    cases step with
    | withdraw => exact absurd rfl h
    | _ => simp [clientStep]
  | withdrawn =>
    cases step with
    | close => exact absurd rfl h
    | _ => simp [clientStep]
  | closed =>
    cases step with
    | finish => exact absurd rfl h
    | _ => simp [clientStep]
  | returned => cases step <;> simp [clientStep]
  | _ => cases hleft

-- It takes one of the exit steps.
theorem clientStep_exit (s : Sockets) (c : Nat) {step : ClientStep} {rest : List ClientStep}
    (hleft : cl.phase.hasLeft) (h : cl.phase.exitSteps = step :: rest) :
    ∃ phase, (clientStep s c cl step).phase? c = some phase ∧ phase.hasLeft ∧
      phase.exitSteps = rest := by
  obtain ⟨port, fd, phase, stream, shut, received, parsed⟩ := cl
  dsimp only at hleft h
  cases phase with
  | leaving =>
    cases h
    refine ⟨.withdrawn, ?_, rfl, rfl⟩
    rw [clientStep, if_pos rfl]
    exact phase?_setClient_self _ c _
  | withdrawn =>
    cases h
    refine ⟨.closed, ?_, rfl, rfl⟩
    rw [clientStep, if_pos rfl]
    exact phase?_setClient_self _ c _
  | closed =>
    cases h
    refine ⟨.returned, ?_, rfl, rfl⟩
    rw [clientStep, if_pos rfl]
    exact phase?_setClient_self _ c _
  | returned => cases h
  | _ => cases hleft

theorem socketStep_own (hc : s.clients c = some cl) (own : ClientStep) :
    socketStep s (.client c own) = clientStep s c cl own := by
  rw [socketStep, hc]

-- Whatever the other threads do in between, the handler's own exit steps bring it to its end.
theorem exit_run (later : List SocketStep) (hphase : s.phase? c = some phase)
    (hleft : phase.hasLeft) (hown : phase.exitSteps.Sublist (ownSteps c later)) :
    (later.foldl socketStep s).phase? c = some .returned := by
  induction later generalizing s phase with
  | nil =>
    rw [ownSteps, List.filterMap_nil, List.sublist_nil] at hown
    rw [List.foldl_nil, hphase, Phase.eq_returned hleft hown]
  | cons step later ih =>
    rw [List.foldl_cons]
    by_cases hstep : ∃ own, step = .client c own
    · obtain ⟨own, rfl⟩ := hstep
      obtain ⟨cl, hc, rfl⟩ := client_of_phase? hphase
      rw [ownSteps_own] at hown
      rw [socketStep_own hc]
      by_cases hnext : cl.phase.exitSteps.head? = some own
      · obtain ⟨rest, hrest⟩ := List.head?_eq_some_iff.mp hnext
        obtain ⟨phase, hphase', hleft', hrest'⟩ := clientStep_exit s c hleft hrest
        refine ih hphase' hleft' ?_
        rw [hrest] at hown
        rw [hrest']
        exact List.cons_sublist_cons.mp hown
      · rw [clientStep_idle s c hleft hnext]
        refine ih hphase hleft ?_
        obtain hown | ⟨rest, hrest, _⟩ := List.sublist_cons_iff.mp hown
        · exact hown
        · rw [hrest] at hnext
          exact absurd rfl hnext
    · rw [not_exists] at hstep
      rw [ownSteps_other hstep] at hown
      exact ih (socketStep_other hphase hstep) hleft hown

/-! ## The wait for `download_process_mutex` -/

-- Only its own handler makes a connection the holder.
theorem socketStep_mutex {step : SocketStep} (hstep : ∀ own, step ≠ .client d own)
    (h : (socketStep s step).processMutex = some d) : s.processMutex = some d := by
  cases step with
  | accept port c fd =>
    simp only [socketStep] at h
    split at h
    · exact h
    · exact h
  | client c own =>
    have hcd : c ≠ d := by
      rintro rfl
      exact hstep own rfl
    simp only [socketStep] at h
    split at h
    · exact h
    next cl _ =>
      obtain hsame | ⟨_, _, _, ⟨hsame, _⟩ | ⟨hc, _⟩ | hnone⟩ := clientStep_moves s c cl own
      · rw [hsame] at h
        exact h
      · rw [hsame] at h
        exact h
      · rw [hc] at h
        exact absurd (Option.some.inj h) hcd
      · rw [hnone] at h
        cases h
  | sendFailure port =>
    simp only [socketStep] at h
    split at h
    · exact (shutdown_same s (s.sock port)).2.2.2.1.symm.trans h
    · exact h

/-- The mutex is free, or its holder is inside one of the two critical sections. -/
def Held (s : Sockets) : Prop :=
  ∀ c, s.processMutex = some c → ∃ phase, s.phase? c = some phase ∧ holdsProcess phase

theorem Held.step (h : s.Held) (step : SocketStep) : (socketStep s step).Held := by
  intro d hd
  by_cases hstep : ∃ own, step = .client d own
  · obtain ⟨own, rfl⟩ := hstep
    cases hc : s.clients d with
    | none =>
      simp only [socketStep, hc] at hd ⊢
      exact h d hd
    | some cl =>
      rw [socketStep_own hc] at hd ⊢
      obtain hsame | ⟨phase, hphase, _, ⟨hmutex, hholds⟩ | ⟨_, hholds⟩ | hnone⟩ :=
        clientStep_moves s d cl own
      · rw [hsame] at hd ⊢
        exact h d hd
      · rw [hmutex] at hd
        obtain ⟨before, hbefore, hheld⟩ := h d hd
        rw [phase?_some hc] at hbefore
        cases hbefore
        exact ⟨phase, hphase, hholds.trans hheld⟩
      · exact ⟨phase, hphase, hholds⟩
      · rw [hnone] at hd
        cases hd
  · rw [not_exists] at hstep
    obtain ⟨phase, hphase, hholds⟩ := h d (socketStep_mutex hstep hd)
    exact ⟨phase, socketStep_other hphase hstep, hholds⟩

end Sockets

/-- The handler's next step, if its peer hangs up as soon as the handler reads. -/
def Phase.nextStep (port : Port) : Phase → ClientStep
  | .accepted => .create true
  | .started => if port = .dataDownload then .allocate true else .register
  | .ready => .lock
  | .joining => .register
  | .joined => .unlock
  | .receiving => .disconnect
  | .received => .lock
  | .entered => .check
  | .checked _ => .process
  | .processed _ => .unlock
  | .leaving => .withdraw
  | .withdrawn => .close
  | _ => .finish

/-- A bound on the number of these steps. -/
def Phase.toGo : Phase → Nat
  | .accepted => 9
  | .started => 8
  | .received => 8
  | .ready => 7
  | .entered => 7
  | .joining => 6
  | .checked _ => 6
  | .joined => 5
  | .processed _ => 5
  | .receiving => 4
  | .leaving => 3
  | .withdrawn => 2
  | .closed => 1
  | _ => 0

/-- The steps inside the critical sections of `download_process_mutex`. -/
def sectionSteps : List ClientStep := [.register, .check, .process, .unlock]

theorem Phase.toGo_zero {phase : Phase} (h : phase.toGo = 0) :
    phase = .refused ∨ phase = .returned := by
  cases phase with
  | refused => exact Or.inl rfl
  | returned => exact Or.inr rfl
  | _ => cases h

theorem Phase.toGo_pos_of_holds {phase : Phase} (h : Sockets.holdsProcess phase) :
    0 < phase.toGo := by
  apply Nat.pos_of_ne_zero
  intro hzero
  obtain rfl | rfl := Phase.toGo_zero hzero
  · cases h
  · cases h

theorem Phase.nextStep_section {phase : Phase} (h : Sockets.holdsProcess phase) (port : Port) :
    phase.nextStep port ∈ sectionSteps := by
  cases phase with
  | joining => simp [nextStep, sectionSteps]
  | joined => simp [nextStep, sectionSteps]
  | entered => simp [nextStep, sectionSteps]
  | checked isCurrent => simp [nextStep, sectionSteps]
  | processed isCurrent => simp [nextStep, sectionSteps]
  | _ => cases h

namespace Sockets

variable {s : Sockets} {c d : Nat} {cl : Client} {phase : Phase}

-- The next step is possible unless another handler has the mutex that it waits for.
theorem clientStep_next (s : Sockets) (c : Nat) (hfree : s.processMutex = none ∨
    holdsProcess cl.phase) (hlive : 0 < cl.phase.toGo) :
    ∃ phase, (clientStep s c cl (cl.phase.nextStep cl.port)).phase? c = some phase ∧
      phase ≠ .refused ∧ phase.toGo < cl.phase.toGo := by
  obtain ⟨port, fd, phase, stream, shut, received, parsed⟩ := cl
  dsimp only at hfree hlive ⊢
  cases phase with
  | accepted =>
    refine ⟨.started, ?_, by decide, by decide⟩
    rw [Phase.nextStep, clientStep, if_pos rfl, if_pos rfl]
    exact phase?_setClient_self s c _
  | started =>
    rw [Phase.nextStep]
    split
    next hport =>
      refine ⟨.ready, ?_, by decide, by decide⟩
      rw [clientStep, if_pos ⟨rfl, hport⟩, if_pos rfl]
      exact phase?_setClient_self s c _
    next hport =>
      refine ⟨.receiving, ?_, by decide, by decide⟩
      rw [clientStep, if_neg Phase.noConfusion, if_pos ⟨rfl, hport⟩]
      exact phase?_setClient_self _ c _
  | ready =>
    refine ⟨.joining, ?_, by decide, by decide⟩
    rw [Phase.nextStep, clientStep, if_pos ⟨hfree.resolve_right (by decide), rfl⟩]
    exact phase?_setClient_self s c _
  | joining =>
    refine ⟨.joined, ?_, by decide, by decide⟩
    rw [Phase.nextStep, clientStep, if_pos rfl]
    exact phase?_setClient_self _ c _
  | joined => exact ⟨.receiving, phase?_setClient_self s c _, by decide, by decide⟩
  | receiving =>
    refine ⟨.leaving, ?_, by decide, by decide⟩
    rw [Phase.nextStep, clientStep, if_pos rfl]
    exact phase?_setClient_self s c _
  | received =>
    refine ⟨.entered, ?_, by decide, by decide⟩
    rw [Phase.nextStep, clientStep, if_neg (fun h => Phase.noConfusion h.2),
      if_pos ⟨hfree.resolve_right (by decide), rfl⟩]
    exact phase?_setClient_self s c _
  | entered =>
    refine ⟨.checked (decide (s.sock port = fd)), ?_, Phase.noConfusion, ?_⟩
    · rw [Phase.nextStep, clientStep, if_pos rfl]
      exact phase?_setClient_self s c _
    · rw [Phase.toGo, Phase.toGo]
      decide
  | checked isCurrent =>
    cases isCurrent with
    | true => exact ⟨.processed true, phase?_setClient_self s c _, by decide, by decide⟩
    | false => exact ⟨.processed false, phase?_setClient_self s c _, by decide, by decide⟩
  | processed isCurrent =>
    cases isCurrent with
    | true => exact ⟨.receiving, phase?_setClient_self s c _, by decide, by decide⟩
    | false => exact ⟨.leaving, phase?_setClient_self s c _, by decide, by decide⟩
  | leaving =>
    refine ⟨.withdrawn, ?_, by decide, by decide⟩
    rw [Phase.nextStep, clientStep, if_pos rfl]
    exact phase?_setClient_self _ c _
  | withdrawn =>
    refine ⟨.closed, ?_, by decide, by decide⟩
    rw [Phase.nextStep, clientStep, if_pos rfl]
    exact phase?_setClient_self _ c _
  | closed =>
    refine ⟨.returned, ?_, by decide, by decide⟩
    change (clientStep s c _ .finish).phase? c = some .returned
    rw [clientStep, if_pos rfl]
    exact phase?_setClient_self _ c _
  | returned => exact absurd hlive (by decide)
  | refused => exact absurd hlive (by decide)

-- Its own steps leave the mutex free or its own.
theorem socketStep_free (hfree : ∀ d, s.processMutex = some d → d = c) (own : ClientStep) :
    ∀ d, (socketStep s (.client c own)).processMutex = some d → d = c := by
  intro d hd
  by_contra hdc
  have hother : ∀ step, SocketStep.client c own ≠ .client d step := by
    intro step heq
    cases heq
    exact hdc rfl
  exact hdc (hfree d (socketStep_mutex hother hd))

-- With the mutex free or its own, a handler whose peer hangs up returns on its own.
theorem returns_alone (held : s.Held) (hphase : s.phase? c = some phase) (hne : phase ≠ .refused)
    (hfree : ∀ d, s.processMutex = some d → d = c) :
    ∃ own : List ClientStep,
      ((own.map (.client c)).foldl socketStep s).phase? c = some .returned := by
  induction hgo : phase.toGo using Nat.strong_induction_on generalizing s phase with
  | _ n ih =>
    obtain hzero | hlive := Nat.eq_zero_or_pos phase.toGo
    · rw [(Phase.toGo_zero hzero).resolve_left hne] at hphase
      exact ⟨[], hphase⟩
    · obtain ⟨cl, hc, rfl⟩ := client_of_phase? hphase
      have hmutex : s.processMutex = none ∨ holdsProcess cl.phase := by
        cases hholder : s.processMutex with
        | none => exact Or.inl rfl
        | some d =>
          obtain rfl := hfree d hholder
          obtain ⟨phase, hholding, hholds⟩ := held d hholder
          rw [hphase] at hholding
          cases hholding
          exact Or.inr hholds
      obtain ⟨next, hnext, hne', hless⟩ := clientStep_next s c hmutex hlive
      rw [← socketStep_own hc] at hnext
      obtain ⟨own, hown⟩ := ih next.toGo (hgo ▸ hless) (held.step _) hnext hne'
        (socketStep_free hfree _) rfl
      exact ⟨cl.phase.nextStep cl.port :: own, hown⟩

-- The holder of the mutex can leave its critical section.
theorem releases (held : s.Held) (hd : s.processMutex = some d) :
    ∃ own : List ClientStep, (∀ step ∈ own, step ∈ sectionSteps) ∧
      ((own.map (.client d)).foldl socketStep s).processMutex = none := by
  obtain ⟨phase, hphase, hholds⟩ := held d hd
  induction hgo : phase.toGo using Nat.strong_induction_on generalizing s phase with
  | _ n ih =>
    obtain ⟨cl, hc, rfl⟩ := client_of_phase? hphase
    obtain ⟨next, hnext, _, hless⟩ :=
      clientStep_next s d (Or.inr hholds) (Phase.toGo_pos_of_holds hholds)
    have hsection := Phase.nextStep_section hholds cl.port
    rw [← socketStep_own hc] at hnext
    have hstep := held.step (.client d (cl.phase.nextStep cl.port))
    cases hmutex : (socketStep s (.client d (cl.phase.nextStep cl.port))).processMutex with
    | none => exact ⟨[_], by simpa using hsection, hmutex⟩
    | some e =>
      have honly : ∀ e, s.processMutex = some e → e = d := by
        intro e he
        rw [hd] at he
        exact (Option.some.inj he).symm
      obtain rfl := socketStep_free honly _ e hmutex
      obtain ⟨phase, hphase', hholds'⟩ := hstep e hmutex
      rw [hnext] at hphase'
      cases hphase'
      obtain ⟨own, hown, hnone⟩ := ih next.toGo (hgo ▸ hless) hstep hmutex next hnext hholds' rfl
      exact ⟨cl.phase.nextStep cl.port :: own, List.forall_mem_cons.mpr ⟨hsection, hown⟩, hnone⟩

theorem phase?_others (own : List ClientStep) (hdc : d ≠ c) (h : s.phase? c = some phase) :
    ((own.map (.client d)).foldl socketStep s).phase? c = some phase := by
  refine List.foldlRecOn (motive := fun t : Sockets => t.phase? c = some phase) _ socketStep h ?_
  intro t ht step hmem
  obtain ⟨own₁, _, rfl⟩ := List.mem_map.mp hmem
  refine socketStep_other ht ?_
  intro own₂ heq
  cases heq
  exact hdc rfl

theorem held_foldl (held : s.Held) (steps : List SocketStep) : (steps.foldl socketStep s).Held :=
  List.foldlRecOn steps socketStep held fun _ h step _ => h.step step

theorem held_fresh : freshSockets.Held := by
  intro c h
  cases h

theorem held_run (steps : List SocketStep) : (runSockets steps).Held :=
  held_foldl held_fresh steps

/-- A step of connection `c`'s handler, or of another one inside its critical section. -/
def waitsOnlyFor (c : Nat) : SocketStep → Prop
  | .client d own => d = c ∨ own ∈ sectionSteps
  | _ => False

-- From anywhere a handler can return, at most waiting for the holder of the mutex.
theorem can_return (held : s.Held) (hphase : s.phase? c = some phase) (hne : phase ≠ .refused) :
    ∃ later : List SocketStep, (∀ step ∈ later, waitsOnlyFor c step) ∧
      (later.foldl socketStep s).phase? c = some .returned := by
  by_cases hfree : ∀ d, s.processMutex = some d → d = c
  · obtain ⟨own, hown⟩ := returns_alone held hphase hne hfree
    exact ⟨own.map (.client c), List.forall_mem_map.mpr fun _ _ => Or.inl rfl, hown⟩
  · rw [not_forall] at hfree
    obtain ⟨d, hd⟩ := hfree
    obtain ⟨hholder, hdc⟩ := Classical.not_imp.mp hd
    obtain ⟨release, hrelease, hnone⟩ := releases held hholder
    have hafter := phase?_others release hdc hphase
    obtain ⟨own, hown⟩ := returns_alone (held_foldl held (release.map (.client d))) hafter hne
      (fun e he => by rw [hnone] at he; cases he)
    refine ⟨release.map (.client d) ++ own.map (.client c), ?_, ?_⟩
    · rw [List.forall_mem_append]
      exact ⟨List.forall_mem_map.mpr fun step hstep => Or.inr (hrelease step hstep),
        List.forall_mem_map.mpr fun _ _ => Or.inl rfl⟩
    · rw [List.foldl_append]
      exact hown

end Sockets

/-- The sockets of the three ports, in every interleaving: a global socket is -1 or a connection
whose handler has not called `close`; every number handed to a handler is closed by that handler,
once, and by nobody else; a handler that ends touches no other connection.  A handler that has
returned has closed its number, one that has left its loop gets there by its own steps whatever
else runs in between, and every other can get there, waiting for nothing but the holder of
`download_process_mutex`. -/
theorem socket_ownership (steps : List SocketStep) :
    let s := runSockets steps
    (∀ port, s.sock port = -1 ∨ ∃ c cl, s.clients c = some cl ∧ cl.port = port ∧
      cl.fd = s.sock port ∧ s.files cl.fd = some c ∧ cl.phase.isOpen) ∧
    (∀ c, s.closes.filter (fun call => call.target = some c) = closesOf c (s.clients c)) ∧
    (∀ call ∈ s.closes, call.target ≠ none) ∧
    (∀ c d, d ≠ c → ∀ step : ClientStep, step ∈ Sockets.exitSteps →
      Sockets.Untouched s (socketStep s (.client c step)) d) ∧
    (∀ c, s.phase? c = some .returned →
      s.closes.filter (fun call => call.target = some c) = [⟨some c, some c⟩]) ∧
    (∀ c phase, s.phase? c = some phase → phase.hasLeft →
      ∀ later, phase.exitSteps.Sublist (Sockets.ownSteps c later) →
        (runSockets (steps ++ later)).phase? c = some .returned) ∧
    ∀ c phase, s.phase? c = some phase → phase ≠ .refused →
      ∃ later, (∀ step ∈ later, Sockets.waitsOnlyFor c step) ∧
        (runSockets (steps ++ later)).phase? c = some .returned := by
  have h := Sockets.owned_run steps
  have hlater : ∀ later, runSockets (steps ++ later) = later.foldl socketStep (runSockets steps) :=
    fun later => List.foldl_append
  refine ⟨?_, h.closes, h.targets, fun c d hdc step hexit => h.untouched_exit hexit hdc, ?_, ?_, ?_⟩
  · intro port
    obtain hnone | ⟨c, cl, hc, hport, hfd, howner⟩ := h.sock port
    · exact Or.inl hnone
    · have hopen := Sockets.isOpen_of_isOwner howner
      exact Or.inr ⟨c, cl, hc, hport, hfd, (h.open_fd c cl hc hopen).2, hopen⟩
  · intro c hphase
    obtain ⟨cl, hc, hreturned⟩ := Sockets.client_of_phase? hphase
    rw [h.closes c, hc, closesOf, hreturned]
  · intro c phase hphase hleft later hown
    rw [hlater]
    exact Sockets.exit_run later hphase hleft hown
  · intro c phase hphase hne
    obtain ⟨later, hwaits, hreturned⟩ := Sockets.can_return (Sockets.held_run steps) hphase hne
    rw [← hlater] at hreturned
    exact ⟨later, hwaits, hreturned⟩

/-- A data client that a second one has replaced: it was shut down and leaves its loop. -/
def replacedRun : List SocketStep :=
  [.accept .dataUpload 0 5, .client 0 (.create true), .client 0 .register,
    .accept .dataUpload 1 6, .client 1 (.create true), .client 1 .register, .client 0 .disconnect]

/-- The replaced handler ends, its number goes to a third client in between. -/
def reuseRun : List SocketStep :=
  [.client 0 .withdraw, .client 0 .close, .accept .dataUpload 2 5, .client 2 (.create true),
    .client 0 .finish, .client 2 .register, .client 1 .disconnect]

-- The number 5 is the third client's and stays the global socket when the second one ends.
theorem socket_ownership_reuse :
    (runSockets (replacedRun ++ reuseRun)).phase? 0 = some .returned ∧
    (runSockets (replacedRun ++ reuseRun)).closes.filter
      (fun call => call.target = some 0) = [⟨some 0, some 0⟩] ∧
    (runSockets (replacedRun ++ reuseRun)).sock .dataUpload = 5 ∧
    (runSockets (replacedRun ++ reuseRun)).files 5 = some 2 ∧
    Sockets.Untouched (runSockets (replacedRun ++ reuseRun))
      (socketStep (runSockets (replacedRun ++ reuseRun)) (.client 1 .withdraw)) 2 := by
  have hreturned : (runSockets (replacedRun ++ reuseRun)).phase? 0 = some .returned :=
    (socket_ownership replacedRun).2.2.2.2.2.1 0 .leaving (by decide) rfl reuseRun (by decide)
  refine ⟨hreturned, ?_, by decide, by decide, ?_⟩
  · exact (socket_ownership (replacedRun ++ reuseRun)).2.2.2.2.1 0 hreturned
  · exact (socket_ownership (replacedRun ++ reuseRun)).2.2.2.1 1 2 (by decide) .withdraw (by decide)

end CanGateway
