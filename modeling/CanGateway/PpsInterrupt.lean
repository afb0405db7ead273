import CanGateway.Library.Latch
import CanGateway.Library.Transducer

/-!
# The PPS interrupt

The driver of the PPS interrupt counts the interrupts and latches them for `poll`; `pps_irq_thread`
polls the device and handles one PPS for every latched interrupt.  The interrupt handler runs on any
CPU at any time, between the atomic operations of the driver's `poll` as well.
-/

namespace CanGateway

/-! ## The driver -/

/-- The atomics of `struct zmuav_pl2ps_irq`; `irq_occurred` is only ever set to 0 or 1. -/
structure ZmuavPl2psIrq where
  irqCount : UInt32
  irqOccurred : Bool
  deriving DecidableEq, Repr

/-- `ZMUAV_PL2PS_IRQ_IOCTL_MAGIC`, `ZMUAV_PL2PS_IRQ_NUM_IOCTLS` and the two commands. -/
def zmuavPl2psIrqIoctlMagic : UInt32 := 0x43
def zmuavPl2psIrqNumIoctls : UInt32 := 2
def zmuavPl2psIrqGetIrqCount : UInt32 := 0x80044300
def zmuavPl2psIrqCleanIrqCount : UInt32 := 0x40044301

/-- `-ENOTTY` and `-EFAULT`. -/
def enotty : Int := -25
def efault : Int := -14

/-- The return value, what is copied to the caller and the driver's state; `copied` says whether
    `copy_to_user` succeeds. -/
def zmuavPl2psIrqIoctl (cmd : UInt32) (copied : Bool) (lp : ZmuavPl2psIrq) :
    Int × Option UInt32 × ZmuavPl2psIrq :=
  if cmd >>> 8 &&& 0xFF ≠ zmuavPl2psIrqIoctlMagic then (enotty, none, lp)
  else if cmd &&& 0xFF ≥ zmuavPl2psIrqNumIoctls then (enotty, none, lp)
  else if cmd = zmuavPl2psIrqGetIrqCount then
    if copied then (0, some lp.irqCount, lp) else (efault, none, lp)
  else if cmd = zmuavPl2psIrqCleanIrqCount then (0, none, { lp with irqCount := 0 })
  else (enotty, none, lp)

/-! ## Driver and thread, one atomic operation at a time -/

/-- Where `zmuav_pl2ps_irq_irq` stands; it never runs twice at a time. -/
inductive IrqPc where
  | idle
  | counted
  deriving DecidableEq, Repr

/-- Where `pps_irq_thread` stands: `seen` is inside the driver's `poll`, behind the test. -/
inductive PpsPc where
  | opening
  | polling
  | seen
  | ready
  | counted
  | exited
  deriving DecidableEq, Repr

structure PpsSystem where
  lp : ZmuavPl2psIrq
  handler : IrqPc
  thread : PpsPc
  deriving DecidableEq, Repr

/-- The driver as `zmuav_pl2ps_irq_probe` leaves it. -/
def PpsSystem.probed : PpsSystem := ⟨⟨0, false⟩, .idle, .opening⟩

/-- `interrupt` is the next operation of the handler; the others belong to the thread.  A `poll`
    that does not find the flag sleeps, times out or is interrupted, and is made again. -/
inductive PpsAct where
  | interrupt
  | openDevice (ok : Bool)
  | poll
  | clear
  | pollError (eintr : Bool)
  | ioctl (copied : Bool)
  | process
  deriving DecidableEq, Repr

inductive PpsEvent where
  | counted
  | raised (absorbed : Bool)
  | processed
  | quiet
  deriving DecidableEq, Repr

def ppsStep (s : PpsSystem) : PpsAct → PpsEvent × PpsSystem
  | .interrupt =>
      match s.handler with
      | .idle =>
          (.counted, { s with lp := { s.lp with irqCount := s.lp.irqCount + 1 }
                              handler := .counted })
      -- `atomic_set` and `wake_up_interruptible`
      | .counted =>
          (.raised s.lp.irqOccurred, { s with lp := { s.lp with irqOccurred := true }
                                              handler := .idle })
  | .openDevice ok =>
      if s.thread = .opening then
        (.quiet, { s with thread := if ok then .polling else .exited })
      else (.quiet, s)
  | .poll =>
      if s.thread = .polling ∧ s.lp.irqOccurred = true then (.quiet, { s with thread := .seen })
      else (.quiet, s)
  | .clear =>
      if s.thread = .seen then
        (.quiet, { s with lp := { s.lp with irqOccurred := false }, thread := .ready })
      else (.quiet, s)
  | .pollError eintr =>
      if s.thread = .polling then
        (.quiet, { s with thread := if eintr then .polling else .exited })
      else (.quiet, s)
  -- the count is read and not used
  | .ioctl copied =>
      if s.thread = .ready then
        (.quiet, { s with lp := (zmuavPl2psIrqIoctl zmuavPl2psIrqGetIrqCount copied s.lp).2.2
                          thread := .counted })
      else (.quiet, s)
  | .process =>
      if s.thread = .counted then (.processed, { s with thread := .polling }) else (.quiet, s)

/-! ## The driver's flag as a latch -/

def PpsPc.latch : PpsPc → Latch.Phase
  | .seen => .tested
  | .ready | .counted => .cleared
  | .opening | .polling | .exited => .idle

def PpsSystem.latch (s : PpsSystem) : Latch.State := ⟨s.lp.irqOccurred, s.thread.latch⟩

def PpsEvent.latch : PpsEvent → Latch.Event
  | .raised absorbed => .signalled absorbed
  | .processed => .served
  | .counted | .quiet => .quiet

/-- What a step is for the latch. -/
def PpsAct.latch (s : PpsSystem) : PpsAct → Latch.Act
  | .interrupt => if s.handler = .counted then .signal else .stay
  | .poll => if s.thread = .polling then .test else .stay
  | .clear => .clear
  | .process => if s.thread = .counted then .serve else .stay
  | .openDevice _ | .pollError _ | .ioctl _ => .stay

theorem getIrqCount_lp (copied : Bool) (lp : ZmuavPl2psIrq) :
    (zmuavPl2psIrqIoctl zmuavPl2psIrqGetIrqCount copied lp).2.2 = lp := by
  cases copied <;> rfl

-- Driver and thread make the latch's steps.
theorem ppsStep_latch (s : PpsSystem) (act : PpsAct) :
    Latch.step s.latch (act.latch s) = ((ppsStep s act).1.latch, (ppsStep s act).2.latch) := by
  obtain ⟨⟨irqCount, irqOccurred⟩, handler, thread⟩ := s
  cases act with
  | interrupt => cases handler <;> rfl
  | openDevice ok => cases thread <;> cases ok <;> rfl
  | poll => cases thread <;> cases irqOccurred <;> rfl
  | clear => cases thread <;> rfl
  | pollError eintr => cases thread <;> cases eintr <;> rfl
  | ioctl copied => cases thread <;> cases copied <;> rfl
  | process => cases thread <;> rfl

/-! ## The account of the interrupts -/

section Account

variable (past : List PpsEvent)

/-- The interrupts counted by the driver, those latched, and those that found the latch set. -/
def countedInterrupts : Nat := past.count .counted
def latchedInterrupts : Nat := Latch.signals (past.map PpsEvent.latch)
def absorbedInterrupts : Nat := Latch.absorbed (past.map PpsEvent.latch)
/-- The calls of `process_broadcast_pps`. -/
def processedPps : Nat := Latch.services (past.map PpsEvent.latch)
/-- Whether an interrupt was latched after the last call of `process_broadcast_pps`. -/
def unprocessedInterrupt : Bool := Latch.unserved (past.map PpsEvent.latch)

end Account

/-- The interrupts latched and still to be handled. -/
def PpsSystem.owed (s : PpsSystem) : Nat := s.latch.owed

/-- The counter counts modulo 2^32, and an interrupt is latched behind its count. -/
structure PpsSystem.Counts (past : List PpsEvent) (s : PpsSystem) : Prop where
  irqCount : s.lp.irqCount.toNat = countedInterrupts past % UInt32.size
  latched : countedInterrupts past = latchedInterrupts past + if s.handler = .counted then 1 else 0

/-- What holds after any run of driver and thread. -/
structure PpsSystem.Inv (past : List PpsEvent) (s : PpsSystem) : Prop where
  latch : Latch.Inv (past.map PpsEvent.latch) s.latch
  counts : s.Counts past

theorem countedInterrupts_concat (past : List PpsEvent) (e : PpsEvent) :
    countedInterrupts (past ++ [e]) = countedInterrupts past + if e = .counted then 1 else 0 := by
  rw [countedInterrupts, List.count_append, List.count_singleton]
  simp [countedInterrupts, beq_iff_eq]

theorem latchedInterrupts_concat (past : List PpsEvent) (e : PpsEvent) :
    latchedInterrupts (past ++ [e]) = latchedInterrupts past + e.latch.isSignal.toNat := by
  rw [latchedInterrupts, Latch.signals, List.map_append, List.countP_append, List.map_singleton,
    List.countP_singleton]
  cases e.latch <;> rfl

-- Only the handler touches the counter, and it takes its two operations in turn.
theorem ppsStep_counts {past : List PpsEvent} {s : PpsSystem} (act : PpsAct) (h : s.Counts past) :
    (ppsStep s act).2.Counts (past ++ [(ppsStep s act).1]) := by
  have hcount := h.irqCount
  have hlatched := h.latched
  have hquiet : ∀ {e : PpsEvent} {t : PpsSystem}, e = .quiet ∨ e = .processed →
      t.lp.irqCount = s.lp.irqCount → t.handler = s.handler → t.Counts (past ++ [e]) := by
    intro e t he hlp hhandler
    constructor
    · rw [hlp, countedInterrupts_concat]
      rcases he with rfl | rfl <;> exact hcount
    · rw [hhandler, countedInterrupts_concat, latchedInterrupts_concat]
      rcases he with rfl | rfl <;> exact hlatched
  cases act with
  | interrupt =>
      cases hhandler : s.handler with
      | idle =>
          rw [hhandler] at hlatched
          simp only [ppsStep, hhandler]
          constructor
          · rw [countedInterrupts_concat, UInt32.toNat_add, hcount]
            simp
          · rw [countedInterrupts_concat, latchedInterrupts_concat, hlatched]
            rfl
      | counted =>
          rw [hhandler] at hlatched
          simp only [ppsStep, hhandler]
          constructor
          · rw [countedInterrupts_concat]
            exact hcount
          · rw [countedInterrupts_concat, latchedInterrupts_concat, hlatched]
            rfl
  | ioctl copied =>
      simp only [ppsStep]
      split
      · rw [getIrqCount_lp]
        exact hquiet (Or.inl rfl) rfl rfl
      · exact hquiet (Or.inl rfl) rfl rfl
  | process =>
      simp only [ppsStep]
      split
      · exact hquiet (Or.inr rfl) rfl rfl
      · exact hquiet (Or.inl rfl) rfl rfl
  | openDevice ok =>
      simp only [ppsStep]
      split <;> exact hquiet (Or.inl rfl) rfl rfl
  | poll =>
      simp only [ppsStep]
      split <;> exact hquiet (Or.inl rfl) rfl rfl
  | clear =>
      simp only [ppsStep]
      split <;> exact hquiet (Or.inl rfl) rfl rfl
  | pollError eintr =>
      simp only [ppsStep]
      split <;> exact hquiet (Or.inl rfl) rfl rfl

theorem ppsStep_inv (past : List PpsEvent) (s : PpsSystem) (act : PpsAct) (h : s.Inv past) :
    (ppsStep s act).2.Inv (past ++ [(ppsStep s act).1]) := by
  constructor
  · have hlatch := Latch.step_inv _ _ (act.latch s) h.latch
    rw [ppsStep_latch] at hlatch
    rw [List.map_append]
    exact hlatch
  · exact ppsStep_counts act h.counts

-- Nothing happened to the driver or its thread.
theorem PpsSystem.Inv.quiet {past : List PpsEvent} {s : PpsSystem} (h : s.Inv past) :
    s.Inv (past ++ [.quiet]) := by
  constructor
  · rw [List.map_append]
    exact h.latch.quiet h.latch.tested rfl
  · constructor
    · rw [countedInterrupts_concat]
      exact h.counts.irqCount
    · rw [countedInterrupts_concat, latchedInterrupts_concat]
      exact h.counts.latched

theorem PpsSystem.inv_probed : PpsSystem.probed.Inv [] :=
  ⟨⟨by decide, rfl, by decide⟩, rfl, rfl⟩

theorem pps_inv (acts : List PpsAct) :
    (Transducer.run ppsStep acts .probed).2.Inv (Transducer.run ppsStep acts .probed).1 := by
  apply Transducer.run_answers PpsSystem.Inv
  · exact PpsSystem.inv_probed
  · exact ppsStep_inv

/-! ## No interrupt is lost -/

/-- The thread is in its loop. -/
def PpsPc.inLoop : PpsPc → Bool
  | .opening | .exited => false
  | _ => true

/-- The thread's own operations from one `poll` to the next. -/
def ppsPass : List PpsAct := [.poll, .clear, .ioctl true, .process]

-- Wherever it stands, the thread handles an owed interrupt within a pass.
theorem ppsPass_processed {s : PpsSystem} (hloop : s.thread.inLoop = true) (howed : 0 < s.owed) :
    PpsEvent.processed ∈ (Transducer.run ppsStep ppsPass s).1 := by
  obtain ⟨⟨irqCount, irqOccurred⟩, handler, thread⟩ := s
  cases thread with
  | opening => cases hloop
  | exited => cases hloop
  | polling =>
      cases irqOccurred with
      | true => simp [ppsPass, Transducer.run, ppsStep]
      | false => exact absurd howed (Nat.lt_irrefl 0)
  | seen => simp [ppsPass, Transducer.run, ppsStep]
  | ready => simp [ppsPass, Transducer.run, ppsStep]
  | counted => simp [ppsPass, Transducer.run, ppsStep]

/-- **Every interrupt is accounted for.**  In any interleaving of the handler with the thread, the
    interrupts latched are those handled, those that found the latch set and those still owed; the
    driver's counter is their number modulo 2^32 (or one ahead).  An interrupt latched behind the
    last `process_broadcast_pps` is still owed, and a thread in its loop handles it in its next
    pass. -/
theorem pps_interrupts_accounted (acts : List PpsAct) :
    let run := Transducer.run ppsStep acts .probed
    latchedInterrupts run.1 = processedPps run.1 + absorbedInterrupts run.1 + run.2.owed ∧
      countedInterrupts run.1 =
        latchedInterrupts run.1 + (if run.2.handler = .counted then 1 else 0) ∧
      run.2.lp.irqCount.toNat = countedInterrupts run.1 % UInt32.size ∧
      run.2.owed ≤ 2 ∧
      (unprocessedInterrupt run.1 = true → 0 < run.2.owed ∧
        (run.2.thread.inLoop = true →
          PpsEvent.processed ∈ (Transducer.run ppsStep ppsPass run.2).1)) := by
  intro run
  have hinv := pps_inv acts
  refine ⟨hinv.latch.account, hinv.counts.latched, hinv.counts.irqCount, ?_, ?_⟩
  · show Latch.State.owed _ ≤ 2
    rw [Latch.State.owed]
    split <;> split <;> omega
  · intro hun
    have howed := hinv.latch.owed hun
    exact ⟨howed, fun hloop => ppsPass_processed hloop howed⟩

end CanGateway
