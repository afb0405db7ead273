import CanGateway.BroadcastSystem

/-!
# The receive window

A PPS event opens the window with a deadline, an accepted configuration closes it, and a query that
comes too late also records it as closed.  Over a run with a clock that never goes back, the flag
and the deadline say no more and no less than the history: when the last PPS was.
-/

namespace CanGateway

/-! ## Runs with clock readings -/

/-- A transaction of the scheduler, or `is_broadcast_rx_gate_open` called on its own. -/
inductive WindowCall where
  | transaction (call : BroadcastCall)
  | query (now : UInt64)

def windowStep (sys : BroadcastSystem) : WindowCall → (BroadcastAnswer ⊕ Bool) × BroadcastSystem
  | .transaction call =>
      let r := broadcastStep sys call
      (.inl r.1, r.2)
  | .query now =>
      let r := isBroadcastRxGateOpen now sys.st
      (.inr r.1, { sys with st := r.2 })

namespace WindowCall

/-- The value `monotonic_ms` has for the call. -/
def reading : WindowCall → Option UInt64
  | .transaction (.pps now) => some now
  | .transaction (.enqueue _ _ now) => some now
  | .query now => some now
  | _ => none

def ppsTime : WindowCall → Option UInt64
  | .transaction (.pps now) => some now
  | _ => none

/-- Whether the call is a configuration that is accepted. -/
def configures : WindowCall → Bool
  | .transaction (.config payload) => (broadcastConfigError payload).isNone
  | _ => false

end WindowCall

def clockReadings (past : List WindowCall) : List UInt64 := past.filterMap WindowCall.reading

/-- The time of the latest PPS since the last accepted configuration. -/
def lastPps (past : List WindowCall) : Option UInt64 :=
  ((past.rtakeWhile fun call => !call.configures).filterMap WindowCall.ppsTime).getLast?

/-- There was such a PPS, and time `t` is within the window it opened; `uint64_t` arithmetic. -/
def InWindow (past : List WindowCall) (t : UInt64) : Prop :=
  ∃ p, lastPps past = some p ∧ t ≤ p + bcastPpsRxWindowMs

section History

variable (past : List WindowCall) {call : WindowCall}

theorem lastPps_configures (h : call.configures = true) : lastPps (past ++ [call]) = none := by
  rw [lastPps, List.rtakeWhile_concat_neg]
  · rfl
  · rw [h]
    exact Bool.false_ne_true

theorem lastPps_pps (now : UInt64) :
    lastPps (past ++ [.transaction (.pps now)]) = some now := by
  rw [lastPps, List.rtakeWhile_concat_pos _ _ _ (by rfl), List.filterMap_append]
  exact List.getLast?_concat

theorem lastPps_other (hconfig : call.configures = false) (hpps : call.ppsTime = none) :
    lastPps (past ++ [call]) = lastPps past := by
  rw [lastPps, List.rtakeWhile_concat_pos _ _ _ (by rw [hconfig]; rfl), List.filterMap_append,
    List.filterMap_cons_none hpps, List.filterMap_nil, List.append_nil]
  rfl

theorem mem_clockReadings_concat {t : UInt64} (h : t ∈ clockReadings past) :
    t ∈ clockReadings (past ++ [call]) := by
  rw [clockReadings, List.filterMap_append]
  exact List.mem_append_left _ h

theorem mem_clockReadings_self {t : UInt64} (h : call.reading = some t) :
    t ∈ clockReadings (past ++ [call]) := by
  rw [clockReadings, List.filterMap_append, List.filterMap_cons_some h]
  exact List.mem_append_right _ List.mem_cons_self

end History

/-! ## The invariant -/

/-- An open gate has the deadline of the last PPS; a closed one was found closed after the
    deadline, unless no PPS opened it. -/
structure BroadcastState.WindowInv (past : List WindowCall) (st : BroadcastState) : Prop where
  opened : st.rxGateOpen ≠ 0 →
    ∃ p, lastPps past = some p ∧ st.rxGateUntilMs = p + bcastPpsRxWindowMs
  closed : st.rxGateOpen = 0 →
    ∀ p, lastPps past = some p → ∃ t ∈ clockReadings past, p + bcastPpsRxWindowMs < t

section Steps

variable {past : List WindowCall} {st st' : BroadcastState} {call : WindowCall}

-- A call that is neither a PPS nor an accepted configuration and leaves the gate alone.
theorem BroadcastState.WindowInv.same_gate (h : st.WindowInv past)
    (hconfig : call.configures = false) (hpps : call.ppsTime = none)
    (hopen : st'.rxGateOpen = st.rxGateOpen) (huntil : st'.rxGateUntilMs = st.rxGateUntilMs) :
    st'.WindowInv (past ++ [call]) := by
  constructor
  · rw [hopen, huntil, lastPps_other past hconfig hpps]
    exact h.opened
  · rw [hopen, lastPps_other past hconfig hpps]
    intro hclosed p hp
    obtain ⟨t, hmem, hlate⟩ := h.closed hclosed p hp
    exact ⟨t, mem_clockReadings_concat past hmem, hlate⟩

-- The answer of the query is what the history says, as long as the clock never went back.
theorem BroadcastState.WindowInv.answer (h : st.WindowInv past) {t : UInt64}
    (hclock : ∀ r ∈ clockReadings past, r ≤ t) :
    (isBroadcastRxGateOpen t st).1 = true ↔ InWindow past t := by
  simp only [isBroadcastRxGateOpen, Bool.and_eq_true, bne_iff_ne, decide_eq_true_eq]
  constructor
  · rintro ⟨hopen, hle⟩
    obtain ⟨p, hp, huntil⟩ := h.opened hopen
    exact ⟨p, hp, huntil ▸ hle⟩
  · rintro ⟨p, hp, hle⟩
    by_cases hopen : st.rxGateOpen = 0
    · -- A closed gate was found closed at some reading, and the clock has not gone back since.
      obtain ⟨r, hmem, hlate⟩ := h.closed hopen p hp
      exact absurd (UInt64.le_trans (hclock r hmem) hle) (UInt64.not_le.mpr hlate)
    · obtain ⟨p', hp', huntil⟩ := h.opened hopen
      have hsame : p' = p := Option.some.inj (hp'.symm.trans hp)
      refine ⟨hopen, ?_⟩
      rw [huntil, hsame]
      exact hle

-- The query itself: it closes the gate only after the deadline.
theorem BroadcastState.WindowInv.query (h : st.WindowInv past) {now : UInt64}
    (hconfig : call.configures = false) (hpps : call.ppsTime = none)
    (hreading : call.reading = some now) :
    (isBroadcastRxGateOpen now st).2.WindowInv (past ++ [call]) := by
  simp only [isBroadcastRxGateOpen]
  split
  · exact h.same_gate hconfig hpps rfl rfl
  next hshut =>
    constructor
    · exact fun hopen => absurd rfl hopen
    · intro _ p hp
      rw [lastPps_other past hconfig hpps] at hp
      by_cases hopen : st.rxGateOpen = 0
      · obtain ⟨t, hmem, hlate⟩ := h.closed hopen p hp
        exact ⟨t, mem_clockReadings_concat past hmem, hlate⟩
      · obtain ⟨p', hp', huntil⟩ := h.opened hopen
        have hsame : p' = p := Option.some.inj (hp'.symm.trans hp)
        refine ⟨now, mem_clockReadings_self past hreading, ?_⟩
        rw [← hsame, ← huntil, ← UInt64.not_le]
        intro hle
        apply hshut
        rw [Bool.and_eq_true, bne_iff_ne, decide_eq_true_eq]
        exact ⟨hopen, hle⟩

theorem isBroadcastPpsWindowOpen_eq {targetCh : UInt8} {now : UInt64} {st : BroadcastState}
    (hch : targetCh.toNat < axicanMax) :
    isBroadcastPpsWindowOpen targetCh now st = isBroadcastRxGateOpen now st := by
  rw [isBroadcastPpsWindowOpen, if_neg (Nat.not_le.mpr hch)]

-- What an enqueue does to the gate: nothing, or what the query does.
theorem enqueueBroadcastGroup_gate (configs : CanConfigs) (targetCh : UInt8)
    (frames : List PcArmDataData) (now : UInt64) (st : BroadcastState) :
    let st' := (enqueueBroadcastGroup configs targetCh frames now st).2.2
    let queried := (isBroadcastRxGateOpen now st).2
    (st'.rxGateOpen = st.rxGateOpen ∧ st'.rxGateUntilMs = st.rxGateUntilMs) ∨
      (st'.rxGateOpen = queried.rxGateOpen ∧ st'.rxGateUntilMs = queried.rxGateUntilMs) := by
  simp only [enqueueBroadcastGroup]
  split
  · exact Or.inl ⟨rfl, rfl⟩
  split
  · exact Or.inl ⟨rfl, rfl⟩
  next hch =>
    rw [isBroadcastPpsWindowOpen_eq (Nat.lt_of_not_le fun h => hch (Or.inl h))]
    split
    · exact Or.inr ⟨rfl, rfl⟩
    split
    · exact Or.inr ⟨rfl, rfl⟩
    · exact Or.inr ⟨rfl, rfl⟩

theorem takeBroadcastGroup_gate (configs : CanConfigs) (canId : UInt8) (group : List UInt8)
    (st : BroadcastState) :
    (takeBroadcastGroup configs canId group st).2.2.rxGateOpen = st.rxGateOpen ∧
      (takeBroadcastGroup configs canId group st).2.2.rxGateUntilMs = st.rxGateUntilMs := by
  simp only [takeBroadcastGroup]
  split
  · exact ⟨rfl, rfl⟩
  split
  · split <;> exact ⟨rfl, rfl⟩
  · exact ⟨rfl, rfl⟩

end Steps

-- Every call keeps the gate in step with the history.
theorem windowStep_inv (past : List WindowCall) (sys : BroadcastSystem) (call : WindowCall)
    (h : sys.st.WindowInv past) : (windowStep sys call).2.st.WindowInv (past ++ [call]) := by
  cases call with
  | query now => exact h.query rfl rfl rfl
  | transaction call =>
      cases call with
      | pps now =>
          have hgate : (processBroadcastPps now sys.st).2.rxGateOpen = 1 ∧
              (processBroadcastPps now sys.st).2.rxGateUntilMs = now + bcastPpsRxWindowMs := by
            simp only [processBroadcastPps]
            split <;> exact ⟨rfl, rfl⟩
          constructor
          · exact fun _ => ⟨now, lastPps_pps past now, hgate.2⟩
          · intro hclosed
            have hopen : (processBroadcastPps now sys.st).2.rxGateOpen = 0 := hclosed
            rw [hgate.1] at hopen
            exact absurd hopen (by decide)
      | config payload =>
          simp only [windowStep, broadcastStep, handleBroadcastConfig]
          cases herror : broadcastConfigError payload with
          | some event =>
              have hconfig :
                  (WindowCall.transaction (.config payload)).configures = false := by
                rw [WindowCall.configures, herror]
                rfl
              exact h.same_gate hconfig rfl rfl rfl
          | none =>
              have hconfig :
                  (WindowCall.transaction (.config payload)).configures = true := by
                rw [WindowCall.configures, herror]
                rfl
              constructor
              · exact fun hopen => absurd rfl hopen
              · intro _ p hp
                rw [lastPps_configures past hconfig] at hp
                exact absurd hp.symm (Option.some_ne_none p)
      | enqueue ch frames now =>
          obtain ⟨hopen, huntil⟩ | ⟨hopen, huntil⟩ :=
            enqueueBroadcastGroup_gate sys.configs ch frames now sys.st
          · exact h.same_gate rfl rfl hopen huntil
          · have hquery : (isBroadcastRxGateOpen now sys.st).2.WindowInv
                (past ++ [.transaction (.enqueue ch frames now)]) := h.query rfl rfl rfl
            exact ⟨fun hne => huntil ▸ hquery.opened (hopen ▸ hne),
              fun hzero => hquery.closed (hopen ▸ hzero)⟩
      | take ch =>
          obtain ⟨hopen, huntil⟩ := takeBroadcastGroup_gate sys.configs ch zeroGroup sys.st
          exact h.same_gate rfl rfl hopen huntil
      | available ch => exact h.same_gate rfl rfl rfl rfl
      | channels configs => exact h.same_gate rfl rfl rfl rfl

/-! ## Every run -/

-- The queues stay the queues of a bank, whatever is called.
theorem windowStep_holds (sys : BroadcastSystem) (call : WindowCall)
    (h : ∃ past, sys.Tracks past) : ∃ past, (windowStep sys call).2.Tracks past := by
  obtain ⟨past, htracks⟩ := h
  cases call with
  | transaction call => exact ⟨_, broadcastStep_tracks past sys call htracks⟩
  | query now =>
      obtain ⟨bank, hholds, hinv⟩ := htracks
      refine ⟨past, bank, ?_, ?_⟩
      · simp only [windowStep, isBroadcastRxGateOpen]
        split
        · exact hholds
        · exact ⟨hholds.carries, hholds.channels, hholds.cap⟩
      · intro ch hch
        have hpending : (windowStep sys (.query now)).2.st.pending = sys.st.pending := by
          simp only [windowStep, isBroadcastRxGateOpen]
          split <;> rfl
        refine ⟨(hinv ch hch).queued, ?_⟩
        rw [hpending]
        exact (hinv ch hch).budget

section Enqueue

variable {configs : CanConfigs} {targetCh : UInt8} {frames : List PcArmDataData} {now : UInt64}
  {st : BroadcastState}

-- An accepted group came through an open gate.
theorem enqueueBroadcastGroup_gate_open
    (h : (enqueueBroadcastGroup configs targetCh frames now st).1 = 0) :
    (isBroadcastRxGateOpen now st).1 = true := by
  have heinval : einval ≠ 0 := by decide
  simp only [enqueueBroadcastGroup] at h
  split at h
  · exact absurd h heinval
  split at h
  · exact absurd h heinval
  next hch =>
    rw [isBroadcastPpsWindowOpen_eq (Nat.lt_of_not_le fun h => hch (Or.inl h))] at h
    split at h
    · exact absurd h heinval
    next hopen => exact not_not.mp hopen

-- Through an open gate a well-sized group for a valid channel needs only room.
theorem enqueueBroadcastGroup_ret {bank : QueueBank BroadcastFrameGroup}
    (hholds : HoldsGroups st bank) (hopen : (isBroadcastRxGateOpen now st).1 = true)
    (hsize : 0 < frames.length ∧ frames.length ≤ bcastMaxFramesPerGroup)
    (hch : targetCh.toNat < axicanMax) (hvalid : (configs targetCh).valid ≠ 0) :
    (enqueueBroadcastGroup configs targetCh frames now st).1 = 0 ↔
      (ringbuffer32chLen st.groups targetCh 6).toNat < bcastGroupQueueDepth.toNat := by
  have henomem : enomem ≠ 0 := by decide
  have hsame : (isBroadcastRxGateOpen now st).2 = st := by
    simp only [isBroadcastRxGateOpen] at hopen ⊢
    rw [if_pos hopen]
  have hv := hholds.valid hch
  have hlen : (ringbuffer32chLen st.groups targetCh 6).toNat =
      (bank.queue targetCh.toNat).length := by
    rw [hholds.carries.len, QueueBank.len, if_pos hv]
  have havail : (ringbuffer32chAvail st.groups targetCh 6).toNat =
      bcastGroupQueueDepth.toNat - (bank.queue targetCh.toNat).length := by
    rw [hholds.carries.avail, QueueBank.avail, if_pos hv, hholds.cap]
  have hbad : ¬ (targetCh.toNat ≥ axicanMax ∨ (configs targetCh).valid = 0) :=
    fun h => h.elim (Nat.not_le.mpr hch) hvalid
  simp only [enqueueBroadcastGroup]
  rw [if_neg (by omega), if_neg hbad, isBroadcastPpsWindowOpen_eq hch, hsame,
    if_neg (not_not.mpr hopen), hlen]
  split
  next hfull =>
    have hzero : (ringbuffer32chAvail st.groups targetCh 6).toNat = 0 := by
      rw [hfull]
      rfl
    exact ⟨fun h => absurd h henomem, fun h => by omega⟩
  next hroom =>
    have hpos : (ringbuffer32chAvail st.groups targetCh 6).toNat ≠ 0 :=
      fun h => hroom (UInt32.toNat_inj.mp h)
    have hlt : (bank.queue targetCh.toNat).length < bank.cap := by
      rw [hholds.cap]
      omega
    have hput : (ringbuffer32chPut st.groups targetCh
        (some (broadcastGroupOf (nextBroadcastGroupId st.groupId) frames).toBytes) 6).1 = 1 := by
      rw [(hholds.carries.put targetCh 6 _).1, QueueBank.put, if_pos ⟨hv, hlt⟩]
      rfl
    show (if _ then enomem else 0) = 0 ↔ _
    rw [if_neg (not_not.mpr hput), ← hholds.cap]
    exact ⟨fun _ => hlt, fun _ => rfl⟩

end Enqueue

/-- **The receive window is exact.**  After any run on a clock that never goes back, the gate is
    open at time `t` exactly if a PPS came since the last accepted configuration and `t` is within
    the window of the latest one.  So no group is accepted outside such a window, and inside it a
    well-sized group for a valid channel is refused only when the queue is full. -/
theorem receive_window_exact (groups₀ groups : RingBuffer32ChSet) (heap heap' : Heap)
    (configs : CanConfigs)
    (hinit : ringbuffer32chInit groups₀ sizeofBroadcastFrameGroup bcastGroupQueueDepth 6 heap =
      (0, groups, heap'))
    (calls : List WindowCall) (t : UInt64)
    (hclock : (clockReadings calls ++ [t]).Pairwise (· ≤ ·)) :
    let sys := (Transducer.run windowStep calls ⟨.initial groups, configs⟩).2
    ((isBroadcastRxGateOpen t sys.st).1 = true ↔ InWindow calls t) ∧
      ∀ (ch : UInt8) (frames : List PcArmDataData),
        let ret := (enqueueBroadcastGroup sys.configs ch frames t sys.st).1
        (ret = 0 → InWindow calls t) ∧
          (InWindow calls t → 0 < frames.length → frames.length ≤ bcastMaxFramesPerGroup →
            ch.toNat < axicanMax → (sys.configs ch).valid ≠ 0 →
              (ret ≠ 0 ↔ (ringbuffer32chLen sys.st.groups ch 6).toNat =
                bcastGroupQueueDepth.toNat)) := by
  intro sys
  have hinv : sys.st.WindowInv calls := by
    apply Transducer.run_history (fun past (sys : BroadcastSystem) => sys.st.WindowInv past)
    · exact ⟨fun hopen => absurd rfl hopen, fun _ p hp => absurd hp.symm (Option.some_ne_none p)⟩
    · exact windowStep_inv
  obtain ⟨past, bank, hholds, _⟩ := Transducer.run_invariant windowStep_holds calls
    (⟨.initial groups, configs⟩ : BroadcastSystem) ⟨[], broadcastInitial_tracks configs hinit⟩
  have hlate : ∀ r ∈ clockReadings calls, r ≤ t :=
    fun r hr => (List.pairwise_append.mp hclock).2.2 r hr t List.mem_cons_self
  have hanswer := hinv.answer hlate
  refine ⟨hanswer, ?_⟩
  intro ch frames ret
  refine ⟨fun hret => hanswer.mp (enqueueBroadcastGroup_gate_open hret), ?_⟩
  intro hwindow hpos hle hch hvalid
  have hret : ret = 0 ↔ _ :=
    enqueueBroadcastGroup_ret hholds (hanswer.mpr hwindow) ⟨hpos, hle⟩ hch hvalid
  have hfits : (ringbuffer32chLen sys.st.groups ch 6).toNat ≤ bcastGroupQueueDepth.toNat := by
    rw [hholds.carries.len, QueueBank.len, if_pos (hholds.valid hch), ← hholds.cap]
    exact hholds.carries.length_queue_le (hholds.valid hch).2
  rw [Ne, hret, Nat.not_lt]
  exact ⟨fun h => Nat.le_antisymm hfits h, fun h => Nat.le_of_eq h.symm⟩

-- A PPS at 100 and a late query between: at 1100 the window would still be open, after it no more.
theorem receive_window_exact_late_query :
    let groups := (ringbuffer32chInit .zero sizeofBroadcastFrameGroup bcastGroupQueueDepth 6
      ampleHeap).2.1
    let sys := (Transducer.run windowStep
      [.transaction (.pps 50), .transaction (.config enablingRequest), .transaction (.pps 100),
        .query 1100] ⟨.initial groups, initialConfig⟩).2
    (isBroadcastRxGateOpen 1100 sys.st).1 = true ∧
      (isBroadcastRxGateOpen 1101 sys.st).1 = false := by
  intro groups sys
  have hinit : ringbuffer32chInit .zero sizeofBroadcastFrameGroup bcastGroupQueueDepth 6 ampleHeap =
      (0, groups, (ringbuffer32chInit .zero sizeofBroadcastFrameGroup bcastGroupQueueDepth 6
        ampleHeap).2.2) := rfl
  have hlast : lastPps [.transaction (.pps 50), .transaction (.config enablingRequest),
      .transaction (.pps 100), .query 1100] = some 100 := by decide +kernel
  constructor
  · apply (receive_window_exact .zero groups ampleHeap _ initialConfig hinit _ 1100
      (by decide)).1.mpr
    exact ⟨100, hlast, by decide⟩
  · rw [Bool.eq_false_iff, Ne, (receive_window_exact .zero groups ampleHeap _ initialConfig hinit _
      1101 (by decide)).1]
    rintro ⟨p, hp, hle⟩
    rw [hlast] at hp
    cases hp
    exact absurd hle (by decide)

end CanGateway
