import CanGateway.BroadcastSchedule
import CanGateway.BroadcastWindow

/-!
# Which channels a group is stored for

`get_broadcast_store_mask` gives the channels the scheduler can wake under the current
configuration.  The acceptance test of a group does not ask for it: it asks for the window, which a
PPS opens whatever the configuration.
-/

namespace CanGateway

def getBroadcastStoreMask (cfg : BroadcastSchedulerConfig) : UInt32 :=
  let mask :=
    if cfg.enable = bcastEnable then
      if cfg.mode = bcastModeSimultaneous ∨ cfg.mode = bcastModePolling then cfg.activeMask
      else if cfg.mode = bcastModeAbAlternate then cfg.groupAMask ||| cfg.groupBMask
      else 0
    else 0
  mask &&& bcastCanMask

/-- The scheduler is enabled and can wake channel `ch`. -/
def BroadcastSchedulerConfig.Stores (cfg : BroadcastSchedulerConfig) (ch : UInt8) : Prop :=
  cfg.enable = bcastEnable ∧ selectsChannel (getBroadcastStoreMask cfg) ch = true

/-- Only channels the scheduler can wake have groups waiting. -/
def BroadcastState.StoresSelected (st : BroadcastState) : Prop :=
  ∀ ch : UInt8, ch.toNat < axicanMax → ringbuffer32chLen st.groups ch 6 ≠ 0 → st.cfg.Stores ch

/-- The checks of `enqueue_broadcast_group`: a well-sized group for a valid channel, within the
    window, with room in the queue. -/
structure BroadcastSystem.Admits (sys : BroadcastSystem) (ch : UInt8)
    (frames : List PcArmDataData) (now : UInt64) : Prop where
  size : 0 < frames.length ∧ frames.length ≤ bcastMaxFramesPerGroup
  channel : ch.toNat < axicanMax
  valid : (sys.configs ch).valid ≠ 0
  window : (isBroadcastRxGateOpen now sys.st).1 = true
  room : (ringbuffer32chLen sys.st.groups ch 6).toNat < bcastGroupQueueDepth.toNat

/-- If the call is an enqueue that passes its checks, its channel is one the scheduler can wake. -/
def BroadcastSystem.Selective (sys : BroadcastSystem) : BroadcastCall → Prop
  | .enqueue ch frames now => sys.Admits ch frames now → sys.st.cfg.Stores ch
  | _ => True

section Steps

variable {sys : BroadcastSystem} {bank : QueueBank BroadcastFrameGroup}

theorem HoldsGroups.len_eq_zero {st : BroadcastState} (h : HoldsGroups st bank) {ch : UInt8}
    (hch : ch.toNat < axicanMax) :
    ringbuffer32chLen st.groups ch 6 = 0 ↔ bank.queue ch.toNat = [] := by
  rw [← UInt32.toNat_inj, h.carries.len, QueueBank.len, if_pos (h.valid hch)]
  exact List.length_eq_zero_iff

-- The checks are exactly what an enqueue needs to return 0.
theorem enqueueBroadcastGroup_admits (h : HoldsGroups sys.st bank) (ch : UInt8)
    (frames : List PcArmDataData) (now : UInt64) :
    (enqueueBroadcastGroup sys.configs ch frames now sys.st).1 = 0 ↔
      sys.Admits ch frames now := by
  constructor
  · intro hret
    have hopen := enqueueBroadcastGroup_gate_open hret
    have hchecks : (0 < frames.length ∧ frames.length ≤ bcastMaxFramesPerGroup) ∧
        ch.toNat < axicanMax ∧ (sys.configs ch).valid ≠ 0 := by
      have heinval : einval ≠ 0 := by decide
      simp only [enqueueBroadcastGroup] at hret
      split at hret
      · exact absurd hret heinval
      split at hret
      · exact absurd hret heinval
      next hsize hchannel =>
        push Not at hsize hchannel
        exact ⟨⟨Nat.pos_of_ne_zero hsize.1, hsize.2⟩, hchannel.1, hchannel.2⟩
    obtain ⟨hsize, hch, hvalid⟩ := hchecks
    exact ⟨hsize, hch, hvalid, hopen,
      (enqueueBroadcastGroup_ret h hopen hsize hch hvalid).mp hret⟩
  · intro hadmits
    exact (enqueueBroadcastGroup_ret h hadmits.window hadmits.size hadmits.channel
      hadmits.valid).mpr hadmits.room

-- A PPS keeps everything the store mask is computed from.
theorem selectBroadcastMaskOnPps_stores (cfg : BroadcastSchedulerConfig) (ch : UInt8) :
    (selectBroadcastMaskOnPps cfg).2.Stores ch ↔ cfg.Stores ch := by
  obtain ⟨_, _, heq⟩ | ⟨_, _, heq⟩ | heq := selectBroadcastMaskOnPps_cfg cfg
  · rw [heq]
    exact Iff.rfl
  · rw [heq]
    exact Iff.rfl
  · rw [heq]

-- What an enqueue adds: a group on its own channel, if it passes the checks.
theorem enqueueBroadcastGroup_queues (h : HoldsGroups sys.st bank) (ch : UInt8)
    (frames : List PcArmDataData) (now : UInt64) (c : UInt8) (hc : c.toNat < axicanMax) :
    let st' := (enqueueBroadcastGroup sys.configs ch frames now sys.st).2.2
    ringbuffer32chLen st'.groups c 6 = 0 ↔
      ringbuffer32chLen sys.st.groups c 6 = 0 ∧ ¬ (sys.Admits ch frames now ∧ c = ch) := by
  intro st'
  obtain ⟨bank', hholds', _, hqueue⟩ := enqueueBroadcastGroup_spec h sys.configs ch frames now
  rw [hholds'.len_eq_zero hc, h.len_eq_zero hc, hqueue, ← enqueueBroadcastGroup_admits h,
    ← UInt8.toNat_inj]
  split
  next hadded =>
    constructor
    · intro hnil
      exact absurd hnil (List.append_ne_nil_of_right_ne_nil _ (List.cons_ne_nil _ _))
    · exact fun hboth => absurd hadded hboth.2
  next hkept => exact ⟨fun hnil => ⟨hnil, hkept⟩, fun hboth => hboth.1⟩

-- A step that meets the condition keeps the queues where the scheduler can wake.
theorem broadcastStep_stores (h : HoldsGroups sys.st bank) (hstores : sys.st.StoresSelected)
    (call : BroadcastCall) (hcall : sys.Selective call) :
    (broadcastStep sys call).2.st.StoresSelected := by
  cases call with
  | pps now =>
      intro ch hch hlen
      have hgroups : (processBroadcastPps now sys.st).2.groups = sys.st.groups := by
        simp only [processBroadcastPps]
        split <;> rfl
      show (processBroadcastPps now sys.st).2.cfg.Stores ch
      rw [processBroadcastPps_cfg, selectBroadcastMaskOnPps_stores]
      apply hstores ch hch
      rw [← hgroups]
      exact hlen
  | config payload =>
      simp only [broadcastStep, handleBroadcastConfig]
      cases broadcastConfigError payload with
      | some event => exact hstores
      | none =>
          have hconfigured : HoldsGroups
              { sys.st with cfg := (BroadcastConfigParam.ofBytes payload).toConfig } bank :=
            ⟨h.carries, h.channels, h.cap⟩
          have hidle := resetBroadcastBuffers_idle hconfigured
          exact fun ch hch hlen => absurd (hidle.queues ch hch) hlen
  | enqueue ch frames now =>
      intro c hc hlen
      have hcfg := enqueueBroadcastGroup_cfg sys.configs ch frames now sys.st
      show (enqueueBroadcastGroup sys.configs ch frames now sys.st).2.2.cfg.Stores c
      rw [hcfg]
      by_cases hold : ringbuffer32chLen sys.st.groups c 6 = 0
      · -- The group is new, so the call has passed its checks.
        by_cases hnew : sys.Admits ch frames now ∧ c = ch
        · rw [hnew.2]
          exact hcall hnew.1
        · exact absurd ((enqueueBroadcastGroup_queues h ch frames now c hc).mpr ⟨hold, hnew⟩) hlen
      · exact hstores c hc hold
  | take ch =>
      intro c hc hlen
      obtain ⟨bank', taken, hholds', _, hqueue, _⟩ :=
        takeBroadcastGroup_spec h sys.configs ch zeroGroup List.length_replicate
      show (takeBroadcastGroup sys.configs ch zeroGroup sys.st).2.2.cfg.Stores c
      rw [takeBroadcastGroup_cfg]
      apply hstores c hc
      intro hzero
      apply hlen
      rw [h.len_eq_zero hc, hqueue, List.append_eq_nil_iff] at hzero
      exact (hholds'.len_eq_zero hc).mpr hzero.2
  | available ch => exact hstores
  | channels configs => exact hstores

-- And a step after which the queues are so has met it.
theorem broadcastStep_selective (h : HoldsGroups sys.st bank) (call : BroadcastCall)
    (hnext : (broadcastStep sys call).2.st.StoresSelected) : sys.Selective call := by
  cases call with
  | enqueue ch frames now =>
      intro hadmits
      have hlen : ringbuffer32chLen
          (enqueueBroadcastGroup sys.configs ch frames now sys.st).2.2.groups ch 6 ≠ 0 := by
        intro hzero
        exact ((enqueueBroadcastGroup_queues h ch frames now ch hadmits.channel).mp hzero).2
          ⟨hadmits, rfl⟩
      have hstores : (enqueueBroadcastGroup sys.configs ch frames now sys.st).2.2.cfg.Stores ch :=
        hnext ch hadmits.channel hlen
      rw [enqueueBroadcastGroup_cfg] at hstores
      exact hstores
  | pps now => exact trivial
  | config payload => exact trivial
  | take ch => exact trivial
  | available ch => exact trivial
  | channels configs => exact trivial

end Steps

-- One more call.
theorem broadcastRun_concat (calls : List BroadcastCall) (call : BroadcastCall)
    (sys : BroadcastSystem) :
    (Transducer.run broadcastStep (calls ++ [call]) sys).2 =
      (broadcastStep (Transducer.run broadcastStep calls sys).2 call).2 := by
  rw [Transducer.run_append]
  rfl

/-- **When groups wait only where the scheduler can release them.**  Throughout a run the waiting
    groups are on channels of the store mask, with broadcasting enabled, exactly if no step of the
    run is an enqueue that passes its checks for a channel outside it. -/
theorem groups_releasable_iff (groups₀ groups : RingBuffer32ChSet) (heap heap' : Heap)
    (configs : CanConfigs)
    (hinit : ringbuffer32chInit groups₀ sizeofBroadcastFrameGroup bcastGroupQueueDepth 6 heap =
      (0, groups, heap'))
    (calls : List BroadcastCall) :
    let after := fun before : List BroadcastCall =>
      (Transducer.run broadcastStep before ⟨.initial groups, configs⟩).2
    (∀ before, before <+: calls → (after before).st.StoresSelected) ↔
      ∀ before call, before ++ [call] <+: calls → (after before).Selective call := by
  intro after
  have hholds : ∀ before, ∃ bank, HoldsGroups (after before).st bank := by
    intro before
    obtain ⟨bank, hholds, _⟩ := Transducer.run_answers BroadcastSystem.Tracks
      (broadcastInitial_tracks configs hinit) broadcastStep_tracks before
    exact ⟨bank, hholds⟩
  constructor
  · intro hstores before call hprefix
    obtain ⟨bank, hbank⟩ := hholds before
    apply broadcastStep_selective hbank
    have hnext := hstores (before ++ [call]) hprefix
    rw [show after (before ++ [call]) = _ from broadcastRun_concat before call _] at hnext
    exact hnext
  · intro hselective before hprefix
    -- From the empty queues of the start, call by call.
    induction before using List.reverseRecOn with
    | nil =>
        intro ch hch hlen
        obtain ⟨_, hqueues, hinv⟩ := broadcastInitial_tracks configs hinit
        have hnil := (hinv ch hch).queued.symm
        exact absurd ((hqueues.len_eq_zero hch).mpr hnil) hlen
    | append_singleton before call ih =>
        obtain ⟨bank, hbank⟩ := hholds before
        have hstores := ih ((List.prefix_append before [call]).trans hprefix)
        rw [show after (before ++ [call]) = _ from broadcastRun_concat before call _]
        exact broadcastStep_stores hbank hstores call (hselective before call hprefix)

-- Broadcasting is off, yet a PPS opens the window and the group is stored: no PPS wakes its
-- channel.
theorem group_stored_while_disabled :
    let groups := (ringbuffer32chInit .zero sizeofBroadcastFrameGroup bcastGroupQueueDepth 6
      ampleHeap).2.1
    let st := (Transducer.run broadcastStep [.pps 100, .enqueue 0 [default] 200]
      ⟨.initial groups, initialConfig⟩).2.st
    st.cfg.enable = 0 ∧ ringbuffer32chLen st.groups 0 6 = 1 ∧ ¬ st.StoresSelected := by
  intro groups st
  have hlen : ringbuffer32chLen st.groups 0 6 = 1 := by decide +kernel
  have henable : st.cfg.enable = 0 := by decide +kernel
  refine ⟨henable, hlen, ?_⟩
  intro hstores
  have hstored := (hstores 0 (by decide) (by rw [hlen]; decide)).1
  rw [henable] at hstored
  exact absurd hstored (by decide)

-- Channel 0 is in the mask of the request, so its group may wait.
theorem groups_releasable_iff_selected :
    let groups := (ringbuffer32chInit .zero sizeofBroadcastFrameGroup bcastGroupQueueDepth 6
      ampleHeap).2.1
    (Transducer.run broadcastStep [.config enablingRequest, .pps 100, .enqueue 0 [default] 200]
      ⟨.initial groups, initialConfig⟩).2.st.StoresSelected := by
  intro groups
  have hinit : ringbuffer32chInit .zero sizeofBroadcastFrameGroup bcastGroupQueueDepth 6 ampleHeap =
      (0, groups, (ringbuffer32chInit .zero sizeofBroadcastFrameGroup bcastGroupQueueDepth 6
        ampleHeap).2.2) := rfl
  apply (groups_releasable_iff .zero groups ampleHeap _ initialConfig hinit
    [.config enablingRequest, .pps 100, .enqueue 0 [default] 200]).mpr
  · intro before call hprefix
    obtain ⟨rest, hsplit⟩ := hprefix
    match before, hsplit with
    | [], h =>
        cases h
        exact trivial
    | [_], h =>
        cases h
        exact trivial
    | [_, _], h =>
        cases h
        intro _
        exact ⟨by decide +kernel, by decide +kernel⟩
    | _ :: _ :: _ :: before, h =>
        have hlen := congrArg List.length h
        simp only [List.cons_append, List.length_cons, List.length_append, List.length_nil] at hlen
        omega
  · exact List.prefix_refl _

end CanGateway
