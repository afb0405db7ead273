import CanGateway.BroadcastSystem
import CanGateway.Library.CyclicPolling

/-!
# What the scheduler does with a configuration

A configuration request is refused as a whole or installed as a whole, so the scheduler's own
configuration stays well formed in every run.  From the installed configuration the masks of all
later PPS events follow.
-/

namespace CanGateway

/-! ## Installing a configuration -/

theorem and_bcastCanMask {mask : UInt32} (h : validateBroadcastMask mask = true) :
    mask &&& bcastCanMask = mask := by
  have hzero : mask &&& ~~~bcastCanMask = 0 := beq_iff_eq.mp h
  have hsplit : mask &&& bcastCanMask ||| mask &&& ~~~bcastCanMask = mask := by
    apply UInt32.toBitVec_inj.mp
    rw [UInt32.toBitVec_or, UInt32.toBitVec_and, UInt32.toBitVec_and, UInt32.toBitVec_not,
      ← BitVec.and_or_distrib_left, BitVec.or_not_self, BitVec.and_allOnes]
  rw [hzero, UInt32.or_zero] at hsplit
  exact hsplit

/-- What the configuration of the scheduler always satisfies. -/
structure BroadcastSchedulerConfig.Wf (cfg : BroadcastSchedulerConfig) : Prop where
  activeMask : validateBroadcastMask cfg.activeMask = true
  groupAMask : validateBroadcastMask cfg.groupAMask = true
  groupBMask : validateBroadcastMask cfg.groupBMask = true
  pollNextChannel : cfg.pollNextChannel.toNat < axicanMax
  currentGroup : cfg.currentGroup ≤ 1
  mode : cfg.enable = bcastEnable → cfg.mode = bcastModeSimultaneous ∨
    cfg.mode = bcastModePolling ∨ cfg.mode = bcastModeAbAlternate

-- The checks an accepted request has passed.
theorem broadcastConfigError_none {payload : List UInt8}
    (h : broadcastConfigError payload = none) :
    let param := BroadcastConfigParam.ofBytes payload
    (param.enable = bcastEnable → param.bMode = bcastModeSimultaneous ∨
        param.bMode = bcastModePolling ∨ param.bMode = bcastModeAbAlternate) ∧
      validateBroadcastMask param.activeMask = true ∧
      validateBroadcastMask param.groupAMask = true ∧
      validateBroadcastMask param.groupBMask = true ∧
      param.startChannel.toNat < axicanMax ∧ param.startGroup ≤ 1 := by
  intro param
  unfold broadcastConfigError at h
  dsimp only at h
  split at h
  · exact (nomatch h)
  split at h
  · exact (nomatch h)
  split at h
  · exact (nomatch h)
  split at h
  · exact (nomatch h)
  next hmode =>
    split at h
    · exact (nomatch h)
    next hmask =>
      push Not at hmask
      refine ⟨?_, hmask.1, hmask.2.1, hmask.2.2.1, hmask.2.2.2.1,
        UInt8.not_lt.mp hmask.2.2.2.2⟩
      intro henable
      have hrange : ¬ (param.bMode < bcastModeSimultaneous ∨ param.bMode > bcastModeAbAlternate) :=
        fun hout => hmode ⟨henable, hout⟩
      simp only [UInt8.lt_iff_toNat_lt, gt_iff_lt, ← UInt8.toNat_inj] at hrange ⊢
      simp only [bcastModeSimultaneous, bcastModePolling, bcastModeAbAlternate] at hrange ⊢
      simp only [UInt8.reduceToNat] at hrange ⊢
      omega

/-- The configuration made of the request's own fields, the masks as they stand. -/
def BroadcastConfigParam.installed (param : BroadcastConfigParam) : BroadcastSchedulerConfig where
  enable := param.enable
  mode := param.bMode
  startGroup := param.startGroup
  currentGroup := param.startGroup
  startChannel := param.startChannel
  pollNextChannel := param.startChannel
  activeMask := param.activeMask
  groupAMask := param.groupAMask
  groupBMask := param.groupBMask
  configCount := param.configCount

-- No bit of an accepted mask is cut off.
theorem toConfig_eq_installed {payload : List UInt8} (h : broadcastConfigError payload = none) :
    (BroadcastConfigParam.ofBytes payload).toConfig =
      (BroadcastConfigParam.ofBytes payload).installed := by
  obtain ⟨_, hactive, hgroupA, hgroupB, _, _⟩ := broadcastConfigError_none h
  rw [BroadcastConfigParam.toConfig, and_bcastCanMask hactive, and_bcastCanMask hgroupA,
    and_bcastCanMask hgroupB]
  rfl

theorem installed_wf {payload : List UInt8} (h : broadcastConfigError payload = none) :
    (BroadcastConfigParam.ofBytes payload).installed.Wf := by
  obtain ⟨hmode, hactive, hgroupA, hgroupB, hchannel, hgroup⟩ := broadcastConfigError_none h
  exact ⟨hactive, hgroupA, hgroupB, hchannel, hgroup, hmode⟩

/-! ## One PPS on the configuration -/

-- The one field a PPS may write in each mode.
theorem selectBroadcastMaskOnPps_cfg (cfg : BroadcastSchedulerConfig) :
    (∃ ch, ch.toNat < axicanMax ∧
      (selectBroadcastMaskOnPps cfg).2 = { cfg with pollNextChannel := ch }) ∨
    (∃ group, group ≤ 1 ∧
      (selectBroadcastMaskOnPps cfg).2 = { cfg with currentGroup := group }) ∨
    (selectBroadcastMaskOnPps cfg).2 = cfg := by
  unfold selectBroadcastMaskOnPps
  split
  · exact Or.inr (Or.inr rfl)
  split
  · exact Or.inr (Or.inr rfl)
  split
  · cases pollChannel (cfg.activeMask &&& bcastCanMask) cfg.pollNextChannel with
    | none => exact Or.inr (Or.inr rfl)
    | some ch =>
        have hlt : (ch.toNat + 1) % axicanMax < axicanMax := Nat.mod_lt _ (by decide)
        refine Or.inl ⟨_, ?_, rfl⟩
        rw [UInt8.toNat_ofNat_of_lt' (Nat.lt_trans hlt (by decide))]
        exact hlt
  split
  · split
    · exact Or.inr (Or.inl ⟨1, by decide, rfl⟩)
    · exact Or.inr (Or.inl ⟨0, by decide, rfl⟩)
  · exact Or.inr (Or.inr rfl)

theorem selectBroadcastMaskOnPps_wf {cfg : BroadcastSchedulerConfig} (h : cfg.Wf) :
    (selectBroadcastMaskOnPps cfg).2.Wf := by
  obtain ⟨ch, hch, heq⟩ | ⟨group, hgroup, heq⟩ | heq := selectBroadcastMaskOnPps_cfg cfg
  · rw [heq]
    exact ⟨h.activeMask, h.groupAMask, h.groupBMask, hch, h.currentGroup, h.mode⟩
  · rw [heq]
    exact ⟨h.activeMask, h.groupAMask, h.groupBMask, h.pollNextChannel, hgroup, h.mode⟩
  · rw [heq]
    exact h

theorem processBroadcastPps_cfg (now : UInt64) (st : BroadcastState) :
    (processBroadcastPps now st).2.cfg = (selectBroadcastMaskOnPps st.cfg).2 := by
  simp only [processBroadcastPps]
  split <;> rfl

theorem enqueueBroadcastGroup_cfg (configs : CanConfigs) (targetCh : UInt8)
    (frames : List PcArmDataData) (now : UInt64) (st : BroadcastState) :
    (enqueueBroadcastGroup configs targetCh frames now st).2.2.cfg = st.cfg := by
  have hwindow : (isBroadcastPpsWindowOpen targetCh now st).2.cfg = st.cfg := by
    simp only [isBroadcastPpsWindowOpen, isBroadcastRxGateOpen]
    split
    · rfl
    · split <;> rfl
  simp only [enqueueBroadcastGroup]
  split
  · rfl
  split
  · rfl
  split
  · exact hwindow
  split
  · exact hwindow
  · exact hwindow

theorem takeBroadcastGroup_cfg (configs : CanConfigs) (canId : UInt8) (group : List UInt8)
    (st : BroadcastState) : (takeBroadcastGroup configs canId group st).2.2.cfg = st.cfg := by
  simp only [takeBroadcastGroup]
  split
  · rfl
  split
  · split <;> rfl
  · rfl

/-- Whether the call is a configuration that is accepted. -/
def BroadcastCall.configures : BroadcastCall → Bool
  | .config payload => (broadcastConfigError payload).isNone
  | _ => false

/-- Whether the call is a PPS. -/
def BroadcastCall.isPps : BroadcastCall → Bool
  | .pps _ => true
  | _ => false

-- Only a PPS and an accepted request write the configuration.
theorem broadcastStep_cfg (sys : BroadcastSystem) (call : BroadcastCall) :
    (broadcastStep sys call).2.st.cfg =
      match call with
      | .pps _ => (selectBroadcastMaskOnPps sys.st.cfg).2
      | .config payload =>
          if broadcastConfigError payload = none then
            (BroadcastConfigParam.ofBytes payload).installed
          else sys.st.cfg
      | _ => sys.st.cfg := by
  cases call with
  | pps now => exact processBroadcastPps_cfg now sys.st
  | config payload =>
      simp only [broadcastStep, handleBroadcastConfig]
      cases herror : broadcastConfigError payload with
      | some event => rw [if_neg (Option.some_ne_none event)]
      | none =>
          rw [if_pos rfl, ← toConfig_eq_installed herror]
          rfl
  | enqueue ch frames now => exact enqueueBroadcastGroup_cfg sys.configs ch frames now sys.st
  | take ch => exact takeBroadcastGroup_cfg sys.configs ch zeroGroup sys.st
  | available ch => rfl
  | channels configs => rfl

theorem broadcastStep_wf (sys : BroadcastSystem) (call : BroadcastCall) (h : sys.st.cfg.Wf) :
    (broadcastStep sys call).2.st.cfg.Wf := by
  rw [broadcastStep_cfg]
  cases call with
  | pps now => exact selectBroadcastMaskOnPps_wf h
  | config payload =>
      show (if _ then _ else _ : BroadcastSchedulerConfig).Wf
      split
      next herror => exact installed_wf herror
      · exact h
  | enqueue ch frames now => exact h
  | take ch => exact h
  | available ch => exact h
  | channels configs => exact h

theorem initial_wf (groups : RingBuffer32ChSet) : (BroadcastState.initial groups).cfg.Wf := by
  have hmask : validateBroadcastMask 0 = true := by decide
  have hchannel : (0 : UInt8).toNat < axicanMax := by decide
  have hgroup : (0 : UInt8) ≤ 1 := by decide
  have henable : (0 : UInt8) ≠ bcastEnable := by decide
  exact ⟨hmask, hmask, hmask, hchannel, hgroup, fun h => absurd h henable⟩

/-- A state with nothing queued, no wake pending and the gate closed. -/
structure BroadcastState.Idle (st : BroadcastState) : Prop where
  queues : ∀ ch : UInt8, ch.toNat < axicanMax → ringbuffer32chLen st.groups ch 6 = 0
  pending : ∀ ch : UInt8, ch.toNat < axicanMax → st.pending ch = 0
  gate : st.rxGateOpen = 0

theorem resetBroadcastBuffers_idle {st : BroadcastState} {bank : QueueBank BroadcastFrameGroup}
    (h : HoldsGroups st bank) : (resetBroadcastBuffers st).Idle := by
  obtain ⟨hholds, hempty⟩ := resetBroadcastBuffers_spec h
  refine ⟨?_, fun ch hch => (hempty ch hch).1, rfl⟩
  intro ch hch
  apply UInt32.toNat_inj.mp
  rw [hholds.carries.len, QueueBank.len, if_pos (hholds.valid hch), (hempty ch hch).2]
  rfl

/-- **Broadcast configuration is atomic.**  In every reachable state a request is either refused
    with status 1 and changes nothing, or answered with status 0, its fields installed as they are
    and everything queued or pending dropped.  So the configuration is well formed in every
    reachable state, and an enabled one never takes the selector's default branch. -/
theorem broadcast_config_atomic (groups₀ groups : RingBuffer32ChSet) (heap heap' : Heap)
    (configs : CanConfigs)
    (hinit : ringbuffer32chInit groups₀ sizeofBroadcastFrameGroup bcastGroupQueueDepth 6 heap =
      (0, groups, heap'))
    (calls : List BroadcastCall) :
    let st := (Transducer.run broadcastStep calls ⟨.initial groups, configs⟩).2.st
    (∀ payload,
      let r := handleBroadcastConfig payload st
      (r.1 = 1 ∧ r.2.2 = st) ∨
        (r.1 = 0 ∧ r.2.2.cfg = (BroadcastConfigParam.ofBytes payload).installed ∧
          r.2.2.Idle)) ∧
      st.cfg.Wf := by
  intro st
  constructor
  · intro payload
    obtain ⟨bank, hholds, _⟩ := Transducer.run_answers BroadcastSystem.Tracks
      (broadcastInitial_tracks configs hinit) broadcastStep_tracks calls
    simp only [handleBroadcastConfig]
    cases herror : broadcastConfigError payload with
    | some event => exact Or.inl ⟨rfl, rfl⟩
    | none =>
        refine Or.inr ⟨rfl, toConfig_eq_installed herror, ?_⟩
        have hconfigured : HoldsGroups
            { st with cfg := (BroadcastConfigParam.ofBytes payload).toConfig } bank :=
          ⟨hholds.carries, hholds.channels, hholds.cap⟩
        exact resetBroadcastBuffers_idle hconfigured
  · apply Transducer.run_invariant
      (fun (sys : BroadcastSystem) call h => broadcastStep_wf sys call h)
    exact initial_wf groups

-- A group waits when the same request comes again: the queue is emptied.
theorem broadcast_config_atomic_again :
    let groups := (ringbuffer32chInit .zero sizeofBroadcastFrameGroup bcastGroupQueueDepth 6
      ampleHeap).2.1
    let st := (Transducer.run broadcastStep
      [.config enablingRequest, .pps 100, .enqueue 0 [default] 200]
      ⟨.initial groups, initialConfig⟩).2.st
    (handleBroadcastConfig enablingRequest st).2.2.Idle ∧ st.cfg.Wf := by
  intro groups st
  have hinit : ringbuffer32chInit .zero sizeofBroadcastFrameGroup bcastGroupQueueDepth 6 ampleHeap =
      (0, groups, (ringbuffer32chInit .zero sizeofBroadcastFrameGroup bcastGroupQueueDepth 6
        ampleHeap).2.2) := rfl
  obtain ⟨hrequest, hwf⟩ := broadcast_config_atomic .zero groups ampleHeap _ initialConfig hinit
    [.config enablingRequest, .pps 100, .enqueue 0 [default] 200]
  obtain ⟨hrefused, _⟩ | ⟨_, _, hidle⟩ := hrequest enablingRequest
  · have herror : broadcastConfigError enablingRequest = none := by decide +kernel
    rw [handleBroadcastConfig, herror] at hrefused
    exact absurd hrefused (by decide)
  · exact ⟨hidle, hwf⟩

/-! ## The schedule -/

/-- The active channels in cyclic order from the start channel. -/
def activeChannels (param : BroadcastConfigParam) : List UInt8 :=
  ((List.range axicanMax).map fun step =>
    UInt8.ofNat ((param.startChannel.toNat + step) % axicanMax)).filter
      (selectsChannel param.activeMask)

/-- The channels the `k`-th PPS after a configuration is to wake, as a mask. -/
def scheduledMask (param : BroadcastConfigParam) (k : Nat) : UInt32 :=
  if param.bMode = bcastModeSimultaneous then param.activeMask
  else if param.bMode = bcastModePolling then
    match (activeChannels param)[k % (activeChannels param).length]? with
    | some ch => channelBit ch
    | none => 0
  else if (k + param.startGroup.toNat) % 2 = 0 then param.groupAMask
  else param.groupBMask

/-- Whether position `c` of the polling cursor is active. -/
def isActive (mask : UInt32) (c : Nat) : Bool := selectsChannel mask (UInt8.ofNat c)

theorem pollChannel_eq (active : UInt32) (pollNextChannel : UInt8) :
    pollChannel active pollNextChannel =
      (CyclicPolling.poll (isActive active) axicanMax pollNextChannel.toNat).map UInt8.ofNat := by
  rw [CyclicPolling.poll, CyclicPolling.order, pollChannel, List.find?_map, List.find?_map,
    Option.map_map]
  rfl

theorem activeChannels_eq (param : BroadcastConfigParam) :
    activeChannels param = (CyclicPolling.active (isActive param.activeMask) axicanMax
      param.startChannel.toNat).map UInt8.ofNat := by
  rw [CyclicPolling.active, CyclicPolling.order, activeChannels, List.filter_map, List.filter_map,
    List.map_map]
  rfl

/-- The configuration after `k` PPS events. -/
structure OnSchedule (param : BroadcastConfigParam) (k : Nat) (cfg : BroadcastSchedulerConfig) :
    Prop where
  enable : cfg.enable = bcastEnable
  mode : cfg.mode = param.bMode
  activeMask : cfg.activeMask = param.activeMask
  groupAMask : cfg.groupAMask = param.groupAMask
  groupBMask : cfg.groupBMask = param.groupBMask
  pollNextChannel : param.bMode = bcastModePolling → cfg.pollNextChannel.toNat =
    (CyclicPolling.next (isActive param.activeMask) axicanMax)^[k] param.startChannel.toNat
  currentGroup : param.bMode = bcastModeAbAlternate →
    (cfg.currentGroup = 0 ↔ (k + param.startGroup.toNat) % 2 = 0)

theorem installed_onSchedule {payload : List UInt8} (h : broadcastConfigError payload = none)
    (henable : (BroadcastConfigParam.ofBytes payload).enable = bcastEnable) :
    OnSchedule (BroadcastConfigParam.ofBytes payload) 0
      (BroadcastConfigParam.ofBytes payload).installed := by
  obtain ⟨_, _, _, _, _, hgroup⟩ := broadcastConfigError_none h
  refine ⟨henable, rfl, rfl, rfl, rfl, fun _ => rfl, fun _ => ?_⟩
  show (BroadcastConfigParam.ofBytes payload).startGroup = 0 ↔ _
  rw [Nat.zero_add, ← UInt8.toNat_inj]
  have hle : (BroadcastConfigParam.ofBytes payload).startGroup.toNat ≤ 1 :=
    UInt8.le_iff_toNat_le.mp hgroup
  have hzero : (0 : UInt8).toNat = 0 := rfl
  omega

theorem channelBit_and {c : Nat} (h : c < axicanMax) :
    channelBit (UInt8.ofNat c) &&& bcastCanMask = channelBit (UInt8.ofNat c) := by
  have hall : ∀ c < axicanMax,
      channelBit (UInt8.ofNat c) &&& bcastCanMask = channelBit (UInt8.ofNat c) := by decide
  exact hall c h

section OnePps

variable {param : BroadcastConfigParam} {k : Nat} {cfg : BroadcastSchedulerConfig}

theorem OnSchedule.simultaneous (h : OnSchedule param k cfg)
    (hactive : validateBroadcastMask param.activeMask = true)
    (hmode : param.bMode = bcastModeSimultaneous) :
    (selectBroadcastMaskOnPps cfg).1 = scheduledMask param k ∧
      OnSchedule param (k + 1) (selectBroadcastMaskOnPps cfg).2 := by
  have hselect : selectBroadcastMaskOnPps cfg = (cfg.activeMask &&& bcastCanMask, cfg) := by
    rw [selectBroadcastMaskOnPps, if_neg (not_not.mpr h.enable), if_pos (h.mode.trans hmode)]
  rw [hselect, scheduledMask, if_pos hmode, h.activeMask]
  refine ⟨and_bcastCanMask hactive, h.enable, h.mode, h.activeMask, h.groupAMask, h.groupBMask,
    ?_, ?_⟩
  · intro hpolling
    rw [hmode] at hpolling
    exact absurd hpolling (by decide)
  · intro hab
    rw [hmode] at hab
    exact absurd hab (by decide)

theorem OnSchedule.polling (h : OnSchedule param k cfg)
    (hactive : validateBroadcastMask param.activeMask = true)
    (hmode : param.bMode = bcastModePolling) :
    (selectBroadcastMaskOnPps cfg).1 = scheduledMask param k ∧
      OnSchedule param (k + 1) (selectBroadcastMaskOnPps cfg).2 := by
  have hsimultaneous : param.bMode ≠ bcastModeSimultaneous := by
    rw [hmode]
    decide
  have hcursor := h.pollNextChannel hmode
  have hpoll : pollChannel (cfg.activeMask &&& bcastCanMask) cfg.pollNextChannel =
      (CyclicPolling.poll (isActive param.activeMask) axicanMax
        cfg.pollNextChannel.toNat).map UInt8.ofNat := by
    rw [h.activeMask, and_bcastCanMask hactive, pollChannel_eq]
  have hscheduled : scheduledMask param k =
      match (CyclicPolling.poll (isActive param.activeMask) axicanMax
        cfg.pollNextChannel.toNat).map UInt8.ofNat with
      | some ch => channelBit ch
      | none => 0 := by
    rw [scheduledMask, if_neg hsimultaneous, if_pos hmode, hcursor, CyclicPolling.poll_iterate,
      activeChannels_eq, List.length_map, List.getElem?_map]
  have hnext : CyclicPolling.next (isActive param.activeMask) axicanMax
        cfg.pollNextChannel.toNat =
      (CyclicPolling.next (isActive param.activeMask) axicanMax)^[k + 1]
        param.startChannel.toNat := by
    rw [Function.iterate_succ_apply', hcursor]
  have hab : param.bMode ≠ bcastModeAbAlternate := by
    rw [hmode]
    decide
  rw [selectBroadcastMaskOnPps, if_neg (not_not.mpr h.enable), if_neg (h.mode ▸ hsimultaneous),
    if_pos (h.mode.trans hmode), hpoll, hscheduled]
  rw [CyclicPolling.next] at hnext
  cases hfound : CyclicPolling.poll (isActive param.activeMask) axicanMax
      cfg.pollNextChannel.toNat with
  | none =>
      rw [hfound] at hnext
      exact ⟨rfl, h.enable, h.mode, h.activeMask, h.groupAMask, h.groupBMask, fun _ => hnext,
        fun h => absurd h hab⟩
  | some c =>
      rw [hfound] at hnext
      have hc : c < axicanMax := CyclicPolling.poll_lt hfound
      have hc8 : (UInt8.ofNat c).toNat = c :=
        UInt8.toNat_ofNat_of_lt' (Nat.lt_trans hc (by decide))
      have hnext8 : (UInt8.ofNat ((c + 1) % axicanMax)).toNat = (c + 1) % axicanMax :=
        UInt8.toNat_ofNat_of_lt' (Nat.lt_trans (Nat.mod_lt _ (by decide)) (by decide))
      refine ⟨channelBit_and hc, h.enable, h.mode, h.activeMask, h.groupAMask, h.groupBMask, ?_,
        fun h => absurd h hab⟩
      intro _
      show (UInt8.ofNat (((UInt8.ofNat c).toNat + 1) % axicanMax)).toNat = _
      rw [hc8, hnext8]
      exact hnext

theorem OnSchedule.abAlternate (h : OnSchedule param k cfg)
    (hgroupA : validateBroadcastMask param.groupAMask = true)
    (hgroupB : validateBroadcastMask param.groupBMask = true)
    (hmode : param.bMode = bcastModeAbAlternate) :
    (selectBroadcastMaskOnPps cfg).1 = scheduledMask param k ∧
      OnSchedule param (k + 1) (selectBroadcastMaskOnPps cfg).2 := by
  have hsimultaneous : param.bMode ≠ bcastModeSimultaneous := by
    rw [hmode]
    decide
  have hpolling : param.bMode ≠ bcastModePolling := by
    rw [hmode]
    decide
  have hgroup := h.currentGroup hmode
  rw [selectBroadcastMaskOnPps, if_neg (not_not.mpr h.enable), if_neg (h.mode ▸ hsimultaneous),
    if_neg (h.mode ▸ hpolling), if_pos (h.mode.trans hmode), scheduledMask, if_neg hsimultaneous,
    if_neg hpolling]
  split
  next hzero =>
    have heven := hgroup.mp hzero
    have hodd : (1 : UInt8) = 0 ↔ (k + 1 + param.startGroup.toNat) % 2 = 0 :=
      ⟨fun h => absurd h (by decide), fun h => by omega⟩
    rw [if_pos heven]
    refine ⟨?_, h.enable, h.mode, h.activeMask, h.groupAMask, h.groupBMask,
      fun h => absurd h hpolling, fun _ => hodd⟩
    show cfg.groupAMask &&& bcastCanMask = _
    rw [h.groupAMask]
    exact and_bcastCanMask hgroupA
  next hone =>
    have hodd : ¬ (k + param.startGroup.toNat) % 2 = 0 := fun h => hone (hgroup.mpr h)
    have heven : (0 : UInt8) = 0 ↔ (k + 1 + param.startGroup.toNat) % 2 = 0 :=
      ⟨fun _ => by omega, fun _ => rfl⟩
    rw [if_neg hodd]
    refine ⟨?_, h.enable, h.mode, h.activeMask, h.groupAMask, h.groupBMask,
      fun h => absurd h hpolling, fun _ => heven⟩
    show cfg.groupBMask &&& bcastCanMask = _
    rw [h.groupBMask]
    exact and_bcastCanMask hgroupB

end OnePps

-- A PPS on schedule gives the scheduled mask and stays on schedule.
theorem selectBroadcastMaskOnPps_onSchedule {payload : List UInt8} {k : Nat}
    {cfg : BroadcastSchedulerConfig} (haccept : broadcastConfigError payload = none)
    (h : OnSchedule (BroadcastConfigParam.ofBytes payload) k cfg)
    (henable : (BroadcastConfigParam.ofBytes payload).enable = bcastEnable) :
    (selectBroadcastMaskOnPps cfg).1 = scheduledMask (BroadcastConfigParam.ofBytes payload) k ∧
      OnSchedule (BroadcastConfigParam.ofBytes payload) (k + 1)
        (selectBroadcastMaskOnPps cfg).2 := by
  obtain ⟨hmode, hactive, hgroupA, hgroupB, _, _⟩ := broadcastConfigError_none haccept
  obtain hsimultaneous | hpolling | hab := hmode henable
  · exact h.simultaneous hactive hsimultaneous
  · exact h.polling hactive hpolling
  · exact h.abAlternate hgroupA hgroupB hab

-- Any calls but an accepted configuration: as many PPS events further in the schedule.
theorem run_onSchedule {payload : List UInt8} {sys : BroadcastSystem}
    (haccept : broadcastConfigError payload = none)
    (henable : (BroadcastConfigParam.ofBytes payload).enable = bcastEnable)
    (hsys : OnSchedule (BroadcastConfigParam.ofBytes payload) 0 sys.st.cfg)
    (calls : List BroadcastCall) (hcalls : ∀ call ∈ calls, call.configures = false) :
    OnSchedule (BroadcastConfigParam.ofBytes payload) (calls.countP BroadcastCall.isPps)
      (Transducer.run broadcastStep calls sys).2.st.cfg := by
  apply Transducer.run_history
    (fun past (s : BroadcastSystem) => (∀ call ∈ past, call.configures = false) →
      OnSchedule (BroadcastConfigParam.ofBytes payload) (past.countP BroadcastCall.isPps) s.st.cfg)
    (fun _ => hsys) _ calls hcalls
  intro past s call ih hpast
  have hcall := hpast call (List.mem_append_right _ List.mem_cons_self)
  have hcfg := ih fun c hc => hpast c (List.mem_append_left _ hc)
  rw [broadcastStep_cfg, List.countP_append, List.countP_singleton]
  cases call with
  | pps now => exact (selectBroadcastMaskOnPps_onSchedule haccept hcfg henable).2
  | config payload' =>
      have herror : broadcastConfigError payload' ≠ none := by
        intro hnone
        rw [BroadcastCall.configures, hnone] at hcall
        exact (nomatch hcall)
      show OnSchedule _ _ (if _ then _ else _)
      rw [if_neg herror]
      exact hcfg
  | enqueue ch frames now => exact hcfg
  | take ch => exact hcfg
  | available ch => exact hcfg
  | channels configs => exact hcfg

/-- The wakes a mask adds to a channel. -/
def wakesAdded (mask : UInt32) (ch : UInt8) : UInt32 :=
  if ch.toNat < axicanMax ∧ selectsChannel mask ch then 1 else 0

theorem notifyBroadcastChannels_wakes (mask : UInt32) (st : BroadcastState) (ch : UInt8) :
    (notifyBroadcastChannels mask st).pending ch = st.pending ch + wakesAdded mask ch := by
  simp only [notifyBroadcastChannels, wakesAdded, selectsChannel, bne_iff_ne]
  split
  · rfl
  · exact (UInt32.add_zero _).symm

-- Every channel of the mask gets one more wake, the others none.
theorem processBroadcastPps_wakes (now : UInt64) (st : BroadcastState) (ch : UInt8) :
    (processBroadcastPps now st).2.pending ch =
      st.pending ch + wakesAdded (processBroadcastPps now st).1 ch := by
  simp only [processBroadcastPps]
  split
  · exact notifyBroadcastChannels_wakes _ _ ch
  next hzero =>
    have hnone : wakesAdded 0 ch = 0 := by
      rw [wakesAdded, if_neg]
      intro hsel
      have hon := hsel.2
      rw [selectsChannel, UInt32.zero_and] at hon
      exact absurd hon (by decide)
    rw [not_not.mp hzero, hnone, UInt32.add_zero]
    rfl

/-- **The PPS schedule follows the configuration for ever.**  After an accepted request with
    `enable = 1`, whatever enqueues, takes, queries, refused requests and PPS events follow, the
    next PPS wakes exactly the channels scheduled for the number of PPS events that came between. -/
theorem pps_schedule (sys : BroadcastSystem) (payload : List UInt8)
    (haccept : (BroadcastCall.config payload).configures = true)
    (henable : (BroadcastConfigParam.ofBytes payload).enable = bcastEnable)
    (calls : List BroadcastCall) (hcalls : ∀ call ∈ calls, call.configures = false)
    (now : UInt64) :
    let sys' := (Transducer.run broadcastStep (.config payload :: calls) sys).2
    let wakeMask := scheduledMask (BroadcastConfigParam.ofBytes payload)
      (calls.countP BroadcastCall.isPps)
    (broadcastStep sys' (.pps now)).1 = .pps wakeMask ∧
      ∀ ch, (broadcastStep sys' (.pps now)).2.st.pending ch =
        sys'.st.pending ch + wakesAdded wakeMask ch := by
  intro sys' wakeMask
  have herror : broadcastConfigError payload = none := Option.isNone_iff_eq_none.mp haccept
  have hstart : OnSchedule (BroadcastConfigParam.ofBytes payload) 0
      (broadcastStep sys (.config payload)).2.st.cfg := by
    rw [broadcastStep_cfg]
    show OnSchedule _ _ (if _ then _ else _)
    rw [if_pos herror]
    exact installed_onSchedule herror henable
  have hrun := run_onSchedule herror henable hstart calls hcalls
  have hmask : (processBroadcastPps now sys'.st).1 = wakeMask :=
    (selectBroadcastMaskOnPps_onSchedule herror hrun henable).1
  constructor
  · rw [← hmask]
    rfl
  · intro ch
    rw [← hmask]
    exact processBroadcastPps_wakes now sys'.st ch

/-- A request that polls channels 0, 2 and 4, from channel 1 on. -/
def pollingRequest : List UInt8 :=
  let body : List UInt8 :=
    store32 pcStatusHead ++ [0, 0, 40, 0] ++ store32 1 ++ [1, 2, 0, 1] ++ store32 0x15 ++
      List.replicate 16 0
  body ++ store32 (calculateXorChecksum body 36)

-- Channels 2 and 4 have been woken, so the third PPS wakes channel 0.
theorem pps_schedule_wraps :
    (broadcastStep (Transducer.run broadcastStep
      [.config pollingRequest, .pps 0, .enqueue 0 [default] 1, .config [], .pps 1000]
      ⟨.initial .zero, initialConfig⟩).2 (.pps 2000)).1 = .pps (channelBit 0) := by
  have hmask : scheduledMask (BroadcastConfigParam.ofBytes pollingRequest) 2 = channelBit 0 := by
    decide +kernel
  have hcalls : ∀ call ∈ [BroadcastCall.pps 0, .enqueue 0 [default] 1, .config [], .pps 1000],
      call.configures = false := by
    intro call hcall
    simp only [List.mem_cons, List.not_mem_nil, or_false] at hcall
    obtain rfl | rfl | rfl | rfl := hcall
    · rfl
    · rfl
    · decide +kernel
    · rfl
  rw [← hmask]
  exact (pps_schedule ⟨.initial .zero, initialConfig⟩ pollingRequest (by decide +kernel)
    (by decide +kernel) _ hcalls 2000).1

end CanGateway
