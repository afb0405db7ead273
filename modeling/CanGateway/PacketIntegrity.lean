import CanGateway.NormalData

/-!
# What a corrupted word does to a packet of frames

A payload of whole 48-byte frames is taken as one element of one ring or not at all, and none of its
words can be altered.  The older route computes the checksum over a range the packet chooses, so it
protects less.
-/

open ByteMemory

namespace CanGateway

/-! ## The rings -/

/-- The value `process_9012_can_payload_frames` returns. -/
def PacketOutcome.ret : PacketOutcome → Int
  | refused code _ => code
  | _ => 0

/-- The sets of rings that packets fill. -/
inductive RingKind where
  | normal
  | simulator
  | pulse
  | groups
  deriving DecidableEq, Repr

namespace GatewayState

variable (state : GatewayState)

def ringSet : RingKind → RingBuffer32ChSet
  | .normal => state.gDataBufSet
  | .simulator => state.gSimulatorBufSet
  | .pulse => state.gPulseBufSet
  | .groups => state.bcast.st.groups

/-- The elements in a ring, oldest first. -/
def ringAt (kind : RingKind) (c : Nat) : List (List UInt8) := (state.ringSet kind).bank.queue c

end GatewayState

/-- One ring has one more element, and no other ring has changed. -/
def AppendsOne (state state' : GatewayState) (kind : RingKind) (c : Nat) (element : List UInt8) :
    Prop :=
  ∀ kind' c', state'.ringAt kind' c' =
    if kind' = kind ∧ c' = c then state.ringAt kind' c' ++ [element] else state.ringAt kind' c'

def SameRings (state state' : GatewayState) : Prop :=
  ∀ kind c, state'.ringAt kind c = state.ringAt kind c

/-- The frames of a payload of whole frames. -/
def payloadFrames (payload : List UInt8) : List (List UInt8) :=
  (List.range (payload.length / sizeofPcArmDataData)).map (slot payload sizeofPcArmDataData)

/-- The one element an accepted payload adds: its only frame on the frame's channel, or the group of
    its frames on the channel of the packet. -/
def AddsPayload (payload : List UInt8) (packetChannel : UInt32) (state state' : GatewayState) :
    Prop :=
  ((PcArmDataData.ofBytes payload).type = 0x01 ∧ payload.length = sizeofPcArmDataData ∧
    AppendsOne state state' .normal (PcArmDataData.ofBytes payload).chId.toNat payload) ∨
  ((∀ frame ∈ payloadFrames payload, (PcArmDataData.ofBytes frame).type = 0x02) ∧
    ∃ group : BroadcastFrameGroup,
      group.frameCount.toNat = (payloadFrames payload).length ∧
      group.frames.take group.frameCount.toNat =
        (payloadFrames payload).map (pcCanPayloadToAxicanFrame ∘ PcArmDataData.ofBytes) ∧
      AppendsOne state state' .groups packetChannel.toNat group.toBytes)

section Enqueue

variable {state : GatewayState}

-- A change of one set shows in its own rings only.
theorem appendsOne_normal {set : RingBuffer32ChSet} {c : Nat} {element : List UInt8}
    (h : ∀ c', set.bank.queue c' = if c' = c then state.gDataBufSet.bank.queue c' ++ [element]
      else state.gDataBufSet.bank.queue c') :
    AppendsOne state { state with gDataBufSet := set } .normal c element := by
  intro kind c'
  cases kind with
  | normal =>
      simp only [true_and]
      exact h c'
  | simulator => rfl
  | pulse => rfl
  | groups => rfl

theorem appendsOne_groups {st : BroadcastState} {c : Nat} {element : List UInt8}
    (h : ∀ c', st.groups.bank.queue c' =
      if c' = c then state.bcast.st.groups.bank.queue c' ++ [element]
      else state.bcast.st.groups.bank.queue c') :
    AppendsOne state { state with bcast := { state.bcast with st := st } } .groups c element := by
  intro kind c'
  cases kind with
  | normal => rfl
  | simulator => rfl
  | pulse => rfl
  | groups =>
      simp only [true_and]
      exact h c'

theorem enqueueNormalCanPayload_spec (hset : DataBufSet state.gDataBufSet) {frame : List UInt8}
    (hlen : frame.length = sizeofPcArmDataData) :
    let r := enqueueNormalCanPayload frame state
    ((r.1.ret = 0 ∧
        AppendsOne state r.2 .normal (PcArmDataData.ofBytes frame).chId.toNat frame) ∨
      (r.1.ret ≠ 0 ∧ SameRings state r.2)) ∧ r.2.bcast = state.bcast := by
  have heinval : einval ≠ 0 := by decide
  have henomem : enomem ≠ 0 := by decide
  intro r
  have hr : r = enqueueNormalCanPayload frame state := rfl
  simp only [enqueueNormalCanPayload] at hr
  split at hr
  · rw [hr]
    exact ⟨Or.inr ⟨heinval, fun _ _ => rfl⟩, rfl⟩
  split at hr
  · rw [hr]
    exact ⟨Or.inr ⟨henomem, fun _ _ => rfl⟩, rfl⟩
  obtain ⟨hret, hbank, _⟩ := ringbuffer32chPut_spec hset.wf (PcArmDataData.ofBytes frame).chId 32
    frame (hlen.trans hset.size.symm)
  have hqueue := fun c => QueueBank.queue_put state.gDataBufSet.bank (32 : UInt8).toNat
    (PcArmDataData.ofBytes frame).chId.toNat c frame
  rw [← hbank] at hqueue
  rw [hr]
  generalize
    ringbuffer32chPut state.gDataBufSet (PcArmDataData.ofBytes frame).chId (some frame) 32 = put
    at hret hqueue
  refine ⟨?_, rfl⟩
  cases hok : (state.gDataBufSet.bank.put (32 : UInt8).toNat
    (PcArmDataData.ofBytes frame).chId.toNat frame).1 with
  | true =>
      rw [hok] at hret hqueue
      rw [if_pos (show put.1 = 1 from hret)]
      refine Or.inl ⟨rfl, appendsOne_normal ?_⟩
      intro c
      rw [hqueue]
      simp only [true_and]
  | false =>
      rw [hok] at hret hqueue
      rw [if_neg (show ¬ put.1 = 1 by rw [hret]; decide)]
      refine Or.inr ⟨henomem, ?_⟩
      intro kind c
      cases kind with
      | normal =>
          show put.2.bank.queue c = state.gDataBufSet.bank.queue c
          rw [hqueue, if_neg (fun h => Bool.false_ne_true h.1)]
      | simulator => rfl
      | pulse => rfl
      | groups => rfl

-- The frames of a group that was not cut off.
theorem broadcastGroupOf_frames (groupId : UInt32) {frames : List PcArmDataData}
    (h : frames.length ≤ bcastMaxFramesPerGroup) :
    (broadcastGroupOf groupId frames).frameCount.toNat = frames.length ∧
      (broadcastGroupOf groupId frames).frames.take frames.length =
        frames.map pcCanPayloadToAxicanFrame := by
  constructor
  · show (UInt16.ofNat frames.length).toNat = _
    unfold bcastMaxFramesPerGroup at h
    exact UInt16.toNat_ofNat_of_lt' (by show _ < 65536; omega)
  · show ((frames.map pcCanPayloadToAxicanFrame ++ _).take bcastMaxFramesPerGroup).take _ = _
    rw [List.take_take, Nat.min_eq_left h, ← List.length_map pcCanPayloadToAxicanFrame,
      List.take_left]

-- The bytes in the rings are those of the groups in the queues.
theorem HoldsGroups.ring_eq {st : BroadcastState} {bank : QueueBank BroadcastFrameGroup}
    (h : HoldsGroups st bank) (c : Nat) :
    st.groups.bank.queue c = (bank.queue c).map BroadcastFrameGroup.toBytes := by
  rw [h.carries.bank_eq]
  rfl

theorem enqueueBroadcastPayload_spec {bank : QueueBank BroadcastFrameGroup}
    (hholds : HoldsGroups state.bcast.st bank) (targetCh : UInt8) (frames : List (List UInt8))
    (hcount : frames.length ≤ bcastMaxFramesPerGroup) (now : UInt64) :
    let r := enqueueBroadcastPayload targetCh frames now state
    ((r.1.ret = 0 ∧ ∃ group : BroadcastFrameGroup, group.frameCount.toNat = frames.length ∧
        group.frames.take group.frameCount.toNat =
          frames.map (pcCanPayloadToAxicanFrame ∘ PcArmDataData.ofBytes) ∧
        AppendsOne state r.2 .groups targetCh.toNat group.toBytes) ∨
      (r.1.ret ≠ 0 ∧ SameRings state r.2)) ∧
      r.2.bcast.st.pending = state.bcast.st.pending := by
  intro r
  have hr : r = enqueueBroadcastPayload targetCh frames now state := rfl
  simp only [enqueueBroadcastPayload] at hr
  obtain ⟨bank', hholds', hpending, hqueue⟩ := enqueueBroadcastGroup_spec hholds
    state.bcast.configs targetCh (frames.map PcArmDataData.ofBytes) now
  have hbytes := hholds.ring_eq
  have hbytes' := hholds'.ring_eq
  generalize enqueueBroadcastGroup state.bcast.configs targetCh
    (frames.map PcArmDataData.ofBytes) now state.bcast.st = e at hr hpending hqueue hbytes'
  rw [hr]
  refine ⟨?_, hpending⟩
  by_cases hret : e.1 = 0
  · have hfit : (frames.map PcArmDataData.ofBytes).length ≤ bcastMaxFramesPerGroup := by
      rw [List.length_map]
      exact hcount
    obtain ⟨hframeCount, hframes⟩ := broadcastGroupOf_frames e.2.2.groupId hfit
    rw [List.length_map] at hframeCount hframes
    rw [List.map_map] at hframes
    rw [if_pos hret]
    refine Or.inl ⟨rfl, broadcastGroupOf e.2.2.groupId (frames.map PcArmDataData.ofBytes),
      hframeCount, by rw [hframeCount]; exact hframes, appendsOne_groups ?_⟩
    intro c
    rw [hbytes', hqueue, hbytes]
    simp only [hret, true_and]
    split
    · rw [List.map_append, List.map_singleton]
    · rfl
  · rw [if_neg hret]
    refine Or.inr ⟨hret, ?_⟩
    intro kind c
    cases kind with
    | normal => rfl
    | simulator => rfl
    | pulse => rfl
    | groups =>
        show e.2.2.groups.bank.queue c = state.bcast.st.groups.bank.queue c
        rw [hbytes', hqueue, if_neg (fun h => hret h.1), hbytes]

end Enqueue

/-! ## A payload of frames -/

section Payload

variable {state : GatewayState}

-- What the function can do with a payload: take it as one element, or nothing.
theorem process9012CanPayloadFrames_spec (hset : DataBufSet state.gDataBufSet)
    {bank : QueueBank BroadcastFrameGroup} (hholds : HoldsGroups state.bcast.st bank)
    (payload : List UInt8) (packetChannel : UInt32) (now : UInt64) :
    let r := process9012CanPayloadFrames payload packetChannel now state
    ((r.1.ret = 0 ∧ AddsPayload payload packetChannel state r.2) ∨
      (r.1.ret ≠ 0 ∧ SameRings state r.2)) ∧
      r.2.bcast.st.pending = state.bcast.st.pending := by
  intro r
  have hr : r = process9012CanPayloadFrames payload packetChannel now state := rfl
  obtain hcase | ⟨⟨_, hle, _⟩, ⟨_, hpayload, htype, hcase⟩ | ⟨htypes, hchannel, hcase⟩⟩ :=
    process9012CanPayloadFrames_cases payload packetChannel now state
      (show _ = payloadFrames payload from rfl)
  · rw [hr, hcase]
    exact ⟨Or.inr ⟨show einval ≠ 0 by decide, fun _ _ => rfl⟩, rfl⟩
  · obtain ⟨hadds, hbcast⟩ := enqueueNormalCanPayload_spec hset hpayload
    rw [hr, hcase, hbcast]
    exact ⟨hadds.imp_left fun h => ⟨h.1, Or.inl ⟨htype, hpayload, h.2⟩⟩, rfl⟩
  · obtain ⟨hadds, hpending⟩ := enqueueBroadcastPayload_spec hholds packetChannel.toUInt8
      (payloadFrames payload) hle now
    have hch : packetChannel.toUInt8.toNat = packetChannel.toNat := by
      unfold axicanMax at hchannel
      rw [UInt32.toNat_toUInt8]
      omega
    rw [hch] at hadds
    rw [hr, hcase]
    exact ⟨hadds.imp_left fun h => ⟨h.1, Or.inr ⟨htypes, h.2⟩⟩, hpending⟩

-- Whatever is accepted passed `validate_48byte_can_payload` frame by frame.
theorem process9012CanPayloadFrames_valid {payload : List UInt8} {packetChannel : UInt32}
    {now : UInt64}
    (h : (process9012CanPayloadFrames payload packetChannel now state).1.ret = 0) :
    payload.length % sizeofPcArmDataData = 0 ∧
      ∀ frame ∈ payloadFrames payload, validate48byteCanPayload frame = true := by
  have heinval : (PacketOutcome.refused einval none).ret ≠ 0 := by decide
  obtain hcase | ⟨⟨hwhole, _, hall⟩, _⟩ :=
    process9012CanPayloadFrames_cases payload packetChannel now state rfl
  · rw [hcase] at h
    exact absurd h heinval
  · exact ⟨hwhole, hall⟩

-- One invalid frame refuses the payload before anything is queued.
theorem process9012CanPayloadFrames_invalid {payload frame : List UInt8}
    (hmem : frame ∈ payloadFrames payload) (hinvalid : ¬ validate48byteCanPayload frame = true)
    (packetChannel : UInt32) (now : UInt64) (state : GatewayState) :
    process9012CanPayloadFrames payload packetChannel now state =
      (.refused einval none, state) := by
  obtain hcase | ⟨⟨_, _, hall⟩, _⟩ :=
    process9012CanPayloadFrames_cases payload packetChannel now state rfl
  · exact hcase
  · exact absurd (hall frame hmem) hinvalid

-- One replaced word in one of the frames.
theorem process9012CanPayloadFrames_setWord {payload : List UInt8} {packetChannel : UInt32}
    {now : UInt64}
    (h : (process9012CanPayloadFrames payload packetChannel now state).1.ret = 0) {i : Nat}
    (hi : i * 4 + 4 ≤ payload.length) {w : UInt32} (hw : w ≠ word payload i)
    (packetChannel' : UInt32) (now' : UInt64) (state' : GatewayState) :
    process9012CanPayloadFrames (setWord payload i w) packetChannel' now' state' =
      (.refused einval none, state') := by
  obtain ⟨hwhole, hvalid⟩ := process9012CanPayloadFrames_valid h
  unfold sizeofPcArmDataData at hwhole
  have hk : i / 12 < payload.length / 48 := by omega
  have hframe : slot payload 48 (i / 12) ∈ payloadFrames payload :=
    List.mem_map_of_mem (List.mem_range.mpr hk)
  have hframe' : slot (setWord payload i w) 48 (i / 12) ∈ payloadFrames (setWord payload i w) := by
    apply List.mem_map_of_mem (List.mem_range.mpr _)
    rw [length_setWord payload i w hi]
    exact hk
  have hlen : (slot payload 48 (i / 12)).length = 48 :=
    length_slot payload 48 (i / 12) (payload.length / 48) hk (by omega)
  have hword : word (slot payload 48 (i / 12)) (i % 12) = word payload i := by
    rw [word_slot payload (i / 12) (Nat.mod_lt i (by decide)), Nat.div_add_mod]
  apply process9012CanPayloadFrames_invalid hframe'
  rw [slot_setWord_same payload w (by omega), validate48byteCanPayload_iff]
  rintro ⟨_, _, hrule⟩
  refine checksumRule_setWord (slot payload 48 (i / 12)) (by omega) ?_ (Nat.mod_lt i (by decide))
    (by rw [hword]; exact hw) hrule
  exact ((validate48byteCanPayload_iff _).mp (hvalid _ hframe)).2.2

end Payload

/-! ## The queues in any run -/

theorem enqueueNormalCanPayload_bcast (frame : List UInt8) (state : GatewayState) :
    (enqueueNormalCanPayload frame state).2.bcast = state.bcast := by
  unfold enqueueNormalCanPayload
  dsimp only
  split
  · rfl
  split
  · rfl
  · rfl

theorem enqueueBroadcastPayload_bcast (targetCh : UInt8) (frames : List (List UInt8))
    (now : UInt64) (state : GatewayState) :
    ∃ call, (enqueueBroadcastPayload targetCh frames now state).2.bcast =
      (broadcastStep state.bcast call).2 :=
  ⟨.enqueue targetCh (frames.map PcArmDataData.ofBytes) now, rfl⟩

-- A packet acts on the scheduler through one `enqueue`, if at all.
theorem process9012CanPayloadFrames_bcast (payload : List UInt8) (packetChannel : UInt32)
    (now : UInt64) (state : GatewayState) :
    let r := process9012CanPayloadFrames payload packetChannel now state
    r.2.bcast = state.bcast ∨ ∃ call, r.2.bcast = (broadcastStep state.bcast call).2 := by
  intro r
  obtain hcase | ⟨_, ⟨_, _, _, hcase⟩ | ⟨_, _, hcase⟩⟩ :=
    process9012CanPayloadFrames_cases payload packetChannel now state rfl
  · exact Or.inl (congrArg (fun r => r.2.bcast) hcase)
  · left
    rw [show r = enqueueNormalCanPayload payload state from hcase]
    exact enqueueNormalCanPayload_bcast payload state
  · right
    rw [show r = enqueueBroadcastPayload _ _ now state from hcase]
    exact enqueueBroadcastPayload_bcast _ _ now state

theorem dispatchPacket_bcast (now : UInt64) (state : GatewayState) (packet : DataPacket) :
    (dispatchPacket now state packet).2.bcast = state.bcast ∨
      ∃ call, (dispatchPacket now state packet).2.bcast = (broadcastStep state.bcast call).2 := by
  unfold dispatchPacket
  split
  · exact process9012CanPayloadFrames_bcast _ _ _ _
  · split
    · exact Or.inl rfl
    next dataType canId _ => cases dataType <;> exact Or.inl rfl

/-- The broadcast queues have a past they agree with. -/
def NormalSystem.GroupsTracked (sys : NormalSystem) : Prop :=
  ∃ past, sys.gateway.bcast.Tracks past

theorem normalStep_groups (sys : NormalSystem) (call : NormalCall) (h : sys.GroupsTracked) :
    (normalStep sys call).2.GroupsTracked := by
  obtain ⟨past, htracks⟩ := h
  cases call with
  | receive conn chunk =>
      simp only [normalStep]
      split <;> exact ⟨past, htracks⟩
  | iterate now =>
      simp only [normalStep]
      split
      · exact ⟨past, htracks⟩
      next conn offset _ =>
        obtain hiter | ⟨offset', hiter⟩ | ⟨offset', packet, hiter⟩ :=
          batchIteration_cases (dispatchLogged now) (sys.streams conn) ⟨offset, none, sys.gateway⟩
        · rw [hiter]
          exact ⟨past, htracks⟩
        · rw [hiter]
          exact ⟨past, htracks⟩
        · rw [hiter]
          obtain hsame | ⟨bcall, hcall⟩ := dispatchPacket_bcast now sys.gateway packet
          · refine ⟨past, ?_⟩
            show BroadcastSystem.Tracks past (dispatchPacket now sys.gateway packet).2.bcast
            rw [hsame]
            exact htracks
          · refine ⟨past ++ [(broadcastStep sys.gateway.bcast bcall).1], ?_⟩
            show BroadcastSystem.Tracks _ (dispatchPacket now sys.gateway packet).2.bcast
            rw [hcall]
            exact broadcastStep_tracks past sys.gateway.bcast bcall htracks
  | readState c =>
      simp only [normalStep]
      split <;> exact ⟨past, htracks⟩
  | readLen c =>
      simp only [normalStep]
      split <;> exact ⟨past, htracks⟩
  | dequeue c =>
      simp only [normalStep]
      split
      · split <;> exact ⟨past, htracks⟩
      · exact ⟨past, htracks⟩
  | handle c now clock =>
      simp only [normalStep]
      split <;> exact ⟨past, htracks⟩
  | other bcall => exact ⟨_, broadcastStep_tracks past sys.gateway.bcast bcall htracks⟩

/-- The gateway as `main` starts it: both sets of rings initialised, and no group waiting. -/
structure GatewayState.Started (gateway : GatewayState) : Prop where
  dataBufSet : ∃ set heap heap',
    ringbuffer32chInit set 48 131072 32 heap = (0, gateway.gDataBufSet, heap')
  groups : ∃ set heap groups heap',
    ringbuffer32chInit set sizeofBroadcastFrameGroup bcastGroupQueueDepth 6 heap =
      (0, groups, heap') ∧ gateway.bcast.st = .initial groups

/-- The gateway after any sequence of steps. -/
def gatewayAfter (gateway : GatewayState) (calls : List NormalCall) : GatewayState :=
  (Transducer.run normalStep calls (.initial gateway)).2.gateway

theorem GatewayState.Started.queues {gateway : GatewayState} (h : gateway.Started)
    (calls : List NormalCall) :
    DataBufSet (gatewayAfter gateway calls).gDataBufSet ∧
      ∃ bank, HoldsGroups (gatewayAfter gateway calls).bcast.st bank := by
  obtain ⟨set, heap, heap', hinit⟩ := h.dataBufSet
  obtain ⟨set', heap₁, groups, heap₂, hgroups, hst⟩ := h.groups
  constructor
  · exact (Transducer.run_answers NormalSystem.Inv (normalInitial_inv hinit) normalStep_inv
      calls).dataBufSet
  · have hstart : (NormalSystem.initial gateway).GroupsTracked := by
      refine ⟨[], ?_⟩
      have htracks := broadcastInitial_tracks gateway.bcast.configs hgroups
      rw [← hst] at htracks
      exact htracks
    obtain ⟨past, bank, hholds, _⟩ := Transducer.run_invariant
      (fun s call hs => normalStep_groups s call hs) calls (NormalSystem.initial gateway) hstart
    exact ⟨bank, hholds⟩

/-- **All or nothing, and no word can be altered.**  In any run, a payload is either accepted, and
    adds one element to one ring, or refused, and every ring and wake is left alone; and an accepted
    payload with any one of its words replaced is refused in every state, with nothing queued. -/
theorem frames_all_or_nothing (gateway : GatewayState) (hstart : gateway.Started)
    (calls : List NormalCall) (payload : List UInt8) (packetChannel : UInt32) (now : UInt64) :
    let state := gatewayAfter gateway calls
    let r := process9012CanPayloadFrames payload packetChannel now state
    ((r.1.ret = 0 ∧ AddsPayload payload packetChannel state r.2) ∨
      (r.1.ret ≠ 0 ∧ SameRings state r.2)) ∧
      r.2.bcast.st.pending = state.bcast.st.pending ∧
      (r.1.ret = 0 → ∀ i w, i * 4 + 4 ≤ payload.length → w ≠ word payload i →
        ∀ packetChannel' now' state',
          process9012CanPayloadFrames (setWord payload i w) packetChannel' now' state' =
            (.refused einval none, state')) := by
  intro state r
  obtain ⟨hset, bank, hholds⟩ := hstart.queues calls
  obtain ⟨hcase, hpending⟩ :=
    process9012CanPayloadFrames_spec hset hholds payload packetChannel now
  refine ⟨hcase, hpending, ?_⟩
  intro hret i w hi hw packetChannel' now' state'
  exact process9012CanPayloadFrames_setWord hret hi hw packetChannel' now' state'

/-- The gateway after initialisations that all succeed, with every channel configured. -/
def startedGateway : GatewayState where
  bcast :=
    { st := .initial (ringbuffer32chInit .zero sizeofBroadcastFrameGroup bcastGroupQueueDepth 6
        ampleHeap).2.1
      configs := fun ch => { initialConfig ch with state := .opened } }
  gDataBufSet := (ringbuffer32chInit .zero 48 131072 32 ampleHeap).2.1
  gSimulatorBufSet := .zero
  gPulseBufSet := .zero

theorem startedGateway_started : startedGateway.Started :=
  ⟨⟨.zero, ampleHeap, _, rfl⟩, ⟨.zero, ampleHeap, _, _, rfl, rfl⟩⟩

theorem frames_all_or_nothing_one_frame :
    let payload := singleFramePacket.drop 20
    (process9012CanPayloadFrames payload 0 0 startedGateway).1.ret = 0 ∧
      process9012CanPayloadFrames (setWord payload 5 1) 0 0 startedGateway =
        (.refused einval none, startedGateway) := by
  intro payload
  have hret : (process9012CanPayloadFrames payload 0 0 (gatewayAfter startedGateway [])).1.ret =
      0 := by decide +kernel
  exact ⟨hret, (frames_all_or_nothing startedGateway startedGateway_started [] payload 0 0).2.2 hret
    5 1 (by decide) (by decide) 0 0 startedGateway⟩

/-! ## The older route -/

/-- The packet puts a frame into `g_data_buf_set`. -/
def EnqueuesFrame (now : UInt64) (state : GatewayState) (packet : DataPacket) : Prop :=
  ∃ canId frame, (dispatchPacket now state packet).1 = .normal canId frame

/-- The length byte of the first 48 bytes. -/
def innerLength (payload : List UInt8) : Nat := (load8 payload 6).toNat

/-- The checks of the older route on a normal frame, in words. -/
structure LegacyValid (payload : List UInt8) : Prop where
  long : 48 ≤ payload.length
  length_ge : 48 ≤ innerLength payload
  length_le : innerLength payload ≤ payload.length
  aligned : innerLength payload % 4 = 0
  head : word payload 0 = pcStatusHead
  checksum : word payload 11 = xorSum payload (innerLength payload / 4 - 1)

theorem LegacyValid.checksumRule {payload : List UInt8} (h : LegacyValid payload)
    (h48 : innerLength payload = 48) : ChecksumRule payload := by
  have hsum := h.checksum
  rw [h48] at hsum
  rw [ChecksumRule, show (44 : Nat) = 11 * 4 from rfl,
    calculateXorChecksum_eq payload 11 (by have := h.long; omega)]
  exact hsum

/-- The channel is one of the gateway's and configured. -/
def ChannelValid (state : GatewayState) (c : UInt8) : Prop :=
  c.toNat < axicanMax ∧ (state.bcast.configs c).valid ≠ 0

/-- The channel can take one more normal frame. -/
def TakesFrame (state : GatewayState) (c : UInt8) : Prop :=
  ChannelValid state c ∧ ringbuffer32chAvail state.gDataBufSet c 32 ≠ 0

section Legacy

variable {now : UInt64} {state : GatewayState} {packet : DataPacket}

-- A checked `put` succeeds exactly when it finds room.
theorem enqueueChecked_iff {set : RingBuffer32ChSet} (hset : DataBufSet set) (c : UInt8)
    {data : List UInt8} (hlen : data.length = sizeofPcArmDataData) :
    (enqueueChecked set c data).1 = true ↔ ringbuffer32chAvail set c 32 ≠ 0 := by
  unfold enqueueChecked
  by_cases hroom : ringbuffer32chAvail set c 32 = 0
  · rw [if_pos hroom]
    exact iff_of_false Bool.false_ne_true (not_not.mpr hroom)
  rw [if_neg hroom]
  refine iff_of_true ?_ hroom
  have havail : set.bank.avail (32 : UInt8).toNat c.toNat ≠ 0 := by
    rw [← ringbuffer32chAvail_spec hset.wf]
    exact fun h => hroom (UInt32.toNat_inj.mp h)
  have hput : (set.bank.put (32 : UInt8).toNat c.toNat data).1 = true := by
    unfold QueueBank.avail at havail
    unfold QueueBank.put
    split at havail
    next hv => rw [if_pos ⟨hv, by omega⟩]
    next => exact absurd rfl havail
  obtain ⟨hret, _⟩ := ringbuffer32chPut_spec hset.wf c 32 data (hlen.trans hset.size.symm)
  show decide (0 < (ringbuffer32chPut set c (some data) 32).1) = true
  rw [hret, hput]
  rfl

-- The range the length byte announces, in words.
theorem checksum_innerLength {payload : List UInt8} (hge : 48 ≤ innerLength payload)
    (hle : innerLength payload ≤ payload.length) (haligned : innerLength payload % 4 = 0) :
    calculateXorChecksum payload (innerLength payload - 4) =
      xorSum payload (innerLength payload / 4 - 1) := by
  have hlen : innerLength payload - 4 = (innerLength payload / 4 - 1) * 4 := by omega
  rw [hlen, calculateXorChecksum_eq payload _ (by omega)]

-- The checks of the `0x0001` case, one after the other.
theorem downloadTarget_normal (hcommand : packet.command = 0x0001) :
    (downloadTarget state packet = some (.can, load8 packet.payload 7) ∧
      LegacyValid packet.payload ∧ ChannelValid state (load8 packet.payload 7)) ∨
    (downloadTarget state packet = none ∧
      ¬ (LegacyValid packet.payload ∧ ChannelValid state (load8 packet.payload 7))) := by
  unfold downloadTarget
  dsimp only
  rw [if_pos hcommand]
  by_cases hlong : packet.payload.length < sizeofPcArmDataData
  · rw [if_pos hlong]
    exact Or.inr ⟨rfl, fun h => Nat.not_lt.mpr h.1.long hlong⟩
  rw [if_neg hlong]
  by_cases hrange : (PcArmDataData.ofBytes packet.payload).length.toNat < sizeofPcArmDataData ∨
      (PcArmDataData.ofBytes packet.payload).length.toNat > packet.payload.length ∨
        (PcArmDataData.ofBytes packet.payload).length.toNat % 4 ≠ 0
  · rw [if_pos hrange]
    refine Or.inr ⟨rfl, fun h => ?_⟩
    rcases hrange with hshort | hover | hodd
    · exact Nat.not_lt.mpr h.1.length_ge hshort
    · exact Nat.not_lt.mpr h.1.length_le hover
    · exact hodd h.1.aligned
  rw [if_neg hrange]
  rw [not_or, not_or, Nat.not_lt, Nat.not_lt, not_not] at hrange
  have hsum := checksum_innerLength hrange.1 hrange.2.1 hrange.2.2
  by_cases hhead : (PcArmDataData.ofBytes packet.payload).head = pcStatusHead
  case neg =>
    rw [if_pos hhead]
    exact Or.inr ⟨rfl, fun h => hhead h.1.head⟩
  rw [if_neg (not_not.mpr hhead)]
  by_cases hchecksum : (PcArmDataData.ofBytes packet.payload).xorChecksum =
      calculateXorChecksum packet.payload
        ((PcArmDataData.ofBytes packet.payload).length.toNat - 4)
  case neg =>
    rw [if_pos hchecksum]
    exact Or.inr ⟨rfl, fun h => hchecksum (h.1.checksum.trans hsum.symm)⟩
  rw [if_neg (not_not.mpr hchecksum)]
  by_cases hchannel : (PcArmDataData.ofBytes packet.payload).chId.toNat ≥ axicanMax ∨
      (state.bcast.configs (PcArmDataData.ofBytes packet.payload).chId).valid = 0
  · rw [if_pos hchannel]
    refine Or.inr ⟨rfl, fun h => ?_⟩
    rcases hchannel with hhigh | hinvalid
    · exact Nat.not_lt.mpr hhigh h.2.1
    · exact h.2.2 hinvalid
  rw [if_neg hchannel]
  rw [not_or, Nat.not_le] at hchannel
  exact Or.inl ⟨rfl, ⟨Nat.not_lt.mp hlong, hrange.1, hrange.2.1, hrange.2.2, hhead,
    hchecksum.trans hsum⟩, hchannel⟩

-- The older route takes a frame exactly when its checks pass and the channel has room.
theorem enqueuesFrame_iff (hset : DataBufSet state.gDataBufSet) (hcommand : packet.command = 0x0001)
    (hragged : packet.payload.length % sizeofPcArmDataData ≠ 0) :
    EnqueuesFrame now state packet ↔
      LegacyValid packet.payload ∧ TakesFrame state (load8 packet.payload 7) := by
  obtain ⟨htarget, hvalid, hchannel⟩ | ⟨htarget, hinvalid⟩ := downloadTarget_normal hcommand
  · have hlen : (slice packet.payload 0 sizeofPcArmDataData).length = sizeofPcArmDataData :=
      length_slice packet.payload 0 48 (by have := hvalid.long; omega)
    have hput := enqueueChecked_iff hset (load8 packet.payload 7) hlen
    rw [EnqueuesFrame, dispatchPacket, if_neg fun h => hragged h.2.2, htarget]
    simp only [enqueueDownload]
    by_cases hok : (enqueueChecked state.gDataBufSet (load8 packet.payload 7)
        (slice packet.payload 0 sizeofPcArmDataData)).1 = true
    · rw [if_pos hok]
      exact iff_of_true ⟨_, _, rfl⟩ ⟨hvalid, hchannel, hput.mp hok⟩
    · rw [if_neg hok]
      refine iff_of_false ?_ fun h => hok (hput.mpr h.2.2)
      rintro ⟨_, _, hnone⟩
      cases hnone
  · rw [EnqueuesFrame, dispatchPacket, if_neg fun h => hragged h.2.2, htarget]
    refine iff_of_false ?_ fun h => hinvalid ⟨h.1, h.2.1⟩
    rintro ⟨_, _, hnone⟩
    cases hnone

theorem enqueuesFrame_setWord_iff (hset : DataBufSet state.gDataBufSet)
    (hcommand : packet.command = 0x0001)
    (hragged : packet.payload.length % sizeofPcArmDataData ≠ 0) {i : Nat}
    (hi : i * 4 + 4 ≤ packet.payload.length) (w : UInt32) :
    EnqueuesFrame now state { packet with payload := setWord packet.payload i w } ↔
      LegacyValid (setWord packet.payload i w) ∧
        TakesFrame state (load8 (setWord packet.payload i w) 7) := by
  have hlen : (setWord packet.payload i w).length % sizeofPcArmDataData ≠ 0 := by
    rw [length_setWord packet.payload i w hi]
    exact hragged
  exact @enqueuesFrame_iff now state { packet with payload := setWord packet.payload i w } hset
    hcommand hlen

/-- None of the twelve words of the frame can be altered alone. -/
def WordsProtected (now : UInt64) (state : GatewayState) (packet : DataPacket) : Prop :=
  ∀ i w, i < 12 → w ≠ word packet.payload i →
    ¬ EnqueuesFrame now state { packet with payload := setWord packet.payload i w }

/-- The second word with which a frame of inner length 48 passes the checksum over `len` bytes. -/
def forgedWord (payload : List UInt8) (len : Nat) : UInt32 :=
  word payload 1 ^^^ word payload 11 ^^^ calculateXorChecksum (payload.drop 48) (len - 52)

/-- The forged word itself announces `len`, and a channel that takes the frame. -/
def ForgesLength (state : GatewayState) (payload : List UInt8) (len : Nat) : Prop :=
  (load8 (store32 (forgedWord payload len)) 2).toNat = len ∧
    TakesFrame state (load8 (store32 (forgedWord payload len)) 3)

/-- The inner length is exactly 48, and no longer one can be forged. -/
def LengthProtects (state : GatewayState) (payload : List UInt8) : Prop :=
  innerLength payload = 48 ∧
    ∀ len, 52 ≤ len → len ≤ payload.length → len % 4 = 0 → ¬ ForgesLength state payload len

-- The length byte is in the second word.
theorem innerLength_setWord_one (payload : List UInt8) (w : UInt32) (h : 8 ≤ payload.length) :
    innerLength (setWord payload 1 w) = (load8 (store32 w) 2).toNat := by
  rw [innerLength]
  exact congrArg UInt8.toNat (load8_setWord_self payload 1 w h (show 2 < 4 by decide))

theorem innerLength_setWord (payload : List UInt8) {i : Nat} (w : UInt32)
    (h : i * 4 + 4 ≤ payload.length) (hi : i ≠ 1) :
    innerLength (setWord payload i w) = innerLength payload := by
  rw [innerLength, load8_setWord_other payload i w h (by omega), innerLength]

-- With the checksum over 48 bytes in order, the sum over more words is that of the trailing ones.
theorem xorSum_trailing {payload : List UInt8} (hlong : 48 ≤ payload.length)
    (hrule : ChecksumRule payload) {len : Nat} (hge : 52 ≤ len) (hle : len ≤ payload.length)
    (haligned : len % 4 = 0) :
    xorSum payload (len / 4 - 1) = calculateXorChecksum (payload.drop 48) (len - 52) := by
  have hwords : len / 4 - 1 = 12 + (len / 4 - 13) := by omega
  have hbytes : len - 52 = (len / 4 - 13) * 4 := by omega
  rw [checksumRule_iff payload hlong] at hrule
  rw [hwords, xorSum_add, hrule, UInt32.zero_xor, hbytes,
    calculateXorChecksum_eq _ _ (by rw [List.length_drop]; omega)]

-- The forged word is the only one that fits a longer range.
theorem checksum_forged {payload : List UInt8} (hlong : 48 ≤ payload.length)
    (hrule : ChecksumRule payload) {len : Nat} (hge : 52 ≤ len) (hle : len ≤ payload.length)
    (haligned : len % 4 = 0) (w : UInt32) :
    word (setWord payload 1 w) 11 = xorSum (setWord payload 1 w) (len / 4 - 1) ↔
      w = forgedWord payload len := by
  rw [word_setWord_other payload w (by omega) (by decide),
    xorSum_setWord payload w (by omega) (by omega), xorSum_trailing hlong hrule hge hle haligned,
    forgedWord]
  generalize calculateXorChecksum (payload.drop 48) (len - 52) = x
  generalize word payload 1 = a
  generalize word payload 11 = b
  have hsplit : x ^^^ (a ^^^ w) = (a ^^^ x) ^^^ w := by
    rw [← UInt32.xor_assoc, UInt32.xor_comm x a]
  rw [eq_comm, hsplit, ParitySum.op_eq_iff xor_self_eq, UInt32.xor_assoc, UInt32.xor_comm x b,
    ← UInt32.xor_assoc]

-- An inner length beyond 48 leaves the checksum word itself unprotected.
theorem not_wordsProtected_of_long (hset : DataBufSet state.gDataBufSet)
    (hcommand : packet.command = 0x0001)
    (hragged : packet.payload.length % sizeofPcArmDataData ≠ 0)
    (haccepted : EnqueuesFrame now state packet) (hne : innerLength packet.payload ≠ 48) :
    ¬ WordsProtected now state packet := by
  obtain ⟨hvalid, htakes⟩ := (enqueuesFrame_iff hset hcommand hragged).mp haccepted
  have hlong := hvalid.long
  have hge := hvalid.length_ge
  have hle := hvalid.length_le
  have haligned := hvalid.aligned
  have hlen := length_setWord packet.payload 11 (word packet.payload 11 + 1) (by omega)
  have hinner := innerLength_setWord packet.payload (word packet.payload 11 + 1)
    (show 11 * 4 + 4 ≤ packet.payload.length by omega) (by decide)
  have hchannel : load8 (setWord packet.payload 11 (word packet.payload 11 + 1)) 7 =
      load8 packet.payload 7 := load8_setWord_other _ _ _ (by omega) (by decide)
  intro hprotected
  apply hprotected 11 (word packet.payload 11 + 1) (by decide)
  · intro heq
    rw [UInt32.add_eq_left] at heq
    exact absurd heq (by decide)
  rw [enqueuesFrame_setWord_iff hset hcommand hragged (by omega), hchannel]
  refine ⟨⟨?_, ?_, ?_, ?_, ?_, ?_⟩, htakes⟩
  · omega
  · omega
  · omega
  · omega
  · rw [word_setWord_other packet.payload _ (by omega) (by decide)]
    exact hvalid.head
  · -- both sides of the comparison change by the same
    rw [hinner, word_setWord_self packet.payload 11 _ (by omega),
      xorSum_setWord packet.payload _ (by omega) (by omega), ← hvalid.checksum,
      ParitySum.op_cancel_left xor_self_eq]

-- A forged second word gets through.
theorem not_wordsProtected_of_forged (hset : DataBufSet state.gDataBufSet)
    (hcommand : packet.command = 0x0001)
    (hragged : packet.payload.length % sizeofPcArmDataData ≠ 0)
    (haccepted : EnqueuesFrame now state packet) (h48 : innerLength packet.payload = 48) {len : Nat}
    (hge : 52 ≤ len) (hle : len ≤ packet.payload.length) (haligned : len % 4 = 0)
    (hforged : ForgesLength state packet.payload len) : ¬ WordsProtected now state packet := by
  obtain ⟨hvalid, _⟩ := (enqueuesFrame_iff hset hcommand hragged).mp haccepted
  have hlong := hvalid.long
  have hrule := hvalid.checksumRule h48
  have hlen := length_setWord packet.payload 1 (forgedWord packet.payload len) (by omega)
  have hinner := innerLength_setWord_one packet.payload (forgedWord packet.payload len) (by omega)
  have hchannel : load8 (setWord packet.payload 1 (forgedWord packet.payload len)) 7 =
      load8 (store32 (forgedWord packet.payload len)) 3 :=
    load8_setWord_self packet.payload 1 _ (by omega) (show 3 < 4 by decide)
  rw [hforged.1] at hinner
  intro hprotected
  apply hprotected 1 (forgedWord packet.payload len) (by decide)
  · -- the length byte tells the two words apart
    intro heq
    have hbyte := hforged.1
    rw [heq, load8_store32_word packet.payload 1 (by omega) (by decide)] at hbyte
    change innerLength packet.payload = len at hbyte
    omega
  rw [enqueuesFrame_setWord_iff hset hcommand hragged (by omega), hchannel]
  refine ⟨⟨?_, ?_, ?_, ?_, ?_, ?_⟩, hforged.2⟩
  · omega
  · omega
  · omega
  · omega
  · rw [word_setWord_other packet.payload _ (by omega) (by decide)]
    exact hvalid.head
  · rw [hinner]
    exact (checksum_forged hlong hrule hge hle haligned _).mpr rfl

-- Otherwise every single altered word is found.
theorem wordsProtected_of_length (hset : DataBufSet state.gDataBufSet)
    (hcommand : packet.command = 0x0001)
    (hragged : packet.payload.length % sizeofPcArmDataData ≠ 0)
    (haccepted : EnqueuesFrame now state packet) (hlength : LengthProtects state packet.payload) :
    WordsProtected now state packet := by
  obtain ⟨hvalid, _⟩ := (enqueuesFrame_iff hset hcommand hragged).mp haccepted
  have hlong := hvalid.long
  have hrule := hvalid.checksumRule hlength.1
  intro i w hi hw haltered
  have hlen := length_setWord packet.payload i w (by omega)
  rw [enqueuesFrame_setWord_iff hset hcommand hragged (by omega)] at haltered
  obtain ⟨hvalid', htakes'⟩ := haltered
  by_cases hsame : innerLength (setWord packet.payload i w) = 48
  · exact checksumRule_setWord packet.payload hlong hrule hi hw (hvalid'.checksumRule hsame)
  · -- only the second word can change the length, and then it is the forged one
    have hone : i = 1 := by
      by_contra hne
      rw [innerLength_setWord packet.payload w (by omega) hne] at hsame
      exact hsame hlength.1
    subst hone
    have hge := hvalid'.length_ge
    have hle := hvalid'.length_le
    have haligned := hvalid'.aligned
    have hforged := (checksum_forged hlong hrule (by omega) (by omega) haligned w).mp
      hvalid'.checksum
    apply hlength.2 _ (by omega) (by omega) haligned
    rw [ForgesLength, ← hforged]
    refine ⟨(innerLength_setWord_one packet.payload w (by omega)).symm, ?_⟩
    have hchannel : load8 (setWord packet.payload 1 w) 7 = load8 (store32 w) 3 :=
      load8_setWord_self packet.payload 1 w (by omega) (show 3 < 4 by decide)
    rw [← hchannel]
    exact htakes'

end Legacy

/-- **What the older route protects.**  In any run, for a packet of normal data that is no whole
    number of frames and is accepted: none of the twelve words of its frame can be altered alone
    exactly when its inner length is 48 and no second word forges a longer one. -/
theorem legacy_words_protected_iff (gateway : GatewayState) (hstart : gateway.Started)
    (calls : List NormalCall) (packet : DataPacket) (now : UInt64)
    (hcommand : packet.command = 0x0001)
    (hragged : packet.payload.length % sizeofPcArmDataData ≠ 0)
    (haccepted : EnqueuesFrame now (gatewayAfter gateway calls) packet) :
    WordsProtected now (gatewayAfter gateway calls) packet ↔
      LengthProtects (gatewayAfter gateway calls) packet.payload := by
  have hset := (hstart.queues calls).1
  constructor
  · intro hprotected
    have h48 : innerLength packet.payload = 48 := by
      by_contra hne
      exact not_wordsProtected_of_long hset hcommand hragged haccepted hne hprotected
    refine ⟨h48, ?_⟩
    intro len hge hle haligned hforged
    exact not_wordsProtected_of_forged hset hcommand hragged haccepted h48 hge hle haligned hforged
      hprotected
  · exact wordsProtected_of_length hset hcommand hragged haccepted

/-- A packet of normal data for channel 2 of inner length 52, so that the checksum covers itself. -/
def overlappingPacket : DataPacket where
  command := 0x0001
  channel := 0
  payload := store32 pcStatusHead ++ [0, 1, 52, 2] ++
    store32 (pcStatusHead ^^^ load32 [0, 1, 52, 2] 0) ++ List.replicate 32 0 ++ store32 7 ++
    [0, 0, 0, 0]

theorem legacy_words_protected_iff_overlapping :
    WordsProtected 0 startedGateway overlappingPacket ↔
      LengthProtects startedGateway overlappingPacket.payload := by
  have haccepted : EnqueuesFrame 0 startedGateway overlappingPacket :=
    ⟨2, slice overlappingPacket.payload 0 48, by decide +kernel⟩
  exact legacy_words_protected_iff startedGateway startedGateway_started [] overlappingPacket 0 rfl
    (by decide) haccepted

-- Its checksum word can be replaced by anything.
theorem legacy_words_unprotected :
    overlappingPacket.payload.length % 48 ≠ 0 ∧ EnqueuesFrame 0 startedGateway overlappingPacket ∧
      ¬ WordsProtected 0 startedGateway overlappingPacket := by
  refine ⟨by decide, ⟨2, slice overlappingPacket.payload 0 48, by decide +kernel⟩, ?_⟩
  intro hprotected
  apply hprotected 11 8 (by decide) (by decide)
  exact ⟨2, slice (setWord overlappingPacket.payload 11 8) 0 48, by decide +kernel⟩

end CanGateway
