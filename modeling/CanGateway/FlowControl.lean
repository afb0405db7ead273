import CanGateway.BroadcastStorage
import CanGateway.BufferReport
import CanGateway.NormalData

/-!
# The buffer report as flow control

What `buffer_report_thread` reports as remaining is a credit: a client that sends no more than that
is never refused for want of room, however the steps interleave, and what the threads take out since
adds to it.
-/

open ByteMemory

namespace CanGateway

/-! ## Normal data -/

/-- A packet with a valid normal frame for channel `c`, by either route. -/
def AsksNormal (state : GatewayState) (packet : DataPacket) (c : UInt8) : Prop :=
  ((packet.command = 0x0001 ∨ packet.command = 0x0002) ∧
    packet.payload.length = sizeofPcArmDataData ∧
    validate48byteCanPayload packet.payload = true ∧
    (PcArmDataData.ofBytes packet.payload).type = 0x01 ∧
    (PcArmDataData.ofBytes packet.payload).chId = c ∧ c.toNat < axicanMax ∧
    (state.bcast.configs c).valid ≠ 0) ∨
  (packet.payload.length % sizeofPcArmDataData ≠ 0 ∧
    downloadTarget state packet = some (.can, c))

section Dispatch

variable {state : GatewayState} {packet : DataPacket} {c : UInt8}

theorem process9012CanPayloadFrames_one {payload : List UInt8}
    (hlen : payload.length = sizeofPcArmDataData) (hvalid : validate48byteCanPayload payload = true)
    (htype : (PcArmDataData.ofBytes payload).type = 0x01) (packetChannel : UInt32) (now : UInt64)
    (state : GatewayState) :
    process9012CanPayloadFrames payload packetChannel now state =
      enqueueNormalCanPayload payload state := by
  have hframes : (List.range (payload.length / sizeofPcArmDataData)).map
      (slot payload sizeofPcArmDataData) = [payload] := by
    rw [hlen]
    show [slot payload sizeofPcArmDataData 0] = [payload]
    rw [slot_zero_of_length hlen]
  have hall : [payload].all validate48byteCanPayload = true := by
    rw [List.all_cons, hvalid]
    rfl
  have htypes : [payload].map (fun frame => (PcArmDataData.ofBytes frame).type) = [0x01] := by
    rw [List.map_singleton, htype]
  simp only [process9012CanPayloadFrames, hframes]
  rw [if_neg (by rw [hlen]; decide), if_neg (by rw [hlen]; decide), if_neg (not_not.mpr hall),
    if_pos (by rw [hlen]; rfl), if_pos htypes, slot_zero_of_length hlen]

-- A put stores its element exactly if there is room.
theorem ringbuffer32chPut_room {set : RingBuffer32ChSet} (hset : DataBufSet set)
    {frame : List UInt8} (hframe : frame.length = sizeofPcArmDataData)
    (hroom : ringbuffer32chAvail set c 32 ≠ 0) :
    (ringbuffer32chPut set c (some frame) 32).1 = 1 := by
  have havail := ringbuffer32chAvail_spec hset.wf c 32
  have hpos : set.bank.avail (32 : UInt8).toNat c.toNat ≠ 0 := by
    rw [← havail]
    exact fun h => hroom (UInt32.toNat_inj.mp h)
  rw [(ringbuffer32chPut_spec hset.wf c 32 frame (hframe.trans hset.size.symm)).1,
    successCode_eq_one, QueueBank.put]
  rw [QueueBank.avail] at hpos
  split at hpos
  next hv =>
    rw [if_pos ⟨hv, by omega⟩]
  next => exact absurd rfl hpos

theorem downloadTarget_command (h : downloadTarget state packet = some (.can, c)) :
    packet.command = 0x0001 := by
  by_contra hcommand
  unfold downloadTarget at h
  dsimp only at h
  rw [if_neg hcommand] at h
  split_ifs at h <;> cases h

-- What the three queueing functions tell by accepting a frame.
theorem enqueueNormalCanPayload_normal {payload frame : List UInt8}
    (h : (enqueueNormalCanPayload payload state).1 = .normal c frame) :
    (PcArmDataData.ofBytes payload).chId = c ∧ c.toNat < axicanMax ∧
      (state.bcast.configs c).valid ≠ 0 ∧ ringbuffer32chAvail state.gDataBufSet c 32 ≠ 0 := by
  unfold enqueueNormalCanPayload at h
  dsimp only at h
  split at h
  · cases h
  next hchannel =>
    split at h
    · cases h
    next hroom =>
      split at h
      · cases h
        push Not at hchannel
        exact ⟨rfl, hchannel.1, hchannel.2, hroom⟩
      · cases h

theorem enqueueBroadcastPayload_ne_normal (targetCh : UInt8) (frames : List (List UInt8))
    (now : UInt64) (frame : List UInt8) :
    (enqueueBroadcastPayload targetCh frames now state).1 ≠ .normal c frame := by
  intro h
  unfold enqueueBroadcastPayload at h
  dsimp only at h
  split at h <;> cases h

theorem enqueueDownload_normal {dataType : DataType} {canId : UInt8} {payload frame : List UInt8}
    (h : (enqueueDownload dataType canId payload state).1 = .normal c frame) :
    dataType = .can ∧ canId = c ∧ ringbuffer32chAvail state.gDataBufSet c 32 ≠ 0 := by
  cases dataType with
  | can =>
      unfold enqueueDownload enqueueChecked at h
      dsimp only at h
      split at h
      · cases h
      next hroom =>
        dsimp only at h
        split at h
        · cases h
          exact ⟨rfl, rfl, hroom⟩
        · cases h
  | simulator =>
      unfold enqueueDownload at h
      dsimp only at h
      split at h <;> cases h
  | secondPulse =>
      unfold enqueueDownload at h
      dsimp only at h
      split at h <;> cases h
  | dma => cases h

-- A frame is accepted because it was asked for, and because there was room.
theorem dispatchPacket_asks {now : UInt64} {frame : List UInt8}
    (h : (dispatchPacket now state packet).1 = .normal c frame) :
    AsksNormal state packet c ∧ ringbuffer32chAvail state.gDataBufSet c 32 ≠ 0 := by
  unfold dispatchPacket at h
  split at h
  next hstrict =>
    obtain hr | ⟨⟨_, _, hall⟩, ⟨hsingle, hlen, htype, hr⟩ | ⟨_, _, hr⟩⟩ :=
      process9012CanPayloadFrames_cases packet.payload packet.channel now state rfl
    · rw [hr] at h
      cases h
    · rw [hr] at h
      rw [hsingle] at hall
      obtain ⟨hch, hlt, hconfig, hroom⟩ := enqueueNormalCanPayload_normal h
      have hvalid := hall packet.payload List.mem_cons_self
      exact ⟨Or.inl ⟨hstrict.1, hlen, hvalid, htype, hch, hlt, hconfig⟩, hroom⟩
    · rw [hr] at h
      exact absurd h (enqueueBroadcastPayload_ne_normal _ _ _ _)
  next hlegacy =>
    split at h
    · cases h
    next dataType canId htarget =>
      obtain ⟨rfl, rfl, hroom⟩ := enqueueDownload_normal h
      have hcommand := downloadTarget_command htarget
      have hlen := (downloadTarget_can htarget).length_eq
      rw [slice, List.drop_zero, List.length_take] at hlen
      have hragged : packet.payload.length % sizeofPcArmDataData ≠ 0 :=
        fun hwhole => hlegacy ⟨Or.inl hcommand, by omega, hwhole⟩
      exact ⟨Or.inr ⟨hragged, htarget⟩, hroom⟩

theorem dispatchPacket_accepts (hset : DataBufSet state.gDataBufSet) (now : UInt64)
    (hasks : AsksNormal state packet c) (hroom : ringbuffer32chAvail state.gDataBufSet c 32 ≠ 0) :
    ∃ frame, (dispatchPacket now state packet).1 = .normal c frame := by
  rcases hasks with ⟨hcommand, hlen, hvalid, htype, hch, hlt, hconfig⟩ | ⟨hragged, htarget⟩
  · have hroute : dispatchPacket now state packet =
        process9012CanPayloadFrames packet.payload packet.channel now state :=
      if_pos ⟨hcommand, Nat.le_of_eq hlen.symm, by rw [hlen]; rfl⟩
    have hput := ringbuffer32chPut_room hset hlen hroom
    refine ⟨packet.payload, ?_⟩
    rw [hroute, process9012CanPayloadFrames_one hlen hvalid htype, enqueueNormalCanPayload]
    dsimp only
    rw [hch, if_neg (not_or.mpr ⟨Nat.not_le.mpr hlt, hconfig⟩), if_neg hroom, if_pos hput]
  · have hframe := downloadTarget_can htarget
    have hput := ringbuffer32chPut_room hset hframe.length_eq hroom
    refine ⟨slice packet.payload 0 sizeofPcArmDataData, ?_⟩
    unfold dispatchPacket
    rw [if_neg fun h => hragged h.2.2, htarget]
    unfold enqueueDownload enqueueChecked
    dsimp only
    rw [if_neg hroom]
    dsimp only
    rw [hput]
    rfl

theorem dispatchPacket_normal_iff (hset : DataBufSet state.gDataBufSet) (now : UInt64) :
    (∃ frame, (dispatchPacket now state packet).1 = .normal c frame) ↔
      AsksNormal state packet c ∧ ringbuffer32chAvail state.gDataBufSet c 32 ≠ 0 :=
  ⟨fun ⟨_, h⟩ => dispatchPacket_asks h, fun h => dispatchPacket_accepts hset now h.1 h.2⟩

theorem enqueueChecked_keeps {set : RingBuffer32ChSet} (hset : DataBufSet set) (canId : UInt8)
    {frame : List UInt8} (hframe : frame.length = sizeofPcArmDataData) :
    set.Keeps (enqueueChecked set canId frame).2.2 := by
  unfold enqueueChecked
  split
  · exact hset.wf.keeps_self
  · exact (ringbuffer32chPut_spec hset.wf canId 32 frame (hframe.trans hset.size.symm)).2.2

theorem dispatchPacket_keeps (hset : DataBufSet state.gDataBufSet) (now : UInt64)
    (packet : DataPacket) :
    state.gDataBufSet.Keeps (dispatchPacket now state packet).2.gDataBufSet := by
  unfold dispatchPacket
  split
  · obtain hr | ⟨_, ⟨_, hlen, _, hr⟩ | ⟨_, _, hr⟩⟩ :=
      process9012CanPayloadFrames_cases packet.payload packet.channel now state rfl
    · rw [hr]
      exact hset.wf.keeps_self
    · rw [hr]
      unfold enqueueNormalCanPayload
      dsimp only
      split
      · exact hset.wf.keeps_self
      split
      · exact hset.wf.keeps_self
      · exact (ringbuffer32chPut_spec hset.wf _ 32 _ (hlen.trans hset.size.symm)).2.2
    · rw [hr]
      exact hset.wf.keeps_self
  split
  · exact hset.wf.keeps_self
  next dataType canId htarget =>
    cases dataType with
    | can => exact enqueueChecked_keeps hset canId (downloadTarget_can htarget).length_eq
    | simulator => exact hset.wf.keeps_self
    | secondPulse => exact hset.wf.keeps_self
    | dma => exact hset.wf.keeps_self

end Dispatch

section Account

variable {past : List NormalAnswer} {sys : NormalSystem}

theorem normalStep_keeps (h : sys.Inv past) (call : NormalCall) :
    sys.gateway.gDataBufSet.Keeps (normalStep sys call).2.gateway.gDataBufSet := by
  have hsame : sys.gateway.gDataBufSet.Keeps sys.gateway.gDataBufSet := h.dataBufSet.wf.keeps_self
  cases call with
  | receive conn chunk =>
      simp only [normalStep]
      split <;> exact hsame
  | iterate now =>
      simp only [normalStep]
      split
      · exact hsame
      next conn offset hbatch =>
        obtain hiter | ⟨offset', hiter⟩ | ⟨offset', packet, hiter⟩ :=
          batchIteration_cases (dispatchLogged now) (sys.streams conn) ⟨offset, none, sys.gateway⟩
        · rw [hiter]
          exact hsame
        · rw [hiter]
          exact hsame
        · rw [hiter]
          exact dispatchPacket_keeps h.dataBufSet now packet
  | readState c =>
      simp only [normalStep]
      split <;> exact hsame
  | readLen c =>
      simp only [normalStep]
      split <;> exact hsame
  | dequeue c =>
      have hget := (ringbuffer32chGet_spec h.dataBufSet.wf c 32 (sys.threads c).currFrame
        ((h.currFrame c).trans h.dataBufSet.size.symm)).2.2.2
      simp only [normalStep]
      split
      · split <;> exact hget
      · exact hsame
  | handle c now clock =>
      simp only [normalStep]
      split <;> exact hsame
  | other call => exact hsame

/-- A system whose data rings are those `main` made. -/
structure NormalSystem.Metered (past : List NormalAnswer) (sys : NormalSystem) : Prop where
  inv : sys.Inv past
  channels : sys.gateway.gDataBufSet.maxChannel = 32
  capacity : sys.gateway.gDataBufSet.bufCapacity = 131072

theorem normalStep_metered (past : List NormalAnswer) (sys : NormalSystem) (call : NormalCall)
    (h : sys.Metered past) :
    (normalStep sys call).2.Metered (past ++ [(normalStep sys call).1]) := by
  have hkeeps := normalStep_keeps h.inv call
  constructor
  · exact normalStep_inv past sys call h.inv
  · exact hkeeps.maxChannel.trans h.channels
  · exact hkeeps.bufCapacity.trans h.capacity

-- What is accepted and not dequeued takes up the rest of the ring.
theorem NormalSystem.Metered.account (h : sys.Metered past) {c : UInt8} (hc : c.toNat < axicanMax) :
    (acceptedFrames c past).length + (ringbuffer32chAvail sys.gateway.gDataBufSet c 32).toNat =
      (dequeuedFrames c past).length + 131072 := by
  have hwf := h.inv.dataBufSet.wf
  have hvalid : sys.gateway.gDataBufSet.bank.Valid (32 : UInt8).toNat c.toNat := by
    refine ⟨Nat.lt_trans hc (by decide), ?_⟩
    show c.toNat < sys.gateway.gDataBufSet.maxChannel.toNat
    rw [h.channels]
    exact Nat.lt_trans hc (by decide)
  have hadd := ringbuffer32chLen_add_avail hwf c 32 hvalid
  have hcap : sys.gateway.gDataBufSet.bank.cap = 131072 := congrArg UInt32.toNat h.capacity
  have hlen : (ringbuffer32chLen sys.gateway.gDataBufSet c 32).toNat =
      (sys.gateway.waiting c).length := by
    rw [ringbuffer32chLen_spec hwf, QueueBank.len, if_pos hvalid]
    rfl
  rw [h.inv.queued c, List.length_append]
  omega

-- Between two moments.
theorem NormalSystem.Metered.balance {later : List NormalAnswer} {sys' : NormalSystem}
    (h : sys.Metered past) (h' : sys'.Metered (past ++ later)) {c : UInt8}
    (hc : c.toNat < axicanMax) :
    (acceptedFrames c later).length + (ringbuffer32chAvail sys'.gateway.gDataBufSet c 32).toNat =
      (ringbuffer32chAvail sys.gateway.gDataBufSet c 32).toNat +
        (dequeuedFrames c later).length := by
  have hbefore := h.account hc
  have hafter := h'.account hc
  simp only [acceptedFrames, dequeuedFrames, List.flatMap_append, List.length_append]
    at hbefore hafter ⊢
  omega

theorem metered_initial {dataBufSet₀ : RingBuffer32ChSet} {heap heap' : Heap}
    {gateway : GatewayState}
    (hinit : ringbuffer32chInit dataBufSet₀ 48 131072 32 heap = (0, gateway.gDataBufSet, heap')) :
    (NormalSystem.initial gateway).Metered [] := by
  obtain ⟨_, _, hchannels, hcapacity, _⟩ := ringbuffer32chInit_success hinit
  exact ⟨normalInitial_inv hinit, hchannels, hcapacity.trans (by decide)⟩

end Account

/-- **The report of normal data is a credit.**  Between a report and any later moment, a channel
    has accepted no more frames than reported and dequeued since; and at that moment a packet is
    accepted exactly if it holds a valid frame and the credit is not used up.  The report is taken
    at one moment: `ringbuffer_avail` reads `in` and `out` of the ring without a lock, and what
    moves between the two reads is not covered. -/
theorem normal_report_is_credit (dataBufSet₀ : RingBuffer32ChSet) (heap heap' : Heap)
    (gateway : GatewayState)
    (hinit : ringbuffer32chInit dataBufSet₀ 48 131072 32 heap = (0, gateway.gDataBufSet, heap'))
    (calls later : List NormalCall) (c : UInt8) (hc : c.toNat < axicanMax) :
    let sys := (Transducer.run normalStep calls (.initial gateway)).2
    let r := Transducer.run normalStep later sys
    let used := (acceptedFrames c r.1).length
    let freed := (dequeuedFrames c r.1).length
    ∀ rings : ReportedRings, rings.gDataBufSet = sys.gateway.gDataBufSet →
      let credit := (reportedChannel rings c.toNat).normalBufRemaining.toNat
      used ≤ credit + freed ∧
        ∀ now packet, (∃ frame, (dispatchPacket now r.2.gateway packet).1 = .normal c frame) ↔
          AsksNormal r.2.gateway packet c ∧ used < credit + freed := by
  intro sys r used freed rings hrings credit
  have hmetered := Transducer.run_answers NormalSystem.Metered (metered_initial hinit)
    normalStep_metered
  have hend := hmetered (calls ++ later)
  rw [Transducer.run_append] at hend
  have hbalance := (hmetered calls).balance hend hc
  have hcredit : (ringbuffer32chAvail sys.gateway.gDataBufSet c 32).toNat = credit := by
    show _ = (reportedChannel rings c.toNat).normalBufRemaining.toNat
    have havail := ringbuffer32chAvail_eq rings.data_wf rings.data_channels hc
    rw [reportedChannel, if_pos hc, ← havail, hrings, UInt8.ofNat_toNat]
  rw [hcredit] at hbalance
  change used + (ringbuffer32chAvail r.2.gateway.gDataBufSet c 32).toNat = credit + freed
    at hbalance
  refine ⟨by omega, ?_⟩
  intro now packet
  rw [dispatchPacket_normal_iff hend.inv.dataBufSet]
  apply and_congr_right
  intro _
  rw [ne_eq, ← UInt32.toNat_inj]
  show ¬ (ringbuffer32chAvail r.2.gateway.gDataBufSet c 32).toNat = 0 ↔ _
  omega

/-- The gateway with the rings `main` makes, channel 2 configured. -/
def creditedGateway : GatewayState where
  bcast := ⟨.initial .zero, initialConfig⟩
  gDataBufSet := (ringbuffer32chInit .zero 48 131072 32 ampleHeap).2.1
  gSimulatorBufSet := .zero
  gPulseBufSet := .zero

-- After one frame there is credit for the next.
theorem normal_report_is_credit_next_frame :
    let r := Transducer.run normalStep [.receive 0 singleFramePacket, .iterate 0]
      (.initial creditedGateway)
    ∃ frame, (dispatchPacket 0 r.2.gateway
      ⟨0x0001, 0, singleFramePacket.drop 20⟩).1 = .normal 2 frame := by
  intro r
  have hcredit := (normal_report_is_credit .zero ampleHeap
    (ringbuffer32chInit .zero 48 131072 32 ampleHeap).2.2 creditedGateway rfl []
    [.receive 0 singleFramePacket, .iterate 0] 2 (by decide)
    (reachedRings [] [] (.initial .zero)) rfl).2 0 ⟨0x0001, 0, singleFramePacket.drop 20⟩
  apply hcredit.mpr
  constructor
  · refine Or.inl ⟨Or.inl rfl, by decide, by decide +kernel, by decide, by decide, by decide, ?_⟩
    decide +kernel
  · decide +kernel

/-! ## Broadcast groups -/

section Broadcast

variable {past later : List BroadcastAnswer} {sys sys' : BroadcastSystem} {ch : UInt8}

-- A reset forgets all before it.
theorem sinceReset_append (past later : List BroadcastAnswer) :
    sinceReset (past ++ later) =
      if later.any BroadcastAnswer.isReset then sinceReset later
      else sinceReset past ++ sinceReset later := by
  induction later using List.reverseRecOn with
  | nil =>
      rw [List.append_nil]
      exact (List.append_nil _).symm
  | append_singleton later answer ih =>
      rw [← List.append_assoc, List.any_append]
      cases hreset : answer.isReset with
      | true =>
          rw [sinceReset_reset _ hreset, sinceReset_reset _ hreset]
          simp [hreset]
      | false =>
          rw [sinceReset_concat _ hreset, sinceReset_concat _ hreset, ih]
          split
          next hany => rw [if_pos (by rw [hany]; rfl)]
          next hany => rw [if_neg (by simpa [hreset] using hany), List.append_assoc]

theorem BroadcastSystem.Tracks.account (h : sys.Tracks past) (hch : ch.toNat < axicanMax) :
    (acceptedGroups ch past).length + (broadcastBufferAvailable sys.st ch).toNat =
      (takenGroups ch past).length + bcastGroupQueueDepth.toNat := by
  obtain ⟨bank, hholds, hinv⟩ := h
  have hvalid := hholds.valid hch
  have hle := hholds.carries.length_queue_le hvalid.2
  rw [hholds.cap] at hle
  rw [broadcastBufferAvailable, hholds.carries.avail, QueueBank.avail, if_pos hvalid, hholds.cap,
    (hinv ch hch).queued, List.length_append]
  omega

theorem BroadcastSystem.Tracks.balance (h : sys.Tracks past) (h' : sys'.Tracks (past ++ later))
    (hch : ch.toNat < axicanMax) :
    (acceptedGroups ch later).length + (broadcastBufferAvailable sys'.st ch).toNat =
      (if later.any BroadcastAnswer.isReset then bcastGroupQueueDepth.toNat
        else (broadcastBufferAvailable sys.st ch).toNat) + (takenGroups ch later).length := by
  have hbefore := h.account hch
  have hafter := h'.account hch
  simp only [acceptedGroups, takenGroups, sinceReset_append] at hbefore hafter ⊢
  split
  next hany =>
    rw [if_pos hany] at hafter
    omega
  next hany =>
    rw [if_neg hany, List.flatMap_append, List.flatMap_append, List.length_append,
      List.length_append] at hafter
    omega

end Broadcast

/-- **The report of broadcast groups is a credit.**  It holds until a configuration is accepted,
    which renews it to the whole depth of the queue: a group is accepted exactly if it passes the
    other checks and the credit is not used up. -/
theorem broadcast_report_is_credit (groups₀ groups : RingBuffer32ChSet) (heap heap' : Heap)
    (configs : CanConfigs)
    (hinit : ringbuffer32chInit groups₀ sizeofBroadcastFrameGroup bcastGroupQueueDepth 6 heap =
      (0, groups, heap'))
    (calls later : List BroadcastCall) (ch : UInt8) (hch : ch.toNat < axicanMax) :
    let sys := (Transducer.run broadcastStep calls ⟨.initial groups, configs⟩).2
    let r := Transducer.run broadcastStep later sys
    let used := (acceptedGroups ch r.1).length
    let freed := (takenGroups ch r.1).length
    ∀ rings : ReportedRings, rings.bcast = sys.st →
      let credit := if r.1.any BroadcastAnswer.isReset then bcastGroupQueueDepth.toNat
        else (reportedChannel rings ch.toNat).pulseBufRemaining.toNat
      used ≤ credit + freed ∧
        ∀ frames now, (enqueueBroadcastGroup r.2.configs ch frames now r.2.st).1 = 0 ↔
          (0 < frames.length ∧ frames.length ≤ bcastMaxFramesPerGroup) ∧
            (r.2.configs ch).valid ≠ 0 ∧ (isBroadcastRxGateOpen now r.2.st).1 = true ∧
            used < credit + freed := by
  intro sys r used freed rings hrings credit
  have htracks := Transducer.run_answers BroadcastSystem.Tracks
    (broadcastInitial_tracks configs hinit) broadcastStep_tracks
  have hend := htracks (calls ++ later)
  rw [Transducer.run_append] at hend
  have hbalance := (htracks calls).balance hend hch
  have hreport : (broadcastBufferAvailable sys.st ch).toNat =
      (reportedChannel rings ch.toNat).pulseBufRemaining.toNat := by
    rw [reportedChannel, if_pos hch, hrings, UInt8.ofNat_toNat]
  rw [hreport] at hbalance
  change used + (broadcastBufferAvailable r.2.st ch).toNat = credit + freed at hbalance
  refine ⟨by omega, ?_⟩
  intro frames now
  obtain ⟨bank, hholds, _⟩ := hend
  have hvalid := hholds.valid hch
  have hroom : (ringbuffer32chLen r.2.st.groups ch 6).toNat < bcastGroupQueueDepth.toNat ↔
      used < credit + freed := by
    have hlen : (ringbuffer32chLen r.2.st.groups ch 6).toNat = (bank.queue ch.toNat).length := by
      rw [hholds.carries.len, QueueBank.len, if_pos hvalid]
    have havail : (broadcastBufferAvailable r.2.st ch).toNat =
        bcastGroupQueueDepth.toNat - (bank.queue ch.toNat).length := by
      rw [broadcastBufferAvailable, hholds.carries.avail, QueueBank.avail, if_pos hvalid,
        hholds.cap]
    rw [hlen]
    omega
  rw [enqueueBroadcastGroup_admits hholds]
  constructor
  · intro hadmits
    exact ⟨hadmits.size, hadmits.valid, hadmits.window, hroom.mp hadmits.room⟩
  · rintro ⟨hsize, hconfig, hwindow, hcredit⟩
    exact ⟨hsize, hch, hconfig, hwindow, hroom.mpr hcredit⟩

-- A second group within the window.
theorem broadcast_report_is_credit_second_group :
    let groups := (ringbuffer32chInit .zero sizeofBroadcastFrameGroup bcastGroupQueueDepth 6
      ampleHeap).2.1
    let sys := (Transducer.run broadcastStep [.pps 100, .enqueue 0 [default] 200]
      ⟨.initial groups, initialConfig⟩).2
    (enqueueBroadcastGroup sys.configs 0 [default] 300 sys.st).1 = 0 := by
  intro groups sys
  have hinit : ringbuffer32chInit .zero sizeofBroadcastFrameGroup bcastGroupQueueDepth 6 ampleHeap =
      (0, groups, (ringbuffer32chInit .zero sizeofBroadcastFrameGroup bcastGroupQueueDepth 6
        ampleHeap).2.2) := rfl
  have hcredit := (broadcast_report_is_credit .zero groups ampleHeap _ initialConfig hinit []
    [.pps 100, .enqueue 0 [default] 200] 0 (by decide)
    (reachedRings [] [] (.initial groups)) rfl).2 [default] 300
  apply hcredit.mpr
  decide +kernel

end CanGateway
