import CanGateway.DownloadStream
import CanGateway.BroadcastSystem
import CanGateway.RecordChecksum

/-!
# What a download packet does

`process_download_data_batch` hands a complete packet either to `process_9012_can_payload_frames`
or, when its payload is no whole number of 48-byte frames or its command is another one, to the
older route that validates by command.  Both put normal CAN frames into `g_data_buf_set`.
-/

open ByteMemory

namespace CanGateway

/-- The queues the download packets fill, the broadcast scheduler and `can_configs`. -/
structure GatewayState where
  bcast : BroadcastSystem
  gDataBufSet : RingBuffer32ChSet
  gSimulatorBufSet : RingBuffer32ChSet
  gPulseBufSet : RingBuffer32ChSet

/-- What became of a packet: where its data was queued, or the error event sent, if any. -/
inductive PacketOutcome where
  | normal (canId : UInt8) (frame : List UInt8)
  | broadcast (targetCh : UInt8)
  | simulator (canId : UInt8)
  | secondPulse
  | refused (code : Int) (event : Option String)
  | discarded (event : Option String)
  deriving DecidableEq, Repr

/-! ## Frames of 48 bytes -/

/-- `validate_48byte_can_payload`, whether it returns 0. -/
def validate48byteCanPayload (frame : List UInt8) : Bool :=
  let hdr := PcArmDataData.ofBytes frame
  hdr.head == pcStatusHead && hdr.length.toNat == sizeofPcArmDataData &&
    hdr.xorChecksum == calculateXorChecksum frame (sizeofPcArmDataData - 4)

theorem validate48byteCanPayload_iff (frame : List UInt8) :
    validate48byteCanPayload frame = true ↔ (PcArmDataData.ofBytes frame).head = pcStatusHead ∧
      (PcArmDataData.ofBytes frame).length.toNat = sizeofPcArmDataData ∧ ChecksumRule frame := by
  simp only [validate48byteCanPayload, Bool.and_eq_true, beq_iff_eq, and_assoc]
  rfl

def enqueueNormalCanPayload (frame : List UInt8) (state : GatewayState) :
    PacketOutcome × GatewayState :=
  let canId := (PcArmDataData.ofBytes frame).chId
  if canId.toNat ≥ axicanMax ∨ (state.bcast.configs canId).valid = 0 then
    (.refused einval none, state)
  else if ringbuffer32chAvail state.gDataBufSet canId 32 = 0 then
    (.refused enomem (some "normal CAN buffer full"), state)
  else
    let put := ringbuffer32chPut state.gDataBufSet canId (some frame) 32
    (if put.1 = 1 then .normal canId frame else .refused enomem none,
      { state with gDataBufSet := put.2 })

/-- `enqueue_broadcast_group` on the shared scheduler state. -/
def enqueueBroadcastPayload (targetCh : UInt8) (frames : List (List UInt8)) (now : UInt64)
    (state : GatewayState) : PacketOutcome × GatewayState :=
  let r := enqueueBroadcastGroup state.bcast.configs targetCh (frames.map PcArmDataData.ofBytes)
    now state.bcast.st
  (if r.1 = 0 then .broadcast targetCh else .refused r.1 r.2.1,
    { state with bcast := { state.bcast with st := r.2.2 } })

def process9012CanPayloadFrames (payload : List UInt8) (packetChannel : UInt32) (now : UInt64)
    (state : GatewayState) : PacketOutcome × GatewayState :=
  let frameCount := payload.length / sizeofPcArmDataData
  let frames := (List.range frameCount).map (slot payload sizeofPcArmDataData)
  let types := frames.map fun frame => (PcArmDataData.ofBytes frame).type
  if payload.length = 0 ∨ payload.length % sizeofPcArmDataData ≠ 0 then
    (.refused einval none, state)
  else if frameCount = 0 ∨ frameCount > bcastMaxFramesPerGroup then (.refused einval none, state)
  else if ¬ frames.all validate48byteCanPayload then (.refused einval none, state)
  else if frameCount = 1 then
    if types = [0x01] then enqueueNormalCanPayload (slot payload sizeofPcArmDataData 0) state
    else if types = [0x02] then
      if packetChannel.toNat ≥ axicanMax then (.refused einval none, state)
      else enqueueBroadcastPayload packetChannel.toUInt8 frames now state
    else (.refused einval none, state)
  else if ¬ types.all (· = 0x02) then (.refused einval none, state)
  else if packetChannel.toNat ≥ axicanMax then (.refused einval none, state)
  else enqueueBroadcastPayload packetChannel.toUInt8 frames now state

/-! ## The route by command -/

/-- `DataType`, as far as a download packet can have it. -/
inductive DataType where
  | can
  | simulator
  | secondPulse
  | dma
  deriving DecidableEq, Repr

/-- The `switch` over the command: the kind of data and its channel, if the packet is valid. -/
def downloadTarget (state : GatewayState) (packet : DataPacket) : Option (DataType × UInt8) :=
  let payloadLen := packet.payload.length
  if packet.command = 0x0001 then
    let hdr := PcArmDataData.ofBytes packet.payload
    if payloadLen < sizeofPcArmDataData then none
    else if hdr.length.toNat < sizeofPcArmDataData ∨ hdr.length.toNat > payloadLen ∨
        hdr.length.toNat % 4 ≠ 0 then none
    else if hdr.head ≠ pcStatusHead then none
    else if hdr.xorChecksum ≠ calculateXorChecksum packet.payload (hdr.length.toNat - 4) then none
    else if hdr.chId.toNat ≥ axicanMax ∨ (state.bcast.configs hdr.chId).valid = 0 then none
    else some (.can, hdr.chId)
  else if packet.command = 0x0003 then
    let sim := PcArmSimulatorData.ofBytes packet.payload
    if payloadLen < sizeofPcArmSimulatorData then none
    else if sim.channelId ≥ state.gSimulatorBufSet.maxChannel ∨
        sim.sendLen.toNat > sizeofSendData then none
    else if sim.head ≠ pcStatusHead then none
    else some (.simulator, sim.channelId)
  else if packet.command = 0x0002 then
    if payloadLen < sizeofSecondPulseData then none else some (.secondPulse, 0)
  else if packet.command = 0x0005 then
    if payloadLen < sizeofPcDmaData then none else some (.dma, load8 packet.payload 0)
  else none

/-- The checked `put` of the older route: whether it stored the element, the event, the set. -/
def enqueueChecked (targetBuf : RingBuffer32ChSet) (canId : UInt8) (data : List UInt8) :
    Bool × Option String × RingBuffer32ChSet :=
  if ringbuffer32chAvail targetBuf canId 32 = 0 then (false, some "buffer full", targetBuf)
  else
    let put := ringbuffer32chPut targetBuf canId (some data) 32
    (0 < put.1, none, put.2)

/-- The queueing of valid data; there is no queue for DMA data. -/
def enqueueDownload (dataType : DataType) (canId : UInt8) (payload : List UInt8)
    (state : GatewayState) : PacketOutcome × GatewayState :=
  match dataType with
  | .can =>
      let frame := slice payload 0 sizeofPcArmDataData
      let r := enqueueChecked state.gDataBufSet canId frame
      (if r.1 then .normal canId frame else .discarded r.2.1, { state with gDataBufSet := r.2.2 })
  | .simulator =>
      let r := enqueueChecked state.gSimulatorBufSet canId
        (slice payload 0 sizeofPcArmSimulatorData)
      (if r.1 then .simulator canId else .discarded r.2.1,
        { state with gSimulatorBufSet := r.2.2 })
  | .secondPulse =>
      let r := enqueueChecked state.gPulseBufSet canId (slice payload 0 sizeofSecondPulseData)
      (if r.1 then .secondPulse else .discarded r.2.1, { state with gPulseBufSet := r.2.2 })
  | .dma => (.discarded none, state)

/-- The handling of one complete packet in `process_download_data_batch`. -/
def dispatchPacket (now : UInt64) (state : GatewayState) (packet : DataPacket) :
    PacketOutcome × GatewayState :=
  if (packet.command = 0x0001 ∨ packet.command = 0x0002) ∧
      packet.payload.length ≥ sizeofPcArmDataData ∧
      packet.payload.length % sizeofPcArmDataData = 0 then
    process9012CanPayloadFrames packet.payload packet.channel now state
  else
    match downloadTarget state packet with
    | none => (.discarded none, state)
    | some (dataType, canId) => enqueueDownload dataType canId packet.payload state

/-! ## The normal frames a packet adds -/

/-- A frame the transmit thread of channel `c` accepts. -/
structure FrameFor (c : UInt8) (frame : List UInt8) : Prop where
  length_eq : frame.length = sizeofPcArmDataData
  head : (PcArmDataData.ofBytes frame).head = pcStatusHead
  chId : (PcArmDataData.ofBytes frame).chId = c

/-- The frame the packet added to the queue of channel `c`, if any. -/
def PacketOutcome.acceptedOn (c : UInt8) : PacketOutcome → List (List UInt8)
  | .normal canId frame => if canId = c then [frame] else []
  | _ => []

/-- `g_data_buf_set` after a successful initialisation. -/
structure DataBufSet (set : RingBuffer32ChSet) : Prop where
  wf : set.Wf
  size : set.elemSize.toNat = sizeofPcArmDataData

/-- The frames waiting for channel `c`. -/
def GatewayState.waiting (state : GatewayState) (c : UInt8) : List (List UInt8) :=
  state.gDataBufSet.bank.queue c.toNat

/-- The queues of normal frames grow by what the outcome says, and by frames of their channel. -/
structure Admits (state : GatewayState) (r : PacketOutcome × GatewayState) : Prop where
  dataBufSet : DataBufSet r.2.gDataBufSet
  waiting : ∀ c, r.2.waiting c = state.waiting c ++ r.1.acceptedOn c
  frameFor : ∀ c, ∀ frame ∈ r.1.acceptedOn c, FrameFor c frame

-- A packet that leaves `g_data_buf_set` alone.
theorem Admits.of_same {state : GatewayState} {r : PacketOutcome × GatewayState}
    (hset : DataBufSet state.gDataBufSet) (hsame : r.2.gDataBufSet = state.gDataBufSet)
    (hout : ∀ c, r.1.acceptedOn c = []) : Admits state r where
  dataBufSet := by
    rw [hsame]
    exact hset
  waiting := by
    intro c
    rw [GatewayState.waiting, hsame, hout, List.append_nil, GatewayState.waiting]
  frameFor := by
    intro c frame hmem
    rw [hout] at hmem
    cases hmem

-- A `put` of a frame of channel `canId`, whatever it returns.
theorem Admits.of_put {state : GatewayState} {canId : UInt8} {frame : List UInt8}
    (hset : DataBufSet state.gDataBufSet) (hframe : FrameFor canId frame)
    {r : PacketOutcome × GatewayState}
    (hstate : r.2.gDataBufSet = (ringbuffer32chPut state.gDataBufSet canId (some frame) 32).2)
    (hout : ∀ c, r.1.acceptedOn c =
      if (ringbuffer32chPut state.gDataBufSet canId (some frame) 32).1 = 1 ∧ canId = c then [frame]
      else []) : Admits state r := by
  have hlen : frame.length = state.gDataBufSet.elemSize.toNat := by
    rw [hframe.length_eq, hset.size]
  obtain ⟨hret, hbank, hkeep⟩ := ringbuffer32chPut_spec hset.wf canId 32 frame hlen
  constructor
  · rw [hstate]
    exact ⟨hkeep.wf, by rw [hkeep.elemSize, hset.size]⟩
  · intro c
    rw [GatewayState.waiting, hstate, hbank, QueueBank.queue_put, hout, hret]
    simp only [successCode_eq_one, UInt8.toNat_inj, GatewayState.waiting, eq_comm (a := c)]
    split
    next => rfl
    next => rw [List.append_nil]
  · intro c x hmem
    rw [hout] at hmem
    split at hmem
    next h =>
      rw [List.mem_singleton.mp hmem, ← h.2]
      exact hframe
    next => cases hmem

theorem enqueueNormalCanPayload_admits {state : GatewayState}
    (hset : DataBufSet state.gDataBufSet) {frame : List UInt8}
    (hlen : frame.length = sizeofPcArmDataData) (hvalid : validate48byteCanPayload frame = true) :
    Admits state (enqueueNormalCanPayload frame state) := by
  have hhead : (PcArmDataData.ofBytes frame).head = pcStatusHead :=
    ((validate48byteCanPayload_iff frame).mp hvalid).1
  unfold enqueueNormalCanPayload
  dsimp only
  split
  · exact Admits.of_same hset rfl fun _ => rfl
  split
  · exact Admits.of_same hset rfl fun _ => rfl
  apply Admits.of_put hset ⟨hlen, hhead, rfl⟩ rfl
  intro c
  dsimp only
  split
  next h => simp [PacketOutcome.acceptedOn, h]
  next h => simp [PacketOutcome.acceptedOn, h]

theorem enqueueBroadcastPayload_admits {state : GatewayState}
    (hset : DataBufSet state.gDataBufSet) (targetCh : UInt8) (frames : List (List UInt8))
    (now : UInt64) : Admits state (enqueueBroadcastPayload targetCh frames now state) := by
  apply Admits.of_same hset rfl
  intro c
  unfold enqueueBroadcastPayload
  dsimp only
  split <;> rfl

-- A whole payload of one frame is that frame.
theorem slot_zero_of_length {payload : List UInt8} (h : payload.length = sizeofPcArmDataData) :
    slot payload sizeofPcArmDataData 0 = payload := by
  rw [slot, slice, Nat.zero_mul, List.drop_zero, ← h, List.take_length]

-- Everything the function can do: refuse the payload, or queue its only frame or all of them.
theorem process9012CanPayloadFrames_cases (payload : List UInt8) (packetChannel : UInt32)
    (now : UInt64) (state : GatewayState) {frames : List (List UInt8)}
    (hframes : (List.range (payload.length / sizeofPcArmDataData)).map
      (slot payload sizeofPcArmDataData) = frames) :
    let r := process9012CanPayloadFrames payload packetChannel now state
    r = (.refused einval none, state) ∨
    ((payload.length % sizeofPcArmDataData = 0 ∧ frames.length ≤ bcastMaxFramesPerGroup ∧
        ∀ frame ∈ frames, validate48byteCanPayload frame = true) ∧
      ((frames = [payload] ∧ payload.length = sizeofPcArmDataData ∧
          (PcArmDataData.ofBytes payload).type = 0x01 ∧
          r = enqueueNormalCanPayload payload state) ∨
        ((∀ frame ∈ frames, (PcArmDataData.ofBytes frame).type = 0x02) ∧
          packetChannel.toNat < axicanMax ∧
          r = enqueueBroadcastPayload packetChannel.toUInt8 frames now state))) := by
  intro r
  have hr : r = process9012CanPayloadFrames payload packetChannel now state := rfl
  have hlen : frames.length = payload.length / sizeofPcArmDataData := by
    rw [← hframes, List.length_map, List.length_range]
  have htypesOf : (∀ frame ∈ frames, (PcArmDataData.ofBytes frame).type = 0x02) ↔
      (frames.map fun frame => (PcArmDataData.ofBytes frame).type).all (· = 0x02) = true := by
    rw [List.all_map, List.all_eq_true]
    simp only [Function.comp_apply, decide_eq_true_eq]
  simp only [process9012CanPayloadFrames, hframes] at hr
  split at hr
  · exact Or.inl hr
  next hwhole =>
  split at hr
  · exact Or.inl hr
  next hcount =>
  split at hr
  · exact Or.inl hr
  next hall =>
  rw [not_not, List.all_eq_true] at hall
  have hvalid : payload.length % sizeofPcArmDataData = 0 ∧
      frames.length ≤ bcastMaxFramesPerGroup ∧
      ∀ frame ∈ frames, validate48byteCanPayload frame = true := by
    refine ⟨by omega, ?_, hall⟩
    rw [hlen]
    omega
  split at hr
  next hone =>
    -- a single frame, normal or to be broadcast
    have hpayload : payload.length = sizeofPcArmDataData := by
      unfold sizeofPcArmDataData at hone hwhole ⊢
      omega
    have hsingle : frames = [payload] := by
      rw [← hframes, hone]
      show [slot payload sizeofPcArmDataData 0] = _
      rw [slot_zero_of_length hpayload]
    rw [slot_zero_of_length hpayload] at hr
    split at hr
    next htype =>
      rw [hsingle, List.map_singleton, List.singleton_inj] at htype
      exact Or.inr ⟨hvalid, Or.inl ⟨hsingle, hpayload, htype, hr⟩⟩
    split at hr
    next htype =>
      split at hr
      · exact Or.inl hr
      next hchannel =>
        refine Or.inr ⟨hvalid, Or.inr ⟨htypesOf.mpr ?_, by omega, hr⟩⟩
        rw [htype]
        rfl
    · exact Or.inl hr
  split at hr
  · exact Or.inl hr
  next htypes =>
  split at hr
  · exact Or.inl hr
  next hchannel =>
    exact Or.inr ⟨hvalid, Or.inr ⟨htypesOf.mpr (not_not.mp htypes), by omega, hr⟩⟩

theorem process9012CanPayloadFrames_admits {state : GatewayState}
    (hset : DataBufSet state.gDataBufSet) (payload : List UInt8) (packetChannel : UInt32)
    (now : UInt64) :
    Admits state (process9012CanPayloadFrames payload packetChannel now state) := by
  obtain hr | ⟨⟨_, _, hall⟩, ⟨hsingle, hpayload, _, hr⟩ | ⟨_, _, hr⟩⟩ :=
    process9012CanPayloadFrames_cases payload packetChannel now state rfl
  · rw [hr]
    exact Admits.of_same hset rfl fun _ => rfl
  · rw [hr]
    rw [hsingle] at hall
    exact enqueueNormalCanPayload_admits hset hpayload (hall payload List.mem_cons_self)
  · rw [hr]
    exact enqueueBroadcastPayload_admits hset _ _ now

-- What the older route checked of normal data.
theorem downloadTarget_can {state : GatewayState} {packet : DataPacket} {canId : UInt8}
    (h : downloadTarget state packet = some (.can, canId)) :
    FrameFor canId (slice packet.payload 0 sizeofPcArmDataData) := by
  unfold downloadTarget at h
  dsimp only at h
  split at h
  case isFalse =>
    -- the other commands have other types
    split at h
    · split at h
      · cases h
      split at h
      · cases h
      split at h <;> cases h
    split at h
    · split at h <;> cases h
    split at h
    · split at h <;> cases h
    · cases h
  split at h
  · cases h
  next hlen =>
  split at h
  · cases h
  split at h
  · cases h
  next hhead =>
  split at h
  · cases h
  split at h
  · cases h
  have hslice : (slice packet.payload 0 sizeofPcArmDataData).length = sizeofPcArmDataData :=
    length_slice _ _ _ (by omega)
  have hsame : PcArmDataData.ofBytes (slice packet.payload 0 sizeofPcArmDataData) =
      PcArmDataData.ofBytes packet.payload := by
    have hsplit : packet.payload = slice packet.payload 0 sizeofPcArmDataData ++
        packet.payload.drop sizeofPcArmDataData := (List.take_append_drop _ _).symm
    rw [hsplit, PcArmDataData.ofBytes_append _ _ (Nat.le_of_eq hslice.symm), ← hsplit]
  simp only [Option.some.injEq, Prod.mk.injEq, true_and] at h
  refine ⟨hslice, ?_, ?_⟩
  · rw [hsame]
    exact not_not.mp hhead
  · rw [hsame, h]

theorem enqueueDownload_admits {state : GatewayState} (hset : DataBufSet state.gDataBufSet)
    (dataType : DataType) (canId : UInt8) (payload : List UInt8)
    (hcan : dataType = .can → FrameFor canId (slice payload 0 sizeofPcArmDataData)) :
    Admits state (enqueueDownload dataType canId payload state) := by
  cases dataType with
  | can =>
      unfold enqueueDownload enqueueChecked
      dsimp only
      split
      · exact Admits.of_same hset rfl fun _ => rfl
      have hframe := hcan rfl
      have hret := (ringbuffer32chPut_spec hset.wf canId 32 _
        (hframe.length_eq.trans hset.size.symm)).1
      apply Admits.of_put hset hframe rfl
      intro c
      rw [hret]
      cases (state.gDataBufSet.bank.put (32 : UInt8).toNat canId.toNat
        (slice payload 0 sizeofPcArmDataData)).1 with
      | true => simp [PacketOutcome.acceptedOn, successCode]
      | false => simp [PacketOutcome.acceptedOn, successCode]
  | simulator =>
      apply Admits.of_same hset rfl
      intro c
      unfold enqueueDownload
      dsimp only
      split <;> rfl
  | secondPulse =>
      apply Admits.of_same hset rfl
      intro c
      unfold enqueueDownload
      dsimp only
      split <;> rfl
  | dma => exact Admits.of_same hset rfl fun _ => rfl

-- Every packet, by either route.
theorem dispatchPacket_admits {state : GatewayState} (hset : DataBufSet state.gDataBufSet)
    (now : UInt64) (packet : DataPacket) : Admits state (dispatchPacket now state packet) := by
  unfold dispatchPacket
  split
  · exact process9012CanPayloadFrames_admits hset _ _ now
  split
  · exact Admits.of_same hset rfl fun _ => rfl
  next dataType canId htarget =>
    apply enqueueDownload_admits hset
    intro hcan
    rw [hcan] at htarget
    exact downloadTarget_can htarget

end CanGateway
