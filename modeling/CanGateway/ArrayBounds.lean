import CanGateway.DownloadDispatch
import CanGateway.Library.BoundedArray
import CanGateway.Simulator
import CanGateway.TransmitThread

/-!
# The arrays of the transmit and the simulator thread

The passes of the two threads once more, with every access of `frames`, `wait_cmd_frames` and
`send_data` checked.  From a well-formed state the checked pass succeeds and is the pass itself, so
no access is out of bounds; and well-formed states is all the threads reach.
-/

namespace CanGateway

/-! ## The packet buffer of the transmit thread -/

/-- `frames[sequence] = curr_frame` and the two updates behind it. -/
def PacketBuffer.storeChecked (pktBuf : PacketBuffer) (currFrame : PcArmDataData)
    (currentTime : Int) : Option PacketBuffer := do
  let frames ← BoundedArray.store pktBuf.frames currFrame.packetsNo.toUInt8.toNat currFrame
  return { pktBuf with
    frames := frames
    receivedPackets := pktBuf.receivedPackets + 1
    lastReceiveTime := currentTime }

/-- `handleMultiPacket` with checked accesses of `frames`. -/
def handleMultiPacketChecked (pktBuf : PacketBuffer) (currFrame : PcArmDataData)
    (currentTime : Int) : Option (TxExit × PacketBuffer) := do
  let sequence := currFrame.packetsNo.toUInt8
  let totalPackets := currFrame.packetsSum.toUInt8
  let pktBuf := pktBuf.expire currentTime
  if sequence = 0 ∧ (totalPackets ≤ 0 ∨ totalPackets > dequeueBatchSize1) then
    return (.illegalTotal, pktBuf)
  let pktBuf := if sequence = 0 then PacketBuffer.start totalPackets else pktBuf
  if ¬ pktBuf.isActive ∨ sequence ≥ pktBuf.totalPackets then return (.inactive, pktBuf)
  if sequence ≠ pktBuf.receivedPackets then return (.gap, .zero)
  let pktBuf ← pktBuf.storeChecked currFrame currentTime
  if pktBuf.receivedPackets = pktBuf.totalPackets then
    let frames ← BoundedArray.loadFirst pktBuf.frames pktBuf.totalPackets.toNat
    return (.burst frames, .zero)
  return (.stored, pktBuf)

/-- `axicanDataSendIteration` with checked accesses of `frames`. -/
def axicanDataSendChecked (canId : UInt8) (pktBuf : PacketBuffer)
    (dequeued : PcArmDataData × Int) : Option (TxExit × PacketBuffer) :=
  let (currFrame, currentTime) := dequeued
  if currFrame.head ≠ pcStatusHead then some (.invalidSyncWord, pktBuf)
  else if currFrame.chId ≠ canId then some (.channelMismatch, pktBuf)
  else if currFrame.packetsSum.toUInt8 = 1 then some (.single currFrame, pktBuf)
  else handleMultiPacketChecked pktBuf currFrame currentTime

/-- An active buffer with the first packets of a message. -/
structure PacketBuffer.Filling (pktBuf : PacketBuffer) : Prop where
  active : pktBuf.isActive = true
  total : 2 ≤ pktBuf.totalPackets.toNat ∧ pktBuf.totalPackets.toNat ≤ dequeueBatchSize1.toNat
  received : 1 ≤ pktBuf.receivedPackets.toNat ∧
    pktBuf.receivedPackets.toNat < pktBuf.totalPackets.toNat
  numbered : ∀ i < pktBuf.receivedPackets.toNat, ∃ frame, pktBuf.frames[i]? = some frame ∧
    frame.packetsNo.toNat % 256 = i % 256

/-- Ten entries; zeroed, or with a message under way. -/
structure PacketBuffer.WellFormed (pktBuf : PacketBuffer) : Prop where
  entries : pktBuf.frames.length = dequeueBatchSize1.toNat
  content : pktBuf = .zero ∨ pktBuf.Filling

section PacketBuffer

variable {canId : UInt8} {past : List (PcArmDataData × Int)} {pktBuf : PacketBuffer}

theorem PacketBuffer.length_zero : PacketBuffer.zero.frames.length = dequeueBatchSize1.toNat :=
  List.length_replicate

theorem Collecting.filling (h : Collecting canId past pktBuf) : pktBuf.Filling where
  active := h.active
  total := by
    have hpos := h.received_pos
    have hlt := h.received_lt
    exact ⟨by omega, h.total_le⟩
  received := ⟨h.received_pos, h.received_lt⟩
  numbered := by
    intro i hi
    have hlen : i < pktBuf.frames.length := by
      have hlt := h.received_lt
      have hle := h.total_le
      rw [h.length_eq]
      omega
    refine ⟨pktBuf.frames[i], List.getElem?_eq_getElem hlen, ?_⟩
    have htaken : (pktBuf.frames.take pktBuf.receivedPackets.toNat)[i]? =
        some pktBuf.frames[i] := by
      rw [List.getElem?_take_of_lt hi, List.getElem?_eq_getElem hlen]
    have hno := h.collected.numbered i _ htaken
    rw [UInt16.toNat_toUInt8] at hno
    have hsmall : i < 256 := by
      rw [← hno]
      exact Nat.mod_lt _ (by decide)
    rw [Nat.mod_eq_of_lt hsmall]
    exact hno

theorem PacketBuffer.Inv.wellFormed (h : pktBuf.Inv canId past) : pktBuf.WellFormed := by
  rcases h with rfl | h
  · exact ⟨PacketBuffer.length_zero, Or.inl rfl⟩
  · exact ⟨h.length_eq, Or.inr h.filling⟩

-- What the pass needs of the buffer it stores into.
theorem PacketBuffer.WellFormed.total_le (h : pktBuf.WellFormed) :
    pktBuf.totalPackets.toNat ≤ pktBuf.frames.length := by
  rw [h.entries]
  rcases h.content with rfl | hfilling
  · decide
  · exact hfilling.total.2

theorem PacketBuffer.WellFormed.expire (h : pktBuf.WellFormed) (now : Int) :
    (pktBuf.expire now).WellFormed := by
  rw [PacketBuffer.expire]
  split
  · exact ⟨PacketBuffer.length_zero, Or.inl rfl⟩
  · exact h

theorem PacketBuffer.storeChecked_eq {frame : PcArmDataData}
    (h : frame.packetsNo.toUInt8.toNat < pktBuf.frames.length) (now : Int) :
    pktBuf.storeChecked frame now = some (pktBuf.store frame now) := by
  rw [PacketBuffer.storeChecked, BoundedArray.store_of_lt h]
  rfl

-- Both accesses are below `total_packets`, which is no more than the number of entries.
theorem handleMultiPacketChecked_eq (h : pktBuf.WellFormed) (frame : PcArmDataData) (now : Int) :
    handleMultiPacketChecked pktBuf frame now = some (handleMultiPacket pktBuf frame now) := by
  have hexp := (h.expire now).total_le
  unfold handleMultiPacketChecked handleMultiPacket
  generalize pktBuf.expire now = buf at hexp
  dsimp only
  by_cases hill : frame.packetsNo.toUInt8 = 0 ∧
      (frame.packetsSum.toUInt8 ≤ 0 ∨ frame.packetsSum.toUInt8 > dequeueBatchSize1)
  · rw [if_pos hill, if_pos hill]
    rfl
  rw [if_neg hill, if_neg hill]
  have hroom : (if frame.packetsNo.toUInt8 = 0 then PacketBuffer.start frame.packetsSum.toUInt8
      else buf).totalPackets.toNat ≤ (if frame.packetsNo.toUInt8 = 0 then
        PacketBuffer.start frame.packetsSum.toUInt8 else buf).frames.length := by
    split
    next hno =>
      have hle : ¬ frame.packetsSum.toUInt8 > dequeueBatchSize1 :=
        fun hgt => hill ⟨hno, Or.inr hgt⟩
      rw [gt_iff_lt, UInt8.lt_iff_toNat_lt, Nat.not_lt] at hle
      show frame.packetsSum.toUInt8.toNat ≤ PacketBuffer.zero.frames.length
      rw [PacketBuffer.length_zero]
      exact hle
    · exact hexp
  generalize (if frame.packetsNo.toUInt8 = 0 then PacketBuffer.start frame.packetsSum.toUInt8
    else buf) = buf at hroom
  by_cases hout : ¬ buf.isActive = true ∨ frame.packetsNo.toUInt8 ≥ buf.totalPackets
  · rw [if_pos hout, if_pos hout]
    rfl
  rw [if_neg hout, if_neg hout]
  by_cases hgap : frame.packetsNo.toUInt8 ≠ buf.receivedPackets
  · rw [if_pos hgap, if_pos hgap]
    rfl
  rw [if_neg hgap, if_neg hgap]
  have hindex : frame.packetsNo.toUInt8.toNat < buf.frames.length := by
    have hlt : ¬ frame.packetsNo.toUInt8 ≥ buf.totalPackets := fun hge => hout (Or.inr hge)
    rw [ge_iff_le, UInt8.le_iff_toNat_le] at hlt
    omega
  have hread : (buf.store frame now).totalPackets.toNat ≤
      (buf.store frame now).frames.length := by
    show buf.totalPackets.toNat ≤ (buf.frames.set _ frame).length
    rw [List.length_set]
    exact hroom
  rw [PacketBuffer.storeChecked_eq hindex]
  by_cases hfull : (buf.store frame now).receivedPackets = (buf.store frame now).totalPackets
  · rw [if_pos hfull]
    simp only [Option.bind_eq_bind, Option.bind_some, if_pos hfull,
      BoundedArray.loadFirst_of_le hread]
    rfl
  · rw [if_neg hfull]
    simp only [Option.bind_eq_bind, Option.bind_some, if_neg hfull]
    rfl

theorem axicanDataSendChecked_eq (h : pktBuf.WellFormed) (dequeued : PcArmDataData × Int) :
    axicanDataSendChecked canId pktBuf dequeued =
      some (axicanDataSendIteration canId pktBuf dequeued) := by
  obtain ⟨frame, now⟩ := dequeued
  simp only [axicanDataSendChecked, axicanDataSendIteration]
  rw [handleMultiPacketChecked_eq h]
  split
  · rfl
  split
  · rfl
  split
  · rfl
  · rfl

end PacketBuffer

/-- **The reassembly buffer stays well formed and in bounds.**  After any passes the buffer is
    zeroed or holds the first packets of a message, and the next pass, whatever it dequeues, makes
    no access outside the entries of `frames`. -/
theorem reassembly_well_formed (canId : UInt8) (dequeued : List (PcArmDataData × Int)) :
    (txRun canId dequeued).2.WellFormed ∧
      ∀ next, axicanDataSendChecked canId (txRun canId dequeued).2 next =
        some (axicanDataSendIteration canId (txRun canId dequeued).2 next) := by
  have hwf := (txRun_inv canId dequeued).wellFormed
  exact ⟨hwf, fun next => axicanDataSendChecked_eq hwf next⟩

/-! ## The arrays of the simulator thread -/

/-- `process_and_send_response` with checked reads of `send_data`. -/
def processAndSendResponseChecked (matchFrame : PcArmSimulatorData) : Option (List AxicanFrame) :=
  (List.range (matchFrame.sendLen.toNat / canFrameDataLen)).mapM fun frameIdx => do
    let bytes ← BoundedArray.loadSlice matchFrame.sendData (frameIdx * 16) 16
    return AxicanFrame.ofBytes (bytes ++ List.replicate 8 0)

/-- `wait_cmd_frames[wait_frame_count++] = *current_frame`, checked. -/
def AlongState.cacheChecked (s : AlongState) (frame : AxicanFrame) : Option AlongState := do
  let waitCmdFrames ← BoundedArray.store s.waitCmdFrames s.waitFrameCount frame
  return { s with
    waitCmdFrames := waitCmdFrames
    waitFrameCount := s.waitFrameCount + 1 }

/-- `alongWaiting` with checked accesses. -/
def alongWaitingChecked (canId : UInt8) (s : AlongState) (frame : AxicanFrame) :
    Option (List AlongEvent × AlongState) := do
  let s ← s.cacheChecked frame
  if s.waitFrameCount ≥ s.targetWaitFrames then
    let response ← match s.matchedSimFrame with
      | some record => (processAndSendResponseChecked record).map fun written =>
          [AlongEvent.response canId record written]
      | none => some []
    let reported ← BoundedArray.loadFirst s.waitCmdFrames s.waitFrameCount
    return (.cached frame :: (response ++ reported.map (.report canId 0x83 1)), .initial)
  return ([.cached frame], s)

/-- `alongMatching` with checked accesses. -/
def alongMatchingChecked (table : List PcArmSimulatorData) (canId : UInt8) (s : AlongState)
    (frame : AxicanFrame) : Option (List AlongEvent × AlongState) := do
  let s := { s with targetWaitFrames := 0, matchedSimFrame := none }
  match table.find? (alongMatches frame) with
  | none => return ([.compared frame], s)
  | some record =>
      let targetWaitFrames := determineResponseFrames (some record)
      let s := { s with targetWaitFrames := targetWaitFrames, matchedSimFrame := some record }
      if targetWaitFrames = 0 then
        let written ← processAndSendResponseChecked record
        return ([.compared frame, .report canId 0x83 1 frame, .response canId record written], s)
      else if targetWaitFrames > 0 ∧ targetWaitFrames ≤ maxWaitFrames then
        let s ← s.cacheChecked frame
        return ([.compared frame], { s with isWaiting := true })
      else return ([.compared frame], s)

/-- `processDequeueBatch` with checked accesses. -/
def processDequeueBatchChecked (table : List PcArmSimulatorData) (canId : UInt8) :
    List AxicanFrame → AlongState → Option (List AlongEvent × AlongState)
  | [], s => some ([], s)
  | frame :: rest, s =>
      if s.isWaiting then alongWaitingChecked canId s frame
      else do
        let r ← alongMatchingChecked table canId s frame
        let r' ← processDequeueBatchChecked table canId rest r.2
        return (r.1 ++ r'.1, r'.2)

/-- `send_data` has its 256 bytes, and `send_len` is no more: what the parser of port 9012 lets
    through. -/
def PcArmSimulatorData.FitsSendData (record : PcArmSimulatorData) : Prop :=
  record.sendData.length = sizeofSendData ∧ record.sendLen.toNat ≤ sizeofSendData

theorem fitsSendData_of_downloadTarget {state : GatewayState} {packet : DataPacket} {ch : UInt8}
    (h : downloadTarget state packet = some (.simulator, ch)) :
    (PcArmSimulatorData.ofBytes packet.payload).FitsSendData := by
  have hlen : sizeofPcArmSimulatorData ≤ packet.payload.length ∧
      (PcArmSimulatorData.ofBytes packet.payload).sendLen.toNat ≤ sizeofSendData := by
    grind [downloadTarget]
  refine ⟨?_, hlen.2⟩
  show (ByteMemory.slice packet.payload 32 sizeofSendData).length = sizeofSendData
  have hsize : sizeofPcArmSimulatorData = 32 + sizeofSendData := rfl
  rw [ByteMemory.length_slice]
  omega

/-- The waiting state as it should be. -/
structure AlongState.WellFormed (table : List PcArmSimulatorData) (s : AlongState) : Prop where
  idle : s.isWaiting = false → s.waitFrameCount = 0
  matched : s.isWaiting = true → ∃ record ∈ table, s.matchedSimFrame = some record
  target : s.isWaiting = true → 1 ≤ s.targetWaitFrames ∧ s.targetWaitFrames ≤ maxWaitFrames
  count : s.isWaiting = true → 1 ≤ s.waitFrameCount ∧ s.waitFrameCount ≤ maxWaitFrames

/-- What every step keeps: behind the first cached frame the count stays below the target. -/
structure AlongState.Bounded (table : List PcArmSimulatorData) (s : AlongState) : Prop where
  inv : s.Inv
  matched : s.isWaiting = true → ∃ record ∈ table, s.matchedSimFrame = some record
  target : s.isWaiting = true → 1 ≤ s.targetWaitFrames ∧ s.targetWaitFrames ≤ maxWaitFrames
  count : s.isWaiting = true → s.waitFrameCount = 1 ∨
    (1 < s.waitFrameCount ∧ s.waitFrameCount < s.targetWaitFrames)

section Simulator

variable {table : List PcArmSimulatorData} {canId : UInt8} {s : AlongState} {frame : AxicanFrame}

theorem AlongState.bounded_initial : AlongState.initial.Bounded table where
  inv := AlongState.inv_initial
  matched h := absurd h Bool.false_ne_true
  target h := absurd h Bool.false_ne_true
  count h := absurd h Bool.false_ne_true

theorem AlongState.Bounded.wellFormed (h : s.Bounded table) : s.WellFormed table where
  idle := h.inv.idle
  matched := h.matched
  target := h.target
  count hw := by
    have htarget := (h.target hw).2
    have hcount := h.count hw
    have hsix : maxWaitFrames = 6 := rfl
    omega

-- The entry a frame is cached in exists.
theorem AlongState.Bounded.room (h : s.Bounded table) :
    s.waitFrameCount < s.waitCmdFrames.length := by
  have hsix : maxWaitFrames = 6 := rfl
  rw [h.inv.length_eq]
  cases hw : s.isWaiting with
  | true =>
      have htarget := (h.target hw).2
      have hcount := h.count hw
      omega
  | false =>
      rw [h.inv.idle hw]
      decide

theorem AlongState.cacheChecked_eq (h : s.waitFrameCount < s.waitCmdFrames.length) :
    s.cacheChecked frame = some (s.cache frame) := by
  rw [AlongState.cacheChecked, BoundedArray.store_of_lt h]
  rfl

-- A state that is not waiting is bounded, whatever it last matched.
theorem AlongState.Bounded.idle_with (h : s.Bounded table) (hw : s.isWaiting = false)
    (target : Int) (matched : Option PcArmSimulatorData) :
    { s with targetWaitFrames := target, matchedSimFrame := matched }.Bounded table where
  inv := ⟨h.inv.length_eq, h.inv.idle⟩
  matched hwait := absurd (hw.symm.trans hwait) Bool.false_ne_true
  target hwait := absurd (hw.symm.trans hwait) Bool.false_ne_true
  count hwait := absurd (hw.symm.trans hwait) Bool.false_ne_true

-- The step lemma: a frame in either case of the loop body.
theorem alongFrame_bounded (s : AlongState) (frame : AxicanFrame) (h : s.Bounded table) :
    (alongFrame table canId s frame).2.Bounded table := by
  have hinv : (alongFrame table canId s frame).2.Inv := alongFrame_inv s frame h.inv
  cases hw : s.isWaiting with
  | true =>
      have hz := AlongState.pending_of_waiting hw
      rw [alongFrame, if_pos hw] at hinv ⊢
      by_cases hp : 1 < s.pending
      · rw [alongWaiting_more hw hp] at hinv ⊢
        refine ⟨hinv, h.matched, h.target, ?_⟩
        intro _
        have hcount := h.count hw
        rw [AlongState.pending, if_pos hw] at hp
        show s.waitFrameCount + 1 = 1 ∨ (1 < s.waitFrameCount + 1 ∧
          ((s.waitFrameCount + 1 : Nat) : Int) < s.targetWaitFrames)
        omega
      · rw [alongWaiting_last hw (by omega)]
        exact AlongState.bounded_initial
  | false =>
      rw [alongFrame, if_neg (Bool.eq_false_iff.mp hw)] at hinv ⊢
      rcases alongMatching_cases table canId s frame with
        ⟨_, heq⟩ | ⟨record, hfind, ⟨_, heq⟩ | ⟨htarget, heq⟩ | ⟨_, _, heq⟩⟩
      · rw [heq]
        exact h.idle_with hw 0 none
      · rw [heq]
        exact h.idle_with hw 0 (some record)
      · rw [heq] at hinv ⊢
        refine ⟨hinv, ?_, ?_, ?_⟩
        · exact fun _ => ⟨record, List.mem_of_find?_eq_some hfind, rfl⟩
        · exact fun _ => htarget
        · intro _
          left
          show s.waitFrameCount + 1 = 1
          rw [h.inv.idle hw]
      · rw [heq]
        exact h.idle_with hw _ _

theorem AlongReachable.bounded (h : AlongReachable table canId s) : s.Bounded table := by
  obtain ⟨batches, rfl⟩ := h
  rw [alongRun_eq]
  exact Batching.batches_invariant alongFrame_bounded batches _ AlongState.bounded_initial

-- The last frame of a response ends within `send_len`.
theorem processAndSendResponseChecked_eq {record : PcArmSimulatorData}
    (h : record.FitsSendData) :
    processAndSendResponseChecked record = some (processAndSendResponse record) := by
  rw [processAndSendResponseChecked, processAndSendResponse]
  apply BoundedArray.mapM_eq_some
  intro frameIdx hmem
  have hlt : frameIdx < record.sendLen.toNat / canFrameDataLen := List.mem_range.mp hmem
  have hend : frameIdx * 16 + 16 ≤ record.sendData.length := by
    have hsixteen : canFrameDataLen = 16 := rfl
    have hlen := h.1
    have hle := h.2
    rw [hsixteen] at hlt
    omega
  rw [BoundedArray.loadSlice_of_le hend]
  rfl

theorem alongWaitingChecked_eq (hfits : ∀ record ∈ table, record.FitsSendData)
    (h : s.Bounded table) (hw : s.isWaiting = true) :
    alongWaitingChecked canId s frame = some (alongWaiting canId s frame) := by
  obtain ⟨record, hmem, hmatched⟩ := h.matched hw
  have hread : (s.cache frame).waitFrameCount ≤ (s.cache frame).waitCmdFrames.length := by
    show s.waitFrameCount + 1 ≤ (s.waitCmdFrames.set _ frame).length
    rw [List.length_set]
    exact h.room
  have hmatched' : (s.cache frame).matchedSimFrame = some record := hmatched
  rw [alongWaitingChecked, alongWaiting, AlongState.cacheChecked_eq h.room]
  simp only [Option.bind_eq_bind, Option.bind_some, hmatched']
  by_cases hdone : (s.cache frame).waitFrameCount ≥ (s.cache frame).targetWaitFrames
  · rw [if_pos hdone, if_pos hdone, processAndSendResponseChecked_eq (hfits record hmem),
      BoundedArray.loadFirst_of_le hread]
    rfl
  · rw [if_neg hdone, if_neg hdone]
    rfl

theorem alongMatchingChecked_eq (hfits : ∀ record ∈ table, record.FitsSendData)
    (h : s.Bounded table) :
    alongMatchingChecked table canId s frame = some (alongMatching table canId s frame) := by
  unfold alongMatchingChecked alongMatching
  cases hfind : table.find? (alongMatches frame) with
  | none => rfl
  | some record =>
      have hmem := List.mem_of_find?_eq_some hfind
      dsimp only
      split
      · rw [processAndSendResponseChecked_eq (hfits record hmem)]
        rfl
      split
      · rw [AlongState.cacheChecked_eq (by exact h.room)]
        rfl
      · rfl

-- The whole batch, by induction on its frames.
theorem processDequeueBatchChecked_eq (hfits : ∀ record ∈ table, record.FitsSendData)
    (batch : List AxicanFrame) (h : s.Bounded table) :
    processDequeueBatchChecked table canId batch s =
      some (processDequeueBatch table canId batch s) := by
  induction batch generalizing s with
  | nil => rfl
  | cons frame rest ih =>
      rw [processDequeueBatchChecked, processDequeueBatch]
      cases hw : s.isWaiting with
      | true =>
          rw [if_pos rfl, if_pos rfl]
          exact alongWaitingChecked_eq hfits h hw
      | false =>
          have hnext : (alongFrame table canId s frame).2.Bounded table :=
            alongFrame_bounded s frame h
          rw [alongFrame, if_neg (Bool.eq_false_iff.mp hw)] at hnext
          rw [if_neg Bool.false_ne_true, if_neg Bool.false_ne_true,
            alongMatchingChecked_eq hfits h]
          simp only [Option.bind_eq_bind, Option.bind_some, ih hnext]
          rfl

end Simulator

/-- **The waiting state stays well formed and in bounds.**  With a table of records whose `send_len`
    fits, every state the thread reaches is well formed, and the next batch, whatever its frames,
    makes no access outside `wait_cmd_frames` or `send_data`. -/
theorem waiting_state_well_formed (table : List PcArmSimulatorData) (canId : UInt8)
    (hfits : ∀ record ∈ table, record.FitsSendData) (s : AlongState)
    (hs : AlongReachable table canId s) :
    s.WellFormed table ∧
      ∀ batch, processDequeueBatchChecked table canId batch s =
        some (processDequeueBatch table canId batch s) :=
  ⟨hs.bounded.wellFormed, fun batch => processDequeueBatchChecked_eq hfits batch hs.bounded⟩

-- In the middle of an exchange of five followers.
theorem waiting_state_well_formed_midway :
    (alongRun [recordOfLen 48] 0 [[commandFrame 0], [commandFrame 1]] .initial).2.WellFormed
      [recordOfLen 48] := by
  have hfits : ∀ record ∈ [recordOfLen 48], record.FitsSendData := by
    intro record hmem
    rw [List.mem_singleton.mp hmem]
    exact ⟨List.length_replicate, by decide⟩
  exact (waiting_state_well_formed [recordOfLen 48] 0 hfits _
    ⟨[[commandFrame 0], [commandFrame 1]], rfl⟩).1

end CanGateway
