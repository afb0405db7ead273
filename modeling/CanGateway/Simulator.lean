import CanGateway.ChannelSet
import CanGateway.Library.Batching
import CanGateway.Wire

/-!
# The stand-alone simulator thread

`along_data_tid_thread` answers command frames from a table of preloaded records.  A record may ask
for several command frames: the thread then caches frames (`is_waiting`) until it replies.  The loop
over a dequeued batch is modelled with its `break`; the reports and replies it makes are events.
-/

open ByteMemory

namespace CanGateway

/-- `DEQUEUE_BATCH_SIZE`. -/
def dequeueBatchSize : Nat := 32
/-- `MAX_WAIT_FRAMES`. -/
def maxWaitFrames : Nat := 6
/-- `CAN_FRAME_DATA_LEN`. -/
def canFrameDataLen : Nat := 16

/-! ## One frame -/

def determineResponseFrames (frame : Option PcArmSimulatorData) : Int :=
  match frame with
  | none => 0
  | some frame => (frame.rcvLen.toNat / 8 : Nat) - 1

/-- The frames `process_and_send_response` writes to the CAN device: 16 bytes of `send_data` each,
    the rest zero.  The clock's timestamp is left out. -/
def processAndSendResponse (matchFrame : PcArmSimulatorData) : List AxicanFrame :=
  (List.range (matchFrame.sendLen.toNat / canFrameDataLen)).map fun frameIdx =>
    AxicanFrame.ofBytes (slice matchFrame.sendData (frameIdx * 16) 16 ++ List.replicate 8 0)

/-- What the thread does with a frame. -/
inductive AlongEvent where
  /-- The frame is compared with the record table. -/
  | compared (frame : AxicanFrame)
  /-- The frame is cached for a pending exchange. -/
  | cached (frame : AxicanFrame)
  /-- `send_can_transmit_response(can_id, type, status, frame)`. -/
  | report (canId : UInt8) (type status : UInt8) (frame : AxicanFrame)
  /-- `process_and_send_response` for a record, with the CAN frames it writes. -/
  | response (canId : UInt8) (record : PcArmSimulatorData) (written : List AxicanFrame)
  deriving DecidableEq

/-- The thread's variables that live from one loop pass to the next. -/
structure AlongState where
  isWaiting : Bool
  waitFrameCount : Nat
  targetWaitFrames : Int
  matchedSimFrame : Option PcArmSimulatorData
  waitCmdFrames : List AxicanFrame
  deriving DecidableEq

/-- The state before the first pass, restored when an exchange is complete. -/
def AlongState.initial : AlongState :=
  ⟨false, 0, 0, none, List.replicate maxWaitFrames default⟩

/-- `wait_cmd_frames[wait_frame_count++] = *current_frame`. -/
def AlongState.cache (s : AlongState) (frame : AxicanFrame) : AlongState :=
  { s with
    waitCmdFrames := s.waitCmdFrames.set s.waitFrameCount frame
    waitFrameCount := s.waitFrameCount + 1 }

/-- A frame received while an exchange is pending. -/
def alongWaiting (canId : UInt8) (s : AlongState) (frame : AxicanFrame) :
    List AlongEvent × AlongState :=
  let s := s.cache frame
  if s.waitFrameCount ≥ s.targetWaitFrames then
    let response := match s.matchedSimFrame with
      | some record => [.response canId record (processAndSendResponse record)]
      | none => []
    let reports := (s.waitCmdFrames.take s.waitFrameCount).map (.report canId 0x83 1)
    (.cached frame :: (response ++ reports), .initial)
  else ([.cached frame], s)

/-- The CAN ID (high 11 bits) and the first data word agree. -/
def alongMatches (frame : AxicanFrame) (record : PcArmSimulatorData) : Bool :=
  (frame.canId >>> 21) &&& 0x7FF == record.canId && frame.data0 == record.dataType

/-- A frame received while no exchange is pending. -/
def alongMatching (table : List PcArmSimulatorData) (canId : UInt8) (s : AlongState)
    (frame : AxicanFrame) : List AlongEvent × AlongState :=
  let s := { s with targetWaitFrames := 0, matchedSimFrame := none }
  match table.find? (alongMatches frame) with
  | none => ([.compared frame], s)
  | some record =>
      let targetWaitFrames := determineResponseFrames (some record)
      let s := { s with targetWaitFrames := targetWaitFrames, matchedSimFrame := some record }
      if targetWaitFrames = 0 then
        ([.compared frame, .report canId 0x83 1 frame,
          .response canId record (processAndSendResponse record)], s)
      else if targetWaitFrames > 0 ∧ targetWaitFrames ≤ maxWaitFrames then
        ([.compared frame], { s.cache frame with isWaiting := true })
      else ([.compared frame], s)

/-! ## One loop pass -/

/-- The loop over the frames of one dequeued batch. -/
def processDequeueBatch (table : List PcArmSimulatorData) (canId : UInt8) :
    List AxicanFrame → AlongState → List AlongEvent × AlongState
  | [], s => ([], s)
  | frame :: rest, s =>
      -- `break`: the rest of the batch is not looked at.
      if s.isWaiting then alongWaiting canId s frame
      else
        let r := alongMatching table canId s frame
        let r' := processDequeueBatch table canId rest r.2
        (r.1 ++ r'.1, r'.2)

/-- `n` calls of `ringbuffer_32ch_get`, up to the first that fails. -/
def dequeueFrames (canId : UInt8) : Nat → RingBuffer32ChSet → List AxicanFrame × RingBuffer32ChSet
  | 0, set => ([], set)
  | n + 1, set =>
      let r := ringbuffer32chGet set canId (some (List.replicate sizeofAxicanFrame 0)) 6
      if r.1 = 1 then
        let r' := dequeueFrames canId n r.2.2
        (AxicanFrame.ofBytes (r.2.1.getD []) :: r'.1, r'.2)
      else ([], r.2.2)

/-- One pass of the main loop over `g_can_buf_set`. -/
def alongPass (table : List PcArmSimulatorData) (canId : UInt8) (set : RingBuffer32ChSet)
    (s : AlongState) : List AlongEvent × AlongState × RingBuffer32ChSet :=
  let dataCounter := (ringbuffer32chLen set canId 6).toNat
  let r := dequeueFrames canId (min dataCounter dequeueBatchSize) set
  let r' := processDequeueBatch table canId r.1 s
  (r'.1, r'.2, r.2)

/-- Successive passes, one batch each. -/
def alongRun (table : List PcArmSimulatorData) (canId : UInt8) :
    List (List AxicanFrame) → AlongState → List AlongEvent × AlongState
  | [], s => ([], s)
  | batch :: rest, s =>
      let r := processDequeueBatch table canId batch s
      let r' := alongRun table canId rest r.2
      (r.1 ++ r'.1, r'.2)

/-! ## The thread as a machine fed in batches -/

section Machine

variable (table : List PcArmSimulatorData) (canId : UInt8)

/-- One frame in either case of the loop body. -/
def alongFrame (s : AlongState) (frame : AxicanFrame) : List AlongEvent × AlongState :=
  if s.isWaiting then alongWaiting canId s frame else alongMatching table canId s frame

theorem processDequeueBatch_eq (batch : List AxicanFrame) (s : AlongState) :
    processDequeueBatch table canId batch s =
      Batching.batch (alongFrame table canId) AlongState.isWaiting batch s := by
  induction batch generalizing s with
  | nil => rfl
  | cons frame rest ih =>
      rw [processDequeueBatch, Batching.batch, alongFrame]
      cases s.isWaiting with
      | true => rfl
      | false =>
          simp only [Bool.false_eq_true, if_false]
          rw [ih]

theorem alongRun_eq (batches : List (List AxicanFrame)) (s : AlongState) :
    alongRun table canId batches s =
      Batching.batches (alongFrame table canId) AlongState.isWaiting batches s := by
  induction batches generalizing s with
  | nil => rfl
  | cons batch rest ih =>
      rw [alongRun, Batching.batches, processDequeueBatch_eq]
      simp only [ih]

theorem alongRun_singletons (frames : List AxicanFrame) (s : AlongState) :
    alongRun table canId (frames.map fun frame => [frame]) s =
      Batching.stream (alongFrame table canId) frames s := by
  rw [alongRun_eq, Batching.batches_singletons]

/-! ### The frames an exchange still takes -/

namespace AlongState

/-- How many more frames the pending exchange takes; 0 when none is pending. -/
def pending (s : AlongState) : Nat :=
  if s.isWaiting then (max 1 (s.targetWaitFrames - s.waitFrameCount)).toNat else 0

/-- The cache has its six entries, and none is in use outside an exchange. -/
structure Inv (s : AlongState) : Prop where
  length_eq : s.waitCmdFrames.length = maxWaitFrames
  idle : s.isWaiting = false → s.waitFrameCount = 0

theorem inv_initial : initial.Inv := ⟨List.length_replicate, fun _ => rfl⟩

theorem isWaiting_iff_pending (s : AlongState) : s.isWaiting = (s.pending != 0) := by
  unfold pending
  cases s.isWaiting with
  | true =>
      simp only [if_true]
      symm
      rw [bne_iff_ne]
      omega
  | false => rfl

/-- The exchange a matching frame opens. -/
def opened (s : AlongState) (frame : AxicanFrame) (record : PcArmSimulatorData) : AlongState :=
  { s.cache frame with
    isWaiting := true
    targetWaitFrames := determineResponseFrames (some record)
    matchedSimFrame := some record }

theorem pending_opened {s : AlongState} (hz : s.waitFrameCount = 0) (frame : AxicanFrame)
    (record : PcArmSimulatorData) :
    (s.opened frame record).pending =
      (max 1 (determineResponseFrames (some record) - 1)).toNat := by
  have hw : (s.opened frame record).isWaiting = true := rfl
  rw [pending, if_pos hw]
  show (max 1 (determineResponseFrames (some record) -
    ((s.waitFrameCount + 1 : Nat) : Int))).toNat = _
  rw [hz]
  rfl

theorem Inv.cache {s : AlongState} (h : s.Inv) (frame : AxicanFrame) :
    (s.cache frame).waitCmdFrames.length = maxWaitFrames := by
  show (s.waitCmdFrames.set _ frame).length = _
  rw [List.length_set, h.length_eq]

-- The cache of an exchange after its first follower.
theorem Inv.cached_two {s : AlongState} (h : s.Inv) (hw : s.isWaiting = false)
    (frame next : AxicanFrame) (record : PcArmSimulatorData) :
    ((s.opened frame record).cache next).waitCmdFrames.take
      ((s.opened frame record).waitFrameCount + 1) = [frame, next] := by
  show ((s.waitCmdFrames.set s.waitFrameCount frame).set (s.waitFrameCount + 1) next).take
    (s.waitFrameCount + 1 + 1) = [frame, next]
  rw [h.idle hw]
  match hc : s.waitCmdFrames, h.length_eq with
  | _ :: _ :: _, _ => rfl

end AlongState

/-- The followers a frame calls for when no exchange is pending. -/
def exchangeFollowers (frame : AxicanFrame) : Nat :=
  match table.find? (alongMatches frame) with
  | none => 0
  | some record =>
      let target := determineResponseFrames (some record)
      if 0 < target ∧ target ≤ maxWaitFrames then (max 1 (target - 1)).toNat else 0

/-- The followers still to come after a frame, counted over the stream of frames alone. -/
def pendingAfter (k : Nat) (frame : AxicanFrame) : Nat :=
  if k = 0 then exchangeFollowers table frame else k - 1

variable {table canId}

-- The last follower of an exchange completes it.
theorem alongWaiting_last {s : AlongState} (hw : s.isWaiting = true) (hp : s.pending = 1)
    (frame : AxicanFrame) :
    alongWaiting canId s frame =
      (.cached frame :: ((match s.matchedSimFrame with
        | some record => [.response canId record (processAndSendResponse record)]
        | none => []) ++
          ((s.cache frame).waitCmdFrames.take (s.waitFrameCount + 1)).map (.report canId 0x83 1)),
        .initial) := by
  have hdone : (s.cache frame).waitFrameCount ≥ (s.cache frame).targetWaitFrames := by
    show ((s.waitFrameCount + 1 : Nat) : Int) ≥ s.targetWaitFrames
    rw [AlongState.pending, if_pos hw] at hp
    omega
  simp only [alongWaiting, if_pos hdone]
  rfl

-- An earlier follower is only cached.
theorem alongWaiting_more {s : AlongState} (hw : s.isWaiting = true) (hp : 1 < s.pending)
    (frame : AxicanFrame) : alongWaiting canId s frame = ([.cached frame], s.cache frame) := by
  have hmore : ¬ (s.cache frame).waitFrameCount ≥ (s.cache frame).targetWaitFrames := by
    show ¬ ((s.waitFrameCount + 1 : Nat) : Int) ≥ s.targetWaitFrames
    rw [AlongState.pending, if_pos hw] at hp
    omega
  simp only [alongWaiting, if_neg hmore]

theorem pending_cache {s : AlongState} (hw : s.isWaiting = true) (hp : 1 < s.pending)
    (frame : AxicanFrame) : (s.cache frame).pending = s.pending - 1 := by
  have hw' : (s.cache frame).isWaiting = true := hw
  rw [AlongState.pending, if_pos hw] at hp
  rw [AlongState.pending, if_pos hw', AlongState.pending, if_pos hw]
  show (max 1 (s.targetWaitFrames - ((s.waitFrameCount + 1 : Nat) : Int))).toNat = _
  omega

variable (table canId) in
-- Everything a frame can do when no exchange is pending.
theorem alongMatching_cases (s : AlongState) (frame : AxicanFrame) :
    (table.find? (alongMatches frame) = none ∧
      alongMatching table canId s frame =
        ([.compared frame], { s with targetWaitFrames := 0, matchedSimFrame := none })) ∨
    ∃ record, table.find? (alongMatches frame) = some record ∧
      ((determineResponseFrames (some record) = 0 ∧
        alongMatching table canId s frame =
          ([.compared frame, .report canId 0x83 1 frame,
            .response canId record (processAndSendResponse record)],
            { s with targetWaitFrames := 0, matchedSimFrame := some record })) ∨
      ((0 < determineResponseFrames (some record) ∧
        determineResponseFrames (some record) ≤ maxWaitFrames) ∧
        alongMatching table canId s frame =
          ([.compared frame], s.opened frame record)) ∨
      (¬ determineResponseFrames (some record) = 0 ∧
        ¬ (0 < determineResponseFrames (some record) ∧
          determineResponseFrames (some record) ≤ maxWaitFrames) ∧
        alongMatching table canId s frame =
          ([.compared frame],
            { s with
              targetWaitFrames := determineResponseFrames (some record)
              matchedSimFrame := some record }))) := by
  unfold alongMatching
  cases table.find? (alongMatches frame) with
  | none => exact Or.inl ⟨rfl, rfl⟩
  | some record =>
      refine Or.inr ⟨record, rfl, ?_⟩
      by_cases h0 : determineResponseFrames (some record) = 0
      · refine Or.inl ⟨h0, ?_⟩
        simp only [if_pos h0]
        rw [h0]
      · by_cases ht : 0 < determineResponseFrames (some record) ∧
          determineResponseFrames (some record) ≤ maxWaitFrames
        · refine Or.inr (Or.inl ⟨ht, ?_⟩)
          simp only [if_neg h0, gt_iff_lt, if_pos ht]
          rfl
        · refine Or.inr (Or.inr ⟨h0, ht, ?_⟩)
          simp only [if_neg h0, gt_iff_lt, if_neg ht]

theorem AlongState.pending_of_idle {s : AlongState} (h : s.isWaiting = false) : s.pending = 0 := by
  rw [AlongState.pending, h]
  rfl

theorem AlongState.pending_of_waiting {s : AlongState} (h : s.isWaiting = true) :
    s.pending ≠ 0 := by
  have hp := s.isWaiting_iff_pending
  rw [h] at hp
  exact bne_iff_ne.mp hp.symm

theorem alongFrame_inv (s : AlongState) (frame : AxicanFrame) (hs : s.Inv) :
    (alongFrame table canId s frame).2.Inv := by
  rw [alongFrame]
  cases hw : s.isWaiting with
  | true =>
      have hz := AlongState.pending_of_waiting hw
      rw [if_pos rfl]
      by_cases hp : 1 < s.pending
      · rw [alongWaiting_more hw hp]
        exact ⟨hs.cache frame, fun h => absurd (hw.symm.trans h) (by decide)⟩
      · rw [alongWaiting_last hw (by omega)]
        exact AlongState.inv_initial
  | false =>
      have hz := hs.idle hw
      rw [if_neg Bool.false_ne_true]
      rcases alongMatching_cases table canId s frame with
        ⟨_, heq⟩ | ⟨record, _, ⟨_, heq⟩ | ⟨_, heq⟩ | ⟨_, _, heq⟩⟩
      · rw [heq]
        exact ⟨hs.length_eq, fun _ => hz⟩
      · rw [heq]
        exact ⟨hs.length_eq, fun _ => hz⟩
      · rw [heq]
        exact ⟨hs.cache frame, nofun⟩
      · rw [heq]
        exact ⟨hs.length_eq, fun _ => hz⟩

-- The thread counts followers as the stream does.
theorem alongFrame_pending (s : AlongState) (frame : AxicanFrame) (hs : s.Inv) :
    (alongFrame table canId s frame).2.pending = pendingAfter table s.pending frame := by
  rw [alongFrame]
  cases hw : s.isWaiting with
  | true =>
      have hz := AlongState.pending_of_waiting hw
      rw [if_pos rfl, pendingAfter, if_neg hz]
      by_cases hp : 1 < s.pending
      · rw [alongWaiting_more hw hp, pending_cache hw hp]
      · rw [alongWaiting_last hw (by omega), show s.pending - 1 = 0 by omega]
        rfl
  | false =>
      have hz := hs.idle hw
      rw [if_neg Bool.false_ne_true, pendingAfter, if_pos (AlongState.pending_of_idle hw),
        exchangeFollowers]
      rcases alongMatching_cases table canId s frame with
        ⟨hfind, heq⟩ | ⟨record, hfind, ⟨ht, heq⟩ | ⟨ht, heq⟩ | ⟨_, ht, heq⟩⟩
      · rw [heq, hfind]
        exact AlongState.pending_of_idle hw
      · simp only [heq, hfind]
        rw [if_neg (by omega)]
        exact AlongState.pending_of_idle hw
      · simp only [heq, hfind]
        rw [if_pos ht, AlongState.pending_opened hz]
      · simp only [heq, hfind]
        rw [if_neg ht]
        exact AlongState.pending_of_idle hw

end Machine

/-! ## Batches as they come out of the queue -/

section Queue

/-- `frames` wait in the channel's queue of a set of CAN frames. -/
def HoldsFrames (set : RingBuffer32ChSet) (canId : UInt8) (frames : List AxicanFrame) : Prop :=
  ∃ bank, Carries AxicanFrame.toBytes set bank ∧ bank.Valid (6 : UInt8).toNat canId.toNat ∧
    bank.queue canId.toNat = frames

variable {set : RingBuffer32ChSet} {canId : UInt8} {frames : List AxicanFrame}

theorem HoldsFrames.put (h : HoldsFrames set canId frames) (frame : AxicanFrame) :
    HoldsFrames (ringbuffer32chPut set canId (some frame.toBytes) 6).2 canId
      (if (ringbuffer32chPut set canId (some frame.toBytes) 6).1 = 1 then frames ++ [frame]
        else frames) := by
  obtain ⟨bank, hcarries, hvalid, hqueue⟩ := h
  obtain ⟨hret, hput⟩ := hcarries.put canId 6 frame
  refine ⟨_, hput, ⟨hvalid.1, ?_⟩, ?_⟩
  · rw [QueueBank.channels_put]
    exact hvalid.2
  · rw [QueueBank.queue_put, hret, hqueue]
    simp only [successCode_eq_one, and_true]

theorem HoldsFrames.get {frame : AxicanFrame} {rest : List AxicanFrame}
    (h : HoldsFrames set canId (frame :: rest)) :
    (ringbuffer32chGet set canId (some (List.replicate sizeofAxicanFrame 0)) 6).1 = 1 ∧
      (ringbuffer32chGet set canId (some (List.replicate sizeofAxicanFrame 0)) 6).2.1 =
        some frame.toBytes ∧
      HoldsFrames (ringbuffer32chGet set canId (some (List.replicate sizeofAxicanFrame 0)) 6).2.2
        canId rest := by
  obtain ⟨bank, hcarries, hvalid, hqueue⟩ := h
  have hdst : (List.replicate sizeofAxicanFrame (0 : UInt8)).length = set.elemSize.toNat := by
    rw [← hcarries.size frame, AxicanFrame.length_toBytes, List.length_replicate]
    rfl
  obtain ⟨hret, hdata, hget⟩ := hcarries.get canId 6 _ hdst
  rw [bank.get_of_cons hvalid hqueue] at hret hdata hget
  exact ⟨hret, hdata, _, hget, hvalid, QueueBank.update_self _ _ _⟩

-- The dequeue loop takes the oldest frames, in order.
theorem dequeueFrames_spec (n : Nat) (hn : n ≤ frames.length) (h : HoldsFrames set canId frames) :
    (dequeueFrames canId n set).1 = frames.take n ∧
      HoldsFrames (dequeueFrames canId n set).2 canId (frames.drop n) := by
  induction n generalizing set frames with
  | zero => exact ⟨rfl, h⟩
  | succ n ih =>
      cases frames with
      | nil => exact absurd hn (Nat.not_succ_le_zero n)
      | cons frame rest =>
          obtain ⟨hret, hdata, hrest⟩ := h.get
          obtain ⟨hfst, hsnd⟩ := ih (Nat.le_of_succ_le_succ hn) hrest
          simp only [dequeueFrames, if_pos hret, hdata, Option.getD_some,
            AxicanFrame.ofBytes_toBytes, hfst,
            List.take_succ_cons, List.drop_succ_cons]
          exact ⟨trivial, hsnd⟩

-- One pass handles the oldest waiting frames, at most `DEQUEUE_BATCH_SIZE` of them, as a batch.
theorem alongPass_spec (table : List PcArmSimulatorData) (s : AlongState)
    (h : HoldsFrames set canId frames) :
    (alongPass table canId set s).1 =
        (processDequeueBatch table canId (frames.take dequeueBatchSize) s).1 ∧
      (alongPass table canId set s).2.1 =
        (processDequeueBatch table canId (frames.take dequeueBatchSize) s).2 ∧
      HoldsFrames (alongPass table canId set s).2.2 canId (frames.drop dequeueBatchSize) := by
  have hlen : (ringbuffer32chLen set canId 6).toNat = frames.length := by
    obtain ⟨bank, hcarries, hvalid, hqueue⟩ := h
    rw [hcarries.len, QueueBank.len, if_pos hvalid, hqueue]
  obtain ⟨hfst, hsnd⟩ := dequeueFrames_spec (min frames.length dequeueBatchSize)
    (Nat.min_le_left _ _) h
  have htake : frames.take (min frames.length dequeueBatchSize) = frames.take dequeueBatchSize := by
    rw [Nat.min_comm, ← List.take_take, List.take_length]
  have hdrop : frames.drop (min frames.length dequeueBatchSize) = frames.drop dequeueBatchSize := by
    rcases Nat.le_total frames.length dequeueBatchSize with hle | hle
    · rw [Nat.min_eq_left hle, List.drop_length, List.drop_of_length_le hle]
    · rw [Nat.min_eq_right hle]
  rw [htake] at hfst
  rw [hdrop] at hsnd
  simp only [alongPass, hlen, hfst]
  exact ⟨trivial, trivial, hsnd⟩

end Queue

/-- What happens around the thread: a frame is put into its queue, or it makes a pass. -/
inductive AlongCall where
  | receive (frame : AxicanFrame)
  | pass

/-- The queue and the thread's variables. -/
structure AlongThread where
  queue : RingBuffer32ChSet
  state : AlongState

def AlongThread.step (table : List PcArmSimulatorData) (canId : UInt8) (t : AlongThread) :
    AlongCall → List AlongEvent × AlongThread
  | .receive frame =>
      ([], { t with queue := (ringbuffer32chPut t.queue canId (some frame.toBytes) 6).2 })
  | .pass =>
      let r := alongPass table canId t.queue t.state
      (r.1, ⟨r.2.2, r.2.1⟩)

/-- The frames the queue accepts along a run. -/
def AlongThread.accepted (table : List PcArmSimulatorData) (canId : UInt8) :
    List AlongCall → AlongThread → List AxicanFrame
  | [], _ => []
  | .receive frame :: calls, t =>
      (if (ringbuffer32chPut t.queue canId (some frame.toBytes) 6).1 = 1 then [frame] else []) ++
        accepted table canId calls (t.step table canId (.receive frame)).2
  | .pass :: calls, t => accepted table canId calls (t.step table canId .pass).2

-- However receptions and passes interleave, the thread sees the accepted frames in order, in some
-- grouping into batches of at most `DEQUEUE_BATCH_SIZE`.
theorem alongThread_batches (table : List PcArmSimulatorData) (canId : UInt8)
    (calls : List AlongCall) (t : AlongThread) (frames : List AxicanFrame)
    (h : HoldsFrames t.queue canId frames) :
    ∃ batches rest, (∀ batch ∈ batches, batch.length ≤ dequeueBatchSize) ∧
      frames ++ t.accepted table canId calls = batches.flatten ++ rest ∧
      HoldsFrames (Batching.stream (AlongThread.step table canId) calls t).2.queue canId rest ∧
      (Batching.stream (AlongThread.step table canId) calls t).1 =
        (alongRun table canId batches t.state).1 ∧
      (Batching.stream (AlongThread.step table canId) calls t).2.state =
        (alongRun table canId batches t.state).2 := by
  induction calls generalizing t frames with
  | nil => exact ⟨[], frames, by simp, by simp [AlongThread.accepted], h, rfl, rfl⟩
  | cons call calls ih =>
      cases call with
      | receive frame =>
          obtain ⟨batches, rest, hle, hsplit, hrest, hevents, hstate⟩ :=
            ih (t.step table canId (.receive frame)).2 _ (h.put frame)
          refine ⟨batches, rest, hle, ?_, hrest, hevents, hstate⟩
          rw [← hsplit, AlongThread.accepted]
          split
          · rw [List.append_assoc]
          · rfl
      | pass =>
          obtain ⟨hout, hnext, hqueue⟩ := alongPass_spec table t.state h
          obtain ⟨batches, rest, hle, hsplit, hrest, hevents, hstate⟩ :=
            ih (t.step table canId .pass).2 _ hqueue
          refine ⟨frames.take dequeueBatchSize :: batches, rest, ?_, ?_, hrest, ?_, ?_⟩
          · intro batch hmem
            rcases List.mem_cons.mp hmem with rfl | hmem
            · exact List.length_take_le _ _
            · exact hle batch hmem
          · rw [List.flatten_cons, List.append_assoc, ← hsplit, ← List.append_assoc,
              List.take_append_drop]
            rfl
          · rw [Batching.stream, alongRun, hevents]
            show (alongPass table canId t.queue t.state).1 ++ _ = _
            rw [hout]
            show _ ++ (alongRun table canId batches
              (alongPass table canId t.queue t.state).2.1).1 = _
            rw [hnext]
          · rw [Batching.stream, alongRun, hstate]
            show (alongRun table canId batches (alongPass table canId t.queue t.state).2.1).2 = _
            rw [hnext]

/-! ## What a run shows -/

namespace AlongEvent

/-- The frame an event accounts for: compared with the table or cached. -/
def handled : AlongEvent → Option AxicanFrame
  | compared frame => some frame
  | cached frame => some frame
  | report _ _ _ _ => none
  | response _ _ _ => none

/-- The record a reply is sent for. -/
def replied : AlongEvent → Option PcArmSimulatorData
  | response _ record _ => some record
  | _ => none

def isReport : AlongEvent → Bool
  | report _ _ _ _ => true
  | _ => false

/-- Replies and reports leave the thread. -/
def isOutput : AlongEvent → Bool
  | report _ _ _ _ => true
  | response _ _ _ => true
  | _ => false

end AlongEvent

/-- Not waiting, with nothing cached and nothing to wait for.  `matched_sim_frame` is not read again
    before it is set. -/
def AlongState.Idle (s : AlongState) : Prop :=
  s.isWaiting = false ∧ s.waitFrameCount = 0 ∧ s.targetWaitFrames = 0

/-- A state of the thread after some passes, whatever batches it dequeued. -/
def AlongReachable (table : List PcArmSimulatorData) (canId : UInt8) (s : AlongState) : Prop :=
  ∃ batches, (alongRun table canId batches .initial).2 = s

section Runs

variable {table : List PcArmSimulatorData} {canId : UInt8}

theorem AlongReachable.inv {s : AlongState} (h : AlongReachable table canId s) : s.Inv := by
  obtain ⟨batches, rfl⟩ := h
  rw [alongRun_eq]
  exact Batching.batches_invariant alongFrame_inv batches _ AlongState.inv_initial

theorem replied_reports (frames : List AxicanFrame) :
    (frames.map (AlongEvent.report canId 0x83 1)).filterMap AlongEvent.replied = [] := by
  rw [List.filterMap_map]
  exact List.filterMap_eq_nil_iff.mpr fun _ _ => rfl

variable (canId) in
-- A record that asks for one frame is answered at once.
theorem alongFrame_one {s : AlongState} {frame : AxicanFrame} {record : PcArmSimulatorData}
    (hw : s.isWaiting = false) (hmatch : table.find? (alongMatches frame) = some record)
    (ht : determineResponseFrames (some record) = 0) :
    alongFrame table canId s frame =
      ([.compared frame, .report canId 0x83 1 frame,
        .response canId record (processAndSendResponse record)],
        { s with targetWaitFrames := 0, matchedSimFrame := some record }) := by
  rw [alongFrame, if_neg (Bool.eq_false_iff.mp hw)]
  simp only [alongMatching, hmatch, if_pos ht]
  rw [ht]

variable (canId) in
-- A record that asks for more opens an exchange.
theorem alongFrame_opens {s : AlongState} {frame : AxicanFrame} {record : PcArmSimulatorData}
    (hw : s.isWaiting = false) (hmatch : table.find? (alongMatches frame) = some record)
    (hpos : 0 < determineResponseFrames (some record))
    (hle : determineResponseFrames (some record) ≤ maxWaitFrames) :
    alongFrame table canId s frame =
      ([.compared frame], s.opened frame record) := by
  have hne : ¬ determineResponseFrames (some record) = 0 := by omega
  rw [alongFrame, if_neg (Bool.eq_false_iff.mp hw)]
  simp only [alongMatching, hmatch, if_neg hne, gt_iff_lt, if_pos (And.intro hpos hle)]
  rfl

variable (table canId) in
-- A pending exchange replies once, when its last follower is in.
theorem replies_of_pending {k : Nat} {s : AlongState} {record : PcArmSimulatorData}
    (hw : s.isWaiting = true) (hp : s.pending = k + 1) (hm : s.matchedSimFrame = some record)
    (frames : List AxicanFrame) (hlen : frames.length = k + 1) :
    (Batching.stream (alongFrame table canId) frames s).1.filterMap AlongEvent.replied =
      [record] := by
  induction k generalizing s frames with
  | zero =>
      obtain ⟨frame, rfl⟩ := List.length_eq_one_iff.mp hlen
      rw [Batching.stream, Batching.stream, alongFrame, if_pos hw, alongWaiting_last hw hp, hm]
      simp only [List.append_nil, List.singleton_append, List.filterMap_cons, AlongEvent.replied,
        replied_reports]
  | succ k ih =>
      obtain ⟨frame, rest, rfl⟩ := List.exists_cons_of_length_eq_add_one hlen
      rw [Batching.stream, alongFrame, if_pos hw, alongWaiting_more hw (by omega)]
      have hw' : (s.cache frame).isWaiting = true := hw
      have hrest := ih hw' (by rw [pending_cache hw (by omega)]; omega) hm rest
        (by simpa using hlen)
      rw [List.filterMap_append, hrest]
      rfl

end Runs

/-! ## When the reply is sent -/

/-- With one frame a pass: no reply before the `n`-th frame, one for `record` with it, the `n`
    frames reported in order with type 0x83, and the thread idle again. -/
structure RepliesOnNth (table : List PcArmSimulatorData) (canId : UInt8) (s : AlongState)
    (frames : List AxicanFrame) (n : Nat) (record : PcArmSimulatorData) : Prop where
  notEarlier : (alongRun table canId ((frames.take (n - 1)).map fun frame => [frame]) s).1.filterMap
    AlongEvent.replied = []
  once : (alongRun table canId ((frames.take n).map fun frame => [frame]) s).1.filterMap
    AlongEvent.replied = [record]
  reported : (alongRun table canId ((frames.take n).map fun frame => [frame]) s).1.filter
    AlongEvent.isReport = (frames.take n).map (.report canId 0x83 1)
  idle : (alongRun table canId ((frames.take n).map fun frame => [frame]) s).2.Idle

/-- **When the reply comes on time.**  For a record that asks for `n` frames the reply is sent with
    the `n`-th exactly when `n` is at most 2; from 3 on it is sent one frame early. -/
theorem simulator_reply_count (table : List PcArmSimulatorData) (canId : UInt8) (s : AlongState)
    (hs : AlongReachable table canId s) (hw : s.isWaiting = false) (frame : AxicanFrame)
    (rest : List AxicanFrame) (record : PcArmSimulatorData) (n : Nat)
    (hmatch : table.find? (alongMatches frame) = some record) (hn : record.rcvLen.toNat / 8 = n)
    (hpos : 1 ≤ n) (hle : n ≤ 7) (hlen : n ≤ (frame :: rest).length) :
    RepliesOnNth table canId s (frame :: rest) n record ↔ n ≤ 2 := by
  have hinv := hs.inv
  have htarget : determineResponseFrames (some record) = (n : Int) - 1 := by
    rw [determineResponseFrames, hn]
  rcases Nat.lt_or_ge n 2 with h1 | h2
  · -- One frame: the reply follows its report at once.
    obtain rfl : n = 1 := by omega
    have hstep := alongFrame_one canId hw hmatch htarget
    refine ⟨fun _ => by omega, fun _ => ⟨rfl, ?_, ?_, ?_⟩⟩
    all_goals rw [alongRun_singletons, List.take_succ_cons, List.take_zero, Batching.stream, hstep]
    · rfl
    · rfl
    · exact ⟨hw, hinv.idle hw, rfl⟩
  have hopen := alongFrame_opens canId hw hmatch (by omega)
    (by rw [htarget, maxWaitFrames]; omega)
  obtain ⟨next, rest, rfl⟩ : ∃ next rest', rest = next :: rest' :=
    List.exists_cons_of_length_pos (by rw [List.length_cons] at hlen; omega)
  rcases Nat.lt_or_ge n 3 with h2' | h3
  · -- Two frames: the follower completes the exchange.
    obtain rfl : n = 2 := by omega
    have hw' : (s.opened frame record).isWaiting = true := rfl
    have hpend : (s.opened frame record).pending = 1 := by
      rw [AlongState.pending_opened (hinv.idle hw), htarget]
      rfl
    have hm : (s.opened frame record).matchedSimFrame = some record := rfl
    have hlast : alongFrame table canId (s.opened frame record) next =
        (.cached next :: .response canId record (processAndSendResponse record) ::
          [frame, next].map (.report canId 0x83 1), .initial) := by
      rw [alongFrame, if_pos hw', alongWaiting_last hw' hpend, hm, hinv.cached_two hw]
      rfl
    refine ⟨fun _ => by omega, fun _ => ⟨?_, ?_, ?_, ?_⟩⟩
    · rw [alongRun_singletons]
      show (Batching.stream (alongFrame table canId) [frame] s).1.filterMap _ = []
      rw [Batching.stream, hopen]
      rfl
    all_goals
      rw [alongRun_singletons]
      simp only [List.take_succ_cons, List.take_zero, Batching.stream, hopen, hlast]
    · rfl
    · rfl
    · exact ⟨rfl, rfl, rfl⟩
  · -- Three frames or more: the reply comes with the frame before the last one.
    refine ⟨fun h => ?_, fun h => by omega⟩
    have hearly := h.notEarlier
    obtain ⟨k, rfl⟩ : ∃ k, n = k + 3 := ⟨n - 3, by omega⟩
    rw [alongRun_singletons, show k + 3 - 1 = k + 1 + 1 by omega, List.take_succ_cons,
      Batching.stream, hopen, List.filterMap_append] at hearly
    have hpend : (s.opened frame record).pending = k + 1 := by
      rw [AlongState.pending_opened (hinv.idle hw), htarget]
      omega
    have hreply := replies_of_pending table canId rfl hpend rfl ((next :: rest).take (k + 1))
      (by rw [List.length_take]; simp only [List.length_cons] at hlen ⊢; omega)
    rw [hreply] at hearly
    exact absurd hearly (by simp)

/-- A record for CAN ID 5 and data word 7 that asks for `rcvLen` bytes and answers one frame. -/
def recordOfLen (rcvLen : UInt16) : PcArmSimulatorData :=
  { head := pcStatusHead, channelId := 0, canId := 5, dataType := 7, rcvLen := rcvLen,
    sendLen := 16, sendData := List.replicate sizeofSendData 0 }

/-- The `k`-th frame of a command for that record. -/
def commandFrame (k : UInt32) : AxicanFrame := ⟨0x00A00000, 8, 7, k, 0⟩

theorem simulator_reply_count_two :
    RepliesOnNth [recordOfLen 16] 0 .initial [commandFrame 0, commandFrame 1] 2 (recordOfLen 16) :=
  (simulator_reply_count [recordOfLen 16] 0 .initial ⟨[], rfl⟩ rfl (commandFrame 0)
    [commandFrame 1] (recordOfLen 16) 2 rfl (by decide) (by decide) (by decide)
    (by decide)).mpr (by decide)

-- A record that asks for three frames is answered with the second.
theorem simulator_replies_one_frame_early :
    AlongReachable [recordOfLen 24] 0 .initial ∧ AlongState.initial.isWaiting = false ∧
      [recordOfLen 24].find? (alongMatches (commandFrame 0)) = some (recordOfLen 24) ∧
      (recordOfLen 24).rcvLen.toNat / 8 = 3 ∧
      ¬ RepliesOnNth [recordOfLen 24] 0 .initial [commandFrame 0, commandFrame 1, commandFrame 2] 3
        (recordOfLen 24) := by
  refine ⟨⟨[], rfl⟩, rfl, rfl, by decide, ?_⟩
  intro h
  have hearly := h.notEarlier
  revert hearly
  decide

/-! ## Batches -/

/-- No frame awaited by a pending exchange is followed by another frame of its batch. -/
def followersLast (table : List PcArmSimulatorData) (batches : List (List AxicanFrame)) : Bool :=
  Batching.stopsLastAll (pendingAfter table) (fun k => k != 0) 0 batches

/-- Two groupings of one stream: the same replies and reports, and no frame left unhandled. -/
structure BatchingInvisible (table : List PcArmSimulatorData) (canId : UInt8)
    (batches batches' : List (List AxicanFrame)) : Prop where
  outputs : (alongRun table canId batches .initial).1.filter AlongEvent.isOutput =
    (alongRun table canId batches' .initial).1.filter AlongEvent.isOutput
  handled : (alongRun table canId batches .initial).1.filterMap AlongEvent.handled =
    batches.flatten
  handled' : (alongRun table canId batches' .initial).1.filterMap AlongEvent.handled =
    batches'.flatten

section Batches

variable (table : List PcArmSimulatorData) (canId : UInt8)

-- Whatever a frame leads to, it is accounted for once.
theorem handled_alongFrame (s : AlongState) (frame : AxicanFrame) :
    (alongFrame table canId s frame).1.filterMap AlongEvent.handled = [frame] := by
  have hreports : ∀ frames : List AxicanFrame,
      (frames.map (AlongEvent.report canId 0x83 1)).filterMap AlongEvent.handled = [] := by
    intro frames
    rw [List.filterMap_map]
    exact List.filterMap_eq_nil_iff.mpr fun _ _ => rfl
  rw [alongFrame]
  cases hw : s.isWaiting with
  | true =>
      have hz := AlongState.pending_of_waiting hw
      rw [if_pos rfl]
      by_cases hp : 1 < s.pending
      · rw [alongWaiting_more hw hp]
        rfl
      · rw [alongWaiting_last hw (by omega)]
        cases s.matchedSimFrame with
        | none => simp only [List.filterMap_cons, AlongEvent.handled, List.nil_append, hreports]
        | some record =>
            simp only [List.filterMap_cons, AlongEvent.handled, List.singleton_append, hreports]
  | false =>
      rw [if_neg Bool.false_ne_true]
      rcases alongMatching_cases table canId s frame with
        ⟨_, heq⟩ | ⟨record, _, ⟨_, heq⟩ | ⟨_, heq⟩ | ⟨_, _, heq⟩⟩
      all_goals
        rw [heq]
        rfl

theorem handled_alongRun (batches : List (List AxicanFrame)) (s : AlongState) :
    (alongRun table canId batches s).1.filterMap AlongEvent.handled =
      Batching.consumedAll (alongFrame table canId) AlongState.isWaiting batches s := by
  rw [alongRun_eq]
  exact Batching.filterMap_batches (handled_alongFrame table canId) batches s

theorem handled_eq_flatten_iff (batches : List (List AxicanFrame)) :
    (alongRun table canId batches .initial).1.filterMap AlongEvent.handled = batches.flatten ↔
      followersLast table batches = true := by
  rw [handled_alongRun]
  exact Batching.consumedAll_eq_iff alongFrame_inv alongFrame_pending
    (fun s _ => s.isWaiting_iff_pending) batches _ AlongState.inv_initial

/-- **When batching does not show.**  Two groupings of a stream give the same replies and reports
    without losing a frame exactly when neither puts a frame behind an awaited follower. -/
theorem simulator_batching (batches batches' : List (List AxicanFrame))
    (hflat : batches.flatten = batches'.flatten) :
    BatchingInvisible table canId batches batches' ↔
      followersLast table batches = true ∧ followersLast table batches' = true := by
  constructor
  · intro h
    exact ⟨(handled_eq_flatten_iff table canId batches).mp h.handled,
      (handled_eq_flatten_iff table canId batches').mp h.handled'⟩
  · intro ⟨h, h'⟩
    have hall := (handled_eq_flatten_iff table canId batches).mpr h
    have hall' := (handled_eq_flatten_iff table canId batches').mpr h'
    refine ⟨?_, hall, hall'⟩
    -- With nothing dropped both runs are the run over the stream itself.
    rw [handled_alongRun] at hall hall'
    rw [alongRun_eq, alongRun_eq, Batching.batches_eq_stream _ _ hall,
      Batching.batches_eq_stream _ _ hall', hflat]

end Batches

theorem simulator_batching_pairwise :
    BatchingInvisible [recordOfLen 16] 0 [[commandFrame 0, commandFrame 1], [commandFrame 0]]
      [[commandFrame 0], [commandFrame 1], [commandFrame 0]] :=
  (simulator_batching [recordOfLen 16] 0 [[commandFrame 0, commandFrame 1], [commandFrame 0]]
    [[commandFrame 0], [commandFrame 1], [commandFrame 0]] rfl).mpr (by decide)

-- The frame behind the follower is dropped when the two arrive in one batch.
theorem simulator_batching_drops :
    [[commandFrame 0, commandFrame 1, commandFrame 2]].flatten =
        [[commandFrame 0], [commandFrame 1], [commandFrame 2]].flatten ∧
      ¬ BatchingInvisible [recordOfLen 16] 0 [[commandFrame 0, commandFrame 1, commandFrame 2]]
        [[commandFrame 0], [commandFrame 1], [commandFrame 2]] := by
  refine ⟨rfl, ?_⟩
  intro h
  have hhandled := h.handled
  revert hhandled
  decide

end CanGateway
