import CanGateway.Library.Transducer
import CanGateway.Wire

/-!
# The transmit thread

One pass of `axican_data_send_thread` takes a frame from `g_data_buf_set`, checks it and either
sends it at once or puts it into the channel's `PacketBuffer`, from which a complete multi-packet
message is sent as a burst.
-/

namespace CanGateway

/-- `DEQUEUE_BATCH_SIZE_1`: the entries of a packet buffer. -/
def dequeueBatchSize1 : UInt8 := 10
/-- `PACKET_TIMEOUT`, in milliseconds. -/
def packetTimeout : Int := 1000

structure PacketBuffer where
  frames : List PcArmDataData
  totalPackets : UInt8
  receivedPackets : UInt8
  isActive : Bool
  lastReceiveTime : Int
  deriving DecidableEq

/-- `memset(pkt_buf, 0, sizeof(PacketBuffer))`. -/
def PacketBuffer.zero : PacketBuffer :=
  ⟨List.replicate dequeueBatchSize1.toNat default, 0, 0, false, 0⟩

/-- The CAN frame `send_single_frame` writes, stamped with the clock. -/
def sendSingleFrame (currFrame : PcArmDataData) (timestamp : UInt64) : AxicanFrame where
  canId := currFrame.idr
  canDlc := currFrame.drcr
  data0 := reverse4bytes currFrame.dw1r
  data1 := reverse4bytes currFrame.dw2r
  timestamp := timestamp

/-- Where a pass of the loop ends. -/
inductive TxExit where
  | invalidSyncWord
  | channelMismatch
  | single (frame : PcArmDataData)
  | illegalTotal
  | inactive
  | gap
  | stored
  | burst (frames : List PcArmDataData)
  deriving DecidableEq

/-- The frames handed to `send_single_frame`, in order. -/
def TxExit.sent : TxExit → List PcArmDataData
  | single frame => [frame]
  | burst frames => frames
  | _ => []

/-- The text of the error event the pass sends. -/
def TxExit.event : TxExit → Option String
  | invalidSyncWord => some "Invalid sync word"
  | channelMismatch => some "Channel mismatch"
  | _ => none

/-- The timeout check: a buffer left alone for too long is zeroed. -/
def PacketBuffer.expire (pktBuf : PacketBuffer) (currentTime : Int) : PacketBuffer :=
  if pktBuf.isActive ∧ (currentTime - pktBuf.lastReceiveTime) * 1000 > packetTimeout then .zero
  else pktBuf

/-- The buffer as the first packet of a message finds it. -/
def PacketBuffer.start (totalPackets : UInt8) : PacketBuffer :=
  { PacketBuffer.zero with totalPackets := totalPackets, isActive := true }

def PacketBuffer.store (pktBuf : PacketBuffer) (currFrame : PcArmDataData) (currentTime : Int) :
    PacketBuffer :=
  { pktBuf with
    frames := pktBuf.frames.set currFrame.packetsNo.toUInt8.toNat currFrame
    receivedPackets := pktBuf.receivedPackets + 1
    lastReceiveTime := currentTime }

/-- The multi-packet part of the loop body, under `packet_mutex`. -/
def handleMultiPacket (pktBuf : PacketBuffer) (currFrame : PcArmDataData) (currentTime : Int) :
    TxExit × PacketBuffer :=
  let sequence := currFrame.packetsNo.toUInt8
  let totalPackets := currFrame.packetsSum.toUInt8
  let pktBuf := pktBuf.expire currentTime
  if sequence = 0 ∧ (totalPackets ≤ 0 ∨ totalPackets > dequeueBatchSize1) then
    (.illegalTotal, pktBuf)
  else
    let pktBuf := if sequence = 0 then PacketBuffer.start totalPackets else pktBuf
    if ¬ pktBuf.isActive ∨ sequence ≥ pktBuf.totalPackets then (.inactive, pktBuf)
    else if sequence ≠ pktBuf.receivedPackets then (.gap, .zero)
    else
      let pktBuf := pktBuf.store currFrame currentTime
      if pktBuf.receivedPackets = pktBuf.totalPackets then
        (.burst (pktBuf.frames.take pktBuf.totalPackets.toNat), .zero)
      else (.stored, pktBuf)

-- The two checks of a frame are not made again in the multi-packet part.
theorem handleMultiPacket_exit (pktBuf : PacketBuffer) (currFrame : PcArmDataData)
    (currentTime : Int) :
    (handleMultiPacket pktBuf currFrame currentTime).1 ≠ .invalidSyncWord ∧
      (handleMultiPacket pktBuf currFrame currentTime).1 ≠ .channelMismatch := by
  unfold handleMultiPacket
  dsimp only
  generalize pktBuf.expire currentTime = buf
  split
  · exact ⟨nofun, nofun⟩
  generalize (if currFrame.packetsNo.toUInt8 = 0 then
    PacketBuffer.start currFrame.packetsSum.toUInt8 else buf) = buf'
  split
  · exact ⟨nofun, nofun⟩
  split
  · exact ⟨nofun, nofun⟩
  split <;> exact ⟨nofun, nofun⟩

/-- The loop body of `axican_data_send_thread` once a frame has been dequeued. -/
def axicanDataSendIteration (canId : UInt8) (pktBuf : PacketBuffer)
    (dequeued : PcArmDataData × Int) : TxExit × PacketBuffer :=
  let (currFrame, currentTime) := dequeued
  if currFrame.head ≠ pcStatusHead then (.invalidSyncWord, pktBuf)
  else if currFrame.chId ≠ canId then (.channelMismatch, pktBuf)
  else if currFrame.packetsSum.toUInt8 = 1 then (.single currFrame, pktBuf)
  else handleMultiPacket pktBuf currFrame currentTime

/-! ## What the packet buffer holds -/

/-- A frame that passes the checks of the channel and is part of a multi-packet message. -/
def IsFragment (canId : UInt8) (frame : PcArmDataData) : Prop :=
  frame.head = pcStatusHead ∧ frame.chId = canId ∧ frame.packetsSum.toUInt8 ≠ 1

/-- A frame that starts a new message on the channel. -/
def Opens (canId : UInt8) (frame : PcArmDataData) : Prop :=
  frame.head = pcStatusHead ∧ frame.chId = canId ∧ frame.packetsNo.toUInt8 = 0 ∧
    2 ≤ frame.packetsSum.toUInt8.toNat ∧ frame.packetsSum.toUInt8.toNat ≤ 10

/-- `fragments` are the first fragments of a message of `n` packets: the first one was dequeued last
    of all frames that open a message, the others after it and in order. -/
structure Collected (canId : UInt8) (past : List (PcArmDataData × Int))
    (fragments : List PcArmDataData) (n : Nat) : Prop where
  numbered : ∀ (i : Nat) (fragment : PcArmDataData), fragments[i]? = some fragment →
    fragment.packetsNo.toUInt8.toNat = i
  fragment : ∀ fragment ∈ fragments, IsFragment canId fragment
  origin : ∃ before first between rest, past = before ++ first :: between ∧
    fragments = first.1 :: rest ∧ rest.Sublist (between.map Prod.fst) ∧
    first.1.packetsSum.toUInt8.toNat = n ∧ ∀ other ∈ between, ¬ Opens canId other.1

variable {canId : UInt8} {past : List (PcArmDataData × Int)} {fragments : List PcArmDataData}
  {n : Nat}

theorem Collected.length_pos (h : Collected canId past fragments n) : 0 < fragments.length := by
  obtain ⟨_, _, _, _, _, hfrag, _⟩ := h.origin
  rw [hfrag]
  exact Nat.succ_pos _

-- The first fragment.
theorem Collected.opening {frame : PcArmDataData} (hfrag : IsFragment canId frame)
    (hno : frame.packetsNo.toUInt8 = 0) (past : List (PcArmDataData × Int)) (now : Int) :
    Collected canId (past ++ [(frame, now)]) [frame] frame.packetsSum.toUInt8.toNat where
  numbered := by
    intro i fragment hi
    cases i with
    | zero =>
        obtain rfl : frame = fragment := by simpa using hi
        rw [hno]
        rfl
    | succ i => simp at hi
  fragment := by
    intro fragment hmem
    rw [List.mem_singleton.mp hmem]
    exact hfrag
  origin := ⟨past, (frame, now), [], [], rfl, rfl, List.Sublist.refl _, rfl, nofun⟩

-- A frame that opens no message leaves the collected fragments as they are.
theorem Collected.skip (h : Collected canId past fragments n) {other : PcArmDataData × Int}
    (hother : ¬ Opens canId other.1) : Collected canId (past ++ [other]) fragments n where
  numbered := h.numbered
  fragment := h.fragment
  origin := by
    obtain ⟨before, first, between, rest, hpast, hfrag, hsub, hsum, hbetween⟩ := h.origin
    refine ⟨before, first, between ++ [other], rest, ?_, hfrag, ?_, hsum, ?_⟩
    · rw [hpast, List.append_assoc, List.cons_append]
    · rw [List.map_append]
      exact hsub.trans (List.sublist_append_left _ _)
    · intro g hg
      rcases List.mem_append.mp hg with hg | hg
      · exact hbetween g hg
      · rw [List.mem_singleton.mp hg]
        exact hother

-- The next fragment.
theorem Collected.next (h : Collected canId past fragments n) {frame : PcArmDataData}
    (hframe : IsFragment canId frame) (hno : frame.packetsNo.toUInt8.toNat = fragments.length)
    (now : Int) :
    Collected canId (past ++ [(frame, now)]) (fragments ++ [frame]) n where
  numbered := by
    intro i fragment hi
    rcases Nat.lt_or_ge i fragments.length with hlt | hge
    · rw [List.getElem?_append_left hlt] at hi
      exact h.numbered i fragment hi
    · rw [List.getElem?_append_right hge] at hi
      have hz : i - fragments.length = 0 := by
        have hlt := (List.getElem?_eq_some_iff.mp hi).1
        rw [List.length_singleton] at hlt
        omega
      rw [hz, List.getElem?_cons_zero, Option.some.injEq] at hi
      rw [← hi, hno]
      omega
  fragment := by
    intro fragment hmem
    rcases List.mem_append.mp hmem with hmem | hmem
    · exact h.fragment fragment hmem
    · rw [List.mem_singleton.mp hmem]
      exact hframe
  origin := by
    obtain ⟨before, first, between, rest, hpast, hfrag, hsub, hsum, hbetween⟩ := h.origin
    refine ⟨before, first, between ++ [(frame, now)], rest ++ [frame], ?_, ?_, ?_, hsum, ?_⟩
    · rw [hpast, List.append_assoc, List.cons_append]
    · rw [hfrag, List.cons_append]
    · rw [List.map_append]
      exact hsub.append (List.Sublist.refl _)
    · intro g hg
      rcases List.mem_append.mp hg with hg | hg
      · exact hbetween g hg
      · have hpos := h.length_pos
        rw [List.mem_singleton.mp hg]
        intro hopens
        rw [hopens.2.2.1] at hno
        change 0 = fragments.length at hno
        omega

/-- An active buffer holds the first fragments of the message opened last. -/
structure Collecting (canId : UInt8) (past : List (PcArmDataData × Int)) (pktBuf : PacketBuffer) :
    Prop where
  active : pktBuf.isActive = true
  length_eq : pktBuf.frames.length = 10
  total_le : pktBuf.totalPackets.toNat ≤ 10
  received_pos : 0 < pktBuf.receivedPackets.toNat
  received_lt : pktBuf.receivedPackets.toNat < pktBuf.totalPackets.toNat
  collected : Collected canId past (pktBuf.frames.take pktBuf.receivedPackets.toNat)
    pktBuf.totalPackets.toNat

/-- Between two passes a buffer is zeroed or collecting. -/
def PacketBuffer.Inv (canId : UInt8) (past : List (PcArmDataData × Int)) (pktBuf : PacketBuffer) :
    Prop :=
  pktBuf = .zero ∨ Collecting canId past pktBuf

theorem PacketBuffer.Inv.skip {pktBuf : PacketBuffer} (h : pktBuf.Inv canId past)
    {other : PcArmDataData × Int} (hother : ¬ Opens canId other.1) :
    pktBuf.Inv canId (past ++ [other]) := by
  rcases h with h | h
  · exact Or.inl h
  · exact Or.inr ⟨h.active, h.length_eq, h.total_le, h.received_pos, h.received_lt,
      h.collected.skip hother⟩

theorem PacketBuffer.Inv.expire {pktBuf : PacketBuffer} (h : pktBuf.Inv canId past) (now : Int) :
    (pktBuf.expire now).Inv canId past := by
  rw [PacketBuffer.expire]
  split
  · exact Or.inl rfl
  · exact h

-- Storing the frame that is due appends it to the stored ones.
theorem PacketBuffer.take_store {pktBuf : PacketBuffer} {frame : PcArmDataData}
    (hlen : pktBuf.receivedPackets.toNat < pktBuf.frames.length)
    (hdue : frame.packetsNo.toUInt8 = pktBuf.receivedPackets) (now : Int) :
    (pktBuf.store frame now).frames.take (pktBuf.receivedPackets.toNat + 1) =
      pktBuf.frames.take pktBuf.receivedPackets.toNat ++ [frame] := by
  show (pktBuf.frames.set frame.packetsNo.toUInt8.toNat frame).take _ = _
  rw [hdue, List.take_succ_eq_append_getElem (by rw [List.length_set]; exact hlen),
    List.getElem_set_self, List.take_set_of_le (Nat.le_refl _)]

theorem PacketBuffer.toNat_received_store {pktBuf : PacketBuffer} (frame : PcArmDataData)
    (now : Int) (hlt : pktBuf.receivedPackets.toNat < 10) :
    (pktBuf.store frame now).receivedPackets.toNat = pktBuf.receivedPackets.toNat + 1 := by
  show (pktBuf.receivedPackets + 1).toNat = _
  rw [UInt8.toNat_add, UInt8.toNat_one]
  omega

-- The first packet of a message starts a collection.
theorem collecting_start {frame : PcArmDataData} (hfrag : IsFragment canId frame)
    (hno : frame.packetsNo.toUInt8 = 0) (hpos : ¬ frame.packetsSum.toUInt8 ≤ 0)
    (hle : ¬ frame.packetsSum.toUInt8 > dequeueBatchSize1) (past : List (PcArmDataData × Int))
    (now : Int) :
    Collecting canId (past ++ [(frame, now)])
      ((PacketBuffer.start frame.packetsSum.toUInt8).store frame now) := by
  have hten : dequeueBatchSize1.toNat = 10 := rfl
  have hne : frame.packetsSum.toUInt8.toNat ≠ 1 := fun h => hfrag.2.2 (UInt8.toNat_inj.mp h)
  rw [UInt8.le_iff_toNat_le, UInt8.toNat_zero] at hpos
  rw [gt_iff_lt, UInt8.lt_iff_toNat_lt, hten] at hle
  have hreceived : ((PacketBuffer.start frame.packetsSum.toUInt8).store frame now).receivedPackets =
      1 := rfl
  refine ⟨rfl, ?_, ?_, ?_, ?_, ?_⟩
  · show ((PacketBuffer.start _).frames.set _ frame).length = 10
    rw [List.length_set]
    rfl
  · show frame.packetsSum.toUInt8.toNat ≤ 10
    omega
  · rw [hreceived]
    decide
  · show (1 : UInt8).toNat < frame.packetsSum.toUInt8.toNat
    rw [UInt8.toNat_one]
    omega
  · have hroom : (PacketBuffer.start frame.packetsSum.toUInt8).receivedPackets.toNat <
        (PacketBuffer.start frame.packetsSum.toUInt8).frames.length := by
      show 0 < (List.replicate dequeueBatchSize1.toNat (default : PcArmDataData)).length
      rw [List.length_replicate]
      decide
    have htake := PacketBuffer.take_store hroom hno now
    rw [hreceived]
    show Collected canId _ (List.take
      ((PacketBuffer.start frame.packetsSum.toUInt8).receivedPackets.toNat + 1) _) _
    rw [htake]
    exact Collected.opening hfrag hno past now

-- One frame of a multi-packet message: the buffer stays in order, and what is sent is a complete
-- message whose last fragment is this frame.
theorem handleMultiPacket_spec {pktBuf : PacketBuffer} (h : pktBuf.Inv canId past)
    {frame : PcArmDataData} (hfrag : IsFragment canId frame) (now : Int) :
    (handleMultiPacket pktBuf frame now).2.Inv canId (past ++ [(frame, now)]) ∧
      ∀ frames, (handleMultiPacket pktBuf frame now).1 = .burst frames →
        ∃ fragments, frames = fragments ++ [frame] ∧
          frame.packetsNo.toUInt8.toNat = fragments.length ∧
            Collected canId past fragments frames.length := by
  have hexp := h.expire now
  unfold handleMultiPacket
  generalize pktBuf.expire now = buf at hexp
  simp only
  by_cases hno : frame.packetsNo.toUInt8 = 0
  · by_cases hill : frame.packetsSum.toUInt8 ≤ 0 ∨ frame.packetsSum.toUInt8 > dequeueBatchSize1
    · -- An illegal total: the frame is dropped and the buffer left alone.
      rw [if_pos ⟨hno, hill⟩]
      refine ⟨hexp.skip ?_, nofun⟩
      intro hopens
      have hten : dequeueBatchSize1.toNat = 10 := rfl
      have hrange : 2 ≤ frame.packetsSum.toUInt8.toNat ∧ frame.packetsSum.toUInt8.toNat ≤ 10 :=
        hopens.2.2.2
      rw [UInt8.le_iff_toNat_le, UInt8.toNat_zero, gt_iff_lt, UInt8.lt_iff_toNat_lt, hten] at hill
      omega
    · -- The first packet of a message, whatever the buffer held before.
      have hpos : ¬ frame.packetsSum.toUInt8 ≤ 0 := fun h => hill (Or.inl h)
      have hstart : ¬ (¬ (PacketBuffer.start frame.packetsSum.toUInt8).isActive = true ∨
          frame.packetsNo.toUInt8 ≥
            (PacketBuffer.start frame.packetsSum.toUInt8).totalPackets) := by
        intro hor
        rcases hor with hact | hseq
        · exact hact rfl
        · rw [hno] at hseq
          exact hpos hseq
      rw [if_neg (fun h => hill h.2), if_pos hno, if_neg hstart,
        if_neg (fun h => h hno), if_neg (fun h => hfrag.2.2 h.symm)]
      refine ⟨Or.inr (collecting_start hfrag hno hpos (fun h => hill (Or.inr h)) past now), nofun⟩
  · rw [if_neg (fun h => hno h.1), if_neg hno]
    by_cases hout : ¬ buf.isActive = true ∨ frame.packetsNo.toUInt8 ≥ buf.totalPackets
    · rw [if_pos hout]
      exact ⟨hexp.skip (fun hopens => hno hopens.2.2.1), nofun⟩
    rw [if_neg hout]
    by_cases hgap : frame.packetsNo.toUInt8 = buf.receivedPackets
    · -- The fragment that is due.
      obtain rfl | hcol := hexp
      · exact absurd (Or.inl (by decide)) hout
      rw [if_neg (fun h => h hgap)]
      have hlt := hcol.received_lt
      have htotal := hcol.total_le
      have hroom : buf.receivedPackets.toNat < buf.frames.length := by
        rw [hcol.length_eq]
        omega
      have htake := PacketBuffer.take_store hroom hgap now
      have hreceived := PacketBuffer.toNat_received_store frame now
        (show buf.receivedPackets.toNat < 10 by omega)
      have hlen : (buf.frames.take buf.receivedPackets.toNat).length =
          buf.receivedPackets.toNat := by
        rw [List.length_take]
        omega
      have hdue : frame.packetsNo.toUInt8.toNat =
          (buf.frames.take buf.receivedPackets.toNat).length := by rw [hlen, hgap]
      by_cases hfull : (buf.store frame now).receivedPackets = (buf.store frame now).totalPackets
      · rw [if_pos hfull]
        refine ⟨Or.inl rfl, ?_⟩
        intro frames hframes
        have hsum : buf.totalPackets.toNat = buf.receivedPackets.toNat + 1 := by
          rw [← hreceived, hfull]
          rfl
        obtain rfl : (buf.store frame now).frames.take buf.totalPackets.toNat = frames :=
          TxExit.burst.inj hframes
        refine ⟨buf.frames.take buf.receivedPackets.toNat, ?_, hdue, ?_⟩
        · rw [hsum, htake]
        · rw [hsum, htake, List.length_append, hlen, List.length_singleton, ← hsum]
          exact hcol.collected
      · rw [if_neg hfull]
        refine ⟨Or.inr ⟨hcol.active, ?_, htotal, ?_, ?_, ?_⟩, nofun⟩
        · show (buf.frames.set _ frame).length = 10
          rw [List.length_set, hcol.length_eq]
        · rw [hreceived]
          exact Nat.succ_pos _
        · have hne : (buf.store frame now).receivedPackets.toNat ≠ buf.totalPackets.toNat :=
            fun h => hfull (UInt8.toNat_inj.mp h)
          rw [hreceived] at hne ⊢
          show _ < buf.totalPackets.toNat
          omega
        · rw [hreceived, htake]
          exact hcol.collected.next hfrag hdue now
    · rw [if_pos hgap]
      exact ⟨Or.inl rfl, nofun⟩

-- One pass of the loop, whatever frame it takes.
theorem axicanDataSendIteration_spec {pktBuf : PacketBuffer} (h : pktBuf.Inv canId past)
    (dequeued : PcArmDataData × Int) :
    (axicanDataSendIteration canId pktBuf dequeued).2.Inv canId (past ++ [dequeued]) ∧
      ∀ frames, (axicanDataSendIteration canId pktBuf dequeued).1 = .burst frames →
        IsFragment canId dequeued.1 ∧ ∃ fragments, frames = fragments ++ [dequeued.1] ∧
          dequeued.1.packetsNo.toUInt8.toNat = fragments.length ∧
            Collected canId past fragments frames.length := by
  obtain ⟨frame, now⟩ := dequeued
  simp only [axicanDataSendIteration]
  by_cases hhead : frame.head = pcStatusHead
  · by_cases hch : frame.chId = canId
    · by_cases hone : frame.packetsSum.toUInt8 = 1
      · rw [if_neg (fun h => h hhead), if_neg (fun h => h hch), if_pos hone]
        refine ⟨h.skip ?_, nofun⟩
        intro hopens
        have hrange : 2 ≤ frame.packetsSum.toUInt8.toNat := hopens.2.2.2.1
        rw [hone, UInt8.toNat_one] at hrange
        omega
      · rw [if_neg (fun h => h hhead), if_neg (fun h => h hch), if_neg hone]
        have hspec := handleMultiPacket_spec h ⟨hhead, hch, hone⟩ now
        exact ⟨hspec.1, fun frames hframes => ⟨⟨hhead, hch, hone⟩, hspec.2 frames hframes⟩⟩
    · rw [if_neg (fun h => h hhead), if_pos hch]
      exact ⟨h.skip (fun hopens => hch hopens.2.1), nofun⟩
  · rw [if_pos hhead]
    exact ⟨h.skip (fun hopens => hhead hopens.1), nofun⟩

/-! ## Runs -/

/-- The exits of successive passes from a zeroed buffer, and the buffer they leave. -/
def txRun (canId : UInt8) (dequeued : List (PcArmDataData × Int)) : List TxExit × PacketBuffer :=
  Transducer.run (axicanDataSendIteration canId) dequeued .zero

theorem txRun_inv (canId : UInt8) (dequeued : List (PcArmDataData × Int)) :
    (txRun canId dequeued).2.Inv canId dequeued :=
  Transducer.run_history (PacketBuffer.Inv canId) (Or.inl rfl)
    (fun _ _ d h => (axicanDataSendIteration_spec h d).1) dequeued

theorem toNat_toUInt8_of_lt {x : UInt16} (h : x < 256) : x.toUInt8.toNat = x.toNat := by
  rw [UInt16.lt_iff_toNat_lt] at h
  rw [UInt16.toNat_toUInt8]
  exact Nat.mod_eq_of_lt h

/-- **What a burst is made of.**  When the frame dequeued after `past` completes a burst of `n`
    frames, they are numbered in order, the first announces `n` packets, and since that first one
    was dequeued no frame that would open another message was. -/
theorem burst_fragments (canId : UInt8) (past : List (PcArmDataData × Int)) (last : PcArmDataData)
    (now : Int) (frames : List PcArmDataData)
    (hsmall : ∀ d ∈ past ++ [(last, now)], d.1.packetsNo < 256 ∧ d.1.packetsSum < 256)
    (hburst : (axicanDataSendIteration canId (txRun canId past).2 (last, now)).1 = .burst frames) :
    (∀ (i : Nat) (frame : PcArmDataData), frames[i]? = some frame → frame.packetsNo.toNat = i) ∧
      (∀ frame ∈ frames,
        frame.head = pcStatusHead ∧ frame.chId = canId ∧ frame.packetsSum ≠ 1) ∧
      ∃ before first between rest, past = before ++ first :: between ∧
        frames = first.1 :: (rest ++ [last]) ∧ rest.Sublist (between.map Prod.fst) ∧
        first.1.packetsSum.toNat = frames.length ∧
        ∀ other ∈ between, ¬ (other.1.head = pcStatusHead ∧ other.1.chId = canId ∧
          other.1.packetsNo = 0 ∧ 2 ≤ other.1.packetsSum.toNat ∧
            other.1.packetsSum.toNat ≤ 10) := by
  obtain ⟨hfragment, fragments, rfl, hlast, hcol⟩ :=
    (axicanDataSendIteration_spec (txRun_inv canId past) (last, now)).2 frames hburst
  obtain ⟨before, first, between, rest, hpast, hfrag, hsub, hsum, hbetween⟩ := hcol.origin
  have hmem : ∀ frame ∈ fragments ++ [last], ∃ d ∈ past ++ [(last, now)], d.1 = frame := by
    intro frame hframe
    rw [hpast]
    rcases List.mem_append.mp hframe with hf | hf
    · rw [hfrag] at hf
      rcases List.mem_cons.mp hf with rfl | hf
      · exact ⟨first, by simp, rfl⟩
      · obtain ⟨d, hd, rfl⟩ := List.mem_map.mp (hsub.subset hf)
        exact ⟨d, by simp [hd], rfl⟩
    · exact ⟨(last, now), by simp, (List.mem_singleton.mp hf).symm⟩
  have hall := hcol.next hfragment hlast now
  refine ⟨?_, ?_, before, first, between, rest, hpast, by rw [hfrag, List.cons_append], hsub,
    ?_, ?_⟩
  · intro i frame hi
    obtain ⟨d, hd, rfl⟩ := hmem frame (List.mem_of_getElem? hi)
    rw [← toNat_toUInt8_of_lt (hsmall d hd).1]
    exact hall.numbered i d.1 hi
  · intro frame hframe
    have hpart := hall.fragment frame hframe
    refine ⟨hpart.1, hpart.2.1, ?_⟩
    intro hone
    apply hpart.2.2
    rw [hone]
    rfl
  · have hfirst : first ∈ past ++ [(last, now)] := by
      rw [hpast]
      simp
    rw [← toNat_toUInt8_of_lt (hsmall first hfirst).2, hsum]
  · intro other hother hopens
    have hin : other ∈ past ++ [(last, now)] := by
      rw [hpast]
      simp [hother]
    have hsmall' := toNat_toUInt8_of_lt (hsmall other hin).2
    refine hbetween other hother ⟨hopens.1, hopens.2.1, ?_, ?_⟩
    · rw [hopens.2.2.1]
      rfl
    · rw [hsmall']
      exact hopens.2.2.2

/-- A fragment for channel 0, as the transmit thread dequeues it. -/
def fragmentOf (packetsSum packetsNo : UInt16) : PcArmDataData :=
  { (default : PcArmDataData) with
    head := pcStatusHead, packetsSum := packetsSum, packetsNo := packetsNo }

theorem burst_fragments_pair :
    ∃ before first between rest, [(fragmentOf 2 0, (5 : Int))] = before ++ first :: between ∧
      [fragmentOf 2 0, fragmentOf 2 1] = first.1 :: (rest ++ [fragmentOf 2 1]) ∧
      rest.Sublist (between.map Prod.fst) ∧
      first.1.packetsSum.toNat = [fragmentOf 2 0, fragmentOf 2 1].length ∧
      ∀ other ∈ between, ¬ (other.1.head = pcStatusHead ∧ other.1.chId = 0 ∧
        other.1.packetsNo = 0 ∧ 2 ≤ other.1.packetsSum.toNat ∧ other.1.packetsSum.toNat ≤ 10) :=
  (burst_fragments 0 [(fragmentOf 2 0, 5)] (fragmentOf 2 1) 5 [fragmentOf 2 0, fragmentOf 2 1]
    (by decide) (by decide)).2.2

-- A burst takes a fragment of another total, and a frame with number 0 that is dropped (for its
-- total, its head or its channel) does not end the message.
theorem burst_mixes_totals :
    ((txRun 0 [(fragmentOf 2 0, 5), (fragmentOf 3 1, 5)]).1 =
        [.stored, .burst [fragmentOf 2 0, fragmentOf 3 1]] ∧
      (fragmentOf 3 1).packetsSum.toNat ≠ [fragmentOf 2 0, fragmentOf 3 1].length) ∧
    ∀ dropped ∈ [fragmentOf 11 0, { fragmentOf 2 0 with head := 0 },
        { fragmentOf 2 0 with chId := 1 }],
      (txRun 0 [(fragmentOf 2 0, 5), (dropped, 5), (fragmentOf 2 1, 5)]).1[2]? =
          some (.burst [fragmentOf 2 0, fragmentOf 2 1]) ∧
        dropped.packetsNo = 0 ∧ dropped.packetsSum ≠ 1 := by
  decide

end CanGateway
