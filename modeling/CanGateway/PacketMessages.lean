import Mathlib.Data.List.Chain
import CanGateway.TransmitThread

/-!
# Messages of several packets

A well-formed message gets through the transmit thread from whatever an earlier one left in the
packet buffer.  Which frames count as well formed is decided on the low bytes of `packets_sum` and
`packets_no`.
-/

namespace CanGateway

/-- Both checks the loop body makes of a dequeued frame. -/
def PassesChecks (canId : UInt8) (frame : PcArmDataData) : Prop :=
  frame.head = pcStatusHead ∧ frame.chId = canId

variable {canId : UInt8}

theorem axicanDataSendIteration_checked {frame : PcArmDataData} (h : PassesChecks canId frame)
    (pktBuf : PacketBuffer) (now : Int) :
    axicanDataSendIteration canId pktBuf (frame, now) =
      if frame.packetsSum.toUInt8 = 1 then (.single frame, pktBuf)
      else handleMultiPacket pktBuf frame now := by
  simp only [axicanDataSendIteration]
  rw [if_neg (not_not.mpr h.1), if_neg (not_not.mpr h.2)]

/-- The multi-packet part from the check of the packet state on. -/
def PacketBuffer.takeFragment (pktBuf : PacketBuffer) (currFrame : PcArmDataData)
    (currentTime : Int) : TxExit × PacketBuffer :=
  if ¬ pktBuf.isActive ∨ currFrame.packetsNo.toUInt8 ≥ pktBuf.totalPackets then (.inactive, pktBuf)
  else if currFrame.packetsNo.toUInt8 ≠ pktBuf.receivedPackets then (.gap, .zero)
  else
    let pktBuf := pktBuf.store currFrame currentTime
    if pktBuf.receivedPackets = pktBuf.totalPackets then
      (.burst (pktBuf.frames.take pktBuf.totalPackets.toNat), .zero)
    else (.stored, pktBuf)

theorem handleMultiPacket_eq (pktBuf : PacketBuffer) (frame : PcArmDataData) (now : Int) :
    handleMultiPacket pktBuf frame now =
      if frame.packetsNo.toUInt8 = 0 ∧
          (frame.packetsSum.toUInt8 ≤ 0 ∨ frame.packetsSum.toUInt8 > dequeueBatchSize1) then
        (.illegalTotal, pktBuf.expire now)
      else (if frame.packetsNo.toUInt8 = 0 then PacketBuffer.start frame.packetsSum.toUInt8
        else pktBuf.expire now).takeFragment frame now := rfl

/-! ## The fragments of one message -/

/-- The dequeued frames that are no single packets. -/
def fragmentsOf (passes : List (PcArmDataData × Int)) : List (PcArmDataData × Int) :=
  passes.filter fun d => d.1.packetsSum ≠ 1

/-- The passes dequeue fragments `i`, ..., `n - 1` of a message of `n` packets, in order and each at
    most a second of `time()` after the one before, and single-packet frames anywhere among them. -/
structure CarriesFragments (canId : UInt8) (n i : Nat) (passes : List (PcArmDataData × Int)) :
    Prop where
  checks : ∀ d ∈ passes, PassesChecks canId d.1
  totals : ∀ d ∈ fragmentsOf passes, d.1.packetsSum.toNat = n
  numbers : (fragmentsOf passes).map (fun d => d.1.packetsNo.toNat) = List.range' i (n - i)
  prompt : (fragmentsOf passes).IsChain fun d e => e.2 - d.2 ≤ 1

/-- What the pass of a frame should write: a single packet at once, a message with its last
    fragment. -/
def dueWrites (n : Nat) (message : List PcArmDataData) (d : PcArmDataData × Int) :
    List PcArmDataData :=
  if d.1.packetsSum = 1 then [d.1]
  else if d.1.packetsNo.toNat + 1 = n then message
  else []

section Fragments

variable {n i : Nat} {d : PcArmDataData × Int} {rest : List (PcArmDataData × Int)}

theorem fragmentsOf_single (h : d.1.packetsSum = 1) : fragmentsOf (d :: rest) = fragmentsOf rest :=
  List.filter_cons_of_neg (by simp [h])

theorem fragmentsOf_fragment (h : d.1.packetsSum ≠ 1) :
    fragmentsOf (d :: rest) = d :: fragmentsOf rest :=
  List.filter_cons_of_pos (by simp [h])

theorem CarriesFragments.of_single (h : CarriesFragments canId n i (d :: rest))
    (hone : d.1.packetsSum = 1) : CarriesFragments canId n i rest := by
  obtain ⟨hchecks, htotals, hnumbers, hprompt⟩ := h
  rw [fragmentsOf_single hone] at htotals hnumbers hprompt
  exact ⟨fun e he => hchecks e (List.mem_cons_of_mem _ he), htotals, hnumbers, hprompt⟩

-- The next fragment, and what comes after it.
theorem CarriesFragments.of_fragment (h : CarriesFragments canId n i (d :: rest)) (hi : i < n)
    (hone : d.1.packetsSum ≠ 1) :
    d.1.packetsSum.toNat = n ∧ d.1.packetsNo.toNat = i ∧ CarriesFragments canId n (i + 1) rest ∧
      ∀ e ∈ (fragmentsOf rest).head?, e.2 - d.2 ≤ 1 := by
  obtain ⟨hchecks, htotals, hnumbers, hprompt⟩ := h
  have hsplit : n - i = n - (i + 1) + 1 := by omega
  rw [fragmentsOf_fragment hone] at htotals hnumbers hprompt
  rw [List.map_cons, hsplit, List.range'_succ, List.cons.injEq] at hnumbers
  rw [List.isChain_cons] at hprompt
  refine ⟨htotals d List.mem_cons_self, hnumbers.1, ⟨?_, ?_, hnumbers.2, hprompt.2⟩, hprompt.1⟩
  · exact fun e he => hchecks e (List.mem_cons_of_mem _ he)
  · exact fun e he => htotals e (List.mem_cons_of_mem _ he)

end Fragments

/-! ## The buffer while a message arrives -/

/-- The buffer holds the fragments stored so far of a message of `n` packets. -/
structure Holding (n : Nat) (stored : List PcArmDataData) (last : Int) (pktBuf : PacketBuffer) :
    Prop where
  active : pktBuf.isActive = true
  length_eq : pktBuf.frames.length = 10
  total : pktBuf.totalPackets.toNat = n
  received : pktBuf.receivedPackets.toNat = stored.length
  frames : pktBuf.frames.take stored.length = stored
  time : pktBuf.lastReceiveTime = last

section Steps

variable {n : Nat} {stored : List PcArmDataData} {last now : Int} {pktBuf : PacketBuffer}
  {frame : PcArmDataData}

-- The first packet meets a buffer started for it, whatever the buffer was.
theorem holding_start {total : UInt8} (h : total.toNat = n) :
    Holding n [] 0 (PacketBuffer.start total) :=
  ⟨rfl, rfl, h, rfl, rfl, rfl⟩

theorem Holding.expire (h : Holding n stored last pktBuf) (hnow : now - last ≤ 1) :
    pktBuf.expire now = pktBuf := by
  rw [PacketBuffer.expire, if_neg]
  rintro ⟨_, hlate⟩
  rw [h.time, packetTimeout] at hlate
  omega

-- The due fragment is stored behind the others.
theorem Holding.store (h : Holding n stored last pktBuf) (hn : n ≤ 10) (hroom : stored.length < n)
    (hno : frame.packetsNo.toUInt8 = pktBuf.receivedPackets) :
    Holding n (stored ++ [frame]) now (pktBuf.store frame now) := by
  have hreceived := h.received
  have hlen : (stored ++ [frame]).length = pktBuf.receivedPackets.toNat + 1 := by
    rw [List.length_append, List.length_singleton, hreceived]
  refine ⟨h.active, ?_, h.total, ?_, ?_, rfl⟩
  · show (pktBuf.frames.set _ frame).length = 10
    rw [List.length_set, h.length_eq]
  · rw [hlen, PacketBuffer.toNat_received_store frame now (by omega)]
  · rw [hlen, PacketBuffer.take_store (by rw [h.length_eq]; omega) hno now, hreceived, h.frames]

-- The due fragment passes the checks.
theorem Holding.takeFragment (h : Holding n stored last pktBuf) (hn : n ≤ 10)
    (hroom : stored.length < n) (hno : frame.packetsNo.toUInt8.toNat = stored.length) :
    let r := pktBuf.takeFragment frame now
    if stored.length + 1 = n then r = (.burst (stored ++ [frame]), .zero)
    else r.1 = .stored ∧ Holding n (stored ++ [frame]) now r.2 := by
  intro r
  have hdue : frame.packetsNo.toUInt8 = pktBuf.receivedPackets :=
    UInt8.toNat_inj.mp (hno.trans h.received.symm)
  have hstored : Holding n (stored ++ [frame]) now (pktBuf.store frame now) :=
    h.store hn hroom hdue
  have hreceived := hstored.received
  have hframes := hstored.frames
  rw [List.length_append, List.length_singleton] at hreceived hframes
  have hactive : ¬ (¬ pktBuf.isActive = true ∨ frame.packetsNo.toUInt8 ≥ pktBuf.totalPackets) := by
    rintro (hact | hge)
    · exact hact h.active
    · rw [ge_iff_le, UInt8.le_iff_toNat_le, h.total, hno] at hge
      omega
  have hfull : (pktBuf.store frame now).receivedPackets = (pktBuf.store frame now).totalPackets ↔
      stored.length + 1 = n := by
    rw [← UInt8.toNat_inj, hreceived, hstored.total]
  have hr : r = if (pktBuf.store frame now).receivedPackets =
      (pktBuf.store frame now).totalPackets then
        (.burst ((pktBuf.store frame now).frames.take (pktBuf.store frame now).totalPackets.toNat),
          .zero)
      else (.stored, pktBuf.store frame now) := by
    show pktBuf.takeFragment frame now = _
    rw [PacketBuffer.takeFragment, if_neg hactive, if_neg (not_not.mpr hdue)]
  by_cases hlast : stored.length + 1 = n
  · rw [if_pos hlast, hr, if_pos (hfull.mpr hlast), hstored.total, ← hlast, hframes]
  · rw [if_neg hlast, hr, if_neg (fun h => hlast (hfull.mp h))]
    exact ⟨rfl, hstored⟩

-- One fragment of the message: the first from any buffer, the others from one that holds those
-- before it.
theorem handleMultiPacket_fragment (hn : n ≤ 10) (hroom : stored.length < n)
    (hheld : stored = [] ∨ Holding n stored last pktBuf ∧ now - last ≤ 1)
    (hsum : frame.packetsSum.toNat = n) (hno : frame.packetsNo.toNat = stored.length) :
    let r := handleMultiPacket pktBuf frame now
    if stored.length + 1 = n then r = (.burst (stored ++ [frame]), .zero)
    else r.1 = .stored ∧ Holding n (stored ++ [frame]) now r.2 := by
  have hno8 : frame.packetsNo.toUInt8.toNat = stored.length := by
    rw [UInt16.toNat_toUInt8, hno]
    omega
  have hsum8 : frame.packetsSum.toUInt8.toNat = n := by
    rw [UInt16.toNat_toUInt8, hsum]
    omega
  have hlegal : ¬ (frame.packetsNo.toUInt8 = 0 ∧
      (frame.packetsSum.toUInt8 ≤ 0 ∨ frame.packetsSum.toUInt8 > dequeueBatchSize1)) := by
    have hten : dequeueBatchSize1.toNat = 10 := rfl
    rw [UInt8.le_iff_toNat_le, gt_iff_lt, UInt8.lt_iff_toNat_lt, hsum8, UInt8.toNat_zero, hten]
    omega
  rw [handleMultiPacket_eq, if_neg hlegal]
  by_cases hfirst : stored = []
  · subst hfirst
    have hzero : frame.packetsNo.toUInt8 = 0 := UInt8.toNat_inj.mp hno8
    rw [if_pos hzero]
    exact (holding_start hsum8).takeFragment hn hroom hno8
  · obtain hnil | ⟨hholding, hnow⟩ := hheld
    · exact absurd hnil hfirst
    have hpos : 0 < stored.length := List.length_pos_iff.mpr hfirst
    have hne : frame.packetsNo.toUInt8 ≠ 0 := by
      rw [Ne, ← UInt8.toNat_inj, hno8, UInt8.toNat_zero]
      omega
    rw [if_neg hne, hholding.expire hnow]
    exact hholding.takeFragment hn hroom hno8

end Steps

/-! ## Delivery -/

-- Single packets are written one by one and leave the buffer alone.
theorem run_singles (passes : List (PcArmDataData × Int)) (pktBuf : PacketBuffer)
    (hchecks : ∀ d ∈ passes, PassesChecks canId d.1) (hsingles : fragmentsOf passes = [])
    (n : Nat) (message : List PcArmDataData) :
    (Transducer.run (axicanDataSendIteration canId) passes pktBuf).1.map TxExit.sent =
        passes.map (dueWrites n message) ∧
      (Transducer.run (axicanDataSendIteration canId) passes pktBuf).2 = pktBuf := by
  induction passes with
  | nil => exact ⟨rfl, rfl⟩
  | cons d rest ih =>
      have hone : d.1.packetsSum = 1 := by
        by_contra hne
        rw [fragmentsOf_fragment hne] at hsingles
        cases hsingles
      rw [fragmentsOf_single hone] at hsingles
      have hstep : axicanDataSendIteration canId pktBuf d = (.single d.1, pktBuf) := by
        rw [axicanDataSendIteration_checked (hchecks d List.mem_cons_self), hone]
        rfl
      obtain ⟨hsent, hbuf⟩ := ih (fun e he => hchecks e (List.mem_cons_of_mem _ he)) hsingles
      simp only [Transducer.run, hstep, List.map_cons, hsent, hbuf]
      rw [dueWrites, if_pos hone]
      exact ⟨rfl, trivial⟩

-- The induction is on the passes; the buffer holds the fragments that went before.
theorem run_fragments {n : Nat} (hn : 2 ≤ n) (hn' : n ≤ 10) (passes : List (PcArmDataData × Int))
    (stored : List PcArmDataData) (last : Int) (pktBuf : PacketBuffer) (hroom : stored.length < n)
    (hheld : stored = [] ∨ Holding n stored last pktBuf ∧
      ∀ d ∈ (fragmentsOf passes).head?, d.2 - last ≤ 1)
    (h : CarriesFragments canId n stored.length passes) :
    (Transducer.run (axicanDataSendIteration canId) passes pktBuf).1.map TxExit.sent =
        passes.map (dueWrites n (stored ++ (fragmentsOf passes).map Prod.fst)) ∧
      (Transducer.run (axicanDataSendIteration canId) passes pktBuf).2 = .zero := by
  induction passes generalizing stored last pktBuf with
  | nil =>
      have hlen := congrArg List.length h.numbers
      rw [List.length_range'] at hlen
      change 0 = _ at hlen
      omega
  | cons d rest ih =>
      have hchecks := h.checks d List.mem_cons_self
      by_cases hone : d.1.packetsSum = 1
      · -- a single-packet frame in between
        have hstep : axicanDataSendIteration canId pktBuf d = (.single d.1, pktBuf) := by
          rw [axicanDataSendIteration_checked hchecks, hone]
          rfl
        rw [fragmentsOf_single hone] at hheld ⊢
        obtain ⟨hsent, hbuf⟩ := ih stored last pktBuf hroom hheld (h.of_single hone)
        simp only [Transducer.run, hstep, List.map_cons, hsent, hbuf]
        rw [dueWrites, if_pos hone]
        exact ⟨rfl, trivial⟩
      obtain ⟨hsum, hno, hrest, hnext⟩ := h.of_fragment hroom hone
      have hmulti : axicanDataSendIteration canId pktBuf d = handleMultiPacket pktBuf d.1 d.2 := by
        rw [axicanDataSendIteration_checked hchecks, if_neg]
        rw [← UInt8.toNat_inj, UInt16.toNat_toUInt8, hsum, UInt8.toNat_one]
        omega
      have hheld' : stored = [] ∨ Holding n stored last pktBuf ∧ d.2 - last ≤ 1 := by
        rw [fragmentsOf_fragment hone] at hheld
        exact hheld.imp_right fun held => ⟨held.1, held.2 d rfl⟩
      have hfragment := handleMultiPacket_fragment hn' hroom hheld' hsum hno
      have hmessage : stored ++ (fragmentsOf (d :: rest)).map Prod.fst =
          stored ++ [d.1] ++ (fragmentsOf rest).map Prod.fst := by
        rw [fragmentsOf_fragment hone, List.map_cons, List.append_cons]
      rw [hmessage]
      simp only [Transducer.run, hmulti, List.map_cons]
      rw [dueWrites, if_neg hone, hno]
      by_cases hlast : stored.length + 1 = n
      · -- the last fragment: only single-packet frames can follow
        rw [if_pos hlast] at hfragment
        have hnone : fragmentsOf rest = [] := by
          have hnumbers := hrest.numbers
          rw [← hlast, Nat.sub_self] at hnumbers
          exact List.map_eq_nil_iff.mp hnumbers
        obtain ⟨hsent, hbuf⟩ := run_singles rest .zero hrest.checks hnone n
          (stored ++ [d.1] ++ (fragmentsOf rest).map Prod.fst)
        rw [hfragment, if_pos hlast, hsent, hbuf]
        refine ⟨?_, rfl⟩
        rw [hnone, List.map_nil, List.append_nil]
        rfl
      · rw [if_neg hlast] at hfragment
        have hlen : (stored ++ [d.1]).length = stored.length + 1 := by
          rw [List.length_append, List.length_singleton]
        obtain ⟨hsent, hbuf⟩ := ih (stored ++ [d.1]) d.2 _ (by omega)
          (Or.inr ⟨hfragment.2, hnext⟩) (by rw [hlen]; exact hrest)
        rw [if_neg hlast, hsent, hbuf, hfragment.1]
        exact ⟨rfl, rfl⟩

/-- **A well-formed message is delivered.**  From any packet buffer: each single packet is written
    by its own pass, no fragment before the last one arrives, and the pass of the last one writes
    the whole message in order and zeroes the buffer. -/
theorem message_delivered (canId : UInt8) (n : Nat) (hn : 2 ≤ n) (hn' : n ≤ 10)
    (passes : List (PcArmDataData × Int)) (h : CarriesFragments canId n 0 passes)
    (pktBuf : PacketBuffer) :
    let run := Transducer.run (axicanDataSendIteration canId) passes pktBuf
    run.1.map TxExit.sent =
        passes.map (dueWrites n ((fragmentsOf passes).map Prod.fst)) ∧ run.2 = .zero :=
  run_fragments hn hn' passes [] 0 pktBuf (by exact Nat.lt_of_lt_of_le Nat.zero_lt_two hn)
    (Or.inl rfl) h

/-- A message of two packets with a single packet between its fragments. -/
def interleavedMessage : List (PcArmDataData × Int) :=
  [(fragmentOf 2 0, 5), (fragmentOf 1 0, 9), (fragmentOf 2 1, 6)]

theorem message_delivered_interleaved :
    let run := Transducer.run (axicanDataSendIteration 0) interleavedMessage
      (txRun 0 [(fragmentOf 3 0, 5), (fragmentOf 3 1, 5)]).2
    run.1.map TxExit.sent = [[], [fragmentOf 1 0], [fragmentOf 2 0, fragmentOf 2 1]] ∧
      run.2 = .zero := by
  have hcarries : CarriesFragments 0 2 0 interleavedMessage :=
    ⟨by unfold PassesChecks; decide, by decide, by decide, by decide⟩
  exact message_delivered 0 2 (by decide) (by decide) interleavedMessage hcarries _

/-! ## The width of the fields -/

section Passes

variable {past : List (PcArmDataData × Int)} {pktBuf : PacketBuffer} {frame : PcArmDataData}
  {now : Int}

end Passes

end CanGateway
