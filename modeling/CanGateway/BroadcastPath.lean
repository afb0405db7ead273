import CanGateway.BroadcastStorage
import CanGateway.Library.History
import CanGateway.PacketIntegrity
import CanGateway.PpsInterrupt

/-!
# Broadcast frames from port 9012 to the CAN driver

The download packets, the scheduler, the PPS interrupt with its thread and the six broadcast threads
run together, one atomic step of one of them at a time.  What a broadcast thread writes on its
channel are the frames of the accepted groups, in the order in which they were accepted, and no
group goes out without a PPS interrupt of its own.
-/

open ByteMemory

namespace CanGateway

/-! ## The system -/

/-- Where `broadcast_can_send_thread` stands: at its wait, behind it, before
    `send_broadcast_group_for_channel`, and in its loop with `i` frames written. -/
inductive SenderPc where
  | waiting
  | woken
  | taken (group : BroadcastFrameGroup)
  | sending (group : BroadcastFrameGroup) (i : Nat)

structure BroadcastPath where
  pps : PpsSystem
  gateway : GatewayState
  senders : UInt8 → SenderPc

/-- As `main` starts the threads. -/
def BroadcastPath.initial (gateway : GatewayState) : BroadcastPath where
  pps := .probed
  gateway := gateway
  senders := fun _ => .waiting

def BroadcastPath.setSender (s : BroadcastPath) (ch : UInt8) (pc : SenderPc) : BroadcastPath :=
  { s with senders := fun c => if c = ch then pc else s.senders c }

def BroadcastPath.setBcast (s : BroadcastPath) (bcast : BroadcastSystem) : BroadcastPath :=
  { s with gateway := { s.gateway with bcast := bcast } }

/-- `pps` is a step of the interrupt or its thread, at the time `now`; `packet` a packet of port
    9012; `config` a broadcast configuration; `channels` a change of `can_configs`; `sender` the
    next step of the thread of channel `ch`, whose `write` returns `rc`. -/
inductive PathCall where
  | pps (act : PpsAct) (now : UInt64)
  | packet (packet : DataPacket) (now : UInt64)
  | config (payload : List UInt8)
  | channels (configs : CanConfigs)
  | sender (ch : UInt8) (rc : Int)

/-- A packet of broadcast frames that was accepted, and the number its group was given. -/
structure AcceptedPacket where
  packet : DataPacket
  groupId : UInt32

namespace AcceptedPacket

/-- The 48-byte records of the packet. -/
def records (p : AcceptedPacket) : List (List UInt8) := payloadFrames p.packet.payload

/-- The group that the records are queued as. -/
def group (p : AcceptedPacket) : BroadcastFrameGroup :=
  broadcastGroupOf p.groupId (p.records.map PcArmDataData.ofBytes)

end AcceptedPacket

inductive PathAnswer where
  | pps (event : PpsEvent)
  | processed (wakeMask : UInt32)
  | accepted (ch : UInt8) (p : AcceptedPacket)
  | took (ch : UInt8) (group : BroadcastFrameGroup)
  | skipped (ch : UInt8)
  | wrote (ch : UInt8) (frame : AxicanFrame)
  | failed (ch : UInt8)
  | silent

/-- A packet that went to the queue of a channel, with the group number it took. -/
def packetAnswer (r : PacketOutcome × GatewayState) (packet : DataPacket) : PathAnswer :=
  match r.1 with
  | .broadcast ch => .accepted ch ⟨packet, r.2.bcast.st.groupId⟩
  | _ => .silent

/-- The next step of `broadcast_can_send_thread` of channel `ch`. -/
def senderStep (s : BroadcastPath) (ch : UInt8) (rc : Int) : PathAnswer × BroadcastPath :=
  match s.senders ch with
  | .waiting =>
      if s.gateway.bcast.st.pending ch ≠ 0 then (.silent, s.setSender ch .woken) else (.silent, s)
  | .woken =>
      let r := broadcastStep s.gateway.bcast (.take ch)
      match r.1.takenOn ch with
      | group :: _ => (.took ch group, (s.setBcast r.2).setSender ch (.taken group))
      | [] => (.silent, (s.setBcast r.2).setSender ch .waiting)
  | .taken group =>
      if (s.gateway.bcast.configs ch).state ≠ .opened then (.skipped ch, s.setSender ch .waiting)
      else (.silent, s.setSender ch (.sending group 0))
  | .sending group i =>
      if i < group.frameCount.toNat then
        if rc = sizeofAxicanFrame then
          (.wrote ch (group.frames.getD i default), s.setSender ch (.sending group (i + 1)))
        else (.failed ch, s.setSender ch .waiting)
      else (.silent, s.setSender ch .waiting)

def pathStep (s : BroadcastPath) : PathCall → PathAnswer × BroadcastPath
  | .pps act now =>
      let r := ppsStep s.pps act
      if r.1 = .processed then
        let w := processBroadcastPps now s.gateway.bcast.st
        (.processed w.1,
          { (s.setBcast { s.gateway.bcast with st := w.2 }) with pps := r.2 })
      else (.pps r.1, { s with pps := r.2 })
  | .packet packet now =>
      let r := dispatchPacket now s.gateway packet
      (packetAnswer r packet, { s with gateway := r.2 })
  | .config payload => (.silent, s.setBcast (broadcastStep s.gateway.bcast (.config payload)).2)
  | .channels configs => (.silent, s.setBcast { s.gateway.bcast with configs := configs })
  | .sender ch rc => senderStep s ch rc

/-! ## What a run did -/

namespace PathAnswer

def ppsEvent : PathAnswer → PpsEvent
  | pps event => event
  | processed _ => .processed
  | _ => .quiet

def packetsOn (ch : UInt8) : PathAnswer → List AcceptedPacket
  | accepted c p => if c = ch then [p] else []
  | _ => []

def acceptedOn (ch : UInt8) (answer : PathAnswer) : List BroadcastFrameGroup :=
  (answer.packetsOn ch).map AcceptedPacket.group

def tookOn (ch : UInt8) : PathAnswer → List BroadcastFrameGroup
  | took c group => if c = ch then [group] else []
  | _ => []

def wroteOn (ch : UInt8) : PathAnswer → List AxicanFrame
  | wrote c frame => if c = ch then [frame] else []
  | _ => []

/-- A group given up: refused on a closed channel, or left behind after a failed write. -/
def givesUp (ch : UInt8) : PathAnswer → Bool
  | skipped c => c = ch
  | failed c => c = ch
  | _ => false

def wakes (ch : UInt8) : PathAnswer → Bool
  | processed wakeMask => selectsChannel wakeMask ch
  | _ => false

end PathAnswer

section History

variable (ch : UInt8) (past : List PathAnswer)

/-- The packets accepted for channel `ch`, in order. -/
def pathPackets : List AcceptedPacket := past.flatMap (PathAnswer.packetsOn ch)
def pathAccepted : List BroadcastFrameGroup := past.flatMap (PathAnswer.acceptedOn ch)
def pathTaken : List BroadcastFrameGroup := past.flatMap (PathAnswer.tookOn ch)
/-- The frames the thread of channel `ch` has written. -/
def pathWritten : List AxicanFrame := past.flatMap (PathAnswer.wroteOn ch)
def pathGivenUp : Nat := past.countP (PathAnswer.givesUp ch)
/-- The PPS events that woke channel `ch`. -/
def pathWakes : Nat := past.countP (PathAnswer.wakes ch)

end History

def ppsEvents (past : List PathAnswer) : List PpsEvent := past.map PathAnswer.ppsEvent

theorem PathAnswer.acceptedOn_nil {ch : UInt8} {answer : PathAnswer}
    (h : answer.packetsOn ch = []) : answer.acceptedOn ch = [] := by
  rw [acceptedOn, h, List.map_nil]

theorem pathAccepted_eq (ch : UInt8) (past : List PathAnswer) :
    pathAccepted ch past = (pathPackets ch past).map AcceptedPacket.group := by
  rw [pathAccepted, pathPackets, List.map_flatMap]
  rfl

/-- What the download path has checked of a packet that it accepts for channel `ch`: 1 to 128 whole
    records, each of them a valid broadcast frame. -/
structure AcceptedPacket.Valid (ch : UInt8) (p : AcceptedPacket) : Prop where
  channel : p.packet.channel.toNat = ch.toNat
  whole : p.packet.payload.length % sizeofPcArmDataData = 0
  nonempty : 0 < p.records.length
  size : p.records.length ≤ bcastMaxFramesPerGroup
  records : ∀ record ∈ p.records, validate48byteCanPayload record = true ∧
    (PcArmDataData.ofBytes record).type = 0x02

/-- The group a thread holds and how many of its frames are written. -/
def SenderPc.held : SenderPc → List (BroadcastFrameGroup × Nat)
  | .waiting | .woken => []
  | .taken group => [(group, 0)]
  | .sending group i => [(group, i)]

/-- The first frames of a group, as its thread writes them. -/
def groupFrames (p : BroadcastFrameGroup × Nat) : List AxicanFrame := p.1.frames.take p.2

/-- A group with frames left. -/
def incomplete (p : BroadcastFrameGroup × Nat) : Bool := p.2 < p.1.frameCount.toNat

/-! ## The transactions -/

section Packets

variable {state : GatewayState} {bank : QueueBank BroadcastFrameGroup}

theorem packetAnswer_silent {r : PacketOutcome × GatewayState} {packet : DataPacket}
    (h : ∀ ch, r.1 ≠ .broadcast ch) : packetAnswer r packet = .silent := by
  unfold packetAnswer
  split
  next ch hr => exact absurd hr (h ch)
  · rfl

/-- What a packet does to the queues of groups: the group it is accepted as goes to the end of its
    queue. -/
structure PacketQueues (state : GatewayState) (bank : QueueBank BroadcastFrameGroup)
    (r : GatewayState) (answer : PathAnswer) : Prop where
  queues : ∃ bank', HoldsGroups r.bcast.st bank' ∧ ∀ ch : UInt8, ch.toNat < axicanMax →
    bank'.queue ch.toNat = bank.queue ch.toNat ++ answer.acceptedOn ch
  pending : r.bcast.st.pending = state.bcast.st.pending
  packets : ∀ ch, ∀ p ∈ answer.packetsOn ch, p.Valid ch
  quiet : answer.ppsEvent = .quiet ∧ ∀ ch, answer.tookOn ch = [] ∧ answer.wroteOn ch = [] ∧
    answer.givesUp ch = false ∧ answer.wakes ch = false

theorem PacketQueues.same (h : HoldsGroups state.bcast.st bank) {r : GatewayState}
    (hsame : r.bcast = state.bcast) : PacketQueues state bank r .silent where
  queues := ⟨bank, by rw [hsame]; exact h, fun _ _ => (List.append_nil _).symm⟩
  pending := by rw [hsame]
  packets := by
    intro ch p hmem
    cases hmem
  quiet := ⟨rfl, fun _ => ⟨rfl, rfl, rfl, rfl⟩⟩

-- Broadcast frames that passed their checks form a group.
theorem enqueueBroadcastPayload_queues (h : HoldsGroups state.bcast.st bank) {packet : DataPacket}
    (hwhole : packet.payload.length % sizeofPcArmDataData = 0)
    (hvalid : ∀ frame ∈ payloadFrames packet.payload, validate48byteCanPayload frame = true)
    (htypes : ∀ frame ∈ payloadFrames packet.payload, (PcArmDataData.ofBytes frame).type = 0x02)
    (hchannel : packet.channel.toNat < axicanMax) (now : UInt64) :
    let r := enqueueBroadcastPayload packet.channel.toUInt8 (payloadFrames packet.payload) now state
    PacketQueues state bank r.2 (packetAnswer r packet) := by
  have htarget : packet.channel.toUInt8.toNat = packet.channel.toNat := by
    unfold axicanMax at hchannel
    rw [UInt32.toNat_toUInt8]
    omega
  generalize packet.channel.toUInt8 = targetCh at htarget
  intro r
  obtain ⟨bank', hholds, hpending, hqueue⟩ := enqueueBroadcastGroup_spec h state.bcast.configs
    targetCh ((payloadFrames packet.payload).map PcArmDataData.ofBytes) now
  have hadmits := enqueueBroadcastGroup_admits h targetCh
    ((payloadFrames packet.payload).map PcArmDataData.ofBytes) now
  by_cases hret : (enqueueBroadcastGroup state.bcast.configs targetCh
      ((payloadFrames packet.payload).map PcArmDataData.ofBytes) now state.bcast.st).1 = 0
  · have hanswer : packetAnswer r packet = .accepted targetCh ⟨packet, r.2.bcast.st.groupId⟩ := by
      simp only [r, enqueueBroadcastPayload, packetAnswer, if_pos hret]
    rw [hanswer]
    refine ⟨⟨bank', hholds, ?_⟩, hpending, ?_, rfl, fun _ => ⟨rfl, rfl, rfl, rfl⟩⟩
    · intro ch hch
      rw [hqueue]
      by_cases hc : targetCh = ch
      · rw [if_pos ⟨hret, by rw [hc]⟩]
        simp only [PathAnswer.acceptedOn, PathAnswer.packetsOn, if_pos hc]
        rfl
      · rw [if_neg (fun h => hc (UInt8.toNat_inj.mp h.2.symm))]
        simp only [PathAnswer.acceptedOn, PathAnswer.packetsOn, if_neg hc, List.map_nil,
          List.append_nil]
    · intro ch p hmem
      simp only [PathAnswer.packetsOn] at hmem
      split at hmem
      next hc =>
        obtain rfl := List.mem_singleton.mp hmem
        have hsize := (hadmits.mp hret).size
        rw [List.length_map] at hsize
        exact ⟨by rw [← htarget, hc], hwhole, hsize.1, hsize.2,
          fun frame hframe => ⟨hvalid frame hframe, htypes frame hframe⟩⟩
      next => cases hmem
  · have hanswer : packetAnswer r packet = .silent := by
      simp only [r, enqueueBroadcastPayload, packetAnswer, if_neg hret]
    rw [hanswer]
    refine ⟨⟨bank', hholds, ?_⟩, hpending, ?_, rfl, fun _ => ⟨rfl, rfl, rfl, rfl⟩⟩
    · intro ch hch
      rw [hqueue, if_neg (fun h => hret h.1)]
      exact (List.append_nil _).symm
    · intro ch p hmem
      cases hmem

theorem enqueueNormalCanPayload_answer (frame : List UInt8) (packet : DataPacket)
    (state : GatewayState) :
    packetAnswer (enqueueNormalCanPayload frame state) packet = .silent := by
  apply packetAnswer_silent
  intro ch
  unfold enqueueNormalCanPayload
  dsimp only
  split
  · simp
  split
  · simp
  · split <;> simp

theorem enqueueDownload_answer (dataType : DataType) (canId : UInt8) (payload : List UInt8)
    (packet : DataPacket) (state : GatewayState) :
    packetAnswer (enqueueDownload dataType canId payload state) packet = .silent := by
  apply packetAnswer_silent
  intro ch
  cases dataType with
  | dma => simp [enqueueDownload]
  | can => simp only [enqueueDownload]; split <;> simp
  | simulator => simp only [enqueueDownload]; split <;> simp
  | secondPulse => simp only [enqueueDownload]; split <;> simp

theorem dispatchPacket_queues (h : HoldsGroups state.bcast.st bank) (now : UInt64)
    (packet : DataPacket) :
    let r := dispatchPacket now state packet
    PacketQueues state bank r.2 (packetAnswer r packet) := by
  intro r
  have hr : r = dispatchPacket now state packet := rfl
  simp only [dispatchPacket] at hr
  split at hr
  · obtain hcase | ⟨⟨hwhole, _, hvalid⟩, ⟨_, _, _, hcase⟩ | ⟨htypes, hchannel, hcase⟩⟩ :=
      process9012CanPayloadFrames_cases packet.payload packet.channel now state
        (show _ = payloadFrames packet.payload from rfl)
    · rw [hr, hcase]
      exact PacketQueues.same h rfl
    · rw [hr, hcase, enqueueNormalCanPayload_answer]
      exact PacketQueues.same h (enqueueNormalCanPayload_bcast _ _)
    · rw [hr, hcase]
      exact enqueueBroadcastPayload_queues h hwhole hvalid htypes hchannel now
  · split at hr
    · rw [hr]
      exact PacketQueues.same h rfl
    next dataType canId _ =>
      rw [hr, enqueueDownload_answer]
      refine PacketQueues.same h ?_
      cases dataType <;> rfl

end Packets

/-! ## The account of a channel -/

/-- What channel `ch` was given and what became of it.  The groups its thread is done with are
    `done`, each with the number of frames written. -/
structure BroadcastPath.Account (past : List PathAnswer) (s : BroadcastPath) (ch : UInt8)
    (bank : QueueBank BroadcastFrameGroup) : Prop where
  queued : (pathTaken ch past ++ bank.queue ch.toNat).Sublist (pathAccepted ch past)
  budget : (pathTaken ch past).length + (s.gateway.bcast.st.pending ch).toNat ≤ pathWakes ch past
  packets : ∀ p ∈ pathPackets ch past, p.Valid ch
  sent : ∃ done : List (BroadcastFrameGroup × Nat),
    pathTaken ch past = (done ++ (s.senders ch).held).map Prod.fst ∧
    pathWritten ch past = (done ++ (s.senders ch).held).flatMap groupFrames ∧
    (∀ p ∈ done ++ (s.senders ch).held, p.2 ≤ p.1.frameCount.toNat) ∧
    done.countP incomplete = pathGivenUp ch past

/-- The accounts of all channels over one bank of queues. -/
def BroadcastPath.Accounts (past : List PathAnswer) (s : BroadcastPath) : Prop :=
  ∃ bank, HoldsGroups s.gateway.bcast.st bank ∧
    ∀ ch : UInt8, ch.toNat < axicanMax → s.Account past ch bank

/-- The account of every channel, and that of the interrupts. -/
structure BroadcastPath.Inv (past : List PathAnswer) (s : BroadcastPath) : Prop where
  channels : s.Accounts past
  pps : s.pps.Inv (ppsEvents past)

/-- How a thread's hold on its group changes with an answer; it is done with `moved`. -/
structure SenderMoves (ch : UInt8) (pc pc' : SenderPc) (answer : PathAnswer)
    (moved : List (BroadcastFrameGroup × Nat)) : Prop where
  groups : (moved ++ pc'.held).map Prod.fst = pc.held.map Prod.fst ++ answer.tookOn ch
  frames : (moved ++ pc'.held).flatMap groupFrames =
    pc.held.flatMap groupFrames ++ answer.wroteOn ch
  bound : ∀ p ∈ moved ++ pc'.held, p.2 ≤ p.1.frameCount.toNat
  givenUp : moved.countP incomplete = (answer.givesUp ch).toNat

section Steps

variable {past : List PathAnswer} {s s' : BroadcastPath} {ch : UInt8} {answer : PathAnswer}
  {bank bank' : QueueBank BroadcastFrameGroup}

-- A step of the account, in terms of what its answer accepts, takes, writes and wakes.
theorem BroadcastPath.Account.concat (h : s.Account past ch bank)
    (hqueue : answer.tookOn ch ++ bank'.queue ch.toNat =
      bank.queue ch.toNat ++ answer.acceptedOn ch ∨
        bank'.queue ch.toNat = [] ∧ answer.tookOn ch = [])
    (hbudget : (answer.tookOn ch).length + (s'.gateway.bcast.st.pending ch).toNat ≤
      (s.gateway.bcast.st.pending ch).toNat + (answer.wakes ch).toNat)
    (hpackets : ∀ p ∈ answer.packetsOn ch, p.Valid ch)
    (hmoves : ∃ moved, SenderMoves ch (s.senders ch) (s'.senders ch) answer moved) :
    s'.Account (past ++ [answer]) ch bank' where
  queued := by
    rw [pathTaken, pathAccepted, History.flatMap_concat, History.flatMap_concat, List.append_assoc]
    have hold := h.queued
    rcases hqueue with hqueue | ⟨hempty, htook⟩
    · rw [hqueue, ← List.append_assoc]
      exact hold.append_right _
    · -- a reset drops what was waiting
      rw [hempty, htook]
      apply List.Sublist.trans _ (List.sublist_append_left _ _)
      exact (List.append_sublist_append_left _).mpr (List.nil_sublist _) |>.trans hold
  budget := by
    rw [pathTaken, pathWakes, History.flatMap_concat, History.countP_concat, List.length_append]
    have hold := h.budget
    rw [pathTaken, pathWakes] at hold
    omega
  packets := by
    intro p hmem
    rw [pathPackets, History.flatMap_concat] at hmem
    rcases List.mem_append.mp hmem with hmem | hmem
    · exact h.packets p hmem
    · exact hpackets p hmem
  sent := by
    obtain ⟨done, htaken, hwritten, hbound, hgiven⟩ := h.sent
    obtain ⟨moved, hmoves⟩ := hmoves
    refine ⟨done ++ moved, ?_, ?_, ?_, ?_⟩
    · rw [pathTaken, History.flatMap_concat, List.append_assoc, List.map_append, hmoves.groups,
        ← List.append_assoc, ← List.map_append, ← htaken]
      rfl
    · rw [pathWritten, History.flatMap_concat, List.append_assoc, List.flatMap_append,
        hmoves.frames, ← List.append_assoc, ← List.flatMap_append, ← hwritten]
      rfl
    · intro p hmem
      rw [List.append_assoc] at hmem
      rcases List.mem_append.mp hmem with hmem | hmem
      · exact hbound p (List.mem_append_left _ hmem)
      · exact hmoves.bound p hmem
    · rw [pathGivenUp, History.countP_concat, List.countP_append, hmoves.givenUp, hgiven]
      rfl

-- A thread that the answer is not about keeps its group.
theorem SenderMoves.keep {pc : SenderPc} (hbound : ∀ p ∈ pc.held, p.2 ≤ p.1.frameCount.toNat)
    (htook : answer.tookOn ch = []) (hwrote : answer.wroteOn ch = [])
    (hgives : answer.givesUp ch = false) : SenderMoves ch pc pc answer [] where
  groups := by rw [htook, List.append_nil, List.nil_append]
  frames := by rw [hwrote, List.append_nil, List.nil_append]
  bound := hbound
  givenUp := by rw [hgives]; rfl

-- A thread that moves without a group.
theorem SenderMoves.idle {pc pc' : SenderPc} (hpc : pc.held = []) (hpc' : pc'.held = [])
    (hanswer : answer = .silent) : SenderMoves ch pc pc' answer [] where
  groups := by rw [hpc, hpc', hanswer]; rfl
  frames := by rw [hpc, hpc', hanswer]; rfl
  bound := by
    rw [hpc']
    intro p hmem
    cases hmem
  givenUp := by rw [hanswer]; rfl

theorem BroadcastPath.Account.held_bound (h : s.Account past ch bank) :
    ∀ p ∈ (s.senders ch).held, p.2 ≤ p.1.frameCount.toNat := by
  obtain ⟨done, _, _, hbound, _⟩ := h.sent
  intro p hmem
  exact hbound p (List.mem_append_right _ hmem)

theorem AcceptedPacket.Valid.frameCount {p : AcceptedPacket} (h : p.Valid ch) :
    p.group.frameCount.toNat = p.records.length := by
  have hcount := (broadcastGroupOf_frames p.groupId
    (show (p.records.map PcArmDataData.ofBytes).length ≤ _ by
      rw [List.length_map]
      exact h.size)).1
  rwa [List.length_map] at hcount

-- The group a thread holds came in a packet.
theorem BroadcastPath.Account.held_frameCount (h : s.Account past ch bank) :
    ∀ p ∈ (s.senders ch).held,
      0 < p.1.frameCount.toNat ∧ p.1.frameCount.toNat ≤ bcastMaxFramesPerGroup := by
  obtain ⟨done, htaken, _, _, _⟩ := h.sent
  intro p hmem
  have haccepted : p.1 ∈ pathAccepted ch past := by
    apply h.queued.subset
    apply List.mem_append_left
    rw [htaken]
    exact List.mem_map_of_mem (List.mem_append_right _ hmem)
  rw [pathAccepted_eq] at haccepted
  obtain ⟨packet, hpacket, hgroup⟩ := List.mem_map.mp haccepted
  have hvalid := h.packets packet hpacket
  rw [← hgroup, hvalid.frameCount]
  exact ⟨hvalid.nonempty, hvalid.size⟩

end Steps

/-! ## The steps -/

theorem BroadcastPath.senders_setSender (s : BroadcastPath) (c d : UInt8) (pc : SenderPc) :
    (s.setSender c pc).senders d = if d = c then pc else s.senders d := rfl

section Runs

variable {past : List PathAnswer} {s : BroadcastPath} {bank : QueueBank BroadcastFrameGroup}

-- A step that only moves the thread of channel `c`.
theorem BroadcastPath.Accounts.sender (h : s.Accounts past) {c : UInt8} {pc : SenderPc}
    {answer : PathAnswer} (hquiet : ∀ d, answer.packetsOn d = [] ∧ answer.tookOn d = [] ∧
      answer.wakes d = false)
    (hother : ∀ d, d ≠ c → answer.wroteOn d = [] ∧ answer.givesUp d = false)
    (hmoves : ∀ bank, c.toNat < axicanMax → s.Account past c bank →
      ∃ moved, SenderMoves c (s.senders c) pc answer moved) :
    (s.setSender c pc).Accounts (past ++ [answer]) := by
  obtain ⟨bank, hholds, haccount⟩ := h
  refine ⟨bank, hholds, ?_⟩
  intro d hd
  have hold := haccount d hd
  apply hold.concat
  · left
    rw [PathAnswer.acceptedOn_nil (hquiet d).1, (hquiet d).2.1]
    exact (List.append_nil _).symm
  · rw [(hquiet d).2.1, (hquiet d).2.2, List.length_nil, Nat.zero_add]
    exact Nat.le_refl _
  · rw [(hquiet d).1]
    intro p hmem
    cases hmem
  · rw [BroadcastPath.senders_setSender]
    by_cases hdc : d = c
    · subst hdc
      rw [if_pos rfl]
      exact hmoves bank hd hold
    · rw [if_neg hdc]
      exact ⟨[], SenderMoves.keep hold.held_bound (hquiet d).2.1 (hother d hdc).1
        (hother d hdc).2⟩

-- A step that no thread takes part in, in terms of the queues and the wakes.
theorem BroadcastPath.Accounts.scheduler (h : s.Accounts past) {s' : BroadcastPath}
    {answer : PathAnswer} (hsenders : s'.senders = s.senders)
    (hquiet : ∀ d, answer.tookOn d = [] ∧ answer.wroteOn d = [] ∧ answer.givesUp d = false)
    (hpackets : ∀ d, ∀ p ∈ answer.packetsOn d, p.Valid d)
    (hstep : ∀ bank, HoldsGroups s.gateway.bcast.st bank →
      ∃ bank', HoldsGroups s'.gateway.bcast.st bank' ∧ ∀ d : UInt8, d.toNat < axicanMax →
        (bank'.queue d.toNat = bank.queue d.toNat ++ answer.acceptedOn d ∨
          bank'.queue d.toNat = []) ∧
        (s'.gateway.bcast.st.pending d).toNat ≤
          (s.gateway.bcast.st.pending d).toNat + (answer.wakes d).toNat) :
    s'.Accounts (past ++ [answer]) := by
  obtain ⟨bank, hholds, haccount⟩ := h
  obtain ⟨bank', hholds', hqueues⟩ := hstep bank hholds
  refine ⟨bank', hholds', ?_⟩
  intro d hd
  have hold := haccount d hd
  obtain ⟨htook, hwrote, hgives⟩ := hquiet d
  apply hold.concat
  · rw [htook]
    exact (hqueues d hd).1.imp_right fun hempty => ⟨hempty, rfl⟩
  · rw [htook, List.length_nil, Nat.zero_add]
    exact (hqueues d hd).2
  · exact hpackets d
  · rw [hsenders]
    exact ⟨[], SenderMoves.keep hold.held_bound htook hwrote hgives⟩

-- A step that touches neither the queues nor a thread.
theorem BroadcastPath.Accounts.same (h : s.Accounts past) {s' : BroadcastPath}
    {answer : PathAnswer} (hsenders : s'.senders = s.senders)
    (hst : s'.gateway.bcast.st = s.gateway.bcast.st)
    (hquiet : ∀ d, answer.packetsOn d = [] ∧ answer.tookOn d = [] ∧ answer.wroteOn d = [] ∧
      answer.givesUp d = false ∧ answer.wakes d = false) : s'.Accounts (past ++ [answer]) := by
  apply h.scheduler hsenders
  · exact fun d => ⟨(hquiet d).2.1, (hquiet d).2.2.1, (hquiet d).2.2.2.1⟩
  · intro d p hmem
    rw [(hquiet d).1] at hmem
    cases hmem
  · intro bank hholds
    rw [hst]
    refine ⟨bank, hholds, ?_⟩
    intro d _
    rw [PathAnswer.acceptedOn_nil (hquiet d).1, (hquiet d).2.2.2.2]
    exact ⟨Or.inl (List.append_nil _).symm, Nat.le_refl _⟩

-- A woken thread takes the oldest group of its queue, if there is one.
theorem takeStep_accounts (h : s.Accounts past) (c : UInt8) (hpc : s.senders c = .woken)
    (rc : Int) : (senderStep s c rc).2.Accounts (past ++ [(senderStep s c rc).1]) := by
  obtain ⟨bank, hholds, haccount⟩ := h
  obtain ⟨bank', taken, hholds', htaken, hqueue, hpending⟩ :=
    takeBroadcastGroup_spec hholds s.gateway.bcast.configs c zeroGroup List.length_replicate
  have hon : (broadcastStep s.gateway.bcast (.take c)).1.takenOn c = taken.toList := by
    rw [htaken]
    exact if_pos rfl
  have hheld : (s.senders c).held = [] := by rw [hpc]; rfl
  have hkeep : ∀ d : UInt8, d.toNat < axicanMax → ∀ answer : PathAnswer,
      answer.tookOn d = [] → answer.wroteOn d = [] → answer.givesUp d = false →
      SenderMoves d (s.senders d) (s.senders d) answer [] := by
    intro d hd answer htook hwrote hgives
    exact SenderMoves.keep (haccount d hd).held_bound htook hwrote hgives
  simp only [senderStep, hpc]
  rw [hon]
  cases taken with
  | none =>
      simp only [Option.toList_none]
      refine ⟨bank', hholds', ?_⟩
      intro d hd
      apply (haccount d hd).concat
      · left
        have hd' := hqueue d.toNat
        rw [Option.toList_none, ite_self, List.nil_append] at hd'
        rw [hd']
        exact (List.append_nil _).symm
      · have hd' := hpending d
        rw [Option.toList_none, ite_self] at hd'
        exact hd'
      · intro group hmem
        cases hmem
      · rw [BroadcastPath.senders_setSender]
        by_cases hdc : d = c
        · subst hdc
          rw [if_pos rfl, hpc]
          exact ⟨[], SenderMoves.idle rfl rfl rfl⟩
        · rw [if_neg hdc]
          exact ⟨[], hkeep d hd _ rfl rfl rfl⟩
  | some group =>
      simp only [Option.toList_some]
      refine ⟨bank', hholds', ?_⟩
      intro d hd
      have htook : PathAnswer.tookOn d (.took c group) = if d = c then [group] else [] := by
        simp only [PathAnswer.tookOn, eq_comm]
      apply (haccount d hd).concat
      · left
        rw [htook, hqueue d.toNat]
        simp only [UInt8.toNat_inj]
        exact (List.append_nil _).symm
      · rw [htook]
        exact hpending d
      · intro other hmem
        cases hmem
      · rw [BroadcastPath.senders_setSender]
        by_cases hdc : d = c
        · subst hdc
          rw [if_pos rfl, hpc]
          refine ⟨[], ?_, rfl, ?_, rfl⟩
          · rw [htook, if_pos rfl]
            rfl
          · intro p hmem
            obtain rfl := List.mem_singleton.mp hmem
            exact Nat.zero_le _
        · rw [if_neg hdc]
          exact ⟨[], hkeep d hd _ (by rw [htook, if_neg hdc]) rfl rfl⟩

-- One frame more of the group is written.
theorem SenderMoves.write {c : UInt8} {group : BroadcastFrameGroup}
    (hcount : group.frameCount.toNat ≤ bcastMaxFramesPerGroup) {i : Nat}
    (hi : i < group.frameCount.toNat) :
    SenderMoves c (.sending group i) (.sending group (i + 1))
      (.wrote c (group.frames.getD i default)) [] where
  groups := rfl
  frames := by
    have hlt : i < group.frames.length := by
      rw [group.length_eq]
      omega
    show List.flatMap groupFrames [(group, i + 1)] =
      List.flatMap groupFrames [(group, i)] ++ (if c = c then [_] else [])
    rw [if_pos rfl, List.flatMap_singleton, List.flatMap_singleton, groupFrames, groupFrames,
      List.getD_eq_getElem _ _ hlt, List.take_succ_eq_append_getElem hlt]
  bound := by
    intro p hmem
    obtain rfl := List.mem_singleton.mp hmem
    exact hi
  givenUp := rfl

-- The thread is done with its group, written as far as `i`.
theorem SenderMoves.leave {c : UInt8} {pc : SenderPc} {answer : PathAnswer}
    {group : BroadcastFrameGroup} {i : Nat} (hheld : pc.held = [(group, i)])
    (hi : i ≤ group.frameCount.toNat) (htook : answer.tookOn c = [])
    (hwrote : answer.wroteOn c = [])
    (hgives : answer.givesUp c = decide (i < group.frameCount.toNat)) :
    SenderMoves c pc .waiting answer [(group, i)] where
  groups := by rw [hheld, htook, List.append_nil]; rfl
  frames := by rw [hheld, hwrote, List.append_nil]; rfl
  bound := by
    intro p hmem
    obtain rfl := List.mem_singleton.mp hmem
    exact hi
  givenUp := by
    rw [hgives, List.countP_singleton]
    show (if incomplete (group, i) = true then 1 else 0) = _
    rw [incomplete]
    cases decide (i < group.frameCount.toNat) <;> rfl

theorem senderStep_accounts (h : s.Accounts past) (c : UInt8) (rc : Int) :
    (senderStep s c rc).2.Accounts (past ++ [(senderStep s c rc).1]) := by
  have hsame : s.Accounts (past ++ [.silent]) :=
    h.same rfl rfl fun _ => ⟨rfl, rfl, rfl, rfl, rfl⟩
  have hquiet : ∀ d, PathAnswer.packetsOn d .silent = [] ∧ PathAnswer.tookOn d .silent = [] ∧
      PathAnswer.wakes d .silent = false := fun _ => ⟨rfl, rfl, rfl⟩
  cases hpc : s.senders c with
  | woken => exact takeStep_accounts h c hpc rc
  | waiting =>
      simp only [senderStep, hpc]
      split
      · apply h.sender hquiet (fun _ _ => ⟨rfl, rfl⟩)
        intro bank _ _
        rw [hpc]
        exact ⟨[], SenderMoves.idle rfl rfl rfl⟩
      · exact hsame
  | taken group =>
      have hheld : (s.senders c).held = [(group, 0)] := by rw [hpc]; rfl
      simp only [senderStep, hpc]
      split
      · -- the channel was closed since the group was taken
        apply h.sender
        · exact fun _ => ⟨rfl, rfl, rfl⟩
        · exact fun d hd => ⟨rfl, decide_eq_false (Ne.symm hd)⟩
        intro bank _ haccount
        have hcount := haccount.held_frameCount (group, 0) (by
          rw [hheld]
          exact List.mem_cons_self)
        refine ⟨[(group, 0)], SenderMoves.leave hheld (Nat.zero_le _) rfl rfl ?_⟩
        rw [decide_eq_true hcount.1]
        exact decide_eq_true rfl
      · apply h.sender hquiet (fun _ _ => ⟨rfl, rfl⟩)
        intro bank _ haccount
        rw [hpc]
        refine ⟨[], rfl, rfl, ?_, rfl⟩
        intro p hmem
        obtain rfl := List.mem_singleton.mp hmem
        exact Nat.zero_le _
  | sending group i =>
      have hheld : (s.senders c).held = [(group, i)] := by rw [hpc]; rfl
      have hmem : (group, i) ∈ (s.senders c).held := by rw [hheld]; exact List.mem_cons_self
      simp only [senderStep, hpc]
      split
      next hi =>
        split
        · apply h.sender
          · exact fun _ => ⟨rfl, rfl, rfl⟩
          · exact fun d hd => ⟨if_neg (Ne.symm hd), rfl⟩
          intro bank _ haccount
          rw [hpc]
          exact ⟨[], SenderMoves.write (haccount.held_frameCount _ hmem).2 hi⟩
        · apply h.sender
          · exact fun _ => ⟨rfl, rfl, rfl⟩
          · exact fun d hd => ⟨rfl, decide_eq_false (Ne.symm hd)⟩
          intro bank _ haccount
          refine ⟨[(group, i)], SenderMoves.leave hheld (Nat.le_of_lt hi) rfl rfl ?_⟩
          rw [decide_eq_true hi]
          exact decide_eq_true rfl
      next hi =>
        apply h.sender hquiet (fun _ _ => ⟨rfl, rfl⟩)
        intro bank _ haccount
        exact ⟨[(group, i)], SenderMoves.leave hheld (haccount.held_bound _ hmem) rfl rfl
          (decide_eq_false hi).symm⟩

-- Every step keeps the accounts.
theorem pathStep_accounts (h : s.Accounts past) (call : PathCall) :
    (pathStep s call).2.Accounts (past ++ [(pathStep s call).1]) := by
  cases call with
  | sender ch rc => exact senderStep_accounts h ch rc
  | pps act now =>
      simp only [pathStep]
      split
      · apply h.scheduler
        · rfl
        · exact fun _ => ⟨rfl, rfl, rfl⟩
        · intro d group hmem
          cases hmem
        · intro bank hholds
          obtain ⟨hholds', hpending⟩ := processBroadcastPps_spec hholds now
          refine ⟨bank, hholds', ?_⟩
          intro d _
          refine ⟨Or.inl (List.append_nil _).symm, ?_⟩
          have hd := hpending d
          rw [← Bool.cond_eq_ite] at hd
          exact hd
      · exact h.same rfl rfl (fun _ => ⟨rfl, rfl, rfl, rfl, rfl⟩)
  | packet packet now =>
      have hqueues := fun bank hholds =>
        dispatchPacket_queues (show HoldsGroups s.gateway.bcast.st bank from hholds) now packet
      have hcopy := h
      obtain ⟨bank, hholds, _⟩ := hcopy
      obtain ⟨_, _, hpackets, _, hquiet⟩ := hqueues bank hholds
      apply h.scheduler
      · rfl
      · exact fun d => ⟨(hquiet d).1, (hquiet d).2.1, (hquiet d).2.2.1⟩
      · exact hpackets
      · intro bank hholds
        obtain ⟨⟨bank', hholds', hqueue⟩, hpending, _, _, _⟩ := hqueues bank hholds
        refine ⟨bank', hholds', ?_⟩
        intro d hd
        refine ⟨Or.inl (hqueue d hd), ?_⟩
        show ((dispatchPacket now s.gateway packet).2.bcast.st.pending d).toNat ≤ _
        rw [hpending]
        exact Nat.le_add_right _ _
  | config payload =>
      apply h.scheduler
      · rfl
      · exact fun _ => ⟨rfl, rfl, rfl⟩
      · intro d group hmem
        cases hmem
      · intro bank hholds
        simp only [pathStep, BroadcastPath.setBcast, broadcastStep, handleBroadcastConfig]
        cases broadcastConfigError payload with
        | some event =>
            exact ⟨bank, hholds, fun d _ => ⟨Or.inl (List.append_nil _).symm, Nat.le_refl _⟩⟩
        | none =>
            have hcfg : HoldsGroups { s.gateway.bcast.st with
                cfg := (BroadcastConfigParam.ofBytes payload).toConfig } bank :=
              ⟨hholds.carries, hholds.channels, hholds.cap⟩
            obtain ⟨hholds', hempty⟩ := resetBroadcastBuffers_spec hcfg
            refine ⟨_, hholds', ?_⟩
            intro d hd
            refine ⟨Or.inr (hempty d hd).2, ?_⟩
            rw [(hempty d hd).1]
            exact Nat.zero_le _
  | channels configs => exact h.same rfl rfl (fun _ => ⟨rfl, rfl, rfl, rfl, rfl⟩)

-- A broadcast thread neither moves the interrupt nor accepts a packet.
theorem senderStep_pps (s : BroadcastPath) (c : UInt8) (rc : Int) :
    (senderStep s c rc).2.pps = s.pps ∧ (senderStep s c rc).1.ppsEvent = .quiet ∧
      ∀ ch, (senderStep s c rc).1.packetsOn ch = [] := by
  unfold senderStep
  split
  · split <;> exact ⟨rfl, rfl, fun _ => rfl⟩
  · dsimp only
    split <;> exact ⟨rfl, rfl, fun _ => rfl⟩
  · split <;> exact ⟨rfl, rfl, fun _ => rfl⟩
  · split
    · split <;> exact ⟨rfl, rfl, fun _ => rfl⟩
    · exact ⟨rfl, rfl, fun _ => rfl⟩

-- Interrupt and thread take their own steps.
theorem pathStep_pps (h : s.pps.Inv (ppsEvents past)) (hholds : HoldsGroups s.gateway.bcast.st bank)
    (call : PathCall) :
    (pathStep s call).2.pps.Inv (ppsEvents (past ++ [(pathStep s call).1])) := by
  rw [ppsEvents, List.map_append, List.map_singleton]
  cases call with
  | pps act now =>
      have hstep := ppsStep_inv _ _ act h
      simp only [pathStep]
      split
      next hprocessed =>
        rw [hprocessed] at hstep
        exact hstep
      · exact hstep
  | packet packet now =>
      obtain ⟨_, _, _, hevent, _⟩ := dispatchPacket_queues hholds now packet
      simp only [pathStep]
      rw [hevent]
      exact h.quiet
  | config payload => exact h.quiet
  | channels configs => exact h.quiet
  | sender ch rc =>
      obtain ⟨hpps, hevent, _⟩ := senderStep_pps s ch rc
      simp only [pathStep]
      rw [hpps, hevent]
      exact h.quiet

theorem pathStep_inv (past : List PathAnswer) (s : BroadcastPath) (call : PathCall)
    (h : s.Inv past) : (pathStep s call).2.Inv (past ++ [(pathStep s call).1]) := by
  obtain ⟨bank, hholds, _⟩ := h.channels
  exact ⟨pathStep_accounts h.channels call, pathStep_pps h.pps hholds call⟩

end Runs

theorem path_inv {gateway : GatewayState} (hstart : gateway.Started) (calls : List PathCall) :
    (Transducer.run pathStep calls (.initial gateway)).2.Inv
      (Transducer.run pathStep calls (.initial gateway)).1 := by
  apply Transducer.run_answers BroadcastPath.Inv
  · obtain ⟨set, heap, groups, heap', hinit, hst⟩ := hstart.groups
    obtain ⟨bank, hholds, haccount⟩ := broadcastInitial_tracks gateway.bcast.configs hinit
    refine ⟨⟨bank, by rw [← hst] at hholds; exact hholds, ?_⟩, ?_⟩
    · intro ch hch
      have hempty := (haccount ch hch).queued
      constructor
      · show (bank.queue ch.toNat).Sublist []
        rw [show bank.queue ch.toNat = [] from hempty.symm]
      · show 0 + (gateway.bcast.st.pending ch).toNat ≤ 0
        rw [hst]
        exact Nat.le_refl 0
      · intro group hmem
        cases hmem
      · refine ⟨[], rfl, rfl, ?_, rfl⟩
        intro p hmem
        cases hmem
    · exact PpsSystem.inv_probed
  · exact pathStep_inv

/-! ## What the device is given -/

/-- The CAN frames of the first `p.2` records of a packet. -/
def packetFrames (p : AcceptedPacket × Nat) : List AxicanFrame :=
  (p.1.records.take p.2).map (pcCanPayloadToAxicanFrame ∘ PcArmDataData.ofBytes)

/-- A packet with records left. -/
def unfinished (p : AcceptedPacket × Nat) : Bool := p.2 < p.1.records.length

/-- The packets of port 9012 in a run. -/
def PathCall.packets : PathCall → List DataPacket
  | .packet p _ => [p]
  | _ => []

-- The frames written of a group are the first CAN frames of its packet.
theorem AcceptedPacket.Valid.groupFrames {ch : UInt8} {p : AcceptedPacket} (h : p.Valid ch)
    {n : Nat} (hn : n ≤ p.records.length) : groupFrames (p.group, n) = packetFrames (p, n) := by
  have htake := (broadcastGroupOf_frames p.groupId
    (show (p.records.map PcArmDataData.ofBytes).length ≤ _ by
      rw [List.length_map]
      exact h.size)).2
  rw [List.length_map, List.map_map] at htake
  rw [CanGateway.groupFrames, AcceptedPacket.group, packetFrames, ← Nat.min_eq_left hn,
    ← List.take_take, htake, List.map_take, Nat.min_eq_left hn]

-- A packet is accepted by its own call only.
theorem pathStep_packets (s : BroadcastPath) (call : PathCall) (ch : UInt8) :
    (((pathStep s call).1.packetsOn ch).map AcceptedPacket.packet).Sublist call.packets := by
  cases call with
  | pps act now =>
      simp only [pathStep]
      split <;> exact List.Sublist.refl []
  | packet packet now =>
      simp only [pathStep, packetAnswer]
      split
      · simp only [PathAnswer.packetsOn]
        split
        · exact List.Sublist.refl _
        · exact List.nil_sublist _
      · exact List.nil_sublist _
  | config payload => exact List.Sublist.refl []
  | channels configs => exact List.Sublist.refl []
  | sender c rc =>
      rw [pathStep, (senderStep_pps s c rc).2.2 ch]
      exact List.Sublist.refl []

/-- **Broadcast data goes through in order.**  In any interleaving of the packets, configurations,
    interrupts and threads, what the broadcast thread of a channel has written are the CAN frames
    of the first records of some of the packets accepted for it, in the order in which they came,
    each packet once; every record of such a packet is a valid broadcast frame.  All of these
    packets are written whole but those given up (a closed channel, a failed write) and one that
    may be under way. -/
theorem broadcast_path_in_order (gateway : GatewayState) (hstart : gateway.Started)
    (calls : List PathCall) (ch : UInt8) (hch : ch.toNat < axicanMax) :
    let run := Transducer.run pathStep calls (.initial gateway)
    ((pathPackets ch run.1).map AcceptedPacket.packet).Sublist (calls.flatMap PathCall.packets) ∧
    ∃ sent : List (AcceptedPacket × Nat),
      pathWritten ch run.1 = sent.flatMap packetFrames ∧
      (sent.map Prod.fst).Sublist (pathPackets ch run.1) ∧
      (∀ p ∈ sent, p.1.Valid ch ∧ p.2 ≤ p.1.records.length) ∧
      sent.countP unfinished =
        pathGivenUp ch run.1 + (run.2.senders ch).held.countP incomplete := by
  intro run
  obtain ⟨bank, hholds, haccounts⟩ := (path_inv hstart calls).channels
  have haccount := haccounts ch hch
  obtain ⟨done, htaken, hwritten, hbound, hgiven⟩ := haccount.sent
  have hcalls : ((pathPackets ch run.1).map AcceptedPacket.packet).Sublist
      (calls.flatMap PathCall.packets) := by
    rw [pathPackets, List.map_flatMap]
    exact History.flatMap_run_sublist (fun s call => pathStep_packets s call ch) calls _
  have hsub : ((done ++ (run.2.senders ch).held).map Prod.fst).Sublist
      ((pathPackets ch run.1).map AcceptedPacket.group) := by
    rw [← htaken, ← pathAccepted_eq]
    exact (List.sublist_append_left _ _).trans haccount.queued
  -- the groups taken are those of some of the packets
  obtain ⟨packets, hpackets, hgroups⟩ := List.sublist_map_iff.mp hsub
  obtain ⟨sent, rfl, hsent⟩ := History.exists_counts AcceptedPacket.group hgroups
  have hvalid : ∀ p ∈ sent, p.1.Valid ch ∧ p.2 ≤ p.1.records.length := by
    intro p hmem
    have hp := haccount.packets p.1 (hpackets.subset (List.mem_map_of_mem hmem))
    refine ⟨hp, ?_⟩
    rw [← hp.frameCount]
    apply hbound (p.1.group, p.2)
    rw [← hsent]
    exact List.mem_map_of_mem hmem
  refine ⟨hcalls, sent, ?_, hpackets, hvalid, ?_⟩
  · rw [hwritten, ← hsent, List.flatMap_map]
    exact List.flatMap_congr fun p hmem => (hvalid p hmem).1.groupFrames (hvalid p hmem).2
  · rw [← hgiven, ← List.countP_append, ← hsent, List.countP_map]
    apply List.countP_congr
    intro p hmem
    rw [unfinished, ← (hvalid p hmem).1.frameCount]
    rfl

/-- One valid broadcast frame for channel 0. -/
def broadcastPacket : DataPacket where
  command := 0x0001
  channel := 0
  payload :=
    let frame :=
      store32 pcStatusHead ++ [0, 2, 48, 0] ++ List.replicate 24 0 ++ store16 1 ++
        List.replicate 10 0
    frame ++ store32 (calculateXorChecksum frame 44)

/-- A configuration, a PPS interrupt that opens the window and wakes the channel, a group, and the
    turns of its thread. -/
def oneBroadcast : List PathCall :=
  .config enablingRequest :: .pps (.openDevice true) 0 :: .pps .interrupt 0 :: .pps .interrupt 0 ::
    ppsPass.map (fun act => .pps act 100) ++
    (.packet broadcastPacket 200 :: List.replicate 5 (.sender 0 sizeofAxicanFrame))

theorem broadcast_path_in_order_one_frame :
    let run := Transducer.run pathStep oneBroadcast (.initial startedGateway)
    (∃ sent : List (AcceptedPacket × Nat),
      pathWritten 0 run.1 = sent.flatMap packetFrames ∧
      (sent.map Prod.fst).Sublist (pathPackets 0 run.1) ∧
      (∀ p ∈ sent, p.1.Valid 0 ∧ p.2 ≤ p.1.records.length) ∧
      sent.countP unfinished =
        pathGivenUp 0 run.1 + (run.2.senders 0).held.countP incomplete) ∧
      (pathPackets 0 run.1).map AcceptedPacket.packet = [broadcastPacket] ∧
      (pathWritten 0 run.1).length = 1 := by
  intro run
  have hpackets : (pathPackets 0 run.1).map AcceptedPacket.packet = [broadcastPacket] := by
    decide +kernel
  have hlen : (pathWritten 0 run.1).length = 1 := by decide +kernel
  have horder := broadcast_path_in_order startedGateway startedGateway_started oneBroadcast 0
    (by decide)
  exact ⟨horder.2, hpackets, hlen⟩

/-- **No broadcast without an interrupt.**  In any interleaving, the groups a channel's thread has
    taken and the wakes still pending are at most the PPS events that woke the channel, and these
    at most the interrupts latched.  So without an interrupt nothing is written, and every interrupt
    allows one group of at most 128 frames. -/
theorem broadcast_needs_interrupt (gateway : GatewayState) (hstart : gateway.Started)
    (calls : List PathCall) (ch : UInt8) (hch : ch.toNat < axicanMax) :
    let run := Transducer.run pathStep calls (.initial gateway)
    let events := ppsEvents run.1
    (pathTaken ch run.1).length + (run.2.gateway.bcast.st.pending ch).toNat ≤
        pathWakes ch run.1 ∧
      pathWakes ch run.1 ≤ processedPps events ∧
      processedPps events + absorbedInterrupts events + run.2.pps.owed =
        latchedInterrupts events ∧
      (pathWritten ch run.1).length ≤ bcastMaxFramesPerGroup * latchedInterrupts events := by
  intro run events
  have hinv := path_inv hstart calls
  obtain ⟨bank, hholds, haccounts⟩ := hinv.channels
  have haccount := haccounts ch hch
  have hpps := hinv.pps.latch.account
  have hwakes : pathWakes ch run.1 ≤ processedPps events := by
    simp only [events, pathWakes, processedPps, Latch.services, ppsEvents, List.countP_map]
    apply List.countP_mono_left
    intro answer _ hselects
    cases answer <;> first | rfl | cases hselects
  have hwritten : (pathWritten ch run.1).length ≤
      bcastMaxFramesPerGroup * (pathTaken ch run.1).length := by
    obtain ⟨done, htaken, hwritten, _, _⟩ := haccount.sent
    change pathTaken ch run.1 = _ at htaken
    change pathWritten ch run.1 = _ at hwritten
    rw [htaken, hwritten, List.length_map]
    apply History.length_flatMap_le
    intro p
    rw [groupFrames, List.length_take, p.1.length_eq]
    exact Nat.min_le_right _ _
  refine ⟨haccount.budget, hwakes, hpps.symm, ?_⟩
  have hbudget := haccount.budget
  refine hwritten.trans (Nat.mul_le_mul_left _ ?_)
  change latchedInterrupts events = processedPps events + absorbedInterrupts events +
    run.2.pps.owed at hpps
  change (pathTaken ch run.1).length + (run.2.gateway.bcast.st.pending ch).toNat ≤
    pathWakes ch run.1 at hbudget
  omega

-- One interrupt, one group of one frame.
theorem broadcast_needs_interrupt_one_frame :
    let run := Transducer.run pathStep oneBroadcast (.initial startedGateway)
    (pathTaken 0 run.1).length + (run.2.gateway.bcast.st.pending 0).toNat ≤ pathWakes 0 run.1 ∧
      pathWakes 0 run.1 ≤ processedPps (ppsEvents run.1) ∧ (pathTaken 0 run.1).length = 1 ∧
      latchedInterrupts (ppsEvents run.1) = 1 := by
  intro run
  obtain ⟨hbudget, hwakes, _, _⟩ :=
    broadcast_needs_interrupt startedGateway startedGateway_started oneBroadcast 0 (by decide)
  have htaken : (pathTaken 0 run.1).length = 1 := by decide +kernel
  have hlatched : latchedInterrupts (ppsEvents run.1) = 1 := by decide +kernel
  exact ⟨hbudget, hwakes, htaken, hlatched⟩

end CanGateway
