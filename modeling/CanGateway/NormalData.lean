import CanGateway.DownloadDispatch
import CanGateway.TransmitThread

/-!
# Normal CAN data from port 9012 to the CAN driver

The loop of `process_download_data_batch` and the loops of the transmit threads take turns, one
iteration or one part of an iteration at a time.  Only one connection is inside the batch loop,
since it runs under `download_process_mutex`; what the threads dequeue between its room check and
its `put` only makes room.
-/

namespace CanGateway

/-! ## The system -/

/-- Where a transmit thread stands in its loop. -/
inductive TxPhase where
  | waiting
  | opened
  | ready
  | handling
  deriving DecidableEq, Repr

/-- A thread of `axican_data_send_thread` with its `curr_frame` and its packet buffer. -/
structure TxThread where
  phase : TxPhase
  currFrame : List UInt8
  pktBuf : PacketBuffer

def TxThread.initial : TxThread := ⟨.waiting, List.replicate sizeofPcArmDataData 0, .zero⟩

/-- `batch` is the connection inside `process_download_data_batch` and its `offset`. -/
structure NormalSystem where
  gateway : GatewayState
  streams : Nat → DownloadStream
  batch : Option (Nat × Nat)
  threads : UInt8 → TxThread

def NormalSystem.initial (gateway : GatewayState) : NormalSystem where
  gateway := gateway
  streams := fun _ => freshDownloadStream
  batch := none
  threads := fun _ => .initial

def NormalSystem.setThread (sys : NormalSystem) (c : UInt8) (thread : TxThread) : NormalSystem :=
  { sys with threads := fun d => if d = c then thread else sys.threads d }

def NormalSystem.setStream (sys : NormalSystem) (conn : Nat) (stream : DownloadStream) :
    NormalSystem :=
  { sys with streams := fun d => if d = conn then stream else sys.streams d }

/-- `receive` enters the batch loop with a chunk, `iterate` is one iteration of it; `readState`,
    `readLen`, `dequeue` and `handle` are the parts of the loop of thread `c`; `other` is anything
    else that acts on the scheduler or on `can_configs`. -/
inductive NormalCall where
  | receive (conn : Nat) (chunk : List UInt8)
  | iterate (now : UInt64)
  | readState (c : UInt8)
  | readLen (c : UInt8)
  | dequeue (c : UInt8)
  | handle (c : UInt8) (now : Int) (clock : Nat → UInt64)
  | other (call : BroadcastCall)

inductive NormalAnswer where
  | packet (outcome : PacketOutcome)
  | dequeued (c : UInt8) (frame : List UInt8)
  | handled (c : UInt8) (frame : List UInt8) (exit : TxExit) (written : List AxicanFrame)
  | silent

/-- `dispatchPacket` as the batch loop's dispatch, with the outcome of the packet. -/
def dispatchLogged (now : UInt64) (world : Option PacketOutcome × GatewayState)
    (packet : DataPacket) : Option PacketOutcome × GatewayState :=
  let r := dispatchPacket now world.2 packet
  (some r.1, r.2)

/-- The CAN writes of an iteration that ends in `exit`; `clock i` is read for the `i`-th. -/
def txWrites (clock : Nat → UInt64) (exit : TxExit) : List AxicanFrame :=
  exit.sent.zipIdx.map fun p => sendSingleFrame p.1 (clock p.2)

def normalStep (sys : NormalSystem) : NormalCall → NormalAnswer × NormalSystem
  | .receive conn chunk =>
      if sys.batch = none ∧ chunk.length ≤ receiveSize (sys.streams conn) then
        (.silent,
          { sys.setStream conn ((sys.streams conn).receive chunk) with batch := some (conn, 0) })
      else (.silent, sys)
  | .iterate now =>
      match sys.batch with
      | none => (.silent, sys)
      | some (conn, offset) =>
          match batchIteration (dispatchLogged now) (sys.streams conn)
              ⟨offset, none, sys.gateway⟩ with
          | none =>
              (.silent,
                { sys.setStream conn (compactStream (sys.streams conn) offset) with
                  batch := none })
          | some b =>
              (match b.world.1 with
                | none => .silent
                | some outcome => .packet outcome,
                { sys with batch := some (conn, b.offset), gateway := b.world.2 })
  -- the two halves of the condition of the inner `while`, read one after the other
  | .readState c =>
      let thread := sys.threads c
      if thread.phase = .waiting ∧ (sys.gateway.bcast.configs c).state = .opened then
        (.silent, sys.setThread c { thread with phase := .opened })
      else (.silent, sys)
  | .readLen c =>
      let thread := sys.threads c
      if thread.phase = .opened then
        (.silent, sys.setThread c { thread with
          phase := if ringbuffer32chLen sys.gateway.gDataBufSet c 32 = 0 then .waiting
            else .ready })
      else (.silent, sys)
  | .dequeue c =>
      let thread := sys.threads c
      if thread.phase = .ready then
        let get := ringbuffer32chGet sys.gateway.gDataBufSet c (some thread.currFrame) 32
        let currFrame := get.2.1.getD thread.currFrame
        let sys := { sys with gateway := { sys.gateway with gDataBufSet := get.2.2 } }
        if get.1 ≠ 1 then
          (.silent, sys.setThread c { thread with phase := .waiting, currFrame := currFrame })
        else
          (.dequeued c currFrame,
            sys.setThread c { thread with phase := .handling, currFrame := currFrame })
      else (.silent, sys)
  | .handle c now clock =>
      let thread := sys.threads c
      if thread.phase = .handling then
        let r := axicanDataSendIteration c thread.pktBuf
          (PcArmDataData.ofBytes thread.currFrame, now)
        (.handled c thread.currFrame r.1 (txWrites clock r.1),
          sys.setThread c { thread with phase := .waiting, pktBuf := r.2 })
      else (.silent, sys)
  | .other call =>
      (.silent,
        { sys with gateway :=
            { sys.gateway with bcast := (broadcastStep sys.gateway.bcast call).2 } })

/-! ## The iterations make up the batch -/

-- What one iteration of the batch loop can do to the state its packets act on.
theorem batchIteration_cases {σ : Type*} (dispatch : σ → DataPacket → σ) (stream : DownloadStream)
    (b : BatchState σ) :
    batchIteration dispatch stream b = none ∨
      (∃ offset, batchIteration dispatch stream b = some ⟨offset, b.world⟩) ∨
      ∃ offset packet, batchIteration dispatch stream b =
        some ⟨offset, dispatch b.world packet⟩ := by
  unfold batchIteration
  dsimp only
  split
  case isFalse => exact Or.inl rfl
  split
  · exact Or.inr (Or.inl ⟨_, rfl⟩)
  split
  · exact Or.inr (Or.inl ⟨_, rfl⟩)
  split
  · exact Or.inl rfl
  · exact Or.inr (Or.inr ⟨_, _, rfl⟩)

/-- `dispatchPacket` as the batch loop's dispatch. -/
def dispatchQuiet (now : UInt64) (gateway : GatewayState) (packet : DataPacket) : GatewayState :=
  (dispatchPacket now gateway packet).2

theorem batchIteration_logged (now : UInt64) (stream : DownloadStream) (offset : Nat)
    (gateway : GatewayState) :
    batchIteration (dispatchQuiet now) stream ⟨offset, gateway⟩ =
      (batchIteration (dispatchLogged now) stream ⟨offset, none, gateway⟩).map
        fun b => ⟨b.offset, b.world.2⟩ := by
  unfold batchIteration
  dsimp only
  split
  case isFalse => rfl
  split
  · rfl
  split
  · rfl
  split <;> rfl

-- Iterations that nothing interrupts run the loop to its end.
theorem iterate_exits (now : UInt64) (stream : DownloadStream) (conn : Nat)
    {b t : BatchState GatewayState}
    (h : Loop.Exits (batchIteration (dispatchQuiet now) stream) b t) (sys : NormalSystem)
    (hstream : sys.streams conn = stream) (hbatch : sys.batch = some (conn, b.offset))
    (hgateway : sys.gateway = b.world) :
    ∃ n, (Transducer.run normalStep (List.replicate n (.iterate now)) sys).2 =
      { sys.setStream conn (compactStream stream t.offset) with
        batch := none
        gateway := t.world } := by
  induction h generalizing sys with
  | done hs =>
      refine ⟨1, ?_⟩
      rw [batchIteration_logged, Option.map_eq_none_iff] at hs
      show (normalStep sys (.iterate now)).2 = _
      simp only [normalStep, hbatch]
      rw [hstream, hgateway, hs, ← hgateway]
      rfl
  | @again s s' t hb _ ih =>
      rw [batchIteration_logged, Option.map_eq_some_iff] at hb
      obtain ⟨b', hb', hs'⟩ := hb
      have hstep : (normalStep sys (.iterate now)).2 =
          { sys with batch := some (conn, s'.offset), gateway := s'.world } := by
        simp only [normalStep, hbatch]
        rw [hstream, hgateway, hb', ← hs']
      obtain ⟨n, hn⟩ := ih { sys with batch := some (conn, s'.offset), gateway := s'.world }
        hstream rfl rfl
      refine ⟨n + 1, ?_⟩
      rw [List.replicate_succ, Transducer.run, hstep]
      exact hn

-- A whole call of `process_download_data_batch` is a run of its iterations.
theorem iterate_batch (now : UInt64) (conn : Nat) (sys : NormalSystem)
    (hbatch : sys.batch = some (conn, 0)) :
    ∃ n, (Transducer.run normalStep (List.replicate n (.iterate now)) sys).2 =
      { sys.setStream conn
          (processDownloadDataBatch (dispatchQuiet now) (sys.streams conn) sys.gateway).1 with
        batch := none
        gateway :=
          (processDownloadDataBatch (dispatchQuiet now) (sys.streams conn) sys.gateway).2 } := by
  have hexits : Loop.Exits (batchIteration (dispatchQuiet now) (sys.streams conn))
      ⟨0, sys.gateway⟩ (Loop.runFuel (batchIteration (dispatchQuiet now) (sys.streams conn))
        ((sys.streams conn).used + 1) ⟨0, sys.gateway⟩) := by
    apply Loop.runFuel_exits (fun b => (sys.streams conn).used - b.offset)
    · intro b b' hb
      have h := batchIteration_offset _ _ _ _ hb
      omega
    · show (sys.streams conn).used - 0 < (sys.streams conn).used + 1
      omega
  exact iterate_exits now (sys.streams conn) conn hexits sys rfl hbatch rfl

/-! ## What a run did with the frames of a channel -/

namespace NormalAnswer

def acceptedOn (c : UInt8) : NormalAnswer → List (List UInt8)
  | packet outcome => outcome.acceptedOn c
  | _ => []

def dequeuedOn (c : UInt8) : NormalAnswer → List (List UInt8)
  | dequeued d frame => if d = c then [frame] else []
  | _ => []

def handledOn (c : UInt8) : NormalAnswer → List (List UInt8)
  | handled d frame _ _ => if d = c then [frame] else []
  | _ => []

def writtenOn (c : UInt8) : NormalAnswer → List AxicanFrame
  | handled d _ _ written => if d = c then written else []
  | _ => []

/-- A handled frame went through the checks of its thread. -/
def Checked : NormalAnswer → Prop
  | handled c frame exit written => ∃ pktBuf now clock,
      exit = (axicanDataSendIteration c pktBuf (PcArmDataData.ofBytes frame, now)).1 ∧
        written = txWrites clock exit
  | _ => True

end NormalAnswer

section History

variable (c : UInt8) (past : List NormalAnswer)

/-- The frames put into `g_data_buf_set` for channel `c`, oldest first. -/
def acceptedFrames : List (List UInt8) := past.flatMap (NormalAnswer.acceptedOn c)
def dequeuedFrames : List (List UInt8) := past.flatMap (NormalAnswer.dequeuedOn c)
def handledFrames : List (List UInt8) := past.flatMap (NormalAnswer.handledOn c)
/-- The frames thread `c` handed to the CAN write. -/
def writtenFrames : List AxicanFrame := past.flatMap (NormalAnswer.writtenOn c)

end History

/-- The frame a thread has dequeued and not yet handled. -/
def TxThread.held (thread : TxThread) : List (List UInt8) :=
  if thread.phase = .handling then [thread.currFrame] else []

theorem TxThread.held_eq_nil {thread : TxThread} (h : thread.phase ≠ .handling) :
    thread.held = [] := if_neg h

/-! ## The invariant -/

/-- Accepted frames are handled, held or waiting, in this order, and belong to their channel. -/
structure NormalSystem.Inv (past : List NormalAnswer) (sys : NormalSystem) : Prop where
  dataBufSet : DataBufSet sys.gateway.gDataBufSet
  currFrame : ∀ c, (sys.threads c).currFrame.length = sizeofPcArmDataData
  queued : ∀ c, acceptedFrames c past = dequeuedFrames c past ++ sys.gateway.waiting c
  held : ∀ c, dequeuedFrames c past = handledFrames c past ++ (sys.threads c).held
  frameFor : ∀ c, ∀ frame ∈ acceptedFrames c past, FrameFor c frame
  checked : ∀ answer ∈ past, answer.Checked

section Steps

variable {past : List NormalAnswer} {sys sys' : NormalSystem} {answer : NormalAnswer}

-- A step in terms of the frames its answer accepts, dequeues and handles.
theorem NormalSystem.Inv.concat (h : sys.Inv past)
    (hset : DataBufSet sys'.gateway.gDataBufSet)
    (hcurr : ∀ c, (sys'.threads c).currFrame.length = sizeofPcArmDataData)
    (hqueue : ∀ c, sys.gateway.waiting c ++ answer.acceptedOn c =
      answer.dequeuedOn c ++ sys'.gateway.waiting c)
    (hheld : ∀ c, (sys.threads c).held ++ answer.dequeuedOn c =
      answer.handledOn c ++ (sys'.threads c).held)
    (hframe : ∀ c, ∀ frame ∈ answer.acceptedOn c, FrameFor c frame)
    (hchecked : answer.Checked) : sys'.Inv (past ++ [answer]) where
  dataBufSet := hset
  currFrame := hcurr
  queued := by
    intro c
    rw [acceptedFrames, dequeuedFrames, List.flatMap_append, List.flatMap_append,
      List.flatMap_singleton, List.flatMap_singleton]
    show acceptedFrames c past ++ _ = (dequeuedFrames c past ++ _) ++ _
    rw [h.queued, List.append_assoc, List.append_assoc, hqueue]
  held := by
    intro c
    rw [dequeuedFrames, handledFrames, List.flatMap_append, List.flatMap_append,
      List.flatMap_singleton, List.flatMap_singleton]
    show dequeuedFrames c past ++ _ = (handledFrames c past ++ _) ++ _
    rw [h.held, List.append_assoc, List.append_assoc, hheld]
  frameFor := by
    intro c frame hmem
    rw [acceptedFrames, List.flatMap_append, List.flatMap_singleton] at hmem
    rcases List.mem_append.mp hmem with hmem | hmem
    · exact h.frameFor c frame hmem
    · exact hframe c frame hmem
  checked := by
    intro other hmem
    rcases List.mem_append.mp hmem with hmem | hmem
    · exact h.checked other hmem
    · rw [List.mem_singleton.mp hmem]
      exact hchecked

-- A step that touches no frame.
theorem NormalSystem.Inv.silent (h : sys.Inv past)
    (hset : sys'.gateway.gDataBufSet = sys.gateway.gDataBufSet)
    (hthreads : sys'.threads = sys.threads) : sys'.Inv (past ++ [.silent]) := by
  apply h.concat
  · rw [hset]
    exact h.dataBufSet
  · rw [hthreads]
    exact h.currFrame
  · intro c
    rw [GatewayState.waiting, GatewayState.waiting, hset]
    exact List.append_nil _
  · intro c
    rw [hthreads]
    exact List.append_nil _
  · intro c frame hmem
    cases hmem
  · trivial

end Steps

theorem NormalSystem.threads_setThread (sys : NormalSystem) (c d : UInt8) (thread : TxThread) :
    (sys.setThread c thread).threads d = if d = c then thread else sys.threads d := rfl

-- A step of thread `c`: the other threads keep their frames, and nothing is accepted.
theorem NormalSystem.Inv.threadStep {past : List NormalAnswer} {sys : NormalSystem}
    (h : sys.Inv past) {gateway : GatewayState} {c : UInt8} {thread : TxThread}
    {answer : NormalAnswer} (hset : DataBufSet gateway.gDataBufSet)
    (hcurr : thread.currFrame.length = sizeofPcArmDataData)
    (haccepted : ∀ d, answer.acceptedOn d = [])
    (hqueue : ∀ d, sys.gateway.waiting d = answer.dequeuedOn d ++ gateway.waiting d)
    (hheld : (sys.threads c).held ++ answer.dequeuedOn c = answer.handledOn c ++ thread.held)
    (hother : ∀ d, d ≠ c → answer.dequeuedOn d = [] ∧ answer.handledOn d = [])
    (hchecked : answer.Checked) :
    NormalSystem.Inv (past ++ [answer]) (setThread { sys with gateway := gateway } c thread) := by
  apply h.concat
  · exact hset
  · intro d
    rw [NormalSystem.threads_setThread]
    split
    · exact hcurr
    · exact h.currFrame d
  · intro d
    rw [haccepted, List.append_nil]
    exact hqueue d
  · intro d
    rw [NormalSystem.threads_setThread]
    by_cases hd : d = c
    · rw [hd, if_pos rfl]
      exact hheld
    · rw [if_neg hd, (hother d hd).1, (hother d hd).2]
      exact List.append_nil _
  · intro d frame hmem
    rw [haccepted] at hmem
    cases hmem
  · exact hchecked

-- A dequeue takes the oldest waiting frame of its channel into `curr_frame`.
theorem dequeue_inv {past : List NormalAnswer} {sys : NormalSystem} (h : sys.Inv past) (c : UInt8)
    (hphase : (sys.threads c).phase = .ready) :
    (normalStep sys (.dequeue c)).2.Inv (past ++ [(normalStep sys (.dequeue c)).1]) := by
  obtain ⟨hret, hdata, hbank, hkeep⟩ := ringbuffer32chGet_spec h.dataBufSet.wf c 32
    (sys.threads c).currFrame ((h.currFrame c).trans h.dataBufSet.size.symm)
  have hset : DataBufSet (ringbuffer32chGet sys.gateway.gDataBufSet c
      (some (sys.threads c).currFrame) 32).2.2 :=
    ⟨hkeep.wf, by rw [hkeep.elemSize, h.dataBufSet.size]⟩
  have hheld : (sys.threads c).held = [] :=
    TxThread.held_eq_nil (by rw [hphase]; exact nofun)
  have hsplit : ∀ d : UInt8, sys.gateway.waiting d =
      (if d = c then (sys.gateway.gDataBufSet.bank.get (32 : UInt8).toNat c.toNat).1.toList
        else []) ++
      (ringbuffer32chGet sys.gateway.gDataBufSet c
        (some (sys.threads c).currFrame) 32).2.2.bank.queue d.toNat := by
    intro d
    rw [hbank, GatewayState.waiting,
      QueueBank.queue_get sys.gateway.gDataBufSet.bank (32 : UInt8).toNat c.toNat]
    simp only [UInt8.toNat_inj]
  simp only [normalStep, if_pos hphase]
  cases hget : (sys.gateway.gDataBufSet.bank.get (32 : UInt8).toNat c.toNat).1 with
  | none =>
      rw [hget] at hret hdata hsplit
      rw [if_pos (by rw [hret]; exact UInt32.zero_ne_one), hdata]
      apply h.threadStep hset
      · exact h.currFrame c
      · exact fun _ => rfl
      · intro d
        rw [hsplit d]
        split <;> rfl
      · rw [hheld]
        rfl
      · exact fun _ _ => ⟨rfl, rfl⟩
      · trivial
  | some oldest =>
      rw [hget] at hret hdata hsplit
      rw [if_neg (by rw [hret]; exact not_not.mpr rfl), hdata]
      have holdest : FrameFor c oldest := by
        apply h.frameFor c
        rw [h.queued, hsplit c, if_pos rfl]
        exact List.mem_append_right _ (List.mem_cons_self ..)
      apply h.threadStep hset
      · exact holdest.length_eq
      · exact fun _ => rfl
      · intro d
        rw [hsplit d]
        show _ = (if c = d then [oldest] else []) ++ _
        simp only [eq_comm (a := c)]
        rfl
      · rw [hheld]
        show [] ++ (if c = c then [oldest] else []) = [] ++ [oldest]
        rw [if_pos rfl]
      · intro d hd
        exact ⟨if_neg (Ne.symm hd), rfl⟩
      · trivial

-- Every step keeps the account of the frames.
theorem normalStep_inv (past : List NormalAnswer) (sys : NormalSystem) (call : NormalCall)
    (h : sys.Inv past) : (normalStep sys call).2.Inv (past ++ [(normalStep sys call).1]) := by
  have hsame : sys.Inv (past ++ [.silent]) := h.silent rfl rfl
  cases call with
  | receive conn chunk =>
      simp only [normalStep]
      split
      · exact h.silent rfl rfl
      · exact hsame
  | iterate now =>
      simp only [normalStep]
      split
      · exact hsame
      next conn offset hbatch =>
        obtain hiter | ⟨offset', hiter⟩ | ⟨offset', packet, hiter⟩ :=
          batchIteration_cases (dispatchLogged now) (sys.streams conn)
            ⟨offset, none, sys.gateway⟩
        · rw [hiter]
          exact h.silent rfl rfl
        · rw [hiter]
          exact h.silent rfl rfl
        · -- a packet was dispatched
          rw [hiter]
          have hadmits := dispatchPacket_admits h.dataBufSet now packet
          apply h.concat
          · exact hadmits.dataBufSet
          · exact h.currFrame
          · intro c
            exact (hadmits.waiting c).symm
          · intro c
            exact List.append_nil _
          · exact hadmits.frameFor
          · trivial
  | readState c =>
      simp only [normalStep]
      split
      next hphase =>
        apply h.threadStep h.dataBufSet
        · exact h.currFrame c
        · exact fun _ => rfl
        · exact fun _ => rfl
        · rw [TxThread.held_eq_nil (by rw [hphase.1]; exact nofun)]
          rfl
        · exact fun _ _ => ⟨rfl, rfl⟩
        · trivial
      · exact hsame
  | readLen c =>
      simp only [normalStep]
      split
      next hphase =>
        apply h.threadStep h.dataBufSet
        · exact h.currFrame c
        · exact fun _ => rfl
        · exact fun _ => rfl
        · rw [TxThread.held_eq_nil (by rw [hphase]; exact nofun), TxThread.held_eq_nil]
          · rfl
          · show (if _ then TxPhase.waiting else .ready) ≠ .handling
            split <;> exact nofun
        · exact fun _ _ => ⟨rfl, rfl⟩
        · trivial
      · exact hsame
  | dequeue c =>
      by_cases hphase : (sys.threads c).phase = .ready
      · exact dequeue_inv h c hphase
      · simp only [normalStep, if_neg hphase]
        exact hsame
  | handle c now clock =>
      simp only [normalStep]
      split
      case isFalse => exact hsame
      next hphase =>
        apply h.threadStep h.dataBufSet
        · exact h.currFrame c
        · exact fun _ => rfl
        · exact fun _ => rfl
        · rw [TxThread.held, if_pos hphase]
          show _ ++ [] = (if c = c then _ else []) ++ []
          rw [if_pos rfl]
        · intro d hd
          exact ⟨rfl, if_neg (Ne.symm hd)⟩
        · exact ⟨_, _, _, rfl, rfl⟩
  | other call => exact h.silent rfl rfl

/-! ## What the account says -/

-- A frame of its channel passes both checks; one that is a whole message is written at once.
theorem axicanDataSendIteration_frameFor {c : UInt8} {frame : List UInt8} (h : FrameFor c frame)
    (pktBuf : PacketBuffer) (now : Int) :
    let exit := (axicanDataSendIteration c pktBuf (PcArmDataData.ofBytes frame, now)).1
    exit ≠ .invalidSyncWord ∧ exit ≠ .channelMismatch ∧
      ((PcArmDataData.ofBytes frame).packetsSum = 1 →
        exit = .single (PcArmDataData.ofBytes frame)) := by
  unfold axicanDataSendIteration
  dsimp only
  rw [if_neg (not_not.mpr h.head), if_neg (not_not.mpr h.chId)]
  have hmulti := handleMultiPacket_exit pktBuf (PcArmDataData.ofBytes frame) now
  refine ⟨?_, ?_, ?_⟩
  · split
    · exact nofun
    · exact hmulti.1
  · split
    · exact nofun
    · exact hmulti.2
  · intro hone
    rw [hone]
    rfl

/-- The frame the CAN driver is given, but for the time stamp. -/
def AxicanFrame.unstamped (frame : AxicanFrame) : AxicanFrame := { frame with timestamp := 0 }

/-- The CAN frame of an accepted frame. -/
def canFrame (frame : List UInt8) : AxicanFrame := sendSingleFrame (PcArmDataData.ofBytes frame) 0

theorem writtenFrames_eq {past : List NormalAnswer} (c : UInt8)
    (hchecked : ∀ answer ∈ past, answer.Checked)
    (hframe : ∀ frame ∈ handledFrames c past,
      FrameFor c frame ∧ (PcArmDataData.ofBytes frame).packetsSum = 1) :
    (writtenFrames c past).map AxicanFrame.unstamped = (handledFrames c past).map canFrame := by
  rw [writtenFrames, handledFrames, List.map_flatMap, List.map_flatMap]
  apply List.flatMap_congr
  intro answer hmem
  cases answer with
  | handled d frame exit written =>
      show (if d = c then written else []).map _ = (if d = c then [frame] else []).map _
      split
      next hd =>
        subst hd
        obtain ⟨pktBuf, now, clock, hexit, hwritten⟩ := hchecked _ hmem
        have hhandled : frame ∈ handledFrames d past :=
          List.mem_flatMap.mpr ⟨_, hmem, by simp [NormalAnswer.handledOn]⟩
        obtain ⟨hfor, hone⟩ := hframe frame hhandled
        rw [hwritten, hexit, (axicanDataSendIteration_frameFor hfor pktBuf now).2.2 hone]
        rfl
      next => rfl
  | packet outcome => rfl
  | dequeued d frame => rfl
  | silent => rfl

-- After a successful initialisation the queues are empty and nothing is on its way.
theorem normalInitial_inv {dataBufSet₀ : RingBuffer32ChSet} {heap heap' : Heap}
    {gateway : GatewayState}
    (hinit : ringbuffer32chInit dataBufSet₀ 48 131072 32 heap = (0, gateway.gDataBufSet, heap')) :
    (NormalSystem.initial gateway).Inv [] := by
  obtain ⟨hwf, helem, _, _, hbank⟩ := ringbuffer32chInit_success hinit
  refine ⟨⟨hwf, congrArg UInt32.toNat helem⟩, fun _ => rfl, ?_, fun _ => rfl, nofun, nofun⟩
  intro c
  show [] = [] ++ gateway.gDataBufSet.bank.queue c.toNat
  rw [hbank]
  rfl

/-- **Normal data goes through in order.**  After any sequence of steps: every dequeued frame has
    the head and the channel its thread checks, so neither check ever discards a frame; and where
    every frame accepted for a channel is a message of its own, the CAN writes of the channel are a
    prefix of the accepted frames. -/
theorem normal_data_in_order (dataBufSet₀ : RingBuffer32ChSet) (heap heap' : Heap)
    (gateway : GatewayState)
    (hinit : ringbuffer32chInit dataBufSet₀ 48 131072 32 heap = (0, gateway.gDataBufSet, heap'))
    (calls : List NormalCall) :
    let past := (Transducer.run normalStep calls (.initial gateway)).1
    (∀ c frame, .dequeued c frame ∈ past → (PcArmDataData.ofBytes frame).head = pcStatusHead ∧
      (PcArmDataData.ofBytes frame).chId = c) ∧
    (∀ c frame exit written, .handled c frame exit written ∈ past →
      exit ≠ .invalidSyncWord ∧ exit ≠ .channelMismatch) ∧
    ∀ c, (∀ frame ∈ acceptedFrames c past, (PcArmDataData.ofBytes frame).packetsSum = 1) →
      (writtenFrames c past).map AxicanFrame.unstamped <+:
        (acceptedFrames c past).map canFrame := by
  intro past
  have hinv := Transducer.run_answers NormalSystem.Inv (normalInitial_inv hinit) normalStep_inv
    calls
  have hdequeued : ∀ c, ∀ frame ∈ dequeuedFrames c past, FrameFor c frame := by
    intro c frame hmem
    apply hinv.frameFor c
    rw [hinv.queued]
    exact List.mem_append_left _ hmem
  have hhandled : ∀ c, ∀ frame ∈ handledFrames c past, frame ∈ dequeuedFrames c past := by
    intro c frame hmem
    show frame ∈ dequeuedFrames c (Transducer.run normalStep calls _).1
    rw [hinv.held]
    exact List.mem_append_left _ hmem
  refine ⟨?_, ?_, ?_⟩
  · intro c frame hmem
    have hfor := hdequeued c frame
      (List.mem_flatMap.mpr ⟨_, hmem, by simp [NormalAnswer.dequeuedOn]⟩)
    exact ⟨hfor.head, hfor.chId⟩
  · intro c frame exit written hmem
    have hfor := hdequeued c frame (hhandled c frame
      (List.mem_flatMap.mpr ⟨_, hmem, by simp [NormalAnswer.handledOn]⟩))
    obtain ⟨pktBuf, now, clock, hexit, _⟩ := hinv.checked _ hmem
    have hchecks := axicanDataSendIteration_frameFor hfor pktBuf now
    rw [hexit]
    exact ⟨hchecks.1, hchecks.2.1⟩
  · intro c hone
    have hpre : handledFrames c past <+: acceptedFrames c past := by
      show handledFrames c past <+: acceptedFrames c (Transducer.run normalStep calls _).1
      rw [hinv.queued, hinv.held, List.append_assoc]
      exact List.prefix_append _ _
    rw [writtenFrames_eq c hinv.checked]
    · exact hpre.map _
    · intro frame hmem
      exact ⟨hdequeued c frame (hhandled c frame hmem), hone frame (hpre.subset hmem)⟩

/-- A 9012 packet with one normal frame for channel 2. -/
def singleFramePacket : List UInt8 :=
  let frame :=
    store32 pcStatusHead ++ [0, 1, 48, 2] ++ List.replicate 24 0 ++ store16 1 ++
      List.replicate 10 0
  let header :=
    store32 (reverse4bytes pcArmDataWord) ++ store32 (reverse4bytes 48) ++ store16 0 ++
      store16 (reverse2bytes 0x0001)
  header ++ store32 (calculateXorChecksum header 12) ++ store32 0 ++ frame ++
    store32 (calculateXorChecksum frame 44)

-- One frame all the way from the socket to the CAN write.
theorem normal_data_in_order_one_frame :
    let dataBufSet := (ringbuffer32chInit .zero 48 131072 32 ampleHeap).2.1
    let past := (Transducer.run normalStep
      [.receive 0 singleFramePacket, .iterate 0, .readState 2, .readLen 2, .dequeue 2,
        .handle 2 0 fun _ => 7]
      (.initial
        { bcast := ⟨.initial .zero, fun ch => { initialConfig ch with state := .opened }⟩
          gDataBufSet := dataBufSet
          gSimulatorBufSet := .zero
          gPulseBufSet := .zero })).1
    (writtenFrames 2 past).map AxicanFrame.unstamped <+: (acceptedFrames 2 past).map canFrame ∧
      (writtenFrames 2 past).length = 1 := by
  intro dataBufSet past
  have hinit : ringbuffer32chInit .zero 48 131072 32 ampleHeap =
      (0, dataBufSet, (ringbuffer32chInit .zero 48 131072 32 ampleHeap).2.2) := rfl
  have hone : ∀ frame ∈ acceptedFrames 2 past, (PcArmDataData.ofBytes frame).packetsSum = 1 := by
    decide +kernel
  have hlen : (writtenFrames 2 past).length = 1 := by decide +kernel
  exact ⟨(normal_data_in_order .zero ampleHeap _ _ hinit _).2.2 2 hone, hlen⟩

end CanGateway
