import CanGateway.Library.History
import CanGateway.NormalData
import CanGateway.PacketMessages
import Mathlib.Data.List.Perm.Subperm

/-!
# What reaches the CAN driver

The writes of a transmit thread depend on the frames accepted for its channel and on the clock, and
on nothing else: not on the other channels, nor on how the steps interleave.  No frame is written
twice, and messages sent one behind the other come out in order.
-/

namespace CanGateway

/-! ## Nothing is written twice -/

/-- The fragments a packet buffer holds. -/
def PacketBuffer.stored (pktBuf : PacketBuffer) : List PcArmDataData :=
  if pktBuf.isActive then pktBuf.frames.take pktBuf.receivedPackets.toNat else []

section Subperm

variable {canId : UInt8} {pktBuf : PacketBuffer} {past : List (PcArmDataData × Int)}

end Subperm

/-! ## Messages one behind the other -/

section Messages

variable {canId : UInt8}

/-- The fragments of a message under way are in the buffer. -/
def Underway (n i : Nat) (stored : List PcArmDataData) (last : Int) (pktBuf : PacketBuffer) :
    Prop :=
  stored.length = i ∧ (i = 0 ∨ n ≤ 10 ∧ i < n ∧ Holding n stored last pktBuf)

-- One fragment, due and in time.
theorem Underway.fragment (pktBuf : PacketBuffer) (last now : Int) {n i : Nat}
    {stored : List PcArmDataData} {frame : PcArmDataData} (hcheck : PassesChecks canId frame)
    (h : stored = [] ∨ Holding n stored last pktBuf ∧ now - last ≤ 1) (hlen : stored.length = i)
    (hn : 2 ≤ n) (hn' : n ≤ 10) (hi : i < n) (hsum : frame.packetsSum.toNat = n)
    (hno : frame.packetsNo.toNat = i) :
    let r := axicanDataSendIteration canId pktBuf (frame, now)
    ∃ stored', r.1.sent ++ stored' = stored ++ [frame] ∧
      Underway n (if i + 1 = n then 0 else i + 1) stored' now r.2 := by
  intro r
  have hmulti : r = handleMultiPacket pktBuf frame now := by
    show axicanDataSendIteration canId pktBuf (frame, now) = _
    rw [axicanDataSendIteration_checked hcheck, if_neg]
    rw [← UInt8.toNat_inj, UInt16.toNat_toUInt8, hsum, UInt8.toNat_one]
    omega
  have hfragment := handleMultiPacket_fragment hn' (by omega) h hsum (hno.trans hlen.symm)
  dsimp only at hfragment
  rw [← hmulti, hlen] at hfragment
  by_cases hlast : i + 1 = n
  · rw [if_pos hlast] at hfragment ⊢
    refine ⟨[], ?_, rfl, Or.inl rfl⟩
    rw [hfragment, List.append_nil]
    rfl
  · rw [if_neg hlast] at hfragment ⊢
    refine ⟨stored ++ [frame], ?_, ?_, Or.inr ⟨hn', by omega, hfragment.2⟩⟩
    · rw [hfragment.1]
      rfl
    · rw [List.length_append, List.length_singleton, hlen]

end Messages

/-! ## The system -/

/-- What the transmit thread of channel `c` passes in one step: the frame, with the clock. -/
def passOf (c : UInt8) : NormalCall × NormalAnswer → List (PcArmDataData × Int)
  | (.handle _ now _, .handled d frame _ _) =>
      if d = c then [(PcArmDataData.ofBytes frame, now)] else []
  | _ => []

/-- The passes of the transmit thread of channel `c`, oldest first. -/
def txPasses (c : UInt8) (past : List (NormalCall × NormalAnswer)) : List (PcArmDataData × Int) :=
  past.flatMap (passOf c)

/-- The CAN frames of the exits of some passes, but for the time stamps. -/
def exitFrames (exits : List TxExit) : List AxicanFrame :=
  (exits.flatMap TxExit.sent).map fun frame => sendSingleFrame frame 0

theorem exitFrames_append (exits exits' : List TxExit) :
    exitFrames (exits ++ exits') = exitFrames exits ++ exitFrames exits' := by
  rw [exitFrames, List.flatMap_append, List.map_append]
  rfl

/-- What each thread does is what its loop makes of its passes. -/
structure RunsLoops (past : List (NormalCall × NormalAnswer)) (sys : NormalSystem) : Prop where
  pktBuf : ∀ c, (sys.threads c).pktBuf = (txRun c (txPasses c past)).2
  written : ∀ c, (writtenFrames c (past.map Prod.snd)).map AxicanFrame.unstamped =
    exitFrames (txRun c (txPasses c past)).1
  handled : ∀ c, (txPasses c past).map Prod.fst =
    (handledFrames c (past.map Prod.snd)).map PcArmDataData.ofBytes

section Steps

variable {past : List (NormalCall × NormalAnswer)} {sys sys' : NormalSystem}

-- A step in terms of the pass it makes, if it makes one.
theorem RunsLoops.concat (h : RunsLoops past sys) {logged : NormalCall × NormalAnswer}
    (exits : UInt8 → List TxExit)
    (hrun : ∀ c, Transducer.run (axicanDataSendIteration c) (passOf c logged)
        (sys.threads c).pktBuf = (exits c, (sys'.threads c).pktBuf))
    (hwritten : ∀ c, (logged.2.writtenOn c).map AxicanFrame.unstamped = exitFrames (exits c))
    (hhandled : ∀ c, (passOf c logged).map Prod.fst =
      (logged.2.handledOn c).map PcArmDataData.ofBytes) :
    RunsLoops (past ++ [logged]) sys' := by
  have htx : ∀ c, txRun c (txPasses c (past ++ [logged])) =
      ((txRun c (txPasses c past)).1 ++ exits c, (sys'.threads c).pktBuf) := by
    intro c
    have happend := Transducer.run_append (axicanDataSendIteration c) (txPasses c past)
      (passOf c logged) .zero
    change _ = ((txRun c (txPasses c past)).1 ++ (Transducer.run _ _ (txRun c _).2).1,
      (Transducer.run _ _ (txRun c _).2).2) at happend
    rw [← h.pktBuf, hrun] at happend
    rw [txPasses, History.flatMap_concat]
    exact happend
  constructor
  · intro c
    rw [htx]
  · intro c
    rw [htx, exitFrames_append, ← h.written, ← hwritten, List.map_append, List.map_singleton,
      writtenFrames, History.flatMap_concat, List.map_append]
    rfl
  · intro c
    rw [txPasses, History.flatMap_concat, List.map_append, hhandled, List.map_append,
      List.map_singleton, handledFrames, History.flatMap_concat, List.map_append]
    exact congrArg (· ++ _) (h.handled c)

def NormalAnswer.handles : NormalAnswer → Bool
  | .handled .. => true
  | _ => false

-- A step in which no frame is handled.
theorem RunsLoops.quiet (h : RunsLoops past sys) (call : NormalCall) {answer : NormalAnswer}
    (hbuf : ∀ c, (sys'.threads c).pktBuf = (sys.threads c).pktBuf)
    (hanswer : answer.handles = false) :
    RunsLoops (past ++ [(call, answer)]) sys' := by
  have hnone : ∀ c, passOf c (call, answer) = [] ∧ answer.handledOn c = [] ∧
      answer.writtenOn c = [] := by
    intro c
    cases answer with
    | handled d frame exit written => exact Bool.noConfusion hanswer
    | packet outcome => cases call <;> exact ⟨rfl, rfl, rfl⟩
    | dequeued d frame => cases call <;> exact ⟨rfl, rfl, rfl⟩
    | silent => cases call <;> exact ⟨rfl, rfl, rfl⟩
  apply h.concat fun _ => []
  · intro c
    rw [(hnone c).1, hbuf]
    rfl
  · intro c
    show (answer.writtenOn c).map _ = _
    rw [(hnone c).2.2]
    rfl
  · intro c
    show _ = (answer.handledOn c).map _
    rw [(hnone c).1, (hnone c).2.1]
    rfl

end Steps

end CanGateway
