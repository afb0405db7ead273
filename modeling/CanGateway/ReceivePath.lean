import CanGateway.Library.History
import CanGateway.DownloadDispatch
import CanGateway.ReceiveConsumers
import Mathlib.Data.List.Flatten
import Mathlib.Data.List.Perm.Basic

/-!
# The received frames in the queues

Whatever the modes are and however often they change: a frame a receive thread has queued goes to
one of the two consumers of its channel, once, and in the order of the queue.  The process thread
passes every frame on; the simulator thread drops what a batch holds behind a frame that it caches.
The simulator's table is what has been read of the channel's records by then.
-/

namespace CanGateway

/-! ## What a run did with the frames -/

/-- An event of a consumer, or one that the queues alone show: a frame or a record offered to its
    queue, and whether it was taken; the frames of a batch that the simulator thread has not looked
    at when it leaves its loop over the batch. -/
inductive ReceiveLog where
  | offered (c : UInt8) (frame : AxicanFrame) (taken : Bool)
  | offeredRecord (c : UInt8) (record : PcArmSimulatorData) (taken : Bool)
  | dropped (c : UInt8) (frames : List AxicanFrame)
  | event (event : ReceiveEvent)

namespace ReceiveLog

def storedOn (c : UInt8) : ReceiveLog → List AxicanFrame
  | offered d frame true => if d = c then [frame] else []
  | _ => []

def recordsOn (c : UInt8) : ReceiveLog → List PcArmSimulatorData
  | offeredRecord d record true => if d = c then [record] else []
  | _ => []

def dequeuedOn (c : UInt8) : ReceiveLog → List AxicanFrame
  | event (.dequeued _ d frame _) => if d = c then [frame] else []
  | _ => []

def dequeuedBy (consumer : Consumer) (c : UInt8) : ReceiveLog → List AxicanFrame
  | event (.dequeued consumer' d frame _) => if consumer' = consumer ∧ d = c then [frame] else []
  | _ => []

/-- The frames passed to `handle_normal_mode`. -/
def normalOn (c : UInt8) : ReceiveLog → List AxicanFrame
  | event (.normal d frame) => if d = c then [frame] else []
  | _ => []

/-- The frames that the simulator thread compares with its table or caches. -/
def lookedOn (c : UInt8) : ReceiveLog → List AxicanFrame
  | event (.simulated d events) => if d = c then events.filterMap AlongEvent.handled else []
  | _ => []

def droppedOn (c : UInt8) : ReceiveLog → List AxicanFrame
  | dropped d frames => if d = c then frames else []
  | _ => []

/-- The frames of its batches, looked at or dropped. -/
def batchesOn (c : UInt8) (log : ReceiveLog) : List AxicanFrame := log.lookedOn c ++ log.droppedOn c

end ReceiveLog

/-- The part of its batch the simulator thread has not handled yet. -/
def AlongPc.inHand : AlongPc → List AxicanFrame
  | .reading _ batch => batch
  | .matching batch => batch
  | _ => []

/-- How many records the simulator thread may still load. -/
def AlongPc.loads : AlongPc → Nat
  | .waiting => 32
  | .typed _ => 32
  | .loading => 32
  | .preloading left => left
  | _ => 0

/-! ## One step -/

/-- What a step comes to for channel `c`. -/
structure ReceiveMoves (s : ReceiveSystem) (logs : List ReceiveLog) (t : ReceiveSystem)
    (c : UInt8) : Prop where
  frames : s.canBuf.queue c.toNat ++ logs.flatMap (ReceiveLog.storedOn c) =
    logs.flatMap (ReceiveLog.dequeuedOn c) ++ t.canBuf.queue c.toNat
  process : (s.processing c).pc.inHand ++ logs.flatMap (ReceiveLog.dequeuedBy .process c) =
    logs.flatMap (ReceiveLog.normalOn c) ++ (t.processing c).pc.inHand
  along : (s.simulating c).pc.inHand ++ logs.flatMap (ReceiveLog.dequeuedBy .along c) =
    logs.flatMap (ReceiveLog.batchesOn c) ++ (t.simulating c).pc.inHand
  records : (s.simulating c).table ++ s.simulatorBuf.queue c.toNat ++
      logs.flatMap (ReceiveLog.recordsOn c) =
    (t.simulating c).table ++ t.simulatorBuf.queue c.toNat
  loads : (t.simulating c).table.length + (t.simulating c).pc.loads ≤
    (s.simulating c).table.length + (s.simulating c).pc.loads
  fixed : (s.simulating c).pc.loads = 0 → (t.simulating c).table = (s.simulating c).table

section Steps

variable {s t : ReceiveSystem} {c d : UInt8}

-- A step that moves nothing of the channel.
theorem ReceiveMoves.none (hcan : t.canBuf.queue c.toNat = s.canBuf.queue c.toNat)
    (hsim : t.simulatorBuf.queue c.toNat = s.simulatorBuf.queue c.toNat)
    (hprocess : (t.processing c).pc.inHand = (s.processing c).pc.inHand)
    (halong : (t.simulating c).pc.inHand = (s.simulating c).pc.inHand)
    (htable : (t.simulating c).table = (s.simulating c).table)
    (hloads : (t.simulating c).pc.loads ≤ (s.simulating c).pc.loads) : ReceiveMoves s [] t c := by
  constructor
  · exact (List.append_nil _).trans hcan.symm
  · exact (List.append_nil _).trans hprocess.symm
  · exact (List.append_nil _).trans halong.symm
  · rw [htable, hsim]
    exact List.append_nil _
  · rw [htable]
    exact Nat.add_le_add_left hloads _
  · exact fun _ => htable

-- What a get takes is the first element of its channel's queue.
theorem queue_taken {α : Type} {bank : QueueBank α} {limit : Nat} {x : α} {bank' : QueueBank α}
    (hget : bank.get limit d.toNat = (some x, bank')) (c : UInt8) :
    bank.queue c.toNat = (if d = c then [x] else []) ++ bank'.queue c.toNat := by
  have hqueue := bank.queue_get limit d.toNat c.toNat
  rw [hget] at hqueue
  rw [hqueue]
  by_cases hd : d = c
  · rw [if_pos hd, if_pos (congrArg UInt8.toNat hd.symm)]
    rfl
  · rw [if_neg hd, if_neg fun h => hd (UInt8.toNat_inj.mp h.symm)]

theorem processing_setProcess (s : ReceiveSystem) (d c : UInt8) (thread : ProcessThread) :
    (s.setProcess d thread).processing c = if c = d then thread else s.processing c :=
  Function.update_apply _ _ _ _

theorem simulating_setSimulator (s : ReceiveSystem) (d c : UInt8) (thread : SimulatorThread) :
    (s.setSimulator d thread).simulating c = if c = d then thread else s.simulating c :=
  Function.update_apply _ _ _ _

-- A step of the process thread that only moves on.
theorem ReceiveMoves.goto {thread : ProcessThread}
    (hhand : (s.processing d).pc.inHand = thread.pc.inHand) :
    ReceiveMoves s [] (s.setProcess d thread) c := by
  apply ReceiveMoves.none
  · rfl
  · rfl
  · rw [processing_setProcess]
    split
    next hc => rw [hc, hhand]
    · rfl
  · rfl
  · rfl
  · exact Nat.le_refl _

-- It takes a frame.
theorem ReceiveMoves.dequeue {thread : ProcessThread} {frame : AxicanFrame} {pass : LoopPass}
    {canBuf : QueueBank AxicanFrame} (hget : s.canBuf.get axicanMax d.toNat = (some frame, canBuf))
    (hhand : thread.pc.inHand = (s.processing d).pc.inHand ++ [frame]) :
    ReceiveMoves s [.event (.dequeued .process d frame pass)]
      { s.setProcess d thread with canBuf := canBuf } c := by
  constructor
  · rw [List.flatMap_singleton, List.flatMap_singleton]
    exact (List.append_nil _).trans (queue_taken hget c)
  · rw [List.flatMap_singleton, List.flatMap_singleton]
    show _ ++ (if Consumer.process = .process ∧ d = c then [frame] else []) =
      [] ++ ((s.setProcess d thread).processing c).pc.inHand
    rw [processing_setProcess]
    by_cases hd : d = c
    · rw [if_pos ⟨rfl, hd⟩, if_pos hd.symm, hhand, hd]
      rfl
    · rw [if_neg fun h => hd h.2, if_neg (Ne.symm hd)]
      exact List.append_nil _
  · rw [List.flatMap_singleton, List.flatMap_singleton]
    show _ ++ (if Consumer.process = .along ∧ d = c then [frame] else []) = _
    rw [if_neg fun h => Consumer.noConfusion h.1]
    exact List.append_nil _
  · exact List.append_nil _
  · exact Nat.le_refl _
  · exact fun _ => rfl

-- It passes a frame on.
theorem ReceiveMoves.handle {thread : ProcessThread} {frame : AxicanFrame}
    (hhand : (s.processing d).pc.inHand = frame :: thread.pc.inHand) :
    ReceiveMoves s [.event (.normal d frame)] (s.setProcess d thread) c := by
  constructor
  · exact List.append_nil _
  · rw [List.flatMap_singleton, List.flatMap_singleton]
    show _ ++ [] = (if d = c then [frame] else []) ++
      ((s.setProcess d thread).processing c).pc.inHand
    rw [processing_setProcess, List.append_nil]
    by_cases hd : d = c
    · rw [if_pos hd, if_pos hd.symm, ← hd, hhand]
      rfl
    · rw [if_neg hd, if_neg (Ne.symm hd)]
      rfl
  · exact List.append_nil _
  · exact List.append_nil _
  · exact Nat.le_refl _
  · exact fun _ => rfl

theorem inHand_setSimulator {thread : SimulatorThread}
    (hhand : thread.pc.inHand = (s.simulating d).pc.inHand) :
    ((s.setSimulator d thread).simulating c).pc.inHand = (s.simulating c).pc.inHand := by
  rw [simulating_setSimulator]
  split
  next hc => rw [hc, hhand]
  · rfl

-- It loads a record.
theorem ReceiveMoves.load {thread : SimulatorThread} {record : PcArmSimulatorData}
    {simulatorBuf : QueueBank PcArmSimulatorData}
    (hget : s.simulatorBuf.get 32 d.toNat = (some record, simulatorBuf))
    (hhand : thread.pc.inHand = (s.simulating d).pc.inHand)
    (htable : thread.table = (s.simulating d).table ++ [record])
    (hloads : (s.simulating d).pc.loads = thread.pc.loads + 1) :
    ReceiveMoves s [] { s.setSimulator d thread with simulatorBuf := simulatorBuf } c := by
  constructor
  · exact List.append_nil _
  · exact List.append_nil _
  · exact (List.append_nil _).trans (inHand_setSimulator hhand).symm
  · show _ ++ s.simulatorBuf.queue c.toNat ++ [] =
      ((s.setSimulator d thread).simulating c).table ++ simulatorBuf.queue c.toNat
    rw [simulating_setSimulator, List.append_nil, queue_taken hget c]
    by_cases hd : d = c
    · rw [if_pos hd, if_pos hd.symm, ← hd, htable, ← List.append_assoc]
    · rw [if_neg hd, if_neg (Ne.symm hd)]
      rfl
  · show ((s.setSimulator d thread).simulating c).table.length +
      ((s.setSimulator d thread).simulating c).pc.loads ≤ _
    rw [simulating_setSimulator]
    split
    next hc =>
      rw [hc, htable, hloads, List.length_append, List.length_singleton]
      omega
    · exact Nat.le_refl _
  · show _ → ((s.setSimulator d thread).simulating c).table = _
    intro hzero
    rw [simulating_setSimulator, if_neg]
    intro hc
    rw [hc, hloads] at hzero
    exact absurd hzero (Nat.succ_ne_zero _)

end Steps

/-! ## Runs -/

/-- A frame is queued exactly if there is a queue for its channel and this holds fewer than 32768
    frames; frames of a batch are dropped only behind one that was cached, and none behind that one
    is looked at. -/
structure ReceiveLog.Fits (before : List (List ReceiveLog)) (logs : List ReceiveLog) : Prop where
  offered : ∀ c frame taken, ReceiveLog.offered c frame taken ∈ logs →
    (taken = true ↔ c.toNat < axicanMax ∧
      (before.flatten.flatMap (ReceiveLog.storedOn c)).length <
        (before.flatten.flatMap (ReceiveLog.dequeuedOn c)).length + 32768)
  dropped : ∀ c frames, ReceiveLog.dropped c frames ∈ logs → frames ≠ [] →
    ∃ events looked frame, ReceiveLog.event (.simulated c events) ∈ logs ∧
      events.filterMap AlongEvent.handled = looked ++ [frame] ∧ .cached frame ∈ events
  cached : ∀ c events frame, ReceiveLog.event (.simulated c events) ∈ logs →
    .cached frame ∈ events → ∃ looked, events.filterMap AlongEvent.handled = looked ++ [frame]

end CanGateway
