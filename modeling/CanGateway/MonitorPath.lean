import CanGateway.Library.History
import CanGateway.Simulator
import CanGateway.UploadRecords

/-!
# The monitored frames, from the driver to the reports

`send_data_tid_thread` reads the frames a channel has sent back from the driver and queues them in
`g_poll_buf_set`; `axican_data_process_thread_1` takes them out and reports them on port 9010.  The
two threads of each channel run with all the others, one access to shared data at a time.  The type
of a report goes through `can_data_type`, which is one variable for all channels.
-/

namespace CanGateway

/-! ## The driver's interface -/

def axicanWriteFlag : Int := 0
def axicanReadFlag : Int := 1

/-- `pollrc` is what `poll` returns. -/
def axicanPoll2 (flags pollrc : Int) : Int :=
  if flags ≠ axicanWriteFlag ∧ flags ≠ axicanReadFlag then -1
  else if pollrc > 0 then 0
  else -1

/-- `rc` and `frameCount` are what the `ioctl` returns and writes. -/
def axicanGetFrameCount (rc : Int) (frameCount : UInt32) : Int :=
  if rc ≠ 0 then 0 else frameCount.toInt32.toInt

/-! ## The system -/

/-- Where `send_data_tid_thread` stands: at its `poll`, or in the loop of `axican_read_data_t`. -/
inductive ReaderPc where
  | polling
  | reading (i frameCount : Nat)
  deriving DecidableEq, Repr

/-- Where `axican_data_process_thread_1` stands.  It compares the channel's mode with `ALONG_MODE`
    (`typing`), then with `NORMAL_MODE` (`retyping`), writes `can_data_type` (`writing`), and reads
    it for every frame (`sending`) before `send_can_transmit_response` (`calling`). -/
inductive ReporterPc where
  | counting
  | dequeuing (left : Nat) (batch : List AxicanFrame)
  | typing (batch : List AxicanFrame)
  | retyping (batch : List AxicanFrame)
  | writing (dataType : UInt8) (batch : List AxicanFrame)
  | sending (batch : List AxicanFrame)
  | calling (dataType : UInt8) (frame : AxicanFrame) (batch : List AxicanFrame)
  deriving DecidableEq, Repr

structure MonitorSystem where
  gPollBufSet : RingBuffer32ChSet
  canDataType : UInt8
  configs : CanConfigs
  connected : Bool
  counters : UploadCounters
  readers : UInt8 → ReaderPc
  reporters : UInt8 → ReporterPc

/-- As `main` starts the threads. -/
def MonitorSystem.initial (gPollBufSet : RingBuffer32ChSet) (configs : CanConfigs) :
    MonitorSystem where
  gPollBufSet := gPollBufSet
  canDataType := 0
  configs := configs
  connected := false
  counters := ⟨0, fun _ => 0⟩
  readers := fun _ => .polling
  reporters := fun _ => .counting

namespace MonitorSystem

def setReader (s : MonitorSystem) (c : UInt8) (pc : ReaderPc) : MonitorSystem :=
  { s with readers := Function.update s.readers c pc }

def setReporter (s : MonitorSystem) (c : UInt8) (pc : ReporterPc) : MonitorSystem :=
  { s with reporters := Function.update s.reporters c pc }

end MonitorSystem

/-- `poll` and `read` are steps of the monitor thread of channel `c` with what the driver answers,
    `report` is the next step of its report thread; `other` is anything the other threads do to the
    configurations, the connection and the counters. -/
inductive MonitorCall where
  | poll (c : UInt8) (pollrc rc : Int) (frameCount : UInt32)
  | read (c : UInt8) (rc : Int) (frame : AxicanFrame)
  | report (c : UInt8) (clock : UInt64)
  | other (configs : CanConfigs) (connected : Bool) (counters : UploadCounters)

inductive MonitorEvent where
  | read (c : UInt8) (frame : AxicanFrame) (stored : Bool)
  | dequeued (c : UInt8) (frame : AxicanFrame)
  | typed (c : UInt8) (dataType : UInt8)
  | reported (c : UInt8) (dataType : UInt8) (frame : AxicanFrame) (message : Option UploadMessage)
  | quiet

/-- A step of `axican_read_data_t`, called with `axican_get_frame_count` made. -/
def readerStep (s : MonitorSystem) (c : UInt8) (rc : Int) (frame : AxicanFrame) :
    MonitorEvent × MonitorSystem :=
  match s.readers c with
  | .polling => (.quiet, s)
  | .reading i frameCount =>
      if i < frameCount then
        -- a short read ends the call
        if rc ≠ sizeofAxicanFrame then (.quiet, s.setReader c .polling)
        else
          let put := ringbuffer32chPut s.gPollBufSet c (some frame.toBytes) 6
          (.read c frame (put.1 ≠ 0),
            { s.setReader c (.reading (i + 1) frameCount) with gPollBufSet := put.2 })
      else (.quiet, s.setReader c .polling)

/-- The next step of `axican_data_process_thread_1` of channel `c`. -/
def reporterStep (s : MonitorSystem) (c : UInt8) (clock : UInt64) :
    MonitorEvent × MonitorSystem :=
  match s.reporters c with
  | .counting =>
      let queuedFrames := (ringbuffer32chLen s.gPollBufSet c 6).toNat
      (.quiet, s.setReporter c (.dequeuing (min queuedFrames dequeueBatchSize) []))
  | .dequeuing 0 batch => (.quiet, s.setReporter c (.typing batch))
  | .dequeuing (left + 1) batch =>
      let get := ringbuffer32chGet s.gPollBufSet c (some (List.replicate sizeofAxicanFrame 0)) 6
      if get.1 = 1 then
        let frame := AxicanFrame.ofBytes (get.2.1.getD [])
        (.dequeued c frame,
          { s.setReporter c (.dequeuing left (batch ++ [frame])) with gPollBufSet := get.2.2 })
      else (.quiet, { s.setReporter c (.typing batch) with gPollBufSet := get.2.2 })
  | .typing batch =>
      (.quiet, s.setReporter c
        (if (s.configs c).canType.toUInt16 = alongMode then .writing 0x82 batch
          else .retyping batch))
  | .retyping batch =>
      (.quiet, s.setReporter c
        (if (s.configs c).canType.toUInt16 = normalMode then .writing 0x80 batch
          else .sending batch))
  | .writing dataType batch =>
      (.typed c dataType, { s.setReporter c (.sending batch) with canDataType := dataType })
  | .sending [] => (.quiet, s.setReporter c .counting)
  | .sending (frame :: batch) =>
      (.quiet, s.setReporter c (.calling s.canDataType frame batch))
  | .calling dataType frame batch =>
      let r := sendCanTransmitResponse s.connected c dataType 1 frame clock s.counters
      (.reported c dataType frame r.1,
        { s.setReporter c (.sending batch) with counters := r.2 })

def monitorStep (s : MonitorSystem) : MonitorCall → MonitorEvent × MonitorSystem
  | .poll c pollrc rc frameCount =>
      if c.toNat < axicanMax ∧ s.readers c = .polling ∧ axicanPoll2 axicanWriteFlag pollrc = 0 ∧
          0 < axicanGetFrameCount rc frameCount then
        (.quiet, s.setReader c (.reading 0 (axicanGetFrameCount rc frameCount).toNat))
      else (.quiet, s)
  | .read c rc frame => readerStep s c rc frame
  | .report c clock =>
      -- there are six threads
      if c.toNat < axicanMax then reporterStep s c clock else (.quiet, s)
  | .other configs connected counters =>
      (.quiet, { s with configs := configs, connected := connected, counters := counters })

/-! ## What a run did with the frames of a channel -/

namespace MonitorEvent

def storedOn (c : UInt8) : MonitorEvent → List AxicanFrame
  | read d frame stored => if d = c ∧ stored = true then [frame] else []
  | _ => []

def dequeuedOn (c : UInt8) : MonitorEvent → List AxicanFrame
  | dequeued d frame => if d = c then [frame] else []
  | _ => []

def reportedOn (c : UInt8) : MonitorEvent → List AxicanFrame
  | reported d _ frame _ => if d = c then [frame] else []
  | _ => []

end MonitorEvent

section History

variable (c : UInt8) (past : List MonitorEvent)

/-- The frames of channel `c` queued in `g_poll_buf_set`, oldest first. -/
def storedFrames : List AxicanFrame := past.flatMap (MonitorEvent.storedOn c)
def takenFrames : List AxicanFrame := past.flatMap (MonitorEvent.dequeuedOn c)
/-- The frames passed to `send_can_transmit_response`. -/
def reportedFrames : List AxicanFrame := past.flatMap (MonitorEvent.reportedOn c)

end History

/-- The part of its batch the thread has not reported. -/
def ReporterPc.inHand : ReporterPc → List AxicanFrame
  | .counting => []
  | .dequeuing _ batch | .typing batch | .retyping batch | .writing _ batch
  | .sending batch => batch
  | .calling _ frame batch => frame :: batch

/-- The event of a call in the state `s` fits the past: a frame is stored exactly if fewer than
    `cap` frames wait, and a report is the message of `send_can_transmit_response` for its frame,
    with the connection and the counters of that moment and the clock of the call. -/
def MonitorEvent.Fits (cap : Nat) (past : List MonitorEvent) (s : MonitorSystem)
    (call : MonitorCall) : MonitorEvent → Prop
  | read c _ stored =>
      stored = true ↔ (storedFrames c past).length < (takenFrames c past).length + cap
  | reported c dataType frame message =>
      ∃ clock, call = .report c clock ∧
        message = (sendCanTransmitResponse s.connected c dataType 1 frame clock s.counters).1
  | _ => True

/-! ## The invariant -/

/-- `g_poll_buf_set` holds the frames of a bank of six queues of `cap` frames. -/
structure HoldsMonitored (cap : Nat) (set : RingBuffer32ChSet) (bank : QueueBank AxicanFrame) :
    Prop where
  carries : Carries AxicanFrame.toBytes set bank
  channels : bank.channels = axicanMax
  cap_eq : bank.cap = cap

/-- The frames stored and not taken out are the queues of `bank`. -/
def Queued (past : List MonitorEvent) (bank : QueueBank AxicanFrame) : Prop :=
  ∀ c : UInt8, c.toNat < axicanMax →
    storedFrames c past = takenFrames c past ++ bank.queue c.toNat

/-- What is stored waits, is in a thread's hand or is reported, in this order. -/
structure MonitorSystem.Inv (cap : Nat) (past : List MonitorEvent) (s : MonitorSystem) : Prop where
  queued : ∃ bank, HoldsMonitored cap s.gPollBufSet bank ∧ Queued past bank
  held : ∀ c, takenFrames c past = reportedFrames c past ++ (s.reporters c).inHand
  readers : ∀ c, s.readers c ≠ .polling → c.toNat < axicanMax

section Steps

variable {cap : Nat} {past : List MonitorEvent} {s s' : MonitorSystem} {e : MonitorEvent}
  {bank : QueueBank AxicanFrame} {c : UInt8}

theorem HoldsMonitored.valid (h : HoldsMonitored cap s.gPollBufSet bank)
    (hc : c.toNat < axicanMax) : bank.Valid (6 : UInt8).toNat c.toNat := by
  refine ⟨hc, ?_⟩
  rw [h.channels]
  exact hc

-- An event in terms of the frames it stores, takes out and reports.
theorem MonitorSystem.Inv.concat (h : s.Inv cap past) {bank bank' : QueueBank AxicanFrame}
    (hqueued : Queued past bank) (hholds : HoldsMonitored cap s'.gPollBufSet bank')
    (hqueue : ∀ c : UInt8, c.toNat < axicanMax →
      bank.queue c.toNat ++ e.storedOn c = e.dequeuedOn c ++ bank'.queue c.toNat)
    (hheld : ∀ c, (s.reporters c).inHand ++ e.dequeuedOn c =
      e.reportedOn c ++ (s'.reporters c).inHand)
    (hreaders : ∀ c, s'.readers c ≠ .polling → c.toNat < axicanMax) :
    s'.Inv cap (past ++ [e]) where
  queued := by
    refine ⟨bank', hholds, ?_⟩
    intro c hc
    rw [storedFrames, takenFrames, History.flatMap_concat, History.flatMap_concat]
    show storedFrames c past ++ _ = (takenFrames c past ++ _) ++ _
    rw [hqueued c hc, List.append_assoc, List.append_assoc, hqueue c hc]
  held := by
    intro c
    rw [takenFrames, reportedFrames, History.flatMap_concat, History.flatMap_concat]
    show takenFrames c past ++ _ = (reportedFrames c past ++ _) ++ _
    rw [h.held c, List.append_assoc, List.append_assoc, hheld c]
  readers := hreaders

-- A step that leaves the queues and what the threads hold.
theorem MonitorSystem.Inv.same (h : s.Inv cap past) (hset : s'.gPollBufSet = s.gPollBufSet)
    (hstored : ∀ c, e.storedOn c = []) (htaken : ∀ c, e.dequeuedOn c = [])
    (hheld : ∀ c, (s.reporters c).inHand = e.reportedOn c ++ (s'.reporters c).inHand)
    (hreaders : ∀ c, s'.readers c ≠ .polling → c.toNat < axicanMax) :
    s'.Inv cap (past ++ [e]) := by
  obtain ⟨bank, hholds, hqueued⟩ := h.queued
  apply h.concat hqueued
  · rw [hset]
    exact hholds
  · intro c _
    rw [hstored, htaken]
    exact List.append_nil _
  · intro c
    rw [htaken, List.append_nil]
    exact hheld c
  · exact hreaders

theorem MonitorSystem.readers_setReader (s : MonitorSystem) (c d : UInt8) (pc : ReaderPc) :
    (s.setReader c pc).readers d = if d = c then pc else s.readers d :=
  Function.update_apply _ _ _ _

theorem MonitorSystem.reporters_setReporter (s : MonitorSystem) (c d : UInt8) (pc : ReporterPc) :
    (s.setReporter c pc).reporters d = if d = c then pc else s.reporters d :=
  Function.update_apply _ _ _ _

-- A monitor thread moves on without reading.
theorem MonitorSystem.Inv.reader (h : s.Inv cap past) {pc : ReaderPc}
    (hc : pc ≠ .polling → c.toNat < axicanMax) :
    (s.setReader c pc).Inv cap (past ++ [.quiet]) := by
  apply h.same
  · rfl
  · exact fun _ => rfl
  · exact fun _ => rfl
  · exact fun _ => rfl
  intro d hd
  rw [MonitorSystem.readers_setReader] at hd
  split at hd
  next hdc =>
    rw [hdc]
    exact hc hd
  · exact h.readers d hd

theorem readerStep_inv (h : s.Inv cap past) (c : UInt8) (rc : Int) (frame : AxicanFrame) :
    (readerStep s c rc frame).2.Inv cap (past ++ [(readerStep s c rc frame).1]) := by
  unfold readerStep
  split
  · exact h.same rfl (fun _ => rfl) (fun _ => rfl) (fun _ => rfl) h.readers
  next i frameCount hpc =>
    have hc : c.toNat < axicanMax := h.readers c (by rw [hpc]; simp)
    split
    · split
      · exact h.reader fun hne => absurd rfl hne
      · obtain ⟨bank, hholds, hqueued⟩ := h.queued
        obtain ⟨hret, hput⟩ := hholds.carries.put c 6 frame
        apply h.concat hqueued
        · exact ⟨hput, by rw [QueueBank.channels_put, hholds.channels],
            by rw [QueueBank.cap_put, hholds.cap_eq]⟩
        · intro d _
          simp only [MonitorEvent.storedOn, MonitorEvent.dequeuedOn, List.nil_append]
          rw [QueueBank.queue_put, hret]
          cases (bank.put (6 : UInt8).toNat c.toNat frame).1 with
          | true =>
              by_cases hdc : c = d
              · rw [if_pos ⟨hdc, by simp [successCode]⟩, if_pos ⟨rfl, by rw [hdc]⟩]
              · rw [if_neg (fun h => hdc h.1), List.append_nil,
                  if_neg (fun h => hdc (UInt8.toNat_inj.mp h.2.symm))]
          | false =>
              rw [if_neg (by simp [successCode]), if_neg (by simp), List.append_nil]
        · exact fun d => List.append_nil _
        · intro d hd
          rw [MonitorSystem.readers_setReader] at hd
          split at hd
          next hdc => exact hdc ▸ hc
          · exact h.readers d hd
    · exact h.reader fun hne => absurd rfl hne

-- A report thread moves on with the same frames in its hand, but for one it reports.
theorem MonitorSystem.Inv.reporter (h : s.Inv cap past) {pc : ReporterPc}
    {canDataType : UInt8} {counters : UploadCounters} (hstored : ∀ d, e.storedOn d = [])
    (htaken : ∀ d, e.dequeuedOn d = [])
    (hheld : (s.reporters c).inHand = e.reportedOn c ++ pc.inHand)
    (hother : ∀ d, d ≠ c → e.reportedOn d = []) :
    MonitorSystem.Inv cap (past ++ [e])
      { s.setReporter c pc with canDataType := canDataType, counters := counters } := by
  apply h.same
  · rfl
  · exact hstored
  · exact htaken
  case hreaders => exact h.readers
  intro d
  show _ = _ ++ ((s.setReporter c pc).reporters d).inHand
  rw [MonitorSystem.reporters_setReporter]
  by_cases hd : d = c
  · rw [hd, if_pos rfl]
    exact hheld
  · rw [if_neg hd, hother d hd]
    rfl

theorem MonitorSystem.Inv.reporter_quiet (h : s.Inv cap past) {pc : ReporterPc}
    (hheld : (s.reporters c).inHand = pc.inHand) :
    (s.setReporter c pc).Inv cap (past ++ [.quiet]) :=
  h.reporter (fun _ => rfl) (fun _ => rfl) hheld (fun _ _ => rfl)

-- A dequeue takes the oldest frame of the channel's queue.
theorem dequeueStep_inv (h : s.Inv cap past) (clock : UInt64) {left : Nat}
    {batch : List AxicanFrame} (hpc : s.reporters c = .dequeuing (left + 1) batch) :
    (reporterStep s c clock).2.Inv cap (past ++ [(reporterStep s c clock).1]) := by
  obtain ⟨bank, hholds, hqueued⟩ := h.queued
  have hheld : (s.reporters c).inHand = batch := by rw [hpc]; rfl
  have hkeep : ∀ pc d, ((s.setReporter c pc).reporters d).inHand =
      if d = c then pc.inHand else (s.reporters d).inHand := by
    intro pc d
    rw [MonitorSystem.reporters_setReporter]
    split <;> rfl
  have hdst : (List.replicate sizeofAxicanFrame (0 : UInt8)).length =
      s.gPollBufSet.elemSize.toNat := by
    rw [← hholds.carries.size default, AxicanFrame.length_toBytes, List.length_replicate]
    rfl
  obtain ⟨hret, hdata, hcarries⟩ := hholds.carries.get c 6 _ hdst
  have hholds' : HoldsMonitored cap (ringbuffer32chGet s.gPollBufSet c
      (some (List.replicate sizeofAxicanFrame 0)) 6).2.2
      (bank.get (6 : UInt8).toNat c.toNat).2 :=
    ⟨hcarries, by rw [QueueBank.channels_get, hholds.channels],
      by rw [QueueBank.cap_get, hholds.cap_eq]⟩
  have hqueue := bank.queue_get (6 : UInt8).toNat c.toNat
  simp only [reporterStep, hpc]
  cases hget : (bank.get (6 : UInt8).toNat c.toNat).1 with
  | none =>
      rw [hget] at hret hqueue
      rw [if_neg (by rw [hret]; exact UInt32.zero_ne_one)]
      apply h.concat hqueued hholds'
      · intro d _
        rw [hqueue d.toNat]
        show (if _ then [] else []) ++ _ ++ [] = [] ++ _
        rw [ite_self, List.append_nil]
      · intro d
        show _ ++ [] = [] ++ ((s.setReporter c (.typing batch)).reporters d).inHand
        rw [hkeep, List.append_nil, List.nil_append]
        split
        next hd => rw [hd, hheld]; rfl
        · rfl
      · exact h.readers
  | some frame =>
      rw [hget] at hret hdata hqueue
      rw [if_pos (by rw [hret]; rfl), hdata]
      simp only [Option.map_some, Option.getD_some, AxicanFrame.ofBytes_toBytes]
      apply h.concat hqueued hholds'
      · intro d _
        rw [hqueue d.toNat]
        show _ ++ [] = (if c = d then [frame] else []) ++ _
        rw [List.append_nil]
        simp only [UInt8.toNat_inj, eq_comm (a := c)]
        rfl
      · intro d
        show _ ++ (if c = d then [frame] else []) =
          [] ++ ((s.setReporter c (.dequeuing left (batch ++ [frame]))).reporters d).inHand
        rw [hkeep, List.nil_append]
        by_cases hd : d = c
        · rw [hd, if_pos rfl, if_pos rfl, hheld]
          rfl
        · rw [if_neg hd, if_neg (Ne.symm hd), List.append_nil]
      · exact h.readers

theorem reporterStep_inv (h : s.Inv cap past) (c : UInt8) (clock : UInt64) :
    (reporterStep s c clock).2.Inv cap (past ++ [(reporterStep s c clock).1]) := by
  cases hpc : s.reporters c with
  | counting =>
      simp only [reporterStep, hpc]
      exact h.reporter_quiet (by rw [hpc]; rfl)
  | dequeuing left batch =>
      cases left with
      | zero =>
          simp only [reporterStep, hpc]
          exact h.reporter_quiet (by rw [hpc]; rfl)
      | succ left => exact dequeueStep_inv h clock hpc
  | typing batch =>
      simp only [reporterStep, hpc]
      apply h.reporter_quiet
      rw [hpc]
      split <;> rfl
  | retyping batch =>
      simp only [reporterStep, hpc]
      apply h.reporter_quiet
      rw [hpc]
      split <;> rfl
  | writing dataType batch =>
      simp only [reporterStep, hpc]
      exact h.reporter (fun _ => rfl) (fun _ => rfl) (by rw [hpc]; rfl) (fun _ _ => rfl)
  | sending batch =>
      cases batch with
      | nil =>
          simp only [reporterStep, hpc]
          exact h.reporter_quiet (by rw [hpc]; rfl)
      | cons frame batch =>
          simp only [reporterStep, hpc]
          exact h.reporter_quiet (by rw [hpc]; rfl)
  | calling dataType frame batch =>
      simp only [reporterStep, hpc]
      apply h.reporter (fun _ => rfl) (fun _ => rfl)
      · rw [hpc]
        show _ = (if c = c then [frame] else []) ++ _
        rw [if_pos rfl]
        rfl
      · exact fun d hd => if_neg (Ne.symm hd)

end Steps

theorem monitorStep_inv {cap : Nat} (past : List MonitorEvent) (s : MonitorSystem)
    (call : MonitorCall) (h : s.Inv cap past) :
    (monitorStep s call).2.Inv cap (past ++ [(monitorStep s call).1]) := by
  have hsame : s.Inv cap (past ++ [.quiet]) :=
    h.same rfl (fun _ => rfl) (fun _ => rfl) (fun _ => rfl) h.readers
  cases call with
  | poll c pollrc rc frameCount =>
      simp only [monitorStep]
      split
      next hready => exact h.reader fun _ => hready.1
      · exact hsame
  | read c rc frame => exact readerStep_inv h c rc frame
  | report c clock =>
      simp only [monitorStep]
      split
      · exact reporterStep_inv h c clock
      · exact hsame
  | other configs connected counters =>
      exact h.same rfl (fun _ => rfl) (fun _ => rfl) (fun _ => rfl) h.readers

/-! ## What the PC is told -/

-- A frame is stored exactly if its queue has room.
theorem readerStep_fits {cap : Nat} {past : List MonitorEvent} {s : MonitorSystem}
    (h : s.Inv cap past) (c : UInt8) (rc : Int) (frame : AxicanFrame) :
    (readerStep s c rc frame).1.Fits cap past s (.read c rc frame) := by
  unfold readerStep
  split
  · trivial
  next i frameCount hpc =>
    have hc : c.toNat < axicanMax := h.readers c (by rw [hpc]; simp)
    split
    case isFalse => trivial
    split
    case isTrue => trivial
    obtain ⟨bank, hholds, hqueued⟩ := h.queued
    have hvalid := hholds.valid hc
    show decide _ = true ↔ _
    rw [(hholds.carries.put c 6 frame).1, hqueued c hc, List.length_append, ← hholds.cap_eq,
      Nat.add_lt_add_iff_left, QueueBank.put, decide_eq_true_iff]
    split
    next hroom => exact iff_of_true (by simp [successCode]) hroom.2
    next hroom => exact iff_of_false (by simp [successCode]) fun hlt => hroom ⟨hvalid, hlt⟩

theorem monitorStep_fits {cap : Nat} (past : List MonitorEvent) (s : MonitorSystem)
    (call : MonitorCall) (h : s.Inv cap past) : (monitorStep s call).1.Fits cap past s call := by
  cases call with
  | poll c pollrc rc frameCount =>
      simp only [monitorStep]
      split <;> trivial
  | read c rc frame => exact readerStep_fits h c rc frame
  | report c clock =>
      simp only [monitorStep]
      split
      case isFalse => trivial
      unfold reporterStep
      split <;> try trivial
      · dsimp only
        split <;> trivial
      · exact ⟨clock, rfl, rfl⟩
  | other configs connected counters => trivial

theorem monitorInitial_inv {set₀ set : RingBuffer32ChSet} {heap heap' : Heap}
    (hinit : ringbuffer32chInit set₀ 24 32768 6 heap = (0, set, heap')) (configs : CanConfigs) :
    (MonitorSystem.initial set configs).Inv 32768 [] := by
  have hcarries := carries_fresh AxicanFrame.toBytes hinit AxicanFrame.length_toBytes
  refine ⟨⟨_, ⟨hcarries, rfl, rfl⟩, fun _ _ => rfl⟩, fun _ => rfl, ?_⟩
  intro c hc
  exact absurd rfl hc

/-- **Monitored frames are reported in order, and lost only to a full queue.**  In any interleaving,
    the frames stored for a channel are those reported, those in its report thread's hand and those
    queued, in this order; a frame read from the driver is dropped exactly if 32768 frames wait; and
    every report is what `send_can_transmit_response` sends at its moment for its frame, with
    status 1. -/
theorem monitored_in_order (set₀ set : RingBuffer32ChSet) (heap heap' : Heap)
    (hinit : ringbuffer32chInit set₀ 24 32768 6 heap = (0, set, heap')) (configs : CanConfigs)
    (calls : List MonitorCall) :
    let run := Transducer.run monitorStep calls (.initial set configs)
    (∀ c : UInt8, c.toNat < axicanMax → ∃ waiting,
      storedFrames c run.1 = reportedFrames c run.1 ++ (run.2.reporters c).inHand ++ waiting ∧
      waiting.length = (ringbuffer32chLen run.2.gPollBufSet c 6).toNat) ∧
    ∀ before call after, calls = before ++ call :: after →
      let r := Transducer.run monitorStep before (.initial set configs)
      (monitorStep r.2 call).1.Fits 32768 r.1 r.2 call := by
  intro run
  have hall := Transducer.run_answers (MonitorSystem.Inv 32768) (monitorInitial_inv hinit configs)
    monitorStep_inv
  have hinv := hall calls
  refine ⟨?_, fun before call _ _ => monitorStep_fits _ _ call (hall before)⟩
  intro c hc
  obtain ⟨bank, hholds, hqueued⟩ := hinv.queued
  refine ⟨bank.queue c.toNat, ?_, ?_⟩
  · rw [← hinv.held c]
    exact hqueued c hc
  · show _ = (ringbuffer32chLen run.2.gPollBufSet c 6).toNat
    rw [hholds.carries.len, QueueBank.len, if_pos (hholds.valid hc)]

/-- One monitored frame of channel 2, reported to a connected client. -/
def oneMonitored (frame : AxicanFrame) : List MonitorCall :=
  [.other (fun ch => { initialConfig ch with canType := 0 }) true ⟨0, fun _ => 0⟩,
    .poll 2 1 0 1, .read 2 24 frame] ++ List.replicate 8 (.report 2 7)

theorem monitored_in_order_one_frame :
    let set := (ringbuffer32chInit .zero 24 32768 6 ampleHeap).2.1
    let run := Transducer.run monitorStep (oneMonitored default) (.initial set initialConfig)
    (∃ waiting, storedFrames 2 run.1 =
      reportedFrames 2 run.1 ++ (run.2.reporters 2).inHand ++ waiting ∧
      waiting.length = (ringbuffer32chLen run.2.gPollBufSet 2 6).toNat) ∧
      reportedFrames 2 run.1 = [default] := by
  intro set run
  have hinit : ringbuffer32chInit .zero 24 32768 6 ampleHeap =
      (0, set, (ringbuffer32chInit .zero 24 32768 6 ampleHeap).2.2) := rfl
  have hreported : reportedFrames 2 run.1 = [default] := by decide +kernel
  exact ⟨(monitored_in_order .zero set ampleHeap _ hinit initialConfig (oneMonitored default)).1 2
    (by decide), hreported⟩

end CanGateway
