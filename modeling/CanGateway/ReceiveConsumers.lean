import CanGateway.ConfigHistory
import CanGateway.Library.CircularQueue
import CanGateway.Simulator

/-!
# The two consumers of the received frames

For every channel `axican_data_process_thread` and `along_data_tid_thread` both take frames from
`g_can_buf_set`.  The first looks at the channel's mode before every batch, the second only before
its first.  Here the threads of all channels run with the 9009 commands, the receive threads and the
simulator data, one step of one of them at a time.  `running` stays set: `sigint_handler`, which
would clear it, is not installed.
-/

namespace CanGateway

/-! ## The commands -/

/-- `OPEN_CAN_DEVICE` and `CLOSE_CAN_DEVICE`. -/
def openCanDevice : UInt32 := 0xAA
def closeCanDevice : UInt32 := 0xBB

inductive StartStopEffect where
  | event (text : String)
  | response (status : UInt8)
  deriving DecidableEq, Repr

/-- `handle_can_start_stop`. -/
def handleCanStartStop (data : List UInt8) (configs : CanConfigs) :
    List StartStopEffect × CanConfigs :=
  let canId := load32 data 0
  if canId.toNat ≥ axicanMax then ([.event "Invalid CAN ID for start/stop", .response 1], configs)
  else
    let hostData := reverse4bytes (load32 data 4)
    let config := configs canId.toUInt8
    if hostData = openCanDevice then
      ([.response 0], configs.set canId.toUInt8 { config with state := .opened })
    else if hostData = closeCanDevice then
      ([.response 0], configs.set canId.toUInt8 { config with state := .closed })
    else ([.event "Invalid CAN state (expected open/close)", .response 1], configs)

/-! ## The threads -/

inductive Consumer where
  | process
  | along
  deriving DecidableEq

/-- A pass of a consumer's loop: the channel's `can_type` when it began, and whether that has
changed since. -/
structure LoopPass where
  began : UInt8
  changed : Bool
  deriving DecidableEq

/-- Where `axican_data_process_thread` is; a batch is what it has dequeued and not yet handled. -/
inductive ProcessPc where
  | waiting
  | typed (isSingle : Bool)
  | counting
  | reading (left : Nat) (batch : List AxicanFrame)
  | handling (batch : List AxicanFrame)
  deriving DecidableEq

structure ProcessThread where
  pc : ProcessPc
  pass : LoopPass

/-- Where `along_data_tid_thread` is. -/
inductive AlongPc where
  | waiting
  | typed (isSingle : Bool)
  | loading
  | preloading (left : Nat)
  | looping
  | counting
  | reading (left : Nat) (batch : List AxicanFrame)
  | matching (batch : List AxicanFrame)
  deriving DecidableEq

/-- With its `buffer_frames` and the variables of a pending exchange. -/
structure SimulatorThread where
  pc : AlongPc
  pass : LoopPass
  table : List PcArmSimulatorData
  exchange : AlongState

structure ReceiveSystem where
  configs : CanConfigs
  canBuf : QueueBank AxicanFrame
  simulatorBuf : QueueBank PcArmSimulatorData
  processing : UInt8 → ProcessThread
  simulating : UInt8 → SimulatorThread

inductive ReceiveEvent where
  | dequeued (consumer : Consumer) (c : UInt8) (frame : AxicanFrame) (pass : LoopPass)
  /-- `handle_normal_mode`. -/
  | normal (c : UInt8) (frame : AxicanFrame)
  /-- What `along_data_tid_thread` does with a batch. -/
  | simulated (c : UInt8) (events : List AlongEvent)
  deriving DecidableEq

/-- A command of port 9009, a frame of a receive thread, a record of port 9012, or the next step of
a consumer. -/
inductive ReceiveStep where
  | config (request : CanConfigRequest)
  | startStop (data : List UInt8)
  | receive (c : UInt8) (frame : AxicanFrame)
  | record (c : UInt8) (record : PcArmSimulatorData)
  | process (c : UInt8)
  | along (c : UInt8)

namespace ReceiveSystem

def canType (s : ReceiveSystem) (c : UInt8) : UInt8 := (s.configs c).canType

def setProcess (s : ReceiveSystem) (c : UInt8) (thread : ProcessThread) : ReceiveSystem :=
  { s with processing := Function.update s.processing c thread }

def setSimulator (s : ReceiveSystem) (c : UInt8) (thread : SimulatorThread) : ReceiveSystem :=
  { s with simulating := Function.update s.simulating c thread }

/-- A pass that begins now. -/
def newPass (s : ReceiveSystem) (c : UInt8) : LoopPass := ⟨s.canType c, false⟩

end ReceiveSystem

/-- A pass of channel `c` after the configurations have changed. -/
def LoopPass.update (pass : LoopPass) (c : UInt8) (old new : CanConfigs) : LoopPass :=
  { pass with changed := pass.changed || (old c).canType != (new c).canType }

/-- Commands write `can_configs`; a pass in progress remembers a change of its channel's mode. -/
def ReceiveSystem.configure (s : ReceiveSystem) (configs : CanConfigs) : ReceiveSystem :=
  { s with
    configs := configs
    processing := fun c =>
      { s.processing c with pass := (s.processing c).pass.update c s.configs configs }
    simulating := fun c =>
      { s.simulating c with pass := (s.simulating c).pass.update c s.configs configs } }

/-- One step of `axican_data_process_thread`. -/
def processStep (s : ReceiveSystem) (c : UInt8) : List ReceiveEvent × ReceiveSystem :=
  let thread := s.processing c
  let goto := fun pc => s.setProcess c { thread with pc := pc }
  match thread.pc with
  | .waiting => ([], goto (.typed ((s.canType c).toUInt16 = normalMode)))
  | .typed isSingle =>
      if isSingle ∧ (s.configs c).state = .opened then ([], goto .counting) else ([], goto .waiting)
  | .counting => ([], goto (.reading (min (s.canBuf.len axicanMax c.toNat) dequeueBatchSize) []))
  | .reading 0 batch => ([], goto (.handling batch))
  | .reading (left + 1) batch =>
      match s.canBuf.get axicanMax c.toNat with
      | (some frame, canBuf) =>
          ([.dequeued .process c frame thread.pass],
            { goto (.reading left (batch ++ [frame])) with canBuf := canBuf })
      | (none, _) => ([], goto (.handling batch))
  | .handling (frame :: batch) => ([.normal c frame], goto (.handling batch))
  | .handling [] => ([], s.setProcess c ⟨.waiting, s.newPass c⟩)

/-- One step of `along_data_tid_thread`. -/
def alongStep (s : ReceiveSystem) (c : UInt8) : List ReceiveEvent × ReceiveSystem :=
  let thread := s.simulating c
  let goto := fun pc => s.setSimulator c { thread with pc := pc }
  match thread.pc with
  | .waiting => ([], goto (.typed ((s.canType c).toUInt16 = alongMode)))
  | .typed isSingle =>
      if isSingle ∧ s.simulatorBuf.len 32 c.toNat ≥ 7 then ([], goto .loading)
      else ([], goto .waiting)
  | .loading => ([], goto (.preloading (min (s.simulatorBuf.len 32 c.toNat) 32)))
  | .preloading 0 => ([], goto .looping)
  | .preloading (left + 1) =>
      match s.simulatorBuf.get 32 c.toNat with
      | (some record, simulatorBuf) =>
          ([], { s.setSimulator c
              { thread with pc := .preloading left, table := thread.table ++ [record] } with
            simulatorBuf := simulatorBuf })
      | (none, _) => ([], goto .looping)
  | .looping => ([], s.setSimulator c { thread with pc := .counting, pass := s.newPass c })
  | .counting => ([], goto (.reading (min (s.canBuf.len axicanMax c.toNat) dequeueBatchSize) []))
  | .reading 0 batch => ([], goto (.matching batch))
  | .reading (left + 1) batch =>
      match s.canBuf.get axicanMax c.toNat with
      | (some frame, canBuf) =>
          ([.dequeued .along c frame thread.pass],
            { goto (.reading left (batch ++ [frame])) with canBuf := canBuf })
      | (none, _) => ([], goto (.matching batch))
  | .matching batch =>
      let r := processDequeueBatch thread.table c batch thread.exchange
      ([.simulated c r.1], s.setSimulator c { thread with pc := .looping, exchange := r.2 })

def receiveStep (s : ReceiveSystem) : ReceiveStep → List ReceiveEvent × ReceiveSystem
  | .config request => ([], s.configure (canConfigStep s.configs request).2)
  | .startStop data => ([], s.configure (handleCanStartStop data s.configs).2)
  | .receive c frame => ([], { s with canBuf := (s.canBuf.put axicanMax c.toNat frame).2 })
  | .record c record =>
      ([], { s with simulatorBuf := (s.simulatorBuf.put 32 c.toNat record).2 })
  | .process c => processStep s c
  | .along c => alongStep s c

/-- As `main` starts the threads. -/
def ReceiveSystem.initial : ReceiveSystem where
  configs := initialConfig
  canBuf := .fresh axicanMax 32768
  simulatorBuf := .fresh 32 32
  processing _ := ⟨.waiting, ⟨initMode, false⟩⟩
  simulating _ := ⟨.waiting, ⟨initMode, false⟩, [], .initial⟩

/-! ## One consumer for each mode -/

/-- The frame went to the consumer of the mode its pass began in, if that mode still holds. -/
def ReceiveEvent.OneConsumer : ReceiveEvent → Prop
  | .dequeued consumer _ _ pass =>
      pass.changed = false → (pass.began.toUInt16 = normalMode → consumer = .process) ∧
        (pass.began.toUInt16 = alongMode → consumer = .along)
  | _ => True

/-- The frames `axican_data_process_thread` has taken for channel `c`. -/
def processDequeued (c : UInt8) (events : List ReceiveEvent) : List AxicanFrame :=
  events.filterMap fun
    | .dequeued .process d frame _ => if d = c then some frame else none
    | _ => none

/-- The frames passed to `handle_normal_mode` for channel `c`. -/
def normalHandled (c : UInt8) (events : List ReceiveEvent) : List AxicanFrame :=
  events.filterMap fun
    | .normal d frame => if d = c then some frame else none
    | _ => none

/-- The part of its batch the thread has not handled yet. -/
def ProcessPc.inHand : ProcessPc → List AxicanFrame
  | .reading _ batch => batch
  | .handling batch => batch
  | _ => []

def ProcessPc.dequeues : ProcessPc → Bool
  | .reading _ _ => true
  | _ => false

def AlongPc.dequeues : AlongPc → Bool
  | .reading _ _ => true
  | _ => false

/-- The simulator thread waits for its first batch and has not read `ALONG_MODE`. -/
def AlongPc.startsUp : AlongPc → Bool
  | .waiting => true
  | .typed isSingle => !isSingle
  | _ => false

/-- What keeps the consumers apart: no request puts a channel into `NORMAL_MODE` once its simulator
thread has read `ALONG_MODE`. -/
def ReceiveStep.Allowed (s : ReceiveSystem) : ReceiveStep → Prop
  | .config request =>
      canConfigError request.payload = none →
        request.param.canDataMode.toUInt8.toUInt16 = normalMode →
        (s.simulating request.param.chId).pc.startsUp = true
  | _ => True

/-! ### The invariant -/

/-- The process thread is about to read a batch. -/
def ProcessPc.committed : ProcessPc → Bool
  | .typed isSingle => isSingle
  | .counting => true
  | .reading _ _ => true
  | _ => false

/-- The simulator thread is inside a pass of its main loop, before the batch is read. -/
def AlongPc.committed : AlongPc → Bool
  | .counting => true
  | .reading _ _ => true
  | _ => false

structure ProcessOk (mode : UInt8) (thread : ProcessThread) : Prop where
  current : thread.pass.changed = false → thread.pass.began = mode
  normal : thread.pc.committed = true → thread.pass.changed = false →
    thread.pass.began.toUInt16 = normalMode

structure AlongOk (mode : UInt8) (thread : SimulatorThread) : Prop where
  current : thread.pass.changed = false → thread.pass.began = mode
  past : thread.pc.startsUp = false → mode.toUInt16 ≠ normalMode
  other : thread.pc.committed = true → thread.pass.began.toUInt16 ≠ normalMode

/-- The invariant of every run whose steps are allowed. -/
structure ReceiveSystem.Consistent (answers : List (List ReceiveEvent)) (s : ReceiveSystem) :
    Prop where
  process : ∀ c, ProcessOk (s.canType c) (s.processing c)
  along : ∀ c, AlongOk (s.canType c) (s.simulating c)
  events : ∀ events ∈ answers, ∀ event ∈ events, event.OneConsumer
  handled : ∀ c, processDequeued c answers.flatten =
    normalHandled c answers.flatten ++ (s.processing c).pc.inHand

section Steps

variable {s : ReceiveSystem} {c d : UInt8} {answers : List (List ReceiveEvent)}

theorem processDequeued_one (c d : UInt8) (frame : AxicanFrame) (pass : LoopPass) :
    processDequeued d [.dequeued .process c frame pass] = if c = d then [frame] else [] := by
  by_cases h : c = d
  · simp [processDequeued, h]
  · simp [processDequeued, h]

theorem normalHandled_one (c d : UInt8) (frame : AxicanFrame) :
    normalHandled d [.normal c frame] = if c = d then [frame] else [] := by
  by_cases h : c = d
  · simp [normalHandled, h]
  · simp [normalHandled, h]

/-- What a step of the process thread of channel `c` comes to. -/
structure ProcessMoves (s : ReceiveSystem) (c : UInt8) (r : List ReceiveEvent × ReceiveSystem) :
    Prop where
  thread : ∃ thread canBuf, r.2 = { s.setProcess c thread with canBuf := canBuf } ∧
    ProcessOk (s.canType c) thread ∧
    (s.processing c).pc.inHand ++ processDequeued c r.1 = normalHandled c r.1 ++ thread.pc.inHand
  others : ∀ d, d ≠ c → processDequeued d r.1 = [] ∧ normalHandled d r.1 = []
  events : ∀ event ∈ r.1, event.OneConsumer

-- A step that produces no event.
theorem ProcessMoves.silent {pc : ProcessPc} {pass : LoopPass}
    (hok : ProcessOk (s.canType c) ⟨pc, pass⟩) (hhand : (s.processing c).pc.inHand = pc.inHand) :
    ProcessMoves s c ([], s.setProcess c ⟨pc, pass⟩) := by
  refine ⟨⟨⟨pc, pass⟩, s.canBuf, rfl, hok, ?_⟩, fun _ _ => ⟨rfl, rfl⟩, fun _ h => (nomatch h)⟩
  exact (List.append_nil _).trans hhand

theorem processStep_moves (h : ProcessOk (s.canType c) (s.processing c)) :
    ProcessMoves s c (processStep s c) := by
  obtain ⟨hcurrent, hnormal⟩ := h
  rw [processStep]
  rcases hthread : s.processing c with ⟨pc, pass⟩
  rw [hthread] at hcurrent hnormal
  dsimp only at hcurrent hnormal ⊢
  have hhand : (s.processing c).pc.inHand = pc.inHand := by rw [hthread]
  cases pc with
  | waiting =>
    refine ProcessMoves.silent ⟨hcurrent, ?_⟩ hhand
    intro hsingle hsame
    rw [hcurrent hsame]
    exact of_decide_eq_true hsingle
  | typed isSingle =>
    dsimp only
    split
    next hready =>
      refine ProcessMoves.silent ⟨hcurrent, ?_⟩ hhand
      intro _ hsame
      exact hnormal hready.1 hsame
    · exact ProcessMoves.silent ⟨hcurrent, fun h => (nomatch h)⟩ hhand
  | counting => exact ProcessMoves.silent ⟨hcurrent, fun _ => hnormal rfl⟩ hhand
  | reading left batch =>
    cases left with
    | zero => exact ProcessMoves.silent ⟨hcurrent, fun h => (nomatch h)⟩ hhand
    | succ left =>
      dsimp only
      split
      next frame canBuf _ =>
        refine ⟨⟨_, canBuf, rfl, ⟨hcurrent, fun _ => hnormal rfl⟩, ?_⟩, ?_, ?_⟩
        · rw [hhand, processDequeued_one, if_pos rfl]
          rfl
        · intro d hd
          refine ⟨?_, rfl⟩
          rw [processDequeued_one, if_neg (Ne.symm hd)]
        · intro event hevent
          obtain rfl := List.mem_singleton.mp hevent
          intro hsame
          refine ⟨fun _ => rfl, fun halong => ?_⟩
          rw [hnormal rfl hsame] at halong
          exact absurd halong (by decide)
      · exact ProcessMoves.silent ⟨hcurrent, fun h => (nomatch h)⟩ hhand
  | handling batch =>
    cases batch with
    | nil => exact ProcessMoves.silent ⟨fun _ => rfl, fun h => (nomatch h)⟩ hhand
    | cons frame batch =>
      refine ⟨⟨_, s.canBuf, rfl, ⟨hcurrent, fun h => (nomatch h)⟩, ?_⟩, ?_, ?_⟩
      · rw [hhand, normalHandled_one, if_pos rfl]
        exact List.append_nil _
      · intro d hd
        refine ⟨rfl, ?_⟩
        rw [normalHandled_one, if_neg (Ne.symm hd)]
      · intro event hevent
        obtain rfl := List.mem_singleton.mp hevent
        trivial

/-- What a step of the simulator thread of channel `c` comes to. -/
structure AlongMoves (s : ReceiveSystem) (c : UInt8) (r : List ReceiveEvent × ReceiveSystem) :
    Prop where
  thread : ∃ thread canBuf simulatorBuf,
    r.2 = { s.setSimulator c thread with canBuf := canBuf, simulatorBuf := simulatorBuf } ∧
    AlongOk (s.canType c) thread
  quiet : ∀ d, processDequeued d r.1 = [] ∧ normalHandled d r.1 = []
  events : ∀ event ∈ r.1, event.OneConsumer

theorem AlongMoves.silent {thread : SimulatorThread}
    (hok : AlongOk (s.canType c) thread) :
    AlongMoves s c ([], s.setSimulator c thread) :=
  ⟨⟨thread, s.canBuf, s.simulatorBuf, rfl, hok⟩, fun _ => ⟨rfl, rfl⟩, fun _ h => (nomatch h)⟩

-- A thread that is past its start and not about to read a batch, with the mode it had.
theorem AlongOk.idle {mode : UInt8} {thread next : SimulatorThread} (h : AlongOk mode thread)
    (hpass : next.pass = thread.pass) (hstarted : thread.pc.startsUp = false)
    (hidle : next.pc.committed = false) : AlongOk mode next where
  current hsame := by
    rw [hpass] at hsame ⊢
    exact h.current hsame
  past _ := h.past hstarted
  other hcommitted := absurd (hidle.symm.trans hcommitted) Bool.false_ne_true

theorem alongStep_moves (h : AlongOk (s.canType c) (s.simulating c)) :
    AlongMoves s c (alongStep s c) := by
  rw [alongStep]
  rcases hthread : s.simulating c with ⟨pc, pass, table, exchange⟩
  rw [hthread] at h
  have hok := h
  obtain ⟨hcurrent, hpast, hother⟩ := h
  dsimp only at hcurrent hpast hother ⊢
  cases pc with
  | waiting =>
    refine AlongMoves.silent ⟨hcurrent, ?_, fun h => (nomatch h)⟩
    intro hread hnormal
    -- the thread has just read `ALONG_MODE`
    have halong : (s.canType c).toUInt16 = alongMode := by simpa [AlongPc.startsUp] using hread
    rw [halong] at hnormal
    exact absurd hnormal (by decide)
  | typed isSingle =>
    dsimp only
    split
    next hready =>
      refine AlongMoves.silent ⟨hcurrent, fun _ => hpast ?_, fun h => (nomatch h)⟩
      rw [AlongPc.startsUp, hready.1]
      rfl
    · exact AlongMoves.silent ⟨hcurrent, fun h => (nomatch h), fun h => (nomatch h)⟩
  | loading => exact AlongMoves.silent (hok.idle rfl rfl rfl)
  | preloading left =>
    cases left with
    | zero => exact AlongMoves.silent (hok.idle rfl rfl rfl)
    | succ left =>
      dsimp only
      split
      · exact ⟨⟨_, s.canBuf, _, rfl, hok.idle rfl rfl rfl⟩,
          fun _ => ⟨rfl, rfl⟩, fun _ h => (nomatch h)⟩
      · exact AlongMoves.silent (hok.idle rfl rfl rfl)
  | looping => exact AlongMoves.silent ⟨fun _ => rfl, fun _ => hpast rfl, fun _ => hpast rfl⟩
  | counting => exact AlongMoves.silent ⟨hcurrent, fun _ => hpast rfl, fun _ => hother rfl⟩
  | reading left batch =>
    cases left with
    | zero => exact AlongMoves.silent (hok.idle rfl rfl rfl)
    | succ left =>
      dsimp only
      split
      next frame canBuf _ =>
        refine ⟨⟨_, canBuf, s.simulatorBuf, rfl,
          ⟨hcurrent, fun _ => hpast rfl, fun _ => hother rfl⟩⟩, fun _ => ⟨rfl, rfl⟩, ?_⟩
        intro event hevent
        obtain rfl := List.mem_singleton.mp hevent
        exact fun _ => ⟨fun hnormal => absurd hnormal (hother rfl), fun _ => rfl⟩
      · exact AlongMoves.silent (hok.idle rfl rfl rfl)
  | matching batch =>
    refine ⟨⟨_, s.canBuf, s.simulatorBuf, rfl, hok.idle rfl rfl rfl⟩, fun _ => ⟨rfl, rfl⟩, ?_⟩
    intro event hevent
    obtain rfl := List.mem_singleton.mp hevent
    trivial

end Steps

/-! ### The commands -/

-- A request changes the data mode of its own channel only, and only if it passes the checks.
theorem canType_canConfigStep (configs : CanConfigs) (request : CanConfigRequest) (c : UInt8) :
    ((canConfigStep configs request).2 c).canType =
      if canConfigError request.payload = none ∧ c = request.param.chId then
        request.param.canDataMode.toUInt8
      else (configs c).canType := by
  rw [canConfigStep_record]
  by_cases hcheck : canConfigError request.payload = none
  · rw [if_pos hcheck]
    by_cases hc : c = request.param.chId
    · subst hc
      rw [if_pos ⟨hcheck, rfl⟩, CanConfigs.set_self]
      rfl
    · rw [if_neg (fun h => hc h.2), CanConfigs.set_other _ _ hc]
  · rw [if_neg hcheck, if_neg (fun h => hcheck h.1)]

-- Starting and stopping a channel does not touch its data mode.
theorem canType_startStop (data : List UInt8) (configs : CanConfigs) (c : UInt8) :
    ((handleCanStartStop data configs).2 c).canType = (configs c).canType := by
  have hset : ∀ (ch : UInt8) (state : CanState),
      ((configs.set ch { configs ch with state := state }) c).canType = (configs c).canType := by
    intro ch state
    by_cases hc : c = ch
    · subst hc
      rw [CanConfigs.set_self]
    · rw [CanConfigs.set_other _ _ hc]
  rw [handleCanStartStop]
  split
  · rfl
  · dsimp only
    split
    · exact hset _ _
    · split
      · exact hset _ _
      · rfl

-- A change of the data mode ends the validity of what the passes in progress know.
theorem processOk_update {thread : ProcessThread} {configs configs' : CanConfigs} {c : UInt8}
    (h : ProcessOk (configs c).canType thread) :
    ProcessOk (configs' c).canType
      { thread with pass := thread.pass.update c configs configs' } := by
  constructor
  · intro hsame
    obtain ⟨hold, hnew⟩ := Bool.or_eq_false_iff.mp hsame
    have heq := bne_eq_false_iff_eq.mp hnew
    exact (h.current hold).trans heq
  · intro hpc hsame
    exact h.normal hpc (Bool.or_eq_false_iff.mp hsame).1

theorem alongOk_update {thread : SimulatorThread} {configs configs' : CanConfigs}
    {c : UInt8} (h : AlongOk (configs c).canType thread)
    (hpast : thread.pc.startsUp = false → (configs' c).canType.toUInt16 ≠ normalMode) :
    AlongOk (configs' c).canType
      { thread with pass := thread.pass.update c configs configs' } := by
  refine ⟨?_, hpast, h.other⟩
  intro hsame
  obtain ⟨hold, hnew⟩ := Bool.or_eq_false_iff.mp hsame
  have heq := bne_eq_false_iff_eq.mp hnew
  exact (h.current hold).trans heq

/-! ### Every step -/

namespace ReceiveSystem

variable {s s' : ReceiveSystem} {answers : List (List ReceiveEvent)}

-- A step that dequeues and handles nothing.
theorem Consistent.quiet (h : s.Consistent answers)
    (hprocess : ∀ c, ProcessOk (s'.canType c) (s'.processing c))
    (halong : ∀ c, AlongOk (s'.canType c) (s'.simulating c))
    (hpc : ∀ c, (s'.processing c).pc = (s.processing c).pc) :
    s'.Consistent (answers ++ [[]]) := by
  refine ⟨hprocess, halong, ?_, ?_⟩
  · intro events hevents
    obtain hevents | hevents := List.mem_append.mp hevents
    · exact h.events events hevents
    · rw [List.mem_singleton.mp hevents]
      exact fun _ hevent => (nomatch hevent)
  · intro c
    rw [hpc, List.flatten_concat, List.append_nil]
    exact h.handled c

theorem Consistent.configure (h : s.Consistent answers) {configs : CanConfigs}
    (hpast : ∀ c, (s.simulating c).pc.startsUp = false →
      (configs c).canType.toUInt16 ≠ normalMode) :
    (s.configure configs).Consistent (answers ++ [[]]) :=
  h.quiet (fun c => processOk_update (h.process c))
    (fun c => alongOk_update (h.along c) (hpast c)) fun _ => rfl

theorem events_concat {events : List ReceiveEvent} (h : s.Consistent answers)
    (hnew : ∀ event ∈ events, event.OneConsumer) :
    ∀ es ∈ answers ++ [events], ∀ event ∈ es, event.OneConsumer := by
  intro es hes
  obtain hes | hes := List.mem_append.mp hes
  · exact h.events es hes
  · rw [List.mem_singleton.mp hes]
    exact hnew

theorem Consistent.step (h : s.Consistent answers) (step : ReceiveStep)
    (hallowed : step.Allowed s) :
    (receiveStep s step).2.Consistent (answers ++ [(receiveStep s step).1]) := by
  cases step with
  | config request =>
    refine h.configure ?_
    intro c hpast
    rw [canType_canConfigStep]
    split
    next hset =>
      obtain ⟨hcheck, rfl⟩ := hset
      intro hnormal
      have hstarts := hallowed hcheck hnormal
      rw [hpast] at hstarts
      exact (nomatch hstarts)
    next => exact (h.along c).past hpast
  | startStop data =>
    refine h.configure ?_
    intro c hpast
    rw [canType_startStop]
    exact (h.along c).past hpast
  | receive c frame => exact h.quiet h.process h.along fun _ => rfl
  | record c record => exact h.quiet h.process h.along fun _ => rfl
  | process c =>
    obtain ⟨⟨thread, canBuf, hs', hok, hhand⟩, hothers, hevents⟩ :=
      processStep_moves (h.process c)
    simp only [receiveStep]
    rw [hs']
    refine ⟨?_, h.along, events_concat h hevents, ?_⟩
    · intro d
      by_cases hd : d = c
      · subst hd
        change ProcessOk (s.canType d) (Function.update s.processing d thread d)
        rw [Function.update_self]
        exact hok
      · change ProcessOk (s.canType d) (Function.update s.processing c thread d)
        rw [Function.update_of_ne hd]
        exact h.process d
    · intro d
      have hold := h.handled d
      rw [List.flatten_concat, processDequeued, normalHandled, List.filterMap_append,
        List.filterMap_append]
      change processDequeued d answers.flatten ++ processDequeued d (processStep s c).1 =
        normalHandled d answers.flatten ++ normalHandled d (processStep s c).1 ++
          (Function.update s.processing c thread d).pc.inHand
      by_cases hd : d = c
      · subst hd
        rw [Function.update_self, hold, List.append_assoc, hhand, ← List.append_assoc]
      · obtain ⟨hdequeued, hnormal⟩ := hothers d hd
        rw [Function.update_of_ne hd, hdequeued, hnormal, List.append_nil, List.append_nil]
        exact hold
  | along c =>
    obtain ⟨⟨thread, canBuf, simulatorBuf, hs', hok⟩, hquiet, hevents⟩ :=
      alongStep_moves (h.along c)
    simp only [receiveStep]
    rw [hs']
    refine ⟨h.process, ?_, events_concat h hevents, ?_⟩
    · intro d
      by_cases hd : d = c
      · subst hd
        change AlongOk (s.canType d) (Function.update s.simulating d thread d)
        rw [Function.update_self]
        exact hok
      · change AlongOk (s.canType d) (Function.update s.simulating c thread d)
        rw [Function.update_of_ne hd]
        exact h.along d
    · intro d
      obtain ⟨hdequeued, hnormal⟩ := hquiet d
      rw [List.flatten_concat, processDequeued, normalHandled, List.filterMap_append,
        List.filterMap_append]
      change processDequeued d answers.flatten ++ processDequeued d (alongStep s c).1 =
        normalHandled d answers.flatten ++ normalHandled d (alongStep s c).1 ++
          (s.processing d).pc.inHand
      rw [hdequeued, hnormal, List.append_nil, List.append_nil]
      exact h.handled d

theorem consistent_initial : initial.Consistent [] := by
  refine ⟨fun c => ⟨fun _ => rfl, fun h => (nomatch h)⟩,
    fun c => ⟨fun _ => rfl, fun h => (nomatch h), fun h => (nomatch h)⟩,
    fun _ h => (nomatch h), fun _ => rfl⟩

/-- Both threads are reading a batch from the channel's queue, in passes without a mode change. -/
def BothDequeue (s : ReceiveSystem) (c : UInt8) : Prop :=
  (s.processing c).pc.dequeues = true ∧ (s.processing c).pass.changed = false ∧
    (s.simulating c).pc.dequeues = true ∧ (s.simulating c).pass.changed = false

instance (s : ReceiveSystem) (c : UInt8) : Decidable (s.BothDequeue c) :=
  inferInstanceAs (Decidable (_ ∧ _))

theorem Consistent.not_both (h : s.Consistent answers) (c : UInt8) : ¬ s.BothDequeue c := by
  rintro ⟨hprocess, hfixed, halong, hfixed'⟩
  have hpc : (s.processing c).pc.committed = true := by
    generalize (s.processing c).pc = pc at hprocess
    cases pc <;> first | rfl | exact (nomatch hprocess)
  have hpc' : (s.simulating c).pc.committed = true := by
    generalize (s.simulating c).pc = pc at halong
    cases pc <;> first | rfl | exact (nomatch halong)
  have hnormal := (h.process c).normal hpc hfixed
  rw [(h.process c).current hfixed, ← (h.along c).current hfixed'] at hnormal
  exact (h.along c).other hpc' hnormal

end ReceiveSystem

/-- **One consumer for each mode.**  In a run whose steps are allowed, every frame dequeued while
the mode of its pass holds goes to the consumer of that mode, the normal consumer passes its frames
to `handle_normal_mode`, and the two never read the same queue while the mode stays fixed. -/
theorem receive_consumers (steps : List ReceiveStep)
    (hallowed : Transducer.Meets receiveStep (fun s step => step.Allowed s) steps .initial) :
    let r := Transducer.run receiveStep steps .initial
    (∀ event ∈ r.1.flatten, event.OneConsumer) ∧
    (∀ c, processDequeued c r.1.flatten =
      normalHandled c r.1.flatten ++ (r.2.processing c).pc.inHand) ∧
    ∀ c, ¬ r.2.BothDequeue c := by
  have h := Transducer.run_answers_meets (fun answers s => s.Consistent answers)
    ReceiveSystem.consistent_initial (fun _ _ step hstep hpast => hpast.step step hstep) steps
    hallowed
  refine ⟨?_, h.handled, h.not_both⟩
  intro event hevent
  obtain ⟨events, hevents, hmem⟩ := List.mem_flatten.mp hevent
  exact h.events events hevents event hmem

/-- Channel 0 configured for `dataMode`, with driver calls that succeed. -/
def configStep (dataMode : UInt16) : ReceiveStep :=
  .config ⟨configRequest dataMode 500000 zmuavXcanModeNormal, 0, 0⟩

/-- Channel 0 opened. -/
def openStep : ReceiveStep := .startStop [0, 0, 0, 0, 0, 0, 0, 0xAA]

/-- Channel 0 in `NORMAL_MODE`: a pass that began before, and one that begins in it. -/
def normalPasses : List ReceiveStep :=
  [configStep normalMode, openStep, .receive 0 (commandFrame 0)] ++
    List.replicate 7 (.process 0) ++ [.receive 0 (commandFrame 1)] ++ List.replicate 6 (.process 0)

-- Both frames go through the normal consumer, the second in a pass of its mode.
theorem receive_consumers_normal :
    let r := Transducer.run receiveStep normalPasses .initial
    normalHandled 0 r.1.flatten = [commandFrame 0, commandFrame 1] ∧
      ReceiveEvent.dequeued .process 0 (commandFrame 1) ⟨normalMode.toUInt8, false⟩ ∈ r.1.flatten ∧
      ∀ event ∈ r.1.flatten, event.OneConsumer := by
  refine ⟨by decide +kernel, by decide +kernel, (receive_consumers normalPasses ?_).1⟩
  exact ⟨fun _ _ => rfl, trivial, trivial, trivial, trivial, trivial, trivial, trivial, trivial,
    trivial, trivial, trivial, trivial, trivial, trivial, trivial, trivial, trivial⟩

/-- Channel 0 works as a simulator, then a request puts it into `NORMAL_MODE`. -/
def modeSwitch : List ReceiveStep :=
  [configStep alongMode, openStep] ++ List.replicate 7 (.record 0 (recordOfLen 16)) ++
    List.replicate 11 (.along 0) ++ [configStep normalMode] ++ List.replicate 5 (.process 0) ++
    [.receive 0 (commandFrame 0), .receive 0 (commandFrame 1)] ++
    List.replicate 2 (.along 0) ++ List.replicate 3 (.process 0)

-- After the switch both threads read the queue, and the simulator thread takes a normal frame.
theorem receive_consumers_mode_switch :
    (Transducer.run receiveStep modeSwitch .initial).2.BothDequeue 0 ∧
      ¬ ∀ event ∈ (Transducer.run receiveStep (modeSwitch ++ [.along 0]) .initial).1.flatten,
        event.OneConsumer := by
  refine ⟨by decide +kernel, ?_⟩
  intro h
  have hmem : ReceiveEvent.dequeued .along 0 (commandFrame 0) ⟨0, false⟩ ∈
      (Transducer.run receiveStep (modeSwitch ++ [.along 0]) .initial).1.flatten := by
    decide +kernel
  have hconsumer := (h _ hmem rfl).1 rfl
  exact (nomatch hconsumer)

end CanGateway
