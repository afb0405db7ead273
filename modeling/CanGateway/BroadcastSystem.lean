import CanGateway.Broadcast

/-!
# Runs of the broadcast scheduler

The transactions in any order, with channels opening and closing between them.  Since the last reset
the groups taken from a channel come in order from the groups accepted for it, and no wake is used
twice.
-/

namespace CanGateway

/-! ## The system -/

inductive BroadcastCall where
  | pps (now : UInt64)
  | config (payload : List UInt8)
  | enqueue (ch : UInt8) (frames : List PcArmDataData) (now : UInt64)
  | take (ch : UInt8)
  | available (ch : UInt8)
  | channels (configs : CanConfigs)

/-- What a transaction did: the channels woken, the status of the request, the group accepted or
    returned, the room found. -/
inductive BroadcastAnswer where
  | pps (wakeMask : UInt32)
  | config (status : UInt8)
  | enqueue (ch : UInt8) (accepted : Option BroadcastFrameGroup)
  | take (ch : UInt8) (taken : Option BroadcastFrameGroup)
  | available (room : UInt32)
  | channels

structure BroadcastSystem where
  st : BroadcastState
  configs : CanConfigs

/-- `memset(group, 0, sizeof(*group))`. -/
def zeroGroup : List UInt8 := List.replicate sizeofBroadcastFrameGroup.toNat 0

def broadcastStep (sys : BroadcastSystem) : BroadcastCall → BroadcastAnswer × BroadcastSystem
  | .pps now =>
      let r := processBroadcastPps now sys.st
      (.pps r.1, { sys with st := r.2 })
  | .config payload =>
      let r := handleBroadcastConfig payload sys.st
      (.config r.1, { sys with st := r.2.2 })
  | .enqueue ch frames now =>
      let r := enqueueBroadcastGroup sys.configs ch frames now sys.st
      (.enqueue ch (if r.1 = 0 then some (broadcastGroupOf r.2.2.groupId frames) else none),
        { sys with st := r.2.2 })
  | .take ch =>
      let r := takeBroadcastGroup sys.configs ch zeroGroup sys.st
      (.take ch (if r.1 = 1 then some (.ofBytes r.2.1) else none), { sys with st := r.2.2 })
  | .available ch => (.available (broadcastBufferAvailable sys.st ch), sys)
  | .channels configs => (.channels, { sys with configs := configs })

/-! ## What a run did since the last reset -/

namespace BroadcastAnswer

/-- An accepted configuration resets the queues and the wakes. -/
def isReset : BroadcastAnswer → Bool
  | .config status => status == 0
  | _ => false

/-- The group accepted for channel `ch`, if any. -/
def acceptedOn (ch : UInt8) : BroadcastAnswer → List BroadcastFrameGroup
  | .enqueue c accepted => if c = ch then accepted.toList else []
  | _ => []

/-- The group returned to channel `ch`, if any. -/
def takenOn (ch : UInt8) : BroadcastAnswer → List BroadcastFrameGroup
  | .take c taken => if c = ch then taken.toList else []
  | _ => []

/-- Whether this is a PPS that selected channel `ch`. -/
def selects (ch : UInt8) : BroadcastAnswer → Bool
  | .pps wakeMask => selectsChannel wakeMask ch
  | _ => false

end BroadcastAnswer

def sinceReset (past : List BroadcastAnswer) : List BroadcastAnswer :=
  past.rtakeWhile fun answer => !answer.isReset

def acceptedGroups (ch : UInt8) (past : List BroadcastAnswer) : List BroadcastFrameGroup :=
  (sinceReset past).flatMap (BroadcastAnswer.acceptedOn ch)

def takenGroups (ch : UInt8) (past : List BroadcastAnswer) : List BroadcastFrameGroup :=
  (sinceReset past).flatMap (BroadcastAnswer.takenOn ch)

def selections (ch : UInt8) (past : List BroadcastAnswer) : Nat :=
  (sinceReset past).countP (BroadcastAnswer.selects ch)

theorem sinceReset_concat (past : List BroadcastAnswer) {answer : BroadcastAnswer}
    (h : answer.isReset = false) : sinceReset (past ++ [answer]) = sinceReset past ++ [answer] := by
  rw [sinceReset, List.rtakeWhile_concat_pos _ _ _ (by rw [h]; rfl), sinceReset]

theorem sinceReset_reset (past : List BroadcastAnswer) {answer : BroadcastAnswer}
    (h : answer.isReset = true) : sinceReset (past ++ [answer]) = [] := by
  rw [sinceReset, List.rtakeWhile_concat_neg]
  rw [h]
  exact Bool.false_ne_true

/-! ## The invariant -/

/-- Per channel: the queue is what was accepted and not yet taken, and every wake that is spent or
    still pending was selected by a PPS of its own. -/
structure BroadcastSystem.Inv (past : List BroadcastAnswer) (sys : BroadcastSystem) (ch : UInt8)
    (bank : QueueBank BroadcastFrameGroup) : Prop where
  queued : acceptedGroups ch past = takenGroups ch past ++ bank.queue ch.toNat
  budget : (takenGroups ch past).length + (sys.st.pending ch).toNat ≤ selections ch past

/-- The queues hold a bank that fits the past on every channel. -/
def BroadcastSystem.Tracks (past : List BroadcastAnswer) (sys : BroadcastSystem) : Prop :=
  ∃ bank, HoldsGroups sys.st bank ∧ ∀ ch : UInt8, ch.toNat < axicanMax → sys.Inv past ch bank

section Steps

variable {past : List BroadcastAnswer} {sys sys' : BroadcastSystem} {ch : UInt8}
  {bank bank' : QueueBank BroadcastFrameGroup}

-- One more answer that is no reset, in terms of what it accepts, takes and selects.
theorem BroadcastSystem.Inv.concat (h : sys.Inv past ch bank) {answer : BroadcastAnswer}
    (hanswer : answer.isReset = false)
    (hqueue : bank.queue ch.toNat ++ answer.acceptedOn ch =
      answer.takenOn ch ++ bank'.queue ch.toNat)
    (hpending : (answer.takenOn ch).length + (sys'.st.pending ch).toNat ≤
      (sys.st.pending ch).toNat + if answer.selects ch then 1 else 0) :
    sys'.Inv (past ++ [answer]) ch bank' := by
  constructor
  · rw [acceptedGroups, takenGroups, sinceReset_concat past hanswer, List.flatMap_append,
      List.flatMap_append, List.flatMap_singleton, List.flatMap_singleton]
    show acceptedGroups ch past ++ _ = (takenGroups ch past ++ _) ++ _
    rw [h.queued, List.append_assoc, List.append_assoc, hqueue]
  · rw [takenGroups, selections, sinceReset_concat past hanswer, List.flatMap_append,
      List.flatMap_singleton, List.length_append, List.countP_append, List.countP_singleton]
    show (takenGroups ch past).length + _ + _ ≤ selections ch past + _
    have hbudget := h.budget
    omega

-- A reset starts the account of the channel over.
theorem BroadcastSystem.inv_reset {answer : BroadcastAnswer} (hanswer : answer.isReset = true)
    (hqueue : bank.queue ch.toNat = []) (hpending : sys.st.pending ch = 0) :
    sys.Inv (past ++ [answer]) ch bank := by
  constructor
  · rw [acceptedGroups, takenGroups, sinceReset_reset past hanswer, hqueue]
    rfl
  · rw [takenGroups, selections, sinceReset_reset past hanswer, hpending]
    rfl

end Steps

-- Every transaction keeps the account of every channel.
theorem broadcastStep_tracks (past : List BroadcastAnswer) (sys : BroadcastSystem)
    (call : BroadcastCall) (h : sys.Tracks past) :
    (broadcastStep sys call).2.Tracks (past ++ [(broadcastStep sys call).1]) := by
  obtain ⟨bank, hholds, hinv⟩ := h
  cases call with
  | pps now =>
      obtain ⟨hholds', hpending⟩ := processBroadcastPps_spec hholds now
      refine ⟨bank, hholds', ?_⟩
      intro ch hch
      apply (hinv ch hch).concat rfl
      · exact List.append_nil _
      · show 0 + _ ≤ _
        rw [Nat.zero_add]
        exact hpending ch
  | config payload =>
      simp only [broadcastStep, handleBroadcastConfig]
      cases broadcastConfigError payload with
      | some event =>
          -- A refused request changes nothing.
          refine ⟨bank, hholds, ?_⟩
          intro ch hch
          apply (hinv ch hch).concat rfl
          · exact List.append_nil _
          · exact Nat.le_of_eq (Nat.add_comm _ _)
      | none =>
          have hcfg : HoldsGroups
              { sys.st with cfg := (BroadcastConfigParam.ofBytes payload).toConfig } bank :=
            ⟨hholds.carries, hholds.channels, hholds.cap⟩
          obtain ⟨hholds', hempty⟩ := resetBroadcastBuffers_spec hcfg
          refine ⟨_, hholds', ?_⟩
          intro ch hch
          exact BroadcastSystem.inv_reset rfl (hempty ch hch).2 (hempty ch hch).1
  | enqueue c frames now =>
      obtain ⟨bank', hholds', hpending, hqueue⟩ :=
        enqueueBroadcastGroup_spec hholds sys.configs c frames now
      refine ⟨bank', hholds', ?_⟩
      intro ch hch
      apply (hinv ch hch).concat rfl
      · show bank.queue ch.toNat ++ (if c = ch then Option.toList (if _ then _ else _) else []) =
          [] ++ bank'.queue ch.toNat
        rw [hqueue, List.nil_append]
        by_cases hc : c = ch
        · subst hc
          rw [if_pos rfl]
          split
          next hret => rw [if_pos ⟨hret, rfl⟩, Option.toList_some]
          next hret => rw [if_neg (fun h => hret h.1), Option.toList_none, List.append_nil]
        · rw [if_neg hc, List.append_nil, if_neg]
          exact fun h => hc (UInt8.toNat_inj.mp h.2.symm)
      · show 0 + _ ≤ _
        rw [Nat.zero_add]
        exact (congrFun hpending ch ▸ Nat.le_add_right _ _)
  | take c =>
      obtain ⟨bank', taken, hholds', htaken, hqueue, hpending⟩ :=
        takeBroadcastGroup_spec hholds sys.configs c zeroGroup List.length_replicate
      refine ⟨bank', hholds', ?_⟩
      intro ch hch
      have hon : (broadcastStep sys (.take c)).1.takenOn ch =
          if ch = c then taken.toList else [] := by
        rw [htaken]
        show (if c = ch then _ else _) = _
        simp only [eq_comm]
      apply (hinv ch hch).concat rfl
      · rw [hon, hqueue ch.toNat]
        show _ ++ [] = _
        rw [List.append_nil]
        by_cases hc : ch = c
        · rw [if_pos hc, if_pos (congrArg UInt8.toNat hc)]
        · rw [if_neg hc, if_neg (fun h => hc (UInt8.toNat_inj.mp h))]
      · rw [hon]
        exact hpending ch
  | available c =>
      refine ⟨bank, hholds, ?_⟩
      intro ch hch
      apply (hinv ch hch).concat rfl
      · exact List.append_nil _
      · exact Nat.le_of_eq (Nat.add_comm _ _)
  | channels configs =>
      refine ⟨bank, hholds, ?_⟩
      intro ch hch
      apply (hinv ch hch).concat rfl
      · exact List.append_nil _
      · exact Nat.le_of_eq (Nat.add_comm _ _)

/-! ## Runs from the initialised queues -/

/-- The scheduler as `main` starts it: all zero but for the queues. -/
def BroadcastState.initial (groups : RingBuffer32ChSet) : BroadcastState where
  cfg :=
    { enable := 0, mode := 0, startGroup := 0, currentGroup := 0, startChannel := 0
      pollNextChannel := 0, activeMask := 0, groupAMask := 0, groupBMask := 0, configCount := 0 }
  groups := groups
  pending := fun _ => 0
  groupId := 0
  rxGateOpen := 0
  rxGateUntilMs := 0

-- After a successful `ringbuffer_32ch_init` of the group queues nothing is owed.
theorem broadcastInitial_tracks {groups₀ groups : RingBuffer32ChSet} {heap heap' : Heap}
    (configs : CanConfigs)
    (hinit : ringbuffer32chInit groups₀ sizeofBroadcastFrameGroup bcastGroupQueueDepth 6 heap =
      (0, groups, heap')) :
    BroadcastSystem.Tracks [] ⟨.initial groups, configs⟩ := by
  have hcarries := carries_fresh BroadcastFrameGroup.toBytes hinit
    BroadcastFrameGroup.length_toBytes
  refine ⟨_, ⟨hcarries, rfl, rfl⟩, ?_⟩
  intro ch _
  exact ⟨rfl, Nat.le_refl 0⟩

/-- **Broadcast groups keep their order and their wakes.**  After any sequence of transactions and
    for every channel, the groups taken since the last reset are a prefix of those accepted since
    it, no more than the PPS events since it that selected the channel; the rest is queued. -/
theorem broadcast_groups_in_order (groups₀ groups : RingBuffer32ChSet) (heap heap' : Heap)
    (configs : CanConfigs)
    (hinit : ringbuffer32chInit groups₀ sizeofBroadcastFrameGroup bcastGroupQueueDepth 6 heap =
      (0, groups, heap'))
    (calls : List BroadcastCall) (ch : UInt8) (hch : ch.toNat < axicanMax) :
    let run := Transducer.run broadcastStep calls ⟨.initial groups, configs⟩
    let queued := (ringbuffer32chLen run.2.st.groups ch 6).toNat
    takenGroups ch run.1 <+: acceptedGroups ch run.1 ∧
      (takenGroups ch run.1).length ≤ selections ch run.1 ∧
      (acceptedGroups ch run.1).length = (takenGroups ch run.1).length + queued ∧
      queued ≤ bcastGroupQueueDepth.toNat := by
  intro run queued
  have htracks := Transducer.run_answers BroadcastSystem.Tracks
    (broadcastInitial_tracks configs hinit) broadcastStep_tracks calls
  obtain ⟨bank, hholds, hinv⟩ := htracks
  have hvalid := hholds.valid hch
  have hqueued : queued = (bank.queue ch.toNat).length := by
    show (ringbuffer32chLen run.2.st.groups ch 6).toNat = _
    rw [hholds.carries.len, QueueBank.len, if_pos hvalid]
  have hch' := hinv ch hch
  refine ⟨?_, ?_, ?_, ?_⟩
  · rw [hch'.queued]
    exact List.prefix_append _ _
  · exact Nat.le_trans (Nat.le_add_right _ _) hch'.budget
  · rw [hch'.queued, List.length_append, hqueued]
  · rw [hqueued, ← hholds.cap]
    exact hholds.carries.length_queue_le hvalid.2

/-- A request that enables channels 0 and 1 simultaneously. -/
def enablingRequest : List UInt8 :=
  let body : List UInt8 :=
    store32 pcStatusHead ++ [0, 0, 40, 0] ++ store32 1 ++ [1, 1, 0, 0] ++ store32 3 ++
      List.replicate 16 0
  body ++ store32 (calculateXorChecksum body 36)

-- Two groups, one wake: the second take finds none, and the second group still waits.
theorem broadcast_groups_in_order_one_wake :
    let groups := (ringbuffer32chInit .zero sizeofBroadcastFrameGroup bcastGroupQueueDepth 6
      ampleHeap).2.1
    let run := Transducer.run broadcastStep
      [.enqueue 0 [default] 100, .config enablingRequest, .pps 100, .enqueue 0 [default] 200,
        .enqueue 0 [default] 300, .take 0, .take 0]
      ⟨.initial groups, fun ch => { initialConfig ch with state := .opened }⟩
    takenGroups 0 run.1 <+: acceptedGroups 0 run.1 ∧ (takenGroups 0 run.1).length = 1 ∧
      (ringbuffer32chLen run.2.st.groups 0 6).toNat = 1 := by
  intro groups run
  have hinit : ringbuffer32chInit .zero sizeofBroadcastFrameGroup bcastGroupQueueDepth 6 ampleHeap =
      (0, groups, (ringbuffer32chInit .zero sizeofBroadcastFrameGroup bcastGroupQueueDepth 6
        ampleHeap).2.2) := rfl
  obtain ⟨hpre, _, hlen, _⟩ := broadcast_groups_in_order .zero groups ampleHeap _ _ hinit
    [.enqueue 0 [default] 100, .config enablingRequest, .pps 100, .enqueue 0 [default] 200,
      .enqueue 0 [default] 300, .take 0, .take 0] 0 (by decide)
  have htaken : (takenGroups 0 run.1).length = 1 := by decide +kernel
  have haccepted : (acceptedGroups 0 run.1).length = 2 := by decide +kernel
  refine ⟨hpre, htaken, ?_⟩
  have hsum : 2 = 1 + (ringbuffer32chLen run.2.st.groups 0 6).toNat := by
    rw [← htaken, ← haccepted]
    exact hlen
  omega

end CanGateway
