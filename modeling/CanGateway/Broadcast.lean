import Mathlib.Data.List.DropRight
import CanGateway.ChannelSet
import CanGateway.DeviceConfig

/-!
# The broadcast scheduler

Groups of CAN frames wait in a queue per channel.  Each PPS event opens the receive window and wakes
the channels the configuration selects; a woken channel takes at most one group.  Every transaction
below runs under `bcast_state_mutex`, so it is one step of the system.
-/

open ByteMemory

namespace CanGateway

/-! ## Constants and records -/

def bcastModeSimultaneous : UInt8 := 1
def bcastModePolling : UInt8 := 2
def bcastModeAbAlternate : UInt8 := 3
def bcastEnable : UInt8 := 1
def bcastCanMask : UInt32 := 0x3F
def bcastMaxFramesPerGroup : Nat := 128
def bcastGroupQueueDepth : UInt32 := 16
def bcastPpsRxWindowMs : UInt64 := 1000

/-- `-EINVAL` and `-ENOMEM`, as the functions return them. -/
def einval : Int := -22
def enomem : Int := -12

/-- `BroadcastConfigParam`: the payload of the broadcast configuration command. -/
structure BroadcastConfigParam where
  head : UInt32
  direction : UInt8
  length : UInt8
  configCount : UInt32
  enable : UInt8
  bMode : UInt8
  startGroup : UInt8
  startChannel : UInt8
  activeMask : UInt32
  groupAMask : UInt32
  groupBMask : UInt32
  xorChecksum : UInt32

/-- `sizeof(BroadcastConfigParam)`. -/
def sizeofBroadcastConfigParam : Nat := 40

def BroadcastConfigParam.ofBytes (bs : List UInt8) : BroadcastConfigParam where
  head := load32 bs 0
  direction := load8 bs 4
  length := load8 bs 6
  configCount := load32 bs 8
  enable := load8 bs 12
  bMode := load8 bs 13
  startGroup := load8 bs 14
  startChannel := load8 bs 15
  activeMask := load32 bs 16
  groupAMask := load32 bs 20
  groupBMask := load32 bs 24
  xorChecksum := load32 bs 36

structure BroadcastSchedulerConfig where
  enable : UInt8
  mode : UInt8
  startGroup : UInt8
  currentGroup : UInt8
  startChannel : UInt8
  pollNextChannel : UInt8
  activeMask : UInt32
  groupAMask : UInt32
  groupBMask : UInt32
  configCount : UInt32
  deriving DecidableEq, Repr

/-- `BroadcastFrameGroup`: the frames one wake of a channel sends. -/
structure BroadcastFrameGroup where
  groupId : UInt32
  frameCount : UInt16
  frames : List AxicanFrame
  length_eq : frames.length = bcastMaxFramesPerGroup

/-- `sizeof(BroadcastFrameGroup)`: two bytes of padding precede the frames. -/
def sizeofBroadcastFrameGroup : UInt32 := 3080

namespace BroadcastFrameGroup

def toBytes (group : BroadcastFrameGroup) : List UInt8 :=
  store32 group.groupId ++ (store16 group.frameCount ++
    ([0, 0] ++ group.frames.flatMap AxicanFrame.toBytes))

def ofBytes (bs : List UInt8) : BroadcastFrameGroup where
  groupId := load32 bs 0
  frameCount := load16 bs 4
  frames := (List.range bcastMaxFramesPerGroup).map fun i =>
    AxicanFrame.ofBytes (slot (bs.drop 8) sizeofAxicanFrame i)
  length_eq := by rw [List.length_map, List.length_range]

@[simp] theorem length_toBytes (group : BroadcastFrameGroup) :
    group.toBytes.length = sizeofBroadcastFrameGroup.toNat := by
  rw [toBytes, List.length_append, List.length_append, List.length_append, length_store32,
    length_store16, length_flatMap_of_length _ _ AxicanFrame.length_toBytes, group.length_eq]
  rfl

-- A group read back from its own bytes.
theorem ofBytes_toBytes (group : BroadcastFrameGroup) : ofBytes group.toBytes = group := by
  have hid : load32 group.toBytes 0 = group.groupId :=
    load32_store32 [] _ group.groupId 0 rfl
  have hcount : load16 group.toBytes 4 = group.frameCount :=
    load16_store16 (store32 group.groupId) _ group.frameCount 4 (length_store32 _)
  have hdrop : group.toBytes.drop 8 = group.frames.flatMap AxicanFrame.toBytes := by
    have hsplit : group.toBytes = (store32 group.groupId ++ (store16 group.frameCount ++ [0, 0])) ++
        group.frames.flatMap AxicanFrame.toBytes := by
      simp only [toBytes, List.append_assoc]
    have hlen : (store32 group.groupId ++ (store16 group.frameCount ++ [0, 0])).length = 8 := by
      simp
    rw [hsplit, ← hlen, List.drop_left]
  have hframes : (List.range bcastMaxFramesPerGroup).map (fun i =>
      AxicanFrame.ofBytes (slot (group.toBytes.drop 8) sizeofAxicanFrame i)) = group.frames := by
    have hslots := map_slot_flatMap AxicanFrame.toBytes sizeofAxicanFrame
      AxicanFrame.length_toBytes group.frames
    rw [group.length_eq] at hslots
    show (List.range bcastMaxFramesPerGroup).map
      (AxicanFrame.ofBytes ∘ slot (group.toBytes.drop 8) sizeofAxicanFrame) = group.frames
    rw [hdrop, ← List.map_map, hslots, List.map_map]
    exact (List.map_congr_left fun frame _ => frame.ofBytes_toBytes).trans (List.map_id _)
  cases group
  simp only [ofBytes] at hid hcount hframes ⊢
  simp only [hid, hcount, hframes]

end BroadcastFrameGroup

/-! ## Transactions -/

/-- The scheduler's configuration, queues, pending wakes, group counter and receive window. -/
structure BroadcastState where
  cfg : BroadcastSchedulerConfig
  groups : RingBuffer32ChSet
  pending : UInt8 → UInt32
  groupId : UInt32
  rxGateOpen : UInt8
  rxGateUntilMs : UInt64

def validateBroadcastMask (mask : UInt32) : Bool := mask &&& ~~~bcastCanMask == 0

/-- `1U << ch`. -/
def channelBit (ch : UInt8) : UInt32 := 1 <<< ch.toUInt32

def broadcastBufferAvailable (st : BroadcastState) (ch : UInt8) : UInt32 :=
  ringbuffer32chAvail st.groups ch 6

def resetBroadcastBuffers (st : BroadcastState) : BroadcastState :=
  { st with
    groups := (List.range axicanMax).foldl
      (fun groups ch => ringbuffer32chReset groups (UInt8.ofNat ch) 6) st.groups
    pending := fun ch => if ch.toNat < axicanMax then 0 else st.pending ch
    rxGateOpen := 0
    rxGateUntilMs := 0 }

/-- The first check of a broadcast configuration that fails, as the event it sends. -/
def broadcastConfigError (payload : List UInt8) : Option String :=
  let param := BroadcastConfigParam.ofBytes payload
  if param.head ≠ pcStatusHead ∨ param.direction ≠ 0 ∨
      param.length.toNat ≠ sizeofBroadcastConfigParam then
    some "broadcast config header invalid"
  else if param.xorChecksum ≠ calculateXorChecksum payload (sizeofBroadcastConfigParam - 4) then
    some "broadcast config checksum invalid"
  else if param.enable ≠ 0 ∧ param.enable ≠ bcastEnable then some "broadcast enable invalid"
  else if param.enable = bcastEnable ∧
      (param.bMode < bcastModeSimultaneous ∨ param.bMode > bcastModeAbAlternate) then
    some "broadcast mode invalid"
  else if ¬ validateBroadcastMask param.activeMask ∨ ¬ validateBroadcastMask param.groupAMask ∨
      ¬ validateBroadcastMask param.groupBMask ∨ param.startChannel.toNat ≥ axicanMax ∨
      param.startGroup > 1 then
    some "broadcast mask invalid"
  else none

/-- The configuration an accepted request installs. -/
def BroadcastConfigParam.toConfig (param : BroadcastConfigParam) : BroadcastSchedulerConfig where
  enable := param.enable
  mode := param.bMode
  startGroup := param.startGroup
  currentGroup := param.startGroup
  startChannel := param.startChannel
  pollNextChannel := param.startChannel
  activeMask := param.activeMask &&& bcastCanMask
  groupAMask := param.groupAMask &&& bcastCanMask
  groupBMask := param.groupBMask &&& bcastCanMask
  configCount := param.configCount

/-- The response status, the error event and the state. -/
def handleBroadcastConfig (payload : List UInt8) (st : BroadcastState) :
    UInt8 × Option String × BroadcastState :=
  match broadcastConfigError payload with
  | some event => (1, some event, st)
  | none =>
      (0, none, resetBroadcastBuffers
        { st with cfg := (BroadcastConfigParam.ofBytes payload).toConfig })

def nextBroadcastGroupId (groupId : UInt32) : UInt32 :=
  if groupId = 0xFFFFFFFF then 1 else groupId + 1

def setBroadcastRxGate (openGate : Bool) (now : UInt64) (st : BroadcastState) : BroadcastState :=
  { st with
    rxGateOpen := if openGate then 1 else 0
    rxGateUntilMs := if openGate then now + bcastPpsRxWindowMs else 0 }

/-- A window found closed is also recorded as closed. -/
def isBroadcastRxGateOpen (now : UInt64) (st : BroadcastState) : Bool × BroadcastState :=
  let isOpen := st.rxGateOpen != 0 && now ≤ st.rxGateUntilMs
  (isOpen, if isOpen then st else { st with rxGateOpen := 0, rxGateUntilMs := 0 })

def isBroadcastPpsWindowOpen (ch : UInt8) (now : UInt64) (st : BroadcastState) :
    Bool × BroadcastState :=
  if ch.toNat ≥ axicanMax then (false, st) else isBroadcastRxGateOpen now st

def pcCanPayloadToAxicanFrame (src : PcArmDataData) : AxicanFrame where
  canId := src.idr
  canDlc := src.drcr
  data0 := reverse4bytes src.dw1r
  data1 := reverse4bytes src.dw2r
  timestamp := src.timestamp

/-- The group `enqueue_broadcast_group` builds: unused frames stay zero. -/
def broadcastGroupOf (groupId : UInt32) (frames : List PcArmDataData) : BroadcastFrameGroup where
  groupId := groupId
  frameCount := UInt16.ofNat frames.length
  frames := (frames.map pcCanPayloadToAxicanFrame ++
    List.replicate bcastMaxFramesPerGroup default).take bcastMaxFramesPerGroup
  length_eq := by
    rw [List.length_take, List.length_append, List.length_replicate]
    omega

/-- The return value, the error event and the state. -/
def enqueueBroadcastGroup (configs : CanConfigs) (targetCh : UInt8) (frames : List PcArmDataData)
    (now : UInt64) (st : BroadcastState) : Int × Option String × BroadcastState :=
  if frames.length = 0 ∨ frames.length > bcastMaxFramesPerGroup then
    (einval, some "broadcast group size invalid", st)
  else if targetCh.toNat ≥ axicanMax ∨ (configs targetCh).valid = 0 then
    (einval, some "broadcast packet channel invalid", st)
  else
    let (isOpen, st) := isBroadcastPpsWindowOpen targetCh now st
    if ¬ isOpen then (einval, none, st)
    else if ringbuffer32chAvail st.groups targetCh 6 = 0 then (enomem, none, st)
    else
      let groupId := nextBroadcastGroupId st.groupId
      let put := ringbuffer32chPut st.groups targetCh
        (some (broadcastGroupOf groupId frames).toBytes) 6
      (if put.1 ≠ 1 then enomem else 0, none, { st with groups := put.2, groupId := groupId })

/-- The channel polling selects: the first active one in cyclic order. -/
def pollChannel (active : UInt32) (pollNextChannel : UInt8) : Option UInt8 :=
  ((List.range axicanMax).map fun step =>
    UInt8.ofNat ((pollNextChannel.toNat + step) % axicanMax)).find? fun ch =>
      active &&& channelBit ch != 0

def selectBroadcastMaskOnPps (cfg : BroadcastSchedulerConfig) :
    UInt32 × BroadcastSchedulerConfig :=
  if cfg.enable ≠ bcastEnable then (0, cfg)
  else if cfg.mode = bcastModeSimultaneous then (cfg.activeMask &&& bcastCanMask, cfg)
  else if cfg.mode = bcastModePolling then
    match pollChannel (cfg.activeMask &&& bcastCanMask) cfg.pollNextChannel with
    | none => (0, cfg)
    | some ch =>
        (channelBit ch &&& bcastCanMask,
          { cfg with pollNextChannel := UInt8.ofNat ((ch.toNat + 1) % axicanMax) })
  else if cfg.mode = bcastModeAbAlternate then
    if cfg.currentGroup = 0 then
      (cfg.groupAMask &&& bcastCanMask, { cfg with currentGroup := 1 })
    else (cfg.groupBMask &&& bcastCanMask, { cfg with currentGroup := 0 })
  else (0, cfg)

def notifyBroadcastChannels (mask : UInt32) (st : BroadcastState) : BroadcastState :=
  { st with
    pending := fun ch =>
      if ch.toNat < axicanMax ∧ mask &&& channelBit ch ≠ 0 then st.pending ch + 1
      else st.pending ch }

/-- The mask of the channels woken, and the state. -/
def processBroadcastPps (now : UInt64) (st : BroadcastState) : UInt32 × BroadcastState :=
  let st := setBroadcastRxGate true now st
  let (wakeMask, cfg) := selectBroadcastMaskOnPps st.cfg
  let st := { st with cfg := cfg }
  (wakeMask, if wakeMask ≠ 0 then notifyBroadcastChannels wakeMask st else st)

/-- The return value, the caller's group afterwards and the state. -/
def takeBroadcastGroup (configs : CanConfigs) (canId : UInt8) (group : List UInt8)
    (st : BroadcastState) : UInt32 × List UInt8 × BroadcastState :=
  if canId.toNat ≥ axicanMax then (0, group, st)
  else if st.pending canId ≠ 0 then
    let st :=
      { st with pending := fun ch => if ch = canId then st.pending canId - 1 else st.pending ch }
    if (configs canId).state = .opened then
      let r := ringbuffer32chGet st.groups canId (some group) 6
      (r.1, r.2.1.getD group, { st with groups := r.2.2 })
    else (0, group, st)
  else (0, group, st)

/-! ## The transactions on the queues of groups -/

/-- The queues hold the groups of a bank of six queues, `BCAST_GROUP_QUEUE_DEPTH` deep. -/
structure HoldsGroups (st : BroadcastState) (bank : QueueBank BroadcastFrameGroup) : Prop where
  carries : Carries BroadcastFrameGroup.toBytes st.groups bank
  channels : bank.channels = axicanMax
  cap : bank.cap = bcastGroupQueueDepth.toNat

section Transactions

variable {st : BroadcastState} {bank : QueueBank BroadcastFrameGroup}

theorem HoldsGroups.valid (h : HoldsGroups st bank) {ch : UInt8} (hch : ch.toNat < axicanMax) :
    bank.Valid (6 : UInt8).toNat ch.toNat := by
  refine ⟨hch, ?_⟩
  rw [h.channels]
  exact hch

-- A reset empties every queue and takes back every wake.
theorem resetBroadcastBuffers_spec (h : HoldsGroups st bank) :
    HoldsGroups (resetBroadcastBuffers st) (bank.resetAll 6 axicanMax) ∧
      ∀ ch : UInt8, ch.toNat < axicanMax → (resetBroadcastBuffers st).pending ch = 0 ∧
        (bank.resetAll 6 axicanMax).queue ch.toNat = [] := by
  refine ⟨⟨h.carries.resetAll 6 axicanMax (by decide), ?_, ?_⟩, ?_⟩
  · rw [QueueBank.channels_resetAll, h.channels]
  · rw [QueueBank.cap_resetAll, h.cap]
  · intro ch hch
    exact ⟨if_pos hch, QueueBank.queue_resetAll bank 6 axicanMax ch.toNat hch (h.valid hch)⟩

/-- Whether a wake mask selects a channel. -/
def selectsChannel (mask : UInt32) (ch : UInt8) : Bool := mask &&& channelBit ch != 0

-- A notification adds at most one wake, and only to a selected channel.
theorem notifyBroadcastChannels_pending (mask : UInt32) (st : BroadcastState) (ch : UInt8) :
    ((notifyBroadcastChannels mask st).pending ch).toNat ≤
      (st.pending ch).toNat + if selectsChannel mask ch then 1 else 0 := by
  simp only [notifyBroadcastChannels]
  split
  next hsel =>
    have hon : selectsChannel mask ch = true := bne_iff_ne.mpr hsel.2
    rw [if_pos hon, UInt32.toNat_add, UInt32.toNat_one]
    exact Nat.mod_le _ _
  next => exact Nat.le_add_right _ _

-- A PPS leaves the queues alone and adds at most the wake its mask selects.
theorem processBroadcastPps_spec (h : HoldsGroups st bank) (now : UInt64) :
    HoldsGroups (processBroadcastPps now st).2 bank ∧
      ∀ ch : UInt8, ((processBroadcastPps now st).2.pending ch).toNat ≤
        (st.pending ch).toNat +
          if selectsChannel (processBroadcastPps now st).1 ch then 1 else 0 := by
  unfold processBroadcastPps
  dsimp only
  split
  · refine ⟨⟨h.carries, h.channels, h.cap⟩, ?_⟩
    intro ch
    exact notifyBroadcastChannels_pending _ _ ch
  · refine ⟨⟨h.carries, h.channels, h.cap⟩, ?_⟩
    intro ch
    exact Nat.le_add_right _ _

theorem isBroadcastPpsWindowOpen_spec (h : HoldsGroups st bank) (ch : UInt8) (now : UInt64) :
    HoldsGroups (isBroadcastPpsWindowOpen ch now st).2 bank ∧
      (isBroadcastPpsWindowOpen ch now st).2.pending = st.pending := by
  unfold isBroadcastPpsWindowOpen isBroadcastRxGateOpen
  split
  · exact ⟨h, rfl⟩
  · simp only
    split
    · exact ⟨h, rfl⟩
    · exact ⟨⟨h.carries, h.channels, h.cap⟩, rfl⟩

-- An enqueue that returns 0 appends its group, and only there; any other leaves the queues.
theorem enqueueBroadcastGroup_spec (h : HoldsGroups st bank) (configs : CanConfigs)
    (targetCh : UInt8) (frames : List PcArmDataData) (now : UInt64) :
    ∃ bank', HoldsGroups (enqueueBroadcastGroup configs targetCh frames now st).2.2 bank' ∧
      (enqueueBroadcastGroup configs targetCh frames now st).2.2.pending = st.pending ∧
      ∀ c, bank'.queue c =
        if (enqueueBroadcastGroup configs targetCh frames now st).1 = 0 ∧ c = targetCh.toNat then
          bank.queue c ++ [broadcastGroupOf
            (enqueueBroadcastGroup configs targetCh frames now st).2.2.groupId frames]
        else bank.queue c := by
  have heinval : einval ≠ 0 := by decide
  have henomem : enomem ≠ 0 := by decide
  have hwindow := isBroadcastPpsWindowOpen_spec h targetCh now
  simp only [enqueueBroadcastGroup]
  split
  · exact ⟨bank, h, rfl, fun c => by rw [if_neg (fun h => heinval h.1)]⟩
  split
  · exact ⟨bank, h, rfl, fun c => by rw [if_neg (fun h => heinval h.1)]⟩
  split
  · exact ⟨bank, hwindow.1, hwindow.2, fun c => by rw [if_neg (fun h => heinval h.1)]⟩
  split
  · exact ⟨bank, hwindow.1, hwindow.2, fun c => by rw [if_neg (fun h => henomem h.1)]⟩
  generalize (isBroadcastPpsWindowOpen targetCh now st).2 = st' at hwindow
  obtain ⟨hret, hput⟩ := hwindow.1.carries.put targetCh 6
    (broadcastGroupOf (nextBroadcastGroupId st'.groupId) frames)
  refine ⟨_, ⟨hput, by rw [QueueBank.channels_put, hwindow.1.channels],
    by rw [QueueBank.cap_put, hwindow.1.cap]⟩, hwindow.2, ?_⟩
  intro c
  rw [QueueBank.queue_put, hret]
  cases (bank.put (6 : UInt8).toNat targetCh.toNat
    (broadcastGroupOf (nextBroadcastGroupId st'.groupId) frames)).1 with
  | true => simp [successCode]
  | false => simp [successCode, henomem]

-- A take uses up a wake for the group it returns, the oldest of the channel's queue.
theorem takeBroadcastGroup_spec (h : HoldsGroups st bank) (configs : CanConfigs) (canId : UInt8)
    (group : List UInt8) (hgroup : group.length = sizeofBroadcastFrameGroup.toNat) :
    ∃ (bank' : QueueBank BroadcastFrameGroup) (taken : Option BroadcastFrameGroup),
      HoldsGroups (takeBroadcastGroup configs canId group st).2.2 bank' ∧
      (taken = if (takeBroadcastGroup configs canId group st).1 = 1 then
        some (.ofBytes (takeBroadcastGroup configs canId group st).2.1) else none) ∧
      (∀ c, bank.queue c = (if c = canId.toNat then taken.toList else []) ++ bank'.queue c) ∧
      ∀ ch, (if ch = canId then taken.toList else []).length +
        ((takeBroadcastGroup configs canId group st).2.2.pending ch).toNat ≤
          (st.pending ch).toNat := by
  have hnone : ∀ c, bank.queue c =
      (if c = canId.toNat then (none : Option BroadcastFrameGroup).toList else []) ++
        bank.queue c := by
    intro c
    split <;> rfl
  simp only [takeBroadcastGroup]
  split
  · refine ⟨bank, none, h, rfl, hnone, ?_⟩
    intro ch
    split <;> simp
  split
  case isFalse =>
    refine ⟨bank, none, h, rfl, hnone, ?_⟩
    intro ch
    split <;> simp
  next hpend =>
    have hpos : 0 < (st.pending canId).toNat := by
      apply Nat.pos_of_ne_zero
      intro h0
      exact hpend (UInt32.toNat_inj.mp h0)
    have hdec : (st.pending canId - 1).toNat + 1 = (st.pending canId).toNat := by
      rw [UInt32.toNat_sub_of_le, UInt32.toNat_one]
      · omega
      · rw [UInt32.le_iff_toNat_le, UInt32.toNat_one]
        exact hpos
    have hbudget : ∀ (taken : Option BroadcastFrameGroup) (ch : UInt8),
        (if ch = canId then taken.toList else []).length +
          (if ch = canId then st.pending canId - 1 else st.pending ch).toNat ≤
            (st.pending ch).toNat := by
      intro taken ch
      by_cases hch : ch = canId
      · rw [if_pos hch, if_pos hch, hch]
        cases taken with
        | none => simp only [Option.toList_none, List.length_nil]; omega
        | some g => simp only [Option.toList_some, List.length_singleton]; omega
      · rw [if_neg hch, if_neg hch, List.length_nil, Nat.zero_add]
    split
    case isFalse =>
      exact ⟨bank, none, ⟨h.carries, h.channels, h.cap⟩, rfl, hnone,
        hbudget none⟩
    next =>
      have hdst : group.length = st.groups.elemSize.toNat := by
        rw [hgroup, ← h.carries.size (broadcastGroupOf 0 []),
          BroadcastFrameGroup.length_toBytes]
      obtain ⟨hret, hdata, hget⟩ := h.carries.get canId 6 group hdst
      refine ⟨_, (bank.get (6 : UInt8).toNat canId.toNat).1,
        ⟨hget, by rw [QueueBank.channels_get, h.channels], by rw [QueueBank.cap_get, h.cap]⟩,
        ?_, QueueBank.queue_get bank _ _, hbudget _⟩
      simp only [hret, hdata]
      cases (bank.get (6 : UInt8).toNat canId.toNat).1 with
      | none => rfl
      | some g =>
          show some g = some (BroadcastFrameGroup.ofBytes g.toBytes)
          rw [BroadcastFrameGroup.ofBytes_toBytes]

end Transactions

end CanGateway
