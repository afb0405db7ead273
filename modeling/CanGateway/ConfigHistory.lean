import Mathlib.Data.List.Induction
import CanGateway.Library.Transducer
import CanGateway.CanConfig

/-!
# The configuration record and the driver

`handle_can_info_query` reports what `can_configs` records.  The record of a channel is compared
with the last baud rate and the last mode the driver accepted for it, over any sequence of requests.
-/

namespace CanGateway

/-! ## The information query -/

/-- The row of channel `i`, and the frame counters after it. -/
def canInfoRow (configs : CanConfigs) (dataCounter : UInt16) (timestamp : UInt8 → UInt64)
    (channelFrameCount : UInt8 → UInt32) (i : UInt8) :
    CanConfigParam × (UInt8 → UInt32) :=
  let currCfg := configs i
  let count := channelFrameCount currCfg.canId
  let chCount := if count = 0xFFFFFFFF then 0 else count + 1
  let row : CanConfigParam :=
    { head := 0x499602D2
      direction := 1
      type := currCfg.canType
      length := 0x30
      chId := currCfg.canId
      totalCount := if dataCounter.toUInt32 = 0xFFFFFFFF then 0 else dataCounter.toUInt32 + 1
      chCount := chCount
      baudRate := currCfg.baudRate
      mode := currCfg.mode
      autoSend := 1
      ier := 0
      packetInterval := 0
      canDataMode := (configs currCfg.canId).canType.toUInt16
      timestamp := timestamp i
      xorChecksum := 0 }
  (row.sealed, fun c => if c = currCfg.canId then chCount else channelFrameCount c)

/-- `handle_can_info_query`: the error event, or the rows sent and the frame counters. -/
def handleCanInfoQuery (data : List UInt8) (configs : CanConfigs) (dataCounter : UInt16)
    (timestamp : UInt8 → UInt64) (channelFrameCount : UInt8 → UInt32) :
    Except String (List CanConfigParam × (UInt8 → UInt32)) :=
  if load32 data 0 ≠ 0xffffffff then .error "RECEIVE DATA NOT 0XFFFFFFFF"
  else
    .ok (Transducer.run (canInfoRow configs dataCounter timestamp)
      ((List.range axicanMax).map UInt8.ofNat) channelFrameCount)

-- Each row reports the record of its channel.
theorem handleCanInfoQuery_row {data : List UInt8} {configs : CanConfigs} {dataCounter : UInt16}
    {timestamp : UInt8 → UInt64} {channelFrameCount : UInt8 → UInt32}
    {reply : List CanConfigParam × (UInt8 → UInt32)}
    (h : handleCanInfoQuery data configs dataCounter timestamp channelFrameCount = .ok reply)
    {ch : UInt8} (hch : ch.toNat < axicanMax) :
    ∃ row, reply.1[ch.toNat]? = some row ∧ row.baudRate = (configs ch).baudRate ∧
      row.mode = (configs ch).mode := by
  unfold handleCanInfoQuery at h
  split at h
  · cases h
  cases h
  have hmap := Transducer.map_run (canInfoRow configs dataCounter timestamp)
    (fun row => (row.baudRate, row.mode)) (fun i => ((configs i).baudRate, (configs i).mode))
    (fun _ _ => rfl) ((List.range axicanMax).map UInt8.ofNat) channelFrameCount
  have hget := congrArg (fun rows => rows[ch.toNat]?) hmap
  simp only [List.getElem?_map, List.getElem?_range hch, Option.map_some,
    UInt8.ofNat_toNat] at hget
  obtain ⟨row, hrow, heq⟩ := Option.map_eq_some_iff.mp hget
  rw [Prod.mk.injEq] at heq
  exact ⟨row, hrow, heq⟩

/-! ## What the driver accepted -/

/-- The baud rate a successful call set on channel `ch`. -/
@[simp] def ConfigEffect.baudOn (ch : UInt8) : ConfigEffect → Option UInt32
  | setBaud c baud ret => if c = ch ∧ ret = 0 then some baud else none
  | _ => none

/-- The mode a successful call set on channel `ch`. -/
@[simp] def ConfigEffect.modeOn (ch : UInt8) : ConfigEffect → Option UInt8
  | setMode c mode ret => if c = ch ∧ ret = 0 then some mode else none
  | _ => none

def lastBaud (ch : UInt8) (past : List ConfigEffect) : Option UInt32 :=
  (past.filterMap (ConfigEffect.baudOn ch)).getLast?

def lastMode (ch : UInt8) (past : List ConfigEffect) : Option UInt8 :=
  (past.filterMap (ConfigEffect.modeOn ch)).getLast?

/-- Every accepted query reports the values of the last successful calls, for every channel. -/
def ReportsHardware (past : List ConfigEffect) (configs : CanConfigs) : Prop :=
  ∀ data dataCounter timestamp channelFrameCount reply,
    handleCanInfoQuery data configs dataCounter timestamp channelFrameCount = .ok reply →
    ∀ ch : UInt8, ch.toNat < axicanMax → ∃ row, reply.1[ch.toNat]? = some row ∧
      lastBaud ch past = some row.baudRate ∧ lastMode ch past = some row.mode

/-- The record of a channel is what the driver was last told. -/
def Tracks (past : List ConfigEffect) (configs : CanConfigs) (ch : UInt8) : Prop :=
  lastBaud ch past = some (configs ch).baudRate ∧ lastMode ch past = some (configs ch).mode

theorem reportsHardware_iff (past : List ConfigEffect) (configs : CanConfigs) :
    ReportsHardware past configs ↔ ∀ ch : UInt8, ch.toNat < axicanMax → Tracks past configs ch := by
  constructor
  · intro h ch hch
    have hquery : handleCanInfoQuery [0xFF, 0xFF, 0xFF, 0xFF] configs 0 (fun _ => 0) (fun _ => 0) =
        .ok _ := rfl
    obtain ⟨row, hrow, hbaud, hmode⟩ := h _ _ _ _ _ hquery ch hch
    obtain ⟨row', hrow', hbaud', hmode'⟩ := handleCanInfoQuery_row hquery hch
    obtain rfl : row = row' := Option.some.inj (hrow.symm.trans hrow')
    exact ⟨hbaud.trans (congrArg some hbaud'), hmode.trans (congrArg some hmode')⟩
  · intro h data dataCounter timestamp channelFrameCount reply hreply ch hch
    obtain ⟨row, hrow, hbaud, hmode⟩ := handleCanInfoQuery_row hreply hch
    refine ⟨row, hrow, ?_, ?_⟩
    · rw [hbaud]
      exact (h ch hch).1
    · rw [hmode]
      exact (h ch hch).2

/-! ## Runs -/

/-- A request with the results of the driver calls it makes. -/
structure CanConfigRequest where
  payload : List UInt8
  baudRet : Int
  modeRet : Int

def canConfigStep (configs : CanConfigs) (request : CanConfigRequest) :
    List ConfigEffect × CanConfigs :=
  handleCanConfig request.payload request.baudRet request.modeRet configs

/-- The calls `main` makes on a channel it goes on with. -/
def initEffects (ch : UInt8) : List ConfigEffect :=
  [.setBaud ch (initialConfig ch).baudRate 0, .setMode ch (initialConfig ch).mode 0]

/-- The effects of `main` and of the requests since. -/
def configPast (requests : List CanConfigRequest) : List ConfigEffect :=
  ((List.range axicanMax).map UInt8.ofNat).flatMap initEffects ++
    (Transducer.run canConfigStep requests initialConfig).1.flatten

/-- `can_configs` after the requests. -/
def configsAfter (requests : List CanConfigRequest) : CanConfigs :=
  (Transducer.run canConfigStep requests initialConfig).2

/-! ## What one request does -/

/-- The successful calls among the effects: whether they set the baud rate, and the mode. -/
structure Calls (param : CanConfigParam) (effects : List ConfigEffect) (baudSet modeSet : Prop)
    [Decidable baudSet] [Decidable modeSet] : Prop where
  baud : ∀ c, effects.filterMap (ConfigEffect.baudOn c) =
    if param.chId = c ∧ baudSet then [param.baudRate] else []
  mode : ∀ c, effects.filterMap (ConfigEffect.modeOn c) =
    if param.chId = c ∧ modeSet then [param.mode] else []

section Parts

variable (param : CanConfigParam) (ret : Int) (config : CanDeviceConfig)

theorem setBaudAlong_calls :
    Calls param (setBaudAlong param ret config).1 (param.BaudInRange ∧ ret = 0) False := by
  unfold setBaudAlong
  by_cases hrange : param.BaudInRange
  · by_cases hret : ret = 0
    · constructor <;> intro c <;> by_cases hc : param.chId = c <;> simp [hrange, hret, hc]
    · constructor <;> intro c <;> simp [hrange, hret]
  · constructor <;> intro c <;> simp [hrange]

theorem setBaudNormal_calls :
    Calls param (setBaudNormal param ret config).1 (param.BaudInRange ∧ ret = 0) False := by
  rw [setBaudNormal_effects]
  exact setBaudAlong_calls param ret config

theorem setModeAlong_calls :
    Calls param (setModeAlong param ret).1 False (param.ModeKnown ∧ ret = 0) := by
  unfold setModeAlong CanConfigParam.ModeKnown
  by_cases hnormal : param.mode = zmuavXcanModeNormal
  · by_cases hret : ret = 0
    · constructor <;> intro c <;> by_cases hc : param.chId = c <;> simp [hnormal, hret, hc]
    · constructor <;> intro c <;> simp [hnormal, hret]
  by_cases hloop : param.mode = zmuavXcanModeLoopback
  · have hne : zmuavXcanModeLoopback ≠ zmuavXcanModeNormal := by decide
    by_cases hret : ret = 0
    · constructor <;> intro c <;> by_cases hc : param.chId = c <;> simp [hloop, hne, hret, hc]
    · constructor <;> intro c <;> simp [hloop, hne, hret]
  · constructor <;> intro c <;> simp [hnormal, hloop]

theorem setModeNormal_calls :
    Calls param (setModeNormal param ret).1 False (param.ModeKnown ∧ ret = 0) := by
  rw [setModeNormal_effects]
  exact setModeAlong_calls param ret

-- `ALONG_MODE` records a baud rate the driver accepted.
theorem setBaudAlong_config : (setBaudAlong param ret config).2.2 =
    if param.BaudInRange ∧ ret = 0 then { config with baudRate := param.baudRate } else config := by
  unfold setBaudAlong
  by_cases hrange : param.BaudInRange
  · by_cases hret : ret = 0
    · simp [hrange, hret]
    · simp [hrange, hret]
  · simp [hrange]

-- `NORMAL_MODE` records it whatever the driver answered.
theorem setBaudNormal_config : (setBaudNormal param ret config).2.2 =
    if param.BaudInRange then { config with baudRate := param.baudRate } else config := by
  unfold setBaudNormal
  split <;> rfl

end Parts

-- The calls of a branch are those of its two parts.
theorem Calls.configureChannel {param : CanConfigParam}
    {baud : List ConfigEffect × Bool × CanDeviceConfig} {mode : List ConfigEffect × Bool}
    {baudSet modeSet : Prop} [Decidable baudSet] [Decidable modeSet]
    (hbaud : Calls param baud.1 baudSet False) (hmode : Calls param mode.1 False modeSet) :
    Calls param (configureChannel param baud mode).1 baudSet modeSet where
  baud := by
    intro c
    rw [CanGateway.configureChannel, List.filterMap_append, List.filterMap_append, hbaud.baud,
      hmode.baud]
    simp
  mode := by
    intro c
    rw [CanGateway.configureChannel, List.filterMap_append, List.filterMap_append, hbaud.mode,
      hmode.mode]
    simp

namespace CanConfigRequest

variable (request : CanConfigRequest)

def param : CanConfigParam := .ofBytes request.payload

/-- The request passes the checks and gets as far as the driver. -/
def CarriedOut : Prop :=
  canConfigError request.payload = none ∧ request.param.type = 0 ∧
    (request.param.canDataMode = alongMode ∨ request.param.canDataMode = normalMode)

instance : Decidable request.CarriedOut := inferInstanceAs (Decidable (_ ∧ _ ∧ (_ ∨ _)))

/-- `axican_set_baud` is called and succeeds. -/
def BaudSet : Prop := request.CarriedOut ∧ request.param.BaudInRange ∧ request.baudRet = 0

instance : Decidable request.BaudSet := inferInstanceAs (Decidable (_ ∧ _ ∧ _))

/-- `axican_set_mode` is called and succeeds. -/
def ModeSet : Prop := request.CarriedOut ∧ request.param.ModeKnown ∧ request.modeRet = 0

instance : Decidable request.ModeSet := inferInstanceAs (Decidable (_ ∧ _ ∧ _))

/-- The baud rate is recorded. -/
def BaudStored : Prop :=
  request.CarriedOut ∧ request.param.BaudInRange ∧
    (request.baudRet = 0 ∨ request.param.canDataMode = normalMode)

instance : Decidable request.BaudStored := inferInstanceAs (Decidable (_ ∧ _ ∧ (_ ∨ _)))

end CanConfigRequest

/-- What a request records: the baud rate at times, the mode never. -/
structure Records (request : CanConfigRequest) (configs configs' : CanConfigs) : Prop where
  baud : ∀ c, (configs' c).baudRate =
    if request.param.chId = c ∧ request.BaudStored then request.param.baudRate
    else (configs c).baudRate
  mode : ∀ c, (configs' c).mode = (configs c).mode

theorem Calls.congr {param : CanConfigParam} {effects : List ConfigEffect}
    {baudSet modeSet baudSet' modeSet' : Prop} [Decidable baudSet] [Decidable modeSet]
    [Decidable baudSet'] [Decidable modeSet'] (h : Calls param effects baudSet modeSet)
    (hbaud : baudSet ↔ baudSet') (hmode : modeSet ↔ modeSet') :
    Calls param effects baudSet' modeSet' where
  baud := by
    intro c
    rw [h.baud]
    simp only [hbaud]
  mode := by
    intro c
    rw [h.mode]
    simp only [hmode]

theorem CanConfigRequest.not_dataMode (request : CanConfigRequest)
    (hchecked : canConfigError request.payload = none) (h : ¬ request.CarriedOut)
    {dataMode : UInt16} (hdata : dataMode = alongMode ∨ dataMode = normalMode) :
    ¬ (request.param.canDataMode = dataMode ∧ request.param.type = 0) := by
  rintro ⟨rfl, htype⟩
  exact h ⟨hchecked, htype, hdata⟩

/-- The record of a channel after a request that passes the checks. -/
def CanConfigRequest.recorded (request : CanConfigRequest) (config : CanDeviceConfig) :
    CanDeviceConfig :=
  { config with
    canId := request.param.chId
    valid := 1
    canType := request.param.canDataMode.toUInt8
    baudRate := if request.BaudStored then request.param.baudRate else config.baudRate }

-- Only the record of the request's channel is written, and not all of it.
theorem canConfigStep_record (configs : CanConfigs) (request : CanConfigRequest) :
    (canConfigStep configs request).2 =
      if canConfigError request.payload = none then
        configs.set request.param.chId (request.recorded (configs request.param.chId))
      else configs := by
  have hparam : CanConfigParam.ofBytes request.payload = request.param := rfl
  unfold canConfigStep handleCanConfig
  cases herror : canConfigError request.payload with
  | some text => rfl
  | none =>
      rw [if_pos rfl, hparam]
      dsimp only
      congr 1
      unfold CanConfigRequest.recorded
      by_cases hcarried : request.CarriedOut
      · have ⟨_, htype, hdata⟩ := hcarried
        by_cases halong : request.param.canDataMode = alongMode
        · have hne : ¬ request.param.canDataMode = normalMode := by
            rw [halong]
            decide
          have hstored : request.BaudStored ↔ request.param.BaudInRange ∧ request.baudRet = 0 := by
            unfold CanConfigRequest.BaudStored
            rw [and_iff_right hcarried, or_iff_left hne]
          rw [if_pos ⟨halong, htype⟩]
          show (setBaudAlong _ _ _).2.2 = _
          rw [setBaudAlong_config]
          simp only [hstored]
          split <;> rfl
        · have hnormal : request.param.canDataMode = normalMode := hdata.resolve_left halong
          have hstored : request.BaudStored ↔ request.param.BaudInRange := by
            unfold CanConfigRequest.BaudStored
            rw [and_iff_right hcarried, and_iff_left (Or.inr hnormal)]
          rw [if_neg (fun h => halong h.1), if_pos ⟨hnormal, htype⟩]
          show (setBaudNormal _ _ _).2.2 = _
          rw [setBaudNormal_config]
          simp only [hstored]
          split <;> rfl
      · -- neither data mode with type 0
        have hstored : ¬ request.BaudStored := fun h => hcarried h.1
        rw [if_neg (request.not_dataMode herror hcarried (Or.inl rfl)),
          if_neg (request.not_dataMode herror hcarried (Or.inr rfl)), if_neg hstored]

theorem CanConfigRequest.BaudStored.checked {request : CanConfigRequest}
    (h : request.BaudStored) : canConfigError request.payload = none := h.1.1

theorem canConfigStep_records (configs : CanConfigs) (request : CanConfigRequest) :
    Records request configs (canConfigStep configs request).2 := by
  rw [canConfigStep_record]
  by_cases hchecked : canConfigError request.payload = none
  · rw [if_pos hchecked]
    constructor
    · intro c
      by_cases hc : request.param.chId = c
      · subst hc
        rw [CanConfigs.set_self]
        simp only [CanConfigRequest.recorded, true_and]
      · rw [CanConfigs.set_other _ _ (Ne.symm hc), if_neg (fun h => hc h.1)]
    · intro c
      by_cases hc : c = request.param.chId
      · rw [hc, CanConfigs.set_self]
        rfl
      · rw [CanConfigs.set_other _ _ hc]
  · rw [if_neg hchecked]
    refine ⟨?_, fun _ => rfl⟩
    intro c
    rw [if_neg (fun h => hchecked h.2.checked)]

-- A request that does not get as far as the driver sends an event and nothing else.
theorem canConfigStep_event (configs : CanConfigs) {request : CanConfigRequest}
    (h : ¬ request.CarriedOut) : ∃ text, (canConfigStep configs request).1 = [.event text] := by
  have hparam : CanConfigParam.ofBytes request.payload = request.param := rfl
  unfold canConfigStep handleCanConfig
  rw [hparam]
  cases herror : canConfigError request.payload with
  | some text => exact ⟨text, rfl⟩
  | none =>
      dsimp only
      rw [if_neg (request.not_dataMode herror h (Or.inl rfl)),
        if_neg (request.not_dataMode herror h (Or.inr rfl))]
      exact ⟨_, rfl⟩

-- The successful driver calls of one request.
theorem canConfigStep_calls (configs : CanConfigs) (request : CanConfigRequest) :
    Calls request.param (canConfigStep configs request).1 request.BaudSet request.ModeSet := by
  have hparam : CanConfigParam.ofBytes request.payload = request.param := rfl
  by_cases hcarried : request.CarriedOut
  · have hset : (request.param.BaudInRange ∧ request.baudRet = 0) ↔ request.BaudSet :=
      (and_iff_right hcarried).symm
    have hmode : (request.param.ModeKnown ∧ request.modeRet = 0) ↔ request.ModeSet :=
      (and_iff_right hcarried).symm
    have ⟨hpass, htype, hdata⟩ := hcarried
    unfold canConfigStep handleCanConfig
    rw [hpass, hparam]
    dsimp only
    by_cases halong : request.param.canDataMode = alongMode
    · rw [if_pos ⟨halong, htype⟩]
      exact ((setBaudAlong_calls _ _ _).configureChannel (setModeAlong_calls _ _)).congr hset hmode
    · rw [if_neg (fun h => halong h.1), if_pos ⟨hdata.resolve_left halong, htype⟩]
      exact ((setBaudNormal_calls _ _ _).configureChannel
        (setModeNormal_calls _ _)).congr hset hmode
  · have hset : ¬ request.BaudSet := fun h => hcarried h.1
    have hmode : ¬ request.ModeSet := fun h => hcarried h.1
    obtain ⟨text, htext⟩ := canConfigStep_event configs hcarried
    rw [htext]
    constructor
    · intro c
      rw [if_neg (fun h => hset h.2)]
      rfl
    · intro c
      rw [if_neg (fun h => hmode h.2)]
      rfl

/-! ## When the record keeps up -/

section Last

variable {param : CanConfigParam} {effects : List ConfigEffect} {baudSet modeSet : Prop}
  [Decidable baudSet] [Decidable modeSet]

theorem Calls.lastBaud (h : Calls param effects baudSet modeSet) (past : List ConfigEffect)
    (c : UInt8) : lastBaud c (past ++ effects) =
      if param.chId = c ∧ baudSet then some param.baudRate else lastBaud c past := by
  rw [CanGateway.lastBaud, List.filterMap_append, h.baud]
  split
  · rw [List.getLast?_append]
    rfl
  · rw [List.append_nil, CanGateway.lastBaud]

theorem Calls.lastMode (h : Calls param effects baudSet modeSet) (past : List ConfigEffect)
    (c : UInt8) : lastMode c (past ++ effects) =
      if param.chId = c ∧ modeSet then some param.mode else lastMode c past := by
  rw [CanGateway.lastMode, List.filterMap_append, h.mode]
  split
  · rw [List.getLast?_append]
    rfl
  · rw [List.append_nil, CanGateway.lastMode]

end Last

/-- The request leaves the record in step with the driver: a baud rate that `NORMAL_MODE` records
    after a failed call is the recorded one, and so is a mode the driver accepts. -/
structure KeepsRecord (configs : CanConfigs) (request : CanConfigRequest) : Prop where
  baud : request.CarriedOut → request.param.canDataMode = normalMode →
    request.param.BaudInRange → request.baudRet ≠ 0 →
    request.param.baudRate = (configs request.param.chId).baudRate
  mode : request.CarriedOut → request.param.ModeKnown → request.modeRet = 0 →
    request.param.mode = (configs request.param.chId).mode

theorem CanConfigRequest.CarriedOut.chId_lt {request : CanConfigRequest} (h : request.CarriedOut) :
    request.param.chId.toNat < axicanMax := by
  by_contra hch
  have hpass := h.1
  unfold canConfigError at hpass
  dsimp only at hpass
  have hge : (CanConfigParam.ofBytes request.payload).chId.toNat ≥ axicanMax :=
    Nat.le_of_not_lt hch
  rw [if_pos hge] at hpass
  cases hpass

-- From a state in step with the driver, a request leads to one exactly if it keeps the record.
theorem canConfigStep_tracks {past : List ConfigEffect} {configs : CanConfigs}
    (hpast : ∀ ch : UInt8, ch.toNat < axicanMax → Tracks past configs ch)
    (request : CanConfigRequest) :
    (∀ ch : UInt8, ch.toNat < axicanMax → Tracks (past ++ (canConfigStep configs request).1)
      (canConfigStep configs request).2 ch) ↔ KeepsRecord configs request := by
  have hcalls := canConfigStep_calls configs request
  have hrecords := canConfigStep_records configs request
  constructor
  · intro h
    constructor
    · intro hcarried hnormal hrange hret
      have hbaud := (h _ hcarried.chId_lt).1
      rw [hcalls.lastBaud, if_neg (fun hset => hret hset.2.2.2), (hpast _ hcarried.chId_lt).1,
        hrecords.baud, if_pos ⟨rfl, hcarried, hrange, Or.inr hnormal⟩] at hbaud
      exact (Option.some.inj hbaud).symm
    · intro hcarried hknown hret
      have hmode := (h _ hcarried.chId_lt).2
      rw [hcalls.lastMode, if_pos ⟨rfl, hcarried, hknown, hret⟩, hrecords.mode] at hmode
      exact Option.some.inj hmode
  · intro h ch hch
    constructor
    · rw [hcalls.lastBaud, hrecords.baud]
      by_cases hset : request.param.chId = ch ∧ request.BaudSet
      · rw [if_pos hset, if_pos ⟨hset.1, hset.2.1, hset.2.2.1, Or.inl hset.2.2.2⟩]
      · rw [if_neg hset, (hpast ch hch).1]
        split
        next hstored =>
          -- recorded without a successful call
          obtain ⟨rfl, hcarried, hrange, hwhy⟩ := hstored
          have hret : request.baudRet ≠ 0 := fun h0 => hset ⟨rfl, hcarried, hrange, h0⟩
          rw [h.baud hcarried (hwhy.resolve_left hret) hrange hret]
        next => rfl
    · rw [hcalls.lastMode, hrecords.mode]
      split
      next hset =>
        obtain ⟨rfl, hcarried, hknown, hret⟩ := hset
        rw [h.mode hcarried hknown hret]
      next => exact (hpast ch hch).2

theorem configsAfter_concat (done : List CanConfigRequest) (request : CanConfigRequest) :
    configsAfter (done ++ [request]) = (canConfigStep (configsAfter done) request).2 := by
  rw [configsAfter, Transducer.run_append]
  rfl

theorem configPast_concat (done : List CanConfigRequest) (request : CanConfigRequest) :
    configPast (done ++ [request]) =
      configPast done ++ (canConfigStep (configsAfter done) request).1 := by
  rw [configPast, Transducer.run_append, List.flatten_append, ← List.append_assoc]
  show configPast done ++ List.flatten [_] = _
  rw [List.flatten_singleton]
  rfl

-- `main` leaves every channel in step with the driver.
theorem tracks_init (ch : UInt8) (hch : ch.toNat < axicanMax) :
    Tracks (configPast []) (configsAfter []) ch := by
  have heq : ch = UInt8.ofNat ch.toNat := UInt8.ofNat_toNat.symm
  change ch.toNat < 6 at hch
  have hcases : ch.toNat = 0 ∨ ch.toNat = 1 ∨ ch.toNat = 2 ∨ ch.toNat = 3 ∨ ch.toNat = 4 ∨
      ch.toNat = 5 := by omega
  rw [heq]
  rcases hcases with h | h | h | h | h | h <;> rw [h] <;> exact ⟨rfl, rfl⟩

/-- **When the record tracks the driver.**  Every state of a run reports the last values the driver
    accepted if and only if every request of the run keeps the record of the state it meets. -/
theorem can_config_tracks (requests : List CanConfigRequest) :
    (∀ done, done <+: requests → ReportsHardware (configPast done) (configsAfter done)) ↔
      ∀ done request, done ++ [request] <+: requests →
        KeepsRecord (configsAfter done) request := by
  simp only [reportsHardware_iff]
  constructor
  · intro h done request hpre
    have hdone := h done ((List.prefix_append done [request]).trans hpre)
    have hnext := h _ hpre
    rw [configPast_concat, configsAfter_concat] at hnext
    exact (canConfigStep_tracks hdone request).mp hnext
  · intro h done
    induction done using List.reverseRecOn with
    | nil =>
        intro _ ch hch
        exact tracks_init ch hch
    | append_singleton done request ih =>
        intro hpre
        have hdone := ih ((List.prefix_append done [request]).trans hpre)
        rw [configPast_concat, configsAfter_concat]
        exact (canConfigStep_tracks hdone request).mpr (h done request hpre)

-- One request for the normal mode, accepted by the driver: the query still reports loopback.
theorem can_config_loses_mode :
    ¬ ReportsHardware
      (configPast [⟨configRequest normalMode 500000 zmuavXcanModeNormal, 0, 0⟩])
      (configsAfter [⟨configRequest normalMode 500000 zmuavXcanModeNormal, 0, 0⟩]) := by
  rw [reportsHardware_iff]
  intro h
  have hmode := (h 0 (by decide)).2
  revert hmode
  decide +kernel

/-! ## What a refused request leaves behind -/

/-- The request is acknowledged with status 0. -/
def ReportsSuccess (effects : List ConfigEffect) : Prop := (0 : UInt32) ∈ statuses effects

namespace CanConfigRequest

variable (request : CanConfigRequest)

/-- The values are in range and, in `ALONG_MODE`, both driver calls succeed. -/
def Accepted : Prop :=
  request.CarriedOut ∧ request.param.BaudInRange ∧ request.param.ModeKnown ∧
    (request.param.canDataMode = alongMode → request.baudRet = 0 ∧ request.modeRet = 0)

/-- The fields written before the request is known to be good hold these values already: the
    channel, the valid flag, the low byte of the data mode, and the baud rate where it is recorded
    before the mode fails. -/
structure AlreadyRecorded (config : CanDeviceConfig) : Prop where
  canId : config.canId = request.param.chId
  valid : config.valid = 1
  canType : config.canType = request.param.canDataMode.toUInt8
  baudRate : request.BaudStored → config.baudRate = request.param.baudRate

end CanConfigRequest

theorem mem_statuses_singleton (b : Bool) :
    (0 : UInt32) ∈ [if b then (0 : UInt32) else 1] ↔ b = true := by
  cases b <;> decide

-- Which requests are acknowledged with success.
theorem reportsSuccess_iff (configs : CanConfigs) (request : CanConfigRequest) :
    ReportsSuccess (canConfigStep configs request).1 ↔ request.Accepted := by
  have hparam : CanConfigParam.ofBytes request.payload = request.param := rfl
  unfold ReportsSuccess
  by_cases hcarried : request.CarriedOut
  · have ⟨hpass, htype, hdata⟩ := hcarried
    unfold CanConfigRequest.Accepted
    rw [and_iff_right hcarried]
    by_cases halong : request.param.canDataMode = alongMode
    · obtain ⟨config, heffects⟩ :=
        handleCanConfig_along hpass halong htype request.baudRet request.modeRet configs
      have hbaud := setBaudAlong_reports request.param request.baudRet config
      have hmode := setModeAlong_reports request.param request.modeRet
      rw [canConfigStep, heffects, hparam, statuses_configureChannel hbaud hmode,
        mem_statuses_singleton, Bool.and_eq_true, hmode.success_iff, hbaud.success_iff]
      tauto
    · obtain ⟨config, heffects⟩ := handleCanConfig_normal hpass (hdata.resolve_left halong) htype
        request.baudRet request.modeRet configs
      have hbaud := setBaudNormal_reports request.param request.baudRet config
      have hmode := setModeNormal_reports request.param request.modeRet
      rw [canConfigStep, heffects, hparam, statuses_configureChannel hbaud hmode,
        mem_statuses_singleton, Bool.and_eq_true, hmode.success_iff, hbaud.success_iff]
      tauto
  · obtain ⟨text, htext⟩ := canConfigStep_event configs hcarried
    rw [htext]
    exact iff_of_false nofun fun h => hcarried h.1

theorem CanConfigRequest.recorded_eq_iff (request : CanConfigRequest) (config : CanDeviceConfig) :
    request.recorded config = config ↔ request.AlreadyRecorded config := by
  constructor
  · intro h
    refine ⟨?_, ?_, ?_, ?_⟩
    · exact (congrArg CanDeviceConfig.canId h).symm
    · exact (congrArg CanDeviceConfig.valid h).symm
    · exact (congrArg CanDeviceConfig.canType h).symm
    · intro hstored
      have hbaud := congrArg CanDeviceConfig.baudRate h
      simp only [recorded] at hbaud
      rw [if_pos hstored] at hbaud
      exact hbaud.symm
  · intro h
    have hbaud : (if request.BaudStored then request.param.baudRate else config.baudRate) =
        config.baudRate := by
      split
      next hstored => exact (h.baudRate hstored).symm
      next => rfl
    rw [recorded, hbaud, ← h.canId, ← h.canType, ← h.valid]

theorem CanConfigs.set_eq_iff (configs : CanConfigs) (ch : UInt8) (config : CanDeviceConfig) :
    configs.set ch config = configs ↔ config = configs ch := by
  constructor
  · intro h
    have hch := congrFun h ch
    rw [set_self] at hch
    exact hch
  · intro h
    funext c
    by_cases hc : c = ch
    · rw [hc, set_self, h]
    · rw [set_other _ _ hc]

/-- **When a refused request changes nothing.**  A request that is not acknowledged with success
    leaves every record alone exactly when it fails one of the first three checks or the record it
    writes before its other checks holds these values already. -/
theorem refused_unchanged_iff (configs : CanConfigs) (request : CanConfigRequest) :
    (¬ ReportsSuccess (canConfigStep configs request).1 →
        (canConfigStep configs request).2 = configs) ↔
      request.Accepted ∨ canConfigError request.payload ≠ none ∨
        request.AlreadyRecorded (configs request.param.chId) := by
  rw [reportsSuccess_iff, canConfigStep_record]
  by_cases hchecked : canConfigError request.payload = none
  · rw [if_pos hchecked, CanConfigs.set_eq_iff, request.recorded_eq_iff]
    tauto
  · rw [if_neg hchecked]
    exact iff_of_true (fun _ => rfl) (Or.inr (Or.inl hchecked))

-- A request with data mode 7 is not carried out, and the record says so nowhere.
theorem refused_changes_type :
    let request : CanConfigRequest := ⟨configRequest 7 500000 zmuavXcanModeNormal, 0, 0⟩
    ¬ ReportsSuccess (canConfigStep initialConfig request).1 ∧
      ((canConfigStep initialConfig request).2 0).canType = 7 ∧ (initialConfig 0).canType = 2 := by
  intro request
  refine ⟨?_, by decide +kernel, rfl⟩
  rw [reportsSuccess_iff]
  intro haccepted
  have hdata := haccepted.1.2.2
  revert hdata
  decide +kernel

end CanGateway
