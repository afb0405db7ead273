import CanGateway.DeviceConfig

/-!
# The CAN configuration command

`handle_can_config` sets the baud rate and the mode of a channel through the driver and acknowledges
the request.  Its two branches, one per data mode, are near copies of each other; both are
translated as they stand.  The results of the driver calls are parameters.
-/

namespace CanGateway

/-! ## The request -/

/-- `CanConfigParam`: a configuration request, and a row of the information reply. -/
structure CanConfigParam where
  head : UInt32
  direction : UInt8
  type : UInt8
  length : UInt8
  chId : UInt8
  totalCount : UInt32
  chCount : UInt32
  baudRate : UInt32
  mode : UInt8
  autoSend : UInt8
  ier : UInt16
  packetInterval : UInt32
  canDataMode : UInt16
  timestamp : UInt64
  xorChecksum : UInt32
  deriving DecidableEq, Repr

/-- `sizeof(CanConfigParam)`. -/
def sizeofCanConfigParam : Nat := 48

namespace CanConfigParam

def ofBytes (bs : List UInt8) : CanConfigParam where
  head := load32 bs 0
  direction := load8 bs 4
  type := load8 bs 5
  length := load8 bs 6
  chId := load8 bs 7
  totalCount := load32 bs 8
  chCount := load32 bs 12
  baudRate := load32 bs 16
  mode := load8 bs 20
  autoSend := load8 bs 21
  ier := load16 bs 22
  packetInterval := load32 bs 24
  canDataMode := load16 bs 28
  timestamp := load64 bs 36
  xorChecksum := load32 bs 44

/-- The record without its checksum; the six reserved bytes are zero. -/
def bodyBytes (param : CanConfigParam) : List UInt8 :=
  store32 param.head ++ [param.direction, param.type, param.length, param.chId] ++
    store32 param.totalCount ++ store32 param.chCount ++ store32 param.baudRate ++
    [param.mode, param.autoSend] ++ store16 param.ier ++ store32 param.packetInterval ++
    store16 param.canDataMode ++ List.replicate 6 0 ++ store64 param.timestamp

def toBytes (param : CanConfigParam) : List UInt8 :=
  param.bodyBytes ++ store32 param.xorChecksum

/-- The record with the checksum of its other bytes. -/
def sealed (param : CanConfigParam) : CanConfigParam :=
  { param with xorChecksum := calculateXorChecksum param.toBytes (sizeofCanConfigParam - 4) }

/-- The baud rates the handler passes on to the driver. -/
def BaudInRange (param : CanConfigParam) : Prop := param.baudRate > 0 ∧ param.baudRate ≤ 1000000

instance (param : CanConfigParam) : Decidable param.BaudInRange :=
  inferInstanceAs (Decidable (_ ∧ _))

/-- The modes the handler passes on to the driver. -/
def ModeKnown (param : CanConfigParam) : Prop :=
  param.mode = zmuavXcanModeNormal ∨ param.mode = zmuavXcanModeLoopback

instance (param : CanConfigParam) : Decidable param.ModeKnown :=
  inferInstanceAs (Decidable (_ ∨ _))

end CanConfigParam

/-! ## The handler -/

/-- What the handler does outside `can_configs`: events, driver calls with their results, and the
    acknowledgement. -/
inductive ConfigEffect where
  | event (text : String)
  | setBaud (canId : UInt8) (baud : UInt32) (ret : Int)
  | setMode (canId : UInt8) (mode : UInt8) (ret : Int)
  | response (canId : UInt8) (status : UInt32)
  deriving DecidableEq, Repr

/-- The first check of a request that fails, as the event it sends. -/
def canConfigError (payload : List UInt8) : Option String :=
  let param := CanConfigParam.ofBytes payload
  if param.chId.toNat ≥ axicanMax then some "Invalid CAN ID"
  else if param.head ≠ pcStatusHead then some "DATA HEAND ERR"
  else if param.xorChecksum ≠ calculateXorChecksum payload (sizeofCanConfigParam - 4) then
    some "xor_checksum ERR"
  else none

section Branches

variable (param : CanConfigParam) (ret : Int)

/-- The baud rate in `ALONG_MODE`: the effects, `baud_success` and the channel's record. -/
def setBaudAlong (config : CanDeviceConfig) : List ConfigEffect × Bool × CanDeviceConfig :=
  if param.BaudInRange then
    if ret ≠ 0 then
      ([.setBaud param.chId param.baudRate ret, .event "CAN set baud rate failed"], false, config)
    else
      ([.setBaud param.chId param.baudRate ret], true, { config with baudRate := param.baudRate })
  else ([.event "Invalid baud rate (0~1000000)"], false, config)

/-- The baud rate in `NORMAL_MODE`, where a failed call is not told from a successful one. -/
def setBaudNormal (config : CanDeviceConfig) : List ConfigEffect × Bool × CanDeviceConfig :=
  if param.BaudInRange then
    (.setBaud param.chId param.baudRate ret ::
        if ret ≠ 0 then [.event "CAN set baud rate failed"] else [],
      true, { config with baudRate := param.baudRate })
  else ([.event "Invalid baud rate (0~1000000)"], false, config)

/-- The mode in `ALONG_MODE`: the effects and `mode_success`. -/
def setModeAlong : List ConfigEffect × Bool :=
  if param.mode = zmuavXcanModeNormal then
    if ret ≠ 0 then
      ([.setMode param.chId zmuavXcanModeNormal ret, .event "CAN set mode failed"], false)
    else ([.setMode param.chId zmuavXcanModeNormal ret], true)
  else if param.mode = zmuavXcanModeLoopback then
    -- no `break`: the case runs on into `default`
    if ret ≠ 0 then
      ([.setMode param.chId zmuavXcanModeLoopback ret, .event "CAN set mode failed",
        .event "RECEIVE DATA MODE OTHER"], false)
    else
      ([.setMode param.chId zmuavXcanModeLoopback ret, .event "RECEIVE DATA MODE OTHER"], true)
  else ([.event "RECEIVE DATA MODE OTHER"], false)

/-- The mode in `NORMAL_MODE`: `mode_success` is set after a failed call as well. -/
def setModeNormal : List ConfigEffect × Bool :=
  if param.mode = zmuavXcanModeNormal then
    (.setMode param.chId zmuavXcanModeNormal ret ::
      if ret ≠ 0 then [.event "CAN set mode failed"] else [], true)
  else if param.mode = zmuavXcanModeLoopback then
    -- no `break` here either
    (.setMode param.chId zmuavXcanModeLoopback ret ::
      ((if ret ≠ 0 then [.event "CAN set mode failed"] else []) ++
        [.event "RECEIVE DATA MODE OTHER"]), true)
  else ([.event "RECEIVE DATA MODE OTHER"], false)

end Branches

/-- The end of either branch: `status` and `send_can_config_response`. -/
def configureChannel (param : CanConfigParam) (baud : List ConfigEffect × Bool × CanDeviceConfig)
    (mode : List ConfigEffect × Bool) : List ConfigEffect × CanDeviceConfig :=
  (baud.1 ++ mode.1 ++ [.response param.chId (if mode.2 && baud.2.1 then 0 else 1)], baud.2.2)

/-- `handle_can_config`, with what `axican_set_baud` and `axican_set_mode` return if called. -/
def handleCanConfig (payload : List UInt8) (baudRet modeRet : Int) (configs : CanConfigs) :
    List ConfigEffect × CanConfigs :=
  match canConfigError payload with
  | some text => ([.event text], configs)
  | none =>
      let param := CanConfigParam.ofBytes payload
      let config :=
        { configs param.chId with
          canId := param.chId
          valid := 1
          canType := param.canDataMode.toUInt8 }
      let r :=
        if param.canDataMode = alongMode ∧ param.type = 0 then
          configureChannel param (setBaudAlong param baudRet config) (setModeAlong param modeRet)
        else if param.canDataMode = normalMode ∧ param.type = 0 then
          configureChannel param (setBaudNormal param baudRet config) (setModeNormal param modeRet)
        else
          -- either data mode with another type runs on into `default`
          ([.event "Unsupported CAN data mode"], config)
      (r.1, configs.set param.chId r.2)

/-! ## The acknowledgement -/

@[simp] def ConfigEffect.isEvent : ConfigEffect → Bool
  | event _ => true
  | _ => false

@[simp] def ConfigEffect.status? : ConfigEffect → Option UInt32
  | response _ status => some status
  | _ => none

/-- The statuses acknowledged, in order. -/
def statuses (effects : List ConfigEffect) : List UInt32 := effects.filterMap ConfigEffect.status?

/-- Everything the request asked for was done. -/
def Succeeded (param : CanConfigParam) (baudRet modeRet : Int) : Prop :=
  param.BaudInRange ∧ baudRet = 0 ∧ param.ModeKnown ∧ modeRet = 0

/-- One acknowledgement, which reports success exactly on success, and an error event otherwise. -/
def Truthful (param : CanConfigParam) (baudRet modeRet : Int) (effects : List ConfigEffect) :
    Prop :=
  ∃ status, statuses effects = [status] ∧ (status = 0 ↔ Succeeded param baudRet modeRet) ∧
    (effects.any ConfigEffect.isEvent ↔ status ≠ 0)

section Effects

variable (param : CanConfigParam) (ret : Int) (config : CanDeviceConfig)

-- The two data modes make the same calls and send the same events; they differ in their flags and
-- in what they record.
theorem setBaudNormal_effects :
    (setBaudNormal param ret config).1 = (setBaudAlong param ret config).1 := by
  unfold setBaudNormal setBaudAlong
  by_cases hrange : param.BaudInRange
  · by_cases hret : ret = 0
    · simp [hrange, hret]
    · simp [hrange, hret]
  · simp [hrange]

theorem setModeNormal_effects : (setModeNormal param ret).1 = (setModeAlong param ret).1 := by
  unfold setModeNormal setModeAlong
  split
  · split <;> rfl
  split
  · split <;> rfl
  · rfl

end Effects

/-- One part of a branch: it acknowledges nothing, its success flag stands for `done`, and it sends
    an event unless `quiet`. -/
structure Reports (effects : List ConfigEffect) (success : Bool) (done quiet : Prop) : Prop where
  statuses_eq : statuses effects = []
  success_iff : success = true ↔ done
  event_iff : effects.any ConfigEffect.isEvent = true ↔ ¬ quiet

section Parts

variable (param : CanConfigParam) (ret : Int) (config : CanDeviceConfig)

theorem setBaudAlong_reports :
    Reports (setBaudAlong param ret config).1 (setBaudAlong param ret config).2.1
      (param.BaudInRange ∧ ret = 0) (param.BaudInRange ∧ ret = 0) := by
  unfold setBaudAlong
  by_cases hrange : param.BaudInRange
  · by_cases hret : ret = 0
    · constructor <;> simp [hrange, hret, statuses]
    · constructor <;> simp [hrange, hret, statuses]
  · constructor <;> simp [hrange, statuses]

-- The flag ignores the driver's result, the event does not.
theorem setBaudNormal_reports :
    Reports (setBaudNormal param ret config).1 (setBaudNormal param ret config).2.1
      param.BaudInRange (param.BaudInRange ∧ ret = 0) := by
  have halong := setBaudAlong_reports param ret config
  rw [← setBaudNormal_effects] at halong
  refine ⟨halong.statuses_eq, ?_, halong.event_iff⟩
  unfold setBaudNormal
  by_cases hrange : param.BaudInRange
  · simp [hrange]
  · simp [hrange]

-- The flag is right, but the loopback case always sends the event of `default`.
theorem setModeAlong_reports :
    Reports (setModeAlong param ret).1 (setModeAlong param ret).2 (param.ModeKnown ∧ ret = 0)
      (param.mode = zmuavXcanModeNormal ∧ ret = 0) := by
  unfold setModeAlong CanConfigParam.ModeKnown
  by_cases hnormal : param.mode = zmuavXcanModeNormal
  · by_cases hret : ret = 0
    · constructor <;> simp [hnormal, hret, statuses]
    · constructor <;> simp [hnormal, hret, statuses]
  by_cases hloop : param.mode = zmuavXcanModeLoopback
  · have hne : zmuavXcanModeLoopback ≠ zmuavXcanModeNormal := by decide
    by_cases hret : ret = 0
    · constructor <;> simp [hloop, hne, hret, statuses]
    · constructor <;> simp [hloop, hne, hret, statuses]
  · constructor <;>
      simp [hnormal, hloop, statuses]

theorem setModeNormal_reports :
    Reports (setModeNormal param ret).1 (setModeNormal param ret).2 param.ModeKnown
      (param.mode = zmuavXcanModeNormal ∧ ret = 0) := by
  have halong := setModeAlong_reports param ret
  rw [← setModeNormal_effects] at halong
  refine ⟨halong.statuses_eq, ?_, halong.event_iff⟩
  unfold setModeNormal CanConfigParam.ModeKnown
  split
  next hnormal => simp [hnormal]
  next hnormal =>
    split
    next hloop => simp [hloop]
    next hloop => simp [hnormal, hloop]

end Parts

-- A branch acknowledges once, with success exactly if both flags are set.
theorem statuses_configureChannel {param : CanConfigParam}
    {baud : List ConfigEffect × Bool × CanDeviceConfig} {mode : List ConfigEffect × Bool}
    {baudDone baudQuiet modeDone modeQuiet : Prop}
    (hbaud : Reports baud.1 baud.2.1 baudDone baudQuiet)
    (hmode : Reports mode.1 mode.2 modeDone modeQuiet) :
    statuses (configureChannel param baud mode).1 = [if mode.2 && baud.2.1 then 0 else 1] := by
  have hb := hbaud.statuses_eq
  have hm := hmode.statuses_eq
  unfold statuses at hb hm ⊢
  rw [configureChannel, List.filterMap_append, List.filterMap_append, hb, hm]
  rfl

theorem status_eq_iff (a b : Bool) :
    [if a then (0 : UInt32) else 1] = [if b then 0 else 1] ↔ (a = true ↔ b = true) := by
  cases a <;> cases b <;> decide

-- When a branch tells the truth, in terms of its two parts.
theorem truthful_configureChannel {param : CanConfigParam} {baudRet modeRet : Int}
    {baud : List ConfigEffect × Bool × CanDeviceConfig} {mode : List ConfigEffect × Bool}
    {baudDone baudQuiet modeDone modeQuiet : Prop}
    (hbaud : Reports baud.1 baud.2.1 baudDone baudQuiet)
    (hmode : Reports mode.1 mode.2 modeDone modeQuiet) :
    Truthful param baudRet modeRet (configureChannel param baud mode).1 ↔
      ((modeDone ∧ baudDone) ↔ Succeeded param baudRet modeRet) ∧
        ((baudQuiet ∧ modeQuiet) ↔ (modeDone ∧ baudDone)) := by
  have hstatus : statuses (configureChannel param baud mode).1 =
      [if mode.2 && baud.2.1 then 0 else 1] := statuses_configureChannel hbaud hmode
  have hevent : (configureChannel param baud mode).1.any ConfigEffect.isEvent = true ↔
      ¬ (baudQuiet ∧ modeQuiet) := by
    rw [configureChannel, List.any_append, List.any_append, Bool.or_eq_true, Bool.or_eq_true,
      hbaud.event_iff, hmode.event_iff, not_and_or]
    simp
  have hdone : (mode.2 && baud.2.1) = true ↔ modeDone ∧ baudDone := by
    rw [Bool.and_eq_true, hmode.success_iff, hbaud.success_iff]
  unfold Truthful
  rw [hstatus, hevent, ← hdone]
  cases mode.2 && baud.2.1 with
  | true =>
      constructor
      · rintro ⟨status, hs, hzero, hquiet⟩
        obtain rfl : 0 = status := by simpa using hs
        exact ⟨⟨fun _ => hzero.mp rfl, fun _ => rfl⟩, ⟨fun _ => rfl, fun _ => by
          by_contra hnot
          exact hquiet.mp hnot rfl⟩⟩
      · rintro ⟨hzero, hquiet⟩
        refine ⟨0, rfl, ⟨fun _ => hzero.mp rfl, fun _ => rfl⟩, ?_⟩
        exact ⟨fun hnot => absurd (hquiet.mpr rfl) hnot, fun h => absurd rfl h⟩
  | false =>
      have hne : (1 : UInt32) ≠ 0 := by decide
      constructor
      · rintro ⟨status, hs, hzero, hquiet⟩
        obtain rfl : 1 = status := by simpa using hs
        exact ⟨⟨fun h => absurd h Bool.false_ne_true, fun h => absurd (hzero.mpr h) hne⟩,
          ⟨fun h => absurd h (hquiet.mpr hne), fun h => absurd h Bool.false_ne_true⟩⟩
      · rintro ⟨hzero, hquiet⟩
        refine ⟨1, rfl, ⟨fun h => absurd h hne, ?_⟩, ?_⟩
        · exact fun h => absurd (hzero.mpr h) Bool.false_ne_true
        · exact ⟨fun _ => hne, fun _ hq => absurd (hquiet.mp hq) Bool.false_ne_true⟩

-- When the parts of the `ALONG_MODE` branch make up a truthful acknowledgement.
theorem along_condition (range baudOk normal loopback modeOk : Prop)
    (hne : loopback → ¬ normal) :
    (((((normal ∨ loopback) ∧ modeOk) ∧ (range ∧ baudOk)) ↔
        (range ∧ baudOk ∧ (normal ∨ loopback) ∧ modeOk)) ∧
      (((range ∧ baudOk) ∧ (normal ∧ modeOk)) ↔
        (((normal ∨ loopback) ∧ modeOk) ∧ (range ∧ baudOk)))) ↔
      ¬ (range ∧ baudOk ∧ loopback ∧ modeOk) := by
  by_cases hloop : loopback
  · have hnormal := hne hloop
    simp only [hloop, hnormal]
    tauto
  · simp only [hloop]
    tauto

-- The same for the `NORMAL_MODE` branch, whose flags ignore the driver.
theorem normal_condition (range baudOk normal loopback modeOk : Prop)
    (hne : loopback → ¬ normal) :
    ((((normal ∨ loopback) ∧ range) ↔ (range ∧ baudOk ∧ (normal ∨ loopback) ∧ modeOk)) ∧
      (((range ∧ baudOk) ∧ (normal ∧ modeOk)) ↔ ((normal ∨ loopback) ∧ range))) ↔
      (¬ range ∨ ¬ (normal ∨ loopback) ∨ (normal ∧ baudOk ∧ modeOk)) := by
  by_cases hloop : loopback
  · have hnormal := hne hloop
    simp only [hloop, hnormal]
    tauto
  · simp only [hloop]
    tauto

theorem verdict_condition (range known baudOk modeOk : Prop) :
    (((known ∧ modeOk) ∧ (range ∧ baudOk)) ↔ (known ∧ range)) ↔
      ¬ (range ∧ known ∧ (¬ baudOk ∨ ¬ modeOk)) := by
  tauto

-- The effects of a request that passes the checks, with data mode `ALONG_MODE` and type 0.
theorem handleCanConfig_along {payload : List UInt8} (hpass : canConfigError payload = none)
    (hmode : (CanConfigParam.ofBytes payload).canDataMode = alongMode)
    (htype : (CanConfigParam.ofBytes payload).type = 0) (baudRet modeRet : Int)
    (configs : CanConfigs) : ∃ config,
      (handleCanConfig payload baudRet modeRet configs).1 =
        (configureChannel (.ofBytes payload) (setBaudAlong (.ofBytes payload) baudRet config)
          (setModeAlong (.ofBytes payload) modeRet)).1 := by
  simp only [handleCanConfig, hpass, hmode, htype, and_self, if_true]
  exact ⟨_, rfl⟩

theorem handleCanConfig_normal {payload : List UInt8} (hpass : canConfigError payload = none)
    (hmode : (CanConfigParam.ofBytes payload).canDataMode = normalMode)
    (htype : (CanConfigParam.ofBytes payload).type = 0) (baudRet modeRet : Int)
    (configs : CanConfigs) : ∃ config,
      (handleCanConfig payload baudRet modeRet configs).1 =
        (configureChannel (.ofBytes payload) (setBaudNormal (.ofBytes payload) baudRet config)
          (setModeNormal (.ofBytes payload) modeRet)).1 := by
  have hne : normalMode ≠ alongMode := by decide
  simp only [handleCanConfig, hpass, hmode, htype, and_self, if_true, hne, false_and, if_false]
  exact ⟨_, rfl⟩

/-- **When an acknowledgement tells the truth.**  In `ALONG_MODE` unless the loopback mode was set
    along with the baud rate; in `NORMAL_MODE` if the request was refused for its values or asked
    for the normal mode and succeeded.  The two data modes disagree whenever a driver call fails. -/
theorem can_config_answers (payload : List UInt8) (baudRet modeRet : Int) (configs : CanConfigs)
    (hpass : canConfigError payload = none) (htype : (CanConfigParam.ofBytes payload).type = 0) :
    let param := CanConfigParam.ofBytes payload
    let effects := (handleCanConfig payload baudRet modeRet configs).1
    (param.canDataMode = alongMode → (Truthful param baudRet modeRet effects ↔
      ¬ (param.BaudInRange ∧ baudRet = 0 ∧ param.mode = zmuavXcanModeLoopback ∧ modeRet = 0))) ∧
    (param.canDataMode = normalMode → (Truthful param baudRet modeRet effects ↔
      ¬ param.BaudInRange ∨ ¬ param.ModeKnown ∨
        (param.mode = zmuavXcanModeNormal ∧ baudRet = 0 ∧ modeRet = 0))) ∧
    ∀ (payload' : List UInt8) (configs' : CanConfigs), canConfigError payload' = none →
      (CanConfigParam.ofBytes payload').type = 0 →
      (CanConfigParam.ofBytes payload').baudRate = param.baudRate →
      (CanConfigParam.ofBytes payload').mode = param.mode →
      param.canDataMode = alongMode → (CanConfigParam.ofBytes payload').canDataMode = normalMode →
      (statuses effects = statuses (handleCanConfig payload' baudRet modeRet configs').1 ↔
        ¬ (param.BaudInRange ∧ param.ModeKnown ∧ (baudRet ≠ 0 ∨ modeRet ≠ 0))) := by
  intro param effects
  have hmodes : param.mode = zmuavXcanModeLoopback → ¬ param.mode = zmuavXcanModeNormal := by
    intro hloop hnormal
    exact absurd (hloop.symm.trans hnormal) (by decide)
  refine ⟨?_, ?_, ?_⟩
  · intro hmode
    obtain ⟨config, heffects⟩ := handleCanConfig_along hpass hmode htype baudRet modeRet configs
    show Truthful param baudRet modeRet (handleCanConfig payload baudRet modeRet configs).1 ↔ _
    rw [heffects, truthful_configureChannel (setBaudAlong_reports param baudRet config)
      (setModeAlong_reports param modeRet)]
    exact along_condition _ _ _ _ _ hmodes
  · intro hmode
    obtain ⟨config, heffects⟩ := handleCanConfig_normal hpass hmode htype baudRet modeRet configs
    show Truthful param baudRet modeRet (handleCanConfig payload baudRet modeRet configs).1 ↔ _
    rw [heffects, truthful_configureChannel (setBaudNormal_reports param baudRet config)
      (setModeNormal_reports param modeRet)]
    exact normal_condition _ _ _ _ _ hmodes
  · intro payload' configs' hpass' htype' hbaud' hmode' hdata hdata'
    obtain ⟨config, heffects⟩ := handleCanConfig_along hpass hdata htype baudRet modeRet configs
    obtain ⟨config', heffects'⟩ :=
      handleCanConfig_normal hpass' hdata' htype' baudRet modeRet configs'
    show statuses (handleCanConfig payload baudRet modeRet configs).1 = _ ↔ _
    have halongBaud := setBaudAlong_reports param baudRet config
    have halongMode := setModeAlong_reports param modeRet
    have hnormalBaud := setBaudNormal_reports (CanConfigParam.ofBytes payload') baudRet config'
    have hnormalMode := setModeNormal_reports (CanConfigParam.ofBytes payload') modeRet
    rw [heffects, heffects', statuses_configureChannel halongBaud halongMode,
      statuses_configureChannel hnormalBaud hnormalMode, status_eq_iff, Bool.and_eq_true,
      Bool.and_eq_true, halongMode.success_iff, halongBaud.success_iff, hnormalMode.success_iff,
      hnormalBaud.success_iff]
    -- the verdict depends on the baud rate and the mode alone
    have hrange : (CanConfigParam.ofBytes payload').BaudInRange ↔ param.BaudInRange := by
      unfold CanConfigParam.BaudInRange
      rw [hbaud']
    have hknown : (CanConfigParam.ofBytes payload').ModeKnown ↔ param.ModeKnown := by
      unfold CanConfigParam.ModeKnown
      rw [hmode']
    rw [hrange, hknown]
    exact verdict_condition _ _ _ _

/-- A request of type 0 for channel 0. -/
def configRequest (canDataMode : UInt16) (baudRate : UInt32) (mode : UInt8) : List UInt8 :=
  let param : CanConfigParam :=
    { head := pcStatusHead, direction := 0, type := 0, length := 48, chId := 0, totalCount := 0
      chCount := 0, baudRate := baudRate, mode := mode, autoSend := 0, ier := 0
      packetInterval := 0, canDataMode := canDataMode, timestamp := 0, xorChecksum := 0 }
  param.sealed.toBytes

-- Both driver calls succeed, in the normal mode.
theorem can_config_answers_success :
    Truthful (.ofBytes (configRequest normalMode 500000 zmuavXcanModeNormal)) 0 0
      (handleCanConfig (configRequest normalMode 500000 zmuavXcanModeNormal) 0 0
        initialConfig).1 := by
  have hpass : canConfigError (configRequest normalMode 500000 zmuavXcanModeNormal) = none := by
    decide +kernel
  have hanswers := can_config_answers _ 0 0 initialConfig hpass (by decide +kernel)
  exact (hanswers.2.1 (by decide +kernel)).mpr (Or.inr (Or.inr ⟨by decide +kernel, rfl, rfl⟩))

-- `axican_set_baud` fails, and the request is acknowledged as a success.
theorem can_config_acknowledges_failure :
    let payload := configRequest normalMode 500000 zmuavXcanModeNormal
    canConfigError payload = none ∧ (CanConfigParam.ofBytes payload).type = 0 ∧
      (CanConfigParam.ofBytes payload).canDataMode = normalMode ∧
      ¬ Truthful (.ofBytes payload) (-1) 0 (handleCanConfig payload (-1) 0 initialConfig).1 := by
  intro payload
  refine ⟨by decide +kernel, by decide +kernel, by decide +kernel, ?_⟩
  rintro ⟨status, hstatus, hzero, _⟩
  have hsent : statuses (handleCanConfig payload (-1) 0 initialConfig).1 = [0] := by decide +kernel
  obtain rfl : 0 = status := by
    rw [hsent] at hstatus
    exact (List.cons.inj hstatus).1
  have hfailed := (hzero.mp rfl).2.1
  exact absurd hfailed (by decide)

end CanGateway
