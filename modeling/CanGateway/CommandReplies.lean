import CanGateway.CommandServer
import CanGateway.RecordChecksum

/-!
# What the replies say

Every reply answers one command and carries a checksum that leaves its last word out; that of a
start/stop command tells whether the command was carried out, and the last one that was decides
whether a channel is open.
-/

open ByteMemory

namespace CanGateway

/-! ## What a reply says -/

/-- The command word of a command. -/
def CmdType.word : CmdType → UInt16
  | canBufQuery => 0x0100
  | canConfig => 0x0101
  | canInfoQuery => 0x0102
  | canStartStop => 0x0103
  | canBroadcastConfig => 0x0104
  | versionQuery => 0xFF05

/-- The replies, with or without a client to take them. -/
def ServerOutput.reply? : ServerOutput → Option (CmdType × CanSendResponse)
  | .sent command response | .unsent command response => some (command, response)
  | _ => none

def replies (outputs : List ServerOutput) : List (CmdType × CanSendResponse) :=
  outputs.filterMap ServerOutput.reply?

namespace CanSendResponse

/-- The words the checksum word is to balance: all but the last. -/
def summedWords (response : CanSendResponse) : Nat := response.data.length / 4 + 3

/-- What every reply to `command` looks like. -/
structure Formed (response : CanSendResponse) (command : CmdType) : Prop where
  head : response.canDataReHead = reverse4bytes ackSyncWord
  commond : response.canDataReCommond = reverse2bytes command.word
  length : response.canDataReLength =
    reverse4bytes (if command = .versionQuery then 4 else UInt32.ofNat response.toBytes.length)
  size : response.data.length = if command = .canInfoQuery then 288 else 4
  checksum : xorSum response.toBytes response.summedWords = 0

@[simp] theorem length_headBytes (response : CanSendResponse) : response.headBytes.length = 12 := by
  simp [headBytes]

theorem length_toBytes (response : CanSendResponse) :
    response.toBytes.length = 16 + response.data.length := by
  rw [toBytes, List.length_append, List.length_append, length_headBytes, length_store32]
  omega

-- The checksum word replaced.
theorem toBytes_checksum (response : CanSendResponse) (sum : UInt32) :
    { response with canDataReChecksum := sum }.toBytes = setWord response.toBytes 3 sum := by
  have htake : response.toBytes.take 12 = response.headBytes :=
    List.take_left' response.length_headBytes
  have hdrop : response.toBytes.drop 16 = response.data := by
    rw [toBytes, ← List.append_assoc]
    exact List.drop_left' (by rw [List.length_append, length_headBytes, length_store32])
  rw [setWord, write, length_store32, htake, hdrop]
  rfl

theorem word_checksum (response : CanSendResponse) :
    word response.toBytes 3 = response.canDataReChecksum :=
  load32_store32 response.headBytes response.data response.canDataReChecksum 12
    response.length_headBytes

-- The status, the version and the rows are behind the checksum.
theorem xorSum_data (response : CanSendResponse) (data : List UInt8) :
    xorSum { response with data := data }.toBytes 4 = xorSum response.toBytes 4 := by
  have hfront : ∀ data : List UInt8, xorSum { response with data := data }.toBytes 4 =
      xorSum (response.headBytes ++ store32 response.canDataReChecksum) 4 := by
    intro data
    rw [toBytes, ← List.append_assoc]
    apply xorSum_append
    rw [List.length_append, length_headBytes, length_store32]
  exact (hfront data).trans (hfront response.data).symm

theorem xorSum_summed {response : CanSendResponse} {n : Nat} (hn : 4 ≤ n)
    (hlen : n * 4 ≤ response.toBytes.length) (hzero : response.canDataReChecksum = 0) :
    xorSum (response.summed (n * 4)).toBytes n = 0 := by
  rw [summed, toBytes_checksum, xorSum_setWord _ _ hlen (by omega), word_checksum, hzero,
    calculateXorChecksum_eq _ _ hlen, UInt32.zero_xor, UInt32.xor_self]

-- The shapes the five functions build.
theorem formed_status (command : CmdType) (count : UInt16) (status : UInt32)
    (hcommand : command ≠ .versionQuery) (hinfo : command ≠ .canInfoQuery) :
    ((canSendResponse 20 count command.word (store32 status)).summed (20 - 4)).Formed command := by
  have hsize : (store32 status).length = 4 := length_store32 status
  constructor
  · rfl
  · rfl
  · rw [if_neg hcommand, length_toBytes]
    show _ = reverse4bytes (UInt32.ofNat (16 + (store32 status).length))
    rw [hsize]
    rfl
  · rw [if_neg hinfo]
    exact hsize
  · show xorSum _ ((store32 status).length / 4 + 3) = 0
    have hsum := xorSum_summed (Nat.le_refl 4)
      (show 4 * 4 ≤ (canSendResponse 20 count command.word (store32 status)).toBytes.length by
        rw [length_toBytes]
        exact Nat.le_add_right _ _) rfl
    rw [hsize]
    exact hsum

-- Filling in the status late makes no difference.
theorem Formed.status {response : CanSendResponse} {command : CmdType} (h : response.Formed command)
    (hinfo : command ≠ .canInfoQuery) (status : UInt32) :
    { response with data := store32 status }.Formed command := by
  have hsize : response.data.length = 4 := by
    rw [h.size, if_neg hinfo]
  have hchecksum := h.checksum
  rw [summedWords, hsize] at hchecksum
  constructor
  · exact h.head
  · exact h.commond
  · rw [length_toBytes, length_store32, ← hsize, ← length_toBytes]
    exact h.length
  · rw [if_neg hinfo]
    exact length_store32 status
  · show xorSum _ ((store32 status).length / 4 + 3) = 0
    rw [length_store32]
    exact (xorSum_data response (store32 status)).trans hchecksum

theorem formed_info (count : UInt16) {rows : List UInt8} (hrows : rows.length = 288) :
    ((canSendResponse (UInt32.ofNat (16 + axicanMax * sizeofCanConfigParam)) count 0x0102
      rows).summed (16 + axicanMax * sizeofCanConfigParam - 4)).Formed .canInfoQuery := by
  constructor
  · rfl
  · rfl
  · rw [if_neg (by decide), length_toBytes]
    show _ = reverse4bytes (UInt32.ofNat (16 + rows.length))
    rw [hrows]
    rfl
  · rw [if_pos rfl]
    exact hrows
  · show xorSum _ (rows.length / 4 + 3) = 0
    have hlen : 75 * 4 ≤ (canSendResponse (UInt32.ofNat (16 + axicanMax * sizeofCanConfigParam))
        count 0x0102 rows).toBytes.length := by
      rw [length_toBytes]
      show 75 * 4 ≤ 16 + rows.length
      omega
    have hsum := xorSum_summed (by decide) hlen rfl
    rw [hrows]
    exact hsum

-- It makes no difference whether the sum stops before the checksum word or behind it.
theorem summed_twelve {response : CanSendResponse} (hzero : response.canDataReChecksum = 0) :
    response.summed (3 * 4) = response.summed (4 * 4) := by
  have hlen : 16 ≤ response.toBytes.length := by
    rw [length_toBytes]
    exact Nat.le_add_right _ _
  have hfour : xorSum response.toBytes 4 = xorSum response.toBytes 3 ^^^ word response.toBytes 3 :=
    rfl
  rw [summed, summed, calculateXorChecksum_eq _ 3 (by omega), calculateXorChecksum_eq _ 4 hlen,
    hfour, word_checksum, hzero, UInt32.xor_zero]

theorem formed_version (count : UInt16) :
    ((canSendResponse 4 count 0xFF05 (store32 0)).summed (4 + 4 + 2 + 2)).Formed .versionQuery := by
  have hsize : (store32 0).length = 4 := length_store32 0
  have htwelve : (canSendResponse 4 count 0xFF05 (store32 0)).summed (4 + 4 + 2 + 2) =
      (canSendResponse 4 count 0xFF05 (store32 0)).summed (4 * 4) := summed_twelve rfl
  have hlen : 4 * 4 ≤ (canSendResponse 4 count 0xFF05 (store32 0)).toBytes.length := by
    rw [length_toBytes]
    exact Nat.le_add_right _ _
  have hsum := xorSum_summed (Nat.le_refl 4) hlen rfl
  rw [htwelve]
  constructor
  · rfl
  · rfl
  · rfl
  · exact hsize
  · show xorSum _ ((store32 0).length / 4 + 3) = 0
    rw [hsize]
    exact hsum

-- Any word but the last is protected, and the last is not.
theorem Formed.protects {response : CanSendResponse} {command : CmdType}
    (h : response.Formed command) {i : Nat} {w : UInt32} (hi : i ≤ response.summedWords)
    (hw : w ≠ word response.toBytes i) :
    xorSum (setWord response.toBytes i w) response.summedWords = 0 ↔ i = response.summedWords := by
  have hlen : response.summedWords * 4 + 4 ≤ response.toBytes.length := by
    have hsize := h.size
    rw [length_toBytes, summedWords, hsize]
    split <;> decide
  rcases Nat.lt_or_eq_of_le hi with hlt | rfl
  · rw [xorSum_setWord _ _ (by omega) hlt, h.checksum, UInt32.zero_xor, UInt32.xor_eq_zero_iff]
    exact iff_of_false (fun heq => hw heq.symm) (by omega)
  · have hsame : xorSum (setWord response.toBytes response.summedWords w) response.summedWords =
        xorSum response.toBytes response.summedWords :=
      ParitySum.sum_congr fun j hj => word_setWord_other _ _ hlen (by omega)
    rw [hsame]
    exact iff_of_true h.checksum rfl

end CanSendResponse

/-- The replies among the outputs answer `command`; a version reply repeats its request's counter.
    -/
def Answered (command : CmdType) (counter : UInt16) (outputs : List ServerOutput) : Prop :=
  ∀ reply ∈ replies outputs, reply.1 = command ∧ reply.2.Formed command ∧
    (command = .versionQuery → reply.2.canDataReCount = counter)

section Answered

variable {command : CmdType} {counter : UInt16} {outputs others : List ServerOutput}

theorem Answered.silent (houtputs : replies outputs = []) : Answered command counter outputs := by
  intro reply hreply
  rw [houtputs] at hreply
  exact absurd hreply List.not_mem_nil

theorem Answered.append (h : Answered command counter outputs)
    (hothers : Answered command counter others) : Answered command counter (outputs ++ others) := by
  intro reply hreply
  rw [replies, List.filterMap_append] at hreply
  rcases List.mem_append.mp hreply with hleft | hright
  · exact h reply hleft
  · exact hothers reply hright

theorem Answered.one {response : CanSendResponse}
    (houtputs : replies outputs = [(command, response)]) (hformed : response.Formed command)
    (hcount : command = .versionQuery → response.canDataReCount = counter) :
    Answered command counter outputs := by
  intro reply hreply
  rw [houtputs] at hreply
  obtain rfl := List.mem_singleton.mp hreply
  exact ⟨rfl, hformed, hcount⟩

theorem Answered.other {response : CanSendResponse}
    (houtputs : replies outputs = [(command, response)]) (hformed : response.Formed command)
    (hother : command ≠ .versionQuery) : Answered command counter outputs :=
  .one houtputs hformed fun h => absurd h hother

theorem run_answered {ι : Type} {step : CommandServer → ι → List ServerOutput × CommandServer}
    (hstep : ∀ s i, Answered command counter (step s i).1) (is : List ι) (s : CommandServer) :
    Answered command counter (Transducer.run step is s).1.flatten := by
  induction is generalizing s with
  | nil => exact .silent rfl
  | cons i is ih => exact (hstep s i).append (ih (step s i).2)

theorem configEffect_answered (s : CommandServer) (effect : ConfigEffect × Bool) :
    Answered .canConfig counter (configEffect s effect).1 := by
  unfold configEffect
  split
  · exact .silent rfl
  · unfold sendCanConfigResponse
    split
    · apply Answered.other
      · rfl
      · exact (CanSendResponse.formed_status .canConfig _ 0 (by decide) (by decide)).status
          (by decide) _
      · decide
    · exact .silent rfl
  · exact .silent rfl

theorem sendCanSendResponse_answered (ok : Bool) (s : CommandServer) {response : CanSendResponse}
    (hformed : response.Formed command) (hother : command ≠ .versionQuery) :
    Answered command counter (sendCanSendResponse ok s command response).1 := by
  unfold sendCanSendResponse
  split
  · exact .other rfl hformed hother
  · exact .other rfl hformed hother

theorem startStopEffect_answered (s : CommandServer) (effect : StartStopEffect × Bool) :
    Answered .canStartStop counter (startStopEffect s effect).1 := by
  unfold startStopEffect
  split
  · exact .silent rfl
  · apply sendCanSendResponse_answered
    · exact CanSendResponse.formed_status .canStartStop _ _ (by decide) (by decide)
    · decide

theorem sendBroadcastConfigResponse_answered (ok : Bool) (s : CommandServer) (status : UInt8) :
    Answered .canBroadcastConfig counter (sendBroadcastConfigResponse ok s status).1 := by
  apply sendCanSendResponse_answered
  · exact CanSendResponse.formed_status .canBroadcastConfig _ _ (by decide) (by decide)
  · decide

theorem CanConfigParam.length_toBytes (param : CanConfigParam) :
    param.toBytes.length = sizeofCanConfigParam := by
  simp [toBytes, bodyBytes, sizeofCanConfigParam]

theorem sendCanInfoResponse_answered (ok : Bool) (s : CommandServer) (allocated : Bool)
    {devices : List CanConfigParam} (hdevices : devices.length = 6) :
    Answered .canInfoQuery counter (sendCanInfoResponse ok s allocated devices).1 := by
  have hrows : (devices.flatMap CanConfigParam.toBytes).length = 288 := by
    rw [length_flatMap_of_length _ _ CanConfigParam.length_toBytes, hdevices, sizeofCanConfigParam]
  unfold sendCanInfoResponse
  split
  · apply Answered.other
    · rfl
    · exact CanSendResponse.formed_info _ hrows
    · decide
  · exact .silent rfl

theorem handleVersionQuery_answered (payload : List UInt8) (reqCounter : UInt16) (ok : Bool)
    (s : CommandServer) :
    Answered .versionQuery reqCounter (handleVersionQuery payload reqCounter ok s).1 := by
  have hsent : ∀ version, Answered .versionQuery reqCounter
      (sendVersionQueryResponse ok s reqCounter version).1 := by
    intro version
    unfold sendVersionQueryResponse
    split
    · exact .one rfl ((CanSendResponse.formed_version reqCounter).status (by decide) _)
        fun _ => rfl
    · exact .silent rfl
  unfold handleVersionQuery
  split
  · exact hsent _
  · exact hsent _

-- An information reply has a row for each channel.
theorem length_canInfoRows {data : List UInt8} {configs : CanConfigs} {dataCounter : UInt16}
    {timestamp : UInt8 → UInt64} {channelFrameCount : UInt8 → UInt32}
    {reply : List CanConfigParam × (UInt8 → UInt32)}
    (h : handleCanInfoQuery data configs dataCounter timestamp channelFrameCount = .ok reply) :
    reply.1.length = 6 := by
  unfold handleCanInfoQuery at h
  split at h
  · cases h
  cases h
  have hrows := Transducer.map_run (canInfoRow configs dataCounter timestamp) (fun _ => ())
    (fun _ => ()) (fun _ _ => rfl) ((List.range axicanMax).map UInt8.ofNat) channelFrameCount
  have hlen := congrArg List.length hrows
  rw [List.length_map, List.length_map, List.length_map, List.length_range] at hlen
  exact hlen

theorem handleCommand_answered (env : CommandEnv) (s : CommandServer) (command : CmdType)
    (packet : CommandPacket) :
    Answered command packet.counter (handleCommand env s (some command) packet).1 := by
  cases command with
  | canConfig => exact run_answered configEffect_answered _ _
  | canInfoQuery =>
      unfold handleCommand
      dsimp only
      split
      · exact .silent rfl
      next devices channelFrameCount hquery =>
        refine Answered.append ?_ (.silent rfl)
        apply sendCanInfoResponse_answered
        exact length_canInfoRows hquery
  | canBufQuery =>
      unfold handleCommand
      dsimp only
      split <;> exact .silent rfl
  | canStartStop => exact run_answered startStopEffect_answered _ _
  | canBroadcastConfig =>
      refine Answered.append (.silent ?_) (sendBroadcastConfigResponse_answered _ _ _)
      cases (handleBroadcastConfig packet.payload s.rings.bcast).2.1 <;> rfl
  | versionQuery => exact handleVersionQuery_answered _ _ _ _

theorem CmdType.ofWord_word {word : UInt16} (h : CmdType.ofWord word = some command) :
    word = command.word := by
  unfold CmdType.ofWord at h
  split at h
  next hword => cases h; exact hword
  split at h
  next hword => cases h; exact hword
  split at h
  next hword => cases h; exact hword
  split at h
  next hword => cases h; exact hword
  split at h
  next hword => cases h; exact hword
  split at h
  next hword => cases h; exact hword
  cases h

-- A call that is no command of the `switch` has no reply.
theorem serverStep_replies {s : CommandServer} {call : ServerCall}
    {reply : CmdType × CanSendResponse} (hreply : reply ∈ replies (serverStep s call).1) :
    ∃ packet env, call = .packet packet env ∧ CmdType.ofWord packet.command = some reply.1 ∧
      reply.2.Formed reply.1 ∧
      (reply.1 = .versionQuery → reply.2.canDataReCount = packet.counter) := by
  cases call with
  | packet packet env =>
      simp only [serverStep, dispatchCommand] at hreply
      split at hreply
      · exact absurd hreply List.not_mem_nil
      cases hcommand : CmdType.ofWord packet.command with
      | none =>
          rw [hcommand] at hreply
          exact absurd hreply List.not_mem_nil
      | some command =>
          rw [hcommand] at hreply
          obtain ⟨rfl, hformed, hcount⟩ := handleCommand_answered env s command packet reply hreply
          exact ⟨packet, env, rfl, hcommand, hformed, hcount⟩
  | client connected => exact absurd hreply List.not_mem_nil
  | normalMode canId frame ok => exact absurd hreply List.not_mem_nil
  | transmit canId type status frame clock ok =>
      simp only [serverStep] at hreply
      cases hsent : (sendCanTransmitResponse s.connected canId type status frame clock s.counters).1
        with
      | none =>
          rw [hsent] at hreply
          exact absurd hreply List.not_mem_nil
      | some message =>
          rw [hsent] at hreply
          exact absurd hreply List.not_mem_nil

end Answered

-- A start/stop or broadcast command has one reply, with or without a client.
theorem length_sendCanSendResponse (ok : Bool) (s : CommandServer) (command : CmdType)
    (response : CanSendResponse) :
    (replies (sendCanSendResponse ok s command response).1).length = 1 := by
  unfold sendCanSendResponse
  split <;> rfl

theorem length_startStop (env : CommandEnv) (s : CommandServer) (packet : CommandPacket) :
    (replies (handleCommand env s (some .canStartStop) packet).1).length = 1 := by
  have hone : ∀ (t : CommandServer) (status : UInt8) (ok : Bool),
      (replies ((sendStartStopResponse ok t status).1 ++ [])).length = 1 := by
    intro t status ok
    rw [List.append_nil]
    exact length_sendCanSendResponse _ _ _ _
  unfold handleCommand handleCanStartStop
  dsimp only
  split
  · exact hone _ _ _
  split
  · exact hone _ _ _
  split
  · exact hone _ _ _
  · exact hone _ _ _

theorem length_broadcastConfig (env : CommandEnv) (s : CommandServer) (packet : CommandPacket) :
    (replies (handleCommand env s (some .canBroadcastConfig) packet).1).length = 1 := by
  unfold handleCommand
  dsimp only
  rw [replies, List.filterMap_append, List.length_append]
  have hevents : ∀ event : Option String,
      ((event.toList.map ServerOutput.event).filterMap ServerOutput.reply?).length = 0 := by
    intro event
    cases event <;> rfl
  rw [hevents, Nat.zero_add]
  exact length_sendCanSendResponse _ _ _ _

/-- What the outputs of a call owe it. -/
structure ServerCall.Replied (call : ServerCall) (outputs : List ServerOutput) : Prop where
  answers : ∀ reply ∈ replies outputs, ∃ packet env, call = .packet packet env ∧
    CmdType.ofWord packet.command = some reply.1 ∧
    reply.2.canDataReCommond = reverse2bytes packet.command ∧
    (reply.1 = .versionQuery → reply.2.canDataReCount = packet.counter)
  formed : ∀ reply ∈ replies outputs, reply.2.Formed reply.1
  protects : ∀ reply ∈ replies outputs, ∀ i w, i ≤ reply.2.summedWords →
    w ≠ word reply.2.toBytes i →
      (xorSum (setWord reply.2.toBytes i w) reply.2.summedWords = 0 ↔ i = reply.2.summedWords)
  one : ∀ packet env, call = .packet packet env →
    commandMinPayloadSize packet.command ≤ packet.payload.length →
    CmdType.ofWord packet.command = some .canStartStop ∨
      CmdType.ofWord packet.command = some .canBroadcastConfig →
    (replies outputs).length = 1

/-- **Replies answer their commands.**  In any run every reply comes from a command packet and
    carries its command word (a version reply its counter too); the words of a reply but the last
    cancel out, so a change of any of them is noticed, while a change of the last, which is the
    status or the version, never is; and a start/stop or broadcast command has exactly one reply. -/
theorem replies_answer (calls : List ServerCall) (s : CommandServer) :
    List.Forall₂ ServerCall.Replied calls (Transducer.run serverStep calls s).1 := by
  apply History.run_forall₂
  intro s call
  constructor
  · intro reply hreply
    obtain ⟨packet, env, hcall, hcommand, hformed, hcount⟩ := serverStep_replies hreply
    refine ⟨packet, env, hcall, hcommand, ?_, hcount⟩
    rw [hformed.commond, CmdType.ofWord_word hcommand]
  · intro reply hreply
    obtain ⟨_, _, _, _, hformed, _⟩ := serverStep_replies hreply
    exact hformed
  · intro reply hreply i w hi hw
    obtain ⟨_, _, _, _, hformed, _⟩ := serverStep_replies hreply
    exact hformed.protects hi hw
  · rintro packet env rfl hlong hcommand
    simp only [serverStep, dispatchCommand, if_neg (Nat.not_lt.mpr hlong)]
    rcases hcommand with hcommand | hcommand
    · rw [hcommand]
      exact length_startStop env s packet
    · rw [hcommand]
      exact length_broadcastConfig env s packet

/-! ## Channels opened and closed -/

/-- The order to channel `c` in a call: a start/stop command with a valid channel and state. -/
def ServerCall.order? (c : UInt8) : ServerCall → Option CanState
  | .packet request _ =>
      if CmdType.ofWord request.command = some .canStartStop ∧ 8 ≤ request.payload.length ∧
          (load32 request.payload 0).toNat < axicanMax ∧
          (load32 request.payload 0).toUInt8 = c then
        if reverse4bytes (load32 request.payload 4) = openCanDevice then some .opened
        else if reverse4bytes (load32 request.payload 4) = closeCanDevice then some .closed
        else none
      else none
  | _ => none

section Orders

variable (s : CommandServer) (c : UInt8)

theorem configs_carryOut {ε : Type} {effect : CommandServer → ε × Bool →
      List ServerOutput × CommandServer} (heffect : ∀ s e, (effect s e).2.configs = s.configs)
    (effects : List ε) (sendOk : Nat → Bool) :
    (carryOut effect effects sendOk s).2.configs = s.configs := by
  have hkept : ∀ t e, t.configs = s.configs → (effect t e).2.configs = s.configs :=
    fun t e h => (heffect t e).trans h
  exact Transducer.run_invariant hkept _ s rfl

theorem configs_configEffect (effect : ConfigEffect × Bool) :
    (configEffect s effect).2.configs = s.configs := by
  unfold configEffect
  split
  · rfl
  · unfold sendCanConfigResponse
    split <;> rfl
  · rfl

theorem configs_sendCanSendResponse (ok : Bool) (command : CmdType) (response : CanSendResponse) :
    (sendCanSendResponse ok s command response).2.configs = s.configs := by
  unfold sendCanSendResponse
  split <;> rfl

theorem configs_startStopEffect (effect : StartStopEffect × Bool) :
    (startStopEffect s effect).2.configs = s.configs := by
  unfold startStopEffect
  split
  · rfl
  · exact configs_sendCanSendResponse _ _ _ _

-- A configuration leaves the state of every channel as it is.
theorem state_handleCanConfig (payload : List UInt8) (baudRet modeRet : Int)
    (configs : CanConfigs) :
    ((handleCanConfig payload baudRet modeRet configs).2 c).state = (configs c).state := by
  have hrecord := canConfigStep_record configs ⟨payload, baudRet, modeRet⟩
  show ((canConfigStep configs ⟨payload, baudRet, modeRet⟩).2 c).state = _
  rw [hrecord]
  split
  · unfold CanConfigs.set
    split
    next hc => rw [hc]; rfl
    · rfl
  · rfl

theorem state_set (configs : CanConfigs) (ch : UInt8) (state : CanState) :
    (configs.set ch { configs ch with state := state } c).state =
      if ch = c then state else (configs c).state := by
  unfold CanConfigs.set
  by_cases hc : c = ch
  · rw [if_pos hc, if_pos hc.symm]
  · rw [if_neg hc, if_neg (Ne.symm hc)]

theorem state_handleCanStartStop (packet : CommandPacket) (env : CommandEnv)
    (configs : CanConfigs) (hcommand : CmdType.ofWord packet.command = some .canStartStop)
    (hlong : 8 ≤ packet.payload.length) :
    ((handleCanStartStop packet.payload configs).2 c).state =
      ((ServerCall.packet packet env).order? c).getD (configs c).state := by
  have horder : (ServerCall.packet packet env).order? c =
      if (load32 packet.payload 0).toNat < axicanMax ∧ (load32 packet.payload 0).toUInt8 = c then
        if reverse4bytes (load32 packet.payload 4) = openCanDevice then some .opened
        else if reverse4bytes (load32 packet.payload 4) = closeCanDevice then some .closed
        else none
      else none := by
    unfold ServerCall.order?
    simp only [hcommand, hlong, true_and]
  have hset : ∀ state, (load32 packet.payload 0).toNat < axicanMax →
      (configs.set (load32 packet.payload 0).toUInt8
        { configs (load32 packet.payload 0).toUInt8 with state := state } c).state =
      (if (load32 packet.payload 0).toNat < axicanMax ∧ (load32 packet.payload 0).toUInt8 = c then
        some state else none).getD (configs c).state := by
    intro state hvalid
    rw [state_set]
    by_cases hc : (load32 packet.payload 0).toUInt8 = c
    · rw [if_pos hc, if_pos ⟨hvalid, hc⟩]
      rfl
    · rw [if_neg hc, if_neg fun h => hc h.2]
      rfl
  rw [horder]
  unfold handleCanStartStop
  dsimp only
  by_cases hvalid : (load32 packet.payload 0).toNat < axicanMax
  · rw [if_neg (Nat.not_le.mpr hvalid)]
    split
    · exact hset .opened hvalid
    split
    · exact hset .closed hvalid
    · rw [ite_self]
      rfl
  · rw [if_pos (Nat.le_of_not_lt hvalid), if_neg fun h => hvalid h.1]
    rfl

theorem serverStep_state (call : ServerCall) :
    ((serverStep s call).2.configs c).state = (call.order? c).getD (s.configs c).state := by
  cases call with
  | packet packet env =>
      simp only [serverStep, dispatchCommand]
      split
      next hshort =>
        -- a start/stop command that is too short is no order
        have hnone : (ServerCall.packet packet env).order? c = none := by
          apply if_neg
          intro h
          rw [commandMinPayloadSize, h.1] at hshort
          exact absurd h.2.1 (Nat.not_le.mpr hshort)
        rw [hnone]
        rfl
      next hlong =>
        by_cases hcommand : CmdType.ofWord packet.command = some .canStartStop
        · rw [commandMinPayloadSize, hcommand] at hlong
          rw [hcommand]
          show ((carryOut startStopEffect _ _ _).2.configs c).state = _
          rw [configs_carryOut _ configs_startStopEffect]
          exact state_handleCanStartStop c packet env s.configs hcommand (Nat.le_of_not_lt hlong)
        · have hnone : (ServerCall.packet packet env).order? c = none :=
            if_neg fun h => hcommand h.1
          rw [hnone]
          show _ = (s.configs c).state
          cases hother : CmdType.ofWord packet.command with
          | none => rfl
          | some command =>
              rw [hother] at hcommand
              cases command with
              | canConfig =>
                  show ((carryOut configEffect _ _ _).2.configs c).state = _
                  rw [configs_carryOut _ configs_configEffect]
                  exact state_handleCanConfig c _ _ _ _
              | canInfoQuery =>
                  unfold handleCommand
                  dsimp only
                  split
                  · rfl
                  · unfold sendCanInfoResponse
                    split <;> rfl
              | canBufQuery =>
                  unfold handleCommand
                  dsimp only
                  split <;> rfl
              | canStartStop => exact absurd rfl hcommand
              | canBroadcastConfig =>
                  exact congrArg (fun configs => (configs c).state)
                    (configs_sendCanSendResponse _ _ _ _)
              | versionQuery =>
                  have hsent : ∀ version, (sendVersionQueryResponse (env.sendOk 0) s packet.counter
                      version).2.configs = s.configs := by
                    intro version
                    unfold sendVersionQueryResponse
                    split <;> rfl
                  unfold handleCommand handleVersionQuery
                  dsimp only
                  split <;> exact congrArg (fun configs => (configs c).state) (hsent _)
  | client connected => rfl
  | normalMode canId frame ok => rfl
  | transmit canId type status frame clock ok => rfl

-- The status a reply of the command carries.
theorem mem_startStopResponse {ok : Bool} {t : CommandServer} {status : UInt8}
    {reply : CmdType × CanSendResponse}
    (hreply : reply ∈ replies ((sendStartStopResponse ok t status).1 ++ [])) :
    reply.2.data = store32 status.toUInt32 := by
  rw [List.append_nil] at hreply
  unfold sendStartStopResponse sendCanSendResponse at hreply
  dsimp only at hreply
  split at hreply
  · obtain rfl := List.mem_singleton.mp hreply
    rfl
  · obtain rfl := List.mem_singleton.mp hreply
    rfl

theorem startStop_status {env : CommandEnv} {packet : CommandPacket}
    {reply : CmdType × CanSendResponse}
    (hcommand : CmdType.ofWord packet.command = some .canStartStop)
    (hlong : 8 ≤ packet.payload.length)
    (hreply : reply ∈ replies (handleCommand env s (some .canStartStop) packet).1) :
    reply.2.data = store32 0 ↔ ∃ c state, (ServerCall.packet packet env).order? c = some state := by
  have hone : store32 (1 : UInt8).toUInt32 ≠ store32 0 := by decide
  unfold handleCommand handleCanStartStop at hreply
  dsimp only at hreply
  split at hreply
  next hinvalid =>
    rw [mem_startStopResponse hreply]
    refine iff_of_false hone ?_
    rintro ⟨c, state, horder⟩
    have hnone : (ServerCall.packet packet env).order? c = none :=
      if_neg fun h => Nat.not_lt.mpr hinvalid h.2.2.1
    exact absurd (horder.symm.trans hnone) (Option.some_ne_none state)
  next hvalid =>
    have horder : (ServerCall.packet packet env).order? (load32 packet.payload 0).toUInt8 =
        if reverse4bytes (load32 packet.payload 4) = openCanDevice then some .opened
        else if reverse4bytes (load32 packet.payload 4) = closeCanDevice then some .closed
        else none := if_pos ⟨hcommand, hlong, Nat.lt_of_not_le hvalid, rfl⟩
    split at hreply
    next hopen =>
      rw [mem_startStopResponse hreply]
      exact iff_of_true rfl ⟨_, .opened, horder.trans (if_pos hopen)⟩
    split at hreply
    next hopen hclose =>
      rw [mem_startStopResponse hreply]
      exact iff_of_true rfl ⟨_, .closed, horder.trans ((if_neg hopen).trans (if_pos hclose))⟩
    next hopen hclose =>
      have hevent : reply ∈ replies ((sendStartStopResponse (env.sendOk 1) s 1).1 ++ []) := hreply
      rw [mem_startStopResponse hevent]
      refine iff_of_false hone ?_
      rintro ⟨c, state, hsome⟩
      have hnone : (ServerCall.packet packet env).order? c = none := by
        show (if _ then (if _ then _ else if _ then _ else none) else none) = none
        rw [if_neg hopen, if_neg hclose, ite_self]
      exact absurd (hsome.symm.trans hnone) (Option.some_ne_none state)

/-- **The state of a channel is its last order.**  In any run a channel is open or closed as the
    last start/stop command with its number and a valid state said, whatever the configurations, the
    queries and the refused commands in between; and the reply to a start/stop command carries
    status 0 exactly if the command is such an order. -/
theorem channel_state_last_order (calls : List ServerCall) :
    let run := Transducer.run serverStep calls s
    (∀ c, (run.2.configs c).state =
      ((calls.filterMap (ServerCall.order? c)).getLast?).getD (s.configs c).state) ∧
    List.Forall₂ (fun call outputs => ∀ reply ∈ replies outputs, reply.1 = .canStartStop →
      (reply.2.data = store32 0 ↔ ∃ c state, call.order? c = some state)) calls run.1 := by
  intro run
  constructor
  · intro c
    have hstep : ∀ past t call, (t.configs c).state =
        ((past.filterMap (ServerCall.order? c)).getLast?).getD (s.configs c).state →
        ((serverStep t call).2.configs c).state =
          (((past ++ [call]).filterMap (ServerCall.order? c)).getLast?).getD
            (s.configs c).state := by
      intro past t call ht
      rw [serverStep_state, ht, List.filterMap_append]
      cases horder : call.order? c with
      | none =>
          rw [List.filterMap_cons_none horder, List.filterMap_nil, List.append_nil]
          rfl
      | some state =>
          rw [List.filterMap_cons_some horder, List.filterMap_nil, List.getLast?_concat]
          rfl
    exact Transducer.run_history (fun past (t : CommandServer) => (t.configs c).state =
      ((past.filterMap (ServerCall.order? c)).getLast?).getD (s.configs c).state) rfl hstep calls
  · apply History.run_forall₂
    intro t call reply hreply hstart
    obtain ⟨packet, env, rfl, hcommand, _⟩ := serverStep_replies hreply
    rw [hstart] at hcommand
    simp only [serverStep, dispatchCommand] at hreply
    split at hreply
    next hshort => exact absurd hreply List.not_mem_nil
    next hlong =>
      rw [commandMinPayloadSize, hcommand] at hlong
      rw [hcommand] at hreply
      exact startStop_status t hcommand (Nat.le_of_not_lt hlong) hreply

end Orders

end CanGateway
