import CanGateway.BufferReport
import CanGateway.CommandStream
import CanGateway.FramingRoundTrip
import CanGateway.Library.History
import CanGateway.Library.Numbering
import CanGateway.ReceiveConsumers
import CanGateway.ReportNumbers

/-!
# The commands of port 9009 and their replies

The `switch` of `tcp_client_handler_9009` with all its handlers.  Replies leave on port 9010,
between the records of `handle_normal_mode` and `send_can_transmit_response`, and share
`data_counter` with them.  Handlers and records come one at a time here; the source takes no common
lock for them.
-/

open ByteMemory

namespace CanGateway

/-! ## Replies -/

/-- `CAN_Send_Response`, `VersionQueryResponse` and `CAN_Send_Response_r`: the same 16 bytes before
    the status, the version or the rows. -/
structure CanSendResponse where
  canDataReHead : UInt32
  canDataReLength : UInt32
  canDataReCount : UInt16
  canDataReCommond : UInt16
  canDataReChecksum : UInt32
  data : List UInt8
  deriving DecidableEq, Repr

namespace CanSendResponse

/-- The response up to the checksum. -/
def headBytes (response : CanSendResponse) : List UInt8 :=
  store32 response.canDataReHead ++ store32 response.canDataReLength ++
    store16 response.canDataReCount ++ store16 response.canDataReCommond

def toBytes (response : CanSendResponse) : List UInt8 :=
  response.headBytes ++ (store32 response.canDataReChecksum ++ response.data)

/-- The response with the checksum of its first `len` bytes. -/
def summed (response : CanSendResponse) (len : Nat) : CanSendResponse :=
  { response with canDataReChecksum := calculateXorChecksum response.toBytes len }

end CanSendResponse

/-- The fields all responses fill in alike. -/
def canSendResponse (length : UInt32) (count : UInt16) (command : UInt16) (data : List UInt8) :
    CanSendResponse where
  canDataReHead := reverse4bytes ackSyncWord
  canDataReLength := reverse4bytes length
  canDataReCount := count
  canDataReCommond := reverse2bytes command
  canDataReChecksum := 0
  data := data

def armAppVersion : UInt32 := 0x20260701
def armProgramType : UInt32 := 1
def versionQueryFailed : UInt32 := 0xFFFFFFFF

/-! ## The server -/

/-- The state the handlers share.  `connected` is `data_upload_socket != -1`. -/
structure CommandServer where
  configs : CanConfigs
  rings : ReportedRings
  counters : UploadCounters
  connected : Bool

/-- What leaves the handlers. -/
inductive ServerOutput where
  /-- `send_event`. -/
  | event (text : String)
  /-- `axican_set_baud` or `axican_set_mode`. -/
  | driver (call : ConfigEffect)
  /-- What the client of port 9009 is sent. -/
  | acknowledged (text : String)
  /-- A reply handed to `send`, or built without a client to take it. -/
  | sent (command : CmdType) (response : CanSendResponse)
  | unsent (command : CmdType) (response : CanSendResponse)
  | buffers (message : MultiChannelBufResponse)
  /-- The record of `handle_normal_mode`; it is built with or without a client. -/
  | normal (message : UploadMessage) (sent : Bool)
  | transmitted (message : UploadMessage)

/-- What a handler finds outside: the results of the driver calls, the clock for each row of an
    information reply, whether `malloc` gives it memory, and whether a message handed to `send` goes
    out whole. -/
structure CommandEnv where
  baudRet : Int
  modeRet : Int
  timestamp : UInt8 → UInt64
  allocated : Bool
  sendOk : Nat → Bool

namespace CommandServer

/-- `data_counter++`. -/
def countUp (s : CommandServer) : CommandServer :=
  { s with counters := { s.counters with dataCounter := s.counters.dataCounter + 1 } }

/-- `send` to a connected client; after an incomplete one the socket is given up. -/
def send (s : CommandServer) (command : CmdType) (response : CanSendResponse) (ok : Bool) :
    List ServerOutput × CommandServer :=
  ([.sent command response], { s with connected := ok })

end CommandServer

section Responses

variable (ok : Bool) (s : CommandServer)

/-- `send_can_config_response`: the status is filled in after the checksum. -/
def sendCanConfigResponse (status : UInt32) : List ServerOutput × CommandServer :=
  if s.connected then
    let s := s.countUp
    let response := canSendResponse 20 s.counters.dataCounter 0x0101 (store32 0)
    s.send .canConfig { response.summed (20 - 4) with data := store32 status } ok
  else ([], s)

/-- `send_can_info_response`. -/
def sendCanInfoResponse (allocated : Bool) (devices : List CanConfigParam) :
    List ServerOutput × CommandServer :=
  if s.connected ∧ allocated then
    let responseSize := 16 + axicanMax * sizeofCanConfigParam
    let s := s.countUp
    let response := canSendResponse (UInt32.ofNat responseSize) s.counters.dataCounter 0x0102
      (devices.flatMap CanConfigParam.toBytes)
    s.send .canInfoQuery (response.summed (responseSize - 4)) ok
  else ([], s)

/-- `send_can_send_response`. -/
def sendCanSendResponse (command : CmdType) (response : CanSendResponse) :
    List ServerOutput × CommandServer :=
  if s.connected then s.send command response ok else ([.unsent command response], s)

/-- `send_start_stop_response`: `data_counter++` takes the number before the counter moves on. -/
def sendStartStopResponse (status : UInt8) : List ServerOutput × CommandServer :=
  let response :=
    canSendResponse 20 s.counters.dataCounter 0x0103 (store32 status.toUInt32)
  sendCanSendResponse ok s.countUp .canStartStop (response.summed (20 - 4))

/-- `send_broadcast_config_response`. -/
def sendBroadcastConfigResponse (status : UInt8) : List ServerOutput × CommandServer :=
  let s := s.countUp
  let response :=
    canSendResponse 20 s.counters.dataCounter 0x0104 (store32 status.toUInt32)
  sendCanSendResponse ok s .canBroadcastConfig (response.summed (20 - 4))

/-- `send_version_query_response`: its length is that of the version alone. -/
def sendVersionQueryResponse (reqCounter : UInt16) (version : UInt32) :
    List ServerOutput × CommandServer :=
  if s.connected then
    let response := canSendResponse 4 reqCounter 0xFF05 (store32 0)
    s.send .versionQuery
      { response.summed (4 + 4 + 2 + 2) with data := store32 (reverse4bytes version) } ok
  else ([], s)

end Responses

/-! ## The handlers -/

/-- `handle_version_query`. -/
def handleVersionQuery (payload : List UInt8) (reqCounter : UInt16) (ok : Bool)
    (s : CommandServer) : List ServerOutput × CommandServer :=
  if payload.length ≠ 4 then sendVersionQueryResponse ok s reqCounter versionQueryFailed
  else
    let queryType := reverse4bytes (load32 payload 0)
    let result :=
      if queryType = 0xAA then armAppVersion
      else if queryType = 0xBB then versionQueryFailed
      else if queryType = 0xAC then armProgramType
      else versionQueryFailed
    sendVersionQueryResponse ok s reqCounter result

/-- An effect of `handle_can_config` carried out. -/
def configEffect (s : CommandServer) (effect : ConfigEffect × Bool) :
    List ServerOutput × CommandServer :=
  match effect.1 with
  | .event text => ([.event text], s)
  | .response _ status => sendCanConfigResponse effect.2 s status
  | call => ([.driver call], s)

/-- An effect of `handle_can_start_stop` carried out. -/
def startStopEffect (s : CommandServer) (effect : StartStopEffect × Bool) :
    List ServerOutput × CommandServer :=
  match effect.1 with
  | .event text => ([.event text], s)
  | .response status => sendStartStopResponse effect.2 s status

/-- Effects carried out one after the other; `sendOk i` is about a message of the `i`-th. -/
def carryOut {ε : Type} (effect : CommandServer → ε × Bool → List ServerOutput × CommandServer)
    (effects : List ε) (sendOk : Nat → Bool) (s : CommandServer) :
    List ServerOutput × CommandServer :=
  let r := Transducer.run effect (effects.zipIdx.map fun e => (e.1, sendOk e.2)) s
  (r.1.flatten, r.2)

/-- The `switch` of `tcp_client_handler_9009`. -/
def handleCommand (env : CommandEnv) (s : CommandServer) (command : Option CmdType)
    (packet : CommandPacket) : List ServerOutput × CommandServer :=
  match command with
  | some .canConfig =>
      let r := handleCanConfig packet.payload env.baudRet env.modeRet s.configs
      carryOut configEffect r.1 env.sendOk { s with configs := r.2 }
  | some .canInfoQuery =>
      match handleCanInfoQuery packet.payload s.configs s.counters.dataCounter env.timestamp
          s.counters.channelFrameCount with
      | .error text => ([.event text], s)
      | .ok (devices, channelFrameCount) =>
          let s := { s with counters := { s.counters with channelFrameCount := channelFrameCount } }
          let r := sendCanInfoResponse (env.sendOk 0) s env.allocated devices
          (r.1 ++ [.acknowledged "CAN info query processed, result sent via port 9010"], r.2)
  | some .canBufQuery =>
      match handleCanBufQuery packet.payload s.connected s.rings with
      | (some text, _) => ([.event text], s)
      | (none, some message) => ([.buffers message], { s with connected := env.sendOk 0 })
      | (none, none) => ([], s)
  | some .canStartStop =>
      let r := handleCanStartStop packet.payload s.configs
      carryOut startStopEffect r.1 env.sendOk { s with configs := r.2 }
  | some .canBroadcastConfig =>
      let r := handleBroadcastConfig packet.payload s.rings.bcast
      let sent := sendBroadcastConfigResponse (env.sendOk 0)
        { s with rings := { s.rings with bcast := r.2.2 } } r.1
      (r.2.1.toList.map .event ++ sent.1, sent.2)
  | some .versionQuery => handleVersionQuery packet.payload packet.counter (env.sendOk 0) s
  | none => ([.event "Unknown CAN command"], s)

/-- A command packet, a client of port 9010 that comes or goes, or one of the functions that send
    records between the replies. -/
inductive ServerCall where
  | packet (packet : CommandPacket) (env : CommandEnv)
  | client (connected : Bool)
  | normalMode (canId : UInt8) (frame : AxicanFrame) (ok : Bool)
  | transmit (canId type status : UInt8) (frame : AxicanFrame) (clock : UInt64) (ok : Bool)

/-- One call from its start to its end.  The source reads and writes `data_counter` in several
    threads; calls that overlap are not modelled. -/
def serverStep (s : CommandServer) : ServerCall → List ServerOutput × CommandServer
  | .packet packet env =>
      dispatchCommand (fun r command packet => handleCommand env r.2 command packet) ([], s) packet
  | .client connected => ([], { s with connected := connected })
  | .normalMode canId frame ok =>
      ([.normal (normalReport canId frame s.counters) s.connected],
        { s with
          counters := (handleNormalMode s.connected canId frame s.counters).2
          connected := s.connected && ok })
  | .transmit canId type status frame clock ok =>
      let r := sendCanTransmitResponse s.connected canId type status frame clock s.counters
      (r.1.toList.map .transmitted, { s with counters := r.2, connected := s.connected && ok })

/-! ## Numbers -/

/-- The number a message takes from `data_counter`; version replies repeat their request's. -/
def ServerOutput.ticket? : ServerOutput → Option Numbering.Ticket
  | .sent command response | .unsent command response =>
      if command = .versionQuery then none
      else some ⟨decide (command = .canStartStop), response.canDataReCount.toNat⟩
  | .normal message _ => some ⟨false, message.record.totalCount.toUInt16.toNat⟩
  | _ => none

def tickets (outputs : List ServerOutput) : List Numbering.Ticket :=
  outputs.filterMap ServerOutput.ticket?

def CommandServer.number (s : CommandServer) : Nat := s.counters.dataCounter.toNat

/-- What a step takes from the counter. -/
structure Numbers (s : CommandServer) (r : List ServerOutput × CommandServer) : Prop where
  drawn : Numbering.Drawn 65536 s.number (tickets r.1)
  counter : r.2.number = (s.number + (tickets r.1).length) % 65536

section Numbers

variable {s t : CommandServer} {outputs : List ServerOutput}

theorem tickets_append (outputs others : List ServerOutput) :
    tickets (outputs ++ others) = tickets outputs ++ tickets others := List.filterMap_append

theorem number_lt (s : CommandServer) : s.number < 65536 := s.counters.dataCounter.toNat_lt

theorem number_countUp (s : CommandServer) : s.countUp.number = (s.number + 1) % 65536 :=
  UInt16.toNat_add _ _

-- A step that takes no number.
theorem Numbers.none (houtputs : tickets outputs = []) (hcounter : t.number = s.number) :
    Numbers s (outputs, t) := by
  constructor
  · rw [houtputs]
    exact Numbering.drawn_nil
  · rw [houtputs, hcounter]
    exact (Nat.mod_eq_of_lt (number_lt s)).symm

-- A step that takes one.
theorem Numbers.one {ticket : Numbering.Ticket} (houtputs : tickets outputs = [ticket])
    (hticket : ticket.number = Numbering.draw 65536 s.number ticket.early)
    (hcounter : t.number = (s.number + 1) % 65536) : Numbers s (outputs, t) := by
  constructor
  · rw [houtputs]
    have hone := Numbering.drawn_singleton 65536 s.number ticket.early
    rwa [← hticket] at hone
  · rw [houtputs]
    exact hcounter

theorem Numbers.append {r r' : List ServerOutput × CommandServer} (h : Numbers s r)
    (h' : Numbers r.2 r') : Numbers s (r.1 ++ r'.1, r'.2) := by
  have hcounter := h.counter
  constructor
  · have hdrawn := h'.drawn
    rw [hcounter, Numbering.drawn_mod] at hdrawn
    rw [tickets_append]
    exact h.drawn.append hdrawn
  · rw [tickets_append, List.length_append, h'.counter, hcounter, Nat.mod_add_mod, Nat.add_assoc]

theorem sendCanConfigResponse_numbers (ok : Bool) (s : CommandServer) (status : UInt32) :
    Numbers s (sendCanConfigResponse ok s status) := by
  unfold sendCanConfigResponse
  split
  · exact .one rfl (number_countUp s) (number_countUp s)
  · exact .none rfl rfl

theorem sendCanInfoResponse_numbers (ok : Bool) (s : CommandServer) (allocated : Bool)
    (devices : List CanConfigParam) : Numbers s (sendCanInfoResponse ok s allocated devices) := by
  unfold sendCanInfoResponse
  split
  · exact .one rfl (number_countUp s) (number_countUp s)
  · exact .none rfl rfl

theorem sendStartStopResponse_numbers (ok : Bool) (s : CommandServer) (status : UInt8) :
    Numbers s (sendStartStopResponse ok s status) := by
  have hearly : s.number = s.number % 65536 := (Nat.mod_eq_of_lt (number_lt s)).symm
  unfold sendStartStopResponse sendCanSendResponse
  split
  · exact .one rfl hearly (number_countUp s)
  · exact .one rfl hearly (number_countUp s)

theorem sendBroadcastConfigResponse_numbers (ok : Bool) (s : CommandServer) (status : UInt8) :
    Numbers s (sendBroadcastConfigResponse ok s status) := by
  unfold sendBroadcastConfigResponse sendCanSendResponse
  dsimp only
  split
  · exact .one rfl (number_countUp s) (number_countUp s)
  · exact .one rfl (number_countUp s) (number_countUp s)

theorem sendVersionQueryResponse_numbers (ok : Bool) (s : CommandServer) (reqCounter : UInt16)
    (version : UInt32) : Numbers s (sendVersionQueryResponse ok s reqCounter version) := by
  unfold sendVersionQueryResponse
  split
  · exact .none rfl rfl
  · exact .none rfl rfl

theorem handleVersionQuery_numbers (payload : List UInt8) (reqCounter : UInt16) (ok : Bool)
    (s : CommandServer) : Numbers s (handleVersionQuery payload reqCounter ok s) := by
  unfold handleVersionQuery
  split
  · exact sendVersionQueryResponse_numbers ok s reqCounter _
  · exact sendVersionQueryResponse_numbers ok s reqCounter _

theorem run_numbers {ι : Type} {step : CommandServer → ι → List ServerOutput × CommandServer}
    (hstep : ∀ s i, Numbers s (step s i)) (is : List ι) (s : CommandServer) :
    Numbers s ((Transducer.run step is s).1.flatten, (Transducer.run step is s).2) := by
  induction is generalizing s with
  | nil => exact .none rfl rfl
  | cons i is ih => exact (hstep s i).append (ih (step s i).2)

theorem configEffect_numbers (s : CommandServer) (effect : ConfigEffect × Bool) :
    Numbers s (configEffect s effect) := by
  unfold configEffect
  split
  · exact .none rfl rfl
  · exact sendCanConfigResponse_numbers _ _ _
  · exact .none rfl rfl

theorem startStopEffect_numbers (s : CommandServer) (effect : StartStopEffect × Bool) :
    Numbers s (startStopEffect s effect) := by
  unfold startStopEffect
  split
  · exact .none rfl rfl
  · exact sendStartStopResponse_numbers _ _ _

-- Outputs without a number do not matter.
theorem Numbers.same {r : List ServerOutput × CommandServer} (h : Numbers s r)
    (htickets : tickets outputs = tickets r.1) : Numbers s (outputs, r.2) := by
  constructor
  · rw [htickets]
    exact h.drawn
  · rw [htickets]
    exact h.counter

-- A change of the state outside the counter does not matter.
theorem Numbers.congr {r : List ServerOutput × CommandServer} (h : Numbers t r)
    (hcounter : t.number = s.number) : Numbers s r := by
  constructor
  · rw [← hcounter]
    exact h.drawn
  · rw [← hcounter]
    exact h.counter

theorem tickets_events (event : Option String) : tickets (event.toList.map .event) = [] := by
  cases event <;> rfl

theorem tickets_transmitted (message : Option UploadMessage) :
    tickets (message.toList.map .transmitted) = [] := by
  cases message <;> rfl

theorem handleCommand_numbers (env : CommandEnv) (s : CommandServer) (command : Option CmdType)
    (packet : CommandPacket) : Numbers s (handleCommand env s command packet) := by
  unfold handleCommand
  split
  · exact (run_numbers configEffect_numbers _ _).congr rfl
  · split
    · exact .none rfl rfl
    · apply Numbers.same
      · exact (sendCanInfoResponse_numbers _ _ _ _).congr rfl
      · exact (tickets_append _ _).trans (List.append_nil _)
  · split
    · exact .none rfl rfl
    · exact .none rfl rfl
    · exact .none rfl rfl
  · exact (run_numbers startStopEffect_numbers _ _).congr rfl
  · apply Numbers.same
    · exact (sendBroadcastConfigResponse_numbers _ _ _).congr rfl
    · rw [tickets_append, tickets_events, List.nil_append]
  · exact handleVersionQuery_numbers _ _ _ _
  · exact .none rfl rfl

theorem serverStep_numbers (s : CommandServer) (call : ServerCall) :
    Numbers s (serverStep s call) := by
  cases call with
  | packet packet env =>
      simp only [serverStep, dispatchCommand]
      split
      · exact .none rfl rfl
      · exact handleCommand_numbers env s _ packet
  | client connected => exact .none rfl rfl
  | normalMode canId frame ok =>
      have hnumber := reportStep_dataCounter s.counters ⟨s.connected, canId, frame⟩
      exact .one rfl hnumber hnumber
  | transmit canId type status frame clock ok =>
      apply Numbers.none
      · exact tickets_transmitted _
      · show (sendCanTransmitResponse _ _ _ _ _ _ s.counters).2.dataCounter.toNat = _
        unfold sendCanTransmitResponse
        split <;> rfl

end Numbers

/-- **Numbers of the messages on port 9010.**  In any run of commands and reports, one at a time,
    and within one round of the counter, a number comes twice exactly when a start/stop reply
    follows another numbered message directly; and neighbours have successive numbers exactly when
    both are start/stop replies or neither is.  The report threads and the handlers read and write
    `data_counter` without a common lock; two of them that overlap are not covered. -/
theorem reply_numbers (calls : List ServerCall) (s : CommandServer) :
    let numbers := tickets (Transducer.run serverStep calls s).1.flatten
    ∀ i j ticket ticket', numbers[i]? = some ticket → numbers[j]? = some ticket' → i < j →
      (j + 1 < i + 65536 → (ticket.number = ticket'.number ↔
        j = i + 1 ∧ ticket.early = false ∧ ticket'.early = true)) ∧
      (j = i + 1 → (ticket'.number = (ticket.number + 1) % 65536 ↔
        ticket.early = ticket'.early)) := by
  intro numbers i j ticket ticket' hi hj hlt
  have hdrawn := (run_numbers serverStep_numbers calls s).drawn
  constructor
  · exact hdrawn.number_eq_iff hi hj hlt
  · rintro rfl
    exact hdrawn.succ_iff (by decide) hi hj

/-- A server as `main` leaves it, with a client on port 9010. -/
def startedServer : CommandServer where
  configs := initialConfig
  rings := reachedRings [] [] (.initial .zero)
  counters := ⟨0, fun _ => 0⟩
  connected := true

/-- A received frame, then a start/stop command for channel 0 with no valid state. -/
def reportAndStartStop : List ServerCall :=
  [.normalMode 0 default true,
    .packet ⟨0x0103, 0, List.replicate 8 0⟩ ⟨0, 0, fun _ => 0, true, fun _ => true⟩]

theorem reply_numbers_repeat :
    let numbers := tickets (Transducer.run serverStep reportAndStartStop startedServer).1.flatten
    numbers[0]? = some ⟨false, 1⟩ ∧ numbers[1]? = some ⟨true, 1⟩ := by
  intro numbers
  have hfirst : numbers[0]? = some ⟨false, 1⟩ := rfl
  obtain ⟨ticket, hticket, hearly⟩ : ∃ ticket, numbers[1]? = some ticket ∧ ticket.early = true :=
    ⟨_, rfl, rfl⟩
  have hnumber := ((reply_numbers reportAndStartStop startedServer 0 1 _ _ hfirst hticket
    (by decide)).1 (by decide)).mpr ⟨rfl, rfl, hearly⟩
  refine ⟨hfirst, hticket.trans (congrArg some ?_)⟩
  rw [Numbering.Ticket.mk.injEq]
  exact ⟨hearly, hnumber.symm⟩

end CanGateway
