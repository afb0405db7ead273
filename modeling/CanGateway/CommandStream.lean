import CanGateway.Library.StreamParser
import CanGateway.Library.ReceiveBuffer
import CanGateway.Wire

/-!
# Port 9009: the command stream

`parse_request_packet` and the connection loop of `tcp_client_handler_9009`.  The block that acts on
a parsed command is the parameter `dispatch`; `dispatchCommand` is its shape in the source.
-/

open ByteMemory StreamParser

namespace CanGateway

variable {σ : Type*}

/-- A parsed command as the dispatch block sees it. -/
structure CommandPacket where
  command : UInt16
  counter : UInt16
  payload : List UInt8
  deriving DecidableEq, Repr

/-- The receive buffer of one 9009 connection. -/
abbrev CommandBuffer := ReceiveBuffer UInt8 bufferSize

/-! ## The code -/

/-- `ParseStatus`. -/
inductive ParseStatus where
  | success
  | errSync
  | errLen
  | errChecksum
  | needMore
  deriving DecidableEq, Repr

/-- `parse_request_packet(buffer, buf_len, &packet)`; a parsed packet is the buffer's front. -/
def parseRequestPacket (buffer : List UInt8) (bufLen : Nat) : ParseStatus :=
  if bufLen < sizeofReqPacket then .needMore
  else
    let header := ReqPacket.ofBytes buffer
    if reverse4bytes header.syncWord ≠ reqSyncWord then .errSync
    else if header.checksum ≠ load32 buffer 0 ^^^ load32 buffer 4 ^^^ load32 buffer 8 then
      .errChecksum
    else
      let payloadLen := (reverse4bytes header.dataLen).toNat
      if payloadLen > bufferSize - sizeofReqPacket then .errLen
      else if payloadLen > bufLen - sizeofReqPacket then .needMore
      else .success

inductive CmdType where
  | canBufQuery
  | canConfig
  | canInfoQuery
  | canStartStop
  | canBroadcastConfig
  | versionQuery
  deriving DecidableEq, Repr

/-- The `switch` on the command word; `none` is its `default`. -/
def CmdType.ofWord (command : UInt16) : Option CmdType :=
  if command = 0x0101 then some .canConfig
  else if command = 0x0102 then some .canInfoQuery
  else if command = 0x0100 then some .canBufQuery
  else if command = 0x0103 then some .canStartStop
  else if command = 0x0104 then some .canBroadcastConfig
  else if command = 0xFF05 then some .versionQuery
  else none

/-- `command_min_payload_size`. -/
def commandMinPayloadSize (command : UInt16) : Nat :=
  match CmdType.ofWord command with
  | some .canConfig => 48
  | some .canInfoQuery => 4
  | some .canBufQuery => 4
  | some .canStartStop => 8
  | some .canBroadcastConfig => 40
  | some .versionQuery => 0
  | none => 0

/-- The block that acts on a parsed command: short payloads are only reported on the console, every
    other command reaches the `switch`, given here as `handle`. -/
def dispatchCommand (handle : σ → Option CmdType → CommandPacket → σ) (world : σ)
    (packet : CommandPacket) : σ :=
  if packet.payload.length < commandMinPayloadSize packet.command then world
  else handle world (CmdType.ofWord packet.command) packet

/-- What the inner loop of `tcp_client_handler_9009` changes. -/
structure CommandState (σ : Type*) where
  buffer : CommandBuffer
  world : σ

/-- One iteration of the inner loop; `none` is too few bytes for a header or `PARSE_NEED_MORE`. -/
def commandIteration (dispatch : σ → CommandPacket → σ) (c : CommandState σ) :
    Option (CommandState σ) :=
  if sizeofReqPacket ≤ c.buffer.used then
    match parseRequestPacket c.buffer.bytes c.buffer.used with
    | .needMore => none
    | .success =>
        let req := ReqPacket.ofBytes c.buffer.bytes
        let payloadLen := (reverse4bytes req.dataLen).toNat
        let packet : CommandPacket :=
          { command := reverse2bytes req.cmdType
            counter := req.counter
            payload := slice c.buffer.bytes sizeofReqPacket payloadLen }
        some { buffer := c.buffer.consume (sizeofReqPacket + payloadLen)
               world := dispatch c.world packet }
    | _ => some { c with buffer := c.buffer.consume 1 }
  else none

/-- The inner loop; `buffered + 1` iterations are always enough (`commandLoop_exits`). -/
def commandLoop (dispatch : σ → CommandPacket → σ) (c : CommandState σ) : CommandState σ :=
  Loop.runFuel (commandIteration dispatch) (c.buffer.used + 1) c

/-- What `recv` can return: a number of bytes (0 is an orderly shutdown) or `-1`. -/
inductive RecvResult where
  | bytes (chunk : List UInt8)
  | failed (eintr : Bool)
  deriving DecidableEq, Repr

/-- A 9009 connection: `isOpen` is false once the loop `while (running)` has been left. -/
structure CommandConnection (σ : Type*) where
  state : CommandState σ
  isOpen : Bool

/-- One pass of `while (running)` in `tcp_client_handler_9009`.  `recvFailed` is the `send_event` of
    a receive error. -/
def commandPass (dispatch : σ → CommandPacket → σ) (recvFailed : σ → σ)
    (conn : CommandConnection σ) (r : RecvResult) : CommandConnection σ :=
  if conn.isOpen then
    match r with
    | .failed true => conn
    | .failed false =>
        { state := { conn.state with world := recvFailed conn.state.world }, isOpen := false }
    | .bytes [] => { conn with isOpen := false }
    | .bytes chunk =>
        let received := { conn.state with buffer := conn.state.buffer.receive chunk }
        { conn with state := commandLoop dispatch received }
  else conn

/-- `tcp_client_handler_9009` on a sequence of `recv` results. -/
def commandConnection (dispatch : σ → CommandPacket → σ) (recvFailed : σ → σ)
    (conn : CommandConnection σ) (rs : List RecvResult) : CommandConnection σ :=
  rs.foldl (commandPass dispatch recvFailed) conn

/-- A fresh connection; the local buffer is not initialised, so its bytes are arbitrary. -/
def freshCommandConnection (stack : Fin bufferSize → UInt8) (world : σ) : CommandConnection σ where
  state :=
    { buffer :=
        { bytes := List.ofFn stack
          used := 0
          length_eq := List.length_ofFn
          used_le := Nat.zero_le _ }
      world := world }
  isOpen := true

/-! ## The reference parser -/

/-- The header rules of `parse_request_packet`. -/
def CommandHeader (s : List UInt8) : Prop :=
  reverse4bytes (ReqPacket.ofBytes s).syncWord = reqSyncWord ∧
    (ReqPacket.ofBytes s).checksum = load32 s 0 ^^^ load32 s 4 ^^^ load32 s 8 ∧
    (reverse4bytes (ReqPacket.ofBytes s).dataLen).toNat ≤ bufferSize - sizeofReqPacket

instance (s : List UInt8) : Decidable (CommandHeader s) := inferInstanceAs (Decidable (_ ∧ _))

def commandPacketLen (s : List UInt8) : Nat :=
  sizeofReqPacket + (reverse4bytes (ReqPacket.ofBytes s).dataLen).toNat

def commandPacket (s : List UInt8) : CommandPacket where
  command := reverse2bytes (ReqPacket.ofBytes s).cmdType
  counter := (ReqPacket.ofBytes s).counter
  payload := slice s sizeofReqPacket (reverse4bytes (ReqPacket.ofBytes s).dataLen).toNat

theorem load32_header_append (s t : List UInt8) (off : Nat) (hoff : off ≤ 12)
    (h : sizeofReqPacket ≤ s.length) : load32 (s ++ t) off = load32 s off := by
  unfold sizeofReqPacket at h
  exact load32_append s t off (by omega)

theorem commandHeader_append (s t : List UInt8) (h : sizeofReqPacket ≤ s.length) :
    CommandHeader (s ++ t) ↔ CommandHeader s := by
  unfold CommandHeader
  rw [ReqPacket.ofBytes_append s t h, load32_header_append s t 0 (by omega) h,
    load32_header_append s t 4 (by omega) h, load32_header_append s t 8 (by omega) h]

theorem commandPacketLen_append (s t : List UInt8) (h : sizeofReqPacket ≤ s.length) :
    commandPacketLen (s ++ t) = commandPacketLen s := by
  rw [commandPacketLen, ReqPacket.ofBytes_append s t h, commandPacketLen]

theorem commandPacket_append (s t : List UInt8) (h : commandPacketLen s ≤ s.length) :
    commandPacket (s ++ t) = commandPacket s := by
  unfold commandPacketLen at h
  unfold commandPacket
  rw [ReqPacket.ofBytes_append s t (by omega), slice_append_left s t _ _ h]

/-- The 9009 packet format. -/
def commandFormat : HeaderFormat UInt8 CommandPacket where
  headerLen := sizeofReqPacket
  Valid := CommandHeader
  decValid := inferInstance
  packetLen := commandPacketLen
  packet := commandPacket
  headerLen_pos := by decide
  headerLen_le _ := Nat.le_add_right _ _
  valid_append := commandHeader_append
  packetLen_append := commandPacketLen_append
  packet_append := commandPacket_append

/-- The greedy parse of a byte string by the 9009 header rules. -/
def parseCommands (s : List UInt8) : List CommandPacket × List UInt8 :=
  parse commandFormat.framing s

/-! ## The parser's verdict on a buffer -/

-- `parse_request_packet` only looks at the unread bytes.
theorem parseRequestPacket_eq (s stale : List UInt8) :
    parseRequestPacket (s ++ stale) s.length =
      if s.length < sizeofReqPacket then .needMore
      else if reverse4bytes (ReqPacket.ofBytes s).syncWord ≠ reqSyncWord then .errSync
      else if (ReqPacket.ofBytes s).checksum ≠ load32 s 0 ^^^ load32 s 4 ^^^ load32 s 8 then
        .errChecksum
      else if bufferSize < commandPacketLen s then .errLen
      else if s.length < commandPacketLen s then .needMore else .success := by
  have hcap : sizeofReqPacket ≤ bufferSize := by decide
  unfold parseRequestPacket
  by_cases hl : s.length < sizeofReqPacket
  · rw [if_pos hl, if_pos hl]
  · have h : sizeofReqPacket ≤ s.length := Nat.le_of_not_lt hl
    rw [if_neg hl, if_neg hl]
    dsimp only
    rw [ReqPacket.ofBytes_append s stale h, load32_header_append s stale 0 (by omega) h,
      load32_header_append s stale 4 (by omega) h, load32_header_append s stale 8 (by omega) h]
    unfold commandPacketLen
    congr 2
    exact if_congr (by omega) rfl (if_congr (by omega) rfl rfl)

-- The four outcomes of `parse_request_packet` match the framing's verdicts.
theorem parseRequestPacket_cases (s stale : List UInt8) (h : sizeofReqPacket ≤ s.length) :
    (parseRequestPacket (s ++ stale) s.length = .needMore ∧ commandFormat.step s = .wait) ∨
    (parseRequestPacket (s ++ stale) s.length = .success ∧ commandPacketLen s ≤ s.length ∧
      commandFormat.step s = .packet (commandPacketLen s) (commandPacket s)) ∨
    (parseRequestPacket (s ++ stale) s.length ≠ .needMore ∧
      parseRequestPacket (s ++ stale) s.length ≠ .success ∧ commandFormat.step s = .skip 1) := by
  rw [parseRequestPacket_eq, if_neg (by omega)]
  have hskip : ¬ CommandHeader s → commandFormat.step s = .skip 1 := commandFormat.step_skip h
  by_cases hsync : reverse4bytes (ReqPacket.ofBytes s).syncWord = reqSyncWord
  · rw [if_neg (not_not.mpr hsync)]
    by_cases hsum : (ReqPacket.ofBytes s).checksum = load32 s 0 ^^^ load32 s 4 ^^^ load32 s 8
    · rw [if_neg (not_not.mpr hsum)]
      have hcap : sizeofReqPacket ≤ bufferSize := by decide
      by_cases hlen : bufferSize < commandPacketLen s
      · rw [if_pos hlen]
        refine .inr (.inr ⟨by decide, by decide, hskip fun hv => ?_⟩)
        have hle := hv.2.2
        unfold commandPacketLen at hlen
        omega
      · rw [if_neg hlen]
        have hok : CommandHeader s := by
          refine ⟨hsync, hsum, ?_⟩
          unfold commandPacketLen at hlen
          omega
        by_cases hmore : s.length < commandPacketLen s
        · rw [if_pos hmore]
          exact .inl ⟨rfl, commandFormat.step_incomplete hmore hok⟩
        · rw [if_neg hmore]
          have hle : commandFormat.packetLen s ≤ s.length := Nat.le_of_not_lt hmore
          exact .inr (.inl ⟨rfl, hle, commandFormat.step_packet hle hok⟩)
    · rw [if_pos hsum]
      exact .inr (.inr ⟨by decide, by decide, hskip fun hv => hsum hv.2.1⟩)
  · rw [if_pos hsync]
    exact .inr (.inr ⟨by decide, by decide, hskip fun hv => hsync hv.1⟩)

/-! ## The loop is the parser -/

theorem CommandBuffer.bytes_eq (buffer : CommandBuffer) :
    buffer.bytes = buffer.pending ++ buffer.bytes.drop buffer.used :=
  (List.take_append_drop _ _).symm

-- One iteration of the inner loop carries out the parser's verdict on the unread bytes.
theorem commandIteration_cases (dispatch : σ → CommandPacket → σ) (c : CommandState σ) :
    (commandFormat.step c.buffer.pending = .wait ∧ commandIteration dispatch c = none) ∨
    (commandFormat.step c.buffer.pending = .skip 1 ∧ 1 ≤ c.buffer.used ∧
      commandIteration dispatch c = some { c with buffer := c.buffer.consume 1 }) ∨
    (∃ n p, commandFormat.step c.buffer.pending = .packet n p ∧ 1 ≤ n ∧ n ≤ c.buffer.used ∧
      commandIteration dispatch c =
        some { buffer := c.buffer.consume n, world := dispatch c.world p }) := by
  have hlen := c.buffer.length_pending
  have hbytes := CommandBuffer.bytes_eq c.buffer
  unfold commandIteration
  by_cases h : sizeofReqPacket ≤ c.buffer.used
  · have hs : sizeofReqPacket ≤ c.buffer.pending.length := by omega
    have hone : 1 ≤ c.buffer.used := Nat.le_trans (by decide) h
    rw [if_pos h]
    obtain ⟨hst, hv⟩ | ⟨hst, hle, hv⟩ | ⟨hst, hst', hv⟩ :=
      parseRequestPacket_cases c.buffer.pending (c.buffer.bytes.drop c.buffer.used) hs
    all_goals rw [← hbytes, hlen] at hst
    · exact .inl ⟨hv, by rw [hst]⟩
    · refine .inr (.inr ⟨_, _, hv, ?_, by omega, ?_⟩)
      · unfold commandPacketLen sizeofReqPacket; omega
      · unfold commandPacketLen at hle
        unfold commandPacketLen commandPacket
        rw [hst, hbytes, ReqPacket.ofBytes_append _ _ hs]
        dsimp only
        rw [slice_append_left _ _ _ _ hle]
    · rw [← hbytes, hlen] at hst'
      refine .inr (.inl ⟨hv, hone, ?_⟩)
      split
      next heq => exact absurd heq hst
      next heq => exact absurd heq hst'
      next => rfl
  · refine .inl ⟨commandFormat.step_short ?_, by rw [if_neg h]⟩
    change c.buffer.pending.length < sizeofReqPacket
    omega

-- Every iteration consumes at least one byte.
theorem commandIteration_used (dispatch : σ → CommandPacket → σ) (c c' : CommandState σ)
    (h : commandIteration dispatch c = some c') : c'.buffer.used < c.buffer.used := by
  obtain ⟨_, hn⟩ | ⟨_, hle, hn⟩ | ⟨n, p, _, hpos, hle, hn⟩ := commandIteration_cases dispatch c
  all_goals rw [h] at hn
  · cases hn
  all_goals
    cases hn
    simp only [ReceiveBuffer.used_consume]
    omega

-- The inner loop terminates on every buffer.
theorem commandLoop_exits (dispatch : σ → CommandPacket → σ) (c : CommandState σ) :
    Loop.Exits (commandIteration dispatch) c (commandLoop dispatch c) :=
  Loop.runFuel_exits (fun c => c.buffer.used) (commandIteration_used dispatch) _ c
    (Nat.lt_succ_self _)

/-- **One inner loop.**  The commands dispatched are the greedy parse of the unread bytes, and the
    buffer keeps its tail. -/
theorem commandLoop_spec (dispatch : σ → CommandPacket → σ) (c : CommandState σ) :
    (commandLoop dispatch c).buffer.pending = (parseCommands c.buffer.pending).2 ∧
      (commandLoop dispatch c).world =
        (parseCommands c.buffer.pending).1.foldl dispatch c.world := by
  obtain ⟨t, hexit, _, hrest, hworld⟩ := exits_parse commandFormat.framing
    (commandIteration dispatch) (fun c => c.buffer.pending) CommandState.world dispatch
    (fun _ => True)
    (fun c _ hw => by
      change commandFormat.step _ = _ at hw
      obtain ⟨_, hn⟩ | ⟨hv, _⟩ | ⟨_, _, hv, _⟩ := commandIteration_cases dispatch c
      · exact hn
      all_goals rw [hv] at hw; cases hw)
    (fun c _ hgo => by
      change commandFormat.step _ ≠ _ at hgo
      change ∃ t', _ ∧ _ ∧ _ = List.drop (commandFormat.step _).size _ ∧
        _ = (commandFormat.step _).packets.foldl _ _
      obtain ⟨hv, _⟩ | ⟨hv, hle, hn⟩ | ⟨n, p, hv, _, hle, hn⟩ := commandIteration_cases dispatch c
      · exact absurd hv hgo
      all_goals
        rw [hv]
        exact ⟨_, hn, trivial, c.buffer.pending_consume _ hle, rfl⟩)
    c trivial
  rw [(commandLoop_exits dispatch c).unique hexit]
  exact ⟨hrest, hworld⟩

-- After the inner loop there is room in the buffer: an incomplete command is below the limit.
theorem commandLoop_used_lt (dispatch : σ → CommandPacket → σ) (c : CommandState σ) :
    (commandLoop dispatch c).buffer.used < bufferSize := by
  rw [← ReceiveBuffer.length_pending, (commandLoop_spec dispatch c).1]
  obtain hl | ⟨hl, hok⟩ := commandFormat.tail_short c.buffer.pending
  · exact Nat.lt_trans hl (by decide)
  · have hbound := hok.2.2
    change _ < commandPacketLen _ at hl
    unfold commandPacketLen at hl
    have hcap : sizeofReqPacket ≤ bufferSize := by decide
    exact Nat.lt_of_lt_of_le hl (by omega)

/-! ## The connection -/

/-- Every chunk is one `recv` can have returned into the free part of the buffer. -/
def CommandChunksFit (dispatch : σ → CommandPacket → σ) :
    CommandState σ → List (List UInt8) → Prop
  | _, [] => True
  | c, chunk :: chunks =>
      0 < chunk.length ∧ chunk.length ≤ bufferSize - c.buffer.used ∧
        CommandChunksFit dispatch
          (commandLoop dispatch { c with buffer := c.buffer.receive chunk }) chunks

theorem commandPass_chunk (dispatch : σ → CommandPacket → σ) (recvFailed : σ → σ)
    (c : CommandState σ) (chunk : List UInt8) (h : 0 < chunk.length) :
    commandPass dispatch recvFailed { state := c, isOpen := true } (.bytes chunk) =
      { state := commandLoop dispatch { c with buffer := c.buffer.receive chunk }
        isOpen := true } := by
  cases chunk with
  | nil => cases h
  | cons b bs => rfl

-- A connection that only receives data stays open and parses what was unread and the chunks.
theorem commandConnection_spec (dispatch : σ → CommandPacket → σ) (recvFailed : σ → σ)
    (c : CommandState σ) (chunks : List (List UInt8)) (hfit : CommandChunksFit dispatch c chunks)
    (hc : commandFormat.step c.buffer.pending = .wait) :
    let conn := commandConnection dispatch recvFailed { state := c, isOpen := true }
      (chunks.map .bytes)
    conn.isOpen = true ∧
      conn.state.buffer.pending = (parseCommands (c.buffer.pending ++ chunks.flatten)).2 ∧
      conn.state.world =
        (parseCommands (c.buffer.pending ++ chunks.flatten)).1.foldl dispatch c.world := by
  dsimp only
  induction chunks generalizing c with
  | nil =>
      have hnil := parse_wait commandFormat.framing hc
      rw [List.flatten_nil, List.append_nil, parseCommands, hnil]
      exact ⟨rfl, rfl, rfl⟩
  | cons chunk chunks ih =>
      obtain ⟨hpos, hlen, hrest⟩ := hfit
      obtain ⟨hp, hw⟩ := commandLoop_spec dispatch { c with buffer := c.buffer.receive chunk }
      rw [ReceiveBuffer.pending_receive _ _ hlen] at hp hw
      have htail := step_parse_tail commandFormat.framing (c.buffer.pending ++ chunk)
      obtain ⟨ho, hp', hw'⟩ := ih _ hrest (by rw [hp]; exact htail)
      rw [commandConnection, List.map_cons, List.foldl_cons,
        commandPass_chunk dispatch recvFailed c chunk hpos]
      rw [commandConnection] at ho hp' hw'
      refine ⟨ho, ?_, ?_⟩
      · rw [hp', hp, List.flatten_cons, ← List.append_assoc]
        unfold parseCommands
        rw [parse_append commandFormat.framing (c.buffer.pending ++ chunk) chunks.flatten]
      · rw [hw', hp, hw, List.flatten_cons, ← List.append_assoc]
        unfold parseCommands
        rw [parse_append commandFormat.framing (c.buffer.pending ++ chunk) chunks.flatten,
          List.foldl_append]

-- A stream that arrives byte by byte always fits.
theorem commandChunksFit_bytes (dispatch : σ → CommandPacket → σ) (c : CommandState σ)
    (bytes : List UInt8) (hc : c.buffer.used < bufferSize) :
    CommandChunksFit dispatch c (bytes.map fun b => [b]) := by
  induction bytes generalizing c with
  | nil => trivial
  | cons b bytes ih =>
      exact ⟨Nat.one_pos, by rw [List.length_singleton]; omega, ih _ (commandLoop_used_lt _ _)⟩

-- Prefixes of fitting chunks fit.
theorem CommandChunksFit.take {dispatch : σ → CommandPacket → σ} {c : CommandState σ}
    {chunks : List (List UInt8)} (h : CommandChunksFit dispatch c chunks) (n : Nat) :
    CommandChunksFit dispatch c (chunks.take n) := by
  induction chunks generalizing c n with
  | nil => rw [List.take_nil]; exact h
  | cons chunk chunks ih =>
      cases n with
      | zero => trivial
      | succ n => exact ⟨h.1, h.2.1, ih h.2.2 n⟩

-- What a connection that only receives data leaves in its buffer is below the packet limit.
theorem commandConnection_used_lt (dispatch : σ → CommandPacket → σ) (recvFailed : σ → σ)
    (c : CommandState σ) (chunks : List (List UInt8)) (hfit : CommandChunksFit dispatch c chunks)
    (hc : c.buffer.used < bufferSize) :
    (commandConnection dispatch recvFailed { state := c, isOpen := true }
      (chunks.map .bytes)).state.buffer.used < bufferSize := by
  induction chunks generalizing c with
  | nil => exact hc
  | cons chunk chunks ih =>
      rw [commandConnection, List.map_cons, List.foldl_cons,
        commandPass_chunk dispatch recvFailed c chunk hfit.1]
      exact ih _ hfit.2.2 (commandLoop_used_lt _ _)

theorem freshCommandConnection_pending (stack : Fin bufferSize → UInt8) (world : σ) :
    (freshCommandConnection stack world).state.buffer.pending = [] := rfl

/-- **Port 9009 does not see TCP segmentation and never wedges.**  The commands dispatched are the
    greedy parse of the whole stream, the connection stays open with room for the next `recv`, and
    the inner loop stops on every buffer, below the packet limit. -/
theorem command_segmentation (dispatch : σ → CommandPacket → σ)
    (recvFailed : List CommandPacket × σ → List CommandPacket × σ)
    (stack : Fin bufferSize → UInt8) (world : σ) (chunks : List (List UInt8))
    (hfit : CommandChunksFit (logged dispatch)
      (freshCommandConnection stack (([] : List CommandPacket), world)).state chunks) :
    (commandConnection (logged dispatch) recvFailed (freshCommandConnection stack ([], world))
        (chunks.map .bytes)).state.world =
      ((parseCommands chunks.flatten).1, (parseCommands chunks.flatten).1.foldl dispatch world) ∧
    (∀ n, (commandConnection (logged dispatch) recvFailed (freshCommandConnection stack ([], world))
          ((chunks.take n).map .bytes)).isOpen = true ∧
        (commandConnection (logged dispatch) recvFailed (freshCommandConnection stack ([], world))
          ((chunks.take n).map .bytes)).state.buffer.used < bufferSize) ∧
    ∀ c : CommandState σ, Loop.Exits (commandIteration dispatch) c (commandLoop dispatch c) ∧
      (commandLoop dispatch c).buffer.used < bufferSize := by
  have hwait : commandFormat.step
      (freshCommandConnection stack (([] : List CommandPacket), world)).state.buffer.pending =
        .wait := by
    rw [freshCommandConnection_pending]
    exact commandFormat.step_short (Nat.zero_lt_succ _)
  have hused : (freshCommandConnection stack
      (([] : List CommandPacket), world)).state.buffer.used < bufferSize := Nat.zero_lt_succ _
  refine ⟨?_, fun n => ⟨?_, ?_⟩,
    fun c => ⟨commandLoop_exits dispatch c, commandLoop_used_lt dispatch c⟩⟩
  · obtain ⟨_, _, hw⟩ := commandConnection_spec (logged dispatch) recvFailed _ chunks hfit hwait
    rw [freshCommandConnection_pending, List.nil_append] at hw
    exact hw.trans (foldl_logged dispatch _ [] world)
  · exact (commandConnection_spec (logged dispatch) recvFailed _ _ (hfit.take n) hwait).1
  · exact commandConnection_used_lt (logged dispatch) recvFailed _ _ (hfit.take n) hused

-- The theorem for a version query that arrives byte by byte.
theorem command_segmentation_bytewise :
    (commandConnection (logged fun (n : Nat) _ => n + 1) id
      (freshCommandConnection (fun _ => 0) ([], 0))
      ((([0x03, 0xCC, 0xF0, 0xFF, 0, 0, 0, 4, 0, 7, 0xFF, 0x05, 0x03, 0xCB, 0x0F, 0xFE,
        0, 0, 0, 0xAA] : List UInt8).map fun b => [b]).map .bytes)).state.world =
    ((parseCommands [0x03, 0xCC, 0xF0, 0xFF, 0, 0, 0, 4, 0, 7, 0xFF, 0x05, 0x03, 0xCB, 0x0F, 0xFE,
        0, 0, 0, 0xAA]).1,
      (parseCommands [0x03, 0xCC, 0xF0, 0xFF, 0, 0, 0, 4, 0, 7, 0xFF, 0x05, 0x03, 0xCB, 0x0F, 0xFE,
        0, 0, 0, 0xAA]).1.foldl (fun n _ => n + 1) 0) :=
  (command_segmentation (fun (n : Nat) _ => n + 1) id (fun _ => 0) 0 _
    (commandChunksFit_bytes _ _ _ (Nat.zero_lt_succ _))).1

/-- A version query is complete with its last byte and not before. -/
example : ∀ n < 21, parseRequestPacket
    (([0x03, 0xCC, 0xF0, 0xFF, 0, 0, 0, 4, 0, 7, 0xFF, 0x05, 0x03, 0xCB, 0x0F, 0xFE,
      0, 0, 0, 0xAA] : List UInt8).take n) n = if n = 20 then .success else .needMore := by
  decide

end CanGateway
