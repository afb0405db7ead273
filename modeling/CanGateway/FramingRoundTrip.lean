import Mathlib.Tactic.IntervalCases
import CanGateway.CommandStream
import CanGateway.DownloadStream
import CanGateway.RecordChecksum

/-!
# Decoding what was encoded

Packets encoded with the 9012 or the 9009 header, with junk between them in which no header can be
read, come out of the connection's loop as they went in, however the stream is cut up.
-/

open ByteMemory StreamParser

namespace CanGateway

variable {σ : Type*}

/-! ## The common part of the headers -/

-- Byte `b` of a reversed word is byte `3 - b` of the word.
theorem getLsbD_reverse4bytes (value : UInt32) (i : Nat) (hi : i < 32) :
    (reverse4bytes value).toBitVec.getLsbD i =
      value.toBitVec.getLsbD (8 * (3 - i / 8) + i % 8) := by
  have h24 : UInt32.toBitVec 24 % 32 = 24#32 := by decide
  have h8 : UInt32.toBitVec 8 % 32 = 8#32 := by decide
  simp only [reverse4bytes, UInt32.toBitVec_or, UInt32.toBitVec_and, UInt32.toBitVec_shiftLeft,
    UInt32.toBitVec_shiftRight, h24, h8]
  generalize value.toBitVec = bits
  interval_cases i <;> simp

theorem reverse4bytes_reverse4bytes (value : UInt32) :
    reverse4bytes (reverse4bytes value) = value := by
  apply UInt32.toBitVec_inj.mp
  apply BitVec.eq_of_getLsbD_eq
  intro i hi
  rw [getLsbD_reverse4bytes _ i hi, getLsbD_reverse4bytes _ _ (by omega)]
  congr 1
  omega

theorem getLsbD_reverse2bytes (value : UInt16) (i : Nat) (hi : i < 16) :
    (reverse2bytes value).toBitVec.getLsbD i =
      value.toBitVec.getLsbD (8 * (1 - i / 8) + i % 8) := by
  have h8 : UInt16.toBitVec 8 % 16 = 8#16 := by decide
  simp only [reverse2bytes, UInt16.toBitVec_or, UInt16.toBitVec_and, UInt16.toBitVec_shiftLeft,
    UInt16.toBitVec_shiftRight, h8]
  generalize value.toBitVec = bits
  interval_cases i <;> simp

theorem reverse2bytes_reverse2bytes (value : UInt16) :
    reverse2bytes (reverse2bytes value) = value := by
  apply UInt16.toBitVec_inj.mp
  apply BitVec.eq_of_getLsbD_eq
  intro i hi
  rw [getLsbD_reverse2bytes _ i hi, getLsbD_reverse2bytes _ _ (by omega)]
  congr 1
  omega

/-- Sync word, length, counter and command, all but the counter in network byte order. -/
def frameHead (syncWord : UInt32) (payloadLen : Nat) (counter cmdType : UInt16) : List UInt8 :=
  store32 (reverse4bytes syncWord) ++ (store32 (reverse4bytes (UInt32.ofNat payloadLen)) ++
    (store16 counter ++ store16 (reverse2bytes cmdType)))

theorem length_frameHead (syncWord : UInt32) (payloadLen : Nat) (counter cmdType : UInt16) :
    (frameHead syncWord payloadLen counter cmdType).length = 12 := by
  simp [frameHead]

/-- The head with its XOR checksum behind it. -/
def sealedHead (syncWord : UInt32) (payloadLen : Nat) (counter cmdType : UInt16) : List UInt8 :=
  let head := frameHead syncWord payloadLen counter cmdType
  head ++ store32 (calculateXorChecksum head 12)

theorem length_sealedHead (syncWord : UInt32) (payloadLen : Nat) (counter cmdType : UInt16) :
    (sealedHead syncWord payloadLen counter cmdType).length = 16 := by
  rw [sealedHead, List.length_append, length_frameHead, length_store32]

section SealedHead

variable (syncWord : UInt32) (payloadLen : Nat) (counter cmdType : UInt16) (rest : List UInt8)

-- The fields of a sealed head, whatever follows it.
theorem load_sealedHead :
    let s := sealedHead syncWord payloadLen counter cmdType ++ rest
    load32 s 0 = reverse4bytes syncWord ∧
      load32 s 4 = reverse4bytes (UInt32.ofNat payloadLen) ∧ load16 s 8 = counter ∧
      load16 s 10 = reverse2bytes cmdType ∧ load32 s 12 = calculateXorChecksum s 12 := by
  intro s
  have hlen := length_frameHead syncWord payloadLen counter cmdType
  have hs : s = frameHead syncWord payloadLen counter cmdType ++
      (store32 (calculateXorChecksum (frameHead syncWord payloadLen counter cmdType) 12) ++
        rest) := List.append_assoc _ _ _
  refine ⟨?_, ?_, ?_, ?_, ?_⟩
  · rw [hs, load32_append _ _ 0 (by omega)]
    exact load32_store32 [] _ _ 0 rfl
  · rw [hs, load32_append _ _ 4 (by omega)]
    exact load32_store32 (store32 _) _ _ 4 (length_store32 _)
  · rw [hs, load16_append _ _ 8 (by omega), frameHead, ← List.append_assoc]
    exact load16_store16 (store32 _ ++ store32 _) _ _ 8 (by simp)
  · rw [hs, load16_append _ _ 10 (by omega), frameHead, ← List.append_assoc, ← List.append_assoc,
      ← List.append_nil (store16 (reverse2bytes cmdType))]
    exact load16_store16 (store32 _ ++ store32 _ ++ store16 _) _ _ 10 (by simp)
  · rw [hs, load32_store32 _ _ _ 12 hlen, calculateXorChecksum_append _ _ 12 (by omega)]

-- The checksum as `parse_request_packet` computes it.
theorem calculateXorChecksum_words (s : List UInt8) (h : 12 ≤ s.length) :
    calculateXorChecksum s 12 = load32 s 0 ^^^ load32 s 4 ^^^ load32 s 8 := by
  rw [show 12 = 3 * 4 from rfl, calculateXorChecksum_eq s 3 h]
  show (0 ^^^ word s 0) ^^^ word s 1 ^^^ word s 2 = _
  rw [UInt32.zero_xor]
  rfl

end SealedHead

/-! ## Port 9012 -/

/-- A 9012 packet with its counter; its payload fits the half-packet buffer. -/
structure DownloadFrame where
  counter : UInt16
  packet : DataPacket
  length_le : packet.payload.length ≤ downloadCapacity - sizeofDataReqPacket

def DownloadFrame.toBytes (frame : DownloadFrame) : List UInt8 :=
  sealedHead pcArmDataWord frame.packet.payload.length frame.counter frame.packet.command ++
    (store32 (reverse4bytes frame.packet.channel) ++ frame.packet.payload)

theorem DownloadFrame.length_toBytes (frame : DownloadFrame) :
    frame.toBytes.length = sizeofDataReqPacket + frame.packet.payload.length := by
  rw [toBytes, List.length_append, List.length_append, length_sealedHead, length_store32,
    ← Nat.add_assoc]
  rfl

/-- Sixteen bytes that pass the sync, checksum and length tests of port 9012. -/
def DownloadHeaderAt (s : List UInt8) : Prop := 16 ≤ s.length ∧ DownloadHeader s

instance : DecidablePred DownloadHeaderAt := fun _ => inferInstanceAs (Decidable (_ ∧ _))

theorem payloadLen_toNat {payload : List UInt8} {limit : Nat} (h : payload.length ≤ limit)
    (hlimit : limit < 2 ^ 32) :
    (reverse4bytes (reverse4bytes (UInt32.ofNat payload.length))).toNat = payload.length := by
  rw [reverse4bytes_reverse4bytes]
  exact UInt32.toNat_ofNat_of_lt' (Nat.lt_of_le_of_lt h hlimit)

theorem DownloadFrame.ofBytes_toBytes (frame : DownloadFrame) (rest : List UInt8) :
    DataReqPacket.ofBytes (frame.toBytes ++ rest) =
      { syncWord := reverse4bytes pcArmDataWord
        dataLen := reverse4bytes (UInt32.ofNat frame.packet.payload.length)
        counter := frame.counter
        cmdType := reverse2bytes frame.packet.command
        checksum := calculateXorChecksum (frame.toBytes ++ rest) 12
        channel := reverse4bytes frame.packet.channel } := by
  have hs : frame.toBytes ++ rest =
      sealedHead pcArmDataWord frame.packet.payload.length frame.counter frame.packet.command ++
        (store32 (reverse4bytes frame.packet.channel) ++ (frame.packet.payload ++ rest)) := by
    rw [toBytes, List.append_assoc, List.append_assoc]
  obtain ⟨hsync, hlen, hcounter, hcommand, hchecksum⟩ := load_sealedHead pcArmDataWord
    frame.packet.payload.length frame.counter frame.packet.command
    (store32 (reverse4bytes frame.packet.channel) ++ (frame.packet.payload ++ rest))
  rw [← hs] at hsync hlen hcounter hcommand hchecksum
  have hchannel : load32 (frame.toBytes ++ rest) 16 = reverse4bytes frame.packet.channel := by
    rw [hs]
    exact load32_store32 _ _ _ 16 (length_sealedHead _ _ _ _)
  rw [DataReqPacket.ofBytes, hsync, hlen, hcounter, hcommand, hchecksum, hchannel]

-- The 9012 header is read back, and the payload behind it.
theorem downloadFormat_encodes :
    downloadFormat.Encodes DownloadFrame.toBytes DownloadFrame.packet where
  valid frame rest := by
    show DownloadHeader (frame.toBytes ++ rest)
    rw [DownloadHeader, frame.ofBytes_toBytes rest]
    refine ⟨reverse4bytes_reverse4bytes _, rfl, ?_⟩
    show (reverse4bytes (reverse4bytes _)).toNat ≤ _
    rw [payloadLen_toNat frame.length_le (by decide)]
    exact frame.length_le
  packetLen frame rest := by
    show downloadPacketLen (frame.toBytes ++ rest) = _
    rw [downloadPacketLen, frame.ofBytes_toBytes rest, frame.length_toBytes,
      payloadLen_toNat frame.length_le (by decide)]
  packet frame rest := by
    show downloadPacket (frame.toBytes ++ rest) = _
    rw [downloadPacket, frame.ofBytes_toBytes rest]
    have hpayload : slice (frame.toBytes ++ rest) sizeofDataReqPacket
        frame.packet.payload.length = frame.packet.payload := by
      have hlen : (sealedHead pcArmDataWord frame.packet.payload.length frame.counter
          frame.packet.command ++ store32 (reverse4bytes frame.packet.channel)).length =
            sizeofDataReqPacket := by
        rw [List.length_append, length_sealedHead, length_store32]
        rfl
      rw [DownloadFrame.toBytes, ← List.append_assoc, List.append_assoc _ _ rest, slice, ← hlen,
        List.drop_left, List.take_left]
    have hnat := payloadLen_toNat frame.length_le (show downloadCapacity - sizeofDataReqPacket <
      2 ^ 32 by decide)
    rw [reverse4bytes_reverse4bytes] at hnat
    simp only [reverse2bytes_reverse2bytes, reverse4bytes_reverse4bytes, hnat, hpayload]

/-- **Port 9012 decodes what was encoded.**  A stream of encoded packets with clean gaps between
    them, in whatever chunks it arrives, is consumed as exactly these packets in order, and of the
    gap at the end less than a header is left. -/
theorem download_round_trip (dispatch : σ → DataPacket → σ) (world : σ)
    (items : List (List UInt8 × DownloadFrame)) (trailing : List UInt8)
    (hclean : CleanGaps DownloadFrame.toBytes DownloadHeaderAt items trailing)
    (chunks : List (List UInt8))
    (hchunks : chunks.flatten = stream DownloadFrame.toBytes items trailing)
    (hfit : ChunksFit (logged dispatch) (freshDownloadStream, ([], world)) chunks) :
    let packets := items.map fun item => item.2.packet
    let final := feedDownload (logged dispatch) (freshDownloadStream, ([], world)) chunks
    final.2 = (packets, packets.foldl dispatch world) ∧
      ∃ eaten, trailing = eaten ++ final.1.pending ∧ final.1.pending.length ≤ 19 := by
  intro packets final
  obtain ⟨hworld, hpending, _⟩ := download_segmentation dispatch world chunks hfit
  have hheader : ∀ s, sizeofDataReqPacket ≤ s.length → DownloadHeader s → DownloadHeaderAt s :=
    fun s hs hok => ⟨Nat.le_trans (by decide) hs, hok⟩
  obtain ⟨eaten, rest, htrailing, hrest, hparse⟩ :=
    downloadFormat.parse_stream hheader downloadFormat_encodes items trailing hclean
  have hall : parseDownload chunks.flatten = (packets, rest) := by
    rw [hchunks]
    exact hparse
  rw [hall] at hworld hpending
  refine ⟨hworld, eaten, ?_, ?_⟩
  · rw [hpending]
    exact htrailing
  · rw [hpending]
    exact Nat.le_of_lt_succ hrest

-- A sync word cut short before a packet whose payload is a whole one.
theorem download_round_trip_false_sync :
    let frame : DownloadFrame := ⟨7, ⟨5, 3, [0x04, 0xCC, 0xF0, 0xFF]⟩, by decide⟩
    let bytes := stream DownloadFrame.toBytes [([0x04, 0xCC, 0xF0], frame)] [0x04]
    (feedDownload (logged fun (n : Nat) _ => n + 1) (freshDownloadStream, ([], 0))
      (bytes.map fun b => [b])).2 = ([⟨5, 3, [0x04, 0xCC, 0xF0, 0xFF]⟩], 1) := by
  intro frame bytes
  have hclean : CleanGaps DownloadFrame.toBytes DownloadHeaderAt
      [([0x04, 0xCC, 0xF0], frame)] [0x04] :=
    ⟨by decide, show Clean DownloadHeaderAt [0x04] [] by decide⟩
  have hflat : (bytes.map fun b => [b]).flatten = bytes := by
    rw [← List.flatMap_def, List.flatMap_singleton']
  have hused : freshDownloadStream.used < downloadCapacity := by
    rw [freshDownloadStream, ReceiveBuffer.used_empty]
    decide
  exact (download_round_trip (fun (n : Nat) _ => n + 1) 0 _ _ hclean _ hflat
    (chunksFit_bytes _ _ _ hused)).1

/-! ## Port 9009 -/

/-- A 9009 command; its payload is within the packet limit. -/
structure CommandFrame where
  packet : CommandPacket
  length_le : packet.payload.length ≤ bufferSize - sizeofReqPacket

def CommandFrame.toBytes (frame : CommandFrame) : List UInt8 :=
  sealedHead reqSyncWord frame.packet.payload.length frame.packet.counter frame.packet.command ++
    frame.packet.payload

theorem CommandFrame.length_toBytes (frame : CommandFrame) :
    frame.toBytes.length = sizeofReqPacket + frame.packet.payload.length := by
  rw [toBytes, List.length_append, length_sealedHead]
  rfl

/-- Sixteen bytes that pass the tests of `parse_request_packet`. -/
def CommandHeaderAt (s : List UInt8) : Prop := 16 ≤ s.length ∧ CommandHeader s

instance : DecidablePred CommandHeaderAt := fun _ => inferInstanceAs (Decidable (_ ∧ _))

theorem CommandFrame.ofBytes_toBytes (frame : CommandFrame) (rest : List UInt8) :
    ReqPacket.ofBytes (frame.toBytes ++ rest) =
      { syncWord := reverse4bytes reqSyncWord
        dataLen := reverse4bytes (UInt32.ofNat frame.packet.payload.length)
        counter := frame.packet.counter
        cmdType := reverse2bytes frame.packet.command
        checksum := calculateXorChecksum (frame.toBytes ++ rest) 12 } := by
  obtain ⟨hsync, hlen, hcounter, hcommand, hchecksum⟩ := load_sealedHead reqSyncWord
    frame.packet.payload.length frame.packet.counter frame.packet.command
    (frame.packet.payload ++ rest)
  rw [← List.append_assoc] at hsync hlen hcounter hcommand hchecksum
  rw [ReqPacket.ofBytes, toBytes, hsync, hlen, hcounter, hcommand, hchecksum]

-- The 9009 header is read back, and the payload behind it.
theorem commandFormat_encodes :
    commandFormat.Encodes CommandFrame.toBytes CommandFrame.packet where
  valid frame rest := by
    have hlen : 12 ≤ (frame.toBytes ++ rest).length := by
      rw [List.length_append, frame.length_toBytes]
      exact Nat.le_trans (by decide) (Nat.le_trans (Nat.le_add_right sizeofReqPacket _)
        (Nat.le_add_right _ _))
    show CommandHeader (frame.toBytes ++ rest)
    rw [CommandHeader, frame.ofBytes_toBytes rest, ← calculateXorChecksum_words _ hlen]
    refine ⟨reverse4bytes_reverse4bytes _, rfl, ?_⟩
    show (reverse4bytes (reverse4bytes _)).toNat ≤ _
    rw [payloadLen_toNat frame.length_le (by decide)]
    exact frame.length_le
  packetLen frame rest := by
    show commandPacketLen (frame.toBytes ++ rest) = _
    rw [commandPacketLen, frame.ofBytes_toBytes rest, frame.length_toBytes,
      payloadLen_toNat frame.length_le (by decide)]
  packet frame rest := by
    show commandPacket (frame.toBytes ++ rest) = _
    have hpayload : slice (frame.toBytes ++ rest) sizeofReqPacket
        frame.packet.payload.length = frame.packet.payload := by
      have hlen := length_sealedHead reqSyncWord frame.packet.payload.length
        frame.packet.counter frame.packet.command
      rw [CommandFrame.toBytes, List.append_assoc, slice,
        show sizeofReqPacket = _ from hlen.symm, List.drop_left, List.take_left]
    have hnat := payloadLen_toNat frame.length_le (show bufferSize - sizeofReqPacket < 2 ^ 32 by
      decide)
    rw [reverse4bytes_reverse4bytes] at hnat
    rw [commandPacket, frame.ofBytes_toBytes rest]
    simp only [reverse2bytes_reverse2bytes, reverse4bytes_reverse4bytes, hnat, hpayload]

/-- What the `switch` is called with, command by command: the handler of a known command, or the
    default. -/
def switchCalls (packets : List CommandPacket) : List (Option CmdType × CommandPacket) :=
  (packets.filter fun packet =>
    commandMinPayloadSize packet.command ≤ packet.payload.length).map fun packet =>
      (CmdType.ofWord packet.command, packet)

theorem foldl_dispatchCommand (handle : σ → Option CmdType → CommandPacket → σ) (world : σ)
    (packets : List CommandPacket) :
    packets.foldl (dispatchCommand handle) world =
      (switchCalls packets).foldl (fun w call => handle w call.1 call.2) world := by
  induction packets generalizing world with
  | nil => rfl
  | cons packet packets ih =>
      rw [List.foldl_cons, ih, switchCalls, switchCalls, dispatchCommand]
      by_cases hshort : packet.payload.length < commandMinPayloadSize packet.command
      · rw [if_pos hshort, List.filter_cons_of_neg]
        rw [decide_eq_true_eq]
        omega
      · rw [if_neg hshort, List.filter_cons_of_pos]
        · rfl
        · rw [decide_eq_true_eq]
          omega

/-- **Port 9009 decodes what was encoded.**  A stream of encoded commands with clean gaps between
    them, in whatever chunks it arrives, is consumed as exactly these commands in order; the handler
    runs once for each command with a long enough payload, and for no other. -/
theorem command_round_trip (handle : σ → Option CmdType → CommandPacket → σ)
    (recvFailed : List CommandPacket × σ → List CommandPacket × σ)
    (stack : Fin bufferSize → UInt8) (world : σ)
    (items : List (List UInt8 × CommandFrame)) (trailing : List UInt8)
    (hclean : CleanGaps CommandFrame.toBytes CommandHeaderAt items trailing)
    (chunks : List (List UInt8))
    (hchunks : chunks.flatten = stream CommandFrame.toBytes items trailing)
    (hfit : CommandChunksFit (logged (dispatchCommand handle))
      (freshCommandConnection stack (([] : List CommandPacket), world)).state chunks) :
    let packets := items.map fun item => item.2.packet
    let final := commandConnection (logged (dispatchCommand handle)) recvFailed
      (freshCommandConnection stack ([], world)) (chunks.map .bytes)
    final.isOpen = true ∧
      final.state.world = (packets,
        (switchCalls packets).foldl (fun w call => handle w call.1 call.2) world) := by
  intro packets final
  obtain ⟨hworld, hopen, _⟩ := command_segmentation (dispatchCommand handle) recvFailed stack world
    chunks hfit
  obtain ⟨_, rest, _, _, hparse⟩ := commandFormat.parse_stream
    (fun s hs hok => ⟨hs, hok⟩) commandFormat_encodes items trailing hclean
  have hall : parseCommands chunks.flatten = (packets, rest) := by
    rw [hchunks]
    exact hparse
  constructor
  · have hfinal := (hopen chunks.length).1
    rw [List.take_length] at hfinal
    exact hfinal
  · rw [hall, foldl_dispatchCommand] at hworld
    exact hworld

-- A short configuration command is consumed without a handler; the version query behind it has one.
theorem command_round_trip_short_first :
    let short : CommandFrame := ⟨⟨0x0101, 1, [0]⟩, by decide⟩
    let query : CommandFrame := ⟨⟨0xFF05, 2, [0, 0, 0, 0xAA]⟩, by decide⟩
    let bytes := stream CommandFrame.toBytes [([0x03, 0xCC], short), ([], query)] [0x21]
    (commandConnection (logged (dispatchCommand fun (calls : List (Option CmdType)) type _ =>
        calls ++ [type])) id (freshCommandConnection (fun _ => 0) ([], []))
      ((bytes.map fun b => [b]).map .bytes)).state.world =
        ([⟨0x0101, 1, [0]⟩, ⟨0xFF05, 2, [0, 0, 0, 0xAA]⟩], [some .versionQuery]) := by
  intro short query bytes
  have hclean : CleanGaps CommandFrame.toBytes CommandHeaderAt
      [([0x03, 0xCC], short), ([], query)] [0x21] :=
    ⟨by decide, by decide, show Clean CommandHeaderAt [0x21] [] by decide⟩
  have hflat : (bytes.map fun b => [b]).flatten = bytes := by
    rw [← List.flatMap_def, List.flatMap_singleton']
  exact (command_round_trip (fun (calls : List (Option CmdType)) type _ => calls ++ [type]) id
    (fun _ => 0) [] _ _ hclean _ hflat (commandChunksFit_bytes _ _ _ (Nat.zero_lt_succ _))).2

end CanGateway
