import CanGateway.Library.StreamParser
import CanGateway.Library.ReceiveBuffer
import CanGateway.Wire

/-!
# Port 9012: the download stream

`process_download_data_batch` walks over the half-packet buffer of one connection with an `offset`.
The loop is translated as its body (`batchIteration`); what is done with a complete packet is the
parameter `dispatch`, since nothing a packet does flows back into the parsing.
-/

open ByteMemory StreamParser

namespace CanGateway

variable {σ : Type*}

/-- A complete 9012 packet as the dispatch code sees it. -/
structure DataPacket where
  command : UInt16
  channel : UInt32
  payload : List UInt8
  deriving DecidableEq, Repr

/-- `sizeof(stream->bytes)`. -/
def downloadCapacity : Nat := bufferSize1 * 2

/-- `DownloadStream`: the half-packet buffer each 9012 connection owns. -/
abbrev DownloadStream := ReceiveBuffer UInt8 downloadCapacity

/-- `calloc(1, sizeof(*stream))`. -/
def freshDownloadStream : DownloadStream := ReceiveBuffer.empty downloadCapacity 0

/-! ## The code -/

/-- What the loop of `process_download_data_batch` changes: `offset`, and the program state the
    dispatched packets act on. -/
structure BatchState (σ : Type*) where
  offset : Nat
  world : σ

/-- One iteration of the loop; `none` is the loop condition failing, or `break` on a half packet. -/
def batchIteration (dispatch : σ → DataPacket → σ) (stream : DownloadStream)
    (b : BatchState σ) : Option (BatchState σ) :=
  if b.offset + sizeofDataReqPacket ≤ stream.used then
    let buffer := stream.bytes.drop b.offset
    let req := DataReqPacket.ofBytes buffer
    let payloadSize := (reverse4bytes req.dataLen).toNat
    if reverse4bytes req.syncWord ≠ pcArmDataWord then
      some { b with offset := b.offset + 1 }
    else if req.checksum ≠ calculateXorChecksum buffer 12 ∨
        payloadSize > downloadCapacity - sizeofDataReqPacket then
      -- the header cannot be trusted, so neither can its length
      some { b with offset := b.offset + 1 }
    else if sizeofDataReqPacket + payloadSize > stream.used - b.offset then none
    else
      let packet : DataPacket :=
        { command := reverse2bytes req.cmdType
          channel := reverse4bytes req.channel
          payload := slice buffer sizeofDataReqPacket payloadSize }
      some { offset := b.offset + (sizeofDataReqPacket + payloadSize)
             world := dispatch b.world packet }
  else none

/-- The code after the loop: move the unread rest to the front. -/
def compactStream (stream : DownloadStream) (offset : Nat) : DownloadStream :=
  if offset > 0 then
    if offset < stream.used then stream.consume offset else stream.clear
  else stream

/-- `process_download_data_batch`; `stream->used + 1` iterations are always enough. -/
def processDownloadDataBatch (dispatch : σ → DataPacket → σ) (stream : DownloadStream) (world : σ) :
    DownloadStream × σ :=
  let b := Loop.runFuel (batchIteration dispatch stream) (stream.used + 1) ⟨0, world⟩
  (compactStream stream b.offset, b.world)

/-- `receive_size` of `tcp_client_handler_9012`: what the next `recv` asks for. -/
def receiveSize (stream : DownloadStream) : Nat :=
  if stream.space < bufferSize1 then stream.space else bufferSize1

/-- Each received chunk is appended and the batch processed, as the handler's loop does. -/
def feedDownload (dispatch : σ → DataPacket → σ) :
    DownloadStream × σ → List (List UInt8) → DownloadStream × σ
  | st, [] => st
  | st, chunk :: chunks =>
      feedDownload dispatch (processDownloadDataBatch dispatch (st.1.receive chunk) st.2) chunks

/-- Every chunk is one `recv` can have returned: no longer than the size asked for. -/
def ChunksFit (dispatch : σ → DataPacket → σ) : DownloadStream × σ → List (List UInt8) → Prop
  | _, [] => True
  | st, chunk :: chunks =>
      chunk.length ≤ receiveSize st.1 ∧
        ChunksFit dispatch (processDownloadDataBatch dispatch (st.1.receive chunk) st.2) chunks

/-! ## The reference parser -/

/-- The header rules of port 9012: sync word, checksum of the first 12 bytes, length bound. -/
def DownloadHeader (s : List UInt8) : Prop :=
  reverse4bytes (DataReqPacket.ofBytes s).syncWord = pcArmDataWord ∧
    (DataReqPacket.ofBytes s).checksum = calculateXorChecksum s 12 ∧
    (reverse4bytes (DataReqPacket.ofBytes s).dataLen).toNat ≤
      downloadCapacity - sizeofDataReqPacket

instance (s : List UInt8) : Decidable (DownloadHeader s) := inferInstanceAs (Decidable (_ ∧ _))

/-- The length of the packet a header announces. -/
def downloadPacketLen (s : List UInt8) : Nat :=
  sizeofDataReqPacket + (reverse4bytes (DataReqPacket.ofBytes s).dataLen).toNat

/-- The packet at the front of the stream. -/
def downloadPacket (s : List UInt8) : DataPacket where
  command := reverse2bytes (DataReqPacket.ofBytes s).cmdType
  channel := reverse4bytes (DataReqPacket.ofBytes s).channel
  payload := slice s sizeofDataReqPacket (reverse4bytes (DataReqPacket.ofBytes s).dataLen).toNat

theorem downloadHeader_append (s t : List UInt8) (h : sizeofDataReqPacket ≤ s.length) :
    DownloadHeader (s ++ t) ↔ DownloadHeader s := by
  have h12 : 12 ≤ s.length := Nat.le_trans (by decide) h
  unfold DownloadHeader
  rw [DataReqPacket.ofBytes_append s t h, calculateXorChecksum_append s t 12 h12]

theorem downloadPacketLen_append (s t : List UInt8) (h : sizeofDataReqPacket ≤ s.length) :
    downloadPacketLen (s ++ t) = downloadPacketLen s := by
  rw [downloadPacketLen, DataReqPacket.ofBytes_append s t h, downloadPacketLen]

theorem downloadPacket_append (s t : List UInt8) (h : downloadPacketLen s ≤ s.length) :
    downloadPacket (s ++ t) = downloadPacket s := by
  unfold downloadPacketLen at h
  unfold downloadPacket
  rw [DataReqPacket.ofBytes_append s t (by omega), slice_append_left s t _ _ h]

/-- The 9012 packet format. -/
def downloadFormat : HeaderFormat UInt8 DataPacket where
  headerLen := sizeofDataReqPacket
  Valid := DownloadHeader
  decValid := inferInstance
  packetLen := downloadPacketLen
  packet := downloadPacket
  headerLen_pos := by decide
  headerLen_le _ := Nat.le_add_right _ _
  valid_append := downloadHeader_append
  packetLen_append := downloadPacketLen_append
  packet_append := downloadPacket_append

/-- Parsing a byte string in one go: the complete packets and the unconsumed tail. -/
def parseDownload (s : List UInt8) : List DataPacket × List UInt8 := parse downloadFormat.framing s

/-! ## The loop is the parser -/

-- The buffer from `offset` on starts with the unread bytes; behind them it is stale.
theorem bytes_drop_eq (stream : DownloadStream) (offset : Nat) (h : offset ≤ stream.used) :
    stream.bytes.drop offset = stream.pending.drop offset ++ stream.bytes.drop stream.used := by
  have hp : stream.bytes = stream.pending ++ stream.bytes.drop stream.used :=
    (List.take_append_drop _ _).symm
  conv_lhs => rw [hp]
  rw [List.drop_append_of_le_length (by rw [stream.length_pending]; exact h)]

-- One iteration carries out the parser's verdict on the unread bytes.
theorem batchIteration_eq (dispatch : σ → DataPacket → σ) (stream : DownloadStream)
    (b : BatchState σ) (h : b.offset ≤ stream.used) :
    batchIteration dispatch stream b =
      match downloadFormat.step (stream.pending.drop b.offset) with
      | .wait => none
      | .skip n => some { b with offset := b.offset + n }
      | .packet n p => some { offset := b.offset + n, world := dispatch b.world p } := by
  have hbuf := bytes_drop_eq stream b.offset h
  generalize hs : stream.pending.drop b.offset = s at hbuf ⊢
  have hlen : s.length = stream.used - b.offset := by
    rw [← hs, List.length_drop, stream.length_pending]
  unfold batchIteration
  obtain ⟨hl, hv⟩ | ⟨hl, hbad, hv⟩ | ⟨hl, hp, hok, hv⟩ | ⟨hp, hok, hv⟩ :=
    downloadFormat.step_cases s
  all_goals rw [hv]; dsimp only
  · change s.length < sizeofDataReqPacket at hl
    rw [if_neg (by omega)]
  · change sizeofDataReqPacket ≤ s.length at hl
    change ¬ DownloadHeader s at hbad
    rw [if_pos (by omega), hbuf, DataReqPacket.ofBytes_append s _ hl,
      calculateXorChecksum_append s _ 12 (Nat.le_trans (by decide) hl)]
    unfold DownloadHeader at hbad
    by_cases hsync : reverse4bytes (DataReqPacket.ofBytes s).syncWord = pcArmDataWord
    · rw [if_neg (not_not.mpr hsync), if_pos]
      by_cases hsum : (DataReqPacket.ofBytes s).checksum = calculateXorChecksum s 12
      · exact .inr (Nat.lt_of_not_le fun hle => hbad ⟨hsync, hsum, hle⟩)
      · exact .inl hsum
    · rw [if_pos hsync]
  · change sizeofDataReqPacket ≤ s.length at hl
    change s.length < downloadPacketLen s at hp
    unfold downloadPacketLen at hp
    obtain ⟨hsync, hsum, hbound⟩ : DownloadHeader s := hok
    rw [if_pos (by omega), hbuf, DataReqPacket.ofBytes_append s _ hl,
      calculateXorChecksum_append s _ 12 (Nat.le_trans (by decide) hl),
      if_neg (not_not.mpr hsync), if_neg (not_or.mpr ⟨not_not.mpr hsum, Nat.not_lt.mpr hbound⟩),
      if_pos (by omega)]
  · change downloadPacketLen s ≤ s.length at hp
    have hl : sizeofDataReqPacket ≤ s.length := Nat.le_trans (Nat.le_add_right _ _) hp
    unfold downloadPacketLen at hp
    obtain ⟨hsync, hsum, hbound⟩ : DownloadHeader s := hok
    rw [if_pos (by omega), hbuf, DataReqPacket.ofBytes_append s _ hl,
      calculateXorChecksum_append s _ 12 (Nat.le_trans (by decide) hl),
      if_neg (not_not.mpr hsync), if_neg (not_or.mpr ⟨not_not.mpr hsum, Nat.not_lt.mpr hbound⟩),
      if_neg (by omega), slice_append_left s _ _ _ hp]
    rfl

-- Every iteration moves `offset` on, and never past `used`.
theorem batchIteration_offset (dispatch : σ → DataPacket → σ) (stream : DownloadStream)
    (b b' : BatchState σ) (hb : batchIteration dispatch stream b = some b') :
    b.offset < b'.offset ∧ b'.offset ≤ stream.used := by
  have h : b.offset ≤ stream.used := by
    by_contra hgt
    rw [batchIteration, if_neg (by omega)] at hb
    cases hb
  have hpos := downloadFormat.framing.size_pos (stream.pending.drop b.offset)
  have hle := downloadFormat.framing.size_le (stream.pending.drop b.offset)
  rw [List.length_drop, stream.length_pending] at hle
  rw [batchIteration_eq dispatch stream b h] at hb
  change downloadFormat.step _ ≠ .wait → 0 < (downloadFormat.step _).size at hpos
  change (downloadFormat.step _).size ≤ _ at hle
  split at hb
  next => cases hb
  next n hv =>
    rw [hv] at hpos hle
    cases hb
    simp only [Verdict.size, ne_eq, reduceCtorEq, not_false_eq_true, forall_const] at hpos hle ⊢
    omega
  next n p hv =>
    rw [hv] at hpos hle
    cases hb
    simp only [Verdict.size, ne_eq, reduceCtorEq, not_false_eq_true, forall_const] at hpos hle ⊢
    omega

theorem compactStream_pending (stream : DownloadStream) (offset : Nat) (h : offset ≤ stream.used) :
    (compactStream stream offset).pending = stream.pending.drop offset := by
  unfold compactStream
  split_ifs with hpos hlt
  · exact stream.pending_consume offset h
  · rw [ReceiveBuffer.pending_clear, List.drop_of_length_le (by rw [stream.length_pending]; omega)]
  · rw [show offset = 0 by omega, List.drop_zero]

/-- **One batch.**  `process_download_data_batch` dispatches exactly the packets of the parse of the
    unread bytes, in order, and keeps exactly its tail. -/
theorem processDownloadDataBatch_spec (dispatch : σ → DataPacket → σ) (stream : DownloadStream)
    (world : σ) :
    (processDownloadDataBatch dispatch stream world).1.pending = (parseDownload stream.pending).2 ∧
      (processDownloadDataBatch dispatch stream world).2 =
        (parseDownload stream.pending).1.foldl dispatch world := by
  obtain ⟨t, hexit, hoff, hrest, hworld⟩ := exits_parse downloadFormat.framing
    (batchIteration dispatch stream) (fun b => stream.pending.drop b.offset)
    BatchState.world dispatch (fun b => b.offset ≤ stream.used)
    (fun b hb hw => by
      rw [batchIteration_eq dispatch stream b hb]
      change downloadFormat.step _ = _ at hw
      rw [hw])
    (fun b hb hgo => by
      change downloadFormat.step _ ≠ _ at hgo
      have heq := batchIteration_eq dispatch stream b hb
      change ∃ t', _ ∧ _ ∧ _ = List.drop (downloadFormat.step _).size _ ∧
        _ = (downloadFormat.step _).packets.foldl _ _
      cases hv : downloadFormat.step (stream.pending.drop b.offset) with
      | wait => exact absurd hv hgo
      | skip n =>
          rw [hv] at heq
          exact ⟨_, heq, (batchIteration_offset _ _ _ _ heq).2, (List.drop_drop ..).symm, rfl⟩
      | packet n p =>
          rw [hv] at heq
          exact ⟨_, heq, (batchIteration_offset _ _ _ _ heq).2, (List.drop_drop ..).symm, rfl⟩)
    ⟨0, world⟩ (Nat.zero_le _)
  have hrun : Loop.runFuel (batchIteration dispatch stream) (stream.used + 1) ⟨0, world⟩ = t :=
    Loop.runFuel_eq (fun b => stream.used - b.offset)
      (fun b b' hb => by have h := batchIteration_offset _ _ _ _ hb; omega)
      (by simp) hexit
  unfold processDownloadDataBatch
  rw [hrun]
  exact ⟨(compactStream_pending stream t.offset hoff).trans hrest, hworld⟩

-- After a batch there is room in the buffer: an incomplete packet is shorter than the buffer.
theorem processDownloadDataBatch_used_lt (dispatch : σ → DataPacket → σ) (stream : DownloadStream)
    (world : σ) :
    (processDownloadDataBatch dispatch stream world).1.used < downloadCapacity := by
  have hspec := (processDownloadDataBatch_spec dispatch stream world).1
  rw [← ReceiveBuffer.length_pending, hspec]
  obtain hl | ⟨hl, hok⟩ := downloadFormat.tail_short stream.pending
  · exact Nat.lt_trans hl (by decide)
  · have hbound := hok.2.2
    change _ < downloadPacketLen _ at hl
    unfold downloadPacketLen at hl
    have hcap : sizeofDataReqPacket ≤ downloadCapacity := by decide
    exact Nat.lt_of_lt_of_le hl (by omega)

-- Feeding chunks parses the concatenation of what was unread and the chunks.
theorem feedDownload_spec (dispatch : σ → DataPacket → σ) (st : DownloadStream × σ)
    (chunks : List (List UInt8)) (hfit : ChunksFit dispatch st chunks)
    (hst : downloadFormat.step st.1.pending = .wait) :
    (feedDownload dispatch st chunks).1.pending =
        (parseDownload (st.1.pending ++ chunks.flatten)).2 ∧
      (feedDownload dispatch st chunks).2 =
        (parseDownload (st.1.pending ++ chunks.flatten)).1.foldl dispatch st.2 := by
  induction chunks generalizing st with
  | nil =>
      have hnil := parse_wait downloadFormat.framing hst
      rw [List.flatten_nil, List.append_nil, parseDownload, hnil]
      exact ⟨rfl, rfl⟩
  | cons chunk chunks ih =>
      obtain ⟨hlen, hrest⟩ := hfit
      have hspace : chunk.length ≤ st.1.space := by
        unfold receiveSize at hlen
        split_ifs at hlen <;> omega
      obtain ⟨hp, hw⟩ := processDownloadDataBatch_spec dispatch (st.1.receive chunk) st.2
      rw [ReceiveBuffer.pending_receive _ _ hspace] at hp hw
      have htail := step_parse_tail downloadFormat.framing (st.1.pending ++ chunk)
      obtain ⟨hp', hw'⟩ := ih _ hrest (by rw [hp]; exact htail)
      rw [feedDownload, hp', hw', hp, hw, List.flatten_cons, ← List.append_assoc]
      have happ := parse_append downloadFormat.framing (st.1.pending ++ chunk) chunks.flatten
      unfold parseDownload
      rw [happ, List.foldl_append]
      exact ⟨rfl, rfl⟩

theorem receiveSize_pos (stream : DownloadStream) (h : stream.used < downloadCapacity) :
    0 < receiveSize stream := by
  unfold receiveSize
  split
  · rw [ReceiveBuffer.space]; omega
  · decide

theorem feedDownload_used_lt (dispatch : σ → DataPacket → σ) (st : DownloadStream × σ)
    (chunks : List (List UInt8)) (hst : st.1.used < downloadCapacity) :
    (feedDownload dispatch st chunks).1.used < downloadCapacity := by
  induction chunks generalizing st with
  | nil => exact hst
  | cons chunk chunks ih => exact ih _ (processDownloadDataBatch_used_lt _ _ _)

-- A stream that arrives byte by byte always fits.
theorem chunksFit_bytes (dispatch : σ → DataPacket → σ) (st : DownloadStream × σ)
    (bytes : List UInt8) (hst : st.1.used < downloadCapacity) :
    ChunksFit dispatch st (bytes.map fun b => [b]) := by
  induction bytes generalizing st with
  | nil => trivial
  | cons b bytes ih =>
      exact ⟨receiveSize_pos st.1 hst, ih _ (processDownloadDataBatch_used_lt _ _ _)⟩

/-- **Port 9012 does not see TCP segmentation.**  However a stream is cut into chunks that `recv`
    can return, the packets dispatched are those of the whole stream parsed in one go, in that
    order, the unread tail is the same, and there is always room for the next `recv`. -/
theorem download_segmentation (dispatch : σ → DataPacket → σ) (world : σ)
    (chunks : List (List UInt8))
    (hfit : ChunksFit (logged dispatch) (freshDownloadStream, ([], world)) chunks) :
    (feedDownload (logged dispatch) (freshDownloadStream, ([], world)) chunks).2 =
        ((parseDownload chunks.flatten).1, (parseDownload chunks.flatten).1.foldl dispatch world) ∧
      (feedDownload (logged dispatch) (freshDownloadStream, ([], world)) chunks).1.pending =
        (parseDownload chunks.flatten).2 ∧
      ∀ n, (feedDownload (logged dispatch) (freshDownloadStream, ([], world))
          (chunks.take n)).1.used < downloadCapacity ∧
        0 < receiveSize (feedDownload (logged dispatch) (freshDownloadStream, ([], world))
          (chunks.take n)).1 := by
  have hfresh : freshDownloadStream.used < downloadCapacity := by
    rw [freshDownloadStream, ReceiveBuffer.used_empty]; decide
  have hpending : freshDownloadStream.pending = [] := ReceiveBuffer.pending_empty 0
  obtain ⟨hp, hw⟩ := feedDownload_spec (logged dispatch) (freshDownloadStream, ([], world)) chunks
    hfit (downloadFormat.step_short (by rw [hpending]; exact Nat.zero_lt_succ _))
  rw [hpending, List.nil_append] at hp hw
  rw [foldl_logged, List.nil_append] at hw
  refine ⟨hw, hp, fun n => ?_⟩
  have hused := feedDownload_used_lt (logged dispatch) (freshDownloadStream, ([], world))
    (chunks.take n) hfresh
  exact ⟨hused, receiveSize_pos _ hused⟩

-- The segmentation theorem for an empty 9012 packet of command 5 that arrives byte by byte.
theorem download_segmentation_bytewise :
    (feedDownload (logged fun (n : Nat) _ => n + 1) (freshDownloadStream, ([], 0))
      ([0x04, 0xCC, 0xF0, 0xFF, 0, 0, 0, 0, 0, 0, 0, 5, 4, 0xCC, 0xF0, 0xFA, 0, 0, 0, 3].map
        fun b => [b])).1.pending =
    (parseDownload
      [0x04, 0xCC, 0xF0, 0xFF, 0, 0, 0, 0, 0, 0, 0, 5, 4, 0xCC, 0xF0, 0xFA, 0, 0, 0, 3]).2 :=
  (download_segmentation (fun (n : Nat) _ => n + 1) 0 _
    (chunksFit_bytes _ _ _ (by rw [freshDownloadStream, ReceiveBuffer.used_empty]; decide))).2.1

end CanGateway
