import CanGateway.ConfigHistory
import CanGateway.DownloadDispatch
import CanGateway.TransmitThread

/-!
# The records sent up to the PC

Received and transmitted CAN frames are reported on port 9010 as a header of 20 bytes with a record
of 48 bytes behind it.  The record is compared with the 48-byte frames the PC sends: what it carries
back of such a frame, and whether its checksum follows the same rule.
-/

open ByteMemory

namespace CanGateway

def pcArmStatusWord : UInt32 := 0xFFF0CC01

/-! ## The messages -/

/-- The fields of `CAN_ARM_PC_DATA` and `ARM_PC_STATUS_DATA` before the record. -/
structure UploadHeader where
  head : UInt32
  length : UInt32
  counter : UInt16
  command : UInt16
  check : UInt32
  chind : UInt32
  deriving DecidableEq, Repr

/-- The record in either message.  `status` and `reserved1` of `CAN_ARM_PC_DATA` are called `states`
    and `xor_states` in `ARM_PC_STATUS_DATA`. -/
structure UploadRecord where
  head : UInt32
  direction : UInt8
  type : UInt8
  length : UInt8
  chId : UInt8
  totalCount : UInt32
  chCount : UInt32
  idr : UInt32
  drcr : UInt32
  dw1r : UInt32
  dw2r : UInt32
  status : UInt8
  reserved1 : UInt8
  reserved2 : UInt16
  timestamp : UInt64
  xorChecksum : UInt32
  deriving DecidableEq, Repr

/-- `CAN_ARM_PC_DATA` or `ARM_PC_STATUS_DATA`: two packed structs of one layout. -/
structure UploadMessage where
  header : UploadHeader
  record : UploadRecord
  deriving DecidableEq, Repr

/-- `sizeof(CAN_ARM_PC_DATA)` and `sizeof(ARM_PC_STATUS_DATA)`. -/
def sizeofUploadMessage : Nat := 68

def UploadHeader.toBytes (header : UploadHeader) : List UInt8 :=
  store32 header.head ++ (store32 header.length ++ (store16 header.counter ++
    (store16 header.command ++ (store32 header.check ++ store32 header.chind))))

@[simp] theorem UploadHeader.length_toBytes (header : UploadHeader) :
    header.toBytes.length = 20 := by
  simp [UploadHeader.toBytes]

namespace UploadRecord

/-- The record without its checksum. -/
def bodyBytes (record : UploadRecord) : List UInt8 :=
  store32 record.head ++ [record.direction, record.type, record.length, record.chId] ++
    store32 record.totalCount ++ store32 record.chCount ++ store32 record.idr ++
    store32 record.drcr ++ store32 record.dw1r ++ store32 record.dw2r ++
    [record.status, record.reserved1] ++ store16 record.reserved2 ++ store64 record.timestamp

def toBytes (record : UploadRecord) : List UInt8 := record.bodyBytes ++ store32 record.xorChecksum

@[simp] theorem length_bodyBytes (record : UploadRecord) : record.bodyBytes.length = 44 := by
  simp [bodyBytes]

@[simp] theorem length_toBytes (record : UploadRecord) : record.toBytes.length = 48 := by
  simp [toBytes]

end UploadRecord

namespace UploadMessage

def toBytes (message : UploadMessage) : List UInt8 :=
  message.header.toBytes ++ message.record.toBytes

/-- The message with the checksum of all its other bytes, those of the header included. -/
def sealed (message : UploadMessage) : UploadMessage :=
  { message with
    record := { message.record with
      xorChecksum := calculateXorChecksum message.toBytes (sizeofUploadMessage - 4) } }

end UploadMessage

/-- The counters the records are numbered with. -/
structure UploadCounters where
  dataCounter : UInt16
  channelFrameCount : UInt8 → UInt32

def UploadCounters.nextTotal (counters : UploadCounters) : UInt32 :=
  if counters.dataCounter.toUInt32 = 0xFFFFFFFF then 0 else counters.dataCounter.toUInt32 + 1

def UploadCounters.nextOn (counters : UploadCounters) (ch : UInt8) : UInt32 :=
  if counters.channelFrameCount ch = 0xFFFFFFFF then 0 else counters.channelFrameCount ch + 1

/-- `channel_frame_count[ch]` moved on. -/
def UploadCounters.count (counters : UploadCounters) (ch : UInt8) : UploadCounters :=
  { counters with
    channelFrameCount := fun c =>
      if c = ch then counters.nextOn ch else counters.channelFrameCount c }

/-- The header both functions fill in. -/
def uploadHeader (canId : UInt8) : UploadHeader where
  head := pcArmStatusWord
  length := reverse4bytes (UInt32.ofNat (sizeofUploadMessage - 20))
  counter := 0
  command := 0
  check := 0
  chind := reverse4bytes canId.toUInt32

/-- The message sent, if a client is connected, and the counters. -/
def handleNormalMode (connected : Bool) (canId : UInt8) (frame : AxicanFrame)
    (counters : UploadCounters) : Option UploadMessage × UploadCounters :=
  let totalCount := counters.nextTotal
  let canResp : UploadMessage :=
    { header := uploadHeader canId
      record :=
        { head := pcStatusHead
          direction := 0x1
          type := 0x81
          length := 0x30
          chId := canId
          totalCount := totalCount
          chCount := counters.nextOn canId
          idr := frame.canId
          drcr := frame.canDlc >>> 28
          dw1r := frame.data0
          dw2r := frame.data1
          status := 0
          reserved1 := 0
          reserved2 := 0
          timestamp := frame.timestamp
          xorChecksum := 0 } }
  (if connected then some canResp.sealed else none,
    { counters.count canId with dataCounter := totalCount.toUInt16 })

/-- The message sent and the counters; without a client nothing happens. -/
def sendCanTransmitResponse (connected : Bool) (canId type status : UInt8) (frame : AxicanFrame)
    (clock : UInt64) (counters : UploadCounters) : Option UploadMessage × UploadCounters :=
  if ¬ connected then (none, counters)
  else
    let response : UploadMessage :=
      { header := uploadHeader canId
        record :=
          { head := pcStatusHead
            direction := 1
            type := type
            length := 0x30
            chId := canId
            totalCount := counters.nextTotal
            chCount := counters.nextOn canId
            idr := frame.canId
            drcr := frame.canDlc
            dw1r := frame.data0
            dw2r := frame.data1
            status := status
            reserved1 := status
            reserved2 := 0
            timestamp := clock
            xorChecksum := 0 } }
    (some response.sealed, counters.count canId)

-- What the two functions take over from the CAN frame.
theorem handleNormalMode_record {connected : Bool} {canId : UInt8} {frame : AxicanFrame}
    {counters : UploadCounters} {message : UploadMessage}
    (h : (handleNormalMode connected canId frame counters).1 = some message) :
    message.record.idr = frame.canId ∧ message.record.drcr = frame.canDlc >>> 28 ∧
      message.record.dw1r = frame.data0 ∧ message.record.dw2r = frame.data1 := by
  unfold handleNormalMode at h
  dsimp only at h
  split at h
  · cases h
    exact ⟨rfl, rfl, rfl, rfl⟩
  · cases h

theorem sendCanTransmitResponse_record {connected : Bool} {canId type status : UInt8}
    {frame : AxicanFrame} {clock : UInt64} {counters : UploadCounters} {message : UploadMessage}
    (h : (sendCanTransmitResponse connected canId type status frame clock counters).1 =
      some message) :
    message.record.idr = frame.canId ∧ message.record.drcr = frame.canDlc ∧
      message.record.dw1r = frame.data0 ∧ message.record.dw2r = frame.data1 := by
  unfold sendCanTransmitResponse at h
  split at h
  · cases h
  · cases h
    exact ⟨rfl, rfl, rfl, rfl⟩

/-! ## What comes back of a frame -/

/-- The CAN frames that are sent for a frame of the PC. -/
def IsSentAs (frame : PcArmDataData) (canFrame : AxicanFrame) : Prop :=
  (∃ timestamp, canFrame = sendSingleFrame frame timestamp) ∨
    canFrame = pcCanPayloadToAxicanFrame frame

/-- The messages that report a CAN frame the device returned. -/
def IsReported (canFrame : AxicanFrame) (message : UploadMessage) : Prop :=
  (∃ connected canId counters,
    (handleNormalMode connected canId canFrame counters).1 = some message) ∨
  ∃ connected canId type status clock counters,
    (sendCanTransmitResponse connected canId type status canFrame clock counters).1 = some message

/-- The record has the identifier, the DLC word and the data words of the frame. -/
def UploadRecord.Carries (record : UploadRecord) (frame : PcArmDataData) : Prop :=
  record.idr = frame.idr ∧ record.drcr = frame.drcr ∧ record.dw1r = frame.dw1r ∧
    record.dw2r = frame.dw2r

/-- Whatever way the frame is sent, and whatever way its echo is reported. -/
def ReportedBack (frame : PcArmDataData) : Prop :=
  ∀ canFrame, IsSentAs frame canFrame → ∀ message, IsReported canFrame message →
    message.record.Carries frame

-- Both encoders copy the identifier and the DLC word and reverse the data words.
theorem IsSentAs.fields {frame : PcArmDataData} {canFrame : AxicanFrame}
    (h : IsSentAs frame canFrame) :
    canFrame.canId = frame.idr ∧ canFrame.canDlc = frame.drcr ∧
      canFrame.data0 = reverse4bytes frame.dw1r ∧ canFrame.data1 = reverse4bytes frame.dw2r := by
  rcases h with ⟨timestamp, rfl⟩ | rfl
  · exact ⟨rfl, rfl, rfl, rfl⟩
  · exact ⟨rfl, rfl, rfl, rfl⟩

-- The shift of `handle_normal_mode` leaves no DLC word but zero as it is.
theorem shiftRight28_eq_iff (x : UInt32) : x >>> 28 = x ↔ x = 0 := by
  constructor
  · intro h
    have hnat := congrArg UInt32.toNat h
    have hlt := x.toNat_lt
    rw [UInt32.toNat_shiftRight, show (28 : UInt32).toNat % 32 = 28 from rfl,
      Nat.shiftRight_eq_div_pow] at hnat
    apply UInt32.toNat_inj.mp
    show x.toNat = 0
    omega
  · rintro rfl
    rfl

/-- **What comes back.**  Every report of a frame's echo carries the frame exactly when its DLC word
    is zero and its data words are their own byte reversals. -/
theorem reported_back_iff (frame : PcArmDataData) :
    ReportedBack frame ↔ frame.drcr = 0 ∧ reverse4bytes frame.dw1r = frame.dw1r ∧
      reverse4bytes frame.dw2r = frame.dw2r := by
  constructor
  · intro h
    have hcarries := h (pcCanPayloadToAxicanFrame frame) (Or.inr rfl) _
      (Or.inl ⟨true, 0, ⟨0, fun _ => 0⟩, rfl⟩)
    obtain ⟨_, hdrcr, hdw1r, hdw2r⟩ := hcarries
    exact ⟨(shiftRight28_eq_iff _).mp hdrcr, hdw1r, hdw2r⟩
  · rintro ⟨hzero, hdw1r, hdw2r⟩ canFrame hsent message hreported
    obtain ⟨hid, hdlc, hdata0, hdata1⟩ := hsent.fields
    rcases hreported with ⟨connected, canId, counters, hmessage⟩ |
      ⟨connected, canId, type, status, clock, counters, hmessage⟩
    · obtain ⟨h1, h2, h3, h4⟩ := handleNormalMode_record hmessage
      refine ⟨h1.trans hid, ?_, h3.trans (hdata0.trans hdw1r), h4.trans (hdata1.trans hdw2r)⟩
      rw [h2, hdlc]
      exact (shiftRight28_eq_iff _).mpr hzero
    · obtain ⟨h1, h2, h3, h4⟩ := sendCanTransmitResponse_record hmessage
      exact ⟨h1.trans hid, h2.trans hdlc, h3.trans (hdata0.trans hdw1r),
        h4.trans (hdata1.trans hdw2r)⟩

/-- A valid frame with eight data bytes, 1 to 8. -/
def countingFrame : List UInt8 :=
  let body :=
    store32 pcStatusHead ++ [0, 1, 48, 0] ++ List.replicate 8 0 ++ store32 0x123 ++
      store32 0x80000000 ++ [1, 2, 3, 4, 5, 6, 7, 8] ++ store16 1 ++ List.replicate 10 0
  body ++ store32 (calculateXorChecksum body 44)

-- Its data words come back reversed.
theorem reported_back_reversed :
    validate48byteCanPayload countingFrame = true ∧
      ¬ ReportedBack (PcArmDataData.ofBytes countingFrame) := by
  refine ⟨by decide +kernel, ?_⟩
  intro h
  have hcarries := h _ (Or.inl ⟨0, rfl⟩) _ (Or.inr ⟨true, 0, 0x80, 1, 0, ⟨0, fun _ => 0⟩, rfl⟩)
  exact absurd hcarries.2.2.1 (by decide +kernel)

/-! ## The checksum of the records -/

theorem UploadRecord.load_xorChecksum (record : UploadRecord) :
    load32 record.toBytes 44 = record.xorChecksum := by
  have hload := load32_store32 record.bodyBytes [] record.xorChecksum 44 record.length_bodyBytes
  rw [List.append_nil] at hload
  exact hload

-- Of a sealed message: the record keeps its own rule only if the words of the header cancel out.
theorem UploadMessage.checksumRule_sealed (message : UploadMessage) :
    ChecksumRule message.sealed.record.toBytes ↔ xorSum message.header.toBytes 5 = 0 := by
  have hbody : message.sealed.record.bodyBytes = message.record.bodyBytes := by
    simp only [UploadMessage.sealed, UploadRecord.bodyBytes]
  have hrecord : calculateXorChecksum message.sealed.record.toBytes 44 =
      xorSum message.record.bodyBytes 11 := by
    have hlen := message.record.length_bodyBytes
    rw [UploadRecord.toBytes, hbody, calculateXorChecksum_eq _ 11 (by simp),
      xorSum_append _ _ 11 (by omega)]
  have hall : calculateXorChecksum message.toBytes (sizeofUploadMessage - 4) =
      xorSum message.header.toBytes 5 ^^^ xorSum message.record.bodyBytes 11 := by
    have hdrop : (message.header.toBytes ++ message.record.toBytes).drop (5 * 4) =
        message.record.toBytes := by rw [List.drop_left' (by simp)]
    have hlen := message.record.length_bodyBytes
    rw [UploadMessage.toBytes,
      show sizeofUploadMessage - 4 = (5 + 11) * 4 from rfl,
      calculateXorChecksum_eq _ (5 + 11) (by simp), xorSum_add, hdrop,
      xorSum_append _ _ 5 (by simp), UploadRecord.toBytes, xorSum_append _ _ 11 (by omega)]
  have hself : message.sealed.record.xorChecksum =
      calculateXorChecksum message.toBytes (sizeofUploadMessage - 4) := by
    simp only [UploadMessage.sealed]
  rw [ChecksumRule, UploadRecord.load_xorChecksum, hrecord, hself, hall, UInt32.xor_comm,
    ParitySum.op_eq_iff xor_self_eq, UInt32.xor_self]

/-- The words of the header before the channel, the same in every message. -/
def fixedHeader : List UInt8 :=
  store32 pcArmStatusWord ++ store32 (reverse4bytes (UInt32.ofNat (sizeofUploadMessage - 20))) ++
    store16 0 ++ store16 0 ++ store32 0

theorem uploadHeader_toBytes (canId : UInt8) :
    (uploadHeader canId).toBytes = fixedHeader ++ store32 (reverse4bytes canId.toUInt32) := by
  simp only [uploadHeader, UploadHeader.toBytes, fixedHeader, List.append_assoc]

-- The words of the header never cancel out.
theorem xorSum_uploadHeader (canId : UInt8) : xorSum (uploadHeader canId).toBytes 5 ≠ 0 := by
  have hlen : fixedHeader.length = 16 := by decide
  have hlast : word (fixedHeader ++ store32 (reverse4bytes canId.toUInt32)) 4 =
      reverse4bytes canId.toUInt32 := by
    have hload := load32_store32 fixedHeader [] (reverse4bytes canId.toUInt32) 16 hlen
    rw [List.append_nil] at hload
    exact hload
  have hfixed : xorSum fixedHeader 4 = 0xCFF0CC01 := by decide
  have hsum : xorSum (fixedHeader ++ store32 (reverse4bytes canId.toUInt32)) 5 =
      xorSum (fixedHeader ++ store32 (reverse4bytes canId.toUInt32)) 4 ^^^
        word (fixedHeader ++ store32 (reverse4bytes canId.toUInt32)) 4 := rfl
  rw [uploadHeader_toBytes, hsum, hlast, xorSum_append fixedHeader _ 4 (by omega), hfixed]
  have hall : ∀ n < 256, 0xCFF0CC01 ^^^ reverse4bytes (UInt8.ofNat n).toUInt32 ≠ 0 := by
    decide +kernel
  have hcan := hall canId.toNat canId.toNat_lt
  rw [UInt8.ofNat_toNat] at hcan
  exact hcan

-- A record sealed behind the header of an upload.
theorem UploadMessage.sealed_breaks_rule {message : UploadMessage} {canId : UInt8}
    (hheader : message.header = uploadHeader canId) :
    ¬ ChecksumRule message.sealed.record.toBytes := by
  rw [UploadMessage.checksumRule_sealed, hheader]
  exact xorSum_uploadHeader canId

-- A row of the information reply is sealed by itself.
theorem CanConfigParam.checksumRule_sealed (param : CanConfigParam) :
    ChecksumRule param.sealed.toBytes := by
  have hbody : param.sealed.bodyBytes = param.bodyBytes := by
    simp only [CanConfigParam.sealed, CanConfigParam.bodyBytes]
  have hlen : param.bodyBytes.length = 44 := by simp [CanConfigParam.bodyBytes]
  have hload := load32_store32 param.bodyBytes [] param.sealed.xorChecksum 44 hlen
  rw [List.append_nil] at hload
  have hsum : param.sealed.xorChecksum = calculateXorChecksum param.toBytes 44 := by
    simp only [CanConfigParam.sealed, sizeofCanConfigParam]
  rw [ChecksumRule, CanConfigParam.toBytes, hbody, hload, hsum, CanConfigParam.toBytes,
    calculateXorChecksum_append _ _ 44 (Nat.le_of_eq hlen.symm),
    calculateXorChecksum_append _ _ 44 (Nat.le_of_eq hlen.symm)]

theorem handleCanInfoQuery_sealed {data : List UInt8} {configs : CanConfigs} {dataCounter : UInt16}
    {timestamp : UInt8 → UInt64} {channelFrameCount : UInt8 → UInt32}
    {reply : List CanConfigParam × (UInt8 → UInt32)}
    (h : handleCanInfoQuery data configs dataCounter timestamp channelFrameCount = .ok reply)
    {row : CanConfigParam} (hrow : row ∈ reply.1) :
    ∃ param : CanConfigParam, row = param.sealed ∧ param.head = pcStatusHead ∧
      param.length = 0x30 := by
  unfold handleCanInfoQuery at h
  split at h
  · cases h
  cases h
  have hstep : ∀ (past : List CanConfigParam) (count : UInt8 → UInt32) (ch : UInt8),
      (∀ row ∈ past, ∃ param : CanConfigParam, row = param.sealed ∧ param.head = pcStatusHead ∧
        param.length = 0x30) →
      ∀ row ∈ past ++ [(canInfoRow configs dataCounter timestamp count ch).1],
        ∃ param : CanConfigParam, row = param.sealed ∧ param.head = pcStatusHead ∧
          param.length = 0x30 := by
    intro past count ch hpast row hmem
    rcases List.mem_append.mp hmem with hmem | hmem
    · exact hpast row hmem
    · rw [List.mem_singleton.mp hmem]
      exact ⟨_, rfl, rfl, rfl⟩
  exact Transducer.run_answers (fun past _ => ∀ row ∈ past, ∃ param : CanConfigParam,
    row = param.sealed ∧ param.head = pcStatusHead ∧ param.length = 0x30) (nofun) hstep _ row hrow

/-- Where a record sent on port 9010 comes from. -/
inductive UploadKind where
  | normal
  | transmit
  | infoRow
  deriving DecidableEq, Repr

/-- The 48-byte records of the messages the three functions send. -/
inductive Uploads : UploadKind → List UInt8 → Prop where
  | normal {connected : Bool} {canId : UInt8} {frame : AxicanFrame} {counters : UploadCounters}
      {message : UploadMessage}
      (h : (handleNormalMode connected canId frame counters).1 = some message) :
      Uploads .normal message.record.toBytes
  | transmit {connected : Bool} {canId type status : UInt8} {frame : AxicanFrame} {clock : UInt64}
      {counters : UploadCounters} {message : UploadMessage}
      (h : (sendCanTransmitResponse connected canId type status frame clock counters).1 =
        some message) :
      Uploads .transmit message.record.toBytes
  | infoRow {data : List UInt8} {configs : CanConfigs} {dataCounter : UInt16}
      {timestamp : UInt8 → UInt64} {channelFrameCount : UInt8 → UInt32}
      {reply : List CanConfigParam × (UInt8 → UInt32)}
      (h : handleCanInfoQuery data configs dataCounter timestamp channelFrameCount = .ok reply)
      {row : CanConfigParam} (hrow : row ∈ reply.1) :
      Uploads .infoRow row.toBytes

-- The first fields of any record, which the decoders check along with the checksum.
theorem load_recordHead (head : UInt32) (direction type length chId : UInt8) (rest : List UInt8) :
    (PcArmDataData.ofBytes
        (store32 head ++ ([direction, type, length, chId] ++ rest))).head = head ∧
      (PcArmDataData.ofBytes
        (store32 head ++ ([direction, type, length, chId] ++ rest))).length = length :=
  ⟨load32_store32 [] _ head 0 rfl, rfl⟩

theorem UploadRecord.ofBytes_head (record : UploadRecord) :
    (PcArmDataData.ofBytes record.toBytes).head = record.head ∧
      (PcArmDataData.ofBytes record.toBytes).length = record.length := by
  simp only [UploadRecord.toBytes, UploadRecord.bodyBytes, List.append_assoc]
  exact load_recordHead _ _ _ _ _ _

theorem CanConfigParam.ofBytes_head (param : CanConfigParam) :
    (PcArmDataData.ofBytes param.toBytes).head = param.head ∧
      (PcArmDataData.ofBytes param.toBytes).length = param.length := by
  simp only [CanConfigParam.toBytes, CanConfigParam.bodyBytes, List.append_assoc]
  exact load_recordHead _ _ _ _ _ _

theorem handleNormalMode_sealed {connected : Bool} {canId : UInt8} {frame : AxicanFrame}
    {counters : UploadCounters} {message : UploadMessage}
    (h : (handleNormalMode connected canId frame counters).1 = some message) :
    ∃ unsealed : UploadMessage, message = unsealed.sealed ∧ unsealed.header = uploadHeader canId ∧
      unsealed.record.head = pcStatusHead ∧ unsealed.record.length = 0x30 := by
  unfold handleNormalMode at h
  dsimp only at h
  split at h
  · cases h
    exact ⟨_, rfl, rfl, rfl, rfl⟩
  · cases h

theorem handleNormalMode_breaks_rule {connected : Bool} {canId : UInt8} {frame : AxicanFrame}
    {counters : UploadCounters} {message : UploadMessage}
    (h : (handleNormalMode connected canId frame counters).1 = some message) :
    ¬ ChecksumRule message.record.toBytes := by
  obtain ⟨unsealed, rfl, hheader, -⟩ := handleNormalMode_sealed h
  exact UploadMessage.sealed_breaks_rule hheader

theorem sendCanTransmitResponse_sealed {connected : Bool} {canId type status : UInt8}
    {frame : AxicanFrame} {clock : UInt64} {counters : UploadCounters} {message : UploadMessage}
    (h : (sendCanTransmitResponse connected canId type status frame clock counters).1 =
      some message) :
    ∃ unsealed : UploadMessage, message = unsealed.sealed ∧ unsealed.header = uploadHeader canId ∧
      unsealed.record.head = pcStatusHead ∧ unsealed.record.length = 0x30 := by
  unfold sendCanTransmitResponse at h
  split at h
  · cases h
  · cases h
    exact ⟨_, rfl, rfl, rfl, rfl⟩

-- Sealing a record leaves its first fields alone.
theorem UploadMessage.sealed_head (message : UploadMessage) :
    message.sealed.record.head = message.record.head ∧
      message.sealed.record.length = message.record.length := by
  simp only [UploadMessage.sealed, and_self]

theorem CanConfigParam.sealed_head (param : CanConfigParam) :
    param.sealed.head = param.head ∧ param.sealed.length = param.length := by
  simp only [CanConfigParam.sealed, and_self]

-- Every record has the head and the length the decoders ask for.
theorem Uploads.head {kind : UploadKind} {record : List UInt8} (h : Uploads kind record) :
    (PcArmDataData.ofBytes record).head = pcStatusHead ∧
      (PcArmDataData.ofBytes record).length.toNat = sizeofPcArmDataData := by
  cases h with
  | normal h =>
      obtain ⟨unsealed, rfl, -, hhead, hlength⟩ := handleNormalMode_sealed h
      rw [(UploadRecord.ofBytes_head _).1, (UploadRecord.ofBytes_head _).2,
        unsealed.sealed_head.1, unsealed.sealed_head.2, hhead, hlength]
      exact ⟨rfl, rfl⟩
  | transmit h =>
      obtain ⟨unsealed, rfl, -, hhead, hlength⟩ := sendCanTransmitResponse_sealed h
      rw [(UploadRecord.ofBytes_head _).1, (UploadRecord.ofBytes_head _).2,
        unsealed.sealed_head.1, unsealed.sealed_head.2, hhead, hlength]
      exact ⟨rfl, rfl⟩
  | infoRow h hrow =>
      obtain ⟨param, rfl, hhead, hlength⟩ := handleCanInfoQuery_sealed h hrow
      rw [(CanConfigParam.ofBytes_head _).1, (CanConfigParam.ofBytes_head _).2,
        param.sealed_head.1, param.sealed_head.2, hhead, hlength]
      exact ⟨rfl, rfl⟩

theorem canConfigError_eq_none_iff (payload : List UInt8) :
    canConfigError payload = none ↔ (CanConfigParam.ofBytes payload).chId.toNat < axicanMax ∧
      (CanConfigParam.ofBytes payload).head = pcStatusHead ∧ ChecksumRule payload := by
  unfold canConfigError
  dsimp only
  split
  next hch => exact ⟨nofun, fun h => absurd h.1 (Nat.not_lt.mpr hch)⟩
  next hch =>
    split
    next hhead => exact ⟨nofun, fun h => absurd h.2.1 hhead⟩
    next hhead =>
      split
      next hsum => exact ⟨nofun, fun h => absurd h.2.2 hsum⟩
      next hsum => exact ⟨fun _ => ⟨Nat.lt_of_not_le hch, not_not.mp hhead, not_not.mp hsum⟩,
        fun _ => rfl⟩

/-- **Which records follow the rule.**  A row of the information reply carries the checksum of its
    own first 44 bytes, and the record in a report of a CAN frame never does: there the checksum is
    taken over the 20 bytes of the message header as well. -/
theorem upload_checksum_rule {kind : UploadKind} {record : List UInt8} (h : Uploads kind record) :
    (ChecksumRule record ↔ kind = .infoRow) ∧
      (validate48byteCanPayload record = true ↔ kind = .infoRow) ∧
      ((CanConfigParam.ofBytes record).chId.toNat < axicanMax →
        (canConfigError record = none ↔ kind = .infoRow)) := by
  have hrule : ChecksumRule record ↔ kind = .infoRow := by
    cases h with
    | normal h =>
        exact ⟨fun hsum => absurd hsum (handleNormalMode_breaks_rule h), nofun⟩
    | transmit h =>
        obtain ⟨unsealed, rfl, hheader, -⟩ := sendCanTransmitResponse_sealed h
        exact ⟨fun hsum => absurd hsum (UploadMessage.sealed_breaks_rule hheader), nofun⟩
    | infoRow h hrow =>
        obtain ⟨param, rfl, -⟩ := handleCanInfoQuery_sealed h hrow
        exact ⟨fun _ => rfl, fun _ => param.checksumRule_sealed⟩
  obtain ⟨hhead, hlength⟩ := h.head
  refine ⟨hrule, ?_, ?_⟩
  · rw [validate48byteCanPayload_iff, ← hrule]
    exact ⟨fun hvalid => hvalid.2.2, fun hsum => ⟨hhead, hlength, hsum⟩⟩
  · intro hch
    rw [canConfigError_eq_none_iff, ← hrule]
    exact ⟨fun hpass => hpass.2.2, fun hsum => ⟨hch, hhead, hsum⟩⟩

theorem upload_checksum_rule_rows :
    ∃ record, Uploads .infoRow record ∧ (ChecksumRule record ↔ UploadKind.infoRow = .infoRow) := by
  have hquery : handleCanInfoQuery [0xFF, 0xFF, 0xFF, 0xFF] initialConfig 0 (fun _ => 0)
      (fun _ => 0) = .ok _ := rfl
  have hrow := Uploads.infoRow hquery List.mem_cons_self
  exact ⟨_, hrow, (upload_checksum_rule hrow).1⟩

-- The record of a received frame, as the decoders would see it.
theorem upload_checksum_rule_broken :
    ∃ message, (handleNormalMode true 0 default ⟨0, fun _ => 0⟩).1 = some message ∧
      ¬ ChecksumRule message.record.toBytes := by
  have hsent : (handleNormalMode true 0 default ⟨0, fun _ => 0⟩).1 = some _ := rfl
  exact ⟨_, hsent, handleNormalMode_breaks_rule hsent⟩

end CanGateway
