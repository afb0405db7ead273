import CanGateway.Library.LittleEndian

/-!
# Wire format: constants, byte order, checksum and packed records

The target is a little-endian ARM core, so a `memcpy` into a packed struct is a little-endian load
of each field.  Fields no modelled function reads are kept in the record's bytes only.
-/

open ByteMemory LittleEndian

namespace CanGateway

/-! ## Constants -/

def reqSyncWord : UInt32 := 0x03CCF0FF
def pcArmDataWord : UInt32 := 0x04CCF0FF
def pcStatusHead : UInt32 := 0x499602D2

/-- `BUFFER_SIZE`: the 9009 receive buffer and packet limit. -/
def bufferSize : Nat := 4096
/-- `BUFFER_SIZE_1`: the largest single `recv` on port 9012. -/
def bufferSize1 : Nat := 1048628

/-- `AXICAN_MAX`: the number of CAN channels. -/
def axicanMax : Nat := 6

def normalMode : UInt16 := 0x0000
def alongMode : UInt16 := 0x0001
def initMode : UInt8 := 0x02

def zmuavXcanModeNormal : UInt8 := 0x02
def zmuavXcanModeLoopback : UInt8 := 0x04

/-! ## Loads and byte reversal -/

def load16 (bs : List UInt8) (off : Nat) : UInt16 := UInt16.ofNat (leNat (slice bs off 2))
def load32 (bs : List UInt8) (off : Nat) : UInt32 := UInt32.ofNat (leNat (slice bs off 4))
def load64 (bs : List UInt8) (off : Nat) : UInt64 := UInt64.ofNat (leNat (slice bs off 8))
def load8 (bs : List UInt8) (off : Nat) : UInt8 := bs.getD off 0

def store16 (value : UInt16) : List UInt8 := leBytes 2 value.toNat
def store32 (value : UInt32) : List UInt8 := leBytes 4 value.toNat
def store64 (value : UInt64) : List UInt8 := leBytes 8 value.toNat

@[simp] theorem length_store16 (value : UInt16) : (store16 value).length = 2 := length_leBytes _ _

@[simp] theorem length_store32 (value : UInt32) : (store32 value).length = 4 := length_leBytes _ _

@[simp] theorem length_store64 (value : UInt64) : (store64 value).length = 8 := length_leBytes _ _

-- Loading the word stored behind `before`.
theorem load16_store16 (before rest : List UInt8) (value : UInt16) (off : Nat)
    (hoff : before.length = off) : load16 (before ++ (store16 value ++ rest)) off = value := by
  have hlt := value.toNat_lt
  have hslice : slice (before ++ (store16 value ++ rest)) off 2 = store16 value := by
    rw [slice, ← hoff, List.drop_left, ← length_store16 value, List.take_left]
  rw [load16, hslice, store16, leNat_leBytes, Nat.mod_eq_of_lt (by omega), UInt16.ofNat_toNat]

theorem load32_store32 (before rest : List UInt8) (value : UInt32) (off : Nat)
    (hoff : before.length = off) : load32 (before ++ (store32 value ++ rest)) off = value := by
  have hlt := value.toNat_lt
  have hslice : slice (before ++ (store32 value ++ rest)) off 4 = store32 value := by
    rw [slice, ← hoff, List.drop_left, ← length_store32 value, List.take_left]
  rw [load32, hslice, store32, leNat_leBytes, Nat.mod_eq_of_lt (by omega), UInt32.ofNat_toNat]

theorem load64_store64 (before rest : List UInt8) (value : UInt64) (off : Nat)
    (hoff : before.length = off) : load64 (before ++ (store64 value ++ rest)) off = value := by
  have hlt := value.toNat_lt
  have hslice : slice (before ++ (store64 value ++ rest)) off 8 = store64 value := by
    rw [slice, ← hoff, List.drop_left, ← length_store64 value, List.take_left]
  rw [load64, hslice, store64, leNat_leBytes, Nat.mod_eq_of_lt (by omega), UInt64.ofNat_toNat]

theorem load16_append (s t : List UInt8) (off : Nat) (h : off + 2 ≤ s.length) :
    load16 (s ++ t) off = load16 s off := by
  rw [load16, slice_append_left s t off 2 h, load16]

theorem load32_append (s t : List UInt8) (off : Nat) (h : off + 4 ≤ s.length) :
    load32 (s ++ t) off = load32 s off := by
  rw [load32, slice_append_left s t off 4 h, load32]

theorem load64_append (s t : List UInt8) (off : Nat) (h : off + 8 ≤ s.length) :
    load64 (s ++ t) off = load64 s off := by
  rw [load64, slice_append_left s t off 8 h, load64]

theorem load8_append (s t : List UInt8) (off : Nat) (h : off < s.length) :
    load8 (s ++ t) off = load8 s off := by
  rw [load8, List.getD_eq_getElem?_getD, List.getElem?_append_left h,
    ← List.getD_eq_getElem?_getD, load8]

def reverse2bytes (value : UInt16) : UInt16 :=
  ((value &&& 0x00FF) <<< 8) ||| ((value &&& 0xFF00) >>> 8)

def reverse4bytes (value : UInt32) : UInt32 :=
  ((value &&& 0x000000FF) <<< 24) ||| ((value &&& 0x0000FF00) <<< 8) |||
    ((value &&& 0x00FF0000) >>> 8) ||| ((value &&& 0xFF000000) >>> 24)

/-! ## Checksum -/

/-- The loop of `calculate_xor_checksum`: one 32-bit word at a time, the last one zero-padded. -/
def xorWords (res : UInt32) : List UInt8 → UInt32
  | a :: b :: c :: d :: rest => xorWords (res ^^^ UInt32.ofNat (leNat [a, b, c, d])) rest
  | [] => res
  | tail => res ^^^ UInt32.ofNat (leNat tail)

/-- `calculate_xor_checksum(data, len)`. -/
def calculateXorChecksum (data : List UInt8) (len : Nat) : UInt32 := xorWords 0 (data.take len)

theorem calculateXorChecksum_append (s t : List UInt8) (len : Nat) (h : len ≤ s.length) :
    calculateXorChecksum (s ++ t) len = calculateXorChecksum s len := by
  rw [calculateXorChecksum, List.take_append_of_le_length h, calculateXorChecksum]

/-! ## Packet headers -/

/-- `DATA_ReqPacket`: the header of a 9012 packet. -/
structure DataReqPacket where
  syncWord : UInt32
  dataLen : UInt32
  counter : UInt16
  cmdType : UInt16
  checksum : UInt32
  channel : UInt32
  deriving DecidableEq, Repr

/-- `sizeof(DATA_ReqPacket)`. -/
def sizeofDataReqPacket : Nat := 20

def DataReqPacket.ofBytes (bs : List UInt8) : DataReqPacket where
  syncWord := load32 bs 0
  dataLen := load32 bs 4
  counter := load16 bs 8
  cmdType := load16 bs 10
  checksum := load32 bs 12
  channel := load32 bs 16

theorem DataReqPacket.ofBytes_append (s t : List UInt8) (h : sizeofDataReqPacket ≤ s.length) :
    DataReqPacket.ofBytes (s ++ t) = DataReqPacket.ofBytes s := by
  unfold sizeofDataReqPacket at h
  unfold DataReqPacket.ofBytes
  rw [load32_append s t 0 (by omega), load32_append s t 4 (by omega),
    load16_append s t 8 (by omega), load16_append s t 10 (by omega),
    load32_append s t 12 (by omega), load32_append s t 16 (by omega)]

/-- `ReqPacket`: the header of a 9009 command. -/
structure ReqPacket where
  syncWord : UInt32
  dataLen : UInt32
  counter : UInt16
  cmdType : UInt16
  checksum : UInt32
  deriving DecidableEq, Repr

/-- `sizeof(ReqPacket)`. -/
def sizeofReqPacket : Nat := 16

def ReqPacket.ofBytes (bs : List UInt8) : ReqPacket where
  syncWord := load32 bs 0
  dataLen := load32 bs 4
  counter := load16 bs 8
  cmdType := load16 bs 10
  checksum := load32 bs 12

theorem ReqPacket.ofBytes_append (s t : List UInt8) (h : sizeofReqPacket ≤ s.length) :
    ReqPacket.ofBytes (s ++ t) = ReqPacket.ofBytes s := by
  unfold sizeofReqPacket at h
  unfold ReqPacket.ofBytes
  rw [load32_append s t 0 (by omega), load32_append s t 4 (by omega),
    load16_append s t 8 (by omega), load16_append s t 10 (by omega),
    load32_append s t 12 (by omega)]

/-! ## CAN records -/

/-- `struct axican_frame`: what the CAN driver reads and writes. -/
structure AxicanFrame where
  canId : UInt32
  canDlc : UInt32
  data0 : UInt32
  data1 : UInt32
  timestamp : UInt64
  deriving DecidableEq, Repr, Inhabited

namespace AxicanFrame

def ofBytes (bs : List UInt8) : AxicanFrame where
  canId := load32 bs 0
  canDlc := load32 bs 4
  data0 := load32 bs 8
  data1 := load32 bs 12
  timestamp := load64 bs 16

def toBytes (frame : AxicanFrame) : List UInt8 :=
  store32 frame.canId ++ (store32 frame.canDlc ++ (store32 frame.data0 ++
    (store32 frame.data1 ++ store64 frame.timestamp)))

@[simp] theorem length_toBytes (frame : AxicanFrame) : frame.toBytes.length = 24 := by
  simp [toBytes]

-- A frame read back from its own bytes, whatever follows them.
theorem ofBytes_toBytes_append (frame : AxicanFrame) (rest : List UInt8) :
    ofBytes (frame.toBytes ++ rest) = frame := by
  have h0 : load32 (frame.toBytes ++ rest) 0 = frame.canId := by
    simpa [toBytes] using load32_store32 [] (store32 frame.canDlc ++ (store32 frame.data0 ++
      (store32 frame.data1 ++ (store64 frame.timestamp ++ rest)))) frame.canId 0 rfl
  have h4 : load32 (frame.toBytes ++ rest) 4 = frame.canDlc := by
    simpa [toBytes] using load32_store32 (store32 frame.canId) (store32 frame.data0 ++
      (store32 frame.data1 ++ (store64 frame.timestamp ++ rest))) frame.canDlc 4 (by simp)
  have h8 : load32 (frame.toBytes ++ rest) 8 = frame.data0 := by
    simpa [toBytes] using load32_store32 (store32 frame.canId ++ store32 frame.canDlc)
      (store32 frame.data1 ++ (store64 frame.timestamp ++ rest)) frame.data0 8 (by simp)
  have h12 : load32 (frame.toBytes ++ rest) 12 = frame.data1 := by
    simpa [toBytes] using load32_store32
      (store32 frame.canId ++ (store32 frame.canDlc ++ store32 frame.data0))
      (store64 frame.timestamp ++ rest) frame.data1 12 (by simp)
  have h16 : load64 (frame.toBytes ++ rest) 16 = frame.timestamp := by
    simpa [toBytes] using load64_store64 (store32 frame.canId ++ (store32 frame.canDlc ++
      (store32 frame.data0 ++ store32 frame.data1))) rest frame.timestamp 16 (by simp)
  rw [ofBytes, h0, h4, h8, h12, h16]

@[simp] theorem ofBytes_toBytes (frame : AxicanFrame) : ofBytes frame.toBytes = frame := by
  simpa using frame.ofBytes_toBytes_append []

end AxicanFrame

/-- `sizeof(struct axican_frame)`. -/
def sizeofAxicanFrame : Nat := 24

/-- `PC_ARM_DATA_DATA`: one CAN frame of the PC protocol. -/
structure PcArmDataData where
  head : UInt32
  direction : UInt8
  type : UInt8
  length : UInt8
  chId : UInt8
  totalCount : UInt32
  chCount : UInt32
  idr : UInt32
  drcr : UInt32
  dw1r : UInt32
  dw2r : UInt32
  packetsSum : UInt16
  packetsNo : UInt16
  timestamp : UInt64
  xorChecksum : UInt32
  deriving DecidableEq, Repr, Inhabited

/-- `sizeof(PC_ARM_DATA_DATA)`. -/
def sizeofPcArmDataData : Nat := 48

def PcArmDataData.ofBytes (bs : List UInt8) : PcArmDataData where
  head := load32 bs 0
  direction := load8 bs 4
  type := load8 bs 5
  length := load8 bs 6
  chId := load8 bs 7
  totalCount := load32 bs 8
  chCount := load32 bs 12
  idr := load32 bs 16
  drcr := load32 bs 20
  dw1r := load32 bs 24
  dw2r := load32 bs 28
  packetsSum := load16 bs 32
  packetsNo := load16 bs 34
  timestamp := load64 bs 36
  xorChecksum := load32 bs 44

theorem PcArmDataData.ofBytes_append (s t : List UInt8) (h : sizeofPcArmDataData ≤ s.length) :
    PcArmDataData.ofBytes (s ++ t) = PcArmDataData.ofBytes s := by
  unfold sizeofPcArmDataData at h
  unfold PcArmDataData.ofBytes
  rw [load32_append s t 0 (by omega), load8_append s t 4 (by omega), load8_append s t 5 (by omega),
    load8_append s t 6 (by omega), load8_append s t 7 (by omega), load32_append s t 8 (by omega),
    load32_append s t 12 (by omega), load32_append s t 16 (by omega),
    load32_append s t 20 (by omega), load32_append s t 24 (by omega),
    load32_append s t 28 (by omega), load16_append s t 32 (by omega),
    load16_append s t 34 (by omega), load64_append s t 36 (by omega),
    load32_append s t 44 (by omega)]

/-- `PC_ARM_SIMULATOR_DATA`: one record of the stand-alone simulator. -/
structure PcArmSimulatorData where
  head : UInt32
  channelId : UInt8
  canId : UInt32
  dataType : UInt32
  rcvLen : UInt16
  sendLen : UInt16
  sendData : List UInt8
  deriving DecidableEq, Repr, Inhabited

/-- `sizeof(PC_ARM_SIMULATOR_DATA)`. -/
def sizeofPcArmSimulatorData : Nat := 288
/-- `sizeof(send_data)`. -/
def sizeofSendData : Nat := 256

def PcArmSimulatorData.ofBytes (bs : List UInt8) : PcArmSimulatorData where
  head := load32 bs 0
  channelId := load8 bs 8
  canId := load32 bs 19
  dataType := load32 bs 23
  rcvLen := load16 bs 27
  sendLen := load16 bs 29
  sendData := slice bs 32 sizeofSendData

/-- `sizeof(SecondPulseData)`. -/
def sizeofSecondPulseData : Nat := 9
/-- `sizeof(PC_DMA_DATA)`. -/
def sizeofPcDmaData : Nat := 2

end CanGateway
