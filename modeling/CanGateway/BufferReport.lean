import CanGateway.BroadcastSystem

/-!
# The two buffer-status messages

`handle_can_buf_query` answers a query on port 9010, `buffer_report_thread` reports on port 9012.
Both build a `MultiChannelBufResponse` of their own from the same rings.
-/

namespace CanGateway

def ackSyncWord : UInt32 := 0x05CCF0FF

/-- `MAX_CHANNELS`: the channels of the message. -/
def maxChannels : Nat := 32

/-- `CanBufRemainingResponse`, packed. -/
structure CanBufRemainingResponse where
  channel : UInt8
  normalBufRemaining : UInt32
  pulseBufRemaining : UInt32
  simBufRemaining : UInt32
  dmaddrSpace : UInt32
  vfifoSpace : UInt32
  axififoSpace : UInt32
  deriving DecidableEq, Repr

/-- `sizeof(CanBufRemainingResponse)`. -/
def sizeofCanBufRemainingResponse : Nat := 25

/-- All that an entry says is left. -/
def CanBufRemainingResponse.capacities (entry : CanBufRemainingResponse) : List UInt32 :=
  [entry.normalBufRemaining, entry.pulseBufRemaining, entry.simBufRemaining, entry.dmaddrSpace,
    entry.vfifoSpace, entry.axififoSpace]

/-- A `CanBufRemainingResponse` of zero bytes. -/
def CanBufRemainingResponse.zero : CanBufRemainingResponse := ⟨0, 0, 0, 0, 0, 0, 0⟩

def CanBufRemainingResponse.toBytes (entry : CanBufRemainingResponse) : List UInt8 :=
  entry.channel :: (store32 entry.normalBufRemaining ++ store32 entry.pulseBufRemaining ++
    store32 entry.simBufRemaining ++ store32 entry.dmaddrSpace ++ store32 entry.vfifoSpace ++
    store32 entry.axififoSpace)

@[simp] theorem CanBufRemainingResponse.length_toBytes (entry : CanBufRemainingResponse) :
    entry.toBytes.length = sizeofCanBufRemainingResponse := by
  simp [toBytes, sizeofCanBufRemainingResponse]

/-- `MultiChannelBufResponse`, packed. -/
structure MultiChannelBufResponse where
  tcpBufferHead : UInt32
  tcpBufferLength : UInt32
  tcpBufferCount : UInt16
  tcpBufferCommond : UInt16
  tcpBufferChecksum : UInt32
  channels : List CanBufRemainingResponse
  length_eq : channels.length = maxChannels

namespace MultiChannelBufResponse

variable (message : MultiChannelBufResponse)

/-- The header up to the checksum. -/
def headBytes : List UInt8 :=
  store32 message.tcpBufferHead ++ store32 message.tcpBufferLength ++
    store16 message.tcpBufferCount ++ store16 message.tcpBufferCommond

def toBytes : List UInt8 :=
  message.headBytes ++ (store32 message.tcpBufferChecksum ++
    message.channels.flatMap CanBufRemainingResponse.toBytes)

@[simp] theorem length_headBytes : message.headBytes.length = 12 := by
  simp [headBytes]

theorem length_toBytes :
    message.toBytes.length = 16 + maxChannels * sizeofCanBufRemainingResponse := by
  rw [toBytes, List.length_append, List.length_append, length_headBytes, length_store32,
    ByteMemory.length_flatMap_of_length _ _ CanBufRemainingResponse.length_toBytes,
    message.length_eq]
  omega

end MultiChannelBufResponse

/-- The rings both messages are about; `main` has initialised them for 32 channels. -/
structure ReportedRings where
  gDataBufSet : RingBuffer32ChSet
  gSimulatorBufSet : RingBuffer32ChSet
  bcast : BroadcastState
  data_wf : gDataBufSet.Wf
  data_channels : gDataBufSet.maxChannel = 32
  simulator_wf : gSimulatorBufSet.Wf
  simulator_channels : gSimulatorBufSet.maxChannel = 32

/-! ## The answer to a query -/

/-- The entry of channel `ch` in `handle_can_buf_query`; its loop ends at `AXICAN_MAX`, so the
    entries behind stay zero. -/
def queriedChannel (rings : ReportedRings) (ch : Nat) : CanBufRemainingResponse :=
  if ch < axicanMax then
    { channel := UInt8.ofNat ch
      normalBufRemaining := ringbuffer32chAvail rings.gDataBufSet (UInt8.ofNat ch) 32
      pulseBufRemaining := broadcastBufferAvailable rings.bcast (UInt8.ofNat ch)
      simBufRemaining := ringbuffer32chAvail rings.gSimulatorBufSet (UInt8.ofNat ch) 32
      dmaddrSpace := 0xFFFFFFFF
      vfifoSpace := 0xFFFFFFFF
      axififoSpace := 0xFFFFFFFF }
  else .zero

/-- `multi_response`: the header keeps the zeros it is initialised with. -/
def multiResponse (rings : ReportedRings) : MultiChannelBufResponse where
  tcpBufferHead := 0
  tcpBufferLength := 0
  tcpBufferCount := 0
  tcpBufferCommond := 0
  tcpBufferChecksum := 0
  channels := (List.range maxChannels).map (queriedChannel rings)
  length_eq := by rw [List.length_map, List.length_range]

/-- The error event, and the message handed to `send` if there is a data client. -/
def handleCanBufQuery (payload : List UInt8) (connected : Bool) (rings : ReportedRings) :
    Option String × Option MultiChannelBufResponse :=
  if load32 payload 0 ≠ 0xFFFFFFFF then (some "Invalid buffer type (must be 1~3)", none)
  else (none, if connected then some (multiResponse rings) else none)

/-! ## The periodic report -/

/-- `ringbuffer_avail`, also of a null pointer. -/
def ringbufferAvailAt (rb : Option RingBuffer) : UInt32 :=
  match rb with
  | none => 0
  | some rb => ringbufferAvail rb

/-- The entry of channel `ch` in `buffer_report_thread`. -/
def reportedChannel (rings : ReportedRings) (ch : Nat) : CanBufRemainingResponse :=
  if ch < axicanMax then
    { channel := UInt8.ofNat ch
      normalBufRemaining := ringbufferAvailAt (rings.gDataBufSet.ring ch)
      pulseBufRemaining := broadcastBufferAvailable rings.bcast (UInt8.ofNat ch)
      simBufRemaining := ringbufferAvailAt (rings.gSimulatorBufSet.ring ch)
      dmaddrSpace := 0xFFFFFFFF
      vfifoSpace := 0xFFFFFFFF
      axififoSpace := 0xFFFFFFFF }
  else
    { channel := UInt8.ofNat ch
      normalBufRemaining := 0xFFFFFFFF
      pulseBufRemaining := 0xFFFFFFFF
      simBufRemaining := 0xFFFFFFFF
      dmaddrSpace := 0xFFFFFFFF
      vfifoSpace := 0xFFFFFFFF
      axififoSpace := 0xFFFFFFFF }

/-- `upload_data`: the checksum is taken as soon as the header is filled in. -/
def uploadData (rings : ReportedRings) : MultiChannelBufResponse :=
  let header : MultiChannelBufResponse :=
    { tcpBufferHead := reverse4bytes ackSyncWord
      tcpBufferLength := reverse4bytes (32 * UInt32.ofNat sizeofCanBufRemainingResponse)
      tcpBufferCount := 0
      tcpBufferCommond := reverse2bytes 0x0100
      tcpBufferChecksum := 0
      channels := (List.range maxChannels).map (reportedChannel rings)
      length_eq := by rw [List.length_map, List.length_range] }
  { header with tcpBufferChecksum := calculateXorChecksum header.toBytes 12 }

/-- The message of one pass of `buffer_report_thread`, if there is a client on port 9012. -/
def bufferReport (connected : Bool) (rings : ReportedRings) : Option MultiChannelBufResponse :=
  if connected then some (uploadData rings) else none

/-! ## Where the two agree -/

-- Both accessors read the same ring.
theorem ringbuffer32chAvail_eq {set : RingBuffer32ChSet} (hset : set.Wf)
    (hchannels : set.maxChannel = 32) {ch : Nat} (hch : ch < axicanMax) :
    ringbuffer32chAvail set (UInt8.ofNat ch) 32 = ringbufferAvailAt (set.ring ch) := by
  have hnat : (UInt8.ofNat ch).toNat = ch :=
    UInt8.toNat_ofNat_of_lt' (Nat.lt_trans hch (by decide))
  have hvalid := hset.validRing (UInt8.ofNat ch) 32
  have hin : set.bank.Valid (32 : UInt8).toNat (UInt8.ofNat ch).toNat := by
    rw [hnat]
    refine ⟨Nat.lt_trans hch (by decide), ?_⟩
    show ch < set.maxChannel.toNat
    rw [hchannels]
    exact Nat.lt_trans hch (by decide)
  rw [if_pos hin, hnat] at hvalid
  obtain ⟨rb, hvalid, hring, _⟩ := hvalid
  rw [ringbuffer32chAvail, hvalid, hring]
  rfl

theorem queriedChannel_eq (rings : ReportedRings) {ch : Nat} (hch : ch < axicanMax) :
    queriedChannel rings ch = reportedChannel rings ch := by
  rw [queriedChannel, reportedChannel, if_pos hch, if_pos hch,
    ringbuffer32chAvail_eq rings.data_wf rings.data_channels hch,
    ringbuffer32chAvail_eq rings.simulator_wf rings.simulator_channels hch]

theorem uploadData_checksum (rings : ReportedRings) :
    (uploadData rings).tcpBufferChecksum =
      calculateXorChecksum (uploadData rings).toBytes 12 := by
  have hhead : ∀ message : MultiChannelBufResponse,
      calculateXorChecksum message.toBytes 12 = calculateXorChecksum message.headBytes 12 := by
    intro message
    rw [MultiChannelBufResponse.toBytes, calculateXorChecksum_append _ _ _
      (Nat.le_of_eq message.length_headBytes.symm)]
  rw [hhead]
  show calculateXorChecksum _ 12 = _
  rw [hhead]
  rfl

/-- **The two buffer-status messages agree on the CAN channels.**  In every state of the rings the
    report has its header, and both messages give the six CAN channels the same entry, with the
    channel number and what is left in its rings.  Behind these the query answers 0 and the report
    0xFFFFFFFF for every capacity. -/
theorem buffer_messages_agree (rings : ReportedRings) (payload : List UInt8)
    (query report : MultiChannelBufResponse)
    (hquery : (handleCanBufQuery payload true rings).2 = some query)
    (hreport : bufferReport true rings = some report) :
    (report.tcpBufferHead = reverse4bytes ackSyncWord ∧
      report.tcpBufferLength = reverse4bytes (UInt32.ofNat (report.toBytes.length - 16)) ∧
      report.tcpBufferCommond = reverse2bytes 0x0100 ∧
      report.tcpBufferChecksum = calculateXorChecksum report.toBytes 12) ∧
      (∀ ch, ch < axicanMax → ∃ entry,
        query.channels[ch]? = some entry ∧ report.channels[ch]? = some entry ∧
          entry.channel = UInt8.ofNat ch ∧
          entry.normalBufRemaining = ringbuffer32chAvail rings.gDataBufSet (UInt8.ofNat ch) 32 ∧
          entry.pulseBufRemaining = ringbuffer32chAvail rings.bcast.groups (UInt8.ofNat ch) 6 ∧
          entry.simBufRemaining =
            ringbuffer32chAvail rings.gSimulatorBufSet (UInt8.ofNat ch) 32) ∧
      ∀ ch, axicanMax ≤ ch → ch < maxChannels → ∃ entry entry',
        query.channels[ch]? = some entry ∧ report.channels[ch]? = some entry' ∧
          entry.capacities = List.replicate 6 0 ∧ entry'.channel = UInt8.ofNat ch ∧
          entry'.capacities = List.replicate 6 0xFFFFFFFF := by
  have hreported : uploadData rings = report := Option.some.inj hreport
  have hqueried : multiResponse rings = query := by
    rw [handleCanBufQuery] at hquery
    split at hquery
    · exact (nomatch hquery)
    · exact Option.some.inj hquery
  subst hreported hqueried
  have hentry : ∀ (f : Nat → CanBufRemainingResponse) (ch : Nat), ch < maxChannels →
      ((List.range maxChannels).map f)[ch]? = some (f ch) := by
    intro f ch hch
    rw [List.getElem?_map, List.getElem?_range hch, Option.map_some]
  refine ⟨⟨rfl, ?_, rfl, uploadData_checksum rings⟩, ?_, ?_⟩
  · rw [MultiChannelBufResponse.length_toBytes, Nat.add_sub_cancel_left]
    rfl
  · intro ch hch
    have hlt : ch < maxChannels := Nat.lt_trans hch (by decide)
    refine ⟨queriedChannel rings ch, hentry _ ch hlt, ?_, ?_⟩
    · rw [queriedChannel_eq rings hch]
      exact hentry _ ch hlt
    · rw [queriedChannel, if_pos hch]
      exact ⟨rfl, rfl, rfl, rfl⟩
  · intro ch hle hlt
    have hnot : ¬ ch < axicanMax := Nat.not_lt.mpr hle
    refine ⟨_, _, hentry _ ch hlt, hentry _ ch hlt, ?_, ?_⟩
    · rw [queriedChannel, if_neg hnot]
      rfl
    · rw [reportedChannel, if_neg hnot]
      exact ⟨rfl, rfl⟩

-- A set initialised for 32 channels stays such a set, whatever is called on it.
theorem calledSet_channels {elemSize bufCapacity : UInt32} {set : RingBuffer32ChSet}
    {heap heap' : Heap}
    (hinit : ringbuffer32chInit .zero elemSize bufCapacity 32 heap = (0, set, heap'))
    (calls : List (ChannelCall elemSize.toNat)) :
    (Transducer.run callSet calls set).2.Wf ∧
      (Transducer.run callSet calls set).2.maxChannel = 32 := by
  obtain ⟨hwf, helem, hmax, _, _⟩ := ringbuffer32chInit_success hinit
  have hkeep : ∀ (s : RingBuffer32ChSet) (call : ChannelCall elemSize.toNat), set.Keeps s →
      set.Keeps (callSet s call).2 := by
    intro s call hs
    exact hs.trans (callSet_keeps hs.wf (by rw [hs.elemSize, helem]) call)
  have hrun := Transducer.run_invariant hkeep calls set hwf.keeps_self
  exact ⟨hrun.wf, hrun.maxChannel.trans hmax⟩

/-- The rings as `main` initialises them, after any calls on the two sets. -/
def reachedRings (dataCalls : List (ChannelCall (48 : UInt32).toNat))
    (simulatorCalls : List (ChannelCall (288 : UInt32).toNat)) (bcast : BroadcastState) :
    ReportedRings where
  gDataBufSet := (Transducer.run callSet dataCalls
    (ringbuffer32chInit .zero 48 131072 32 ampleHeap).2.1).2
  gSimulatorBufSet := (Transducer.run callSet simulatorCalls
    (ringbuffer32chInit .zero 288 32 32 ampleHeap).2.1).2
  bcast := bcast
  data_wf := (calledSet_channels (Prod.ext rfl rfl) dataCalls).1
  data_channels := (calledSet_channels (Prod.ext rfl rfl) dataCalls).2
  simulator_wf := (calledSet_channels (Prod.ext rfl rfl) simulatorCalls).1
  simulator_channels := (calledSet_channels (Prod.ext rfl rfl) simulatorCalls).2

-- Channel 3 at the start: both messages give the full capacity of its data ring.
theorem buffer_messages_agree_start :
    let rings := reachedRings [] [] (.initial .zero)
    ((multiResponse rings).channels[3]?).map CanBufRemainingResponse.normalBufRemaining =
      some 131072 ∧
      (uploadData rings).tcpBufferCommond = 1 := by
  intro rings
  obtain ⟨⟨_, _, hcommond, _⟩, hchannels, _⟩ := buffer_messages_agree rings
    [0xFF, 0xFF, 0xFF, 0xFF] (multiResponse rings) (uploadData rings) rfl rfl
  obtain ⟨entry, hquery, _, _, hnormal, _⟩ := hchannels 3 (by decide)
  rw [hquery, Option.map_some, hnormal, hcommond]
  exact ⟨rfl, by decide⟩

-- At the start already: no sync word, and another capacity for channel 6.
theorem buffer_messages_differ :
    let rings := reachedRings [] [] (.initial .zero)
    (multiResponse rings).tcpBufferHead ≠ (uploadData rings).tcpBufferHead ∧
      ((multiResponse rings).channels[6]?).map CanBufRemainingResponse.normalBufRemaining = some 0 ∧
      ((uploadData rings).channels[6]?).map CanBufRemainingResponse.normalBufRemaining =
        some 0xFFFFFFFF := by
  intro rings
  have hhead : (0 : UInt32) ≠ reverse4bytes ackSyncWord := by decide
  exact ⟨hhead, rfl, rfl⟩

end CanGateway
