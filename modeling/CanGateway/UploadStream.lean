import CanGateway.CommandReplies
import CanGateway.EventPackets
import Mathlib.Data.Set.List

/-!
# The stream of port 9010

Reports of frames, replies to commands and answers to buffer queries leave through one socket.
Their length fields do not mean the same: a report's counts what is behind its header, a reply's the
whole reply, that of a version reply the version alone, and the answer to a buffer query is sent
with a header of zeros.  The first twelve bytes are enough all the same to find the end of each.
-/

open ByteMemory StreamParser

namespace CanGateway

/-- The bytes an output hands to `send` on port 9010. -/
def ServerOutput.uploaded? : ServerOutput → Option (List UInt8)
  | .sent _ response => some response.toBytes
  | .buffers message => some message.toBytes
  | .normal message true | .transmitted message => some message.toBytes
  | _ => none

def uploads (outputs : List ServerOutput) : List (List UInt8) :=
  outputs.filterMap ServerOutput.uploaded?

/-! ## The reader -/

/-- The heads a message can have. -/
def UploadHead (s : List UInt8) : Prop :=
  load32 s 0 = 0 ∨ load32 s 0 = pcArmStatusWord ∨ load32 s 0 = reverse4bytes ackSyncWord

instance : DecidablePred UploadHead := fun _ => inferInstanceAs (Decidable (_ ∨ _))

/-- The size of the message a header starts. -/
def uploadLen (s : List UInt8) : Nat :=
  let length := (reverse4bytes (load32 s 4)).toNat
  if load32 s 0 = pcArmStatusWord then 20 + length
  else if load32 s 0 = reverse4bytes ackSyncWord then
    if load16 s 10 = reverse2bytes CmdType.versionQuery.word then 16 + length else length
  else 16 + maxChannels * sizeofCanBufRemainingResponse

theorem uploadHead_append (s t : List UInt8) (h : 12 ≤ s.length) :
    UploadHead (s ++ t) ↔ UploadHead s := by
  rw [UploadHead, load32_append s t 0 (by omega)]
  rfl

theorem uploadLen_append (s t : List UInt8) (h : 12 ≤ s.length) :
    uploadLen (s ++ t) = uploadLen s := by
  rw [uploadLen, load32_append s t 0 (by omega), load32_append s t 4 (by omega),
    load16_append s t 10 (by omega)]
  rfl

def uploadFormat : HeaderFormat UInt8 (List UInt8) where
  headerLen := 12
  Valid := UploadHead
  decValid := inferInstance
  packetLen s := max 12 (uploadLen s)
  packet s := s.take (max 12 (uploadLen s))
  headerLen_pos := Nat.zero_lt_succ _
  headerLen_le s := Nat.le_max_left _ _
  valid_append := uploadHead_append
  packetLen_append s t h := by rw [uploadLen_append s t h]
  packet_append s t h := by
    rw [uploadLen_append s t (Nat.le_trans (Nat.le_max_left _ _) h),
      List.take_append_of_le_length h]

/-- A message whose header says how long it is. -/
structure UploadedMessage where
  bytes : List UInt8
  whole : 12 ≤ bytes.length
  head : UploadHead bytes
  length_eq : uploadLen bytes = bytes.length

theorem uploadFormat_encodes :
    uploadFormat.Encodes UploadedMessage.bytes UploadedMessage.bytes where
  valid message rest := (uploadHead_append _ rest message.whole).mpr message.head
  packetLen message rest := by
    show max 12 (uploadLen (message.bytes ++ rest)) = _
    rw [uploadLen_append _ rest message.whole, message.length_eq, Nat.max_eq_right message.whole]
  packet message rest := by
    show (message.bytes ++ rest).take (max 12 (uploadLen (message.bytes ++ rest))) = _
    rw [uploadLen_append _ rest message.whole, message.length_eq, Nat.max_eq_right message.whole,
      List.take_left]

/-! ## The messages -/

section Messages

variable {head length : UInt32} {count command : UInt16} {rest : List UInt8}

-- The fields of twelve bytes written one behind the other.
theorem load_uploaded {bytes : List UInt8}
    (h : bytes = store32 head ++ store32 length ++ store16 count ++ store16 command ++ rest) :
    12 ≤ bytes.length ∧ load32 bytes 0 = head ∧ load32 bytes 4 = length ∧
      load16 bytes 10 = command := by
  refine ⟨?_, ?_, ?_, ?_⟩
  · rw [h]
    simp only [List.length_append, length_store32, length_store16]
    omega
  · rw [h]
    simp only [List.append_assoc]
    exact load32_store32 [] _ head 0 rfl
  · rw [h]
    simp only [List.append_assoc]
    exact load32_store32 (store32 head) _ length 4 (length_store32 head)
  · rw [h, List.append_assoc]
    exact load16_store16 _ rest command 10 (by simp)

theorem CanSendResponse.Formed.uploaded {response : CanSendResponse} {command : CmdType}
    (h : response.Formed command) :
    ∃ message : UploadedMessage, message.bytes = response.toBytes := by
  obtain ⟨hwhole, hhead, hlength, hcommand⟩ :=
    load_uploaded (show response.toBytes = _ from rfl)
  have hsize := response.length_toBytes
  rw [h.size] at hsize
  rw [h.head] at hhead
  rw [h.commond] at hcommand
  rw [h.length] at hlength
  refine ⟨⟨response.toBytes, hwhole, Or.inr (Or.inr hhead), ?_⟩, rfl⟩
  rw [uploadLen, hhead, hlength, hcommand, hsize, reverse4bytes_reverse4bytes]
  cases command <;> decide

theorem uploaded_report {message : UploadMessage} {canId : UInt8}
    (h : message.header = uploadHeader canId) :
    ∃ uploaded : UploadedMessage, uploaded.bytes = message.toBytes := by
  have hbytes : message.toBytes = store32 message.header.head ++ store32 message.header.length ++
      store16 message.header.counter ++ store16 message.header.command ++
      (store32 message.header.check ++ store32 message.header.chind ++ message.record.toBytes) := by
    simp only [UploadMessage.toBytes, UploadHeader.toBytes, List.append_assoc]
  obtain ⟨hwhole, hhead, hlength, _⟩ := load_uploaded hbytes
  have hsize : message.toBytes.length = sizeofUploadMessage := by
    rw [UploadMessage.toBytes, List.length_append, UploadHeader.length_toBytes,
      UploadRecord.length_toBytes]
    rfl
  rw [h] at hhead hlength
  change load32 message.toBytes 0 = pcArmStatusWord at hhead
  refine ⟨⟨message.toBytes, hwhole, Or.inr (Or.inl hhead), ?_⟩, rfl⟩
  rw [uploadLen, hlength, hsize, if_pos hhead]
  show 20 + (reverse4bytes (reverse4bytes (UInt32.ofNat (sizeofUploadMessage - 20)))).toNat = _
  decide

theorem uploaded_buffers (rings : ReportedRings) :
    ∃ uploaded : UploadedMessage, uploaded.bytes = (multiResponse rings).toBytes := by
  obtain ⟨hwhole, hhead, _, _⟩ := load_uploaded (show (multiResponse rings).toBytes = _ from rfl)
  change load32 (multiResponse rings).toBytes 0 = 0 at hhead
  refine ⟨⟨(multiResponse rings).toBytes, hwhole, Or.inl hhead, ?_⟩, rfl⟩
  rw [uploadLen, hhead, (multiResponse rings).length_toBytes, if_neg (by decide),
    if_neg (by decide)]

theorem serverStep_uploaded (s : CommandServer) (call : ServerCall) :
    ∀ bytes ∈ uploads (serverStep s call).1,
      ∃ message : UploadedMessage, message.bytes = bytes := by
  intro bytes hbytes
  obtain ⟨output, houtput, hbytes⟩ := List.mem_filterMap.mp hbytes
  have hformed := serverStep_allFormed s call output houtput
  cases output with
  | sent command response =>
      cases hbytes
      have hreply : (command, response) ∈ replies (serverStep s call).1 :=
        List.mem_filterMap.mpr ⟨_, houtput, rfl⟩
      obtain ⟨_, _, _, _, hresponse, _⟩ := serverStep_replies hreply
      exact hresponse.uploaded
  | buffers message =>
      cases hbytes
      obtain ⟨rings, rfl⟩ := hformed
      exact uploaded_buffers rings
  | normal message sent =>
      obtain ⟨canId, hheader⟩ := hformed
      cases sent
      · cases hbytes
      · cases hbytes
        exact uploaded_report hheader
  | transmitted message =>
      cases hbytes
      obtain ⟨canId, hheader⟩ := hformed
      exact uploaded_report hheader
  | event text => cases hbytes
  | driver call => cases hbytes
  | acknowledged text => cases hbytes
  | unsent command response => cases hbytes

theorem run_uploaded (calls : List ServerCall) (s : CommandServer) :
    ∀ bytes ∈ uploads (Transducer.run serverStep calls s).1.flatten,
      ∃ message : UploadedMessage, message.bytes = bytes := by
  apply Transducer.run_answers fun past _ => ∀ bytes ∈ uploads past.flatten,
    ∃ message : UploadedMessage, message.bytes = bytes
  · exact fun _ hbytes => absurd hbytes List.not_mem_nil
  · intro past t call hpast bytes hbytes
    rw [List.flatten_concat, uploads, List.filterMap_append] at hbytes
    rcases List.mem_append.mp hbytes with hold | hnew
    · exact hpast bytes hold
    · exact serverStep_uploaded t call bytes hnew

end Messages

/-- **The stream of port 9010 can be taken apart again.**  Whatever part of it a client has got, the
    messages read are those that have come whole, in order, and what is left is the front of the
    next one. -/
theorem upload_stream_splits (calls : List ServerCall) (s : CommandServer) (n : Nat) :
    let messages := uploads (Transducer.run serverStep calls s).1.flatten
    let received := messages.flatten.take n
    let read := parse uploadFormat.framing received
    received = read.1.flatten ++ read.2 ∧
      ((messages = read.1 ∧ read.2 = []) ∨
        ∃ next later, messages = read.1 ++ next :: later ∧ read.2 <+: next ∧
          read.2.length < next.length) := by
  intro messages received read
  obtain ⟨uploaded, huploaded⟩ : messages ∈ Set.range (List.map UploadedMessage.bytes) := by
    rw [Set.range_list_map]
    exact run_uploaded calls s
  obtain ⟨whole, rest, hparse, hstream, hnext⟩ :=
    uploadFormat.parse_part uploadFormat_encodes uploaded n
  have hread : read = (whole.map UploadedMessage.bytes, rest) := by
    show parse uploadFormat.framing (messages.flatten.take n) = _
    rw [← huploaded, ← List.flatMap_def]
    exact hparse
  rw [hread]
  constructor
  · show messages.flatten.take n = _
    rw [← huploaded, ← List.flatMap_def, ← List.flatMap_def]
    exact hstream
  · rcases hnext with ⟨rfl, hrest⟩ | ⟨next, later, rfl, hfront, hshort⟩
    · exact Or.inl ⟨huploaded.symm, hrest⟩
    · refine Or.inr ⟨next.bytes, later.map UploadedMessage.bytes, ?_, hfront, hshort⟩
      rw [← huploaded, List.map_append, List.map_cons]

end CanGateway
