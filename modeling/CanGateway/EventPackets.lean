import CanGateway.CommandReplies
import CanGateway.Library.ParitySum

/-!
# The events of port 9011

`send_event` puts a text of at most 63 bytes and a 16-bit checksum into a packet of 84 bytes.  No
text of the command handlers is cut off; the checksum, the low half of the 32-bit one, sees only the
low half of every word.
-/

open ByteMemory LittleEndian ParitySum

namespace CanGateway

/-! ## The packet -/

def evnetSyncWord : UInt32 := 0x02CCF0FF
def eventLevelError : UInt32 := 2
def eventCanSentFaile : UInt32 := 2

def sizeofEventPacket : Nat := 84

/-- `EventPacket`, packed. -/
structure EventPacket where
  syncWord : UInt32
  dataLen : UInt32
  eventLevel : UInt32
  eventId : UInt32
  timestamp : UInt16
  checksum : UInt16
  description : List UInt8
  length_eq : description.length = 64

namespace EventPacket

def toBytes (event : EventPacket) : List UInt8 :=
  store32 event.syncWord ++ store32 event.dataLen ++ store32 event.eventLevel ++
    store32 event.eventId ++ store16 event.timestamp ++
    (store16 event.checksum ++ event.description)

@[simp] theorem length_toBytes (event : EventPacket) :
    event.toBytes.length = sizeofEventPacket := by
  simp [toBytes, event.length_eq, sizeofEventPacket]

end EventPacket

/-- The bytes of a C string. -/
def textBytes (text : String) : List UInt8 := text.toList.map fun c => UInt8.ofNat c.toNat

/-- `strncpy` of a C string to the start of zeroed memory: what does not fit in `n` bytes is cut
    off. -/
def strncpy (size n : Nat) (src : List UInt8) : List UInt8 :=
  let text := (src.takeWhile (· ≠ 0)).take n
  text ++ List.replicate (size - text.length) 0

theorem length_strncpy {size n : Nat} (hn : n ≤ size) (src : List UInt8) :
    (strncpy size n src).length = size := by
  have htext : ((src.takeWhile (· ≠ 0)).take n).length ≤ n := List.length_take_le _ _
  rw [strncpy, List.length_append, List.length_replicate]
  omega

/-- The packet of `send_event`, if a client is connected; its `error_code` is not used.  `clock` is
    the monotonic time in microseconds. -/
def sendEvent (connected : Bool) (level id : UInt32) (clock : UInt64) (msg : List UInt8) :
    Option EventPacket :=
  if connected then
    let event : EventPacket :=
      { syncWord := evnetSyncWord
        dataLen := UInt32.ofNat sizeofEventPacket
        eventLevel := level
        eventId := id
        timestamp := clock.toUInt16
        checksum := 0
        description := strncpy 64 63 msg
        length_eq := length_strncpy (by decide) msg }
    some { event with
      checksum := (calculateXorChecksum event.toBytes (sizeofEventPacket - 2)).toUInt16 }
  else none

/-! ## What the checksum sees -/

/-- The low half of the word at a word offset. -/
def halfWord (bs : List UInt8) (i : Nat) : UInt16 := load16 bs (i * 4)

/-- The parity sum of the low halves of the first `n` words. -/
def halfSum (bs : List UInt8) (n : Nat) : UInt16 := sum (· ^^^ ·) 0 (halfWord bs) n

theorem halfWord_cons (a b c d : UInt8) (rest : List UInt8) (i : Nat) :
    halfWord (a :: b :: c :: d :: rest) (i + 1) = halfWord rest i := by
  rw [halfWord, halfWord, Nat.add_mul]
  rfl

theorem low_word (a b : UInt8) (tail : List UInt8) :
    (UInt32.ofNat (leNat (a :: b :: tail))).toUInt16 = UInt16.ofNat (leNat [a, b]) := by
  apply UInt16.toNat_inj.mp
  rw [UInt32.toNat_toUInt16, UInt32.toNat_ofNat', UInt16.toNat_ofNat']
  simp only [leNat]
  omega

-- All words whole but the last, which has two bytes.
theorem xorWords_low (n : Nat) (bs : List UInt8) (res : UInt32) (h : bs.length = n * 4 + 2) :
    (xorWords res bs).toUInt16 = res.toUInt16 ^^^ halfSum bs (n + 1) := by
  induction n generalizing bs res with
  | zero =>
      obtain ⟨a, b, rfl⟩ := List.length_eq_two.mp (by omega : bs.length = 2)
      show (res ^^^ UInt32.ofNat (leNat [a, b])).toUInt16 = _ ^^^ (0 ^^^ halfWord [a, b] 0)
      rw [UInt32.toUInt16_xor, low_word, UInt16.zero_xor]
      rfl
  | succ n ih =>
      obtain ⟨a, b, c, d, rest, rfl⟩ := exists_word (show 4 ≤ bs.length by omega)
      have hrest : rest.length = n * 4 + 2 := by
        simp only [List.length_cons] at h
        omega
      have hwords : (fun i => halfWord (a :: b :: c :: d :: rest) (i + 1)) = halfWord rest :=
        funext fun i => halfWord_cons a b c d rest i
      have hsum : halfSum (a :: b :: c :: d :: rest) (n + 2) =
          UInt16.ofNat (leNat [a, b]) ^^^ halfSum rest (n + 1) := by
        rw [halfSum, sum_succ_front, hwords]
        rfl
      rw [xorWords, ih rest _ hrest, UInt32.toUInt16_xor, low_word, hsum, UInt16.xor_assoc]

theorem halfWord_append (s t : List UInt8) (i : Nat) (h : i * 4 + 2 ≤ s.length) :
    halfWord (s ++ t) i = halfWord s i := load16_append s t (i * 4) h

theorem checksum_low (n : Nat) (bs : List UInt8) (h : n * 4 + 2 ≤ bs.length) :
    (calculateXorChecksum bs (n * 4 + 2)).toUInt16 = halfSum bs (n + 1) := by
  have hlen : (bs.take (n * 4 + 2)).length = n * 4 + 2 := by
    rw [List.length_take]
    omega
  have hsame : halfSum (bs.take (n * 4 + 2)) (n + 1) = halfSum bs (n + 1) := by
    apply sum_congr
    intro i hi
    have happend := halfWord_append (bs.take (n * 4 + 2)) (bs.drop (n * 4 + 2)) i (by omega)
    rw [List.take_append_drop] at happend
    exact happend.symm
  rw [calculateXorChecksum, xorWords_low n _ 0 hlen, hsame]
  exact UInt16.zero_xor

/-! ## The check of a receiver -/

/-- The checksum of a packet is what `calculate_xor_checksum` gives for it as it was received. -/
def EventChecked (bytes : List UInt8) : Prop :=
  load16 bytes 18 = (calculateXorChecksum bytes (sizeofEventPacket - 2)).toUInt16

instance (bytes : List UInt8) : Decidable (EventChecked bytes) :=
  inferInstanceAs (Decidable (_ = _))

section Windows

variable {bs src : List UInt8} {off k : Nat}

theorem eventChecked_iff (h : bs.length = sizeofEventPacket) :
    EventChecked bs ↔ load16 bs 18 = halfSum bs 21 := by
  have hlen : bs.length = 84 := h
  rw [EventChecked, ← checksum_low 20 bs (by omega)]
  rfl

theorem load16_write_other (h : off + src.length ≤ bs.length)
    (hoff : k + 2 ≤ off ∨ off + src.length ≤ k) : load16 (write bs off src) k = load16 bs k := by
  rw [load16, load16]
  congr 2
  rcases hoff with hbefore | hafter
  · exact slice_write_before bs src off k 2 hbefore (by omega)
  · exact slice_write_after bs src off k 2 hafter (by omega)

theorem store16_load16 (h : k + 2 ≤ bs.length) : store16 (load16 bs k) = slice bs k 2 := by
  have hlen := length_slice bs k 2 h
  have hlt := leNat_lt (slice bs k 2)
  have hbytes := leBytes_leNat (slice bs k 2)
  rw [hlen] at hlt hbytes
  rw [store16, load16, UInt16.toNat_ofNat_of_lt' hlt, hbytes]

theorem load16_write_ne {b : UInt8} (h : k + 2 ≤ bs.length) (hk : k ≤ off) (hoff : off < k + 2)
    (hb : bs[off]? ≠ some b) : load16 (write bs off [b]) k ≠ load16 bs k := by
  have hlen : (write bs off [b]).length = bs.length :=
    length_write bs [b] off (by rw [List.length_singleton]; omega)
  intro heq
  have hslice := congrArg store16 heq
  rw [store16_load16 (by omega), store16_load16 h] at hslice
  have hget := congrArg (fun window : List UInt8 => window[off - k]?) hslice
  simp only [slice] at hget
  rw [List.getElem?_take_of_lt (by omega), List.getElem?_take_of_lt (by omega),
    List.getElem?_drop, List.getElem?_drop, Nat.add_sub_cancel' hk,
    getElem?_write bs [b] off off (by rw [List.length_singleton]; omega),
    if_pos ⟨Nat.le_refl off, Nat.lt_succ_self off⟩, Nat.sub_self] at hget
  exact hb hget.symm

-- A window that misses the low halves.
theorem halfSum_write_other (h : off + src.length ≤ bs.length)
    (hoff : ∀ i, i < 21 → i * 4 + 2 ≤ off ∨ off + src.length ≤ i * 4) :
    halfSum (write bs off src) 21 = halfSum bs 21 :=
  sum_congr fun i hi => load16_write_other h (hoff i hi)

theorem halfSum_write_ne {b : UInt8} (h : bs.length = 84) (hlow : off % 4 < 2) (hoff : off < 84)
    (hb : bs[off]? ≠ some b) : halfSum (write bs off [b]) 21 ≠ halfSum bs 21 := by
  have hword : off / 4 < 21 := by omega
  have hother : ∀ i, i < 21 → i ≠ off / 4 → halfWord (write bs off [b]) i = halfWord bs i := by
    intro i _ hne
    apply load16_write_other
    · rw [List.length_singleton]
      omega
    · rw [List.length_singleton]
      omega
  have hsum : halfSum (write bs off [b]) 21 = _ :=
    sum_replace (fun _ => UInt16.xor_self) hword hother
  intro heq
  have hzero : halfWord bs (off / 4) ^^^ halfWord (write bs off [b]) (off / 4) =
      halfSum bs 21 ^^^ halfSum bs 21 :=
    (op_eq_iff (fun _ => UInt16.xor_self) _ _ _).mp (hsum.symm.trans heq)
  rw [UInt16.xor_self, UInt16.xor_eq_zero_iff] at hzero
  exact load16_write_ne (by omega) (by omega) (by omega) hb hzero.symm

end Windows

-- Which changed byte of a packet that passes the check goes unnoticed.
theorem eventChecked_write_iff {bs : List UInt8} {off : Nat} {b : UInt8}
    (hlen : bs.length = sizeofEventPacket) (h : EventChecked bs) (hoff : off < sizeofEventPacket)
    (hb : bs[off]? ≠ some b) :
    EventChecked (write bs off [b]) ↔ 2 ≤ off % 4 ∧ off ≠ 18 ∧ off ≠ 19 := by
  have h84 : bs.length = 84 := hlen
  have hoff84 : off < 84 := hoff
  have hwrite : off + [b].length ≤ bs.length := by
    rw [List.length_singleton]
    omega
  rw [eventChecked_iff hlen] at h
  rw [eventChecked_iff ((length_write bs [b] off hwrite).trans hlen)]
  by_cases hlow : off % 4 < 2
  · -- a word of the sum changes, the checksum does not
    have hsum := halfSum_write_ne h84 hlow hoff84 hb
    rw [load16_write_other hwrite (by rw [List.length_singleton]; omega), h]
    constructor
    · intro heq
      exact absurd heq.symm hsum
    · omega
  have hsum : halfSum (write bs off [b]) 21 = halfSum bs 21 := by
    apply halfSum_write_other hwrite
    intro i _
    rw [List.length_singleton]
    omega
  rw [hsum, ← h]
  by_cases hfield : off = 18 ∨ off = 19
  · have hne : load16 (write bs off [b]) 18 ≠ load16 bs 18 :=
      load16_write_ne (by omega) (by omega) (by omega) hb
    constructor
    · intro heq
      exact absurd heq hne
    · omega
  · rw [load16_write_other hwrite (by rw [List.length_singleton]; omega)]
    constructor
    · intro _
      omega
    · intro _
      rfl

-- The checksum replaced.
theorem EventPacket.toBytes_checksum (event : EventPacket) (checksum : UInt16) :
    { event with checksum := checksum }.toBytes = write event.toBytes 18 (store16 checksum) := by
  have hfront : (store32 event.syncWord ++ store32 event.dataLen ++ store32 event.eventLevel ++
      store32 event.eventId ++ store16 event.timestamp).length = 18 := by
    simp
  rw [write, length_store16]
  unfold toBytes
  rw [List.take_left' hfront, ← List.append_assoc _ (store16 event.checksum), List.drop_left']
  rw [List.length_append, hfront, length_store16]

theorem EventPacket.eventChecked (event : EventPacket) :
    EventChecked { event with
      checksum :=
        (calculateXorChecksum event.toBytes (sizeofEventPacket - 2)).toUInt16 }.toBytes := by
  have hlen := event.length_toBytes
  have h84 : event.toBytes.length = 84 := hlen
  rw [eventChecked_iff (EventPacket.length_toBytes _), EventPacket.toBytes_checksum,
    halfSum_write_other (by rw [length_store16]; omega) (by
      intro i _
      rw [length_store16]
      omega)]
  have hcheck : (calculateXorChecksum event.toBytes (sizeofEventPacket - 2)).toUInt16 =
      halfSum event.toBytes 21 := checksum_low 20 event.toBytes (by omega)
  rw [hcheck]
  have hfield := slice_write_same event.toBytes (store16 (halfSum event.toBytes 21)) 18 (by omega)
  rw [length_store16] at hfield
  have hlt : (halfSum event.toBytes 21).toNat < 256 ^ 2 := UInt16.toNat_lt _
  rw [load16, hfield, store16, leNat_leBytes, Nat.mod_eq_of_lt hlt, UInt16.ofNat_toNat]

/-- **What the checksum of an event protects.**  Every packet sent passes the check of its receiver;
    a changed byte goes unnoticed exactly when it is one of the two high bytes of a word, the
    checksum itself apart. -/
theorem event_change_unnoticed_iff (level id : UInt32) (clock : UInt64) (msg : List UInt8)
    (event : EventPacket) (hsent : sendEvent true level id clock msg = some event) :
    EventChecked event.toBytes ∧
    ∀ off b, off < sizeofEventPacket → event.toBytes[off]? ≠ some b →
      (EventChecked (write event.toBytes off [b]) ↔ 2 ≤ off % 4 ∧ off ≠ 18 ∧ off ≠ 19) := by
  have hevent : sendEvent true level id clock msg = some _ := if_pos rfl
  rw [hevent, Option.some.injEq] at hsent
  have hchecked : EventChecked event.toBytes := by
    rw [← hsent]
    exact EventPacket.eventChecked _
  exact ⟨hchecked, fun off b hoff hb =>
    eventChecked_write_iff event.length_toBytes hchecked hoff hb⟩

-- The first and the third letter of a text lost.
theorem event_change_unnoticed_iff_letters :
    ∃ event, sendEvent true eventLevelError eventCanSentFaile 0 (textBytes "buffer full") =
        some event ∧
      ¬ EventChecked (write event.toBytes 20 [0]) ∧ EventChecked (write event.toBytes 22 [0]) := by
  refine ⟨_, rfl, ?_⟩
  have hunnoticed := (event_change_unnoticed_iff eventLevelError eventCanSentFaile 0
    (textBytes "buffer full") _ rfl).2
  constructor
  · rw [hunnoticed 20 0 (by decide) (by decide)]
    decide
  · rw [hunnoticed 22 0 (by decide) (by decide)]
    decide

/-! ## The texts of the command handlers -/

/-- The text a client reads from a packet is the whole text. -/
def TextFits (text : String) : Prop :=
  (strncpy 64 63 (textBytes text)).takeWhile (· ≠ 0) = textBytes text

instance (text : String) : Decidable (TextFits text) := inferInstanceAs (Decidable (_ = _))

/-- What the outputs of the handlers look like: their texts fit, and their messages have the headers
    they are built with. -/
def ServerOutput.Formed : ServerOutput → Prop
  | event text => TextFits text
  | buffers message => ∃ rings, message = multiResponse rings
  | normal message _ | transmitted message => ∃ canId, message.header = uploadHeader canId
  | _ => True

def AllFormed (outputs : List ServerOutput) : Prop := ∀ output ∈ outputs, output.Formed

section Texts

variable {outputs others : List ServerOutput} {output : ServerOutput}

theorem allFormed_nil : AllFormed [] := List.forall_mem_nil _

theorem AllFormed.append (h : AllFormed outputs) (h' : AllFormed others) :
    AllFormed (outputs ++ others) := List.forall_mem_append.mpr ⟨h, h'⟩

theorem allFormed_singleton (h : output.Formed) : AllFormed [output] :=
  List.forall_mem_singleton.mpr h

theorem allFormed_toList {event : Option String} (h : ∀ text, event = some text → TextFits text) :
    AllFormed (event.toList.map .event) := by
  cases event with
  | none => exact allFormed_nil
  | some text => exact allFormed_singleton (h text rfl)

theorem run_allFormed {ι : Type} {step : CommandServer → ι → List ServerOutput × CommandServer}
    {is : List ι} (hstep : ∀ s, ∀ i ∈ is, AllFormed (step s i).1) (s : CommandServer) :
    AllFormed (Transducer.run step is s).1.flatten := by
  induction is generalizing s with
  | nil => exact allFormed_nil
  | cons i is ih =>
      have hrest : ∀ s, ∀ j ∈ is, AllFormed (step s j).1 :=
        fun s j hj => hstep s j (List.mem_cons_of_mem i hj)
      exact (hstep s i List.mem_cons_self).append (ih hrest (step s i).2)

theorem canConfigError_fits {payload : List UInt8} {text : String}
    (h : canConfigError payload = some text) : TextFits text := by
  unfold canConfigError at h
  dsimp only at h
  split_ifs at h <;> cases h <;> decide

theorem broadcastConfigError_fits {payload : List UInt8} {text : String}
    (h : broadcastConfigError payload = some text) : TextFits text := by
  unfold broadcastConfigError at h
  dsimp only at h
  split_ifs at h <;> cases h <;> decide

end Texts

section Effects

variable (param : CanConfigParam) (ret : Int) (config : CanDeviceConfig)

/-- An effect of `handle_can_config` whose text, if it is an event, fits. -/
def ConfigEffect.Fits : ConfigEffect → Prop
  | event text => TextFits text
  | _ => True

/-- Likewise for `handle_can_start_stop`. -/
def StartStopEffect.Fits : StartStopEffect → Prop
  | event text => TextFits text
  | _ => True

@[simp] theorem ConfigEffect.fits_event (text : String) :
    (ConfigEffect.event text).Fits ↔ TextFits text := Iff.rfl

@[simp] theorem ConfigEffect.fits_setBaud (canId : UInt8) (baud : UInt32) (ret : Int) :
    (ConfigEffect.setBaud canId baud ret).Fits := trivial

@[simp] theorem ConfigEffect.fits_setMode (canId mode : UInt8) (ret : Int) :
    (ConfigEffect.setMode canId mode ret).Fits := trivial

@[simp] theorem ConfigEffect.fits_response (canId : UInt8) (status : UInt32) :
    (ConfigEffect.response canId status).Fits := trivial

@[simp] theorem StartStopEffect.fits_event (text : String) :
    (StartStopEffect.event text).Fits ↔ TextFits text := Iff.rfl

@[simp] theorem StartStopEffect.fits_response (status : UInt8) :
    (StartStopEffect.response status).Fits := trivial

theorem setBaud_fits :
    (∀ effect ∈ (setBaudAlong param ret config).1, effect.Fits) ∧
      ∀ effect ∈ (setBaudNormal param ret config).1, effect.Fits := by
  simp only [setBaudAlong, setBaudNormal]
  split_ifs <;> simp <;> decide

theorem setMode_fits :
    (∀ effect ∈ (setModeAlong param ret).1, effect.Fits) ∧
      ∀ effect ∈ (setModeNormal param ret).1, effect.Fits := by
  simp only [setModeAlong, setModeNormal]
  split_ifs <;> simp <;> decide

theorem configureChannel_fits {baud : List ConfigEffect × Bool × CanDeviceConfig}
    {mode : List ConfigEffect × Bool} (hbaud : ∀ effect ∈ baud.1, effect.Fits)
    (hmode : ∀ effect ∈ mode.1, effect.Fits) :
    ∀ effect ∈ (configureChannel param baud mode).1, effect.Fits := by
  intro effect heffect
  rw [configureChannel, List.mem_append, List.mem_append, List.mem_singleton] at heffect
  rcases heffect with (hmem | hmem) | rfl
  · exact hbaud effect hmem
  · exact hmode effect hmem
  · exact trivial

theorem handleCanConfig_fits (payload : List UInt8) (baudRet modeRet : Int)
    (configs : CanConfigs) :
    ∀ effect ∈ (handleCanConfig payload baudRet modeRet configs).1, effect.Fits := by
  unfold handleCanConfig
  split
  next text herror =>
    intro effect heffect
    rw [List.mem_singleton.mp heffect]
    exact canConfigError_fits herror
  dsimp only
  split_ifs
  · exact configureChannel_fits _ (setBaud_fits _ _ _).1 (setMode_fits _ _).1
  · exact configureChannel_fits _ (setBaud_fits _ _ _).2 (setMode_fits _ _).2
  · intro effect heffect
    rw [List.mem_singleton.mp heffect]
    show TextFits "Unsupported CAN data mode"
    decide

theorem handleCanStartStop_fits (data : List UInt8) (configs : CanConfigs) :
    ∀ effect ∈ (handleCanStartStop data configs).1, effect.Fits := by
  unfold handleCanStartStop
  dsimp only
  split_ifs <;> simp <;> decide

end Effects

section Server

variable (ok : Bool) (s : CommandServer)

theorem sendCanConfigResponse_allFormed (status : UInt32) :
    AllFormed (sendCanConfigResponse ok s status).1 := by
  unfold sendCanConfigResponse
  split
  · exact allFormed_singleton trivial
  · exact allFormed_nil

theorem sendCanInfoResponse_allFormed (allocated : Bool) (devices : List CanConfigParam) :
    AllFormed (sendCanInfoResponse ok s allocated devices).1 := by
  unfold sendCanInfoResponse
  split
  · exact allFormed_singleton trivial
  · exact allFormed_nil

theorem sendCanSendResponse_allFormed (command : CmdType) (response : CanSendResponse) :
    AllFormed (sendCanSendResponse ok s command response).1 := by
  unfold sendCanSendResponse
  split
  · exact allFormed_singleton trivial
  · exact allFormed_singleton trivial

theorem handleVersionQuery_allFormed (payload : List UInt8) (reqCounter : UInt16) :
    AllFormed (handleVersionQuery payload reqCounter ok s).1 := by
  have hsend : ∀ version, AllFormed (sendVersionQueryResponse ok s reqCounter version).1 := by
    intro version
    unfold sendVersionQueryResponse
    split
    · exact allFormed_singleton trivial
    · exact allFormed_nil
  unfold handleVersionQuery
  split
  · exact hsend _
  · exact hsend _

theorem carryOut_allFormed {ε : Type} {Fits : ε → Prop}
    {effect : CommandServer → ε × Bool → List ServerOutput × CommandServer}
    (heffect : ∀ s e ok, Fits e → AllFormed (effect s (e, ok)).1) {effects : List ε}
    (h : ∀ e ∈ effects, Fits e) (sendOk : Nat → Bool) (s : CommandServer) :
    AllFormed (carryOut effect effects sendOk s).1 := by
  apply run_allFormed
  intro s i hi
  obtain ⟨e, he, rfl⟩ := List.mem_map.mp hi
  exact heffect s e.1 _ (h e.1 (List.fst_mem_of_mem_zipIdx he))

theorem configEffect_allFormed (s : CommandServer) (effect : ConfigEffect) (ok : Bool)
    (h : effect.Fits) : AllFormed (configEffect s (effect, ok)).1 := by
  cases effect with
  | event text => exact allFormed_singleton h
  | response canId status => exact sendCanConfigResponse_allFormed ok s status
  | setBaud canId baud ret => exact allFormed_singleton trivial
  | setMode canId mode ret => exact allFormed_singleton trivial

theorem startStopEffect_allFormed (s : CommandServer) (effect : StartStopEffect) (ok : Bool)
    (h : effect.Fits) : AllFormed (startStopEffect s (effect, ok)).1 := by
  cases effect with
  | event text => exact allFormed_singleton h
  | response status => exact sendCanSendResponse_allFormed ok _ _ _

theorem handleCommand_allFormed (env : CommandEnv) (s : CommandServer) (command : Option CmdType)
    (packet : CommandPacket) : AllFormed (handleCommand env s command packet).1 := by
  cases command with
  | none => exact allFormed_singleton (show TextFits "Unknown CAN command" by decide)
  | some command =>
    cases command with
    | canConfig =>
        exact carryOut_allFormed configEffect_allFormed (handleCanConfig_fits _ _ _ _) _ _
    | canInfoQuery =>
        simp only [handleCommand]
        split
        next text herror =>
          unfold handleCanInfoQuery at herror
          split at herror
          · cases herror
            exact allFormed_singleton (show TextFits "RECEIVE DATA NOT 0XFFFFFFFF" by decide)
          · cases herror
        · exact (sendCanInfoResponse_allFormed _ _ _ _).append (allFormed_singleton trivial)
    | canBufQuery =>
        simp only [handleCommand]
        split
        next text message hquery =>
          unfold handleCanBufQuery at hquery
          split at hquery
          · cases hquery
            exact allFormed_singleton (show TextFits "Invalid buffer type (must be 1~3)" by decide)
          · cases hquery
        next message hquery =>
          unfold handleCanBufQuery at hquery
          split at hquery
          · cases hquery
          · split at hquery
            · cases hquery
              exact allFormed_singleton ⟨s.rings, rfl⟩
            · cases hquery
        · exact allFormed_nil
    | canStartStop =>
        exact carryOut_allFormed startStopEffect_allFormed (handleCanStartStop_fits _ _) _ _
    | canBroadcastConfig =>
        refine AllFormed.append ?_ (sendCanSendResponse_allFormed _ _ _ _)
        apply allFormed_toList
        intro text htext
        unfold handleBroadcastConfig at htext
        split at htext
        next event herror =>
          cases htext
          exact broadcastConfigError_fits herror
        · cases htext
    | versionQuery => exact handleVersionQuery_allFormed _ _ _ _

theorem serverStep_allFormed (s : CommandServer) (call : ServerCall) :
    AllFormed (serverStep s call).1 := by
  cases call with
  | packet packet env =>
      simp only [serverStep, dispatchCommand]
      split
      · exact allFormed_nil
      · exact handleCommand_allFormed env s _ packet
  | client connected => exact allFormed_nil
  | normalMode canId frame ok => exact allFormed_singleton ⟨canId, rfl⟩
  | transmit canId type status frame clock ok =>
      intro output houtput
      obtain ⟨message, hmessage, rfl⟩ := List.mem_map.mp houtput
      rw [Option.mem_toList] at hmessage
      unfold sendCanTransmitResponse at hmessage
      split at hmessage
      · cases hmessage
      · cases hmessage
        exact ⟨canId, rfl⟩

end Server

-- What a client of port 9011 reads after any run of commands: no text is cut off.
theorem event_texts_whole (calls : List ServerCall) (s : CommandServer) :
    ∀ text, .event text ∈ (Transducer.run serverStep calls s).1.flatten →
    ∀ level id clock event, sendEvent true level id clock (textBytes text) = some event →
      event.description.takeWhile (· ≠ 0) = textBytes text := by
  intro text htext level id clock event hsent
  have hfits : TextFits text := run_allFormed (fun s i _ => serverStep_allFormed s i) s _ htext
  have hevent : sendEvent true level id clock (textBytes text) = some _ := if_pos rfl
  rw [hevent, Option.some.injEq] at hsent
  rw [← hsent]
  exact hfits

end CanGateway
