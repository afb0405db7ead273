import CanGateway.FlashPasses
import CanGateway.Library.Pieces

/-!
# What a verified image says about the device

`xread` only prints that a read came short, and the comparison then goes on with what the buffer
held before.  A call that returns 0 has read the whole image back, except where the bytes it did not
read were in the buffer already.
-/

open ByteMemory

namespace CanGateway

/-- Every byte of the image was given by `read` for its place on the device. -/
def ReadBackEqual (image : List UInt8) (events : List FlashEvent) : Prop :=
  ∀ off byte, image[off]? = some byte → (byte, off) ∈ readBytes events

/-- Where bytes are read, they are those of the chunk; where none is, the buffer holds the chunk's
    from before. -/
structure ShowsChunk (image : List UInt8) (size k : Nat) (held read : List UInt8) : Prop where
  equal : ∀ j byte, read[j]? = some byte → image[k * bufsize + j]? = some byte
  stale : ∀ j, read.length ≤ j → j < chunkLength size (k * bufsize) →
    held[j]? = image[k * bufsize + j]?

-- The comparison, byte by byte.
theorem chunkAgrees_iff {image held read : List UInt8} {size k : Nat}
    (hle : read.length ≤ chunkLength size (k * bufsize)) :
    ChunkAgrees image size k held read ↔ ShowsChunk image size k held read := by
  rw [ChunkAgrees, take_eq_slice_iff]
  constructor
  · intro h
    constructor
    · intro j byte hread
      obtain ⟨hj, _⟩ := List.getElem?_eq_some_iff.mp hread
      rw [← h j (by omega), getElem?_write_zero, if_pos hj]
      exact hread
    · intro j hge hlt
      rw [← h j hlt, getElem?_write_zero, if_neg (Nat.not_lt.mpr hge)]
  · rintro ⟨hequal, hstale⟩ j hj
    rw [getElem?_write_zero]
    split
    next hlt =>
      rw [List.getElem?_eq_getElem hlt]
      exact (hequal j _ (List.getElem?_eq_getElem hlt)).symm
    next hge => exact hstale j (Nat.le_of_not_lt hge) hj

/-! ## What is read back -/

section ReadBack

variable {image bytes : List UInt8} {events : List FlashEvent} {pos : Nat}

theorem readBackEqual_of_eq (h : readBytes events = image.zipIdx 0) :
    ReadBackEqual image events := by
  intro off byte hbyte
  rw [h]
  exact List.mk_mem_zipIdx_iff_getElem?.mpr hbyte

-- Bytes read in one go reach from the first byte of the image to the last.
theorem ReadBackEqual.covers (h : ReadBackEqual image events)
    (hbytes : readBytes events = bytes.zipIdx pos) (hpos : 0 < image.length) :
    pos = 0 ∧ image.length ≤ bytes.length := by
  have hat : ∀ off, off < image.length → pos ≤ off ∧ off - pos < bytes.length := by
    intro off hoff
    have hmem := h off _ (List.getElem?_eq_getElem hoff)
    rw [hbytes, List.mk_mem_zipIdx_iff_le_and_getElem?_sub] at hmem
    obtain ⟨hle, hbyte⟩ := hmem
    exact ⟨hle, (List.getElem?_eq_some_iff.mp hbyte).1⟩
  obtain ⟨hfirst, _⟩ := hat 0 hpos
  obtain ⟨_, hlast⟩ := hat (image.length - 1) (by omega)
  omega

end ReadBack

/-! ## The verify pass -/

section Verify

variable {σ : Type} (dev : MtdDevice σ)

/-- The bytes the verify pass gets for each chunk. -/
def verifyReads (device : DeviceInfo) (image buf buf2 : List UInt8) (s : σ) : List (List UInt8) :=
  chunkReads dev device.size.toNat (chunkCount device.size.toNat) 0
    (rewind dev (writePass dev device image buf buf2 s).file, buf2)

/-- The device takes everything the write pass hands to `write`: the image, padded to whole
    chunks. -/
def WritesAll (device : DeviceInfo) (image buf buf2 : List UInt8) (s : σ) : Prop :=
  (accepted (writePass dev device image buf buf2 s).file.events).length =
    Rounding.up device.size.toNat bufsize

/-- The answer to the `lseek` of the verify pass. -/
def rewound (device : DeviceInfo) (image buf buf2 : List UInt8) (s : σ) : Bool :=
  (dev.lseek (writePass dev device image buf buf2 s).file.device).1

/-- The verify pass takes the chunks for those of the image. -/
def ShowsImage (device : DeviceInfo) (image buf buf2 : List UInt8) (s : σ) : Prop :=
  let reads := verifyReads dev device image buf buf2 s
  ∀ k read, reads[k]? = some read →
    ShowsChunk image device.size.toNat k (overwritten (reads.take k) buf2) read

/-- The verify pass starts where the device does, and no chunk is cut short. -/
def ReadsAll (device : DeviceInfo) (image buf buf2 : List UInt8) (s : σ) : Prop :=
  rewound dev device image buf buf2 s = true ∧
    ∀ k read, (verifyReads dev device image buf buf2 s)[k]? = some read →
      read.length = chunkLength device.size.toNat (k * bufsize)

variable {dev} {device : DeviceInfo} {image buf buf2 : List UInt8} {s : σ}

theorem verifyReads_le : ∀ k read, (verifyReads dev device image buf buf2 s)[k]? = some read →
    read.length ≤ chunkLength device.size.toNat (k * bufsize) := by
  intro k read hread
  have hle := chunkReads_le dev _ _ _ _ k read hread
  rw [Nat.zero_add] at hle
  exact hle

theorem ErasedFor.verifyPass_ret (h : ErasedFor dev device image s) :
    (verifyPass dev device image buf buf2 s).ret = 0 ↔ ShowsImage dev device image buf buf2 s := by
  have hagrees := (h.verified buf buf2).agrees
  dsimp only at hagrees
  rw [(h.written buf buf2).buf2] at hagrees
  rw [hagrees]
  have hchunk : ∀ k read, (verifyReads dev device image buf buf2 s)[k]? = some read → ∀ held,
      (ChunkAgrees image device.size.toNat (0 + k) held read ↔
        ShowsChunk image device.size.toNat k held read) := by
    intro k read hread held
    rw [Nat.zero_add]
    exact chunkAgrees_iff (verifyReads_le k read hread)
  constructor
  · exact fun hall k read hread => (hchunk k read hread _).mp (hall k read hread)
  · exact fun hall k read hread => (hchunk k read hread _).mpr (hall k read hread)

-- The write pass succeeds exactly if `write` takes every chunk in full.
theorem ErasedFor.writePass_ret (h : ErasedFor dev device image s) :
    (writePass dev device image buf buf2 s).ret = 0 ↔ WritesAll dev device image buf buf2 s := by
  have hnone : accepted (eraseFlash dev device.size s).2.events = [] := by
    apply List.flatMap_eq_nil_iff.mpr
    intro event hmem
    obtain ⟨_, _, rfl⟩ := eraseFlash_events dev device.size s event hmem
    rfl
  have htaken := copyPass_taken dev (device.length_buff image h.buff) buf buf2
    (eraseFlash dev device.size s).2
  dsimp only at htaken
  rw [hnone, List.length_nil, Nat.zero_add] at htaken
  exact htaken

-- Nothing is read before the verify pass.
theorem ErasedFor.written_readBytes (h : ErasedFor dev device image s) :
    readBytes (writePass dev device image buf buf2 s).file.events = [] := by
  obtain ⟨written, hevents, hwithin, _⟩ := (h.written buf buf2).calls
  have herased : readBytes (eraseFlash dev device.size s).2.events = [] := by
    apply List.flatMap_eq_nil_iff.mpr
    intro event hmem
    obtain ⟨_, _, rfl⟩ := eraseFlash_events dev device.size s event hmem
    rfl
  have hwritten : readBytes written = [] := by
    apply List.flatMap_eq_nil_iff.mpr
    intro event hmem
    obtain ⟨_, _, _, _, _, rfl, _⟩ := hwithin event hmem
    rfl
  have hrewound : (rewind dev (eraseFlash dev device.size s).2).events =
      (eraseFlash dev device.size s).2.events := rfl
  rw [hevents, hrewound, readBytes_append, herased, hwritten, List.append_nil]

-- What is read goes on from where the verify pass starts.
theorem ErasedFor.verify_readBytes (h : ErasedFor dev device image s)
    (hret : (verifyPass dev device image buf buf2 s).ret = 0) :
    readBytes (verifyPass dev device image buf buf2 s).file.events =
      (verifyReads dev device image buf buf2 s).flatten.zipIdx
        (rewind dev (writePass dev device image buf buf2 s).file).pos := by
  obtain ⟨calls, hreads, hdelivered⟩ := (h.verified buf buf2).reads
  have hbytes := hdelivered hret
  dsimp only at hbytes
  rw [(h.written buf buf2).buf2] at hbytes
  have hrewound : readBytes (rewind dev (writePass dev device image buf buf2 s).file).events = [] :=
    h.written_readBytes
  rw [hreads.events, readBytes_append, hrewound, hreads.readBytes, hbytes, List.nil_append]
  rfl

-- The file position is behind the last chunk written, or at the start of the device.
theorem ErasedFor.rewound_iff (h : ErasedFor dev device image s)
    (hwritten : (writePass dev device image buf buf2 s).ret = 0) :
    (rewind dev (writePass dev device image buf buf2 s).file).pos = 0 ↔
      rewound dev device image buf buf2 s = true := by
  have hpos := (h.written buf buf2).pos hwritten
  have hle : device.size.toNat ≤ Rounding.up device.size.toNat bufsize :=
    Rounding.le_up bufsize_pos
  have hsize := h.size_pos
  rw [rewind, rewound]
  dsimp only
  split
  next hseek => exact iff_of_true rfl hseek
  next hseek => exact iff_of_false (by omega) hseek

theorem verifyReads_within :
    Pieces.Within (chunkStart device.size.toNat) 0 (verifyReads dev device image buf buf2 s) := by
  intro k read hread
  have hle := verifyReads_le k read hread
  rw [Nat.zero_add, chunkStart_succ]
  omega

theorem chunkStart_verifyReads :
    chunkStart device.size.toNat (0 + (verifyReads dev device image buf buf2 s).length) =
      device.size.toNat := by
  rw [Nat.zero_add, verifyReads, length_chunkReads, chunkStart_chunkCount]

-- Chunks that are found equal and not cut short are the image.
theorem flatten_verifyReads (himage : image.length = device.size.toNat)
    (hshows : ShowsImage dev device image buf buf2 s)
    (hall : ReadsAll dev device image buf buf2 s) :
    (verifyReads dev device image buf buf2 s).flatten = image := by
  have hstart : chunkStart device.size.toNat 0 = 0 := by
    rw [chunkStart, Nat.zero_mul, Nat.zero_min]
  have hnext : ∀ k, chunkStart device.size.toNat k ≤ chunkStart device.size.toNat (k + 1) := by
    intro k
    rw [chunkStart_succ]
    exact Nat.le_add_right _ _
  have hpieces : ∀ k read, (verifyReads dev device image buf buf2 s)[k]? = some read →
      read = slice image (chunkStart device.size.toNat (0 + k))
        (chunkStart device.size.toNat (0 + k + 1) - chunkStart device.size.toNat (0 + k)) := by
    intro k read hread
    have hk : k < chunkCount device.size.toNat := by
      obtain ⟨hlt, _⟩ := List.getElem?_eq_some_iff.mp hread
      rw [verifyReads, length_chunkReads] at hlt
      exact hlt
    have hequal : read.take read.length = slice image (k * bufsize) read.length := by
      apply (take_eq_slice_iff _ _ _ _).mpr
      intro j hj
      rw [List.getElem?_eq_getElem hj]
      exact ((hshows k read hread).equal j _ (List.getElem?_eq_getElem hj)).symm
    rw [List.take_length, hall.2 k read hread] at hequal
    rw [Nat.zero_add, chunkStart_succ, Nat.add_sub_cancel_left, chunkStart_eq hk]
    exact hequal
  rw [Pieces.flatten_eq_slice hnext hpieces, chunkStart_verifyReads, hstart, ← himage, slice,
    List.drop_zero, Nat.sub_zero, List.take_length]

-- The image is read back if the verify pass starts where the device does and nothing is cut short.
theorem ErasedFor.readBack_iff (h : ErasedFor dev device image s)
    (hwritten : (writePass dev device image buf buf2 s).ret = 0)
    (hret : (verifyPass dev device image buf buf2 s).ret = 0) :
    ReadBackEqual image (verifyPass dev device image buf buf2 s).file.events ↔
      ReadsAll dev device image buf buf2 s := by
  have himage := device.length_buff image h.buff
  have hsize := h.size_pos
  have hbytes := h.verify_readBytes hret
  constructor
  · intro hback
    obtain ⟨hpos, hcovers⟩ := hback.covers hbytes (by omega)
    refine ⟨(h.rewound_iff hwritten).mp hpos, ?_⟩
    intro k read hread
    have hle := verifyReads_le k read hread
    by_contra hne
    have hlt := verifyReads_within.length_lt hread (by
      rw [Nat.zero_add, chunkStart_succ]
      omega)
    rw [chunkStart_verifyReads] at hlt
    omega
  · intro hall
    apply readBackEqual_of_eq
    rw [hbytes, (h.rewound_iff hwritten).mpr hall.1,
      flatten_verifyReads himage (h.verifyPass_ret.mp hret) hall]

end Verify

/-! ## Unnoticed gaps -/

section Unnoticed

variable {σ : Type} (dev : MtdDevice σ)

/-- All blocks are erased, `write` takes every chunk in full, and the verify pass finds all chunks
    equal; but it starts elsewhere, or a chunk is cut short. -/
structure Unnoticed (device : DeviceInfo) (image buf buf2 : List UInt8) (s : σ) : Prop where
  erased : ErasedFor dev device image s
  written : WritesAll dev device image buf buf2 s
  shown : ShowsImage dev device image buf buf2 s
  missing : ¬ ReadsAll dev device image buf buf2 s

variable {dev} {device : DeviceInfo} {image buf buf2 : List UInt8} {s : σ}

-- Such a run returns 0 for an image that was not read back.
theorem Unnoticed.passes (h : Unnoticed dev device image buf buf2 s) :
    (flashcpMain dev (some device) buf buf2 s).ret = 0 ∧
      ¬ ReadBackEqual image (flashcpMain dev (some device) buf buf2 s).file.events := by
  have hret := h.erased.verifyPass_ret.mpr h.shown
  have hwritten := h.erased.writePass_ret.mpr h.written
  rw [flashcpMain_erased dev h.erased, if_neg (not_not.mpr hwritten)]
  exact ⟨hret, (h.erased.readBack_iff hwritten hret).not.mpr h.missing⟩

theorem ErasedFor.readBack_or_unnoticed (h : ErasedFor dev device image s)
    (hret : (flashcpMain dev (some device) buf buf2 s).ret = 0) :
    ReadBackEqual image (flashcpMain dev (some device) buf buf2 s).file.events ∨
      Unnoticed dev device image buf buf2 s := by
  rw [flashcpMain_erased dev h] at hret ⊢
  by_cases hwritten : (writePass dev device image buf buf2 s).ret = 0
  · rw [if_neg (not_not.mpr hwritten)] at hret ⊢
    rw [h.readBack_iff hwritten hret]
    by_cases hall : ReadsAll dev device image buf buf2 s
    · exact Or.inl hall
    · exact Or.inr ⟨h, h.writePass_ret.mp hwritten, h.verifyPass_ret.mp hret, hall⟩
  · rw [if_pos hwritten] at hret
    exact absurd hret hwritten

variable (dev)

/-- **A call that returns 0 has read the image back** and found it equal, unless gaps go
    unnoticed. -/
theorem verification_sound_iff (info : Option DeviceInfo) (buf buf2 : List UInt8) (s : σ) :
    ((flashcpMain dev info buf buf2 s).ret = 0 →
      ∃ device image, info = some device ∧ device.buff = some image ∧
        ReadBackEqual image (flashcpMain dev info buf buf2 s).file.events) ↔
    ¬ ∃ device image, info = some device ∧ Unnoticed dev device image buf buf2 s := by
  constructor
  · rintro hsound ⟨device, image, rfl, hunnoticed⟩
    obtain ⟨hret, hnot⟩ := hunnoticed.passes
    obtain ⟨device', image', heq, hbuff, hback⟩ := hsound hret
    obtain rfl := Option.some.inj heq
    obtain rfl := Option.some.inj (hunnoticed.erased.buff.symm.trans hbuff)
    exact hnot hback
  · intro hnoticed hret
    by_cases hreached : ∃ device image, info = some device ∧ ErasedFor dev device image s
    · obtain ⟨device, image, rfl, h⟩ := hreached
      refine ⟨device, image, rfl, h.buff, ?_⟩
      rcases h.readBack_or_unnoticed hret with hback | hunnoticed
      · exact hback
      · exact absurd ⟨device, image, rfl, hunnoticed⟩ hnoticed
    · obtain ⟨hfails, _⟩ := flashcpMain_stopped dev
        (fun device image heq h => hreached ⟨device, image, heq, h⟩) buf buf2
      exact absurd hret hfails

end Unnoticed

/-! ## A device that cannot be read -/

section Unreadable

variable {σ : Type} {dev : MtdDevice σ}

/-- `read` never gives anything. -/
def MtdDevice.Unreadable (dev : MtdDevice σ) : Prop := ∀ s count, (dev.read s count).1.bytes = []

theorem MtdDevice.Unreadable.fullRead_ret (hdev : dev.Unreadable) (file : OpenFile σ)
    (buf : List UInt8) (len : Nat) : (fullRead dev file buf len).ret.toNat = 0 := by
  obtain ⟨hcalls, htransferred⟩ := fullRead_spec dev file buf len
  rw [← htransferred.moved]
  apply Transfer.moved_eq_zero
  intro attempt hmem
  obtain ⟨t, hresult⟩ := hcalls.answered attempt hmem
  have hmoved : attempt.result.moved = (dev.read t.1.device attempt.len).1.bytes.length := by
    rw [hresult]
    exact ReadResult.moved_toCall _
  rw [hmoved, hdev, List.length_nil]

theorem MtdDevice.Unreadable.chunkReads_eq (hdev : dev.Unreadable) (size n k : Nat)
    (s : OpenFile σ × List UInt8) : chunkReads dev size n k s = List.replicate n [] := by
  induction n generalizing k s with
  | zero => rfl
  | succ n ih =>
      rw [chunkReads, ih, hdev.fullRead_ret, List.take_zero]
      rfl

theorem overwritten_replicate_nil (n : Nat) (buf2 : List UInt8) :
    overwritten (List.replicate n []) buf2 = buf2 := by
  induction n with
  | zero => rfl
  | succ n ih =>
      rw [List.replicate_succ, overwritten, List.foldl_cons, write_nil]
      exact ih

variable {device : DeviceInfo} {image buf buf2 : List UInt8} {s : σ}

-- If the buffer holds all chunks already, nothing has to be read.
theorem MtdDevice.Unreadable.unnoticed (hdev : dev.Unreadable) (h : ErasedFor dev device image s)
    (hwritten : WritesAll dev device image buf buf2 s)
    (hheld : ∀ k, k < chunkCount device.size.toNat →
      ∀ j, j < chunkLength device.size.toNat (k * bufsize) →
        buf2[j]? = image[k * bufsize + j]?) : Unnoticed dev device image buf buf2 s := by
  have hreads : verifyReads dev device image buf buf2 s =
      List.replicate (chunkCount device.size.toNat) [] := hdev.chunkReads_eq _ _ _ _
  have hread : ∀ k read, (verifyReads dev device image buf buf2 s)[k]? = some read →
      k < chunkCount device.size.toNat ∧ read = [] := by
    intro k read hk
    rw [hreads, List.getElem?_replicate] at hk
    split at hk
    next hlt => exact ⟨hlt, (Option.some.inj hk).symm⟩
    · cases hk
  refine ⟨h, hwritten, ?_, ?_⟩
  · intro k read hk
    obtain ⟨hlt, rfl⟩ := hread k read hk
    rw [hreads, List.take_replicate, overwritten_replicate_nil]
    constructor
    · intro j byte hbyte
      cases hbyte
    · exact fun j _ hj => hheld k hlt j hj
  · rintro ⟨_, hall⟩
    have hfirst : 0 < chunkCount device.size.toNat := by
      rw [lt_chunkCount, Nat.zero_mul]
      exact h.size_pos
    have hempty := hall 0 [] (by rw [hreads, List.getElem?_replicate, if_pos hfirst])
    have hpos := chunkLength_pos h.size_pos
    rw [Nat.zero_mul, List.length_nil] at hempty
    omega

end Unreadable

/-- `EIO`. -/
def eio : Nat := 5

/-- A flash every `read` of which fails. -/
def failingDevice : MtdDevice Unit :=
  steadyDevice chunkBlocks (fun _ => .error eio) fun _ => Nat.zero_le _

/-- An image of one zero. -/
def zeroByte : DeviceInfo where
  devicename := some "/dev/mtd0"
  size := 1
  buff := some [0]
  length_buff := by
    intro image himage
    rw [← Option.some.inj himage]
    rfl

-- The static buffers start with zeros: the image is found equal without a byte being read.
theorem verification_unsound :
    (flashcpMain failingDevice (some zeroByte) (List.replicate bufsize 0)
        (List.replicate bufsize 0) ()).ret = 0 ∧
      ¬ ReadBackEqual [0] (flashcpMain failingDevice (some zeroByte) (List.replicate bufsize 0)
        (List.replicate bufsize 0) ()).file.events := by
  have herased : ErasedFor failingDevice zeroByte [0] () :=
    steadyDevice_erasedFor ⟨_, rfl⟩ rfl (by decide) (by decide)
  have hwritten : WritesAll failingDevice zeroByte [0] (List.replicate bufsize 0)
      (List.replicate bufsize 0) () :=
    herased.writePass_ret.mp (steadyDevice_writable.copyPass_ret rfl _ _ _)
  have hunreadable : failingDevice.Unreadable := fun _ _ => rfl
  apply Unnoticed.passes
  apply hunreadable.unnoticed herased hwritten
  intro k hk j hj
  have hone : zeroByte.size.toNat = 1 := rfl
  rw [lt_chunkCount, hone] at hk
  have hle := (chunkLength_le zeroByte.size.toNat (k * bufsize)).1
  have hfirst : k * bufsize = 0 := by omega
  obtain rfl : j = 0 := by omega
  rw [hfirst, List.getElem?_replicate, if_pos bufsize_pos]
  rfl

end CanGateway
