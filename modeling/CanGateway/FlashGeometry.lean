import CanGateway.FlashPasses

/-!
# Chunks written and blocks erased

The blocks erased cover the image, rounded up to the erase size, if the sum the block count is taken
from fits 32 bits.  The chunks written cover it rounded up to 64 KiB.  The second range has to lie
inside the first one, and inside the device.
-/

open Rounding (up)

namespace CanGateway

/-- A block was erased that holds the byte at `off`. -/
def FlashEvent.ErasesAt (off : Nat) (event : FlashEvent) : Prop :=
  ∃ start length, event = .erased start length ∧
    start.toNat ≤ off ∧ off < start.toNat + length.toNat

/-- All that is handed to `write` is for erased blocks, and for bytes the device has. -/
def FlashResult.WritesErased {σ : Type} (r : FlashResult σ) (mtd : MtdInfo) : Prop :=
  ∀ pos data result, .wrote pos data result ∈ r.file.events →
    ∀ off, pos ≤ off → off < pos + data.length →
      off < mtd.size.toNat ∧ ∃ event ∈ r.file.events, event.ErasesAt off

/-- The image, rounded up to whole chunks, is neither behind the blocks nor behind the device. -/
structure Fits (size : UInt32) (mtd : MtdInfo) : Prop where
  sum : size.toNat + mtd.erasesize.toNat ≤ 2 ^ 32
  blocks : up size.toNat bufsize ≤ up size.toNat mtd.erasesize.toNat
  inside : up size.toNat bufsize ≤ mtd.size.toNat

/-! ## The blocks -/

section Blocks

variable (size : UInt32) (mtd : MtdInfo)

theorem eraseCount_sum (h : size.toNat + mtd.erasesize.toNat ≤ 2 ^ 32) :
    eraseCount size mtd * mtd.erasesize.toNat = up size.toNat mtd.erasesize.toNat := by
  have hpos := mtd.erasesize_pos
  have hsum : (size + mtd.erasesize - 1).toNat = size.toNat + mtd.erasesize.toNat - 1 := by
    rw [UInt32.toNat_sub, UInt32.toNat_add, UInt32.toNat_one]
    omega
  rw [eraseCount, hsum, up]

-- The sum wraps around to less than the image.
theorem eraseCount_wrapped (h : 2 ^ 32 < size.toNat + mtd.erasesize.toNat) :
    eraseCount size mtd * mtd.erasesize.toNat < size.toNat := by
  have hsize := size.toNat_lt
  have herasesize := mtd.erasesize.toNat_lt
  have hsum : (size + mtd.erasesize - 1).toNat < size.toNat := by
    rw [UInt32.toNat_sub, UInt32.toNat_add, UInt32.toNat_one]
    omega
  exact (Nat.div_mul_le_self _ _).trans_lt hsum

-- No block starts where the address no longer fits.
theorem eraseEvent_erasesAt {k : Nat} (hk : k < eraseCount size mtd) (off : Nat) :
    (eraseEvent mtd k).ErasesAt off ↔
      k * mtd.erasesize.toNat ≤ off ∧ off < (k + 1) * mtd.erasesize.toNat := by
  have hstart : (UInt32.ofNat (k * mtd.erasesize.toNat)).toNat = k * mtd.erasesize.toNat := by
    have hle : k * mtd.erasesize.toNat ≤ eraseCount size mtd * mtd.erasesize.toNat :=
      Nat.mul_le_mul_right _ (Nat.le_of_lt hk)
    have hcount : eraseCount size mtd * mtd.erasesize.toNat ≤
        (size + mtd.erasesize - 1).toNat := Nat.div_mul_le_self _ _
    exact UInt32.toNat_ofNat_of_lt' ((hle.trans hcount).trans_lt (UInt32.toNat_lt _))
  rw [Nat.succ_mul]
  constructor
  · rintro ⟨_, _, heq, hge, hlt⟩
    obtain ⟨rfl, rfl⟩ := FlashEvent.erased.inj heq
    rw [hstart] at hge hlt
    exact ⟨hge, hlt⟩
  · rintro ⟨hge, hlt⟩
    refine ⟨_, _, rfl, ?_, ?_⟩
    · rw [hstart]
      exact hge
    · rw [hstart]
      exact hlt

-- Together the blocks hold the bytes up to the last one's end.
theorem exists_erasesAt (off : Nat) :
    (∃ event ∈ (List.range (eraseCount size mtd)).map (eraseEvent mtd), event.ErasesAt off) ↔
      off < eraseCount size mtd * mtd.erasesize.toNat := by
  have hpos := mtd.erasesize_pos
  constructor
  · rintro ⟨event, hmem, herases⟩
    obtain ⟨k, hk, rfl⟩ := List.mem_map.mp hmem
    rw [List.mem_range] at hk
    obtain ⟨_, hlt⟩ := (eraseEvent_erasesAt size mtd hk off).mp herases
    exact hlt.trans_le (Nat.mul_le_mul_right _ hk)
  · intro hlt
    have hk : off / mtd.erasesize.toNat < eraseCount size mtd :=
      (Nat.div_lt_iff_lt_mul hpos).mpr hlt
    refine ⟨_, List.mem_map_of_mem (List.mem_range.mpr hk), ?_⟩
    exact (eraseEvent_erasesAt size mtd hk off).mpr
      ⟨Nat.div_mul_le_self _ _, (Nat.div_lt_iff_lt_mul hpos).mp (Nat.lt_succ_self _)⟩

-- The blocks hold the chunks of an image that fits.
theorem fits_iff :
    Fits size mtd ↔ up size.toNat bufsize ≤ eraseCount size mtd * mtd.erasesize.toNat ∧
      up size.toNat bufsize ≤ mtd.size.toNat := by
  constructor
  · intro h
    rw [eraseCount_sum size mtd h.sum]
    exact ⟨h.blocks, h.inside⟩
  · rintro ⟨hblocks, hinside⟩
    have hle : size.toNat ≤ up size.toNat bufsize := Rounding.le_up bufsize_pos
    have hsum : size.toNat + mtd.erasesize.toNat ≤ 2 ^ 32 := by
      by_contra hwrapped
      have hlt := eraseCount_wrapped size mtd (Nat.lt_of_not_le hwrapped)
      omega
    rw [eraseCount_sum size mtd hsum] at hblocks
    exact ⟨hsum, hblocks, hinside⟩

end Blocks

/-! ## The chunks -/

section Chunks

variable {σ : Type} {dev : MtdDevice σ} {device : DeviceInfo} {image : List UInt8} {s : σ}
  {mtd : MtdInfo}

theorem ErasedFor.blocks (h : ErasedFor dev device image s)
    (hmtd : (dev.memGetInfo (dev.openDevice s).2).1 = some mtd) :
    (eraseFlash dev device.size s).2.events =
      (List.range (eraseCount device.size mtd)).map (eraseEvent mtd) := by
  obtain ⟨mtd', hmtd', _, _, hevents⟩ := eraseFlash_zero dev h.erased
  obtain rfl := Option.some.inj (hmtd'.symm.trans hmtd)
  exact hevents

theorem ErasedFor.wrote_within (h : ErasedFor dev device image s) {buf buf2 data : List UInt8}
    {pos : Nat} {result : Transfer.CallResult}
    (hmem : .wrote pos data result ∈ (flashcpMain dev (some device) buf buf2 s).file.events) :
    pos + data.length ≤ up device.size.toNat bufsize := by
  obtain ⟨written, verified, hevents, hwithin, hreads, _⟩ := h.events buf buf2
  rw [hevents, List.mem_append, List.mem_append] at hmem
  rcases hmem with (hmem | hmem) | hmem
  · obtain ⟨_, _, heq⟩ := eraseFlash_events dev device.size s _ hmem
    cases heq
  · obtain ⟨stop, hstop, _, _, _, heq, _, hend⟩ := hwithin _ hmem
    obtain ⟨rfl, rfl, rfl⟩ := FlashEvent.wrote.inj heq
    omega
  · obtain ⟨_, _, _, heq⟩ := hreads _ hmem
    cases heq

-- Only the erase loop erases.
theorem ErasedFor.erasesAt_iff (h : ErasedFor dev device image s)
    (hmtd : (dev.memGetInfo (dev.openDevice s).2).1 = some mtd) (buf buf2 : List UInt8)
    (off : Nat) :
    (∃ event ∈ (flashcpMain dev (some device) buf buf2 s).file.events, event.ErasesAt off) ↔
      off < eraseCount device.size mtd * mtd.erasesize.toNat := by
  obtain ⟨written, verified, hevents, hwithin, hreads, _⟩ := h.events buf buf2
  rw [hevents, ← exists_erasesAt, ← h.blocks hmtd]
  constructor
  · rintro ⟨event, hmem, herases⟩
    refine ⟨event, ?_, herases⟩
    obtain ⟨_, _, rfl, _, _⟩ := herases
    rw [List.mem_append, List.mem_append] at hmem
    rcases hmem with (hmem | hmem) | hmem
    · exact hmem
    · obtain ⟨_, _, _, _, _, heq, _⟩ := hwithin _ hmem
      cases heq
    · obtain ⟨_, _, _, heq⟩ := hreads _ hmem
      cases heq
  · rintro ⟨event, hmem, herases⟩
    exact ⟨event, List.mem_append_left _ (List.mem_append_left _ hmem), herases⟩

-- Whatever the device answers, an image that fits is written to erased blocks.
theorem Fits.writesErased (hfits : Fits device.size mtd)
    (hmtd : (dev.memGetInfo (dev.openDevice s).2).1 = some mtd) (buf buf2 : List UInt8) :
    (flashcpMain dev (some device) buf buf2 s).WritesErased mtd := by
  intro pos data result hmem off hge hlt
  by_cases hreached : ∃ image, ErasedFor dev device image s
  · obtain ⟨image, h⟩ := hreached
    obtain ⟨hblocks, hinside⟩ := (fits_iff device.size mtd).mp hfits
    have hwithin := h.wrote_within hmem
    exact ⟨by omega, (h.erasesAt_iff hmtd buf buf2 off).mpr (by omega)⟩
  · have hnever : ∀ device' image, some device = some device' →
        ¬ ErasedFor dev device' image s := by
      intro device' image heq h
      obtain rfl := Option.some.inj heq
      exact hreached ⟨image, h⟩
    obtain ⟨_, hevents⟩ := flashcpMain_stopped dev hnever buf buf2
    obtain ⟨_, _, heq⟩ := hevents _ hmem
    cases heq

-- A write pass that comes to its end has written the last byte of the last chunk.
theorem ErasedFor.fits (h : ErasedFor dev device image s)
    (hmtd : (dev.memGetInfo (dev.openDevice s).2).1 = some mtd) {buf buf2 : List UInt8}
    (hret : (writePass dev device image buf buf2 s).ret = 0)
    (hwrites : (flashcpMain dev (some device) buf buf2 s).WritesErased mtd) :
    Fits device.size mtd := by
  obtain ⟨written, _, hevents, _, _, hlast⟩ := h.events buf buf2
  obtain ⟨_, hmem, pos, data, result, rfl, hpos, hend⟩ := hlast hret
  have hmem' : .wrote pos data result ∈
      (flashcpMain dev (some device) buf buf2 s).file.events := by
    rw [hevents]
    exact List.mem_append_left _ (List.mem_append_right _ hmem)
  obtain ⟨hinside, herases⟩ :=
    hwrites pos data result hmem' (pos + data.length - 1) (by omega) (by omega)
  have hblocks := (h.erasesAt_iff hmtd buf buf2 _).mp herases
  exact (fits_iff device.size mtd).mpr ⟨by omega, by omega⟩

end Chunks

/-- A device that holds zeros. -/
def zeroDevice (mtd : MtdInfo) : MtdDevice Unit :=
  steadyDevice mtd (fun count => .data (List.replicate count 0)) fun _ =>
    Nat.le_of_eq List.length_replicate

/-- An image of zeros. -/
def zeroImage (size : UInt32) : DeviceInfo where
  devicename := some "/dev/mtd0"
  size := size
  buff := some (List.replicate size.toNat 0)
  length_buff := by
    intro image himage
    rw [← Option.some.inj himage, List.length_replicate]

-- On a device where every call succeeds an image has to fit.
theorem zeroDevice_fits {size : UInt32} {mtd : MtdInfo} (hle : size ≤ mtd.size)
    {buf buf2 : List UInt8}
    (hwrites : (flashcpMain (zeroDevice mtd) (some (zeroImage size)) buf buf2 ()).WritesErased mtd)
    (hsize : size ≠ 0) : Fits size mtd := by
  have herased : ErasedFor (zeroDevice mtd) (zeroImage size) (List.replicate size.toNat 0) () :=
    steadyDevice_erasedFor ⟨_, rfl⟩ rfl hsize hle
  have hret : (writePass (zeroDevice mtd) (zeroImage size) (List.replicate size.toNat 0) buf buf2
      ()).ret = 0 := steadyDevice_writable.copyPass_ret List.length_replicate _ _ _
  exact herased.fits rfl hret hwrites

theorem fits_zero (mtd : MtdInfo) : Fits 0 mtd := by
  apply (fits_iff 0 mtd).mpr
  rw [UInt32.toNat_zero, Rounding.up_of_dvd bufsize_pos (Nat.dvd_zero _)]
  exact ⟨Nat.zero_le _, Nat.zero_le _⟩

/-- **Writing stays inside the erased blocks** for those geometries in which an image fits, and for
    no others. -/
theorem writes_erased_iff_fits (size : UInt32) (mtd : MtdInfo) (hle : size ≤ mtd.size) :
    (∀ (σ : Type) (dev : MtdDevice σ) (device : DeviceInfo) (buf buf2 : List UInt8) (s : σ),
      device.size = size → (dev.memGetInfo (dev.openDevice s).2).1 = some mtd →
        (flashcpMain dev (some device) buf buf2 s).WritesErased mtd) ↔ Fits size mtd := by
  constructor
  · intro hwrites
    by_cases hsize : size = 0
    · rw [hsize]
      exact fits_zero mtd
    · exact zeroDevice_fits hle (hwrites Unit (zeroDevice mtd) (zeroImage size) [] [] () rfl rfl)
        hsize
  · rintro hfits σ dev device buf buf2 s rfl hmtd
    exact hfits.writesErased hmtd buf buf2

/-- A flash of 1 MiB in blocks of 4 KiB. -/
def smallBlocks : MtdInfo := ⟨0x100000, 0x1000, by decide⟩

theorem writes_erased_iff_fits_chunkBlocks :
    (1 : UInt32) ≤ chunkBlocks.size ∧
      ∀ (σ : Type) (dev : MtdDevice σ) (device : DeviceInfo) (buf buf2 : List UInt8) (s : σ),
        device.size = 1 → (dev.memGetInfo (dev.openDevice s).2).1 = some chunkBlocks →
          (flashcpMain dev (some device) buf buf2 s).WritesErased chunkBlocks := by
  refine ⟨by decide, (writes_erased_iff_fits 1 chunkBlocks (by decide)).mpr ?_⟩
  exact ⟨by decide, by decide, by decide⟩

-- One byte: the chunk takes 64 KiB, of which 4 KiB are erased.
theorem padding_outside_blocks :
    (1 : UInt32) ≤ smallBlocks.size ∧
      ¬ (flashcpMain (zeroDevice smallBlocks) (some (zeroImage 1)) [] [] ()).WritesErased
        smallBlocks := by
  refine ⟨by decide, ?_⟩
  intro hwrites
  have hfits := zeroDevice_fits (by decide) hwrites (by decide)
  exact absurd hfits.blocks (by decide)

end CanGateway
