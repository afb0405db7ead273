import CanGateway.FlashMemory

/-!
# Programming a flash that works

On a flash whose calls are all made good in the end, `flashcp_main` fails only for an image that the
device has no room for, or where the blocks it erases are too few.
-/

open ByteMemory
open NorMemory (bytesAt)
open Rounding (up)
open Transfer (Attempt Calls)

namespace CanGateway

namespace NorFlash

variable {σ : Type} {dev : MtdDevice σ} (flash : NorFlash dev)

/-- Every call is made good in the end: signals interrupt a `read` or a `write` at most
    `maxRetryCnt` times in a row, of which `burst` is a bound, and both move something while the
    file position is inside the device. -/
structure Healthy (mtd : MtdInfo) (burst : σ → Nat) : Prop where
  opens : ∀ s, (dev.openDevice s).1 = true
  info : ∀ s, (dev.memGetInfo s).1 = some mtd
  blocks : mtd.erasesize.toNat ∣ mtd.size.toNat
  erases : ∀ s start length, start.toNat + length.toNat ≤ mtd.size.toNat →
    (dev.memErase s start length).1 = true
  seeks : ∀ s, (dev.lseek s).1 = true
  burst_le : ∀ s, burst s ≤ maxRetryCnt
  writes : ∀ s data, 0 < data.length → flash.pos s < mtd.size.toNat →
    (∃ n > 0, (dev.write s data).1 = .count n) ∨
    ((dev.write s data).1 = .error eintr ∧ burst (dev.write s data).2 < burst s)
  inside : ∀ s data, flash.pos s ≤ mtd.size.toNat → flash.pos (dev.write s data).2 ≤ mtd.size.toNat
  reads : ∀ s count, 0 < count → flash.pos s < mtd.size.toNat →
    (∃ bytes, (dev.read s count).1 = .data bytes ∧ 0 < bytes.length) ∨
    ((dev.read s count).1 = .error eintr ∧ burst (dev.read s count).2 < burst s)

theorem signalledFlash_healthy {mtd : MtdInfo} (hblocks : mtd.erasesize.toNat ∣ mtd.size.toNat) :
    (signalledFlash mtd).Healthy mtd (fun s => if s.signal then 1 else 0) where
  opens _ := rfl
  info _ := rfl
  blocks := hblocks
  erases _ _ _ _ := rfl
  seeks _ := rfl
  burst_le s := by
    split <;> decide
  writes s data hdata hpos := by
    obtain ⟨memory, pos, signal⟩ := s
    cases signal with
    | true => exact Or.inr ⟨rfl, show (0 : Nat) < 1 by decide⟩
    | false =>
        change pos < mtd.size.toNat at hpos
        exact Or.inl ⟨_, show 0 < min (min data.length 256) (mtd.size.toNat - pos) by omega, rfl⟩
  inside s data hpos := by
    obtain ⟨memory, pos, signal⟩ := s
    cases signal with
    | true => exact hpos
    | false =>
        change pos ≤ mtd.size.toNat at hpos
        show pos + min (min data.length 256) (mtd.size.toNat - pos) ≤ mtd.size.toNat
        omega
  reads s count hcount hpos := by
    obtain ⟨memory, pos, signal⟩ := s
    cases signal with
    | true => exact Or.inr ⟨rfl, show (0 : Nat) < 1 by decide⟩
    | false =>
        change pos < mtd.size.toNat at hpos
        refine Or.inl ⟨_, rfl, ?_⟩
        rw [NorMemory.length_bytesAt]
        show 0 < min (min count 256) (mtd.size.toNat - pos)
        omega

section Healthy

variable {flash : NorFlash dev} {mtd : MtdInfo} {burst : σ → Nat} {size : UInt32}

-- The blocks lie inside the device, even if the sum for their count wraps around.
theorem erased_le (hblocks : mtd.erasesize.toNat ∣ mtd.size.toNat) (hle : size ≤ mtd.size) :
    eraseCount size mtd * mtd.erasesize.toNat ≤ mtd.size.toNat := by
  rw [UInt32.le_iff_toNat_le] at hle
  by_cases hsum : size.toNat + mtd.erasesize.toNat ≤ 2 ^ 32
  · rw [eraseCount_sum size mtd hsum]
    exact (Rounding.up_le_iff mtd.erasesize_pos hblocks).mpr hle
  · have hlt := eraseCount_wrapped size mtd (Nat.lt_of_not_le hsum)
    omega

-- By the invariant rule: no block fails.
theorem Healthy.eraseBlocks (h : flash.Healthy mtd burst) (hle : size ≤ mtd.size)
    (file : OpenFile σ) : (CanGateway.eraseBlocks dev size mtd file).1 = true := by
  apply (eraseBlocks_returns dev size mtd file).invariant
    (fun s => ∃ k, s.i = k + 1 ∧ s.start = UInt32.ofNat (k * mtd.erasesize.toNat))
    (fun r => r.1 = true)
  · rintro s s' ⟨k, hi, hstart⟩ hbody
    unfold eraseBody at hbody
    split at hbody
    · dsimp only at hbody
      split at hbody
      · rw [← Sum.inl.inj hbody]
        refine ⟨k + 1, congrArg (· + 1) hi, ?_⟩
        show s.start + mtd.erasesize = _
        rw [hstart, Nat.succ_mul, UInt32.ofNat_add, UInt32.ofNat_toNat]
      · cases hbody
    · cases hbody
  · rintro s r ⟨k, hi, hstart⟩ hbody
    unfold eraseBody at hbody
    split at hbody
    next hcount =>
      have hlt : k < eraseCount size mtd := by omega
      have hblock := Nat.mul_le_mul_right mtd.erasesize.toNat (Nat.succ_le_of_lt hlt)
      have hwithin := erased_le h.blocks hle
      rw [Nat.succ_mul] at hblock
      have hok : (dev.memErase s.file.device s.start mtd.erasesize).1 = true := by
        apply h.erases
        rw [hstart, eraseStart_toNat hlt]
        omega
      dsimp only at hbody
      rw [if_pos hok] at hbody
      cases hbody
    · rw [← Sum.inr.inj hbody]
  · exact ⟨0, rfl, by rw [Nat.zero_mul]; rfl⟩

theorem Healthy.erasedFor (h : flash.Healthy mtd burst) {device : DeviceInfo} {image : List UInt8}
    (hname : ∃ name, device.devicename = some name) (hbuff : device.buff = some image)
    (hsize : device.size ≠ 0) (hle : device.size ≤ mtd.size) (s : σ) :
    ErasedFor dev device image s where
  devicename := hname
  buff := hbuff
  size := hsize
  erased := by
    rw [eraseFlash_opened dev (h.opens s) (h.info _) hle, if_pos (h.eraseBlocks hle _)]

-- A chunk that lies inside the device is written.
theorem Healthy.fullWrite_ret (h : flash.Healthy mtd burst) {file : OpenFile σ} {buf : List UInt8}
    {len : Nat} (hlen : len ≤ buf.length)
    (hinside : flash.pos file.device + len ≤ mtd.size.toNat) :
    (fullWrite dev file buf len).ret = len := by
  have hprogress : Transfer.Progress (writeCall dev buf) eintr maxRetryCnt len
      (fun t => burst t.device)
      (fun offset t => flash.pos t.device = flash.pos file.device + offset) := by
    constructor
    · exact fun t => h.burst_le t.device
    · intro t offset n hend hn hpos
      have hslice : (slice buf offset n).length = n := length_slice _ _ _ (by omega)
      have hmoved : flash.pos (dev.write t.device (slice buf offset n)).2 = _ :=
        flash.write_pos t.device (slice buf offset n)
      obtain ⟨m, hm, hcount⟩ | ⟨herror, hburst⟩ :=
        h.writes t.device (slice buf offset n) (by omega) (by omega)
      · rw [hcount, hpos] at hmoved
        exact Or.inl ⟨m, hm, hcount, hmoved.trans (Nat.add_assoc _ _ _)⟩
      · rw [herror, hpos] at hmoved
        exact Or.inr ⟨herror, hmoved, hburst⟩
  exact (hprogress.full (safeWrite dev buf) (Nat.add_zero _).symm).1

-- By the invariant rule: no chunk of an image that fits fails.
theorem Healthy.writePass_ret (h : flash.Healthy mtd burst) {image : List UInt8}
    (hinside : up image.length bufsize ≤ mtd.size.toNat) {file : OpenFile σ}
    (hpos : flash.pos file.device = 0) (buf buf2 : List UInt8) :
    (copyPass dev image image.length 0 buf buf2 file).ret = 0 := by
  have hpos' : flash.pos (rewind dev file).device = 0 := by
    show flash.pos (dev.lseek file.device).2 = 0
    rw [flash.lseek_pos, hpos]
    exact ite_self 0
  have hwritten : ∀ s : ChunkState σ, s.done < image.length →
      bufsize ∣ s.done → flash.pos s.file.device = s.done →
      (fullWrite dev s.file (padChunk (ByteMemory.write s.buf 0
        (slice image s.done (chunkLength image.length s.done))) (chunkLength image.length s.done))
        bufsize).ret = bufsize := by
    intro s hlt hdvd hat
    apply h.fullWrite_ret (length_chunkBuffer rfl hlt s.buf)
    have hnext := Rounding.up_add bufsize_pos hdvd (chunkLength_pos hlt)
      (chunkLength_le image.length s.done).2
    have hmono := Rounding.up_mono bufsize_pos
      (show s.done + chunkLength image.length s.done ≤ image.length by
        have hcount := (chunkLength_le image.length s.done).1
        omega)
    omega
  apply (copyPass_returns dev image image.length 0 buf buf2 file).invariant
    (fun s => s.done < image.length → bufsize ∣ s.done ∧ flash.pos s.file.device = s.done)
    (fun r => r.ret = 0)
  · intro s s' hs hbody
    rcases Nat.lt_or_ge s.done image.length with hlt | hge
    · obtain ⟨hdvd, hat⟩ := hs hlt
      have hret := hwritten s hlt hdvd hat
      obtain ⟨_, _, _, _, hend⟩ := flash.fullWrite_memory s.file (padChunk (ByteMemory.write s.buf 0
        (slice image s.done (chunkLength image.length s.done)))
        (chunkLength image.length s.done)) bufsize
      rw [hret, Int.toNat_natCast, hat] at hend
      rw [chunkBody_write dev image image.length s hlt, if_neg (not_not.mpr hret)] at hbody
      rw [← Sum.inl.inj hbody]
      intro hnext
      dsimp only at hnext ⊢
      have hwhole : chunkLength image.length s.done = bufsize := by
        unfold chunkLength at hnext ⊢
        split at hnext
        · omega
        next hge => exact if_neg hge
      constructor
      · rw [hwhole]
        exact Nat.dvd_add hdvd (Nat.dvd_refl _)
      · rw [hend, hwhole]
    · rw [chunkBody_done dev image image.length 0 s hge] at hbody
      cases hbody
  · intro s r hs hbody
    rcases Nat.lt_or_ge s.done image.length with hlt | hge
    · obtain ⟨hdvd, hat⟩ := hs hlt
      rw [chunkBody_write dev image image.length s hlt,
        if_neg (not_not.mpr (hwritten s hlt hdvd hat))] at hbody
      cases hbody
    · rw [chunkBody_done dev image image.length 0 s hge] at hbody
      rw [← Sum.inr.inj hbody]
  · exact fun _ => ⟨Nat.dvd_zero _, hpos'⟩

-- By the invariant rule: the file position never passes the end of the device.
theorem Healthy.writePass_inside (h : flash.Healthy mtd burst) (image : List UInt8)
    {file : OpenFile σ} (hpos : flash.pos file.device = 0) (buf buf2 : List UInt8) :
    flash.pos (copyPass dev image image.length 0 buf buf2 file).file.device ≤ mtd.size.toNat := by
  have hcalls : ∀ {buf : List UInt8} {t t' : OpenFile σ} {trace : List Attempt},
      Calls (writeCall dev buf) t trace t' → flash.pos t.device ≤ mtd.size.toNat →
        flash.pos t'.device ≤ mtd.size.toNat := by
    intro buf t t' trace hcalls
    induction hcalls with
    | nil => exact id
    | cons _ ih => exact fun hle => ih (h.inside _ _ hle)
  apply (copyPass_returns dev image image.length 0 buf buf2 file).invariant
    (fun s => flash.pos s.file.device ≤ mtd.size.toNat)
    (fun r => flash.pos r.file.device ≤ mtd.size.toNat)
  · intro s s' hle hbody
    rcases Nat.lt_or_ge s.done image.length with hlt | hge
    · rw [chunkBody_write dev image image.length s hlt] at hbody
      split at hbody
      · cases hbody
      · rw [← Sum.inl.inj hbody]
        exact hcalls (fullWrite_spec dev s.file _ _).1 hle
    · rw [chunkBody_done dev image image.length 0 s hge] at hbody
      cases hbody
  · intro s r hle hbody
    rcases Nat.lt_or_ge s.done image.length with hlt | hge
    · rw [chunkBody_write dev image image.length s hlt] at hbody
      split at hbody
      · rw [← Sum.inr.inj hbody]
        exact hcalls (fullWrite_spec dev s.file _ _).1 hle
      · cases hbody
    · rw [chunkBody_done dev image image.length 0 s hge] at hbody
      rw [← Sum.inr.inj hbody]
      exact hle
  · show flash.pos (dev.lseek file.device).2 ≤ _
    rw [flash.lseek_pos, hpos, ite_self]
    exact Nat.zero_le _

-- What `read` gives are the bytes at the file position.
theorem read_bytesAt (s : σ) (count : Nat) :
    (dev.read s count).1.bytes =
      bytesAt (flash.memory s) (flash.pos s) (dev.read s count).1.bytes.length := by
  apply List.ext_getElem
  · rw [NorMemory.length_bytesAt]
  · intro i hi _
    simp only [bytesAt, List.getElem_map, List.getElem_range]
    exact flash.read_bytes s count i _ (List.getElem?_eq_getElem hi)

-- What lies inside the device is read in full.
theorem Healthy.fullRead_bytes (h : flash.Healthy mtd burst) {file : OpenFile σ} {len : Nat}
    (hinside : flash.pos file.device + len ≤ mtd.size.toNat) (buf : List UInt8) :
    let o := fullRead dev file buf len
    flash.pos o.state.1.device = flash.pos file.device + len ∧
      o.state.2.take len = bytesAt (flash.memory file.device) (flash.pos file.device) len := by
  have hprogress : Transfer.Progress (readCall dev) eintr maxRetryCnt len
      (fun t => burst t.1.device)
      (fun offset t => flash.memory t.1.device = flash.memory file.device ∧
        flash.pos t.1.device = flash.pos file.device + offset ∧
        t.2.take offset =
          bytesAt (flash.memory file.device) (flash.pos file.device) offset) := by
    constructor
    · exact fun t => h.burst_le t.1.device
    · rintro ⟨t, held⟩ offset n hend hn ⟨hmem, hpos, hheld⟩
      have hmoved : flash.pos (dev.read t.device n).2 = _ := flash.read_pos t.device n
      have hmem' : flash.memory (dev.read t.device n).2 = _ := flash.read t.device n
      dsimp only at hmem hpos hheld
      have hat : flash.pos t.device < mtd.size.toNat := by omega
      obtain ⟨bytes, hbytes, hm⟩ | ⟨herror, hburst⟩ := h.reads t.device n hn hat
      · have hcontent := flash.read_bytesAt t.device n
        rw [hbytes, hmem, hpos] at hcontent
        rw [hbytes, hpos] at hmoved
        change flash.pos _ = _ + _ + bytes.length at hmoved
        change bytes = bytesAt _ _ bytes.length at hcontent
        have hcall : (readCall dev).call (t, held) offset n =
            (.count bytes.length, ((sysRead dev t n).2, ByteMemory.write held offset bytes)) := by
          show ((dev.read t.device n).1.toCall, ((sysRead dev t n).2,
            ByteMemory.write held offset (dev.read t.device n).1.bytes)) = _
          rw [hbytes]
          rfl
        rw [hcall]
        refine Or.inl ⟨_, hm, rfl, hmem'.trans hmem, hmoved.trans (Nat.add_assoc _ _ _), ?_⟩
        have hlen : (held.take offset).length = offset := by
          rw [hheld, NorMemory.length_bytesAt]
        show (held.take offset ++ (bytes ++ held.drop (offset + bytes.length))).take _ = _
        rw [← List.append_assoc, List.take_left' (by rw [List.length_append, hlen]), hheld,
          NorMemory.bytesAt_add, ← hcontent]
      · have hcall : (readCall dev).call (t, held) offset n =
            (.error eintr, ((sysRead dev t n).2, held)) := by
          show ((dev.read t.device n).1.toCall, ((sysRead dev t n).2,
            ByteMemory.write held offset (dev.read t.device n).1.bytes)) = _
          rw [herror]
          show (_, (_, ByteMemory.write held offset [])) = _
          rw [ByteMemory.write_nil]
          rfl
        rw [hcall]
        rw [herror, hpos] at hmoved
        exact Or.inr ⟨rfl, ⟨hmem'.trans hmem, hmoved, hheld⟩, hburst⟩
  obtain ⟨_, _, hpos, hbytes⟩ := hprogress.full (safeRead dev)
    (s := (file, buf)) ⟨rfl, (Nat.add_zero _).symm, rfl⟩
  exact ⟨hpos, hbytes⟩

-- The comparison of a chunk with what is in the flash.
theorem chunk_agrees_iff {image : List UInt8} {mem : Nat → UInt8} {done count : Nat}
    (hend : done + count ≤ image.length) :
    slice image done count = bytesAt mem done count ↔
      ∀ off, done ≤ off → off < done + count → image[off]? = some (mem off) := by
  have hat : ∀ i, i < count → (bytesAt mem done count)[i]? = some (mem (done + i)) :=
    fun i hi => NorMemory.getElem?_bytesAt mem done hi
  have hslice : ∀ i, i < count → (slice image done count)[i]? = image[done + i]? := by
    intro i hi
    rw [slice, List.getElem?_take, if_pos hi, List.getElem?_drop]
  constructor
  · intro heq off hge hlt
    have hi : off - done < count := by omega
    have h := hslice _ hi
    rw [heq, hat _ hi, show done + (off - done) = off by omega] at h
    exact h.symm
  · intro h
    apply List.ext_getElem
    · rw [length_slice _ _ _ hend, NorMemory.length_bytesAt]
    · intro i hi hi'
      rw [length_slice _ _ _ hend] at hi
      apply Option.some.inj
      rw [← List.getElem?_eq_getElem, ← List.getElem?_eq_getElem, hslice i hi, hat i hi]
      exact h _ (by omega) (by omega)

-- By the invariant rule: the verify pass compares the image with the flash, byte by byte.
theorem Healthy.verifyPass_ret (h : flash.Healthy mtd burst) {image : List UInt8}
    (hinside : image.length ≤ mtd.size.toNat) (buf buf2 : List UInt8) (file : OpenFile σ) :
    (copyPass dev image image.length 1 buf buf2 file).ret = 0 ↔
      ∀ off < image.length, image[off]? = some (flash.memory file.device off) := by
  have hbody : ∀ s : ChunkState σ, s.done < image.length →
      flash.memory s.file.device = flash.memory file.device →
      flash.pos s.file.device = s.done →
      let count := chunkLength image.length s.done
      let r := xread dev s.file s.buf2 count
      flash.pos r.1.device = s.done + count ∧
        ((ByteMemory.write s.buf 0 (slice image s.done count)).take count = r.2.take count ↔
          ∀ off, s.done ≤ off → off < s.done + count →
            image[off]? = some (flash.memory file.device off)) := by
    intro s hlt hmem hat count r
    have hcount := (chunkLength_le image.length s.done).1
    have hend : s.done + count ≤ image.length := by omega
    obtain ⟨hpos, hbytes⟩ := h.fullRead_bytes
      (show flash.pos s.file.device + count ≤ mtd.size.toNat by omega) s.buf2
    rw [hat, hmem] at hbytes
    rw [hat] at hpos
    have hr : r = (fullRead dev s.file s.buf2 count).state :=
      xread_of_pos dev s.file s.buf2 (chunkLength_pos hlt)
    have hchunk : (ByteMemory.write s.buf 0 (slice image s.done count)).take count =
        slice image s.done count := by
      rw [ByteMemory.write, List.take_zero, List.nil_append,
        List.take_left' (length_chunk rfl hlt)]
    refine ⟨by rw [hr]; exact hpos, ?_⟩
    rw [hr, hbytes, hchunk]
    exact chunk_agrees_iff hend
  apply (copyPass_returns dev image image.length 1 buf buf2 file).invariant
    (fun s => s.done ≤ image.length ∧ flash.memory s.file.device = flash.memory file.device ∧
      flash.pos s.file.device = s.done ∧
      ∀ off < s.done, image[off]? = some (flash.memory file.device off))
    (fun r => r.ret = 0 ↔ ∀ off < image.length, image[off]? = some (flash.memory file.device off))
  · rintro s s' ⟨hle, hmem, hat, hall⟩ hstep
    rcases Nat.lt_or_ge s.done image.length with hlt | hge
    · obtain ⟨hpos, hagrees⟩ := hbody s hlt hmem hat
      have hcount := (chunkLength_le image.length s.done).1
      rw [chunkBody_verify dev image image.length s hlt] at hstep
      split at hstep
      · cases hstep
      next heq =>
        rw [← Sum.inl.inj hstep]
        refine ⟨by dsimp only; omega, (flash.xread_memory _ _ _).trans hmem, hpos, ?_⟩
        intro off hoff
        rcases Nat.lt_or_ge off s.done with hbefore | hhere
        · exact hall off hbefore
        · exact hagrees.mp (not_not.mp heq) off hhere hoff
    · rw [chunkBody_done dev image image.length 1 s hge] at hstep
      cases hstep
  · rintro s r ⟨hle, hmem, hat, hall⟩ hstep
    rcases Nat.lt_or_ge s.done image.length with hlt | hge
    · obtain ⟨_, hagrees⟩ := hbody s hlt hmem hat
      have hcount := (chunkLength_le image.length s.done).1
      rw [chunkBody_verify dev image image.length s hlt] at hstep
      split at hstep
      next hne =>
        rw [← Sum.inr.inj hstep]
        refine iff_of_false (show (-5 : Int) ≠ 0 by decide) ?_
        intro hevery
        exact hne (hagrees.mpr fun off _ hoff => hevery off (by omega))
      · cases hstep
    · rw [chunkBody_done dev image image.length 1 s hge] at hstep
      rw [← Sum.inr.inj hstep]
      exact iff_of_true rfl fun off hoff => hall off (by omega)
  · refine ⟨Nat.zero_le _, flash.lseek file.device, ?_,
      fun off hoff => absurd hoff (Nat.not_lt_zero off)⟩
    show flash.pos (dev.lseek file.device).2 = 0
    rw [flash.lseek_pos, if_pos (h.seeks _)]

/-- Where nothing was erased, the flash has all the bits the image leaves set. -/
def Programmable (size : UInt32) (mtd : MtdInfo) (image : List UInt8) (mem : Nat → UInt8) : Prop :=
  ∀ off byte, image[off]? = some byte → eraseCount size mtd * mtd.erasesize.toNat ≤ off →
    mem off &&& byte = byte

theorem programmable_iff {image : List UInt8} {mem : Nat → UInt8} :
    Programmable size mtd image mem ↔
      ∀ off < image.length, image[off]? = some (flashed size mtd image mem off) := by
  have hkept : ∀ off byte, image[off]? = some byte →
      eraseCount size mtd * mtd.erasesize.toNat ≤ off →
        flashed size mtd image mem off = mem off &&& byte := by
    intro off byte hbyte hoff
    rw [flashed, NorMemory.program_of_le (Nat.zero_le off), Nat.sub_zero,
      NorMemory.erase_outside (by omega), List.getD_eq_getElem?_getD, hbyte]
    rfl
  constructor
  · intro h off hlt
    have hbyte := List.getElem?_eq_getElem hlt
    rw [hbyte]
    rcases Nat.lt_or_ge off (eraseCount size mtd * mtd.erasesize.toNat) with hoff | hoff
    · rw [flashed_erased mem hbyte hoff]
    · rw [hkept off _ hbyte hoff, h off _ hbyte hoff]
  · intro h off byte hbyte hoff
    have hat := h off (List.getElem?_eq_some_iff.mp hbyte).1
    rw [hbyte, hkept off byte hbyte hoff] at hat
    exact (Option.some.inj hat).symm

-- All bytes of the image are erased unless the sum for the number of blocks wraps around.
theorem programmable_of_sum {image : List UInt8} (hlen : image.length = size.toNat)
    (hsum : size.toNat + mtd.erasesize.toNat ≤ 2 ^ 32) (mem : Nat → UInt8) :
    Programmable size mtd image mem := by
  intro off byte hbyte hoff
  have hlt := (List.getElem?_eq_some_iff.mp hbyte).1
  have hle : size.toNat ≤ up size.toNat mtd.erasesize.toNat := Rounding.le_up mtd.erasesize_pos
  rw [eraseCount_sum size mtd hsum] at hoff
  omega

/-- **What a call comes to on a flash that works**, however often signals interrupt it: it fails
    with -4 exactly if the image, rounded up to 64 KiB, is larger than the device; and it succeeds
    exactly if it is not and no bit has to be set in a byte that was not erased, which can only be
    so if the sum for the number of blocks wraps around.  Then the flash holds the image. -/
theorem flashcp_result (h : flash.Healthy mtd burst) {device : DeviceInfo} {image : List UInt8}
    (hname : ∃ name, device.devicename = some name) (hbuff : device.buff = some image)
    (hsize : device.size ≠ 0) (hle : device.size ≤ mtd.size) (buf buf2 : List UInt8) (s : σ) :
    let r := flashcpMain dev (some device) buf buf2 s
    (r.ret = -4 ↔ mtd.size.toNat < up device.size.toNat bufsize) ∧
    (r.ret = 0 ↔ up device.size.toNat bufsize ≤ mtd.size.toNat ∧
      Programmable device.size mtd image (flash.memory s)) ∧
    (device.size.toNat + mtd.erasesize.toNat ≤ 2 ^ 32 →
      Programmable device.size mtd image (flash.memory s)) ∧
    (r.ret = 0 → ∀ off < image.length, image[off]? = some (flash.memory r.file.device off)) := by
  intro r
  have hlen := device.length_buff image hbuff
  have herased := h.erasedFor hname hbuff hsize hle s
  have hinfo := h.info (dev.openDevice s).2
  have hstart := (flash.eraseFlash_memory device.size hinfo).2 herased.erased
  obtain ⟨hwritten, hrets, hpos⟩ := flash.writePass_erased herased hinfo buf buf2
  have hr : r = if (writePass dev device image buf buf2 s).ret ≠ 0 then
      writePass dev device image buf buf2 s else verifyPass dev device image buf buf2 s :=
    flashcpMain_erased dev herased buf buf2
  have hfits : (writePass dev device image buf buf2 s).ret = 0 ↔
      up device.size.toNat bufsize ≤ mtd.size.toNat := by
    constructor
    · intro hzero
      rw [← hpos hzero, writePass, ← hlen]
      exact h.writePass_inside image hstart buf buf2
    · intro hinside
      rw [writePass, ← hlen]
      rw [← hlen] at hinside
      exact h.writePass_ret hinside hstart buf buf2
  have hsum : device.size.toNat + mtd.erasesize.toNat ≤ 2 ^ 32 →
      Programmable device.size mtd image (flash.memory s) :=
    fun hle => programmable_of_sum hlen hle _
  by_cases hzero : (writePass dev device image buf buf2 s).ret = 0
  · rw [if_neg (not_not.mpr hzero)] at hr
    have hinside := hfits.mp hzero
    obtain ⟨hmem, hverified⟩ := flash.verifyPass_memory image device.size.toNat
      (writePass dev device image buf buf2 s).buf (writePass dev device image buf buf2 s).buf2
      (writePass dev device image buf buf2 s).file
    have hequal := h.verifyPass_ret
      (show image.length ≤ mtd.size.toNat by
        rw [hlen]
        exact (Rounding.le_up bufsize_pos).trans hinside)
      (writePass dev device image buf buf2 s).buf (writePass dev device image buf buf2 s).buf2
      (writePass dev device image buf buf2 s).file
    rw [hlen] at hequal
    have hverify : r.ret = 0 ↔ ∀ off < device.size.toNat,
        image[off]? = some (flash.memory r.file.device off) := by
      rw [hr]
      show (verifyPass dev device image buf buf2 s).ret = 0 ↔
        ∀ off < device.size.toNat, image[off]? =
          some (flash.memory (verifyPass dev device image buf buf2 s).file.device off)
      have hsame : flash.memory (verifyPass dev device image buf buf2 s).file.device =
        flash.memory (writePass dev device image buf buf2 s).file.device := hmem
      rw [hsame]
      exact hequal
    have hflashed : flash.memory r.file.device =
        flashed device.size mtd image (flash.memory s) := by
      rw [hr]
      exact hmem.trans (hwritten.all hzero)
    refine ⟨?_, ?_, hsum, ?_⟩
    · refine iff_of_false ?_ (by omega)
      rw [hr]
      show (verifyPass dev device image buf buf2 s).ret ≠ -4
      rcases hverified with h0 | h5
      · rw [show (verifyPass dev device image buf buf2 s).ret = 0 from h0]
        decide
      · rw [show (verifyPass dev device image buf buf2 s).ret = -5 from h5]
        decide
    · rw [hverify, programmable_iff, hlen, hflashed]
      exact (and_iff_right hinside).symm
    · rw [hlen]
      exact hverify.mp
  · rw [if_pos hzero] at hr
    have houtside := hfits.not.mp hzero
    have hfour : r.ret = -4 := by
      rw [hr]
      exact hrets.resolve_left hzero
    refine ⟨iff_of_true hfour (by omega), ?_, hsum, ?_⟩
    · rw [hfour]
      exact iff_of_false (by decide) fun hboth => houtside hboth.1
    · rw [hfour]
      exact fun h => absurd h (by decide)

end Healthy

end NorFlash

/-- The image of one zero fits, and the flash holds it afterwards. -/
theorem flashcp_result_zero :
    let s : SignalledState := ⟨fun _ => 0xa5, 0, true⟩
    let r := flashcpMain (signalledDevice chunkBlocks) (some (zeroImage 1)) [] [] s
    r.ret = 0 ∧ (signalledFlash chunkBlocks).memory r.file.device 0 = 0 := by
  intro s
  have hblocks : chunkBlocks.erasesize.toNat ∣ chunkBlocks.size.toNat := by decide
  have hleft := NorFlash.flashcp_result (NorFlash.signalledFlash_healthy hblocks)
    (show ∃ name, (zeroImage 1).devicename = some name from ⟨_, rfl⟩) rfl (by decide) (by decide)
    [] [] s
  dsimp only at hleft ⊢
  generalize flashcpMain (signalledDevice chunkBlocks) (some (zeroImage 1)) [] [] s = r at hleft ⊢
  obtain ⟨_, hzero, hsum, hheld⟩ := hleft
  have hret : r.ret = 0 := hzero.mpr ⟨by decide, hsum (by decide)⟩
  have hat := hheld hret 0 (by decide)
  exact ⟨hret, (Option.some.inj hat).symm⟩

end CanGateway
