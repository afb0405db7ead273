import CanGateway.FlashGeometry
import CanGateway.Library.NorMemory

/-!
# What the flash holds

The device is NOR flash: erasing fills a block with 0xff, `write` clears bits, and `read` gives the
bytes at the file position.  The calls may still fail, come short or be interrupted as they like,
and a `write` that fails may have programmed some of its data.
-/

open ByteMemory
open NorMemory (blank bytesAt erase program)
open Rounding (up)
open Transfer (Attempt Calls)

namespace CanGateway

/-- A device whose calls touch its memory as those of NOR flash do. -/
structure NorFlash {σ : Type} (dev : MtdDevice σ) where
  memory : σ → Nat → UInt8
  pos : σ → Nat
  openDevice : ∀ s, memory (dev.openDevice s).2 = memory s
  openDevice_pos : ∀ s, (dev.openDevice s).1 = true → pos (dev.openDevice s).2 = 0
  memGetInfo : ∀ s, memory (dev.memGetInfo s).2 = memory s
  memGetInfo_pos : ∀ s, pos (dev.memGetInfo s).2 = pos s
  memErase : ∀ s start length, (dev.memErase s start length).1 = true →
    memory (dev.memErase s start length).2 = erase start.toNat length.toNat (memory s)
  memErase_outside : ∀ s start length off,
    off < start.toNat ∨ start.toNat + length.toNat ≤ off →
      memory (dev.memErase s start length).2 off = memory s off
  memErase_pos : ∀ s start length, pos (dev.memErase s start length).2 = pos s
  lseek : ∀ s, memory (dev.lseek s).2 = memory s
  lseek_pos : ∀ s, pos (dev.lseek s).2 = if (dev.lseek s).1 then 0 else pos s
  write : ∀ s data, ∃ k, (dev.write s data).1.moved ≤ k ∧
    memory (dev.write s data).2 = program (pos s) (data.take k) (memory s)
  write_pos : ∀ s data, pos (dev.write s data).2 = pos s + (dev.write s data).1.moved
  read : ∀ s count, memory (dev.read s count).2 = memory s
  read_pos : ∀ s count, pos (dev.read s count).2 = pos s + (dev.read s count).1.bytes.length
  read_bytes : ∀ s count i byte, (dev.read s count).1.bytes[i]? = some byte →
    byte = memory s (pos s + i)

/-! ## A flash with signals -/

/-- The memory of a flash, the file position, and whether a signal interrupts the next call. -/
structure SignalledState where
  memory : Nat → UInt8
  pos : Nat
  signal : Bool

/-- A signal interrupts every other call of `read` and `write`, and the others move at most a page
    of 256 bytes. -/
def signalledDevice (mtd : MtdInfo) : MtdDevice SignalledState where
  openDevice s := (true, { s with pos := 0 })
  memGetInfo s := (some mtd, s)
  memErase s start length :=
    (true, { s with memory := erase start.toNat length.toNat s.memory })
  lseek s := (true, { s with pos := 0 })
  write s data :=
    let n := min (min data.length 256) (mtd.size.toNat - s.pos)
    if s.signal then (.error eintr, { s with signal := false })
    else
      (.count n,
        { memory := program s.pos (data.take n) s.memory, pos := s.pos + n, signal := true })
  write_le := by
    intro s data n h
    dsimp only at h
    split at h
    · cases h
    · rw [← Transfer.CallResult.count.inj h]
      omega
  read s count :=
    let n := min (min count 256) (mtd.size.toNat - s.pos)
    if s.signal then (.error eintr, { s with signal := false })
    else (.data (bytesAt s.memory s.pos n), { s with pos := s.pos + n, signal := true })
  read_le := by
    intro s count
    dsimp only
    split
    · exact Nat.zero_le _
    · show (bytesAt _ _ _).length ≤ count
      rw [NorMemory.length_bytesAt]
      omega

section Signalled

variable (mtd : MtdInfo)

def signalledFlash : NorFlash (signalledDevice mtd) where
  memory := SignalledState.memory
  pos := SignalledState.pos
  openDevice _ := rfl
  openDevice_pos _ _ := rfl
  memGetInfo _ := rfl
  memGetInfo_pos _ := rfl
  memErase _ _ _ _ := rfl
  memErase_outside _ _ _ _ h := NorMemory.erase_outside h
  memErase_pos _ _ _ := rfl
  lseek _ := rfl
  lseek_pos _ := rfl
  write s data := by
    obtain ⟨memory, pos, signal⟩ := s
    cases signal with
    | true => exact ⟨0, Nat.le_refl 0, (NorMemory.program_nil pos memory).symm⟩
    | false => exact ⟨_, Nat.le_refl _, rfl⟩
  write_pos s data := by
    obtain ⟨memory, pos, signal⟩ := s
    cases signal <;> rfl
  read s count := by
    obtain ⟨memory, pos, signal⟩ := s
    cases signal <;> rfl
  read_pos s count := by
    obtain ⟨memory, pos, signal⟩ := s
    cases signal with
    | true => rfl
    | false =>
        show pos + _ = pos + (bytesAt _ _ _).length
        rw [NorMemory.length_bytesAt]
  read_bytes s count i byte h := by
    obtain ⟨memory, pos, signal⟩ := s
    cases signal with
    | true => cases h
    | false =>
        change (bytesAt memory pos _)[i]? = some byte at h
        rw [bytesAt, List.getElem?_map, Option.map_eq_some_iff] at h
        obtain ⟨j, hj, rfl⟩ := h
        rw [List.getElem?_eq_some_iff] at hj
        obtain ⟨_, hj⟩ := hj
        rw [List.getElem_range] at hj
        rw [hj]

end Signalled

namespace NorFlash

variable {σ : Type} {dev : MtdDevice σ} (flash : NorFlash dev)

/-! ## Erasing -/

theorem eraseStart_toNat {size : UInt32} {mtd : MtdInfo} {k : Nat} (hk : k < eraseCount size mtd) :
    (UInt32.ofNat (k * mtd.erasesize.toNat)).toNat = k * mtd.erasesize.toNat := by
  have hle : k * mtd.erasesize.toNat ≤ eraseCount size mtd * mtd.erasesize.toNat :=
    Nat.mul_le_mul_right _ (Nat.le_of_lt hk)
  have hcount : eraseCount size mtd * mtd.erasesize.toNat ≤ (size + mtd.erasesize - 1).toNat :=
    Nat.div_mul_le_self _ _
  exact UInt32.toNat_ofNat_of_lt' ((hle.trans hcount).trans_lt (UInt32.toNat_lt _))

/-- What the erase loop makes of the memory: nothing changes behind the blocks, and without a
    failure all of them are blank. -/
structure Erased (size : UInt32) (mtd : MtdInfo) (mem : Nat → UInt8) (ok : Prop) (s : σ) :
    Prop where
  outside : ∀ off, eraseCount size mtd * mtd.erasesize.toNat ≤ off → flash.memory s off = mem off
  all : ok → flash.memory s = erase 0 (eraseCount size mtd * mtd.erasesize.toNat) mem

-- By the invariant rule: the blocks so far are blank.
theorem eraseBlocks_memory (size : UInt32) (mtd : MtdInfo) (file : OpenFile σ) :
    let r := eraseBlocks dev size mtd file
    flash.Erased size mtd (flash.memory file.device) (r.1 = true) r.2.device ∧
      flash.pos r.2.device = flash.pos file.device := by
  apply (eraseBlocks_returns dev size mtd file).invariant
    (fun s => ∃ k ≤ eraseCount size mtd, ErasedTo mtd file k s ∧
      flash.memory s.file.device = erase 0 (k * mtd.erasesize.toNat) (flash.memory file.device) ∧
      flash.pos s.file.device = flash.pos file.device)
    (fun r => flash.Erased size mtd (flash.memory file.device) (r.1 = true) r.2.device ∧
      flash.pos r.2.device = flash.pos file.device)
  · rintro s s' ⟨k, hk, h, hmem, hpos⟩ hbody
    unfold eraseBody at hbody
    split at hbody
    next hi =>
      dsimp only at hbody
      split at hbody
      next hok =>
        obtain rfl := Sum.inl.inj hbody
        have hnext := h.i
        have hlt : k < eraseCount size mtd := by omega
        refine ⟨k + 1, hlt, ⟨?_, ?_, h.pos, ?_⟩, ?_, ?_⟩
        · show s.i + 1 = k + 1 + 1
          omega
        · show s.start + mtd.erasesize = _
          rw [h.start, Nat.succ_mul, UInt32.ofNat_add, UInt32.ofNat_toNat]
        · show s.file.events ++ [.erased s.start mtd.erasesize] = _
          rw [h.events, h.start, List.range_succ, List.map_append, List.append_assoc]
          rfl
        · show flash.memory (dev.memErase s.file.device s.start mtd.erasesize).2 = _
          have hblock := NorMemory.erase_erase 0 (k * mtd.erasesize.toNat) mtd.erasesize.toNat
            (flash.memory file.device)
          rw [Nat.zero_add] at hblock
          rw [flash.memErase _ _ _ hok, hmem, h.start, eraseStart_toNat hlt, hblock, Nat.succ_mul]
        · exact (flash.memErase_pos _ _ _).trans hpos
      · cases hbody
    · cases hbody
  · rintro s r ⟨k, hk, h, hmem, hpos⟩ hbody
    have hbehind : ∀ off, eraseCount size mtd * mtd.erasesize.toNat ≤ off →
        flash.memory s.file.device off = flash.memory file.device off := by
      intro off hoff
      have hle := Nat.mul_le_mul_right mtd.erasesize.toNat hk
      rw [hmem]
      exact NorMemory.erase_outside (by omega)
    unfold eraseBody at hbody
    split at hbody
    next hi =>
      dsimp only at hbody
      split at hbody
      · cases hbody
      · obtain rfl := Sum.inr.inj hbody
        have hnext := h.i
        have hlt : k < eraseCount size mtd := by omega
        refine ⟨⟨?_, fun hok => absurd hok Bool.false_ne_true⟩,
          (flash.memErase_pos _ _ _).trans hpos⟩
        intro off hoff
        have hle := Nat.mul_le_mul_right mtd.erasesize.toNat (Nat.succ_le_of_lt hlt)
        rw [Nat.succ_mul] at hle
        rw [← hbehind off hoff]
        apply flash.memErase_outside
        rw [h.start, eraseStart_toNat hlt]
        exact Or.inr (by omega)
    next hi =>
      obtain rfl := Sum.inr.inj hbody
      have hnext := h.i
      refine ⟨⟨hbehind, ?_⟩, hpos⟩
      intro _
      rw [hmem, show k = eraseCount size mtd by omega]
  · refine ⟨0, Nat.zero_le _, ⟨rfl, ?_, rfl, (List.append_nil _).symm⟩, ?_, rfl⟩
    · rw [Nat.zero_mul]
      rfl
    · rw [Nat.zero_mul, NorMemory.erase_zero]

theorem eraseFlash_memory (size : UInt32) {mtd : MtdInfo} {s : σ}
    (hmtd : (dev.memGetInfo (dev.openDevice s).2).1 = some mtd) :
    let r := eraseFlash dev size s
    flash.Erased size mtd (flash.memory s) (r.1 = 0) r.2.device ∧
      (r.1 = 0 → flash.pos r.2.device = 0) := by
  have hinfo : flash.memory (dev.memGetInfo (dev.openDevice s).2).2 = flash.memory s :=
    (flash.memGetInfo _).trans (flash.openDevice s)
  have hfailed : ∀ {ret : Int} {t : σ}, ret ≠ 0 → flash.memory t = flash.memory s →
      flash.Erased size mtd (flash.memory s) (ret = 0) t ∧ (ret = 0 → flash.pos t = 0) := by
    intro ret t hne hmem
    exact ⟨⟨fun off _ => by rw [hmem], fun h => absurd h hne⟩, fun h => absurd h hne⟩
  unfold eraseFlash
  simp only [hmtd]
  split
  case isFalse => exact hfailed (show (-1 : Int) ≠ 0 by decide) (flash.openDevice s)
  next hopen =>
    split
    case isTrue => exact hfailed (show (-2 : Int) ≠ 0 by decide) hinfo
    obtain ⟨herased, hpos⟩ :=
      flash.eraseBlocks_memory size mtd ⟨(dev.memGetInfo (dev.openDevice s).2).2, 0, []⟩
    dsimp only at herased hpos
    rw [hinfo] at herased
    have hok : ∀ {b : Bool}, (if b = true then (0 : Int) else -3) = 0 → b = true := by
      intro b
      cases b <;> decide
    refine ⟨⟨herased.outside, fun h => herased.all (hok h)⟩, ?_⟩
    intro _
    rw [hpos, flash.memGetInfo_pos]
    exact flash.openDevice_pos s hopen

/-! ## Writing -/

-- By induction on the calls: whatever they answer, the memory holds the data up to some byte behind
-- the last one moved.
theorem writeCalls_memory {file file' : OpenFile σ} {buf : List UInt8} {trace : List Attempt}
    {mem : Nat → UInt8} {base offset len K : Nat} (h : Calls (writeCall dev buf) file trace file')
    (hadvances : Transfer.Advances offset trace)
    (hasked : ∀ attempt ∈ trace, attempt.offset + attempt.len = len ∧ 0 < attempt.len)
    (hpos : flash.pos file.device = base + offset) (hoffset : offset ≤ K) (hK : K ≤ len)
    (hmem : flash.memory file.device = program base (buf.take K) mem) :
    ∃ K', offset + Transfer.moved trace ≤ K' ∧ K' ≤ len ∧
      flash.memory file'.device = program base (buf.take K') mem ∧
      flash.pos file'.device = flash.pos file.device + Transfer.moved trace := by
  induction h generalizing offset K with
  | nil file => exact ⟨K, hoffset, hK, hmem, rfl⟩
  | @cons file file' start n trace hrest ih =>
      obtain ⟨hstart, hnext⟩ := hadvances
      change start = offset at hstart
      subst hstart
      obtain ⟨hend, _⟩ := hasked _ List.mem_cons_self
      change start + n = len at hend
      obtain ⟨k, hk, hwritten⟩ := flash.write file.device (slice buf start n)
      have hmoved : ((writeCall dev buf).call file start n).1.moved ≤ n :=
        (Calls.single (writeCall dev buf) file start n).count_le _ List.mem_cons_self
      rw [hpos, hmem, NorMemory.program_again hoffset] at hwritten
      change ((writeCall dev buf).call file start n).1.moved ≤ k at hk
      have hreach : start + ((writeCall dev buf).call file start n).1.moved ≤
          max K (start + min k n) := by omega
      have hwithin : max K (start + min k n) ≤ len := by omega
      have hpos' := flash.write_pos file.device (slice buf start n)
      obtain ⟨K', hbehind, hle, hmem', hlast⟩ := ih hnext
        (fun attempt hmem => hasked attempt (List.mem_cons_of_mem _ hmem))
        (by
          rw [← Nat.add_assoc, ← hpos]
          exact hpos') hreach hwithin hwritten
      refine ⟨K', ?_, hle, hmem', ?_⟩
      · rw [Transfer.moved_cons, ← Nat.add_assoc]
        exact hbehind
      · rw [hlast, Transfer.moved_cons, ← Nat.add_assoc]
        exact congrArg (· + Transfer.moved trace) hpos'

theorem fullWrite_memory (file : OpenFile σ) (buf : List UInt8) (len : Nat) :
    let o := fullWrite dev file buf len
    ∃ K, o.ret.toNat ≤ K ∧ K ≤ len ∧
      flash.memory o.state.device =
        program (flash.pos file.device) (buf.take K) (flash.memory file.device) ∧
      flash.pos o.state.device = flash.pos file.device + o.ret.toNat := by
  intro o
  obtain ⟨hcalls, htransferred⟩ := fullWrite_spec dev file buf len
  obtain ⟨K, hle, hK, hmem, hpos⟩ := flash.writeCalls_memory hcalls htransferred.advances
    htransferred.asked (Nat.add_zero _).symm (Nat.le_refl 0) (Nat.zero_le len) (by
      rw [List.take_zero, NorMemory.program_nil])
  rw [htransferred.moved] at hle hpos
  rw [Nat.zero_add] at hle
  exact ⟨K, hle, hK, hmem, hpos⟩

-- The buffer of a chunk shows the image, and blank bytes behind it.
theorem getD_padChunk {image buf : List UInt8} {done i : Nat} (hlt : done < image.length)
    (hi : i < bufsize) :
    (padChunk (ByteMemory.write buf 0 (slice image done (chunkLength image.length done)))
      (chunkLength image.length done)).getD i blank = image.getD (done + i) blank := by
  have hlen := length_chunk rfl hlt
  have hcount := (chunkLength_le image.length done).2
  have hlast : chunkLength image.length done < bufsize →
      image.length = done + chunkLength image.length done := by
    unfold chunkLength
    split <;> omega
  have hchunk : i < chunkLength image.length done →
      (slice image done (chunkLength image.length done))[i]? = image[done + i]? := by
    intro hi
    rw [slice, List.getElem?_take, if_pos hi, List.getElem?_drop]
  rw [List.getD_eq_getElem?_getD, List.getD_eq_getElem?_getD, padChunk]
  generalize chunkLength image.length done = count at *
  generalize slice image done count = chunk at *
  have hfirst : ∀ rest : List UInt8, (chunk ++ rest)[i]? =
      if i < count then image[done + i]? else rest[i - count]? := by
    intro rest
    rw [List.getElem?_append, hlen]
    split
    next hi => exact hchunk hi
    · rfl
  have hwrite : ByteMemory.write buf 0 chunk = chunk ++ buf.drop count := by
    rw [ByteMemory.write, List.take_zero, List.nil_append, Nat.zero_add, hlen]
  rw [hwrite]
  split
  next hpad =>
    rw [ByteMemory.write, List.take_left' hlen, hfirst]
    split
    · rfl
    next hge =>
      rw [List.getElem?_append_left (by rw [List.length_replicate]; omega),
        List.getElem?_replicate, if_pos (by omega), List.getElem?_eq_none (by
          rw [hlast hpad]
          omega)]
      rfl
  next hwhole =>
    rw [hfirst, if_pos (by omega)]

/-- What the write pass makes of the memory: the image is programmed up to some byte, and behind the
    last one if no chunk fails. -/
structure Programmed (image : List UInt8) (mem : Nat → UInt8) (ok : Prop) (s : σ) : Prop where
  part : ∃ n, flash.memory s = program 0 (image.take n) mem
  all : ok → flash.memory s = program 0 image mem

-- One chunk, whatever the device answers.
theorem chunk_memory {image : List UInt8} {mem : Nat → UInt8} {done n : Nat} {file : OpenFile σ}
    (hlt : done < image.length) (hpos : flash.pos file.device = done) (hn : done ≤ n)
    (hmem : flash.memory file.device = program 0 (image.take n) mem) (buf : List UInt8) :
    let count := chunkLength image.length done
    let o := fullWrite dev file (padChunk (ByteMemory.write buf 0 (slice image done count)) count)
      bufsize
    ∃ n', done + o.ret.toNat ≤ n' ∧
      flash.memory o.state.device = program 0 (image.take n') mem ∧
      flash.pos o.state.device = done + o.ret.toNat := by
  intro count o
  obtain ⟨K, hle, hK, hmem', hpos'⟩ := flash.fullWrite_memory file
    (padChunk (ByteMemory.write buf 0 (slice image done count)) count) bufsize
  have hsame : program done ((padChunk (ByteMemory.write buf 0 (slice image done count))
      count).take K) (flash.memory file.device) =
      program done ((slice image done K).take K) (flash.memory file.device) := by
    apply NorMemory.program_congr
    intro i
    rw [NorMemory.getD_take, NorMemory.getD_take]
    split
    next hi =>
      rw [getD_padChunk hlt (by omega), NorMemory.getD_slice, if_pos hi]
    · rfl
  have hagain := @NorMemory.program_again mem 0 n image done K K hn
  rw [Nat.zero_add, Nat.min_self] at hagain
  rw [hpos] at hmem' hpos'
  refine ⟨max n (done + K), ?_, ?_, hpos'⟩
  · exact (Nat.add_le_add_left hle done).trans (Nat.le_max_right _ _)
  · exact hmem'.trans (hsame.trans (by rw [hmem, hagain]))

-- By the invariant rule: the file position is where the next chunk goes.
theorem writePass_memory (image buf buf2 : List UInt8) {file : OpenFile σ}
    (hpos : flash.pos file.device = 0) (hfile : file.pos = 0) :
    let r := copyPass dev image image.length 0 buf buf2 file
    flash.Programmed image (flash.memory file.device) (r.ret = 0) r.file.device ∧
      (r.ret = 0 ∨ r.ret = -4) ∧
      (r.ret = 0 → flash.pos r.file.device = up image.length bufsize) := by
  have hrewound : (rewind dev file).pos = 0 := by
    rw [rewind, hfile]
    exact ite_self 0
  have hpos' : flash.pos (rewind dev file).device = 0 := by
    show flash.pos (dev.lseek file.device).2 = 0
    rw [flash.lseek_pos, hpos]
    exact ite_self 0
  have hmem' : flash.memory (rewind dev file).device = flash.memory file.device :=
    flash.lseek file.device
  apply (copyPass_returns dev image image.length 0 buf buf2 file).invariant
    (fun s => WritePassInv image.length buf2 (rewind dev file) s ∧
      flash.pos s.file.device = s.file.pos ∧ ∃ n, s.done ≤ n ∧
        flash.memory s.file.device = program 0 (image.take n) (flash.memory file.device))
    (fun r => flash.Programmed image (flash.memory file.device) (r.ret = 0) r.file.device ∧
      (r.ret = 0 ∨ r.ret = -4) ∧
      (r.ret = 0 → flash.pos r.file.device = up image.length bufsize))
  · rintro s s' ⟨h, hat, n, hn, hmem⟩ hbody
    rcases Nat.lt_or_ge s.done image.length with hlt | hge
    · have hdone : flash.pos s.file.device = s.done := by
        rw [hat, h.pos, hrewound, Nat.zero_add,
          Rounding.up_of_dvd bufsize_pos (h.aligned.resolve_left (by omega))]
      obtain ⟨n', hn', hmem', hend⟩ := flash.chunk_memory hlt hdone hn hmem s.buf
      have hfilePos := (fullWrite_accepted dev s.file (padChunk (ByteMemory.write s.buf 0
        (slice image s.done (chunkLength image.length s.done))) (chunkLength image.length s.done))
        bufsize).2.2
      have hcount := (chunkLength_le image.length s.done).2
      rw [chunkBody_write dev image image.length s hlt] at hbody
      split at hbody
      · cases hbody
      next hret =>
        obtain rfl := Sum.inl.inj hbody
        rw [not_not.mp hret, Int.toNat_natCast] at hn' hend hfilePos
        refine ⟨(h.chunk dev rfl hlt).2 (not_not.mp hret), ?_, n', by dsimp only; omega, hmem'⟩
        dsimp only
        rw [hend, hfilePos, ← hat, hdone]
    · rw [chunkBody_done dev image image.length 0 s hge] at hbody
      cases hbody
  · rintro s r ⟨h, hat, n, hn, hmem⟩ hbody
    rcases Nat.lt_or_ge s.done image.length with hlt | hge
    · have hdone : flash.pos s.file.device = s.done := by
        rw [hat, h.pos, hrewound, Nat.zero_add,
          Rounding.up_of_dvd bufsize_pos (h.aligned.resolve_left (by omega))]
      obtain ⟨n', _, hmem', _⟩ := flash.chunk_memory hlt hdone hn hmem s.buf
      rw [chunkBody_write dev image image.length s hlt] at hbody
      split at hbody
      · obtain rfl := Sum.inr.inj hbody
        have hret : (-4 : Int) ≠ 0 := by decide
        exact ⟨⟨⟨n', hmem'⟩, fun h => absurd h hret⟩, Or.inr rfl, fun h => absurd h hret⟩
      · cases hbody
    · rw [chunkBody_done dev image image.length 0 s hge] at hbody
      obtain rfl := Sum.inr.inj hbody
      refine ⟨⟨⟨n, hmem⟩, ?_⟩, Or.inl rfl, ?_⟩
      · intro _
        rw [hmem, List.take_of_length_le (hge.trans hn)]
      · intro _
        show flash.pos s.file.device = _
        rw [hat, h.pos, hrewound, Nat.zero_add, Nat.le_antisymm h.done_le hge]
  · refine ⟨WritePassInv.start _ buf buf2 _, ?_, 0, Nat.le_refl 0, ?_⟩
    · exact hpos'.trans hrewound.symm
    · rw [List.take_zero, NorMemory.program_nil]
      exact hmem'

/-! ## Reading -/

theorem readCalls_memory {s s' : OpenFile σ × List UInt8} {trace : List Attempt}
    (h : Calls (readCall dev) s trace s') :
    flash.memory s'.1.device = flash.memory s.1.device := by
  induction h with
  | nil s => rfl
  | @cons s s' offset len trace _ ih => exact ih.trans (flash.read s.1.device len)

theorem xread_memory (file : OpenFile σ) (buf : List UInt8) (count : Nat) :
    flash.memory (xread dev file buf count).1.device = flash.memory file.device := by
  unfold xread
  split
  · rfl
  · exact flash.readCalls_memory (fullRead_spec dev file buf count).1

-- By the invariant rule: reading changes nothing.
theorem verifyPass_memory (image : List UInt8) (size : Nat) (buf buf2 : List UInt8)
    (file : OpenFile σ) :
    let r := copyPass dev image size 1 buf buf2 file
    flash.memory r.file.device = flash.memory file.device ∧ (r.ret = 0 ∨ r.ret = -5) := by
  apply (copyPass_returns dev image size 1 buf buf2 file).invariant
    (fun s => flash.memory s.file.device = flash.memory file.device)
    (fun r => flash.memory r.file.device = flash.memory file.device ∧ (r.ret = 0 ∨ r.ret = -5))
  · intro s s' hmem hbody
    rcases Nat.lt_or_ge s.done size with hlt | hge
    · rw [chunkBody_verify dev image size s hlt] at hbody
      split at hbody
      · cases hbody
      · rw [← Sum.inl.inj hbody]
        exact (flash.xread_memory _ _ _).trans hmem
    · rw [chunkBody_done dev image size 1 s hge] at hbody
      cases hbody
  · intro s r hmem hbody
    rcases Nat.lt_or_ge s.done size with hlt | hge
    · rw [chunkBody_verify dev image size s hlt] at hbody
      split at hbody
      · rw [← Sum.inr.inj hbody]
        exact ⟨(flash.xread_memory _ _ _).trans hmem, Or.inr rfl⟩
      · cases hbody
    · rw [chunkBody_done dev image size 1 s hge] at hbody
      rw [← Sum.inr.inj hbody]
      exact ⟨hmem, Or.inl rfl⟩
  · exact flash.lseek file.device

/-! ## The whole call -/

section WholeCall

variable {device : DeviceInfo} {image : List UInt8} {s : σ} {mtd : MtdInfo}

/-- The memory an image leaves behind: the blocks are erased, and the image is programmed. -/
def flashed (size : UInt32) (mtd : MtdInfo) (image : List UInt8) (mem : Nat → UInt8) :
    Nat → UInt8 :=
  program 0 image (erase 0 (eraseCount size mtd * mtd.erasesize.toNat) mem)

-- How a call goes that reaches the write pass.
theorem writePass_erased (h : ErasedFor dev device image s)
    (hmtd : (dev.memGetInfo (dev.openDevice s).2).1 = some mtd) (buf buf2 : List UInt8) :
    let r := writePass dev device image buf buf2 s
    flash.Programmed image (erase 0 (eraseCount device.size mtd * mtd.erasesize.toNat)
        (flash.memory s)) (r.ret = 0) r.file.device ∧
      (r.ret = 0 ∨ r.ret = -4) ∧
      (r.ret = 0 → flash.pos r.file.device = up device.size.toNat bufsize) := by
  obtain ⟨mtd', _, _, hfile, _⟩ := eraseFlash_zero dev h.erased
  obtain ⟨herased, hpos⟩ := flash.eraseFlash_memory device.size hmtd
  have hlen := device.length_buff image h.buff
  have hpass := flash.writePass_memory image buf buf2 (hpos h.erased) hfile
  rw [herased.all h.erased, hlen] at hpass
  exact hpass

theorem eraseFlash_ret (size : UInt32) (s : σ) : (eraseFlash dev size s).1 ≠ -5 := by
  unfold eraseFlash
  dsimp only
  split
  · split
    · exact show (-2 : Int) ≠ -5 by decide
    · split
      · exact show (-2 : Int) ≠ -5 by decide
      · dsimp only
        split <;> decide
  · exact show (-1 : Int) ≠ -5 by decide

-- How a call goes that does not reach the write pass.
theorem stopped_memory (h : ∀ image, ¬ ErasedFor dev device image s)
    (hmtd : (dev.memGetInfo (dev.openDevice s).2).1 = some mtd) (buf buf2 : List UInt8) :
    let r := flashcpMain dev (some device) buf buf2 s
    ¬ (r.ret = 0 ∨ r.ret = -5) ∧ ∀ off, eraseCount device.size mtd * mtd.erasesize.toNat ≤ off →
      flash.memory r.file.device off = flash.memory s off := by
  have hrefused : ¬ ((-1 : Int) = 0 ∨ (-1 : Int) = -5) := by decide
  unfold flashcpMain
  dsimp only
  split
  next name image hname hbuff =>
    split
    · exact ⟨hrefused, fun _ _ => rfl⟩
    next hsize =>
      have herased : (eraseFlash dev device.size s).1 ≠ 0 :=
        fun hzero => h image ⟨⟨name, hname⟩, hbuff, hsize, hzero⟩
      rw [if_pos herased]
      refine ⟨?_, (flash.eraseFlash_memory device.size hmtd).1.outside⟩
      rintro (hzero | hfive)
      · exact herased hzero
      · exact eraseFlash_ret device.size s hfive
  · exact ⟨hrefused, fun _ _ => rfl⟩

-- Behind the image only blank bytes are programmed.
theorem Programmed.outside {flash : NorFlash dev} {mem : Nat → UInt8} {ok : Prop} {t : σ}
    (h : flash.Programmed image mem ok t) {off : Nat} (hoff : image.length ≤ off) :
    flash.memory t off = mem off := by
  obtain ⟨n, hn⟩ := h.part
  rw [hn]
  apply NorMemory.program_outside
  rw [List.length_take]
  exact Or.inr (by omega)

theorem flashed_erased {size : UInt32} {off : Nat} {byte : UInt8} (mem : Nat → UInt8)
    (hbyte : image[off]? = some byte)
    (hoff : off < eraseCount size mtd * mtd.erasesize.toNat) :
    flashed size mtd image mem off = byte := by
  have h := @NorMemory.program_erased (erase 0 (eraseCount size mtd * mtd.erasesize.toNat) mem) 0
    image byte off
  rw [Nat.zero_add] at h
  exact h (if_pos ⟨Nat.zero_le off, by omega⟩) hbyte

variable (dev)

/-- **What a call leaves in the flash**, whatever calls fail, come short or are interrupted: bytes
    behind the image that no erased block holds never change, although the last chunk is padded; and
    if nothing fails up to the comparison, the flash holds the image where it has been erased, the
    bits the image leaves set where it has not, and blank bytes behind it. -/
theorem flash_holds_image (device : DeviceInfo) (s : σ) (mtd : MtdInfo)
    (hmtd : (dev.memGetInfo (dev.openDevice s).2).1 = some mtd) (buf buf2 : List UInt8) :
    let r := flashcpMain dev (some device) buf buf2 s
    (∀ off, device.size.toNat ≤ off → eraseCount device.size mtd * mtd.erasesize.toNat ≤ off →
      flash.memory r.file.device off = flash.memory s off) ∧
    (r.ret = 0 ∨ r.ret = -5 → ∃ image, device.buff = some image ∧
      flash.memory r.file.device = flashed device.size mtd image (flash.memory s) ∧
      ∀ off byte, image[off]? = some byte →
        off < eraseCount device.size mtd * mtd.erasesize.toNat →
          flash.memory r.file.device off = byte) := by
  intro r
  by_cases hreached : ∃ image, ErasedFor dev device image s
  · obtain ⟨image, h⟩ := hreached
    obtain ⟨hwritten, hret, _⟩ := flash.writePass_erased h hmtd buf buf2
    have hlen := device.length_buff image h.buff
    have houtside : ∀ off, device.size.toNat ≤ off →
        eraseCount device.size mtd * mtd.erasesize.toNat ≤ off →
          flash.memory (writePass dev device image buf buf2 s).file.device off =
            flash.memory s off := by
      intro off hsize herased
      rw [hwritten.outside (by omega)]
      exact NorMemory.erase_outside (by omega)
    have hr : r = if (writePass dev device image buf buf2 s).ret ≠ 0 then
        writePass dev device image buf buf2 s else verifyPass dev device image buf buf2 s :=
      flashcpMain_erased dev h buf buf2
    by_cases hzero : (writePass dev device image buf buf2 s).ret = 0
    · obtain ⟨hmem, _⟩ := flash.verifyPass_memory image device.size.toNat
        (writePass dev device image buf buf2 s).buf (writePass dev device image buf buf2 s).buf2
        (writePass dev device image buf buf2 s).file
      rw [if_neg (not_not.mpr hzero)] at hr
      have hsame : flash.memory r.file.device =
          flash.memory (writePass dev device image buf buf2 s).file.device := by
        rw [hr]
        exact hmem
      rw [hsame]
      refine ⟨houtside, fun _ => ⟨image, h.buff, hwritten.all hzero, ?_⟩⟩
      intro off byte hbyte hoff
      rw [hwritten.all hzero]
      exact flashed_erased _ hbyte hoff
    · rw [if_pos hzero] at hr
      rw [hr]
      refine ⟨houtside, ?_⟩
      rintro (h0 | h5)
      · exact absurd h0 hzero
      · rw [h5] at hret
        exact absurd hret (by decide)
  · obtain ⟨hfails, houtside⟩ := flash.stopped_memory (fun image h => hreached ⟨image, h⟩) hmtd
      buf buf2
    exact ⟨fun off _ => houtside off, fun hret => absurd hret hfails⟩

end WholeCall

end NorFlash

/-- A flash of zeros of 1 MiB, and an image of one byte, which is a zero too. -/
theorem flash_holds_image_zero :
    let s : SignalledState := ⟨fun _ => 0, 0, true⟩
    let r := flashcpMain (signalledDevice chunkBlocks) (some (zeroImage 1)) [] [] s
    (∀ off, 0x10000 ≤ off → (signalledFlash chunkBlocks).memory r.file.device off = 0) ∧
      (r.ret = 0 → (signalledFlash chunkBlocks).memory r.file.device 0 = 0) := by
  intro s
  have hleft := NorFlash.flash_holds_image (signalledDevice chunkBlocks)
    (signalledFlash chunkBlocks) (zeroImage 1) s chunkBlocks rfl [] []
  have hcount : eraseCount (zeroImage 1).size chunkBlocks * chunkBlocks.erasesize.toNat =
      0x10000 := by decide
  have hone : (zeroImage 1).size.toNat = 1 := rfl
  dsimp only at hleft ⊢
  rw [hcount, hone] at hleft
  generalize flashcpMain (signalledDevice chunkBlocks) (some (zeroImage 1)) [] [] s = r at hleft ⊢
  obtain ⟨houtside, hheld⟩ := hleft
  constructor
  · intro off hoff
    rw [houtside off (by omega) hoff]
    rfl
  · intro hret
    obtain ⟨image, hbuff, _, hat⟩ := hheld (Or.inl hret)
    obtain rfl := Option.some.inj hbuff
    exact hat 0 0 rfl (by decide)

end CanGateway
