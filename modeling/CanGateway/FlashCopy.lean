import CanGateway.FlashTransfer

/-!
# Programming the flash

`flashcp_main` erases the blocks an image needs, writes the image in chunks of 64 KiB, the last one
padded with 0xff, and reads it back chunk by chunk for comparison.
-/

open ByteMemory
open Transfer (Attempt)

namespace CanGateway

/-- `BUFSIZE`. -/
def bufsize : Nat := 65536

/-- `device_info_t`; `buff` points to `size` bytes. -/
structure DeviceInfo where
  devicename : Option String
  size : UInt32
  buff : Option (List UInt8)
  length_buff : ∀ image, buff = some image → image.length = size.toNat

/-! ## Erasing -/

/-- `(uoff_t)(info->size + mtd.erasesize - 1) / mtd.erasesize`: the sum has 32 bits. -/
def eraseCount (size : UInt32) (mtd : MtdInfo) : Nat :=
  (size + mtd.erasesize - 1).toNat / mtd.erasesize.toNat

/-- The variables of the erase loop; `start` is `e.start`. -/
structure EraseState (σ : Type) where
  i : Nat
  start : UInt32
  file : OpenFile σ

/-- The variables of the loop over the chunks. -/
structure ChunkState (σ : Type) where
  done : Nat
  buf : List UInt8
  buf2 : List UInt8
  file : OpenFile σ

/-- The value returned, the static buffers and the device. -/
structure FlashResult (σ : Type) where
  ret : Int
  buf : List UInt8
  buf2 : List UInt8
  file : OpenFile σ

section Source

variable {σ : Type} (dev : MtdDevice σ)

def eraseBody (size : UInt32) (mtd : MtdInfo) (s : EraseState σ) :
    EraseState σ ⊕ (Bool × OpenFile σ) :=
  if s.i ≤ eraseCount size mtd then
    let r := dev.memErase s.file.device s.start mtd.erasesize
    if r.1 then
      .inl
        { i := s.i + 1
          start := s.start + mtd.erasesize
          file := { s.file with
            device := r.2
            events := s.file.events ++ [.erased s.start mtd.erasesize] } }
    else .inr (false, { s.file with device := r.2 })
  else .inr (true, s.file)

theorem eraseBody_decreases (size : UInt32) (mtd : MtdInfo) (s s' : EraseState σ)
    (h : eraseBody dev size mtd s = .inl s') :
    eraseCount size mtd + 1 - s'.i < eraseCount size mtd + 1 - s.i := by
  unfold eraseBody at h
  split at h
  next hi =>
    dsimp only at h
    split at h
    · obtain rfl := Sum.inl.inj h
      show eraseCount size mtd + 1 - (s.i + 1) < eraseCount size mtd + 1 - s.i
      omega
    · cases h
  · cases h

/-- Whether all blocks are erased, and the device. -/
def eraseBlocks (size : UInt32) (mtd : MtdInfo) (file : OpenFile σ) : Bool × OpenFile σ :=
  Loop.eval (eraseBody dev size mtd) (fun s => eraseCount size mtd + 1 - s.i)
    (eraseBody_decreases dev size mtd) ⟨1, 0, file⟩

-- The erase loop terminates.
theorem eraseBlocks_returns (size : UInt32) (mtd : MtdInfo) (file : OpenFile σ) :
    Loop.Returns (eraseBody dev size mtd) ⟨1, 0, file⟩ (eraseBlocks dev size mtd file) :=
  Loop.eval_returns _

/-- The steps up to the end of the erase loop; 0 if none of them fails. -/
def eraseFlash (size : UInt32) (s : σ) : Int × OpenFile σ :=
  let opened := dev.openDevice s
  if opened.1 then
    let info := dev.memGetInfo opened.2
    match info.1 with
    | none => (-2, ⟨info.2, 0, []⟩)
    | some mtd =>
        if size > mtd.size then (-2, ⟨info.2, 0, []⟩)
        else
          let erased := eraseBlocks dev size mtd ⟨info.2, 0, []⟩
          (if erased.1 then 0 else -3, erased.2)
  else (-1, ⟨opened.2, 0, []⟩)

/-! ## Writing and verifying -/

/-- `count` of a chunk: `bufsize` up to the last one. -/
def chunkLength (size done : Nat) : Nat := if size - done < bufsize then size - done else bufsize

/-- The buffer handed to `full_write`: the chunk, padded with 0xff. -/
def padChunk (buf : List UInt8) (count : Nat) : List UInt8 :=
  if count < bufsize then write buf count (List.replicate (bufsize - count) 0xff) else buf

/-- The body of the `while` loop in pass `i`: 0 writes, 1 verifies. -/
def chunkBody (image : List UInt8) (size i : Nat) (s : ChunkState σ) :
    ChunkState σ ⊕ FlashResult σ :=
  let rem := size - s.done
  if rem = 0 then .inr ⟨0, s.buf, s.buf2, s.file⟩
  else
    let count := chunkLength size s.done
    let buf := write s.buf 0 (slice image s.done count)
    if i = 0 then
      let buf := padChunk buf count
      let o := fullWrite dev s.file buf bufsize
      if o.ret ≠ bufsize then .inr ⟨-4, buf, s.buf2, o.state⟩
      else .inl ⟨s.done + count, buf, s.buf2, o.state⟩
    else
      let r := xread dev s.file s.buf2 count
      if buf.take count ≠ r.2.take count then .inr ⟨-5, buf, r.2, r.1⟩
      else .inl ⟨s.done + count, buf, r.2, r.1⟩

theorem chunkLength_pos {size done : Nat} (h : done < size) : 0 < chunkLength size done := by
  have hpos : 0 < bufsize := by decide
  rw [chunkLength]
  split <;> omega

theorem chunkLength_le (size done : Nat) :
    chunkLength size done ≤ size - done ∧ chunkLength size done ≤ bufsize := by
  rw [chunkLength]
  split <;> omega

-- Everything one iteration of the write pass can do.
theorem chunkBody_write (image : List UInt8) (size : Nat) (s : ChunkState σ) (h : s.done < size) :
    let count := chunkLength size s.done
    let buf := padChunk (write s.buf 0 (slice image s.done count)) count
    let o := fullWrite dev s.file buf bufsize
    chunkBody dev image size 0 s =
      if o.ret ≠ bufsize then .inr ⟨-4, buf, s.buf2, o.state⟩
      else .inl ⟨s.done + count, buf, s.buf2, o.state⟩ := by
  have hrem : ¬ size - s.done = 0 := by omega
  rw [chunkBody]
  dsimp only
  rw [if_neg hrem, if_pos rfl]

-- Everything one iteration of the verify pass can do.
theorem chunkBody_verify (image : List UInt8) (size : Nat) (s : ChunkState σ) (h : s.done < size) :
    let count := chunkLength size s.done
    let buf := write s.buf 0 (slice image s.done count)
    let r := xread dev s.file s.buf2 count
    chunkBody dev image size 1 s =
      if buf.take count ≠ r.2.take count then .inr ⟨-5, buf, r.2, r.1⟩
      else .inl ⟨s.done + count, buf, r.2, r.1⟩ := by
  have hrem : ¬ size - s.done = 0 := by omega
  rw [chunkBody]
  dsimp only
  rw [if_neg hrem, if_neg Nat.one_ne_zero]

theorem chunkBody_done (image : List UInt8) (size i : Nat) (s : ChunkState σ) (h : size ≤ s.done) :
    chunkBody dev image size i s = .inr ⟨0, s.buf, s.buf2, s.file⟩ := by
  rw [chunkBody]
  dsimp only
  rw [if_pos (Nat.sub_eq_zero_of_le h)]

theorem chunkBody_decreases (image : List UInt8) (size i : Nat) (s s' : ChunkState σ)
    (h : chunkBody dev image size i s = .inl s') : size - s'.done < size - s.done := by
  unfold chunkBody at h
  dsimp only at h
  split at h
  · cases h
  next hrem =>
    have hpos := chunkLength_pos (show s.done < size by omega)
    have hnext : s'.done = s.done + chunkLength size s.done := by
      split at h
      · split at h
        · cases h
        · rw [← Sum.inl.inj h]
      · split at h
        · cases h
        · rw [← Sum.inl.inj h]
    omega

/-- Where pass `i` starts reading or writing: the start of the device, if `lseek` succeeds. -/
def rewind (file : OpenFile σ) : OpenFile σ :=
  let r := dev.lseek file.device
  { file with
    device := r.2
    pos := if r.1 then 0 else file.pos }

/-- Pass `i` over the chunks of the image. -/
def copyPass (image : List UInt8) (size i : Nat) (buf buf2 : List UInt8) (file : OpenFile σ) :
    FlashResult σ :=
  Loop.eval (chunkBody dev image size i) (fun s => size - s.done)
    (chunkBody_decreases dev image size i) ⟨0, buf, buf2, rewind dev file⟩

-- The loop of a pass terminates.
theorem copyPass_returns (image : List UInt8) (size i : Nat) (buf buf2 : List UInt8)
    (file : OpenFile σ) :
    Loop.Returns (chunkBody dev image size i) ⟨0, buf, buf2, rewind dev file⟩
      (copyPass dev image size i buf buf2 file) := Loop.eval_returns _

/-- One call; `buf` and `buf2` are the static buffers as the call before has left them. -/
def flashcpMain (info : Option DeviceInfo) (buf buf2 : List UInt8) (s : σ) : FlashResult σ :=
  match info with
  | none => ⟨-1, buf, buf2, ⟨s, 0, []⟩⟩
  | some info =>
      match info.devicename, info.buff with
      | some _, some image =>
          if info.size = 0 then ⟨-1, buf, buf2, ⟨s, 0, []⟩⟩
          else
            let erased := eraseFlash dev info.size s
            if erased.1 ≠ 0 then ⟨erased.1, buf, buf2, erased.2⟩
            else
              let written := copyPass dev image info.size.toNat 0 buf buf2 erased.2
              if written.ret ≠ 0 then written
              else copyPass dev image info.size.toNat 1 written.buf written.buf2 written.file
      | _, _ => ⟨-1, buf, buf2, ⟨s, 0, []⟩⟩

/-! ## What the erase loop leaves behind -/

/-- The `k`-th block, as the loop erases it. -/
def eraseEvent (mtd : MtdInfo) (k : Nat) : FlashEvent :=
  .erased (UInt32.ofNat (k * mtd.erasesize.toNat)) mtd.erasesize

/-- The invariant of the erase loop after `k` blocks. -/
structure ErasedTo (mtd : MtdInfo) (file : OpenFile σ) (k : Nat) (s : EraseState σ) : Prop where
  i : s.i = k + 1
  start : s.start = UInt32.ofNat (k * mtd.erasesize.toNat)
  pos : s.file.pos = file.pos
  events : s.file.events = file.events ++ (List.range k).map (eraseEvent mtd)

/-- What the loop comes to: the first `n` blocks are erased, all of them if it succeeds. -/
structure ErasedBlocks (size : UInt32) (mtd : MtdInfo) (file : OpenFile σ) (n : Nat)
    (r : Bool × OpenFile σ) : Prop where
  pos : r.2.pos = file.pos
  events : r.2.events = file.events ++ (List.range n).map (eraseEvent mtd)
  all : r.1 = true → n = eraseCount size mtd

theorem eraseBlocks_spec (size : UInt32) (mtd : MtdInfo) (file : OpenFile σ) :
    ∃ n, ErasedBlocks size mtd file n (eraseBlocks dev size mtd file) := by
  apply (eraseBlocks_returns dev size mtd file).invariant
    (fun s => ∃ k ≤ eraseCount size mtd, ErasedTo mtd file k s)
    (fun r => ∃ n, ErasedBlocks size mtd file n r)
  · rintro s s' ⟨k, hk, h⟩ hbody
    unfold eraseBody at hbody
    split at hbody
    next hi =>
      dsimp only at hbody
      split at hbody
      · obtain rfl := Sum.inl.inj hbody
        have hnext := h.i
        refine ⟨k + 1, by omega, ?_, ?_, h.pos, ?_⟩
        · show s.i + 1 = k + 1 + 1
          omega
        · show s.start + mtd.erasesize = _
          rw [h.start, Nat.succ_mul, UInt32.ofNat_add, UInt32.ofNat_toNat]
        · show s.file.events ++ [.erased s.start mtd.erasesize] = _
          rw [h.events, h.start, List.range_succ, List.map_append, List.append_assoc]
          rfl
      · cases hbody
    · cases hbody
  · rintro s r ⟨k, hk, h⟩ hbody
    unfold eraseBody at hbody
    split at hbody
    · dsimp only at hbody
      split at hbody
      · cases hbody
      · obtain rfl := Sum.inr.inj hbody
        exact ⟨k, h.pos, h.events, fun hok => absurd hok Bool.false_ne_true⟩
    next hi =>
      obtain rfl := Sum.inr.inj hbody
      have hnext := h.i
      exact ⟨k, h.pos, h.events, fun _ => by omega⟩
  · refine ⟨0, Nat.zero_le _, rfl, ?_, rfl, (List.append_nil _).symm⟩
    rw [Nat.zero_mul]
    rfl

-- Without a failure the device is one that holds the image, and all its blocks are erased.
theorem eraseFlash_zero {size : UInt32} {s : σ} (h : (eraseFlash dev size s).1 = 0) :
    ∃ mtd, (dev.memGetInfo (dev.openDevice s).2).1 = some mtd ∧ size ≤ mtd.size ∧
      (eraseFlash dev size s).2.pos = 0 ∧
        (eraseFlash dev size s).2.events =
          (List.range (eraseCount size mtd)).map (eraseEvent mtd) := by
  revert h
  unfold eraseFlash
  dsimp only
  split
  · split
    · intro h
      exact absurd h (show (-2 : Int) ≠ 0 by decide)
    next mtd hinfo =>
      split
      · intro h
        exact absurd h (show (-2 : Int) ≠ 0 by decide)
      next hsize =>
        intro h
        obtain ⟨n, hpos, hevents, hall⟩ :=
          eraseBlocks_spec dev size mtd ⟨(dev.memGetInfo (dev.openDevice s).2).2, 0, []⟩
        have hok : (eraseBlocks dev size mtd
            ⟨(dev.memGetInfo (dev.openDevice s).2).2, 0, []⟩).1 = true := by
          by_contra hfailed
          rw [if_neg hfailed] at h
          exact absurd h (show (-3 : Int) ≠ 0 by decide)
        refine ⟨mtd, hinfo, ?_, hpos, ?_⟩
        · rw [gt_iff_lt, UInt32.lt_iff_toNat_lt] at hsize
          rw [UInt32.le_iff_toNat_le]
          omega
        · rw [hevents, hall hok]
          rfl
  · intro h
    exact absurd h (show (-1 : Int) ≠ 0 by decide)

theorem eraseFlash_opened {size : UInt32} {mtd : MtdInfo} {s : σ}
    (hopen : (dev.openDevice s).1 = true)
    (hinfo : (dev.memGetInfo (dev.openDevice s).2).1 = some mtd) (hle : size ≤ mtd.size) :
    (eraseFlash dev size s).1 =
      if (eraseBlocks dev size mtd ⟨(dev.memGetInfo (dev.openDevice s).2).2, 0, []⟩).1 then 0
      else -3 := by
  have hfits : ¬ size > mtd.size := by
    rw [UInt32.le_iff_toNat_le] at hle
    rw [gt_iff_lt, UInt32.lt_iff_toNat_lt]
    omega
  unfold eraseFlash
  simp only [hinfo]
  rw [if_pos hopen, if_neg hfits]

-- Nothing but blocks erased happens before the write pass.
theorem eraseFlash_events (size : UInt32) (s : σ) :
    ∀ event ∈ (eraseFlash dev size s).2.events, ∃ start length, event = .erased start length := by
  have hnone : ∀ event ∈ ([] : List FlashEvent), ∃ start length,
      event = FlashEvent.erased start length := fun _ hmem => absurd hmem List.not_mem_nil
  unfold eraseFlash
  dsimp only
  split
  · split
    · exact hnone
    next mtd _ =>
      split
      · exact hnone
      · obtain ⟨n, _, hevents, _⟩ :=
          eraseBlocks_spec dev size mtd ⟨(dev.memGetInfo (dev.openDevice s).2).2, 0, []⟩
        intro event hmem
        rw [hevents] at hmem
        obtain ⟨k, _, rfl⟩ := List.mem_map.mp hmem
        exact ⟨_, _, rfl⟩
  · exact hnone

/-! ## Reaching the write pass -/

/-- The arguments are accepted and no block fails to be erased. -/
structure ErasedFor (device : DeviceInfo) (image : List UInt8) (s : σ) : Prop where
  devicename : ∃ name, device.devicename = some name
  buff : device.buff = some image
  size : device.size ≠ 0
  erased : (eraseFlash dev device.size s).1 = 0

/-- The write pass of a call. -/
def writePass (device : DeviceInfo) (image buf buf2 : List UInt8) (s : σ) : FlashResult σ :=
  copyPass dev image device.size.toNat 0 buf buf2 (eraseFlash dev device.size s).2

/-- The verify pass of a call. -/
def verifyPass (device : DeviceInfo) (image buf buf2 : List UInt8) (s : σ) : FlashResult σ :=
  let written := writePass dev device image buf buf2 s
  copyPass dev image device.size.toNat 1 written.buf written.buf2 written.file

theorem flashcpMain_erased {device : DeviceInfo} {image : List UInt8} {s : σ}
    (h : ErasedFor dev device image s) (buf buf2 : List UInt8) :
    flashcpMain dev (some device) buf buf2 s =
      if (writePass dev device image buf buf2 s).ret ≠ 0 then writePass dev device image buf buf2 s
      else verifyPass dev device image buf buf2 s := by
  obtain ⟨name, hname⟩ := h.devicename
  unfold flashcpMain
  simp only [hname, h.buff]
  rw [if_neg h.size, if_neg (not_not.mpr h.erased)]
  rfl

-- Otherwise nothing is written, and the call fails.
theorem flashcpMain_stopped {info : Option DeviceInfo} {s : σ}
    (h : ∀ device image, info = some device → ¬ ErasedFor dev device image s)
    (buf buf2 : List UInt8) :
    (flashcpMain dev info buf buf2 s).ret ≠ 0 ∧
      ∀ event ∈ (flashcpMain dev info buf buf2 s).file.events,
        ∃ start length, event = .erased start length := by
  have hrefused : (-1 : Int) ≠ 0 ∧ ∀ event ∈ ([] : List FlashEvent),
      ∃ start length, event = .erased start length :=
    ⟨by decide, fun _ hmem => absurd hmem List.not_mem_nil⟩
  unfold flashcpMain
  split
  · exact hrefused
  next device =>
    split
    next name image hname hbuff =>
      split
      · exact hrefused
      next hsize =>
        dsimp only
        have herased : (eraseFlash dev device.size s).1 ≠ 0 :=
          fun hzero => h device image rfl ⟨⟨name, hname⟩, hbuff, hsize, hzero⟩
        rw [if_pos herased]
        exact ⟨herased, eraseFlash_events dev device.size s⟩
    · exact hrefused

end Source

end CanGateway
