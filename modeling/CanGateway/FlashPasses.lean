import CanGateway.FlashCopy
import CanGateway.Library.Rounding

/-!
# The write pass and the verify pass

What the two passes over the chunks leave behind.  The write pass asks for whole chunks, one behind
the other; the verify pass returns 0 exactly if the buffer shows every chunk of the image once it
has been read into.
-/

open ByteMemory
open Rounding (up)

namespace CanGateway

theorem bufsize_pos : 0 < bufsize := by decide

/-- Something is handed to `write`, and it ends at `stop`. -/
def FlashEvent.WritesTo (stop : Nat) (event : FlashEvent) : Prop :=
  ∃ pos data result, event = .wrote pos data result ∧ 0 < data.length ∧ pos + data.length = stop

section WritePass

variable {σ : Type} (dev : MtdDevice σ)

-- Every call `full_write` makes for a chunk asks for the rest of it.
theorem fullWrite_chunk (file : OpenFile σ) {buf : List UInt8} (hlen : bufsize ≤ buf.length) :
    let o := fullWrite dev file buf bufsize
    ∃ calls, o.state.events = file.events ++ calls ∧
      (∀ event ∈ calls, event.WritesTo (file.pos + bufsize)) ∧
        (o.ret = bufsize → o.state.pos = file.pos + bufsize ∧ calls ≠ []) := by
  intro o
  obtain ⟨hevents, _, hpos⟩ := fullWrite_accepted dev file buf bufsize
  have htransferred := (fullWrite_spec dev file buf bufsize).2
  refine ⟨_, hevents, ?_, ?_⟩
  · intro event hmem
    obtain ⟨attempt, hattempt, rfl⟩ := List.mem_map.mp hmem
    obtain ⟨hend, hlenpos⟩ := htransferred.asked attempt hattempt
    have hslice : (slice buf attempt.offset attempt.len).length = attempt.len :=
      length_slice _ _ _ (by omega)
    exact ⟨_, _, _, rfl, by omega, by omega⟩
  · intro hret
    have hret' : (fullWrite dev file buf bufsize).ret = bufsize := hret
    refine ⟨?_, ?_⟩
    · rw [hpos, hret', Int.toNat_natCast]
    · intro hnil
      have hmoved := htransferred.moved
      rw [List.map_eq_nil_iff.mp hnil, hret', Int.toNat_natCast] at hmoved
      exact absurd hmoved.symm (by decide)

-- The buffer handed to `full_write` is filled up, whatever was in it.
theorem length_padChunk {buf chunk : List UInt8} (hle : chunk.length ≤ bufsize) :
    bufsize ≤ (padChunk (write buf 0 chunk) chunk.length).length := by
  have hfirst : chunk.length ≤ (write buf 0 chunk).length := by
    simp only [write, List.take_zero, List.nil_append, List.length_append, List.length_drop]
    omega
  rw [padChunk]
  split
  · simp only [write, List.length_append, List.length_take, List.length_replicate,
      List.length_drop] at hfirst ⊢
    omega
  · omega

variable {image : List UInt8} {size : Nat}

theorem length_chunk (himage : image.length = size) {done : Nat} (hlt : done < size) :
    (slice image done (chunkLength size done)).length = chunkLength size done := by
  have hle := (chunkLength_le size done).1
  exact length_slice _ _ _ (by rw [himage]; omega)

-- Only the last chunk is not a whole one.
theorem chunkLength_aligned {size done : Nat} (hdvd : bufsize ∣ done) (hlt : done < size) :
    done + chunkLength size done = size ∨ bufsize ∣ done + chunkLength size done := by
  rw [chunkLength]
  split
  next hlast =>
    left
    omega
  next hwhole => exact Or.inr (Nat.dvd_add hdvd (Nat.dvd_refl bufsize))

theorem length_chunkBuffer (himage : image.length = size) {done : Nat} (hlt : done < size)
    (buf : List UInt8) :
    bufsize ≤ (padChunk (write buf 0 (slice image done (chunkLength size done)))
      (chunkLength size done)).length := by
  have hslice := length_chunk himage hlt
  have hpad := @length_padChunk buf (slice image done (chunkLength size done))
    (by rw [hslice]; exact (chunkLength_le size done).2)
  rw [hslice] at hpad
  exact hpad

/-- The invariant of the write pass: what is behind it are whole chunks, up to the last one. -/
structure WritePassInv (size : Nat) (buf2 : List UInt8) (file : OpenFile σ) (s : ChunkState σ) :
    Prop where
  buf2 : s.buf2 = buf2
  done_le : s.done ≤ size
  aligned : s.done = size ∨ bufsize ∣ s.done
  pos : s.file.pos = file.pos + up s.done bufsize
  calls : ∃ calls, s.file.events = file.events ++ calls ∧
    (∀ event ∈ calls, ∃ stop ≤ file.pos + up size bufsize, event.WritesTo stop) ∧
      (0 < s.done → ∃ event ∈ calls, event.WritesTo s.file.pos)

/-- What the write pass comes to. -/
structure WritePassed (size : Nat) (buf2 : List UInt8) (file : OpenFile σ) (r : FlashResult σ) :
    Prop where
  buf2 : r.buf2 = buf2
  calls : ∃ calls, r.file.events = file.events ++ calls ∧
    (∀ event ∈ calls, ∃ stop ≤ file.pos + up size bufsize, event.WritesTo stop) ∧
      (r.ret = 0 → 0 < size → ∃ event ∈ calls, event.WritesTo r.file.pos)
  pos : r.ret = 0 → r.file.pos = file.pos + up size bufsize

theorem WritePassInv.start (size : Nat) (buf buf2 : List UInt8) (file : OpenFile σ) :
    WritePassInv size buf2 file ⟨0, buf, buf2, file⟩ := by
  refine ⟨rfl, Nat.zero_le _, Or.inr (Nat.dvd_zero _), ?_, [], (List.append_nil _).symm, ?_, ?_⟩
  · rw [Rounding.up_of_dvd bufsize_pos (Nat.dvd_zero _)]
    rfl
  · exact fun _ hmem => absurd hmem List.not_mem_nil
  · exact fun hpos => absurd hpos (Nat.lt_irrefl 0)

-- One chunk, written in full or not.
theorem WritePassInv.chunk (himage : image.length = size) {buf2 : List UInt8} {file : OpenFile σ}
    {s : ChunkState σ} (h : WritePassInv size buf2 file s) (hlt : s.done < size) :
    let count := chunkLength size s.done
    let buf := padChunk (write s.buf 0 (slice image s.done count)) count
    let o := fullWrite dev s.file buf bufsize
    (∃ calls, o.state.events = file.events ++ calls ∧
      ∀ event ∈ calls, ∃ stop ≤ file.pos + up size bufsize, event.WritesTo stop) ∧
      (o.ret = bufsize → WritePassInv size buf2 file ⟨s.done + count, buf, s.buf2, o.state⟩) := by
  intro count buf o
  have hpos := chunkLength_pos hlt
  obtain ⟨hcount, hcount'⟩ := chunkLength_le size s.done
  have hdvd : bufsize ∣ s.done := h.aligned.resolve_left (by omega)
  obtain ⟨calls, hevents, hcalls, hall⟩ :=
    fullWrite_chunk dev s.file (length_chunkBuffer himage hlt s.buf)
  obtain ⟨before, hbefore, hbound, _⟩ := h.calls
  have hstart : s.file.pos = file.pos + s.done := by
    rw [h.pos, Rounding.up_of_dvd bufsize_pos hdvd]
  have hnext : up (s.done + count) bufsize = s.done + bufsize :=
    Rounding.up_add bufsize_pos hdvd hpos hcount'
  have hstop : s.file.pos + bufsize ≤ file.pos + up size bufsize := by
    have hmono := Rounding.up_mono bufsize_pos (show s.done + count ≤ size by omega)
    rw [hnext] at hmono
    omega
  have hevents' : o.state.events = file.events ++ (before ++ calls) := by
    rw [hevents, hbefore, List.append_assoc]
  have hwithin : ∀ event ∈ before ++ calls,
      ∃ stop ≤ file.pos + up size bufsize, event.WritesTo stop := by
    intro event hmem
    rcases List.mem_append.mp hmem with hmem | hmem
    · exact hbound event hmem
    · exact ⟨_, hstop, hcalls event hmem⟩
  refine ⟨⟨_, hevents', hwithin⟩, ?_⟩
  intro hret
  obtain ⟨hmoved, hne⟩ := hall hret
  have hmoved' : o.state.pos = s.file.pos + bufsize := hmoved
  refine ⟨h.buf2, ?_, chunkLength_aligned hdvd hlt, ?_, _, hevents', hwithin, ?_⟩
  · show s.done + count ≤ size
    omega
  · show o.state.pos = file.pos + up (s.done + count) bufsize
    rw [hnext, hmoved']
    omega
  · intro _
    obtain ⟨event, hmem⟩ := List.exists_mem_of_ne_nil calls hne
    refine ⟨event, List.mem_append_right before hmem, ?_⟩
    show event.WritesTo o.state.pos
    rw [hmoved']
    exact hcalls event hmem

-- By the invariant rule.
theorem copyPass_write (himage : image.length = size) (buf buf2 : List UInt8)
    (file : OpenFile σ) :
    WritePassed size buf2 (rewind dev file) (copyPass dev image size 0 buf buf2 file) := by
  apply (copyPass_returns dev image size 0 buf buf2 file).invariant
    (WritePassInv size buf2 (rewind dev file))
    (WritePassed size buf2 (rewind dev file))
  · intro s s' h hbody
    rcases Nat.lt_or_ge s.done size with hlt | hge
    · rw [chunkBody_write dev image size s hlt] at hbody
      split at hbody
      · cases hbody
      next hret =>
        obtain rfl := Sum.inl.inj hbody
        exact (h.chunk dev himage hlt).2 (not_not.mp hret)
    · rw [chunkBody_done dev image size 0 s hge] at hbody
      cases hbody
  · intro s r h hbody
    rcases Nat.lt_or_ge s.done size with hlt | hge
    · rw [chunkBody_write dev image size s hlt] at hbody
      split at hbody
      · obtain rfl := Sum.inr.inj hbody
        obtain ⟨calls, hevents, hwithin⟩ := (h.chunk dev himage hlt).1
        have hret : (-4 : Int) ≠ 0 := by decide
        exact ⟨h.buf2, ⟨calls, hevents, hwithin, fun hzero => absurd hzero hret⟩,
          fun hzero => absurd hzero hret⟩
      · cases hbody
    · rw [chunkBody_done dev image size 0 s hge] at hbody
      obtain rfl := Sum.inr.inj hbody
      have hdone : s.done = size := Nat.le_antisymm h.done_le hge
      have hpos := h.pos
      obtain ⟨calls, hevents, hwithin, hlast⟩ := h.calls
      rw [hdone] at hpos hlast
      exact ⟨h.buf2, ⟨calls, hevents, hwithin, fun _ => hlast⟩, fun _ => hpos⟩
  · exact WritePassInv.start size buf buf2 (rewind dev file)

/-! ## What the device takes -/

theorem fullWrite_taken (file : OpenFile σ) {buf : List UInt8} (hlen : bufsize ≤ buf.length) :
    let o := fullWrite dev file buf bufsize
    (accepted o.state.events).length = (accepted file.events).length + o.ret.toNat ∧
      o.state.pos = file.pos + o.ret.toNat := by
  intro o
  obtain ⟨hevents, htaken, hpos⟩ := fullWrite_accepted dev file buf bufsize
  have hrange : -1 ≤ o.ret ∧ o.ret ≤ bufsize := (fullWrite_spec dev file buf bufsize).2.ret_range
  have hbytes : accepted o.state.events = accepted file.events ++ buf.take o.ret.toNat := by
    rw [hevents, ← htaken]
    exact List.flatMap_append
  refine ⟨?_, hpos⟩
  rw [hbytes, List.length_append, List.length_take, Nat.min_eq_left (by omega)]

-- What the device has not taken of a chunk is missing in the end.
theorem WritePassInv.short {buf2 : List UInt8} {file : OpenFile σ} {s : ChunkState σ}
    (h : WritePassInv size buf2 file s) (hlt : s.done < size) {buf : List UInt8}
    (hlen : bufsize ≤ buf.length) (hret : (fullWrite dev s.file buf bufsize).ret ≠ bufsize) :
    (fullWrite dev s.file buf bufsize).state.pos < file.pos + up size bufsize := by
  have hpos := bufsize_pos
  have hrange := (fullWrite_spec dev s.file buf bufsize).2.ret_range
  have hdvd : bufsize ∣ s.done := h.aligned.resolve_left (by omega)
  obtain ⟨hcount, hcount'⟩ := chunkLength_le size s.done
  have hnext := Rounding.up_add bufsize_pos hdvd (chunkLength_pos hlt) hcount'
  have hmono := Rounding.up_mono bufsize_pos (show s.done + chunkLength size s.done ≤ size by omega)
  rw [(fullWrite_taken dev s.file hlen).2, h.pos, Rounding.up_of_dvd bufsize_pos hdvd]
  omega

-- By the invariant rule: the pass succeeds exactly if the device takes every chunk in full.
theorem copyPass_taken (himage : image.length = size) (buf buf2 : List UInt8)
    (file : OpenFile σ) :
    let r := copyPass dev image size 0 buf buf2 file
    r.ret = 0 ↔
      (accepted r.file.events).length = (accepted file.events).length + up size bufsize := by
  let start := rewind dev file
  apply (copyPass_returns dev image size 0 buf buf2 file).invariant
    (fun s => WritePassInv size buf2 start s ∧
      (accepted s.file.events).length + start.pos = (accepted file.events).length + s.file.pos)
    (fun r => r.ret = 0 ↔
      (accepted r.file.events).length = (accepted file.events).length + up size bufsize)
  · rintro s s' ⟨h, htaken⟩ hbody
    rcases Nat.lt_or_ge s.done size with hlt | hge
    · have hchunk := (h.chunk dev himage hlt).2
      obtain ⟨hlength, hpos⟩ := fullWrite_taken dev s.file (length_chunkBuffer himage hlt s.buf)
      rw [chunkBody_write dev image size s hlt] at hbody
      split at hbody
      · cases hbody
      next hret =>
        obtain rfl := Sum.inl.inj hbody
        refine ⟨hchunk (not_not.mp hret), ?_⟩
        dsimp only
        rw [hlength, hpos]
        omega
    · rw [chunkBody_done dev image size 0 s hge] at hbody
      cases hbody
  · rintro s r ⟨h, htaken⟩ hbody
    rcases Nat.lt_or_ge s.done size with hlt | hge
    · obtain ⟨hlength, hpos⟩ := fullWrite_taken dev s.file (length_chunkBuffer himage hlt s.buf)
      rw [chunkBody_write dev image size s hlt] at hbody
      split at hbody
      next hret =>
        obtain rfl := Sum.inr.inj hbody
        have hshort := h.short dev hlt (length_chunkBuffer himage hlt s.buf) hret
        have hfails : (-4 : Int) ≠ 0 := by decide
        refine iff_of_false hfails ?_
        dsimp only
        rw [hlength]
        rw [hpos] at hshort
        omega
      · cases hbody
    · rw [chunkBody_done dev image size 0 s hge] at hbody
      obtain rfl := Sum.inr.inj hbody
      refine iff_of_true rfl ?_
      have hpos := h.pos
      rw [Nat.le_antisymm h.done_le hge] at hpos
      dsimp only
      omega
  · exact ⟨WritePassInv.start size buf buf2 start, rfl⟩

/-! ## A device that takes everything -/

/-- `write` always takes something. -/
def MtdDevice.Writable (dev : MtdDevice σ) : Prop :=
  ∀ s data, 0 < data.length → 0 < (dev.write s data).1.moved

variable {dev}

theorem MtdDevice.Writable.fullWrite_ret (hdev : dev.Writable) (file : OpenFile σ)
    {buf : List UInt8} {len : Nat} (hlen : len ≤ buf.length) :
    (fullWrite dev file buf len).ret = len := by
  apply Transfer.full_complete
  intro t offset n hend hpos
  have hslice : (slice buf offset n).length = n := length_slice _ _ _ (by omega)
  exact hdev _ _ (by omega)

-- By the invariant rule: no chunk fails.
theorem MtdDevice.Writable.copyPass_ret (hdev : dev.Writable) (himage : image.length = size)
    (buf buf2 : List UInt8) (file : OpenFile σ) :
    (copyPass dev image size 0 buf buf2 file).ret = 0 := by
  apply (copyPass_returns dev image size 0 buf buf2 file).invariant
    (fun _ => True) (fun r => r.ret = 0)
  · exact fun _ _ _ _ => trivial
  · intro s r _ hbody
    rcases Nat.lt_or_ge s.done size with hlt | hge
    · have hret := hdev.fullWrite_ret s.file (length_chunkBuffer himage hlt s.buf)
      rw [chunkBody_write dev image size s hlt, if_neg (not_not.mpr hret)] at hbody
      cases hbody
    · rw [chunkBody_done dev image size 0 s hge] at hbody
      rw [← Sum.inr.inj hbody]
  · exact trivial

/-- A flash of 1 MiB in blocks as large as the chunks. -/
def chunkBlocks : MtdInfo := ⟨0x100000, 0x10000, by decide⟩

/-- Every call succeeds, and `read` answers as given; the state does not matter. -/
def steadyDevice (mtd : MtdInfo) (answer : Nat → ReadResult)
    (hanswer : ∀ count, (answer count).bytes.length ≤ count) : MtdDevice Unit where
  openDevice s := (true, s)
  memGetInfo s := (some mtd, s)
  memErase s _ _ := (true, s)
  lseek s := (true, s)
  write s data := (.count data.length, s)
  write_le := by
    intro s data n h
    exact Nat.le_of_eq (Transfer.CallResult.count.inj h).symm
  read s count := (answer count, s)
  read_le _ count := hanswer count

section SteadyDevice

variable {mtd : MtdInfo} {answer : Nat → ReadResult}
  {hanswer : ∀ count, (answer count).bytes.length ≤ count}

theorem steadyDevice_writable : (steadyDevice mtd answer hanswer).Writable :=
  fun _ _ hpos => hpos

-- By the invariant rule: no block fails.
theorem steadyDevice_eraseBlocks (size : UInt32) (file : OpenFile Unit) :
    (eraseBlocks (steadyDevice mtd answer hanswer) size mtd file).1 = true := by
  apply (eraseBlocks_returns (steadyDevice mtd answer hanswer) size mtd file).invariant
    (fun _ => True) (fun r => r.1 = true)
  · exact fun _ _ _ _ => trivial
  · intro s r _ hbody
    unfold eraseBody at hbody
    split at hbody
    · cases hbody
    · rw [← Sum.inr.inj hbody]
  · exact trivial

theorem steadyDevice_erasedFor {device : DeviceInfo} {image : List UInt8}
    (hname : ∃ name, device.devicename = some name) (hbuff : device.buff = some image)
    (hsize : device.size ≠ 0) (hle : device.size ≤ mtd.size) :
    ErasedFor (steadyDevice mtd answer hanswer) device image () where
  devicename := hname
  buff := hbuff
  size := hsize
  erased := by
    rw [eraseFlash_opened _ rfl rfl hle, if_pos (steadyDevice_eraseBlocks _ _)]

end SteadyDevice

end WritePass

/-! ## The verify pass -/

/-- The chunks of an image. -/
def chunkCount (size : Nat) : Nat := (size + bufsize - 1) / bufsize

theorem lt_chunkCount (size k : Nat) : k < chunkCount size ↔ k * bufsize < size := by
  have hpos := bufsize_pos
  rw [chunkCount, ← Nat.succ_le_iff, Nat.le_div_iff_mul_le hpos, Nat.succ_mul]
  omega

/-- Where the `k`-th chunk of an image begins; behind the last one, where the image ends. -/
def chunkStart (size k : Nat) : Nat := min (k * bufsize) size

theorem chunkStart_eq {size k : Nat} (h : k < chunkCount size) :
    chunkStart size k = k * bufsize :=
  Nat.min_eq_left (Nat.le_of_lt ((lt_chunkCount size k).mp h))

theorem chunkStart_succ (size k : Nat) :
    chunkStart size (k + 1) = chunkStart size k + chunkLength size (k * bufsize) := by
  rw [chunkStart, chunkStart, chunkLength, Nat.succ_mul]
  split <;> omega

theorem chunkStart_chunkCount (size : Nat) : chunkStart size (chunkCount size) = size := by
  have hlast := (lt_chunkCount size (chunkCount size)).not.mp (Nat.lt_irrefl _)
  exact Nat.min_eq_right (Nat.le_of_not_lt hlast)

/-- What the buffer holds after `full_read` has put the bytes of `reads` at its start. -/
def overwritten (reads : List (List UInt8)) (buf2 : List UInt8) : List UInt8 :=
  reads.foldl (fun held read => write held 0 read) buf2

/-- The buffer shows the `k`-th chunk of the image once `read` has been put at its start. -/
def ChunkAgrees (image : List UInt8) (size k : Nat) (held read : List UInt8) : Prop :=
  (write held 0 read).take (chunkLength size (k * bufsize)) =
    slice image (k * bufsize) (chunkLength size (k * bufsize))

/-- All chunks from the `k`-th on, read one after the other. -/
def AllAgree (image : List UInt8) (size k : Nat) (held : List UInt8) (reads : List (List UInt8)) :
    Prop :=
  ∀ i read, reads[i]? = some read →
    ChunkAgrees image size (k + i) (overwritten (reads.take i) held) read

theorem allAgree_cons (image : List UInt8) (size k : Nat) (held read : List UInt8)
    (reads : List (List UInt8)) :
    AllAgree image size k held (read :: reads) ↔
      ChunkAgrees image size k held read ∧
        AllAgree image size (k + 1) (write held 0 read) reads := by
  constructor
  · intro h
    refine ⟨h 0 read rfl, ?_⟩
    intro i later hi
    have hlater := h (i + 1) later hi
    rw [List.take_succ_cons, ← Nat.add_assoc, Nat.add_right_comm] at hlater
    exact hlater
  · rintro ⟨hread, h⟩ i later hi
    cases i with
    | zero =>
        rw [List.getElem?_cons_zero] at hi
        rw [← Option.some.inj hi]
        exact hread
    | succ i =>
        have hlater := h i later hi
        rw [Nat.add_right_comm, Nat.add_assoc] at hlater
        exact hlater

section VerifyPass

variable {σ : Type} (dev : MtdDevice σ)

/-- The bytes `full_read` gets for `n` chunks from the `k`-th on, whatever they are. -/
def chunkReads (size : Nat) : Nat → Nat → OpenFile σ × List UInt8 → List (List UInt8)
  | 0, _, _ => []
  | n + 1, k, s =>
      let o := fullRead dev s.1 s.2 (chunkLength size (k * bufsize))
      o.state.2.take o.ret.toNat :: chunkReads size n (k + 1) o.state

theorem chunkReads_succ {size n k : Nat} {file : OpenFile σ} {buf2 : List UInt8}
    {o : Transfer.Outcome (OpenFile σ × List UInt8)}
    (ho : fullRead dev file buf2 (chunkLength size (k * bufsize)) = o) :
    chunkReads dev size (n + 1) k (file, buf2) =
      o.state.2.take o.ret.toNat :: chunkReads dev size n (k + 1) o.state := by
  rw [← ho]
  rfl

theorem length_chunkReads (size n k : Nat) (s : OpenFile σ × List UInt8) :
    (chunkReads dev size n k s).length = n := by
  induction n generalizing k s with
  | zero => rfl
  | succ n ih => rw [chunkReads, List.length_cons, ih]

-- No chunk gets more than it asks for.
theorem chunkReads_le (size n k : Nat) (s : OpenFile σ × List UInt8) :
    ∀ i read, (chunkReads dev size n k s)[i]? = some read →
      read.length ≤ chunkLength size ((k + i) * bufsize) := by
  induction n generalizing k s with
  | zero =>
      intro i read hread
      cases hread
  | succ n ih =>
      intro i read hread
      cases i with
      | zero =>
          have hrange := (fullRead_spec dev s.1 s.2 (chunkLength size (k * bufsize))).2.ret_range
          rw [chunkReads, List.getElem?_cons_zero] at hread
          rw [← Option.some.inj hread, List.length_take, Nat.add_zero]
          omega
      | succ i =>
          rw [chunkReads, List.getElem?_cons_succ] at hread
          have hle := ih _ _ i read hread
          rw [Nat.add_assoc, Nat.add_comm 1 i] at hle
          exact hle

variable {image : List UInt8} {size : Nat}

-- One chunk: what is read is put at the start of `buf2` and compared with the image.
theorem verify_chunk (himage : image.length = size) {k : Nat} (hlt : k * bufsize < size)
    (s : ChunkState σ) (hdone : s.done = k * bufsize)
    {o : Transfer.Outcome (OpenFile σ × List UInt8)}
    (ho : fullRead dev s.file s.buf2 (chunkLength size (k * bufsize)) = o) :
    ∃ calls next, Reads s.file o.state.1 calls ∧ o.state.2.take o.ret.toNat = delivered calls ∧
      o.state.2 = write s.buf2 0 (delivered calls) ∧
      next.done = chunkStart size (k + 1) ∧ next.file = o.state.1 ∧ next.buf2 = o.state.2 ∧
      (ChunkAgrees image size k s.buf2 (delivered calls) →
        chunkBody dev image size 1 s = .inl next) ∧
      (¬ ChunkAgrees image size k s.buf2 (delivered calls) →
        chunkBody dev image size 1 s = .inr ⟨-5, next.buf, o.state.2, o.state.1⟩) := by
  let chunk := slice image (k * bufsize) (chunkLength size (k * bufsize))
  have hbody := chunkBody_verify dev image size s (by omega)
  have hcount := chunkLength_pos hlt
  have hnext : k * bufsize + chunkLength size (k * bufsize) = chunkStart size (k + 1) := by
    rw [chunkStart_succ, chunkStart_eq ((lt_chunkCount size k).mpr hlt)]
  have hslice : chunk.length = chunkLength size (k * bufsize) := length_chunk himage hlt
  have hbuf : (write s.buf 0 chunk).take (chunkLength size (k * bufsize)) = chunk := by
    rw [write, List.take_zero, List.nil_append]
    exact List.take_left' hslice
  have hxread := xread_of_pos dev s.file s.buf2 hcount
  have hdelivered := fullRead_delivered dev s.file s.buf2 (chunkLength size (k * bufsize))
  dsimp only at hdelivered
  rw [ho] at hxread hdelivered
  obtain ⟨calls, hreads, hlength, hbuf2⟩ := hdelivered
  have htaken : o.state.2.take o.ret.toNat = delivered calls := by
    rw [hbuf2, ← hlength, write, List.take_zero, List.nil_append, List.take_left]
  dsimp only at hbody
  rw [hdone, hbuf, hxread] at hbody
  refine ⟨calls, ⟨k * bufsize + chunkLength size (k * bufsize), write s.buf 0 chunk, o.state.2,
    o.state.1⟩, hreads, htaken, hbuf2, hnext, rfl, rfl, ?_, ?_⟩
  · intro hagrees
    rw [ChunkAgrees, ← hbuf2] at hagrees
    rw [hbody, if_neg (not_not.mpr hagrees.symm)]
  · intro hdiffers
    rw [ChunkAgrees, ← hbuf2] at hdiffers
    rw [hbody, if_pos (Ne.symm hdiffers)]

/-- What the rest of the verify pass comes to, with `n` chunks from the `k`-th on to go. -/
structure Verified (image : List UInt8) (size n k : Nat) (s : ChunkState σ) (r : FlashResult σ) :
    Prop where
  reads : ∃ calls, Reads s.file r.file calls ∧
    (r.ret = 0 → delivered calls = (chunkReads dev size n k (s.file, s.buf2)).flatten)
  agrees : r.ret = 0 ↔ AllAgree image size k s.buf2 (chunkReads dev size n k (s.file, s.buf2))

-- By induction on the chunks to go.
theorem verified_from (himage : image.length = size) (n k : Nat) (hn : k + n = chunkCount size)
    {s : ChunkState σ} (hdone : s.done = chunkStart size k) {r : FlashResult σ}
    (hr : Loop.Returns (chunkBody dev image size 1) s r) : Verified dev image size n k s r := by
  induction n generalizing k s with
  | zero =>
      rw [show k = chunkCount size from hn, chunkStart_chunkCount] at hdone
      have hbody := chunkBody_done dev image size 1 s (Nat.le_of_eq hdone.symm)
      obtain rfl := hr.unique (.leave hbody)
      refine ⟨⟨[], Reads.nil s.file, fun _ => rfl⟩, ?_⟩
      exact iff_of_true rfl fun i read hread => by cases hread
  | succ n ih =>
      have hk : k < chunkCount size := by omega
      have hlt : k * bufsize < size := (lt_chunkCount size k).mp hk
      rw [chunkStart_eq hk] at hdone
      obtain ⟨o, ho⟩ : ∃ o, fullRead dev s.file s.buf2 (chunkLength size (k * bufsize)) = o :=
        ⟨_, rfl⟩
      obtain ⟨calls, next, hreads, htaken, hbuf2, hdone', hfile, hnext, hgoes, hends⟩ :=
        verify_chunk dev himage hlt s hdone ho
      have hunfold : chunkReads dev size (n + 1) k (s.file, s.buf2) =
          delivered calls :: chunkReads dev size n (k + 1) (next.file, next.buf2) := by
        rw [chunkReads_succ dev ho, htaken, hfile, hnext]
      by_cases hagrees : ChunkAgrees image size k s.buf2 (delivered calls)
      · -- The chunk is found equal, and the pass goes on.
        cases hr with
        | leave hleave => cases (hgoes hagrees).symm.trans hleave
        | again hagain hr =>
            obtain rfl := Sum.inl.inj ((hgoes hagrees).symm.trans hagain)
            obtain ⟨⟨calls', hreads', hdelivered⟩, hiff⟩ :=
              ih (k + 1) (by omega) hdone' hr
            rw [hfile] at hreads'
            refine ⟨⟨calls ++ calls', hreads.append hreads', ?_⟩, ?_⟩
            · intro hret
              rw [hunfold, List.flatten_cons, delivered_append, hdelivered hret]
            · rw [hiff, hunfold, allAgree_cons, hnext, ← hbuf2]
              exact (and_iff_right hagrees).symm
      · -- A mismatch ends the pass.
        obtain rfl := hr.unique (.leave (hends hagrees))
        have hret : (-5 : Int) ≠ 0 := by decide
        refine ⟨⟨calls, hreads, fun hzero => absurd hzero hret⟩, iff_of_false hret ?_⟩
        rw [hunfold, allAgree_cons]
        exact fun hall => hagrees hall.1

theorem copyPass_verify (himage : image.length = size) (buf buf2 : List UInt8)
    (file : OpenFile σ) :
    Verified dev image size (chunkCount size) 0 ⟨0, buf, buf2, rewind dev file⟩
      (copyPass dev image size 1 buf buf2 file) := by
  apply verified_from dev himage _ _ (Nat.zero_add _)
  · rw [chunkStart, Nat.zero_mul, Nat.zero_min]
  · exact copyPass_returns dev image size 1 buf buf2 file

end VerifyPass

/-! ## The whole call -/

section WholeCall

variable {σ : Type} {dev : MtdDevice σ} {device : DeviceInfo} {image : List UInt8} {s : σ}

theorem ErasedFor.size_pos (h : ErasedFor dev device image s) : 0 < device.size.toNat := by
  have hne := h.size
  rw [Ne, ← UInt32.toNat_inj] at hne
  exact Nat.pos_of_ne_zero hne

theorem ErasedFor.written (h : ErasedFor dev device image s) (buf buf2 : List UInt8) :
    WritePassed device.size.toNat buf2 (rewind dev (eraseFlash dev device.size s).2)
      (writePass dev device image buf buf2 s) :=
  copyPass_write dev (device.length_buff image h.buff) buf buf2 _

theorem ErasedFor.verified (h : ErasedFor dev device image s) (buf buf2 : List UInt8) :
    let written := writePass dev device image buf buf2 s
    Verified dev image device.size.toNat (chunkCount device.size.toNat) 0
      ⟨0, written.buf, written.buf2, rewind dev written.file⟩
      (verifyPass dev device image buf buf2 s) :=
  copyPass_verify dev (device.length_buff image h.buff) _ _ _

-- Writing starts at the start of the device, whether `lseek` succeeds or not.
theorem ErasedFor.rewind_pos (h : ErasedFor dev device image s) :
    (rewind dev (eraseFlash dev device.size s).2).pos = 0 := by
  obtain ⟨mtd, _, _, hpos, _⟩ := eraseFlash_zero dev h.erased
  rw [rewind]
  dsimp only
  rw [hpos]
  exact ite_self 0

-- The chunks are written behind the erase loop, and nothing but reads comes behind them.
theorem ErasedFor.events (h : ErasedFor dev device image s) (buf buf2 : List UInt8) :
    ∃ written verified, (flashcpMain dev (some device) buf buf2 s).file.events =
        (eraseFlash dev device.size s).2.events ++ written ++ verified ∧
      (∀ event ∈ written, ∃ stop ≤ up device.size.toNat bufsize, event.WritesTo stop) ∧
      (∀ event ∈ verified, ∃ pos count result, event = .read pos count result) ∧
      ((writePass dev device image buf buf2 s).ret = 0 →
        ∃ event ∈ written, event.WritesTo (up device.size.toNat bufsize)) := by
  have hsize := h.size_pos
  obtain ⟨_, ⟨written, hevents, hwithin, hlast⟩, hpos⟩ := h.written buf buf2
  rw [h.rewind_pos, Nat.zero_add] at hwithin hpos
  have hreaches : (writePass dev device image buf buf2 s).ret = 0 →
      ∃ event ∈ written, event.WritesTo (up device.size.toNat bufsize) := by
    intro hret
    rw [← hpos hret]
    exact hlast hret hsize
  rw [flashcpMain_erased dev h]
  split
  · refine ⟨written, [], ?_, hwithin, fun _ hmem => absurd hmem List.not_mem_nil, hreaches⟩
    rw [List.append_nil]
    exact hevents
  · obtain ⟨⟨verified, hreads, _⟩, _⟩ := h.verified buf buf2
    refine ⟨written, verified, ?_, hwithin, hreads.onlyReads, hreaches⟩
    rw [hreads.events]
    show (writePass dev device image buf buf2 s).file.events ++ verified = _
    rw [hevents]
    rfl

end WholeCall

end CanGateway
