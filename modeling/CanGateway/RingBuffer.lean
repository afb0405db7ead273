import CanGateway.Library.Allocator
import CanGateway.Library.ByteMemory
import CanGateway.Library.CircularQueue
import CanGateway.Library.PowerOfTwo

/-!
# The ring buffer

`ring_buffer_t` stores elements of `esize` bytes in a data block of `mask + 1` slots; `in` and
`out` run freely modulo `2 ^ 32`.  A well-formed ring is a bounded FIFO queue of its slots, and
`ringbuffer_put` and `ringbuffer_get` are that queue's operations.
-/

open ByteMemory CircularQueue

namespace CanGateway

/-! ## Powers of two -/

def isPowerOf2 (n : UInt32) : Bool := n != 0 && (n &&& (n - 1)) == 0

def rounddownPowOfTwo (n : UInt32) : UInt32 :=
  if n = 0 then 0
  else
    let n := n ||| n >>> 1
    let n := n ||| n >>> 2
    let n := n ||| n >>> 4
    let n := n ||| n >>> 8
    let n := n ||| n >>> 16
    n - n >>> 1

-- One line of the rounding: the run of ones below the highest bit doubles.
theorem topBits_orShift {h w : Nat} {n : UInt32} (hn : PowerOfTwo.TopBits h w n.toNat)
    (shift : UInt32) (hs : shift.toNat % 32 = w) :
    PowerOfTwo.TopBits h (w + w) (n ||| n >>> shift).toNat := by
  rw [UInt32.toNat_or, UInt32.toNat_shiftRight, hs]
  exact hn.smear

theorem rounddownPowOfTwo_toNat (n : UInt32) (hn : n ≠ 0) :
    (rounddownPowOfTwo n).toNat = 2 ^ n.toNat.log2 := by
  have hz : n.toNat ≠ 0 := fun h => hn (UInt32.toNat_inj.mp h)
  have hlog : n.toNat.log2 < 32 := (Nat.log2_lt hz).mpr n.toNat_lt
  have h1 := topBits_orShift (PowerOfTwo.topBits_log2 n.toNat hz) 1 rfl
  have h2 := topBits_orShift h1 2 rfl
  have h4 := topBits_orShift h2 4 rfl
  have h8 := topBits_orShift h4 8 rfl
  have h16 := topBits_orShift h8 16 rfl
  have hones := h16.eq_of_full hlog
  rw [rounddownPowOfTwo, if_neg hn, UInt32.toNat_sub_of_le, UInt32.toNat_shiftRight, hones]
  · exact PowerOfTwo.ones_sub_half n.toNat.log2
  · rw [UInt32.le_iff_toNat_le, UInt32.toNat_shiftRight]
    exact Nat.shiftRight_le _ _

theorem isPowerOf2_iff (n : UInt32) : isPowerOf2 n = true ↔ ∃ k, n.toNat = 2 ^ k := by
  rw [isPowerOf2, Bool.and_eq_true, bne_iff_ne, beq_iff_eq]
  by_cases hn : n = 0
  · subst hn
    constructor
    · intro h
      exact absurd rfl h.1
    · intro ⟨k, hk⟩
      have hpos := Nat.two_pow_pos k
      rw [UInt32.toNat_zero] at hk
      omega
  · have hz : n.toNat ≠ 0 := fun h => hn (UInt32.toNat_inj.mp h)
    have h1 : (1 : UInt32) ≤ n := by
      rw [UInt32.le_iff_toNat_le, UInt32.toNat_one]
      omega
    have hand : n &&& (n - 1) = 0 ↔ n.toNat &&& (n.toNat - 1) = 0 := by
      rw [← UInt32.toNat_inj, UInt32.toNat_and, UInt32.toNat_sub_of_le _ _ h1, UInt32.toNat_one,
        UInt32.toNat_zero]
    rw [hand, Nat.and_sub_one_eq_zero_iff_isPowerOfTwo hz]
    exact and_iff_right hn

/-! ## The ring and its operations -/

/-- `ring_buffer_t`, with the two blocks `ringbuffer_create` allocates for it. -/
structure RingBuffer where
  block : Nat
  dataBlock : Nat
  data : List UInt8
  inPos : UInt32
  outPos : UInt32
  mask : UInt32
  esize : UInt32

def rbMin (x y : UInt32) : UInt32 := if x < y then x else y

def ringbufferCreate (size esize : UInt32) (heap : Heap) : Option RingBuffer × Heap :=
  if esize = 0 ∨ size = 0 then (none, heap)
  else
    match heap.malloc with
    | (none, heap) => (none, heap)
    | (some rb, heap) =>
        let elemCount := size / esize
        let elemCount := if isPowerOf2 elemCount then elemCount else rounddownPowOfTwo elemCount
        let elemCount := if elemCount = 0 then 1 else elemCount
        let bufTotalSize := elemCount * esize
        match heap.malloc with
        | (none, heap) => (none, heap.free rb)
        | (some buf, heap) =>
            (some { block := rb, dataBlock := buf, data := List.replicate bufTotalSize.toNat 0,
                    inPos := 0, outPos := 0, mask := elemCount - 1, esize := esize }, heap)

def ringbufferDestory (rb : Option RingBuffer) (heap : Heap) : Heap :=
  match rb with
  | none => heap
  | some rb => (heap.free rb.dataBlock).free rb.block

/-- `len` elements of `src` into the slots from position `off` on, in two pieces. -/
def ringbufferCopyIn (rb : RingBuffer) (src : List UInt8) (len off : UInt32) : RingBuffer :=
  let elemTotal := rb.mask + 1
  let copyBytes := len * rb.esize
  let offBytes := (off &&& rb.mask) * rb.esize
  let firstCopy := rbMin copyBytes (elemTotal * rb.esize - offBytes)
  let data := write rb.data offBytes.toNat (slice src 0 firstCopy.toNat)
  { rb with data := write data 0 (slice src firstCopy.toNat (copyBytes - firstCopy).toNat) }

def ringbufferUnused (rb : RingBuffer) : UInt32 := (rb.mask + 1) - (rb.inPos - rb.outPos)

def ringbufferPut (rb : RingBuffer) (buf : Option (List UInt8)) (len : UInt32) :
    UInt32 × RingBuffer :=
  match buf with
  | none => (0, rb)
  | some buf =>
      if len = 0 then (0, rb)
      else
        let putElem : UInt32 := if len * rb.esize ≥ rb.esize then 1 else 0
        if putElem = 0 then (0, rb)
        else if putElem > ringbufferUnused rb then (0, rb)
        else
          (putElem, { ringbufferCopyIn rb buf putElem rb.inPos with inPos := rb.inPos + putElem })

/-- The destination after copying `len` elements out from position `off` on, in two pieces. -/
def ringbufferCopyOut (rb : RingBuffer) (dst : List UInt8) (len off : UInt32) : List UInt8 :=
  let elemTotal := rb.mask + 1
  let copyBytes := len * rb.esize
  let offBytes := (off &&& rb.mask) * rb.esize
  let firstCopy := rbMin copyBytes (elemTotal * rb.esize - offBytes)
  let dst := write dst 0 (slice rb.data offBytes.toNat firstCopy.toNat)
  write dst firstCopy.toNat (slice rb.data 0 (copyBytes - firstCopy).toNat)

def ringbufferOutPeek (rb : RingBuffer) (buf : List UInt8) (len : UInt32) :
    UInt32 × List UInt8 :=
  if len = 0 then (0, buf)
  else
    let usedElem := rb.inPos - rb.outPos
    let peekElem := rbMin len usedElem
    if peekElem = 0 then (0, buf)
    else (peekElem, ringbufferCopyOut rb buf peekElem rb.outPos)

/-- The element count, the destination's new bytes and the ring. -/
def ringbufferGet (rb : RingBuffer) (buf : Option (List UInt8)) (len : UInt32) :
    UInt32 × Option (List UInt8) × RingBuffer :=
  match buf with
  | none => (0, none, rb)
  | some buf =>
      if len = 0 then (0, some buf, rb)
      else
        let getElem : UInt32 := if len * rb.esize ≥ rb.esize then 1 else 0
        if getElem = 0 then (0, some buf, rb)
        else
          let r := ringbufferOutPeek rb buf getElem
          if r.1 > 0 then (r.1, some r.2, { rb with outPos := rb.outPos + r.1 })
          else (r.1, some r.2, rb)

def ringbufferLen (rb : RingBuffer) : UInt32 := rb.inPos - rb.outPos

def ringbufferCap (rb : RingBuffer) : UInt32 := rb.mask + 1

def ringbufferAvail (rb : RingBuffer) : UInt32 := ringbufferCap rb - ringbufferLen rb

def ringbufferReset (rb : RingBuffer) : RingBuffer := { rb with inPos := 0, outPos := 0 }

/-! ## The queue a ring stands for -/

namespace RingBuffer

variable (rb : RingBuffer)

def capacity : Nat := rb.mask.toNat + 1

def count : Nat := (rb.inPos - rb.outPos).toNat

def cell (i : Nat) : List UInt8 := slot rb.data rb.esize.toNat i

/-- The stored elements, oldest first. -/
def contents : List (List UInt8) := view rb.cell rb.capacity rb.outPos.toNat rb.count

/-- What `ringbuffer_create` establishes and every operation keeps. -/
structure Wf : Prop where
  pow : ∃ k, rb.capacity = 2 ^ k
  esize_pos : 0 < rb.esize.toNat
  size_lt : rb.capacity * rb.esize.toNat < 2 ^ 32
  length_eq : rb.data.length = rb.capacity * rb.esize.toNat
  count_le : rb.count ≤ rb.capacity

@[simp] theorem length_contents : rb.contents.length = rb.count := length_view _ _ _ _

variable {rb}

theorem Wf.capacity_lt (h : rb.Wf) : rb.capacity < 2 ^ 32 :=
  Nat.lt_of_le_of_lt (Nat.le_mul_of_pos_right _ h.esize_pos) h.size_lt

-- The capacity divides the counters' modulus.
theorem Wf.pow_le (h : rb.Wf) : ∃ k, k ≤ 32 ∧ rb.capacity = 2 ^ k := by
  obtain ⟨k, hk⟩ := h.pow
  have hlt := h.capacity_lt
  rw [hk] at hlt
  exact ⟨k, Nat.le_of_lt ((Nat.pow_lt_pow_iff_right (by decide)).mp hlt), hk⟩

theorem Wf.toNat_cap (h : rb.Wf) : (rb.mask + 1).toNat = rb.capacity := by
  have hlt := h.capacity_lt
  rw [UInt32.toNat_add, UInt32.toNat_one]
  exact Nat.mod_eq_of_lt hlt

-- The slot a counter points at.
theorem Wf.and_mask (h : rb.Wf) (off : UInt32) :
    (off &&& rb.mask).toNat = off.toNat % rb.capacity := by
  obtain ⟨k, hk⟩ := h.pow
  rw [UInt32.toNat_and, PowerOfTwo.and_mask off.toNat rb.mask.toNat k hk, hk]

theorem Wf.slot_end_le (_ : rb.Wf) (off : Nat) :
    off % rb.capacity * rb.esize.toNat + rb.esize.toNat ≤ rb.capacity * rb.esize.toNat := by
  rw [← Nat.succ_mul]
  exact Nat.mul_le_mul_right _ (Nat.mod_lt off (Nat.succ_pos _))

-- No product of the copy loops overflows.
theorem Wf.toNat_offBytes (h : rb.Wf) (off : UInt32) :
    ((off &&& rb.mask) * rb.esize).toNat = off.toNat % rb.capacity * rb.esize.toNat := by
  have hle := h.slot_end_le off.toNat
  have hlt := h.size_lt
  rw [UInt32.toNat_mul, h.and_mask, Nat.mod_eq_of_lt (by omega)]

-- One element never runs over the end of the data block.
theorem Wf.firstCopy_eq (h : rb.Wf) (off : UInt32) :
    rbMin rb.esize ((rb.mask + 1) * rb.esize - (off &&& rb.mask) * rb.esize) = rb.esize := by
  have hle := h.slot_end_le off.toNat
  have hlt := h.size_lt
  have htotal : ((rb.mask + 1) * rb.esize).toNat = rb.capacity * rb.esize.toNat := by
    rw [UInt32.toNat_mul, h.toNat_cap, Nat.mod_eq_of_lt hlt]
  have hrest : ((rb.mask + 1) * rb.esize - (off &&& rb.mask) * rb.esize).toNat =
      rb.capacity * rb.esize.toNat - off.toNat % rb.capacity * rb.esize.toNat := by
    rw [UInt32.toNat_sub_of_le, htotal, h.toNat_offBytes]
    rw [UInt32.le_iff_toNat_le, htotal, h.toNat_offBytes]
    omega
  rw [rbMin]
  split
  · rfl
  next hn =>
    apply UInt32.toNat_inj.mp
    rw [UInt32.lt_iff_toNat_lt, hrest] at hn
    rw [hrest]
    omega

/-- The ring after one more element has been stored. -/
def stored (rb : RingBuffer) (buf : List UInt8) : RingBuffer :=
  { rb with
    data := write rb.data (rb.inPos.toNat % rb.capacity * rb.esize.toNat) buf
    inPos := rb.inPos + 1 }

/-- The ring after its oldest element has been taken. -/
def taken (rb : RingBuffer) : RingBuffer := { rb with outPos := rb.outPos + 1 }

@[simp] theorem capacity_taken : rb.taken.capacity = rb.capacity := rfl

theorem Wf.count_stored (h : rb.Wf) (buf : List UInt8) (hroom : rb.count < rb.capacity) :
    (rb.stored buf).count = rb.count + 1 := by
  have hlt := h.capacity_lt
  apply count_store
  change rb.count < _
  omega

theorem count_taken (hpos : 0 < rb.count) : rb.taken.count = rb.count - 1 := count_take _ _ hpos

theorem Wf.stored (h : rb.Wf) {buf : List UInt8} (hbuf : buf.length = rb.esize.toNat)
    (hroom : rb.count < rb.capacity) : (rb.stored buf).Wf where
  pow := h.pow
  esize_pos := h.esize_pos
  size_lt := h.size_lt
  length_eq := by
    have hle := h.slot_end_le rb.inPos.toNat
    change (write rb.data _ buf).length = _
    rw [length_write _ _ _ (by rw [hbuf, h.length_eq]; exact hle)]
    exact h.length_eq
  count_le := by
    rw [h.count_stored buf hroom]
    exact hroom

theorem Wf.taken (h : rb.Wf) (hpos : 0 < rb.count) : rb.taken.Wf where
  pow := h.pow
  esize_pos := h.esize_pos
  size_lt := h.size_lt
  length_eq := h.length_eq
  count_le := by
    have hle := h.count_le
    rw [count_taken hpos, capacity_taken]
    omega

-- The slot behind the queue is the one `in` points at.
theorem Wf.free_position (h : rb.Wf) :
    (rb.outPos.toNat + rb.count) % rb.capacity = rb.inPos.toNat % rb.capacity := by
  obtain ⟨k, hk, hpow⟩ := h.pow_le
  rw [hpow]
  exact (store_position hk rb.inPos rb.outPos).symm

-- Storing appends to the queue.
theorem Wf.contents_stored (h : rb.Wf) {buf : List UInt8} (hbuf : buf.length = rb.esize.toNat)
    (hroom : rb.count < rb.capacity) : (rb.stored buf).contents = rb.contents ++ [buf] := by
  have hslot : rb.inPos.toNat % rb.capacity < rb.capacity := Nat.mod_lt _ (Nat.succ_pos _)
  have hpos := h.free_position
  rw [contents, h.count_stored buf hroom]
  apply view_store rb.cell _ _ _ _ _ hroom
  · change slot (write rb.data _ buf) _ ((rb.outPos.toNat + rb.count) % rb.capacity) = buf
    rw [hpos]
    exact slot_write_same _ _ _ _ rb.capacity hslot h.length_eq hbuf
  · intro j _ hne
    change j ≠ (rb.outPos.toNat + rb.count) % rb.capacity at hne
    rw [hpos] at hne
    exact slot_write_other _ _ _ _ _ rb.capacity hslot h.length_eq hbuf hne

-- Taking removes the element in the slot `out` points at.
theorem Wf.contents_cons (h : rb.Wf) (hpos : 0 < rb.count) :
    rb.contents = rb.cell (rb.outPos.toNat % rb.capacity) :: rb.taken.contents := by
  obtain ⟨k, hk, hpow⟩ := h.pow_le
  have htail : rb.taken.contents =
      view rb.cell rb.capacity (rb.outPos.toNat + 1) (rb.count - 1) := by
    rw [contents, count_taken hpos, capacity_taken]
    apply view_mod
    rw [hpow]
    exact take_position hk rb.outPos
  rw [htail, ← view_succ, Nat.sub_add_cancel hpos, contents]

-- In a queue that is neither empty nor full the two counters point at different slots.
theorem Wf.oldest_ne_free (h : rb.Wf) (hpos : 0 < rb.count) (hroom : rb.count < rb.capacity) :
    rb.outPos.toNat % rb.capacity ≠ rb.inPos.toNat % rb.capacity := by
  rw [← h.free_position]
  exact cell_ne rb.capacity rb.outPos.toNat 0 rb.count hpos hroom

/-- The ring while an element is being stored: `src` goes to byte `j` of the free slot. -/
def storing (rb : RingBuffer) (j : Nat) (src : List UInt8) : RingBuffer :=
  { rb with data := write rb.data (rb.inPos.toNat % rb.capacity * rb.esize.toNat + j) src }

section Storing

variable {j : Nat} {src : List UInt8}

theorem Wf.cell_storing (h : rb.Wf) (hsrc : j + src.length ≤ rb.esize.toNat) {i : Nat}
    (hne : i ≠ rb.inPos.toNat % rb.capacity) : (rb.storing j src).cell i = rb.cell i :=
  slot_write_part _ _ _ _ _ _ rb.capacity (Nat.mod_lt _ (Nat.succ_pos _)) h.length_eq hsrc hne

theorem Wf.storing (h : rb.Wf) (hsrc : j + src.length ≤ rb.esize.toNat) :
    (rb.storing j src).Wf where
  pow := h.pow
  esize_pos := h.esize_pos
  size_lt := h.size_lt
  length_eq := by
    have hle := h.slot_end_le rb.inPos.toNat
    change (write rb.data _ src).length = _
    rw [length_write _ _ _ (by rw [h.length_eq]; omega)]
    exact h.length_eq
  count_le := h.count_le

theorem Wf.contents_storing (h : rb.Wf) (hsrc : j + src.length ≤ rb.esize.toNat)
    (hroom : rb.count < rb.capacity) : (rb.storing j src).contents = rb.contents := by
  apply view_congr rb.cell _ _ _ _ hroom
  intro i _ hne
  change i ≠ (rb.outPos.toNat + rb.count) % rb.capacity at hne
  rw [h.free_position] at hne
  exact h.cell_storing hsrc hne

-- What follows right behind is part of the same store.
theorem Wf.storing_storing (h : rb.Wf) (src src' : List UInt8) (hsrc : j ≤ rb.esize.toNat) :
    (rb.storing j src).storing (j + src.length) src' = rb.storing j (src ++ src') := by
  have hend := h.slot_end_le rb.inPos.toNat
  rw [← h.length_eq] at hend
  have hgrow := write_write_behind rb.data src src'
    (rb.inPos.toNat % rb.capacity * rb.esize.toNat + j) (by omega)
  rw [Nat.add_assoc] at hgrow
  exact congrArg (fun data => { rb with data := data }) hgrow

end Storing

-- Once the whole element is in its slot, advancing `in` stores it.
theorem Wf.stored_of_slot (h : rb.Wf) {elem : List UInt8}
    (hslot : rb.cell (rb.inPos.toNat % rb.capacity) = elem) :
    { rb with inPos := rb.inPos + 1 } = rb.stored elem := by
  have hle := h.slot_end_le rb.inPos.toNat
  have hback := write_slice rb.data (rb.inPos.toNat % rb.capacity * rb.esize.toNat)
    rb.esize.toNat (by rw [h.length_eq]; exact hle)
  rw [RingBuffer.stored, ← hslot, cell, slot, hback]

theorem Wf.length_cell (h : rb.Wf) (i : Nat) (hi : i < rb.capacity) :
    (rb.cell i).length = rb.esize.toNat := length_slot _ _ _ _ hi h.length_eq

end RingBuffer

/-! ## The operations are the queue's -/

section Operations

variable {rb : RingBuffer}

theorem ringbufferUnused_toNat (h : rb.Wf) :
    (ringbufferUnused rb).toNat = rb.capacity - rb.count := by
  have hle := h.count_le
  rw [ringbufferUnused, UInt32.toNat_sub_of_le, h.toNat_cap, RingBuffer.count]
  rw [UInt32.le_iff_toNat_le, h.toNat_cap]
  exact hle

theorem ringbufferUnused_lt_one (h : rb.Wf) :
    1 > ringbufferUnused rb ↔ ¬ rb.count < rb.capacity := by
  have hle := h.count_le
  rw [gt_iff_lt, UInt32.lt_iff_toNat_lt, ringbufferUnused_toNat h, UInt32.toNat_one]
  omega

-- One element fills one slot: the second piece of the copy is empty.
theorem ringbufferCopyIn_slice (h : rb.Wf) (buf : List UInt8) (off : UInt32) :
    ringbufferCopyIn rb buf 1 off =
      { rb with
        data := write rb.data (off.toNat % rb.capacity * rb.esize.toNat)
          (slice buf 0 rb.esize.toNat) } := by
  simp only [ringbufferCopyIn, h.firstCopy_eq, h.toNat_offBytes, UInt32.one_mul,
    UInt32.sub_self, UInt32.toNat_zero, slice_zero, write_nil]

theorem ringbufferCopyOut_cell (h : rb.Wf) (dst : List UInt8) (off : UInt32) :
    ringbufferCopyOut rb dst 1 off = write dst 0 (rb.cell (off.toNat % rb.capacity)) := by
  simp only [ringbufferCopyOut, h.firstCopy_eq, h.toNat_offBytes, UInt32.one_mul,
    UInt32.sub_self, UInt32.toNat_zero]
  change write (write dst 0 (rb.cell (off.toNat % rb.capacity))) _ (slice rb.data 0 0) = _
  rw [slice_zero, write_nil]

-- `ringbuffer_put` of one element stores it exactly when there is room; of a longer buffer it takes
-- the first element's bytes.
theorem ringbufferPut_slice (h : rb.Wf) (buf : List UInt8) :
    ringbufferPut rb (some buf) 1 =
      if rb.count < rb.capacity then (1, rb.stored (slice buf 0 rb.esize.toNat)) else (0, rb) := by
  have hone : ¬ (1 : UInt32) = 0 := by decide
  simp only [ringbufferPut, UInt32.one_mul, UInt32.le_refl, ge_iff_le, if_true, hone, if_false,
    ringbufferUnused_lt_one h, ringbufferCopyIn_slice h buf, RingBuffer.stored, ite_not]

theorem ringbufferPut_one (h : rb.Wf) (buf : List UInt8) (hbuf : buf.length = rb.esize.toNat) :
    ringbufferPut rb (some buf) 1 =
      if rb.count < rb.capacity then (1, rb.stored buf) else (0, rb) := by
  rw [ringbufferPut_slice h buf, slice, List.drop_zero,
    List.take_of_length_le (Nat.le_of_eq hbuf)]

theorem rbMin_one (n : UInt32) : rbMin 1 n = if n = 0 then 0 else 1 := by
  rw [rbMin]
  split
  next hlt =>
    rw [if_neg]
    intro h0
    rw [h0] at hlt
    exact absurd hlt (by decide)
  next hge =>
    rw [UInt32.lt_iff_toNat_lt, UInt32.toNat_one] at hge
    split
    next h0 => exact h0
    next hne =>
      have hpos : n.toNat ≠ 0 := fun h => hne (UInt32.toNat_inj.mp h)
      apply UInt32.toNat_inj.mp
      rw [UInt32.toNat_one]
      omega

-- `ringbuffer_get` of one element delivers the oldest one exactly when there is one, to the front
-- of the buffer.
theorem ringbufferGet_cell (h : rb.Wf) (dst : List UInt8) :
    ringbufferGet rb (some dst) 1 =
      if 0 < rb.count then
        (1, some (write dst 0 (rb.cell (rb.outPos.toNat % rb.capacity))), rb.taken)
      else (0, some dst, rb) := by
  have hcount : (rb.inPos - rb.outPos).toNat = rb.count := rfl
  have hone : ¬ (1 : UInt32) = 0 := by decide
  simp only [ringbufferGet, ringbufferOutPeek, UInt32.one_mul, UInt32.le_refl, ge_iff_le, if_true,
    hone, if_false, rbMin_one]
  by_cases hempty : rb.inPos - rb.outPos = 0
  · have hzero : ¬ 0 < rb.count := by
      rw [← hcount, hempty, UInt32.toNat_zero]
      exact Nat.lt_irrefl 0
    simp only [if_pos hempty, if_neg hzero, if_true]
    rfl
  · have hpos : rb.count ≠ 0 := fun h0 => hempty (UInt32.toNat_inj.mp (hcount.trans h0))
    simp only [if_neg hempty, if_pos (Nat.pos_of_ne_zero hpos), hone, if_false,
      ringbufferCopyOut_cell h, RingBuffer.taken]
    rfl

theorem ringbufferGet_one (h : rb.Wf) (dst : List UInt8) (hdst : dst.length = rb.esize.toNat) :
    ringbufferGet rb (some dst) 1 =
      if 0 < rb.count then (1, some (rb.cell (rb.outPos.toNat % rb.capacity)), rb.taken)
      else (0, some dst, rb) := by
  have hcell := h.length_cell _ (Nat.mod_lt rb.outPos.toNat (Nat.succ_pos _))
  have hwhole : write dst 0 (rb.cell (rb.outPos.toNat % rb.capacity)) =
      rb.cell (rb.outPos.toNat % rb.capacity) := by
    rw [write, hcell, List.take_zero, List.nil_append, List.drop_of_length_le (by omega),
      List.append_nil]
  rw [ringbufferGet_cell h dst, hwhole]

theorem ringbufferAvail_toNat (h : rb.Wf) : (ringbufferAvail rb).toNat = rb.capacity - rb.count :=
  ringbufferUnused_toNat h

@[simp] theorem ringbufferReset_count : (ringbufferReset rb).count = 0 := by
  simp [ringbufferReset, RingBuffer.count]

theorem ringbufferReset_contents : (ringbufferReset rb).contents = [] := by
  rw [RingBuffer.contents, ringbufferReset_count]
  rfl

theorem ringbufferReset_wf (h : rb.Wf) : (ringbufferReset rb).Wf where
  pow := h.pow
  esize_pos := h.esize_pos
  size_lt := h.size_lt
  length_eq := h.length_eq
  count_le := by simp

end Operations

-- The slot count `ringbuffer_create` settles on: a power of two that fits, or 1.
theorem elemCount_spec (n : UInt32) :
    ∃ k, (if (if isPowerOf2 n then n else rounddownPowOfTwo n) = 0 then 1
      else if isPowerOf2 n then n else rounddownPowOfTwo n).toNat = 2 ^ k ∧
      (2 ^ k = 1 ∨ 2 ^ k ≤ n.toNat) := by
  by_cases hn : n = 0
  · subst hn
    exact ⟨0, rfl, Or.inl rfl⟩
  by_cases hpow : isPowerOf2 n
  · obtain ⟨k, hk⟩ := (isPowerOf2_iff n).mp hpow
    refine ⟨k, ?_, Or.inr (Nat.le_of_eq hk.symm)⟩
    rw [if_pos hpow, if_neg hn]
    exact hk
  · have hlog := rounddownPowOfTwo_toNat n hn
    have hne : ¬ rounddownPowOfTwo n = 0 := by
      intro h0
      rw [h0, UInt32.toNat_zero] at hlog
      exact absurd hlog.symm (Nat.ne_of_gt (Nat.two_pow_pos _))
    refine ⟨n.toNat.log2, ?_, Or.inr ?_⟩
    · rw [if_neg hpow, if_neg hne]
      exact hlog
    · exact Nat.log2_self_le (fun h => hn (UInt32.toNat_inj.mp h))

-- Whatever sizes are asked for, a ring is created well formed and empty.
theorem ringbufferCreate_wf {size esize : UInt32} {heap heap' : Heap} {rb : RingBuffer}
    (hcreate : ringbufferCreate size esize heap = (some rb, heap')) :
    rb.Wf ∧ rb.esize = esize ∧ rb.count = 0 := by
  obtain ⟨k, hk, hle⟩ := elemCount_spec (size / esize)
  rw [ringbufferCreate] at hcreate
  split at hcreate
  · cases hcreate
  next hnz =>
    have hesize : 0 < esize.toNat := by
      apply Nat.pos_of_ne_zero
      intro h0
      exact hnz (Or.inl (UInt32.toNat_inj.mp h0))
    split at hcreate
    · cases hcreate
    · dsimp only at hcreate
      generalize (if (if isPowerOf2 (size / esize) then size / esize
        else rounddownPowOfTwo (size / esize)) = 0 then (1 : UInt32)
        else if isPowerOf2 (size / esize) then size / esize
        else rounddownPowOfTwo (size / esize)) = elemCount at hk hcreate
      have hbytes : elemCount.toNat * esize.toNat < 2 ^ 32 := by
        rw [hk]
        rcases hle with h1 | hle
        · rw [h1, Nat.one_mul]
          exact esize.toNat_lt
        · have hdiv := Nat.mul_le_mul_right esize.toNat hle
          rw [UInt32.toNat_div] at hdiv
          have hback := Nat.div_mul_le_self size.toNat esize.toNat
          have hlt := size.toNat_lt
          omega
      have hpos : 1 ≤ elemCount.toNat := by
        rw [hk]
        exact Nat.two_pow_pos k
      have hmask : (elemCount - 1).toNat + 1 = elemCount.toNat := by
        rw [UInt32.toNat_sub_of_le, UInt32.toNat_one]
        · omega
        · rw [UInt32.le_iff_toNat_le, UInt32.toNat_one]
          exact hpos
      split at hcreate
      · cases hcreate
      · cases hcreate
        refine ⟨⟨⟨k, ?_⟩, hesize, ?_, ?_, ?_⟩, rfl, ?_⟩
        · change (elemCount - 1).toNat + 1 = 2 ^ k
          rw [hmask]
          exact hk
        · change ((elemCount - 1).toNat + 1) * esize.toNat < 2 ^ 32
          rw [hmask]
          exact hbytes
        · change (List.replicate (elemCount * esize).toNat (0 : UInt8)).length =
            ((elemCount - 1).toNat + 1) * esize.toNat
          rw [List.length_replicate, hmask, UInt32.toNat_mul, Nat.mod_eq_of_lt hbytes]
        · simp [RingBuffer.count]
        · simp [RingBuffer.count]

-- A ring is created empty, with as many slots as were asked for when that is a power of two.
theorem ringbufferCreate_some {cap esize : UInt32} {heap heap' : Heap} {rb : RingBuffer}
    (hpow : ∃ k, cap.toNat = 2 ^ k) (hsize : cap.toNat * esize.toNat < 2 ^ 32)
    (hcreate : ringbufferCreate (cap * esize) esize heap = (some rb, heap')) :
    rb.Wf ∧ rb.capacity = cap.toNat ∧ rb.esize = esize ∧ rb.count = 0 := by
  obtain ⟨hwf, hesize, hempty⟩ := ringbufferCreate_wf hcreate
  refine ⟨hwf, ?_, hesize, hempty⟩
  have hcap : 1 ≤ cap.toNat := by
    obtain ⟨k, hk⟩ := hpow
    rw [hk]
    exact Nat.two_pow_pos k
  have hcount : cap * esize / esize = cap := by
    have hpos := hwf.esize_pos
    rw [hesize] at hpos
    apply UInt32.toNat_inj.mp
    rw [UInt32.toNat_div, UInt32.toNat_mul, Nat.mod_eq_of_lt hsize, Nat.mul_div_cancel _ hpos]
  have hne : ¬ cap = 0 := by
    intro h0
    rw [h0, UInt32.toNat_zero] at hcap
    omega
  rw [ringbufferCreate] at hcreate
  split at hcreate
  · cases hcreate
  · split at hcreate
    · cases hcreate
    · simp only [hcount, (isPowerOf2_iff cap).mpr hpow, if_true, hne, if_false] at hcreate
      split at hcreate
      · cases hcreate
      · cases hcreate
        change (cap - 1).toNat + 1 = cap.toNat
        rw [UInt32.toNat_sub_of_le, UInt32.toNat_one]
        · omega
        · rw [UInt32.le_iff_toNat_le, UInt32.toNat_one]
          exact hcap

end CanGateway
