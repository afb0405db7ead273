import CanGateway.Library.Transducer
import CanGateway.RingBuffer

/-!
# The ring between two threads

`ringbuffer_put` and `ringbuffer_get` take no lock.  Here one thread runs the first and another the
second, one shared access at a time: a counter is read, a byte is copied, a counter is advanced.  A
step list is an interleaving of the two threads.
-/

open ByteMemory CircularQueue

namespace CanGateway

/-! ## The two calls, step by step -/

/-- The two operands of `rb->in - rb->out`; C does not say which is read first. -/
inductive RingCounter where
  | inPos
  | outPos
  deriving DecidableEq

/-- How far the producer's `ringbuffer_put` has come. -/
inductive PutPc where
  | idle
  | reading (buf : List UInt8) (inSeen outSeen : Option UInt32)
  | copying (buf : List UInt8) (putElem off : UInt32) (copied : Nat)
  deriving DecidableEq

/-- How far the consumer's `ringbuffer_get` has come. -/
inductive GetPc where
  | idle
  | reading (buf : List UInt8) (inSeen outSeen : Option UInt32)
  | copying (buf : List UInt8) (peekElem off : UInt32) (copied : Nat)
  deriving DecidableEq

/-- The ring and the calls the two threads are in. -/
structure SharedRing where
  rb : RingBuffer
  putting : PutPc
  getting : GetPc

/-- A buffer its caller hands over: there is room for an element in it. -/
structure ElemBuffer (esize : Nat) where
  bytes : List UInt8
  room : esize ≤ bytes.length

inductive RingStep (esize : Nat) where
  | put (buf : Option (ElemBuffer esize)) (len : UInt32)
  | putStep (first : RingCounter)
  | get (buf : Option (ElemBuffer esize)) (len : UInt32)
  | getStep (first : RingCounter)

/-- A call that returns: the element `ringbuffer_put` took or `ringbuffer_get` delivered, or 0. -/
inductive RingReturn where
  | accepted (elem : List UInt8)
  | refused
  | obtained (elem : List UInt8)
  | empty
  deriving DecidableEq

/-- The byte of the data block that belongs to byte `j` of a copy of `len` elements at `off`. -/
def copyPosition (rb : RingBuffer) (len off : UInt32) (j : Nat) : Nat :=
  let elemTotal := rb.mask + 1
  let copyBytes := len * rb.esize
  let offBytes := (off &&& rb.mask) * rb.esize
  let firstCopy := rbMin copyBytes (elemTotal * rb.esize - offBytes)
  if j < firstCopy.toNat then offBytes.toNat + j else j - firstCopy.toNat

/-- The argument checks of both calls: 1 element, or 0 and `EINVAL`. -/
def elemOf (rb : RingBuffer) (len : UInt32) : UInt32 :=
  if len = 0 then 0 else if len * rb.esize ≥ rb.esize then 1 else 0

/-- The operands of `rb->in - rb->out` after one more of them has been read. -/
def readCounter (rb : RingBuffer) (first : RingCounter) :
    Option UInt32 → Option UInt32 → Option UInt32 × Option UInt32
  | none, none =>
      match first with
      | .inPos => (some rb.inPos, none)
      | .outPos => (none, some rb.outPos)
  | some i, none => (some i, some rb.outPos)
  | none, some o => (some rb.inPos, some o)
  | some i, some o => (some i, some o)

/-- The next step of the producer's call. -/
def putStep (first : RingCounter) (s : SharedRing) : Option RingReturn × SharedRing :=
  match s.putting with
  | .idle => (none, s)
  | .reading buf inSeen outSeen =>
      match inSeen, outSeen with
      | some i, some o =>
          -- `ringbuffer_unused` from the values read; the offset is a further read of `rb->in`
          if 1 > (s.rb.mask + 1) - (i - o) then (some .refused, { s with putting := .idle })
          else (none, { s with putting := .copying buf 1 s.rb.inPos 0 })
      | _, _ =>
          let seen := readCounter s.rb first inSeen outSeen
          (none, { s with putting := .reading buf seen.1 seen.2 })
  | .copying buf putElem off copied =>
      if copied < (putElem * s.rb.esize).toNat then
        let data := write s.rb.data (copyPosition s.rb putElem off copied) (slice buf copied 1)
        (none, { s with
          rb := { s.rb with data := data }
          putting := .copying buf putElem off (copied + 1) })
      else
        (some (.accepted (slice buf 0 s.rb.esize.toNat)), { s with
          rb := { s.rb with inPos := s.rb.inPos + putElem }
          putting := .idle })

/-- The next step of the consumer's call. -/
def getStep (first : RingCounter) (s : SharedRing) : Option RingReturn × SharedRing :=
  match s.getting with
  | .idle => (none, s)
  | .reading buf inSeen outSeen =>
      match inSeen, outSeen with
      | some i, some o =>
          let peekElem := rbMin 1 (i - o)
          if peekElem = 0 then (some .empty, { s with getting := .idle })
          else (none, { s with getting := .copying buf peekElem s.rb.outPos 0 })
      | _, _ =>
          let seen := readCounter s.rb first inSeen outSeen
          (none, { s with getting := .reading buf seen.1 seen.2 })
  | .copying buf peekElem off copied =>
      if copied < (peekElem * s.rb.esize).toNat then
        let buf := write buf copied (slice s.rb.data (copyPosition s.rb peekElem off copied) 1)
        (none, { s with getting := .copying buf peekElem off (copied + 1) })
      else
        (some (.obtained (slice buf 0 s.rb.esize.toNat)), { s with
          rb := { s.rb with outPos := s.rb.outPos + peekElem }
          getting := .idle })

/-- One step of either thread; a thread makes its next call only when it has returned. -/
def ringStep {esize : Nat} (s : SharedRing) : RingStep esize → Option RingReturn × SharedRing
  | .put buf len =>
      match s.putting with
      | .idle =>
          match buf with
          | none => (some .refused, s)
          | some buf =>
              if elemOf s.rb len = 0 then (some .refused, s)
              else (none, { s with putting := .reading buf.bytes none none })
      | _ => (none, s)
  | .putStep first => putStep first s
  | .get buf len =>
      match s.getting with
      | .idle =>
          match buf with
          | none => (some .empty, s)
          | some buf =>
              if elemOf s.rb len = 0 then (some .empty, s)
              else (none, { s with getting := .reading buf.bytes none none })
      | _ => (none, s)
  | .getStep first => getStep first s

/-- The elements `ringbuffer_put` returned 1 for, in order. -/
def acceptedElems (returns : List (Option RingReturn)) : List (List UInt8) :=
  returns.filterMap fun
    | some (.accepted elem) => some elem
    | _ => none

/-- The elements `ringbuffer_get` delivered, in order. -/
def obtainedElems (returns : List (Option RingReturn)) : List (List UInt8) :=
  returns.filterMap fun
    | some (.obtained elem) => some elem
    | _ => none

/-- The bytes of the data block that the producer's copy writes. -/
def SharedRing.putBytes (s : SharedRing) : List Nat :=
  match s.putting with
  | .copying _ putElem off _ =>
      (List.range (putElem * s.rb.esize).toNat).map (copyPosition s.rb putElem off)
  | _ => []

/-- The bytes of the data block that the consumer's copy reads. -/
def SharedRing.getBytes (s : SharedRing) : List Nat :=
  match s.getting with
  | .copying _ peekElem off _ =>
      (List.range (peekElem * s.rb.esize).toNat).map (copyPosition s.rb peekElem off)
  | _ => []

/-! ## What each thread knows -/

/-- What holds while the producer is where it is: its own counter stands still, and the room it
saw can only have grown. -/
def PutOk (rb : RingBuffer) : PutPc → Prop
  | .idle => True
  | .reading buf inSeen outSeen =>
      rb.esize.toNat ≤ buf.length ∧ (∀ i, inSeen = some i → i = rb.inPos) ∧
        ∀ o, outSeen = some o →
          rb.count ≤ (rb.inPos - o).toNat ∧ (rb.inPos - o).toNat ≤ rb.capacity
  | .copying buf putElem off copied =>
      rb.esize.toNat ≤ buf.length ∧ putElem = 1 ∧ off = rb.inPos ∧ rb.count < rb.capacity ∧
        copied ≤ rb.esize.toNat ∧
        slice rb.data (rb.inPos.toNat % rb.capacity * rb.esize.toNat) copied = slice buf 0 copied

/-- The same for the consumer: the elements it saw can only have become more. -/
def GetOk (rb : RingBuffer) : GetPc → Prop
  | .idle => True
  | .reading buf inSeen outSeen =>
      rb.esize.toNat ≤ buf.length ∧ (∀ o, outSeen = some o → o = rb.outPos) ∧
        ∀ i, inSeen = some i → (i - rb.outPos).toNat ≤ rb.count
  | .copying buf peekElem off copied =>
      rb.esize.toNat ≤ buf.length ∧ peekElem = 1 ∧ off = rb.outPos ∧ 0 < rb.count ∧
        copied ≤ rb.esize.toNat ∧
        slice buf 0 copied = slice (rb.cell (rb.outPos.toNat % rb.capacity)) 0 copied

/-- The invariant of every interleaving. -/
structure Interleaved (esize cap : Nat) (returns : List (Option RingReturn)) (s : SharedRing) :
    Prop where
  wf : s.rb.Wf
  esize_eq : s.rb.esize.toNat = esize
  capacity_eq : s.rb.capacity = cap
  put : PutOk s.rb s.putting
  get : GetOk s.rb s.getting
  queue : acceptedElems returns = obtainedElems returns ++ s.rb.contents

section Threads

variable {rb : RingBuffer}

theorem copyPosition_one (h : rb.Wf) (off : UInt32) {j : Nat} (hj : j < rb.esize.toNat) :
    copyPosition rb 1 off j = off.toNat % rb.capacity * rb.esize.toNat + j := by
  simp only [copyPosition, UInt32.one_mul, h.firstCopy_eq, h.toNat_offBytes, if_pos hj]

-- A counter read now is as fresh as can be.
theorem PutOk.read (h : rb.Wf) (first : RingCounter) {buf : List UInt8}
    {inSeen outSeen : Option UInt32} (hput : PutOk rb (.reading buf inSeen outSeen)) :
    PutOk rb (.reading buf (readCounter rb first inSeen outSeen).1
      (readCounter rb first inSeen outSeen).2) := by
  obtain ⟨hbuf, hin, hout⟩ := hput
  have hfresh : ∀ o, some rb.outPos = some o →
      rb.count ≤ (rb.inPos - o).toNat ∧ (rb.inPos - o).toNat ≤ rb.capacity := by
    intro o ho
    cases ho
    exact ⟨Nat.le_refl _, h.count_le⟩
  have hown : ∀ i, some rb.inPos = some i → i = rb.inPos := by
    intro i hi
    cases hi
    rfl
  cases inSeen with
  | none =>
    cases outSeen with
    | none =>
      cases first with
      | inPos => exact ⟨hbuf, hown, hout⟩
      | outPos => exact ⟨hbuf, hin, hfresh⟩
    | some o => exact ⟨hbuf, hown, hout⟩
  | some i =>
    cases outSeen with
    | none => exact ⟨hbuf, hin, hfresh⟩
    | some o => exact ⟨hbuf, hin, hout⟩

theorem GetOk.read (first : RingCounter) {buf : List UInt8} {inSeen outSeen : Option UInt32}
    (hget : GetOk rb (.reading buf inSeen outSeen)) :
    GetOk rb (.reading buf (readCounter rb first inSeen outSeen).1
      (readCounter rb first inSeen outSeen).2) := by
  obtain ⟨hbuf, hout, hin⟩ := hget
  have hfresh : ∀ i, some rb.inPos = some i → (i - rb.outPos).toNat ≤ rb.count := by
    intro i hi
    cases hi
    exact Nat.le_refl _
  have hown : ∀ o, some rb.outPos = some o → o = rb.outPos := by
    intro o ho
    cases ho
    rfl
  cases inSeen with
  | none =>
    cases outSeen with
    | none =>
      cases first with
      | inPos => exact ⟨hbuf, hout, hfresh⟩
      | outPos => exact ⟨hbuf, hown, hin⟩
    | some o => exact ⟨hbuf, hout, hfresh⟩
  | some i =>
    cases outSeen with
    | none => exact ⟨hbuf, hown, hin⟩
    | some o => exact ⟨hbuf, hout, hin⟩

-- The producer starts to copy only when there is room.
theorem PutOk.room (h : rb.Wf) {buf : List UInt8} {i o : UInt32}
    (hput : PutOk rb (.reading buf (some i) (some o))) (hunused : ¬ 1 > (rb.mask + 1) - (i - o)) :
    PutOk rb (.copying buf 1 rb.inPos 0) := by
  obtain ⟨hbuf, hin, hout⟩ := hput
  have hi := hin i rfl
  obtain ⟨hcount, hcap⟩ := hout o rfl
  subst hi
  refine ⟨hbuf, rfl, rfl, ?_, Nat.zero_le _, by rw [slice_zero, slice_zero]⟩
  rw [gt_iff_lt, UInt32.lt_iff_toNat_lt, UInt32.toNat_sub_of_le, h.toNat_cap, UInt32.toNat_one]
    at hunused
  · omega
  · rw [UInt32.le_iff_toNat_le, h.toNat_cap]
    exact hcap

-- The consumer starts to copy only when there is an element.
theorem GetOk.nonempty {buf : List UInt8} {i o : UInt32}
    (hget : GetOk rb (.reading buf (some i) (some o))) (hpeek : ¬ rbMin 1 (i - o) = 0) :
    GetOk rb (.copying buf (rbMin 1 (i - o)) rb.outPos 0) := by
  obtain ⟨hbuf, hout, hin⟩ := hget
  have ho := hout o rfl
  have hcount := hin i rfl
  subst ho
  rw [rbMin_one] at hpeek ⊢
  split at hpeek
  · exact absurd rfl hpeek
  next hne =>
    have hpos : (i - rb.outPos).toNat ≠ 0 := fun h => hne (UInt32.toNat_inj.mp h)
    rw [if_neg hne]
    exact ⟨hbuf, rfl, rfl, by omega, Nat.zero_le _, by rw [slice_zero, slice_zero]⟩

-- What the consumer does leaves the producer's knowledge valid.
theorem PutOk.taken {pc : PutPc} (hpos : 0 < rb.count) (hput : PutOk rb pc) :
    PutOk rb.taken pc := by
  have hcount := RingBuffer.count_taken hpos
  cases pc with
  | idle => exact hput
  | reading buf inSeen outSeen =>
    obtain ⟨hbuf, hin, hout⟩ := hput
    refine ⟨hbuf, hin, ?_⟩
    intro o ho
    obtain ⟨hle, hcap⟩ := hout o ho
    refine ⟨?_, hcap⟩
    rw [hcount]
    exact Nat.le_trans (Nat.sub_le _ _) hle
  | copying buf putElem off copied =>
    obtain ⟨hbuf, helem, hoff, hroom, hcopied, hdata⟩ := hput
    refine ⟨hbuf, helem, hoff, ?_, hcopied, hdata⟩
    rw [hcount, RingBuffer.capacity_taken]
    exact Nat.lt_of_le_of_lt (Nat.sub_le _ _) hroom

-- What the producer does leaves the consumer's knowledge valid.
theorem GetOk.frame {rb' : RingBuffer} {pc : GetPc} (hget : GetOk rb pc)
    (hcount : rb.count ≤ rb'.count)
    (hcell : 0 < rb.count → rb'.cell (rb.outPos.toNat % rb.capacity) =
      rb.cell (rb.outPos.toNat % rb.capacity))
    (hesize : rb'.esize = rb.esize) (hmask : rb'.mask = rb.mask)
    (hout : rb'.outPos = rb.outPos) : GetOk rb' pc := by
  cases pc with
  | idle => exact hget
  | reading buf inSeen outSeen =>
    obtain ⟨hbuf, hseen, hin⟩ := hget
    refine ⟨?_, ?_, ?_⟩
    · rw [hesize]
      exact hbuf
    · intro o ho
      rw [hout]
      exact hseen o ho
    · intro i hi
      rw [hout]
      exact Nat.le_trans (hin i hi) hcount
  | copying buf peekElem off copied =>
    obtain ⟨hbuf, helem, hoff, hpos, hcopied, hdata⟩ := hget
    have hcap : rb'.capacity = rb.capacity := by
      rw [RingBuffer.capacity, hmask, RingBuffer.capacity]
    refine ⟨?_, helem, ?_, Nat.lt_of_lt_of_le hpos hcount, ?_, ?_⟩
    · rw [hesize]
      exact hbuf
    · rw [hout]
      exact hoff
    · rw [hesize]
      exact hcopied
    · rw [hout, hcap, hcell hpos]
      exact hdata

-- One byte of the producer's copy.
theorem PutOk.copy (h : rb.Wf) {buf : List UInt8} {copied : Nat}
    (hput : PutOk rb (.copying buf 1 rb.inPos copied)) (hlt : copied < rb.esize.toNat) :
    PutOk (rb.storing copied (slice buf copied 1)) (.copying buf 1 rb.inPos (copied + 1)) := by
  obtain ⟨hbuf, _, _, hroom, _, hdata⟩ := hput
  have hone : (slice buf copied 1).length = 1 := length_slice _ _ _ (by omega)
  have hle := h.slot_end_le rb.inPos.toNat
  have hlen := h.length_eq
  have hgrow := slice_write_behind rb.data (slice buf copied 1)
    (rb.inPos.toNat % rb.capacity * rb.esize.toNat) copied (by omega)
  rw [hone, hdata] at hgrow
  refine ⟨hbuf, rfl, rfl, hroom, hlt, ?_⟩
  rw [slice_add buf 0 copied 1, Nat.zero_add]
  exact hgrow

-- One byte of the consumer's copy.
theorem GetOk.copy (h : rb.Wf) {buf : List UInt8} {copied : Nat}
    (hget : GetOk rb (.copying buf 1 rb.outPos copied)) (hlt : copied < rb.esize.toNat) :
    GetOk rb (.copying (write buf copied (slice rb.data
      (rb.outPos.toNat % rb.capacity * rb.esize.toNat + copied) 1)) 1 rb.outPos (copied + 1)) := by
  obtain ⟨hbuf, _, _, hpos, _, hdata⟩ := hget
  have hle := h.slot_end_le rb.outPos.toNat
  have hlen := h.length_eq
  have hone : (slice rb.data
      (rb.outPos.toNat % rb.capacity * rb.esize.toNat + copied) 1).length = 1 :=
    length_slice _ _ _ (by omega)
  have hgrow := slice_write_behind buf (slice rb.data
    (rb.outPos.toNat % rb.capacity * rb.esize.toNat + copied) 1) 0 copied (by omega)
  rw [hone, Nat.zero_add, hdata] at hgrow
  refine ⟨?_, rfl, rfl, hpos, hlt, ?_⟩
  · rw [length_write _ _ _ (by omega)]
    exact hbuf
  · rw [hgrow, slice_add _ 0 copied 1, Nat.zero_add, RingBuffer.cell, slot,
      slice_slice rb.data _ _ copied 1 (by omega)]

end Threads

/-! ## One step of either thread -/

section Steps

variable {esize cap : Nat} {returns : List (Option RingReturn)} {s : SharedRing}

theorem acceptedElems_concat (returns : List (Option RingReturn)) (r : Option RingReturn) :
    acceptedElems (returns ++ [r]) = acceptedElems returns ++ acceptedElems [r] :=
  List.filterMap_append

theorem obtainedElems_concat (returns : List (Option RingReturn)) (r : Option RingReturn) :
    obtainedElems (returns ++ [r]) = obtainedElems returns ++ obtainedElems [r] :=
  List.filterMap_append

-- A step that returns no element leaves both histories alone.
theorem queue_of_silent {r : Option RingReturn} {contents : List (List UInt8)}
    (haccepted : acceptedElems [r] = []) (hobtained : obtainedElems [r] = [])
    (hq : acceptedElems returns = obtainedElems returns ++ contents) :
    acceptedElems (returns ++ [r]) = obtainedElems (returns ++ [r]) ++ contents := by
  rw [acceptedElems_concat, obtainedElems_concat, haccepted, hobtained, List.append_nil,
    List.append_nil]
  exact hq

-- A step that changes neither ring nor histories only has to justify the new program counters.
theorem Interleaved.local {s' : SharedRing} {r : Option RingReturn}
    (h : Interleaved esize cap returns s) (hrb : s'.rb = s.rb) (haccepted : acceptedElems [r] = [])
    (hobtained : obtainedElems [r] = []) (hput : PutOk s.rb s'.putting)
    (hget : GetOk s.rb s'.getting) : Interleaved esize cap (returns ++ [r]) s' where
  wf := by
    rw [hrb]
    exact h.wf
  esize_eq := by
    rw [hrb]
    exact h.esize_eq
  capacity_eq := by
    rw [hrb]
    exact h.capacity_eq
  put := by
    rw [hrb]
    exact hput
  get := by
    rw [hrb]
    exact hget
  queue := by
    rw [hrb]
    exact queue_of_silent haccepted hobtained h.queue

-- The producer writes one byte into the slot behind the queue.
theorem Interleaved.store (h : Interleaved esize cap returns s) {buf : List UInt8} {copied : Nat}
    (hput : PutOk s.rb (.copying buf 1 s.rb.inPos copied)) (hlt : copied < s.rb.esize.toNat) :
    Interleaved esize cap (returns ++ [none])
      ⟨s.rb.storing copied (slice buf copied 1), .copying buf 1 s.rb.inPos (copied + 1),
        s.getting⟩ := by
  have hroom := hput.2.2.2.1
  have hsrc : copied + (slice buf copied 1).length ≤ s.rb.esize.toNat := by
    rw [length_slice _ _ _ (Nat.le_trans hlt hput.1)]
    exact hlt
  refine ⟨h.wf.storing hsrc, h.esize_eq, h.capacity_eq, hput.copy h.wf hlt, ?_, ?_⟩
  · have hcount : s.rb.count ≤ (s.rb.storing copied (slice buf copied 1)).count := Nat.le_refl _
    refine h.get.frame hcount ?_ rfl rfl rfl
    intro hpos
    exact h.wf.cell_storing hsrc (h.wf.oldest_ne_free hpos hroom)
  · rw [h.wf.contents_storing hsrc hroom]
    exact queue_of_silent rfl rfl h.queue

-- The producer returns: its element joins the queue.
theorem Interleaved.accept (h : Interleaved esize cap returns s) {buf : List UInt8}
    (hput : PutOk s.rb (.copying buf 1 s.rb.inPos s.rb.esize.toNat)) :
    Interleaved esize cap (returns ++ [some (.accepted (slice buf 0 s.rb.esize.toNat))])
      ⟨{ s.rb with inPos := s.rb.inPos + 1 }, .idle, s.getting⟩ := by
  obtain ⟨hbuf, _, _, hroom, _, hdata⟩ := hput
  have helem : (slice buf 0 s.rb.esize.toNat).length = s.rb.esize.toNat :=
    length_slice _ _ _ (by omega)
  have hcount : s.rb.count ≤ (s.rb.stored (slice buf 0 s.rb.esize.toNat)).count := by
    rw [h.wf.count_stored _ hroom]
    exact Nat.le_succ _
  rw [h.wf.stored_of_slot hdata]
  refine ⟨h.wf.stored helem hroom, h.esize_eq, h.capacity_eq, trivial, ?_, ?_⟩
  · refine h.get.frame hcount ?_ rfl rfl rfl
    intro hpos
    exact slot_write_other _ _ _ _ _ s.rb.capacity (Nat.mod_lt _ (Nat.succ_pos _))
      h.wf.length_eq helem (h.wf.oldest_ne_free hpos hroom)
  · rw [acceptedElems_concat, obtainedElems_concat, h.queue, h.wf.contents_stored helem hroom,
      List.append_assoc]
    change _ = obtainedElems returns ++ [] ++ _
    rw [List.append_nil]
    rfl

-- The consumer returns: it has the oldest element, byte for byte.
theorem Interleaved.obtain (h : Interleaved esize cap returns s) {buf : List UInt8}
    (hget : GetOk s.rb (.copying buf 1 s.rb.outPos s.rb.esize.toNat)) :
    Interleaved esize cap (returns ++ [some (.obtained (slice buf 0 s.rb.esize.toNat))])
      ⟨{ s.rb with outPos := s.rb.outPos + 1 }, s.putting, .idle⟩ := by
  obtain ⟨_, _, _, hpos, _, hdata⟩ := hget
  have hcell := h.wf.length_cell _ (Nat.mod_lt s.rb.outPos.toNat (Nat.succ_pos s.rb.mask.toNat))
  have hwhole : slice buf 0 s.rb.esize.toNat = s.rb.cell (s.rb.outPos.toNat % s.rb.capacity) := by
    rw [hdata, slice, List.drop_zero]
    exact List.take_of_length_le (Nat.le_of_eq hcell)
  refine ⟨h.wf.taken hpos, h.esize_eq, h.capacity_eq, h.put.taken hpos, trivial, ?_⟩
  rw [acceptedElems_concat, obtainedElems_concat, h.queue, h.wf.contents_cons hpos, hwhole,
    List.append_assoc, List.append_assoc]
  change obtainedElems returns ++ (_ ++ []) = _
  rw [List.append_nil]
  rfl

theorem Interleaved.putStep (h : Interleaved esize cap returns s) (first : RingCounter) :
    Interleaved esize cap (returns ++ [(putStep first s).1]) (putStep first s).2 := by
  obtain ⟨rb, putting, getting⟩ := s
  have hput : PutOk rb putting := h.put
  have hget : GetOk rb getting := h.get
  cases putting with
  | idle => exact h.local rfl rfl rfl hput hget
  | reading buf inSeen outSeen =>
    have hread := hput.read h.wf first
    cases inSeen with
    | none => exact h.local rfl rfl rfl hread hget
    | some i =>
      cases outSeen with
      | none => exact h.local rfl rfl rfl hread hget
      | some o =>
        by_cases hunused : 1 > (rb.mask + 1) - (i - o)
        · simp only [CanGateway.putStep, if_pos hunused]
          exact h.local rfl rfl rfl trivial hget
        · simp only [CanGateway.putStep, if_neg hunused]
          exact h.local rfl rfl rfl (hput.room h.wf hunused) hget
  | copying buf putElem off copied =>
    have hpc := hput
    obtain ⟨_, rfl, rfl, _, hcopied, _⟩ := hpc
    simp only [CanGateway.putStep, UInt32.one_mul]
    by_cases hlt : copied < rb.esize.toNat
    · simp only [if_pos hlt, copyPosition_one h.wf _ hlt]
      exact h.store hput hlt
    · obtain rfl : copied = rb.esize.toNat := Nat.le_antisymm hcopied (Nat.le_of_not_lt hlt)
      simp only [if_neg hlt]
      exact h.accept hput

theorem Interleaved.getStep (h : Interleaved esize cap returns s) (first : RingCounter) :
    Interleaved esize cap (returns ++ [(getStep first s).1]) (getStep first s).2 := by
  obtain ⟨rb, putting, getting⟩ := s
  have hput : PutOk rb putting := h.put
  have hget : GetOk rb getting := h.get
  cases getting with
  | idle => exact h.local rfl rfl rfl hput hget
  | reading buf inSeen outSeen =>
    have hread := hget.read first
    cases inSeen with
    | none => exact h.local rfl rfl rfl hput hread
    | some i =>
      cases outSeen with
      | none => exact h.local rfl rfl rfl hput hread
      | some o =>
        by_cases hpeek : rbMin 1 (i - o) = 0
        · simp only [CanGateway.getStep, if_pos hpeek]
          exact h.local rfl rfl rfl hput trivial
        · simp only [CanGateway.getStep, if_neg hpeek]
          exact h.local rfl rfl rfl hput (hget.nonempty hpeek)
  | copying buf peekElem off copied =>
    have hpc := hget
    obtain ⟨_, rfl, rfl, _, hcopied, _⟩ := hpc
    simp only [CanGateway.getStep, UInt32.one_mul]
    by_cases hlt : copied < rb.esize.toNat
    · simp only [if_pos hlt, copyPosition_one h.wf _ hlt]
      exact h.local rfl rfl rfl hput (hget.copy h.wf hlt)
    · obtain rfl : copied = rb.esize.toNat := Nat.le_antisymm hcopied (Nat.le_of_not_lt hlt)
      simp only [if_neg hlt]
      exact h.obtain hget

theorem PutOk.start {rb : RingBuffer} (buf : ElemBuffer esize) (hesize : rb.esize.toNat = esize) :
    PutOk rb (.reading buf.bytes none none) := by
  subst hesize
  exact ⟨buf.room, fun _ h => (nomatch h), fun _ h => (nomatch h)⟩

theorem GetOk.start {rb : RingBuffer} (buf : ElemBuffer esize) (hesize : rb.esize.toNat = esize) :
    GetOk rb (.reading buf.bytes none none) := by
  subst hesize
  exact ⟨buf.room, fun _ h => (nomatch h), fun _ h => (nomatch h)⟩

theorem Interleaved.step (h : Interleaved esize cap returns s) (step : RingStep esize) :
    Interleaved esize cap (returns ++ [(ringStep s step).1]) (ringStep s step).2 := by
  obtain ⟨rb, putting, getting⟩ := s
  have hput : PutOk rb putting := h.put
  have hget : GetOk rb getting := h.get
  cases step with
  | putStep first => exact h.putStep first
  | getStep first => exact h.getStep first
  | put buf len =>
    cases putting with
    | idle =>
      cases buf with
      | none => exact h.local rfl rfl rfl trivial hget
      | some buf =>
        by_cases helem : elemOf rb len = 0
        · simp only [ringStep, if_pos helem]
          exact h.local rfl rfl rfl trivial hget
        · simp only [ringStep, if_neg helem]
          exact h.local rfl rfl rfl (PutOk.start buf h.esize_eq) hget
    | reading buf inSeen outSeen => exact h.local rfl rfl rfl hput hget
    | copying buf putElem off copied => exact h.local rfl rfl rfl hput hget
  | get buf len =>
    cases getting with
    | idle =>
      cases buf with
      | none => exact h.local rfl rfl rfl hput trivial
      | some buf =>
        by_cases helem : elemOf rb len = 0
        · simp only [ringStep, if_pos helem]
          exact h.local rfl rfl rfl hput trivial
        · simp only [ringStep, if_neg helem]
          exact h.local rfl rfl rfl hput (GetOk.start buf h.esize_eq)
    | reading buf inSeen outSeen => exact h.local rfl rfl rfl hput hget
    | copying buf peekElem off copied => exact h.local rfl rfl rfl hput hget

-- While both threads copy, they are in different slots.
theorem Interleaved.disjoint (h : Interleaved esize cap returns s) :
    List.Disjoint s.putBytes s.getBytes := by
  obtain ⟨rb, putting, getting⟩ := s
  have hput : PutOk rb putting := h.put
  have hget : GetOk rb getting := h.get
  cases putting with
  | idle => exact List.disjoint_nil_left _
  | reading buf inSeen outSeen => exact List.disjoint_nil_left _
  | copying buf putElem off copied =>
    cases getting with
    | idle => exact List.disjoint_nil_right _
    | reading buf inSeen outSeen => exact List.disjoint_nil_right _
    | copying buf' peekElem off' copied' =>
      obtain ⟨_, rfl, rfl, hroom, _, _⟩ := hput
      obtain ⟨_, rfl, rfl, hpos, _, _⟩ := hget
      have hne := h.wf.oldest_ne_free hpos hroom
      intro byte hp hg
      simp only [SharedRing.putBytes, UInt32.one_mul] at hp
      simp only [SharedRing.getBytes, UInt32.one_mul] at hg
      obtain ⟨j, hj, rfl⟩ := List.mem_map.mp hp
      obtain ⟨k, hk, heq⟩ := List.mem_map.mp hg
      rw [List.mem_range] at hj hk
      rw [copyPosition_one h.wf _ hj, copyPosition_one h.wf _ hk] at heq
      -- the slot of a byte is its position divided by the element size
      have hslot := congrArg (· / rb.esize.toNat) heq
      simp only [Nat.mul_comm _ rb.esize.toNat, Nat.mul_add_div h.wf.esize_pos,
        Nat.div_eq_of_lt hj, Nat.div_eq_of_lt hk, Nat.add_zero] at hslot
      exact hne hslot

end Steps

/-! ## A call that nobody interrupts -/

section Alone

variable {rb : RingBuffer} {esize : Nat}

theorem acceptedElems_silent (k : Nat) : acceptedElems (List.replicate k none) = [] := by
  rw [acceptedElems, List.filterMap_replicate_of_none rfl]

-- A thread outside its call does nothing.
theorem run_putStep_idle (first : RingCounter) (g : GetPc) (k : Nat) :
    Transducer.run ringStep (List.replicate k (.putStep first : RingStep esize)) ⟨rb, .idle, g⟩ =
      (List.replicate k none, ⟨rb, .idle, g⟩) := by
  induction k with
  | zero => rfl
  | succ k ih =>
      rw [List.replicate_succ, Transducer.run]
      change (none :: (Transducer.run ringStep (List.replicate k _) ⟨rb, .idle, g⟩).1,
        (Transducer.run ringStep (List.replicate k _) ⟨rb, .idle, g⟩).2) = _
      rw [ih, List.replicate_succ]

-- `k` bytes of the producer's copy.
theorem run_copyIn (h : rb.Wf) (first : RingCounter) {buf : List UInt8}
    (hbuf : rb.esize.toNat ≤ buf.length) (g : GetPc) (k : Nat) (hk : k ≤ rb.esize.toNat) :
    Transducer.run ringStep (List.replicate k (.putStep first : RingStep esize))
        ⟨rb, .copying buf 1 rb.inPos 0, g⟩ =
      (List.replicate k none, ⟨rb.storing 0 (slice buf 0 k), .copying buf 1 rb.inPos k, g⟩) := by
  induction k with
  | zero =>
      rw [slice_zero, RingBuffer.storing, write_nil]
      rfl
  | succ k ih =>
      have hlen : (slice buf 0 k).length = k := length_slice _ _ _ (by omega)
      have hwf : (rb.storing 0 (slice buf 0 k)).Wf := h.storing (by omega)
      have hstep : ringStep ⟨rb.storing 0 (slice buf 0 k), .copying buf 1 rb.inPos k, g⟩
          (.putStep first : RingStep esize) =
          (none, ⟨rb.storing 0 (slice buf 0 (k + 1)), .copying buf 1 rb.inPos (k + 1), g⟩) := by
        have hgrow := h.storing_storing (slice buf 0 k) (slice buf k 1) (Nat.zero_le _)
        rw [hlen, Nat.zero_add] at hgrow
        simp only [ringStep, putStep, UInt32.one_mul]
        rw [if_pos (show k < (rb.storing 0 (slice buf 0 k)).esize.toNat from hk),
          copyPosition_one hwf _ hk, slice_add buf 0 k 1, Nat.zero_add, ← hgrow]
        rfl
      rw [List.replicate_succ', Transducer.run_append, ih (by omega)]
      rw [Transducer.run, hstep, List.replicate_succ']
      rfl

-- The whole copy and the step that advances `in`.
theorem run_store (h : rb.Wf) (first : RingCounter) {buf : List UInt8}
    (hbuf : rb.esize.toNat ≤ buf.length) (g : GetPc) :
    Transducer.run ringStep
        (List.replicate (rb.esize.toNat + 1) (.putStep first : RingStep esize))
        ⟨rb, .copying buf 1 rb.inPos 0, g⟩ =
      (List.replicate rb.esize.toNat none ++ [some (.accepted (slice buf 0 rb.esize.toNat))],
        ⟨rb.stored (slice buf 0 rb.esize.toNat), .idle, g⟩) := by
  have hlast : ringStep
      ⟨rb.storing 0 (slice buf 0 rb.esize.toNat), .copying buf 1 rb.inPos rb.esize.toNat, g⟩
      (.putStep first : RingStep esize) =
      (some (.accepted (slice buf 0 rb.esize.toNat)),
        ⟨rb.stored (slice buf 0 rb.esize.toNat), .idle, g⟩) := by
    rw [ringStep, putStep]
    simp only [UInt32.one_mul]
    rw [if_neg (show ¬ rb.esize.toNat < (rb.storing 0 _).esize.toNat from Nat.lt_irrefl _)]
    rfl
  rw [List.replicate_succ', Transducer.run_append, run_copyIn h first hbuf g _ (le_refl _),
    Transducer.run, hlast]
  rfl

-- The length only matters for the argument checks.
theorem ringbufferPut_elemOf (buf : List UInt8) (len : UInt32) :
    ringbufferPut rb (some buf) len =
      if elemOf rb len = 0 then (0, rb) else ringbufferPut rb (some buf) 1 := by
  have hone : ¬ (1 : UInt32) = 0 := by decide
  by_cases hlen : len = 0
  · simp only [ringbufferPut, elemOf, if_pos hlen, if_true]
  · by_cases hbytes : len * rb.esize ≥ rb.esize
    · simp only [ringbufferPut, elemOf, if_neg hlen, if_pos hbytes, hone, UInt32.one_mul,
        UInt32.le_refl, ge_iff_le, if_true, if_false]
    · simp only [ringbufferPut, elemOf, if_neg hlen, if_neg hbytes, if_true]

-- The call, its two reads of the counters, and what follows from there.
theorem run_put_reads {len : UInt32} (helem : ¬ elemOf rb len = 0) (first : RingCounter)
    (buf : ElemBuffer esize) (g : GetPc) (k : Nat) :
    Transducer.run ringStep (.put (some buf) len :: List.replicate (k + 2) (.putStep first))
        ⟨rb, .idle, g⟩ =
      let r := Transducer.run ringStep (List.replicate k (.putStep first : RingStep esize))
        ⟨rb, .reading buf.bytes (some rb.inPos) (some rb.outPos), g⟩
      (none :: none :: none :: r.1, r.2) := by
  rw [List.replicate_succ, List.replicate_succ, Transducer.run, ringStep]
  simp only [if_neg helem]
  cases first with
  | inPos => rfl
  | outPos => rfl

/-- A `ringbuffer_put` that nobody interrupts does what the function does in one piece. -/
theorem ringbufferPut_uninterrupted (h : rb.Wf) (first : RingCounter)
    (buf : ElemBuffer rb.esize.toNat) (len : UInt32) (g : GetPc) :
    let r := Transducer.run ringStep
      (.put (some buf) len :: List.replicate (rb.esize.toNat + 4) (.putStep first)) ⟨rb, .idle, g⟩
    let sequential := ringbufferPut rb (some buf.bytes) len
    r.2 = ⟨sequential.2, .idle, g⟩ ∧
      acceptedElems r.1 =
        if sequential.1 = 1 then [slice buf.bytes 0 rb.esize.toNat] else [] := by
  have hzero : ¬ (0 : UInt32) = 1 := by decide
  rw [ringbufferPut_elemOf]
  by_cases helem : elemOf rb len = 0
  · rw [if_pos helem, Transducer.run, ringStep]
    simp only [if_pos helem, run_putStep_idle, if_neg hzero, true_and]
    exact acceptedElems_silent _
  · rw [if_neg helem, run_put_reads helem, ringbufferPut_slice h, List.replicate_succ,
      Transducer.run, ringStep, putStep]
    have hunused := ringbufferUnused_lt_one h
    rw [ringbufferUnused] at hunused
    by_cases hroom : rb.count < rb.capacity
    · simp only [hunused, hroom, not_true, if_true, if_false]
      rw [run_store h first buf.room]
      refine ⟨rfl, ?_⟩
      change acceptedElems (List.replicate _ none ++ _) = _
      rw [acceptedElems, List.filterMap_append, ← acceptedElems, acceptedElems_silent]
      rfl
    · simp only [hunused, hroom, not_false_iff, if_true, if_false, run_putStep_idle, hzero,
        true_and]
      exact acceptedElems_silent _

theorem obtainedElems_silent (k : Nat) : obtainedElems (List.replicate k none) = [] := by
  rw [obtainedElems, List.filterMap_replicate_of_none rfl]

theorem run_getStep_idle (first : RingCounter) (p : PutPc) (k : Nat) :
    Transducer.run ringStep (List.replicate k (.getStep first : RingStep esize)) ⟨rb, p, .idle⟩ =
      (List.replicate k none, ⟨rb, p, .idle⟩) := by
  induction k with
  | zero => rfl
  | succ k ih =>
      rw [List.replicate_succ, Transducer.run]
      change (none :: (Transducer.run ringStep (List.replicate k _) ⟨rb, p, .idle⟩).1,
        (Transducer.run ringStep (List.replicate k _) ⟨rb, p, .idle⟩).2) = _
      rw [ih, List.replicate_succ]

-- `k` bytes of the consumer's copy.
theorem run_copyOut (h : rb.Wf) (first : RingCounter) (buf : List UInt8) (p : PutPc) (k : Nat)
    (hk : k ≤ rb.esize.toNat) :
    Transducer.run ringStep (List.replicate k (.getStep first : RingStep esize))
        ⟨rb, p, .copying buf 1 rb.outPos 0⟩ =
      (List.replicate k none, ⟨rb, p, .copying
        (write buf 0 (slice (rb.cell (rb.outPos.toNat % rb.capacity)) 0 k)) 1 rb.outPos k⟩) := by
  have hcell := h.length_cell _ (Nat.mod_lt rb.outPos.toNat (Nat.succ_pos rb.mask.toNat))
  induction k with
  | zero =>
      rw [slice_zero, write_nil]
      rfl
  | succ k ih =>
      have hlen : (slice (rb.cell (rb.outPos.toNat % rb.capacity)) 0 k).length = k :=
        length_slice _ _ _ (by omega)
      have hgrow := write_write_behind buf (slice (rb.cell (rb.outPos.toNat % rb.capacity)) 0 k)
        (slice (rb.cell (rb.outPos.toNat % rb.capacity)) k 1) 0 (Nat.zero_le _)
      have hbyte : slice (rb.cell (rb.outPos.toNat % rb.capacity)) k 1 =
          slice rb.data (rb.outPos.toNat % rb.capacity * rb.esize.toNat + k) 1 := by
        rw [RingBuffer.cell, slot, slice_slice rb.data _ _ k 1 hk]
      rw [hlen, Nat.zero_add] at hgrow
      have hstep : ringStep ⟨rb, p, .copying
            (write buf 0 (slice (rb.cell (rb.outPos.toNat % rb.capacity)) 0 k)) 1 rb.outPos k⟩
          (.getStep first : RingStep esize) =
          (none, ⟨rb, p, .copying
            (write buf 0 (slice (rb.cell (rb.outPos.toNat % rb.capacity)) 0 (k + 1)))
            1 rb.outPos (k + 1)⟩) := by
        simp only [ringStep, getStep, UInt32.one_mul]
        rw [if_pos (show k < rb.esize.toNat from hk), copyPosition_one h _ hk, ← hbyte, hgrow,
          slice_add _ 0 k 1, Nat.zero_add]
      rw [List.replicate_succ', Transducer.run_append, ih (by omega)]
      rw [Transducer.run, hstep, List.replicate_succ']
      rfl

theorem run_take (h : rb.Wf) (first : RingCounter) (buf : List UInt8) (p : PutPc) :
    Transducer.run ringStep
        (List.replicate (rb.esize.toNat + 1) (.getStep first : RingStep esize))
        ⟨rb, p, .copying buf 1 rb.outPos 0⟩ =
      (List.replicate rb.esize.toNat none ++
          [some (.obtained (rb.cell (rb.outPos.toNat % rb.capacity)))],
        ⟨rb.taken, p, .idle⟩) := by
  have hcell := h.length_cell _ (Nat.mod_lt rb.outPos.toNat (Nat.succ_pos rb.mask.toNat))
  have hwhole : slice (rb.cell (rb.outPos.toNat % rb.capacity)) 0 rb.esize.toNat =
      rb.cell (rb.outPos.toNat % rb.capacity) := by
    rw [slice, List.drop_zero, List.take_of_length_le (Nat.le_of_eq hcell)]
  have hback := slice_write_same buf (rb.cell (rb.outPos.toNat % rb.capacity)) 0 (Nat.zero_le _)
  rw [hcell] at hback
  have hlast : ringStep
      ⟨rb, p, .copying (write buf 0 (rb.cell (rb.outPos.toNat % rb.capacity))) 1 rb.outPos
        rb.esize.toNat⟩
      (.getStep first : RingStep esize) =
      (some (.obtained (rb.cell (rb.outPos.toNat % rb.capacity))), ⟨rb.taken, p, .idle⟩) := by
    rw [ringStep, getStep]
    simp only [UInt32.one_mul, Nat.lt_irrefl, if_false, hback]
    rfl
  rw [List.replicate_succ', Transducer.run_append, run_copyOut h first buf p _ (le_refl _), hwhole,
    Transducer.run, hlast]
  rfl

theorem ringbufferGet_elemOf (buf : List UInt8) (len : UInt32) :
    ringbufferGet rb (some buf) len =
      if elemOf rb len = 0 then (0, some buf, rb) else ringbufferGet rb (some buf) 1 := by
  have hone : ¬ (1 : UInt32) = 0 := by decide
  by_cases hlen : len = 0
  · simp only [ringbufferGet, elemOf, if_pos hlen, if_true]
  · by_cases hbytes : len * rb.esize ≥ rb.esize
    · simp only [ringbufferGet, elemOf, if_neg hlen, if_pos hbytes, hone, UInt32.one_mul,
        UInt32.le_refl, ge_iff_le, if_true, if_false]
    · simp only [ringbufferGet, elemOf, if_neg hlen, if_neg hbytes, if_true]

theorem run_get_reads {len : UInt32} (helem : ¬ elemOf rb len = 0) (first : RingCounter)
    (buf : ElemBuffer esize) (p : PutPc) (k : Nat) :
    Transducer.run ringStep (.get (some buf) len :: List.replicate (k + 2) (.getStep first))
        ⟨rb, p, .idle⟩ =
      let r := Transducer.run ringStep (List.replicate k (.getStep first : RingStep esize))
        ⟨rb, p, .reading buf.bytes (some rb.inPos) (some rb.outPos)⟩
      (none :: none :: none :: r.1, r.2) := by
  rw [List.replicate_succ, List.replicate_succ, Transducer.run, ringStep]
  simp only [if_neg helem]
  cases first with
  | inPos => rfl
  | outPos => rfl

/-- The same for `ringbuffer_get`. -/
theorem ringbufferGet_uninterrupted (h : rb.Wf) (first : RingCounter)
    (buf : ElemBuffer rb.esize.toNat) (len : UInt32) (p : PutPc) :
    let r := Transducer.run ringStep
      (.get (some buf) len :: List.replicate (rb.esize.toNat + 4) (.getStep first)) ⟨rb, p, .idle⟩
    let sequential := ringbufferGet rb (some buf.bytes) len
    r.2 = ⟨sequential.2.2, p, .idle⟩ ∧
      obtainedElems r.1 =
        if sequential.1 = 1 then (sequential.2.1.map (slice · 0 rb.esize.toNat)).toList
        else [] := by
  have hzero : ¬ (0 : UInt32) = 1 := by decide
  have hone : ¬ (1 : UInt32) = 0 := by decide
  rw [ringbufferGet_elemOf]
  by_cases helem : elemOf rb len = 0
  · rw [if_pos helem, Transducer.run, ringStep]
    simp only [if_pos helem, run_getStep_idle, if_neg hzero, true_and]
    exact obtainedElems_silent _
  · have hcount : (rb.inPos - rb.outPos).toNat = rb.count := rfl
    rw [if_neg helem, run_get_reads helem, ringbufferGet_cell h, List.replicate_succ,
      Transducer.run, ringStep, getStep]
    by_cases hempty : rb.inPos - rb.outPos = 0
    · rw [hempty, UInt32.toNat_zero] at hcount
      simp only [rbMin_one, hempty, if_true, ← hcount, Nat.lt_irrefl, if_false, run_getStep_idle,
        hzero, true_and]
      exact obtainedElems_silent _
    · have hpos : 0 < rb.count := by
        apply Nat.pos_of_ne_zero
        exact fun h0 => hempty (UInt32.toNat_inj.mp (hcount.trans h0))
      simp only [rbMin_one, hempty, hone, hpos, if_true, if_false]
      rw [run_take h first buf.bytes]
      refine ⟨rfl, ?_⟩
      have hback := slice_write_same buf.bytes (rb.cell (rb.outPos.toNat % rb.capacity)) 0
        (Nat.zero_le _)
      rw [h.length_cell _ (Nat.mod_lt rb.outPos.toNat (Nat.succ_pos _))] at hback
      change obtainedElems (List.replicate _ none ++ _) = _
      rw [obtainedElems, List.filterMap_append, ← obtainedElems, obtainedElems_silent,
        Option.map_some, hback]
      rfl

end Alone
/-! ## Every interleaving -/

-- A ring just created, after any number of elements have passed through it.
theorem interleaved_start {size esize : UInt32} {heap heap' : Heap} {rb : RingBuffer}
    (hcreate : ringbufferCreate size esize heap = (some rb, heap')) (passed : UInt32) :
    Interleaved rb.esize.toNat rb.capacity []
      ⟨{ rb with inPos := passed, outPos := passed }, .idle, .idle⟩ := by
  obtain ⟨hwf, _, _⟩ := ringbufferCreate_wf hcreate
  have hcount : RingBuffer.count { rb with inPos := passed, outPos := passed } = 0 := by
    simp [RingBuffer.count]
  refine ⟨⟨hwf.pow, hwf.esize_pos, hwf.size_lt, hwf.length_eq, ?_⟩, rfl, rfl, trivial, trivial, ?_⟩
  · rw [hcount]
    exact Nat.zero_le _
  · rw [RingBuffer.contents, hcount]
    rfl

/-- One producer and one consumer in any order of their steps: they never touch the same slot, the
ring is never over-full, and the consumer gets the producer's elements in order. -/
theorem ringbuffer_interleaved {size esize : UInt32} {heap heap' : Heap} {rb : RingBuffer}
    (hcreate : ringbufferCreate size esize heap = (some rb, heap')) (passed : UInt32)
    (steps : List (RingStep rb.esize.toNat)) :
    let s := Transducer.run ringStep steps
      ⟨{ rb with inPos := passed, outPos := passed }, .idle, .idle⟩
    List.Disjoint s.2.putBytes s.2.getBytes ∧
      (s.2.rb.inPos - s.2.rb.outPos).toNat ≤ rb.capacity ∧
      obtainedElems s.1 <+: acceptedElems s.1 := by
  have hrun := Transducer.run_answers (Interleaved rb.esize.toNat rb.capacity)
    (interleaved_start hcreate passed) (fun _ _ step h => h.step step) steps
  refine ⟨hrun.disjoint, ?_, ?_⟩
  · rw [← hrun.capacity_eq]
    exact hrun.wf.count_le
  · rw [hrun.queue]
    exact List.prefix_append _ _

/-- A ring of two one-byte elements, just created. -/
def smallRing : RingBuffer := ⟨0, 1, [0, 0], 0, 0, 1, 1⟩

/-- One element stored, then a second `ringbuffer_put` step by step with a `ringbuffer_get`. -/
def overlappingCalls : List (RingStep smallRing.esize.toNat) :=
  [.put (some ⟨[7], by decide⟩) 1] ++ List.replicate 5 (.putStep .inPos) ++
    [.put (some ⟨[8], by decide⟩) 1, .get (some ⟨[0], by decide⟩) 1] ++
    (List.replicate 5 [.putStep .outPos, .getStep .inPos]).flatten

theorem ringbuffer_interleaved_overlapping :
    let s := Transducer.run ringStep overlappingCalls
      ⟨{ smallRing with inPos := 0xFFFFFFFF, outPos := 0xFFFFFFFF }, .idle, .idle⟩
    acceptedElems s.1 = [[7], [8]] ∧ obtainedElems s.1 = [[7]] ∧
      obtainedElems s.1 <+: acceptedElems s.1 := by
  have hcreate : ringbufferCreate 2 1 ⟨fun _ => true, 0, []⟩ =
      (some smallRing, ⟨fun _ => true, 2, []⟩) := rfl
  exact ⟨by decide, by decide, (ringbuffer_interleaved hcreate 0xFFFFFFFF overlappingCalls).2.2⟩

end CanGateway
