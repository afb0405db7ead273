import CanGateway.Library.Transducer
import CanGateway.RingBuffer

/-!
# Channel sets

`RingBuffer32ChSet` is an array of ring buffers of one element size and capacity.  A set built by
`ringbuffer_32ch_init` is a bank of independent bounded FIFO queues (`bank`), and the `_32ch_`
operations are the bank's operations.
-/

namespace CanGateway

/-- The channel array and the ring of each channel. -/
structure ChannelArray where
  block : Nat
  rings : List (Option RingBuffer)

structure RingBuffer32ChSet where
  channels : Option ChannelArray
  maxChannel : UInt8
  elemSize : UInt32
  bufCapacity : UInt32

namespace RingBuffer32ChSet

/-- `memset(set, 0, sizeof(*set))`. -/
def zero : RingBuffer32ChSet := ⟨none, 0, 0, 0⟩

/-- `set->channels[i]`. -/
def ring (set : RingBuffer32ChSet) (i : Nat) : Option RingBuffer :=
  set.channels.bind fun array => array.rings.getD i none

/-- `set->channels[i] = rb`. -/
def setRing (set : RingBuffer32ChSet) (i : Nat) (rb : Option RingBuffer) : RingBuffer32ChSet :=
  { set with
    channels := set.channels.map fun array => { array with rings := array.rings.set i rb } }

end RingBuffer32ChSet

/-! ## Initialisation -/

def ringbuffer32chDestory (set : RingBuffer32ChSet) (_maxChannel : UInt8) (heap : Heap) :
    RingBuffer32ChSet × Heap :=
  match set.channels with
  | none => (.zero, heap)
  | some array =>
      let heap := (List.range set.maxChannel.toNat).foldl
        (fun heap i => ringbufferDestory (array.rings.getD i none) heap) heap
      (.zero, heap.free array.block)

/-- The loop of `ringbuffer_32ch_init` from channel `i` on, `n` channels to go. -/
def createChannels (bufSize elemSize : UInt32) (maxChannel : UInt8) :
    Nat → Nat → RingBuffer32ChSet → Heap → Int × RingBuffer32ChSet × Heap
  | 0, _, set, heap => (0, set, heap)
  | n + 1, i, set, heap =>
      match ringbufferCreate bufSize elemSize heap with
      | (none, heap) =>
          let r := ringbuffer32chDestory (set.setRing i none) maxChannel heap
          (-1, r.1, r.2)
      | (some rb, heap) =>
          createChannels bufSize elemSize maxChannel n (i + 1) (set.setRing i (some rb)) heap

/-- The capacity `ringbuffer_32ch_init` gives every channel. -/
def actualCap (bufCapacity : UInt32) : UInt32 :=
  let cap := if isPowerOf2 bufCapacity then bufCapacity else rounddownPowOfTwo bufCapacity
  if cap = 0 then 1 else cap

def ringbuffer32chInit (set : RingBuffer32ChSet) (elemSize bufCapacity : UInt32)
    (maxChannel : UInt8) (heap : Heap) : Int × RingBuffer32ChSet × Heap :=
  if elemSize = 0 ∨ bufCapacity = 0 ∨ maxChannel = 0 then (-1, set, heap)
  else
    let actualCap := actualCap bufCapacity
    if actualCap > 0xFFFFFFFF / elemSize then (-1, .zero, heap)
    else
      match heap.malloc with
      | (none, heap) => (-1, .zero, heap)
      | (some block, heap) =>
          let set : RingBuffer32ChSet :=
            { channels := some ⟨block, List.replicate maxChannel.toNat none⟩
              maxChannel := maxChannel
              elemSize := elemSize
              bufCapacity := actualCap }
          createChannels (actualCap * elemSize) elemSize maxChannel maxChannel.toNat 0 set heap

/-! ## Operations on one channel -/

def ringbufferChannelValid (set : RingBuffer32ChSet) (ch maxChannel : UInt8) : Bool :=
  set.channels.isSome && ch < maxChannel && ch < set.maxChannel && (set.ring ch.toNat).isSome

/-- The ring of a valid channel. -/
def validRing (set : RingBuffer32ChSet) (ch maxChannel : UInt8) : Option RingBuffer :=
  if ringbufferChannelValid set ch maxChannel then set.ring ch.toNat else none

def ringbuffer32chPut (set : RingBuffer32ChSet) (ch : UInt8) (data : Option (List UInt8))
    (maxChannel : UInt8) : UInt32 × RingBuffer32ChSet :=
  match data, validRing set ch maxChannel with
  | some data, some rb =>
      let r := ringbufferPut rb (some data) 1
      (r.1, set.setRing ch.toNat (some r.2))
  | _, _ => (0, set)

/-- The element count, the destination's new bytes and the set. -/
def ringbuffer32chGet (set : RingBuffer32ChSet) (ch : UInt8) (data : Option (List UInt8))
    (maxChannel : UInt8) : UInt32 × Option (List UInt8) × RingBuffer32ChSet :=
  match data, validRing set ch maxChannel with
  | some data, some rb =>
      let r := ringbufferGet rb (some data) 1
      (r.1, r.2.1, set.setRing ch.toNat (some r.2.2))
  | data, _ => (0, data, set)

def ringbuffer32chLen (set : RingBuffer32ChSet) (ch maxChannel : UInt8) : UInt32 :=
  match validRing set ch maxChannel with
  | none => 0
  | some rb => ringbufferLen rb

def ringbuffer32chReset (set : RingBuffer32ChSet) (ch maxChannel : UInt8) : RingBuffer32ChSet :=
  match validRing set ch maxChannel with
  | none => set
  | some rb => set.setRing ch.toNat (some (ringbufferReset rb))

def ringbuffer32chAvail (set : RingBuffer32ChSet) (ch maxChannel : UInt8) : UInt32 :=
  match validRing set ch maxChannel with
  | none => 0
  | some rb => ringbufferAvail rb

/-! ## The bank of queues a set stands for -/

namespace RingBuffer32ChSet

/-- The queued elements of a channel, oldest first. -/
def queue (set : RingBuffer32ChSet) (ch : Nat) : List (List UInt8) :=
  match set.ring ch with
  | none => []
  | some rb => rb.contents

def bank (set : RingBuffer32ChSet) : QueueBank (List UInt8) where
  channels := set.maxChannel.toNat
  cap := set.bufCapacity.toNat
  queue := set.queue

/-- A ring of the element size and capacity the set was built for. -/
structure Fits (set : RingBuffer32ChSet) (rb : RingBuffer) : Prop where
  wf : rb.Wf
  esize : rb.esize = set.elemSize
  capacity : rb.capacity = set.bufCapacity.toNat

/-- Every channel has a ring. -/
def Wf (set : RingBuffer32ChSet) : Prop :=
  ∀ i, i < set.maxChannel.toNat → ∃ rb, set.ring i = some rb ∧ set.Fits rb

variable {set : RingBuffer32ChSet}

theorem queue_of_ring {i : Nat} {rb : RingBuffer} (h : set.ring i = some rb) :
    set.queue i = rb.contents := by
  rw [queue, h]

theorem ring_setRing_other {i j : Nat} (rb : Option RingBuffer) (h : j ≠ i) :
    (set.setRing i rb).ring j = set.ring j := by
  unfold setRing ring
  cases set.channels with
  | none => rfl
  | some array =>
      show (array.rings.set i rb).getD j none = array.rings.getD j none
      rw [List.getD_eq_getElem?_getD, List.getElem?_set_ne (Ne.symm h), List.getD_eq_getElem?_getD]

/-- The length of the channel array. -/
def slots (set : RingBuffer32ChSet) : Nat :=
  match set.channels with
  | none => 0
  | some array => array.rings.length

theorem ring_setRing_self {i : Nat} (h : i < set.slots) (rb : Option RingBuffer) :
    (set.setRing i rb).ring i = rb := by
  unfold setRing
  unfold slots at h
  unfold ring
  cases hc : set.channels with
  | none =>
      rw [hc] at h
      exact absurd h (Nat.not_lt_zero i)
  | some array =>
      rw [hc] at h
      show (array.rings.set i rb).getD i none = rb
      rw [List.getD_eq_getElem?_getD, List.getElem?_set_self h]
      rfl

theorem slots_setRing (i : Nat) (rb : Option RingBuffer) :
    (set.setRing i rb).slots = set.slots := by
  unfold setRing slots
  cases set.channels with
  | none => rfl
  | some array => exact List.length_set

theorem lt_slots {i : Nat} {rb : RingBuffer} (h : set.ring i = some rb) : i < set.slots := by
  unfold ring at h
  unfold slots
  cases hc : set.channels with
  | none => rw [hc] at h; cases h
  | some array =>
      rw [hc] at h
      change array.rings.getD i none = some rb at h
      apply Nat.lt_of_not_le
      intro hle
      rw [List.getD_eq_default _ _ hle] at h
      cases h

-- Replacing a channel's ring replaces its queue and no other.
theorem bank_setRing {i : Nat} {rb : RingBuffer} (h : set.ring i = some rb) (rb' : RingBuffer) :
    (set.setRing i (some rb')).bank = set.bank.update i rb'.contents := by
  have hq : (set.setRing i (some rb')).queue = (set.bank.update i rb'.contents).queue := by
    funext j
    by_cases hj : j = i
    · subst hj
      rw [queue_of_ring (ring_setRing_self (lt_slots h) _), QueueBank.update_self]
    · rw [queue, ring_setRing_other _ hj, QueueBank.update_other _ _ _ _ hj]
      rfl
  rw [bank, hq]
  rfl

theorem Wf.setRing (hset : set.Wf) {i : Nat} {rb : RingBuffer} (h : set.ring i = some rb)
    {rb' : RingBuffer} (hfits : set.Fits rb') : (set.setRing i (some rb')).Wf := by
  intro j hj
  by_cases hij : j = i
  · subst hij
    exact ⟨rb', ring_setRing_self (lt_slots h) _, hfits.wf, hfits.esize, hfits.capacity⟩
  · obtain ⟨rbj, hring, hwf, hsize, hcap⟩ := hset j hj
    exact ⟨rbj, by rw [ring_setRing_other _ hij, hring], hwf, hsize, hcap⟩

-- A valid channel has its ring; an invalid one has none the operations would touch.
theorem Wf.validRing (hset : set.Wf) (ch maxChannel : UInt8) :
    if set.bank.Valid maxChannel.toNat ch.toNat then
      ∃ rb, CanGateway.validRing set ch maxChannel = some rb ∧ set.ring ch.toNat = some rb ∧
        set.Fits rb
    else CanGateway.validRing set ch maxChannel = none := by
  split
  next hvalid =>
    obtain ⟨rb, hring, hfits⟩ := hset ch.toNat hvalid.2
    have hsome : set.channels.isSome = true := by
      cases hc : set.channels with
      | none => rw [ring, hc] at hring; cases hring
      | some array => rfl
    refine ⟨rb, ?_, hring, hfits⟩
    rw [CanGateway.validRing, if_pos, hring]
    simp only [ringbufferChannelValid, hsome, hring, Option.isSome_some, Bool.and_true,
      Bool.true_and, Bool.and_eq_true, decide_eq_true_eq, UInt8.lt_iff_toNat_lt]
    exact hvalid
  next hvalid =>
    rw [CanGateway.validRing, if_neg]
    intro hch
    simp only [ringbufferChannelValid, Bool.and_eq_true, decide_eq_true_eq,
      UInt8.lt_iff_toNat_lt] at hch
    exact hvalid ⟨hch.1.1.2, hch.1.2⟩

/-- What an operation leaves as it was. -/
structure Keeps (set set' : RingBuffer32ChSet) : Prop where
  wf : set'.Wf
  elemSize : set'.elemSize = set.elemSize
  maxChannel : set'.maxChannel = set.maxChannel
  bufCapacity : set'.bufCapacity = set.bufCapacity

theorem Wf.keeps_self (hset : set.Wf) : set.Keeps set := ⟨hset, rfl, rfl, rfl⟩

theorem Keeps.trans {set' set'' : RingBuffer32ChSet} (h : set.Keeps set') (h' : set'.Keeps set'') :
    set.Keeps set'' :=
  ⟨h'.wf, h'.elemSize.trans h.elemSize, h'.maxChannel.trans h.maxChannel,
    h'.bufCapacity.trans h.bufCapacity⟩

theorem Wf.keeps_setRing (hset : set.Wf) {i : Nat} {rb : RingBuffer} (h : set.ring i = some rb)
    {rb' : RingBuffer} (hfits : set.Fits rb') : set.Keeps (set.setRing i (some rb')) :=
  ⟨hset.setRing h hfits, rfl, rfl, rfl⟩

theorem length_queue {i : Nat} {rb : RingBuffer} (h : set.ring i = some rb) :
    (set.bank.queue i).length = rb.count := by
  show (set.queue i).length = rb.count
  rw [queue_of_ring h, RingBuffer.length_contents]

-- Writing a ring back unchanged.
theorem bank_setRing_same {i : Nat} {rb : RingBuffer} (h : set.ring i = some rb) :
    (set.setRing i (some rb)).bank = set.bank := by
  rw [bank_setRing h, ← queue_of_ring h]
  exact QueueBank.update_queue set.bank i

end RingBuffer32ChSet

/-! ## The operations are the bank's -/

section Operations

variable {set : RingBuffer32ChSet}

/-- `1` for success, as the C functions return it. -/
def successCode (ok : Bool) : UInt32 := if ok then 1 else 0

@[simp] theorem successCode_eq_one (ok : Bool) : successCode ok = 1 ↔ ok = true := by
  cases ok <;> decide

theorem ringbuffer32chPut_spec (hset : set.Wf) (ch maxChannel : UInt8) (data : List UInt8)
    (hdata : data.length = set.elemSize.toNat) :
    (ringbuffer32chPut set ch (some data) maxChannel).1 =
        successCode (set.bank.put maxChannel.toNat ch.toNat data).1 ∧
      (ringbuffer32chPut set ch (some data) maxChannel).2.bank =
        (set.bank.put maxChannel.toNat ch.toNat data).2 ∧
      set.Keeps (ringbuffer32chPut set ch (some data) maxChannel).2 := by
  have hvalid := hset.validRing ch maxChannel
  split at hvalid
  next hv =>
    obtain ⟨rb, hrb, hring, hfits⟩ := hvalid
    have hlen := RingBuffer32ChSet.length_queue hring
    have hcap : set.bank.cap = rb.capacity := hfits.capacity.symm
    have hput := ringbufferPut_one hfits.wf data (by rw [hdata, hfits.esize])
    simp only [ringbuffer32chPut, hrb, hput, QueueBank.put, hlen, hcap]
    by_cases hroom : rb.count < rb.capacity
    · have hbuf : data.length = rb.esize.toNat := by rw [hdata, hfits.esize]
      rw [if_pos hroom, if_pos ⟨hv, hroom⟩]
      refine ⟨rfl, ?_,
        hset.keeps_setRing hring ⟨hfits.wf.stored hbuf hroom, hfits.esize, hfits.capacity⟩⟩
      rw [RingBuffer32ChSet.bank_setRing hring, hfits.wf.contents_stored hbuf hroom,
        ← RingBuffer32ChSet.queue_of_ring hring]
      rfl
    · rw [if_neg hroom, if_neg (fun h => hroom h.2)]
      exact ⟨rfl, RingBuffer32ChSet.bank_setRing_same hring, hset.keeps_setRing hring hfits⟩
  next hv =>
    rw [QueueBank.put, if_neg (fun h => hv h.1)]
    unfold ringbuffer32chPut
    rw [hvalid]
    exact ⟨rfl, rfl, hset.keeps_self⟩

theorem ringbuffer32chGet_spec (hset : set.Wf) (ch maxChannel : UInt8) (dst : List UInt8)
    (hdst : dst.length = set.elemSize.toNat) :
    (ringbuffer32chGet set ch (some dst) maxChannel).1 =
        successCode (set.bank.get maxChannel.toNat ch.toNat).1.isSome ∧
      (ringbuffer32chGet set ch (some dst) maxChannel).2.1 =
        some ((set.bank.get maxChannel.toNat ch.toNat).1.getD dst) ∧
      (ringbuffer32chGet set ch (some dst) maxChannel).2.2.bank =
        (set.bank.get maxChannel.toNat ch.toNat).2 ∧
      set.Keeps (ringbuffer32chGet set ch (some dst) maxChannel).2.2 := by
  have hvalid := hset.validRing ch maxChannel
  split at hvalid
  next hv =>
    obtain ⟨rb, hrb, hring, hfits⟩ := hvalid
    have hqueue : set.bank.queue ch.toNat = rb.contents := RingBuffer32ChSet.queue_of_ring hring
    have hget := ringbufferGet_one hfits.wf dst (by rw [hdst, hfits.esize])
    simp only [ringbuffer32chGet, hrb, hget, QueueBank.get, if_pos hv, hqueue]
    by_cases hpos : 0 < rb.count
    · rw [if_pos hpos, hfits.wf.contents_cons hpos]
      refine ⟨rfl, rfl, RingBuffer32ChSet.bank_setRing hring _, ?_⟩
      exact hset.keeps_setRing hring ⟨hfits.wf.taken hpos, hfits.esize, hfits.capacity⟩
    · have hnil : rb.contents = [] := by
        apply List.eq_nil_of_length_eq_zero
        rw [RingBuffer.length_contents]
        omega
      rw [if_neg hpos, hnil]
      exact ⟨rfl, rfl, RingBuffer32ChSet.bank_setRing_same hring, hset.keeps_setRing hring hfits⟩
  next hv =>
    rw [QueueBank.get, if_neg hv]
    unfold ringbuffer32chGet
    rw [hvalid]
    exact ⟨rfl, rfl, rfl, hset.keeps_self⟩

theorem ringbuffer32chLen_spec (hset : set.Wf) (ch maxChannel : UInt8) :
    (ringbuffer32chLen set ch maxChannel).toNat = set.bank.len maxChannel.toNat ch.toNat := by
  have hvalid := hset.validRing ch maxChannel
  split at hvalid
  next hv =>
    obtain ⟨rb, hrb, hring, _⟩ := hvalid
    rw [ringbuffer32chLen, hrb, QueueBank.len, if_pos hv, RingBuffer32ChSet.length_queue hring]
    rfl
  next hv => rw [ringbuffer32chLen, hvalid, QueueBank.len, if_neg hv, UInt32.toNat_zero]

theorem ringbuffer32chAvail_spec (hset : set.Wf) (ch maxChannel : UInt8) :
    (ringbuffer32chAvail set ch maxChannel).toNat = set.bank.avail maxChannel.toNat ch.toNat := by
  have hvalid := hset.validRing ch maxChannel
  split at hvalid
  next hv =>
    obtain ⟨rb, hrb, hring, hfits⟩ := hvalid
    have hcap : set.bank.cap = rb.capacity := hfits.capacity.symm
    rw [ringbuffer32chAvail, hrb, QueueBank.avail, if_pos hv,
      RingBuffer32ChSet.length_queue hring, hcap]
    exact ringbufferAvail_toNat hfits.wf
  next hv => rw [ringbuffer32chAvail, hvalid, QueueBank.avail, if_neg hv, UInt32.toNat_zero]

theorem ringbuffer32chReset_spec (hset : set.Wf) (ch maxChannel : UInt8) :
    (ringbuffer32chReset set ch maxChannel).bank =
        set.bank.reset maxChannel.toNat ch.toNat ∧
      set.Keeps (ringbuffer32chReset set ch maxChannel) := by
  have hvalid := hset.validRing ch maxChannel
  split at hvalid
  next hv =>
    obtain ⟨rb, hrb, hring, hfits⟩ := hvalid
    simp only [ringbuffer32chReset, hrb, QueueBank.reset, if_pos hv]
    refine ⟨?_, hset.keeps_setRing hring
      ⟨ringbufferReset_wf hfits.wf, hfits.esize, hfits.capacity⟩⟩
    rw [RingBuffer32ChSet.bank_setRing hring, ringbufferReset_contents]
  next hv =>
    rw [ringbuffer32chReset, hvalid, QueueBank.reset, if_neg hv]
    exact ⟨rfl, hset.keeps_self⟩

end Operations

/-! ## Sets of encoded elements -/

/-- A set whose queues hold the elements of a bank, encoded as bytes. -/
structure Carries {α : Type} (encode : α → List UInt8) (set : RingBuffer32ChSet)
    (bank : QueueBank α) : Prop where
  wf : set.Wf
  size : ∀ x, (encode x).length = set.elemSize.toNat
  bank_eq : set.bank = bank.map encode

namespace Carries

variable {α : Type} {encode : α → List UInt8} {set : RingBuffer32ChSet} {bank : QueueBank α}

theorem put (h : Carries encode set bank) (ch maxChannel : UInt8) (x : α) :
    (ringbuffer32chPut set ch (some (encode x)) maxChannel).1 =
        successCode (bank.put maxChannel.toNat ch.toNat x).1 ∧
      Carries encode (ringbuffer32chPut set ch (some (encode x)) maxChannel).2
        (bank.put maxChannel.toNat ch.toNat x).2 := by
  obtain ⟨hret, hbank, hkeep⟩ := ringbuffer32chPut_spec h.wf ch maxChannel (encode x) (h.size x)
  rw [h.bank_eq, QueueBank.map_put] at hret hbank
  exact ⟨hret, hkeep.wf, fun y => by rw [hkeep.elemSize, h.size y], hbank⟩

theorem get (h : Carries encode set bank) (ch maxChannel : UInt8) (dst : List UInt8)
    (hdst : dst.length = set.elemSize.toNat) :
    (ringbuffer32chGet set ch (some dst) maxChannel).1 =
        successCode (bank.get maxChannel.toNat ch.toNat).1.isSome ∧
      (ringbuffer32chGet set ch (some dst) maxChannel).2.1 =
        some (((bank.get maxChannel.toNat ch.toNat).1.map encode).getD dst) ∧
      Carries encode (ringbuffer32chGet set ch (some dst) maxChannel).2.2
        (bank.get maxChannel.toNat ch.toNat).2 := by
  obtain ⟨hret, hdata, hbank, hkeep⟩ := ringbuffer32chGet_spec h.wf ch maxChannel dst hdst
  rw [h.bank_eq, QueueBank.map_get] at hret hdata hbank
  rw [Option.isSome_map] at hret
  exact ⟨hret, hdata, hkeep.wf, fun y => by rw [hkeep.elemSize, h.size y], hbank⟩

theorem len (h : Carries encode set bank) (ch maxChannel : UInt8) :
    (ringbuffer32chLen set ch maxChannel).toNat = bank.len maxChannel.toNat ch.toNat := by
  rw [ringbuffer32chLen_spec h.wf, h.bank_eq, QueueBank.map_len]

theorem avail (h : Carries encode set bank) (ch maxChannel : UInt8) :
    (ringbuffer32chAvail set ch maxChannel).toNat = bank.avail maxChannel.toNat ch.toNat := by
  rw [ringbuffer32chAvail_spec h.wf, h.bank_eq, QueueBank.map_avail]

theorem reset (h : Carries encode set bank) (ch maxChannel : UInt8) :
    Carries encode (ringbuffer32chReset set ch maxChannel)
      (bank.reset maxChannel.toNat ch.toNat) := by
  obtain ⟨hbank, hkeep⟩ := ringbuffer32chReset_spec h.wf ch maxChannel
  rw [h.bank_eq, QueueBank.map_reset] at hbank
  exact ⟨hkeep.wf, fun y => by rw [hkeep.elemSize, h.size y], hbank⟩

-- The loop that resets the first `n` channels.
theorem resetAll (h : Carries encode set bank) (maxChannel : UInt8) (n : Nat) (hn : n ≤ 256) :
    Carries encode ((List.range n).foldl
        (fun set ch => ringbuffer32chReset set (UInt8.ofNat ch) maxChannel) set)
      (bank.resetAll maxChannel.toNat n) := by
  induction n with
  | zero => exact h
  | succ n ih =>
      have hstep := (ih (by omega)).reset (UInt8.ofNat n) maxChannel
      rw [UInt8.toNat_ofNat_of_lt' (by show n < 256; omega)] at hstep
      rw [List.range_succ, List.foldl_append, QueueBank.resetAll_succ]
      exact hstep

end Carries

/-! ## A set built by `ringbuffer_32ch_init` -/

theorem actualCap_pow (bufCapacity : UInt32) (h : bufCapacity ≠ 0) :
    ∃ k, (actualCap bufCapacity).toNat = 2 ^ k := by
  unfold actualCap
  split
  next hp =>
    rw [if_neg h]
    exact (isPowerOf2_iff bufCapacity).mp hp
  next =>
    have hr := rounddownPowOfTwo_toNat bufCapacity h
    have hpos := Nat.two_pow_pos bufCapacity.toNat.log2
    have hne : ¬ rounddownPowOfTwo bufCapacity = 0 := by
      intro h0
      rw [h0, UInt32.toNat_zero] at hr
      omega
    rw [if_neg hne]
    exact ⟨_, hr⟩

/-- The channels before `i` have their empty ring, the others have none yet. -/
structure CreatedTo (set : RingBuffer32ChSet) (i : Nat) : Prop where
  slots : set.slots = set.maxChannel.toNat
  done : ∀ j, j < i → ∃ rb, set.ring j = some rb ∧ set.Fits rb ∧ rb.count = 0
  todo : ∀ j, i ≤ j → set.ring j = none

theorem CreatedTo.next {set : RingBuffer32ChSet} {i : Nat} (h : CreatedTo set i)
    (hi : i < set.maxChannel.toNat) {rb : RingBuffer} (hfits : set.Fits rb) (hrb : rb.count = 0) :
    CreatedTo (set.setRing i (some rb)) (i + 1) where
  slots := by
    rw [RingBuffer32ChSet.slots_setRing]
    exact h.slots
  done := by
    intro j hj
    by_cases hij : j = i
    · subst hij
      have hs : j < set.slots := by
        rw [h.slots]
        exact hi
      exact ⟨rb, RingBuffer32ChSet.ring_setRing_self hs _, ⟨hfits.wf, hfits.esize, hfits.capacity⟩,
        hrb⟩
    · obtain ⟨rbj, hring, hfitsj, hz⟩ := h.done j (by omega)
      exact ⟨rbj, by rw [RingBuffer32ChSet.ring_setRing_other _ hij, hring],
        ⟨hfitsj.wf, hfitsj.esize, hfitsj.capacity⟩, hz⟩
  todo := by
    intro j hj
    rw [RingBuffer32ChSet.ring_setRing_other _ (by omega)]
    exact h.todo j (by omega)

theorem createChannels_success {cap elemSize : UInt32} (maxChannel : UInt8)
    (hpow : ∃ k, cap.toNat = 2 ^ k) (hsize : cap.toNat * elemSize.toNat < 2 ^ 32)
    (n i : Nat) (set set' : RingBuffer32ChSet) (heap heap' : Heap) (hcap : set.bufCapacity = cap)
    (helem : set.elemSize = elemSize) (hmax : i + n = set.maxChannel.toNat)
    (hset : CreatedTo set i)
    (h : createChannels (cap * elemSize) elemSize maxChannel n i set heap = (0, set', heap')) :
    CreatedTo set' set'.maxChannel.toNat ∧ set'.maxChannel = set.maxChannel ∧
      set'.bufCapacity = cap ∧ set'.elemSize = elemSize := by
  induction n generalizing i set heap with
  | zero =>
      cases h
      refine ⟨?_, rfl, hcap, helem⟩
      rw [← hmax]
      exact hset
  | succ n ih =>
      rw [createChannels] at h
      split at h
      · cases h
      next rb heap₁ hcreate =>
        obtain ⟨hwf, hrbcap, hesize, hz⟩ := ringbufferCreate_some hpow hsize hcreate
        have hfits : set.Fits rb := ⟨hwf, by rw [hesize, helem], by rw [hrbcap, hcap]⟩
        exact ih (i + 1) (set.setRing i (some rb)) heap₁ hcap helem
          (by rw [← Nat.succ_add_eq_add_succ] at hmax; exact hmax)
          (hset.next (by omega) hfits hz) h

-- A successful initialisation leaves a bank of empty queues of a power-of-two capacity.
theorem ringbuffer32chInit_success {set set' : RingBuffer32ChSet} {elemSize bufCapacity : UInt32}
    {maxChannel : UInt8} {heap heap' : Heap}
    (h : ringbuffer32chInit set elemSize bufCapacity maxChannel heap = (0, set', heap')) :
    set'.Wf ∧ set'.elemSize = elemSize ∧ set'.maxChannel = maxChannel ∧
      set'.bufCapacity = actualCap bufCapacity ∧
      set'.bank = QueueBank.fresh maxChannel.toNat (actualCap bufCapacity).toNat := by
  rw [ringbuffer32chInit] at h
  split at h
  · cases h
  next hargs =>
    have helem : 0 < elemSize.toNat := by
      apply Nat.pos_of_ne_zero
      intro h0
      exact hargs (Or.inl (UInt32.toNat_inj.mp h0))
    have hpow := actualCap_pow bufCapacity (fun h0 => hargs (Or.inr (Or.inl h0)))
    simp only at h
    split at h
    · cases h
    next hcap =>
      have hsize : (actualCap bufCapacity).toNat * elemSize.toNat < 2 ^ 32 := by
        rw [gt_iff_lt, UInt32.lt_iff_toNat_lt, UInt32.toNat_div, Nat.not_lt] at hcap
        have hle := (Nat.le_div_iff_mul_le helem).mp hcap
        exact Nat.lt_of_le_of_lt hle (by decide)
      split at h
      · cases h
      next block heap₁ _ =>
        have hzero : CreatedTo
            { channels := some ⟨block, List.replicate maxChannel.toNat none⟩
              maxChannel := maxChannel
              elemSize := elemSize
              bufCapacity := actualCap bufCapacity } 0 := by
          refine ⟨List.length_replicate, fun j hj => absurd hj (Nat.not_lt_zero j), ?_⟩
          intro j _
          show (List.replicate maxChannel.toNat none).getD j none = none
          rw [List.getD_eq_getElem?_getD, List.getElem?_replicate]
          split <;> rfl
        obtain ⟨hall, hmax, hcap', helem'⟩ :=
          createChannels_success maxChannel hpow hsize _ _ _ _ _ _ rfl rfl (Nat.zero_add _) hzero h
        have hqueue : set'.queue = fun _ => [] := by
          funext j
          by_cases hj : j < set'.maxChannel.toNat
          · obtain ⟨rb, hring, _, hz⟩ := hall.done j hj
            rw [RingBuffer32ChSet.queue_of_ring hring]
            apply List.eq_nil_of_length_eq_zero
            rw [RingBuffer.length_contents, hz]
          · rw [RingBuffer32ChSet.queue, hall.todo j (by omega)]
        refine ⟨?_, helem', hmax, hcap', ?_⟩
        · intro i hi
          obtain ⟨rb, hring, hfits, _⟩ := hall.done i hi
          exact ⟨rb, hring, hfits⟩
        · rw [RingBuffer32ChSet.bank, hqueue, hmax, hcap', QueueBank.fresh]

-- A fresh set carries a bank of empty queues, whatever its elements encode.
theorem carries_fresh {α : Type} (encode : α → List UInt8) {set set' : RingBuffer32ChSet}
    {elemSize bufCapacity : UInt32} {maxChannel : UInt8} {heap heap' : Heap}
    (h : ringbuffer32chInit set elemSize bufCapacity maxChannel heap = (0, set', heap'))
    (hsize : ∀ x, (encode x).length = elemSize.toNat) :
    Carries encode set' (QueueBank.fresh maxChannel.toNat (actualCap bufCapacity).toNat) := by
  obtain ⟨hwf, helem, _, _, hbank⟩ := ringbuffer32chInit_success h
  exact ⟨hwf, fun x => by rw [helem, hsize x], by rw [hbank, QueueBank.map_fresh]⟩

/-! ## Any sequence of calls -/

/-- An element of `n` bytes. -/
abbrev Elem (n : Nat) := { bytes : List UInt8 // bytes.length = n }

/-- A call on a set of `n`-byte elements: channel, data and the caller's limit. -/
inductive ChannelCall (n : Nat) where
  | put (ch : UInt8) (data : Elem n) (maxChannel : UInt8)
  | get (ch : UInt8) (data : Elem n) (maxChannel : UInt8)
  | len (ch maxChannel : UInt8)
  | avail (ch maxChannel : UInt8)
  | reset (ch maxChannel : UInt8)

/-- The value a call returns; for `get` also the bytes its destination then holds. -/
inductive ChannelAnswer where
  | count (n : Nat)
  | element (n : Nat) (data : Option (List UInt8))
  | done
  deriving DecidableEq

/-- A call carried out on the set. -/
def callSet {n : Nat} (set : RingBuffer32ChSet) :
    ChannelCall n → ChannelAnswer × RingBuffer32ChSet
  | .put ch data maxChannel =>
      let r := ringbuffer32chPut set ch (some data.1) maxChannel
      (.count r.1.toNat, r.2)
  | .get ch data maxChannel =>
      let r := ringbuffer32chGet set ch (some data.1) maxChannel
      (.element r.1.toNat r.2.1, r.2.2)
  | .len ch maxChannel => (.count (ringbuffer32chLen set ch maxChannel).toNat, set)
  | .avail ch maxChannel => (.count (ringbuffer32chAvail set ch maxChannel).toNat, set)
  | .reset ch maxChannel => (.done, ringbuffer32chReset set ch maxChannel)

/-- The same call on a bank of FIFO queues. -/
def callBank {n : Nat} (bank : QueueBank (List UInt8)) :
    ChannelCall n → ChannelAnswer × QueueBank (List UInt8)
  | .put ch data maxChannel =>
      match bank.put maxChannel.toNat ch.toNat data.1 with
      | (true, bank') => (.count 1, bank')
      | (false, _) => (.count 0, bank)
  | .get ch data maxChannel =>
      match bank.get maxChannel.toNat ch.toNat with
      | (some oldest, bank') => (.element 1 (some oldest), bank')
      | (none, _) => (.element 0 (some data.1), bank)
  | .len ch maxChannel => (.count (bank.len maxChannel.toNat ch.toNat), bank)
  | .avail ch maxChannel => (.count (bank.avail maxChannel.toNat ch.toNat), bank)
  | .reset ch maxChannel => (.done, bank.reset maxChannel.toNat ch.toNat)

theorem callSet_keeps {n : Nat} {set : RingBuffer32ChSet} (hset : set.Wf)
    (hn : set.elemSize.toNat = n) (call : ChannelCall n) : set.Keeps (callSet set call).2 := by
  cases call with
  | put ch data maxChannel =>
      exact (ringbuffer32chPut_spec hset ch maxChannel data.1 (by rw [data.2, hn])).2.2
  | get ch data maxChannel =>
      exact (ringbuffer32chGet_spec hset ch maxChannel data.1 (by rw [data.2, hn])).2.2.2
  | len ch maxChannel => exact hset.keeps_self
  | avail ch maxChannel => exact hset.keeps_self
  | reset ch maxChannel => exact (ringbuffer32chReset_spec hset ch maxChannel).2

-- One call: the same answer, and the bank's own step.
theorem callSet_refines {n : Nat} {set : RingBuffer32ChSet} (hset : set.Wf)
    (hn : set.elemSize.toNat = n) (call : ChannelCall n) :
    (callSet set call).1 = (callBank set.bank call).1 ∧
      (callSet set call).2.bank = (callBank set.bank call).2 := by
  cases call with
  | put ch data maxChannel =>
      obtain ⟨hret, hbank, _⟩ := ringbuffer32chPut_spec hset ch maxChannel data.1
        (by rw [data.2, hn])
      simp only [callSet, callBank, hret]
      by_cases hok : set.bank.Valid maxChannel.toNat ch.toNat ∧
        (set.bank.queue ch.toNat).length < set.bank.cap
      · rw [QueueBank.put, if_pos hok] at hbank ⊢
        exact ⟨rfl, hbank⟩
      · rw [QueueBank.put, if_neg hok] at hbank ⊢
        exact ⟨rfl, hbank⟩
  | get ch data maxChannel =>
      obtain ⟨hret, hdst, hbank, _⟩ := ringbuffer32chGet_spec hset ch maxChannel data.1
        (by rw [data.2, hn])
      simp only [callSet, callBank, hret, hdst, hbank]
      by_cases hv : set.bank.Valid maxChannel.toNat ch.toNat
      · rw [QueueBank.get, if_pos hv]
        cases set.bank.queue ch.toNat with
        | nil => exact ⟨rfl, rfl⟩
        | cons x rest => exact ⟨rfl, rfl⟩
      · rw [QueueBank.get, if_neg hv]
        exact ⟨rfl, rfl⟩
  | len ch maxChannel =>
      show (ChannelAnswer.count _, set).1 = _ ∧ _
      rw [ringbuffer32chLen_spec hset]
      exact ⟨rfl, rfl⟩
  | avail ch maxChannel =>
      show (ChannelAnswer.count _, set).1 = _ ∧ _
      rw [ringbuffer32chAvail_spec hset]
      exact ⟨rfl, rfl⟩
  | reset ch maxChannel => exact ⟨rfl, (ringbuffer32chReset_spec hset ch maxChannel).1⟩

-- No queue of a well-formed set exceeds the capacity.
theorem RingBuffer32ChSet.Wf.length_queue_le {set : RingBuffer32ChSet} (hset : set.Wf) {ch : Nat}
    (hch : ch < set.maxChannel.toNat) : (set.bank.queue ch).length ≤ set.bank.cap := by
  obtain ⟨rb, hring, hfits⟩ := hset ch hch
  rw [RingBuffer32ChSet.length_queue hring]
  show rb.count ≤ set.bufCapacity.toNat
  rw [← hfits.capacity]
  exact hfits.wf.count_le

theorem Carries.length_queue_le {α : Type} {encode : α → List UInt8} {set : RingBuffer32ChSet}
    {bank : QueueBank α} (h : Carries encode set bank) {ch : Nat} (hch : ch < bank.channels) :
    (bank.queue ch).length ≤ bank.cap := by
  have hlen : (set.bank.queue ch).length = (bank.queue ch).length := by
    rw [h.bank_eq]
    exact List.length_map encode
  have hchannels : set.maxChannel.toNat = bank.channels :=
    congrArg QueueBank.channels h.bank_eq
  have hcap : set.bank.cap = bank.cap := congrArg QueueBank.cap h.bank_eq
  rw [← hlen, ← hcap]
  apply h.wf.length_queue_le
  rw [hchannels]
  exact hch

-- Used and free room add up to the capacity.
theorem ringbuffer32chLen_add_avail {set : RingBuffer32ChSet} (hset : set.Wf)
    (ch maxChannel : UInt8) (hv : set.bank.Valid maxChannel.toNat ch.toNat) :
    (ringbuffer32chLen set ch maxChannel).toNat + (ringbuffer32chAvail set ch maxChannel).toNat =
      set.bank.cap := by
  have hle := hset.length_queue_le hv.2
  rw [ringbuffer32chLen_spec hset, ringbuffer32chAvail_spec hset, QueueBank.len, QueueBank.avail,
    if_pos hv, if_pos hv]
  omega

/-- **A channel set is a bank of FIFO queues.**  After a successful initialisation every sequence
    of calls is answered as by independent bounded queues of the set's capacity. -/
theorem channelSet_refines_queueBank (set₀ set : RingBuffer32ChSet) (elemSize bufCapacity : UInt32)
    (maxChannel : UInt8) (heap heap' : Heap)
    (hinit : ringbuffer32chInit set₀ elemSize bufCapacity maxChannel heap = (0, set, heap'))
    (calls : List (ChannelCall elemSize.toNat)) :
    (Transducer.run callSet calls set).1 =
        (Transducer.run callBank calls
          (QueueBank.fresh maxChannel.toNat set.bufCapacity.toNat)).1 ∧
      (Transducer.run callSet calls set).2.bank =
        (Transducer.run callBank calls
          (QueueBank.fresh maxChannel.toNat set.bufCapacity.toNat)).2 ∧
      ∀ ch limit : UInt8, ch < limit → ch < maxChannel →
        (ringbuffer32chLen (Transducer.run callSet calls set).2 ch limit).toNat +
          (ringbuffer32chAvail (Transducer.run callSet calls set).2 ch limit).toNat =
            set.bufCapacity.toNat := by
  obtain ⟨hwf, helem, hmax, hcap, hbank⟩ := ringbuffer32chInit_success hinit
  have hkeep : ∀ (s : RingBuffer32ChSet) (call : ChannelCall elemSize.toNat), set.Keeps s →
      set.Keeps (callSet s call).2 := by
    intro s call hs
    exact hs.trans (callSet_keeps hs.wf (by rw [hs.elemSize, helem]) call)
  have hrun := Transducer.run_refines RingBuffer32ChSet.bank hkeep
    (fun s call hs => callSet_refines hs.wf (by rw [hs.elemSize, helem]) call) calls set
    hwf.keeps_self
  rw [hbank, ← hcap] at hrun
  refine ⟨hrun.1, hrun.2, ?_⟩
  intro ch limit hlimit hch
  -- The last clause is about the set itself, in whatever state the calls leave it.
  have hs := Transducer.run_invariant hkeep calls set hwf.keeps_self
  rw [ringbuffer32chLen_add_avail hs.wf ch limit]
  · exact congrArg UInt32.toNat hs.bufCapacity
  · refine ⟨UInt8.lt_iff_toNat_lt.mp hlimit, ?_⟩
    show ch.toNat < (Transducer.run callSet calls set).2.maxChannel.toNat
    rw [hs.maxChannel, hmax]
    exact UInt8.lt_iff_toNat_lt.mp hch

/-- The heap of a run in which every `malloc` succeeds. -/
def ampleHeap : Heap := ⟨fun _ => true, 0, []⟩

-- Two channels of two 2-byte elements: the third element finds no room, the neighbour is empty.
theorem channelSet_refines_queueBank_overfull :
    (Transducer.run callSet
      [.put 0 ⟨[1, 2], rfl⟩ 6, .put 0 ⟨[3, 4], rfl⟩ 6, .put 0 ⟨[5, 6], rfl⟩ 6,
        .get 1 ⟨[7, 7], rfl⟩ 6, .get 0 ⟨[7, 7], rfl⟩ 6, .avail 0 6]
      (ringbuffer32chInit .zero 2 3 2 ampleHeap).2.1).1 =
      [.count 1, .count 1, .count 0, .element 0 (some [7, 7]), .element 1 (some [1, 2]),
        .count 1] := by
  have hinit : ringbuffer32chInit .zero 2 3 2 ampleHeap =
      (0, (ringbuffer32chInit .zero 2 3 2 ampleHeap).2.1,
        (ringbuffer32chInit .zero 2 3 2 ampleHeap).2.2) := rfl
  rw [(channelSet_refines_queueBank .zero _ 2 3 2 ampleHeap _ hinit _).1]
  rfl

end CanGateway
