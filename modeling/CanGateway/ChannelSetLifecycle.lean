import CanGateway.ChannelSet

/-!
# Building and destroying a channel set

`ringbuffer_32ch_init` allocates an array and two blocks a channel, and any of these allocations may
fail.  The ledger of the heap says what is live at every step: a failed initialisation has freed all
of it, a successful one leaves exactly the blocks of its set, which a destroy frees.
-/

namespace CanGateway

/-- The blocks of one channel, in the order `ringbuffer_destory` frees them. -/
def ringBlocks : Option RingBuffer → List Nat
  | none => []
  | some rb => [rb.dataBlock, rb.block]

/-- All blocks of a set, in the order `ringbuffer_32ch_destory` frees them. -/
def RingBuffer32ChSet.blocks (set : RingBuffer32ChSet) : List Nat :=
  match set.channels with
  | none => []
  | some array => array.rings.flatMap ringBlocks ++ [array.block]

section Ledger

variable {start heap : Heap} {set : RingBuffer32ChSet}

-- Creating one ring: both of its blocks, or neither.
theorem ringbufferCreate_ledger {live : List Nat} (size esize : UInt32)
    (h : start.Ledger live heap) :
    let r := ringbufferCreate size esize heap
    start.Ledger (ringBlocks r.1 ++ live) r.2 ∧ (r.1.isSome → r.2.freed = heap.freed) := by
  intro r
  simp only [r, ringbufferCreate]
  split
  · exact ⟨h, fun hsome => absurd hsome Bool.false_ne_true⟩
  · cases hctl : heap.malloc with
    | mk ctl heap₁ =>
        cases ctl with
        | none =>
            refine ⟨?_, fun hsome => absurd hsome Bool.false_ne_true⟩
            have hnone := h.malloc_none (by rw [hctl])
            rw [hctl] at hnone
            exact hnone
        | some rb =>
            have hsome := h.malloc_some (show heap.malloc.1 = some rb by rw [hctl])
            rw [hctl] at hsome
            have hkept₁ : heap₁.freed = heap.freed := by
              have hfreed : heap.malloc.2.freed = heap.freed := rfl
              rw [hctl] at hfreed
              exact hfreed
            dsimp only
            cases hbuf : heap₁.malloc with
            | mk buf heap₂ =>
                have hkept₂ : heap₂.freed = heap₁.freed := by
                  have hfreed : heap₁.malloc.2.freed = heap₁.freed := rfl
                  rw [hbuf] at hfreed
                  exact hfreed
                cases buf with
                | none =>
                    refine ⟨?_, fun hsome => absurd hsome Bool.false_ne_true⟩
                    have hnone := hsome.malloc_none (by rw [hbuf])
                    rw [hbuf] at hnone
                    exact hnone.free
                | some buf =>
                    have hboth := hsome.malloc_some (show heap₁.malloc.1 = some buf by rw [hbuf])
                    rw [hbuf] at hboth
                    exact ⟨hboth, fun _ => hkept₂.trans hkept₁⟩

-- Destroying rings frees their blocks, and no other.
theorem destroyRings_ledger {live : List Nat} (rings : List (Option RingBuffer))
    (h : start.Ledger (rings.flatMap ringBlocks ++ live) heap) :
    start.Ledger live (rings.foldl (fun heap rb => ringbufferDestory rb heap) heap) := by
  induction rings generalizing heap with
  | nil => exact h
  | cons rb rings ih =>
      rw [List.foldl_cons]
      apply ih
      cases rb with
      | none => exact h
      | some rb => exact Heap.Ledger.free (Heap.Ledger.free h)

-- The loop over the channels goes through the whole array.
theorem foldl_range_getD (rings : List (Option RingBuffer)) (heap : Heap) :
    (List.range rings.length).foldl
        (fun heap i => ringbufferDestory (rings.getD i none) heap) heap =
      rings.foldl (fun heap rb => ringbufferDestory rb heap) heap := by
  have hmap : (List.range rings.length).map (fun i => rings.getD i none) = rings := by
    apply List.ext_getElem
    · rw [List.length_map, List.length_range]
    · intro i _ hi
      rw [List.getElem_map, List.getElem_range, List.getD_eq_getElem _ _ hi]
  conv => rhs; rw [← hmap, List.foldl_map]

theorem ringbuffer32chDestory_ledger (hslots : set.slots = set.maxChannel.toNat)
    (h : start.Ledger set.blocks heap) (maxChannel : UInt8) :
    start.Ledger [] (ringbuffer32chDestory set maxChannel heap).2 := by
  unfold RingBuffer32ChSet.slots at hslots
  unfold RingBuffer32ChSet.blocks at h
  unfold ringbuffer32chDestory
  cases hchannels : set.channels with
  | none =>
      rw [hchannels] at h
      exact h
  | some array =>
      rw [hchannels] at h hslots
      show start.Ledger [] (Heap.free ((List.range set.maxChannel.toNat).foldl _ heap) array.block)
      rw [← hslots, foldl_range_getD]
      exact Heap.Ledger.free (destroyRings_ledger array.rings h)

-- A ring put into an empty slot adds its blocks.
theorem blocks_setRing {i : Nat} (hi : i < set.slots) (hnone : set.ring i = none)
    (rb : Option RingBuffer) :
    (set.setRing i rb).blocks.Perm (ringBlocks rb ++ set.blocks) := by
  unfold RingBuffer32ChSet.slots at hi
  unfold RingBuffer32ChSet.ring at hnone
  unfold RingBuffer32ChSet.blocks RingBuffer32ChSet.setRing
  cases hchannels : set.channels with
  | none =>
      rw [hchannels] at hi
      exact absurd hi (Nat.not_lt_zero i)
  | some array =>
      rw [hchannels] at hi hnone
      change array.rings.getD i none = none at hnone
      rw [List.getD_eq_getElem _ _ hi] at hnone
      show List.Perm ((array.rings.set i rb).flatMap ringBlocks ++ [array.block])
        (ringBlocks rb ++ (array.rings.flatMap ringBlocks ++ [array.block]))
      have hsplit : array.rings = array.rings.take i ++ none :: array.rings.drop (i + 1) := by
        rw [← hnone, ← List.drop_eq_getElem_cons hi, List.take_append_drop]
      have hold : array.rings.flatMap ringBlocks =
          (array.rings.take i).flatMap ringBlocks ++
            (array.rings.drop (i + 1)).flatMap ringBlocks := by
        conv => lhs; rw [hsplit]
        rw [List.flatMap_append, List.flatMap_cons]
        rfl
      rw [List.set_eq_take_append_cons_drop, if_pos hi, List.flatMap_append, List.flatMap_cons,
        hold, ← List.append_assoc (ringBlocks rb)]
      apply List.Perm.append_right
      rw [← List.append_assoc, ← List.append_assoc]
      exact List.Perm.append_right _ List.perm_append_comm

/-- The outcome of initialisation, as far as the heap goes: a complete set that owns everything
    live, and nothing freed; or a zeroed set and nothing live. -/
def InitOutcome (start : Heap) (r : Int × RingBuffer32ChSet × Heap) : Prop :=
  (r.1 = 0 ∧ r.2.1.slots = r.2.1.maxChannel.toNat ∧ start.Ledger r.2.1.blocks r.2.2 ∧
      r.2.2.freed = start.freed) ∨
    (r.1 = -1 ∧ r.2.1 = .zero ∧ start.Ledger [] r.2.2)

-- The loop over the channels, from channel `i` on; induction on the channels to go.
theorem createChannels_outcome (bufSize elemSize : UInt32) (maxChannel : UInt8) (n i : Nat)
    (hslots : set.slots = set.maxChannel.toNat) (hend : i + n = set.maxChannel.toNat)
    (htodo : ∀ j, i ≤ j → set.ring j = none) (h : start.Ledger set.blocks heap)
    (hfreed : heap.freed = start.freed) :
    InitOutcome start (createChannels bufSize elemSize maxChannel n i set heap) := by
  induction n generalizing i set heap with
  | zero => exact Or.inl ⟨rfl, hslots, h, hfreed⟩
  | succ n ih =>
      have hi : i < set.slots := by omega
      obtain ⟨hcreated, hkept⟩ := ringbufferCreate_ledger bufSize elemSize h
      have hledger := hcreated.perm (blocks_setRing hi (htodo i (Nat.le_refl i)) _).symm
      have hslots' : ∀ rb, (set.setRing i rb).slots = (set.setRing i rb).maxChannel.toNat :=
        fun rb => (RingBuffer32ChSet.slots_setRing i rb).trans hslots
      rw [createChannels]
      cases hcreate : ringbufferCreate bufSize elemSize heap with
      | mk rb heap' =>
          rw [hcreate] at hledger hkept
          cases rb with
          | none =>
              -- What was created so far is destroyed with the array.
              refine Or.inr ⟨rfl, ?_,
                ringbuffer32chDestory_ledger (hslots' none) hledger maxChannel⟩
              show (ringbuffer32chDestory _ maxChannel heap').1 = .zero
              rw [ringbuffer32chDestory]
              split <;> rfl
          | some rb =>
              apply ih (i + 1) (hslots' (some rb))
              · show i + 1 + n = set.maxChannel.toNat
                omega
              · intro j hj
                rw [RingBuffer32ChSet.ring_setRing_other _ (by omega)]
                exact htodo j (by omega)
              · exact hledger
              · exact (hkept rfl).trans hfreed

theorem ringbuffer32chInit_outcome (elemSize bufCapacity : UInt32) (maxChannel : UInt8)
    (heap : Heap) :
    InitOutcome heap (ringbuffer32chInit .zero elemSize bufCapacity maxChannel heap) := by
  have hself := heap.ledger_self
  rw [ringbuffer32chInit]
  split
  · exact Or.inr ⟨rfl, rfl, hself⟩
  dsimp only
  split
  · exact Or.inr ⟨rfl, rfl, hself⟩
  cases harray : heap.malloc with
  | mk block heap₁ =>
      cases block with
      | none =>
          have hnone := hself.malloc_none (by rw [harray])
          rw [harray] at hnone
          exact Or.inr ⟨rfl, rfl, hnone⟩
      | some block =>
          have hsome := hself.malloc_some (show heap.malloc.1 = some block by rw [harray])
          have hfreed : heap.malloc.2.freed = heap.freed := rfl
          rw [harray] at hsome hfreed
          have hempty : (List.replicate maxChannel.toNat (none : Option RingBuffer)).flatMap
              ringBlocks = [] := by
            rw [List.flatMap_eq_nil_iff]
            intro rb hrb
            rw [List.eq_of_mem_replicate hrb]
            rfl
          apply createChannels_outcome
          · exact List.length_replicate
          · exact Nat.zero_add _
          · intro j _
            show (List.replicate maxChannel.toNat none).getD j none = none
            rw [List.getD_eq_getElem?_getD, List.getElem?_replicate]
            split <;> rfl
          · show heap.Ledger (_ ++ [block]) heap₁
            rw [hempty]
            exact hsome
          · exact hfreed

end Ledger

/-! ## The built set -/

-- The capacity is the largest power of two not above the one asked for.
theorem actualCap_largest (bufCapacity : UInt32) (h : bufCapacity ≠ 0) :
    ∃ k, (actualCap bufCapacity).toNat = 2 ^ k ∧ 2 ^ k ≤ bufCapacity.toNat ∧
      bufCapacity.toNat < 2 ^ (k + 1) := by
  have hz : bufCapacity.toNat ≠ 0 := fun h0 => h (UInt32.toNat_inj.mp h0)
  unfold actualCap
  split
  next hpow =>
    obtain ⟨k, hk⟩ := (isPowerOf2_iff bufCapacity).mp hpow
    rw [if_neg h]
    refine ⟨k, hk, Nat.le_of_eq hk.symm, ?_⟩
    rw [hk]
    exact Nat.pow_lt_pow_right (by decide) (Nat.lt_succ_self k)
  next =>
    have hround := rounddownPowOfTwo_toNat bufCapacity h
    have hne : ¬ rounddownPowOfTwo bufCapacity = 0 := by
      intro h0
      rw [h0, UInt32.toNat_zero] at hround
      exact absurd hround.symm (Nat.ne_of_gt (Nat.two_pow_pos _))
    rw [if_neg hne]
    exact ⟨bufCapacity.toNat.log2, hround, Nat.log2_self_le hz, Nat.lt_log2_self⟩

/-- What a successful initialisation promises: every channel with an empty ring of the capacity,
    the largest power of two not above the one asked for; no byte size overflows 32 bits. -/
structure FreshSet (elemSize bufCapacity : UInt32) (maxChannel : UInt8) (set : RingBuffer32ChSet) :
    Prop where
  channels : set.maxChannel = maxChannel
  capacity : ∃ k, set.bufCapacity.toNat = 2 ^ k ∧ 2 ^ k ≤ bufCapacity.toNat ∧
    bufCapacity.toNat < 2 ^ (k + 1)
  size_lt : set.bufCapacity.toNat * elemSize.toNat < 2 ^ 32
  rings : ∀ ch, ch < maxChannel.toNat → ∃ rb, set.ring ch = some rb ∧ ringbufferLen rb = 0 ∧
    ringbufferCap rb = set.bufCapacity ∧ rb.esize = elemSize ∧
    rb.data.length = set.bufCapacity.toNat * elemSize.toNat

theorem ringbuffer32chInit_fresh {set set' : RingBuffer32ChSet} {elemSize bufCapacity : UInt32}
    {maxChannel : UInt8} {heap heap' : Heap}
    (h : ringbuffer32chInit set elemSize bufCapacity maxChannel heap = (0, set', heap')) :
    FreshSet elemSize bufCapacity maxChannel set' := by
  obtain ⟨hwf, helem, hmax, hcap, hbank⟩ := ringbuffer32chInit_success h
  have hargs : bufCapacity ≠ 0 ∧ maxChannel ≠ 0 := by
    rw [ringbuffer32chInit] at h
    split at h
    · cases h
    next hargs =>
      push Not at hargs
      exact hargs.2
  have hring : ∀ ch, ch < maxChannel.toNat → ∃ rb, set'.ring ch = some rb ∧ set'.Fits rb ∧
      rb.contents = [] := by
    intro ch hch
    obtain ⟨rb, hrb, hfits⟩ := hwf ch (by rw [hmax]; exact hch)
    refine ⟨rb, hrb, hfits, ?_⟩
    rw [← RingBuffer32ChSet.queue_of_ring hrb]
    exact congrFun (congrArg QueueBank.queue hbank) ch
  constructor
  · exact hmax
  · rw [hcap]
    exact actualCap_largest bufCapacity hargs.1
  · have hpos : 0 < maxChannel.toNat :=
      Nat.pos_of_ne_zero fun h0 => hargs.2 (UInt8.toNat_inj.mp h0)
    obtain ⟨rb, _, hfits, _⟩ := hring 0 hpos
    rw [← hfits.capacity, ← helem, ← hfits.esize]
    exact hfits.wf.size_lt
  · intro ch hch
    obtain ⟨rb, hrb, hfits, hempty⟩ := hring ch hch
    refine ⟨rb, hrb, ?_, ?_, hfits.esize.trans helem, ?_⟩
    · have hcount : rb.count = 0 := by
        rw [← RingBuffer.length_contents, hempty]
        rfl
      exact UInt32.toNat_inj.mp hcount
    · apply UInt32.toNat_inj.mp
      rw [ringbufferCap, hfits.wf.toNat_cap, hfits.capacity]
    · rw [hfits.wf.length_eq, hfits.capacity, hfits.esize, helem]

/-- **Initialisation is all or nothing.**  Whatever the sizes and whichever allocations fail, a
    zeroed set is either built in full, with nothing freed, or left zeroed with every block that was
    allocated freed once.  A destroy then frees each remaining block once, whatever channel count
    the caller passes, and a second one does nothing. -/
theorem channelSet_all_or_nothing (elemSize bufCapacity : UInt32) (maxChannel : UInt8)
    (heap : Heap) :
    let r := ringbuffer32chInit .zero elemSize bufCapacity maxChannel heap
    ((r.1 = 0 ∧ FreshSet elemSize bufCapacity maxChannel r.2.1 ∧ r.2.2.freed = heap.freed) ∨
      (r.1 = -1 ∧ r.2.1 = .zero ∧ heap.FreedOnce r.2.2)) ∧
      ∀ limit,
        let d := ringbuffer32chDestory r.2.1 limit r.2.2
        d.1 = .zero ∧ heap.FreedOnce d.2 ∧ (r.1 = -1 → d.2 = r.2.2) ∧
          ∀ limit', ringbuffer32chDestory d.1 limit' d.2 = d := by
  intro r
  have hzero : ∀ (set : RingBuffer32ChSet) limit heap,
      (ringbuffer32chDestory set limit heap).1 = .zero := by
    intro set limit heap
    rw [ringbuffer32chDestory]
    split <;> rfl
  have hagain : ∀ (set : RingBuffer32ChSet) limit heap limit',
      let d := ringbuffer32chDestory set limit heap
      ringbuffer32chDestory d.1 limit' d.2 = d := by
    intro set limit heap limit' d
    have hd : d.1 = .zero := hzero set limit heap
    rw [hd]
    exact Prod.ext hd.symm rfl
  obtain ⟨hret, hslots, hledger, hfreed⟩ | ⟨hret, hset, hledger⟩ :=
    ringbuffer32chInit_outcome elemSize bufCapacity maxChannel heap
  · have hinit : r = (0, r.2.1, r.2.2) := Prod.ext hret rfl
    refine ⟨Or.inl ⟨hret, ringbuffer32chInit_fresh hinit, hfreed⟩, ?_⟩
    intro limit d
    refine ⟨hzero _ _ _, (ringbuffer32chDestory_ledger hslots hledger limit).freedOnce, ?_,
      hagain _ _ _⟩
    intro hfailed
    exact absurd (hret.symm.trans hfailed) (by decide)
  · refine ⟨Or.inr ⟨hret, hset, hledger.freedOnce⟩, ?_⟩
    intro limit d
    have hd : d = (.zero, r.2.2) := by
      show ringbuffer32chDestory r.2.1 limit r.2.2 = _
      rw [show r.2.1 = .zero from hset]
      rfl
    have hheap : d.2 = r.2.2 := by rw [hd]
    refine ⟨hzero _ _ _, ?_, fun _ => hheap, hagain _ _ _⟩
    rw [hheap]
    exact hledger.freedOnce

-- Two channels of two 2-byte elements where the third allocation fails: array and first block are
-- freed.
example : (ringbuffer32chInit .zero 2 3 2 ⟨fun k => k != 2, 0, []⟩).2.2.freed = [1, 0] := by
  decide +kernel

end CanGateway
