import CanGateway.BroadcastSystem
import CanGateway.ChannelSetLifecycle
import Mathlib.Logic.Function.Basic

/-!
# The ring sets of the gateway

`main` builds six channel sets one after the other and destroys all six when one of them fails or
when it ends.  None of the 234 blocks is lost on any of these paths.
-/

namespace CanGateway

/-- The six sets, in the order `main` builds them. -/
inductive RingSet where
  /-- `g_data_buf_set`. -/
  | data
  /-- `g_simulator_buf_set`. -/
  | simulator
  /-- `g_pulse_buf_set`. -/
  | pulse
  /-- `g_can_buf_set`. -/
  | can
  /-- `g_poll_buf_set`. -/
  | poll
  /-- `g_bcast_group_buf_set`. -/
  | bcastGroup
  deriving DecidableEq, Repr

namespace RingSet

def order : List RingSet := [data, simulator, pulse, can, poll, bcastGroup]

/-- The arguments of `ringbuffer_32ch_init`. -/
def elemSize : RingSet → UInt32
  | data => 48
  | simulator => 288
  | pulse => 9
  | can => 24
  | poll => 24
  | bcastGroup => sizeofBroadcastFrameGroup

def bufCapacity : RingSet → UInt32
  | data => 65536 * 2
  | simulator => 32
  | pulse => 2048
  | can => 32768
  | poll => 32768
  | bcastGroup => bcastGroupQueueDepth

/-- Also the argument of `ringbuffer_32ch_destory`. -/
def maxChannel : RingSet → UInt8
  | data => 32
  | simulator => 32
  | pulse => 32
  | can => 6
  | poll => 6
  | bcastGroup => 6

end RingSet

abbrev RingSets := RingSet → RingBuffer32ChSet

/-- One of the calls of `destroy_all_ring_buffers`. -/
def destroyRingBuffer (r : RingSets × Heap) (k : RingSet) : RingSets × Heap :=
  let d := ringbuffer32chDestory (r.1 k) k.maxChannel r.2
  (Function.update r.1 k d.1, d.2)

/-- `destroy_all_ring_buffers`. -/
def destroyAllRingBuffers (sets : RingSets) (heap : Heap) : RingSets × Heap :=
  RingSet.order.foldl destroyRingBuffer (sets, heap)

/-- `main` from one of the sets on: the value it returns early, or 0. -/
def initRingBuffers : List RingSet → RingSets → Heap → Int × RingSets × Heap
  | [], sets, heap => (0, sets, heap)
  | k :: ks, sets, heap =>
      let r := ringbuffer32chInit (sets k) k.elemSize k.bufCapacity k.maxChannel heap
      let sets := Function.update sets k r.2.1
      if r.1 ≠ 0 then
        let d := destroyAllRingBuffers sets r.2.2
        (-1, d.1, d.2)
      else initRingBuffers ks sets r.2.2

/-- The sets are static, so they start zeroed. -/
def mainRingBuffers (heap : Heap) : Int × RingSets × Heap :=
  initRingBuffers RingSet.order (fun _ => .zero) heap

/-! ## Who owns what -/

/-- The blocks of some of the sets. -/
def RingSets.blocksOf (sets : RingSets) (ks : List RingSet) : List Nat :=
  ks.flatMap fun k => (sets k).blocks

/-- The sets own everything that is live since `start`. -/
structure RingSets.Own (start : Heap) (sets : RingSets) (heap : Heap) : Prop where
  ledger : start.Ledger (sets.blocksOf RingSet.order) heap
  slots : ∀ k, (sets k).slots = (sets k).maxChannel.toNat

theorem blocksOf_update_of_not_mem {sets : RingSets} {k : RingSet} (set : RingBuffer32ChSet)
    {ks : List RingSet} (hk : k ∉ ks) :
    RingSets.blocksOf (Function.update sets k set) ks = sets.blocksOf ks := by
  unfold RingSets.blocksOf
  apply List.flatMap_congr
  intro other hother
  rw [Function.update_of_ne]
  rintro rfl
  exact hk hother

-- One set taken out.
theorem blocksOf_perm (sets : RingSets) {k : RingSet} {ks : List RingSet} (hnodup : ks.Nodup)
    (hk : k ∈ ks) {set : RingBuffer32ChSet} (hset : set.blocks = []) :
    (sets.blocksOf ks).Perm
      ((sets k).blocks ++ RingSets.blocksOf (Function.update sets k set) ks) := by
  induction ks with
  | nil => exact absurd hk List.not_mem_nil
  | cons other ks ih =>
      obtain ⟨hother, hnodup⟩ := List.nodup_cons.mp hnodup
      have hcons : ∀ sets : RingSets, sets.blocksOf (other :: ks) =
          (sets other).blocks ++ sets.blocksOf ks := fun _ => rfl
      rw [hcons, hcons]
      by_cases hsame : k = other
      · subst hsame
        rw [Function.update_self, hset, blocksOf_update_of_not_mem set hother, List.nil_append]
      · rw [Function.update_of_ne (Ne.symm hsame)]
        have hrest := ih hnodup ((List.mem_cons.mp hk).resolve_left hsame)
        calc List.Perm ((sets other).blocks ++ sets.blocksOf ks)
              ((sets other).blocks ++ ((sets k).blocks ++
                RingSets.blocksOf (Function.update sets k set) ks)) := hrest.append_left _
          List.Perm _ _ := by
              rw [← List.append_assoc, ← List.append_assoc]
              exact List.perm_append_comm.append_right _

section Own

variable {start heap : Heap} {sets : RingSets}

-- A destroy frees the blocks of its set and leaves the others alone.
theorem destroy_frees {set : RingBuffer32ChSet} {live : List Nat}
    (hslots : set.slots = set.maxChannel.toNat) (h : start.Ledger (set.blocks ++ live) heap)
    (limit : UInt8) : start.Ledger live (ringbuffer32chDestory set limit heap).2 := by
  unfold RingBuffer32ChSet.slots at hslots
  unfold RingBuffer32ChSet.blocks at h
  unfold ringbuffer32chDestory
  cases hchannels : set.channels with
  | none =>
      rw [hchannels] at h
      exact h
  | some array =>
      rw [hchannels] at h hslots
      show start.Ledger live
        (Heap.free ((List.range set.maxChannel.toNat).foldl _ heap) array.block)
      rw [← hslots, foldl_range_getD]
      apply Heap.Ledger.free
      apply destroyRings_ledger array.rings
      rw [List.append_assoc] at h
      exact h

theorem destroyed_zero (set : RingBuffer32ChSet) (limit : UInt8) (heap : Heap) :
    (ringbuffer32chDestory set limit heap).1 = .zero := by
  rw [ringbuffer32chDestory]
  split <;> rfl

theorem order_nodup : RingSet.order.Nodup := by decide

theorem mem_order (k : RingSet) : k ∈ RingSet.order := by
  cases k <;> decide

theorem RingSets.Own.destroy (h : sets.Own start heap) (k : RingSet) (limit : UInt8) :
    RingSets.Own start (Function.update sets k (ringbuffer32chDestory (sets k) limit heap).1)
      (ringbuffer32chDestory (sets k) limit heap).2 := by
  rw [destroyed_zero]
  constructor
  · exact destroy_frees (h.slots k)
      (h.ledger.perm (blocksOf_perm sets order_nodup (mem_order k) rfl)) limit
  · intro other
    rcases eq_or_ne other k with rfl | hne
    · rw [Function.update_self]
      rfl
    · rw [Function.update_of_ne hne]
      exact h.slots other

-- All six are destroyed, whichever were built.
theorem destroyAll_spec (h : sets.Own start heap) :
    (∀ k, (destroyAllRingBuffers sets heap).1 k = .zero) ∧
      start.Ledger [] (destroyAllRingBuffers sets heap).2 := by
  have hfold : ∀ (ks : List RingSet) (r : RingSets × Heap), RingSets.Own start r.1 r.2 →
      RingSets.Own start (ks.foldl destroyRingBuffer r).1 (ks.foldl destroyRingBuffer r).2 ∧
        ∀ k, k ∈ ks ∨ r.1 k = .zero → (ks.foldl destroyRingBuffer r).1 k = .zero := by
    intro ks
    induction ks with
    | nil => exact fun r hr => ⟨hr, fun k hk => hk.resolve_left List.not_mem_nil⟩
    | cons k ks ih =>
        intro r hr
        obtain ⟨hown, hzero⟩ := ih (destroyRingBuffer r k) (hr.destroy k k.maxChannel)
        refine ⟨hown, fun other hother => hzero other ?_⟩
        rcases eq_or_ne other k with rfl | hne
        · right
          exact (Function.update_self other _ r.1).trans (destroyed_zero _ _ _)
        · rcases hother with hmem | hempty
          · exact Or.inl ((List.mem_cons.mp hmem).resolve_left hne)
          · right
            exact (Function.update_of_ne hne _ r.1).trans hempty
  obtain ⟨hown, hzero⟩ := hfold RingSet.order (sets, heap) h
  have hall : ∀ k, (destroyAllRingBuffers sets heap).1 k = .zero :=
    fun k => hzero k (Or.inl (mem_order k))
  refine ⟨hall, ?_⟩
  have hnone : (destroyAllRingBuffers sets heap).1.blocksOf RingSet.order = [] := by
    unfold RingSets.blocksOf
    rw [List.flatMap_eq_nil_iff]
    intro k _
    rw [hall k]
    rfl
  rw [← hnone]
  exact hown.ledger

-- A set that was built joins the others.
theorem RingSets.Own.built (h : sets.Own start heap) {k : RingSet} (hzero : sets k = .zero)
    {set : RingBuffer32ChSet} {heap' : Heap} (hslots : set.slots = set.maxChannel.toNat)
    (hset : heap.Ledger set.blocks heap') :
    RingSets.Own start (Function.update sets k set) heap' := by
  have hback : Function.update (Function.update sets k set) k .zero = sets := by
    rw [Function.update_idem, ← hzero, Function.update_eq_self]
  have hperm := blocksOf_perm (Function.update sets k set) order_nodup (mem_order k)
    (show RingBuffer32ChSet.zero.blocks = [] from rfl)
  rw [hback, Function.update_self] at hperm
  constructor
  · exact (h.ledger.trans hset).perm (List.perm_append_comm.trans hperm.symm)
  · intro other
    rcases eq_or_ne other k with rfl | hne
    · rw [Function.update_self]
      exact hslots
    · rw [Function.update_of_ne hne]
      exact h.slots other

/-- What `main` can come to: all sets built and nothing freed, or none left and everything freed. -/
def RingsOutcome (start : Heap) (r : Int × RingSets × Heap) : Prop :=
  (r.1 = 0 ∧ (∀ k, FreshSet k.elemSize k.bufCapacity k.maxChannel (r.2.1 k)) ∧
      r.2.1.Own start r.2.2 ∧ r.2.2.freed = start.freed) ∨
    (r.1 = -1 ∧ (∀ k, r.2.1 k = .zero) ∧ start.Ledger [] r.2.2)

-- Induction on the sets to build; those before them are fresh.
theorem initRingBuffers_outcome (ks : List RingSet) (hnodup : ks.Nodup)
    (htodo : ∀ k ∈ ks, sets k = .zero)
    (hdone : ∀ k, k ∉ ks → FreshSet k.elemSize k.bufCapacity k.maxChannel (sets k))
    (hown : sets.Own start heap) (hfreed : heap.freed = start.freed) :
    RingsOutcome start (initRingBuffers ks sets heap) := by
  induction ks generalizing sets heap with
  | nil => exact Or.inl ⟨rfl, fun k => hdone k List.not_mem_nil, hown, hfreed⟩
  | cons k ks ih =>
      obtain ⟨hk, hnodup⟩ := List.nodup_cons.mp hnodup
      have hzero := htodo k List.mem_cons_self
      have hinit := ringbuffer32chInit_outcome k.elemSize k.bufCapacity k.maxChannel heap
      rw [initRingBuffers, hzero]
      generalize hr : ringbuffer32chInit .zero k.elemSize k.bufCapacity k.maxChannel heap = r
        at hinit
      dsimp only
      obtain ⟨hret, hslots, hledger, hkept⟩ | ⟨hret, hset, hledger⟩ := hinit
      · rw [if_neg fun h => h hret]
        have hfresh : FreshSet k.elemSize k.bufCapacity k.maxChannel r.2.1 :=
          ringbuffer32chInit_fresh (hr.trans (Prod.ext hret rfl))
        apply ih hnodup
        · intro other hother
          rw [Function.update_of_ne]
          · exact htodo other (List.mem_cons_of_mem k hother)
          · rintro rfl
            exact hk hother
        · intro other hother
          rcases eq_or_ne other k with rfl | hne
          · rw [Function.update_self]
            exact hfresh
          · rw [Function.update_of_ne hne]
            exact hdone other fun h => (List.mem_cons.mp h).elim hne hother
        · exact hown.built hzero hslots hledger
        · exact hkept.trans hfreed
      · -- the set that failed has freed its own blocks
        rw [if_pos (by rw [hret]; decide)]
        have hown' : RingSets.Own start (Function.update sets k r.2.1) r.2.2 := by
          rw [hset]
          exact hown.built hzero rfl hledger
        exact Or.inr ⟨rfl, destroyAll_spec hown'⟩

end Own

/-! ## How many allocations -/

-- A ring takes two.
theorem ringbufferCreate_takes {size esize : UInt32} (hesize : esize ≠ 0) (hsize : size ≠ 0)
    (heap : Heap) :
    heap.Takes 2 ((ringbufferCreate size esize heap).1.isSome = true)
      (ringbufferCreate size esize heap).2 := by
  have hargs : ¬ (esize = 0 ∨ size = 0) := fun h => h.elim hesize hsize
  rw [ringbufferCreate, if_neg hargs]
  show heap.Takes (1 + 1) _ _
  have hfirst := heap.takes_malloc
  cases hrb : heap.malloc with
  | mk rb heap₁ =>
      rw [hrb] at hfirst
      cases rb with
      | none =>
          exact hfirst.trans (fun _ => Bool.false_ne_true) fun h => absurd h Bool.false_ne_true
      | some rb =>
          have hsecond := heap₁.takes_malloc
          dsimp only
          cases hbuf : heap₁.malloc with
          | mk buf heap₂ =>
              rw [hbuf] at hsecond
              refine hfirst.trans (fun h => absurd rfl h) fun _ => ?_
              cases buf with
              | none => exact ⟨hsecond.ok_iff, fun h => absurd h Bool.false_ne_true⟩
              | some buf => exact hsecond

-- The loop over `n` channels.
theorem createChannels_takes {bufSize elemSize : UInt32} (helem : elemSize ≠ 0)
    (hbuf : bufSize ≠ 0) (maxChannel : UInt8) (n i : Nat) (set : RingBuffer32ChSet) (heap : Heap) :
    heap.Takes (2 * n) ((createChannels bufSize elemSize maxChannel n i set heap).1 = 0)
      (createChannels bufSize elemSize maxChannel n i set heap).2.2 := by
  induction n generalizing i set heap with
  | zero => exact heap.takes_zero rfl
  | succ n ih =>
      have hring := ringbufferCreate_takes helem hbuf heap
      have hfailed : ¬ (-1 : Int) = 0 := by decide
      rw [createChannels, show 2 * (n + 1) = 2 + 2 * n by omega]
      cases hcreate : ringbufferCreate bufSize elemSize heap with
      | mk rb heap' =>
          rw [hcreate] at hring
          cases rb with
          | none => exact hring.trans (fun _ => hfailed) fun h => absurd h Bool.false_ne_true
          | some rb => exact hring.trans (fun h => absurd rfl h) fun _ => ih _ _ _

/-- The arguments are in range and no byte size overflows. -/
structure RingSet.Sized (elemSize bufCapacity : UInt32) (maxChannel : UInt8) : Prop where
  args : ¬ (elemSize = 0 ∨ bufCapacity = 0 ∨ maxChannel = 0)
  fits : ¬ actualCap bufCapacity > 0xFFFFFFFF / elemSize
  size : actualCap bufCapacity * elemSize ≠ 0

theorem RingSet.sized (k : RingSet) : Sized k.elemSize k.bufCapacity k.maxChannel := by
  cases k <;> constructor <;> decide

theorem ringbuffer32chInit_takes {elemSize bufCapacity : UInt32} {maxChannel : UInt8}
    (h : RingSet.Sized elemSize bufCapacity maxChannel) (set : RingBuffer32ChSet) (heap : Heap) :
    heap.Takes (1 + 2 * maxChannel.toNat)
      ((ringbuffer32chInit set elemSize bufCapacity maxChannel heap).1 = 0)
      (ringbuffer32chInit set elemSize bufCapacity maxChannel heap).2.2 := by
  have harray := heap.takes_malloc
  have hfailed : ¬ (-1 : Int) = 0 := by decide
  rw [ringbuffer32chInit, if_neg h.args]
  dsimp only
  rw [if_neg h.fits]
  cases hblock : heap.malloc with
  | mk block heap' =>
      rw [hblock] at harray
      cases block with
      | none => exact harray.trans (fun _ => hfailed) fun h => absurd h Bool.false_ne_true
      | some block =>
          refine harray.trans (fun h => absurd rfl h) fun _ => ?_
          exact createChannels_takes (fun h0 => h.args (Or.inl h0)) h.size _ _ _ _ _

/-- The allocations of `main` for some of the sets. -/
def RingSet.allocations (ks : List RingSet) : Nat :=
  ks.foldr (fun k n => 1 + 2 * k.maxChannel.toNat + n) 0

theorem initRingBuffers_takes (ks : List RingSet) (sets : RingSets) (heap : Heap) :
    heap.Takes (RingSet.allocations ks) ((initRingBuffers ks sets heap).1 = 0)
      (initRingBuffers ks sets heap).2.2 := by
  induction ks generalizing sets heap with
  | nil => exact heap.takes_zero rfl
  | cons k ks ih =>
      have hset := ringbuffer32chInit_takes k.sized (sets k) heap
      rw [initRingBuffers]
      dsimp only
      refine hset.trans ?_ ?_
      · intro hret
        rw [if_pos hret]
        exact show ¬ (-1 : Int) = 0 by decide
      · intro hret
        rw [if_neg fun h => h hret]
        exact ih _ _

/-! ## The sets in use -/

/-- The same blocks, whatever is queued in them. -/
structure RingBuffer32ChSet.SameBlocks (set set' : RingBuffer32ChSet) : Prop where
  blocks : set'.blocks = set.blocks
  slots : set'.slots = set.slots
  maxChannel : set'.maxChannel = set.maxChannel

section Calls

variable {set set' : RingBuffer32ChSet}

theorem RingBuffer32ChSet.SameBlocks.refl (set : RingBuffer32ChSet) : set.SameBlocks set :=
  ⟨rfl, rfl, rfl⟩

theorem sameBlocks_setRing {i : Nat} {rb rb' : RingBuffer} (hring : set.ring i = some rb)
    (hblocks : ringBlocks (some rb') = ringBlocks (some rb)) :
    set.SameBlocks (set.setRing i (some rb')) := by
  refine ⟨?_, RingBuffer32ChSet.slots_setRing i _, rfl⟩
  unfold RingBuffer32ChSet.ring at hring
  unfold RingBuffer32ChSet.blocks RingBuffer32ChSet.setRing
  cases hchannels : set.channels with
  | none => rfl
  | some array =>
      rw [hchannels] at hring
      have hget : array.rings.getD i none = some rb := hring
      have hi : i < array.rings.length := by
        by_contra hout
        rw [List.getD_eq_default _ _ (Nat.le_of_not_lt hout)] at hget
        exact absurd hget (Option.some_ne_none rb).symm
      have hat : array.rings[i] = some rb := by
        rw [← hget, List.getD_eq_getElem _ _ hi]
      have hi' : i < (array.rings.map ringBlocks).length := by
        rw [List.length_map]
        exact hi
      have hsame : (array.rings.map ringBlocks)[i] = ringBlocks (some rb) := by
        rw [List.getElem_map, hat]
      show (array.rings.set i (some rb')).flatMap ringBlocks ++ [array.block] =
        array.rings.flatMap ringBlocks ++ [array.block]
      rw [List.flatMap_def, List.flatMap_def, List.map_set, hblocks, ← hsame,
        List.set_getElem_self]

theorem ring_of_validRing {ch maxChannel : UInt8} {rb : RingBuffer}
    (h : validRing set ch maxChannel = some rb) : set.ring ch.toNat = some rb := by
  unfold validRing at h
  split at h
  · exact h
  · exact absurd h (Option.some_ne_none rb).symm

-- The operations on a ring leave its blocks alone.
theorem ringBlocks_put (rb : RingBuffer) (buf : Option (List UInt8)) (len : UInt32) :
    ringBlocks (some (ringbufferPut rb buf len).2) = ringBlocks (some rb) := by
  unfold ringbufferPut
  cases buf with
  | none => rfl
  | some buf =>
      dsimp only
      generalize (if len * rb.esize ≥ rb.esize then (1 : UInt32) else 0) = elems
      split
      · rfl
      split
      · rfl
      split <;> rfl

theorem ringBlocks_get (rb : RingBuffer) (buf : Option (List UInt8)) (len : UInt32) :
    ringBlocks (some (ringbufferGet rb buf len).2.2) = ringBlocks (some rb) := by
  unfold ringbufferGet
  cases buf with
  | none => rfl
  | some buf =>
      dsimp only
      generalize (if len * rb.esize ≥ rb.esize then (1 : UInt32) else 0) = elems
      split
      · rfl
      split
      · rfl
      split <;> rfl

theorem callSet_sameBlocks {n : Nat} (set : RingBuffer32ChSet) (call : ChannelCall n) :
    set.SameBlocks (callSet set call).2 := by
  cases call with
  | put ch data maxChannel =>
      simp only [callSet, ringbuffer32chPut]
      cases hrb : validRing set ch maxChannel with
      | none => exact .refl set
      | some rb => exact sameBlocks_setRing (ring_of_validRing hrb) (ringBlocks_put rb _ _)
  | get ch data maxChannel =>
      simp only [callSet, ringbuffer32chGet]
      cases hrb : validRing set ch maxChannel with
      | none => exact .refl set
      | some rb => exact sameBlocks_setRing (ring_of_validRing hrb) (ringBlocks_get rb _ _)
  | len ch maxChannel => exact .refl set
  | avail ch maxChannel => exact .refl set
  | reset ch maxChannel =>
      simp only [callSet, ringbuffer32chReset]
      cases hrb : validRing set ch maxChannel with
      | none => exact .refl set
      | some rb => exact sameBlocks_setRing (ring_of_validRing hrb) rfl

theorem calls_sameBlocks {n : Nat} (set : RingBuffer32ChSet) (calls : List (ChannelCall n)) :
    set.SameBlocks (Transducer.run callSet calls set).2 := by
  have hstep : ∀ (t : RingBuffer32ChSet) (call : ChannelCall n), set.SameBlocks t →
      set.SameBlocks (callSet t call).2 := by
    intro t call ht
    have hcall := callSet_sameBlocks t call
    exact ⟨hcall.blocks.trans ht.blocks, hcall.slots.trans ht.slots,
      hcall.maxChannel.trans ht.maxChannel⟩
  exact Transducer.run_invariant hstep calls set (.refl set)

end Calls

/-- **The gateway's rings are built all or none and never lost.**  `main` gets past them exactly if
    its next 234 allocations succeed; then every set has its size and is empty, and nothing was
    freed.  Otherwise no set is left and every block that was allocated has been freed once.  After
    any calls on the sets, `destroy_all_ring_buffers` leaves none of them and has freed every block
    once. -/
theorem ring_sets_all_or_nothing (heap : Heap) :
    let r := mainRingBuffers heap
    (r.1 = 0 ↔ heap.Grants 234) ∧
    ((r.1 = 0 ∧ (∀ k, FreshSet k.elemSize k.bufCapacity k.maxChannel (r.2.1 k)) ∧
        r.2.2.freed = heap.freed) ∨
      (r.1 = -1 ∧ (∀ k, r.2.1 k = .zero) ∧ heap.FreedOnce r.2.2)) ∧
    ∀ calls : (k : RingSet) → List (ChannelCall k.elemSize.toNat),
      let d := destroyAllRingBuffers
        (fun k => (Transducer.run callSet (calls k) (r.2.1 k)).2) r.2.2
      (∀ k, d.1 k = .zero) ∧ heap.FreedOnce d.2 := by
  intro r
  have hstart : RingSets.Own heap (fun _ => .zero) heap := ⟨heap.ledger_self, fun _ => rfl⟩
  have houtcome := initRingBuffers_outcome RingSet.order order_nodup (fun _ _ => rfl)
    (fun k hk => absurd (mem_order k) hk) hstart rfl
  have hown : RingSets.Own heap r.2.1 r.2.2 := by
    obtain ⟨_, _, hown, _⟩ | ⟨_, hzero, hledger⟩ := houtcome
    · exact hown
    · have hsets : r.2.1 = fun _ => .zero := funext hzero
      rw [hsets]
      exact ⟨hledger, fun _ => rfl⟩
  refine ⟨(initRingBuffers_takes RingSet.order (fun _ => .zero) heap).ok_iff, ?_, ?_⟩
  · obtain ⟨hret, hfresh, _, hfreed⟩ | ⟨hret, hzero, hledger⟩ := houtcome
    · exact Or.inl ⟨hret, hfresh, hfreed⟩
    · exact Or.inr ⟨hret, hzero, hledger.freedOnce⟩
  · intro calls d
    have hsame : ∀ k, (r.2.1 k).SameBlocks (Transducer.run callSet (calls k) (r.2.1 k)).2 :=
      fun k => calls_sameBlocks (r.2.1 k) (calls k)
    have hused : RingSets.Own heap (fun k => (Transducer.run callSet (calls k) (r.2.1 k)).2)
        r.2.2 := by
      constructor
      · have hblocks : RingSets.blocksOf (fun k => (Transducer.run callSet (calls k) (r.2.1 k)).2)
            RingSet.order = r.2.1.blocksOf RingSet.order :=
          List.flatMap_congr fun k _ => (hsame k).blocks
        rw [hblocks]
        exact hown.ledger
      · intro k
        rw [(hsame k).slots, (hsame k).maxChannel]
        exact hown.slots k
    obtain ⟨hzero, hledger⟩ := destroyAll_spec hused
    exact ⟨hzero, hledger.freedOnce⟩

end CanGateway
