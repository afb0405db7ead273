/-!
# An allocator that may fail

Every call of `malloc` has an outcome fixed beforehand; a successful call hands out a block named
after the call.  The calls of `free` are kept in order.  `Ledger` accounts for every block handed
out since some moment: freed once, or still live.
-/

/-- `succeeds k`: whether the `k`-th `malloc` succeeds. -/
structure Heap where
  succeeds : Nat → Bool
  calls : Nat
  freed : List Nat

namespace Heap

def malloc (heap : Heap) : Option Nat × Heap :=
  (if heap.succeeds heap.calls then some heap.calls else none,
    { heap with calls := heap.calls + 1 })

def free (heap : Heap) (block : Nat) : Heap := { heap with freed := heap.freed ++ [block] }

/-- The blocks handed out between two moments, each a name of its own. -/
def handedOut (start heap : Heap) : List Nat :=
  (List.range' start.calls (heap.calls - start.calls)).filter start.succeeds

/-- Since `start`, every block handed out was freed once or is one of `live`, and no other block was
    freed. -/
structure Ledger (start : Heap) (live : List Nat) (heap : Heap) : Prop where
  succeeds : heap.succeeds = start.succeeds
  calls_le : start.calls ≤ heap.calls
  freed : ∃ freed, heap.freed = start.freed ++ freed ∧
    (freed ++ live).Perm (handedOut start heap)

/-- Since `start`, exactly the blocks handed out since then were freed, each once. -/
def FreedOnce (start heap : Heap) : Prop :=
  ∃ freed, heap.freed = start.freed ++ freed ∧ freed.Nodup ∧
    ∀ block, block ∈ freed ↔ block ∈ handedOut start heap

theorem nodup_handedOut (start heap : Heap) : (handedOut start heap).Nodup :=
  List.Pairwise.filter _ List.nodup_range'

theorem ledger_self (heap : Heap) : Ledger heap [] heap := by
  refine ⟨rfl, Nat.le_refl _, [], (List.append_nil _).symm, ?_⟩
  rw [handedOut, Nat.sub_self]
  exact List.Perm.nil

section Ledger

variable {start heap : Heap} {live live' : List Nat}

theorem handedOut_malloc (h : start.calls ≤ heap.calls) :
    handedOut start heap.malloc.2 =
      handedOut start heap ++ if start.succeeds heap.calls then [heap.calls] else [] := by
  have hcalls : heap.calls + 1 - start.calls = heap.calls - start.calls + 1 := by omega
  have hlast : start.calls + 1 * (heap.calls - start.calls) = heap.calls := by omega
  rw [handedOut, handedOut]
  show (List.range' start.calls (heap.calls + 1 - start.calls)).filter _ = _
  rw [hcalls, List.range'_concat, List.filter_append, hlast, List.filter_cons, List.filter_nil]

theorem Ledger.perm (h : Ledger start live heap) (hlive : live.Perm live') :
    Ledger start live' heap := by
  obtain ⟨freed, hfreed, hperm⟩ := h.freed
  exact ⟨h.succeeds, h.calls_le, freed, hfreed, (hlive.symm.append_left freed).trans hperm⟩

-- A new block is live.
theorem Ledger.malloc_some (h : Ledger start live heap) {block : Nat}
    (hblock : heap.malloc.1 = some block) : Ledger start (block :: live) heap.malloc.2 := by
  have hok : start.succeeds heap.calls = true ∧ heap.calls = block := by
    rw [malloc, h.succeeds] at hblock
    split at hblock
    next hok => exact ⟨hok, Option.some.inj hblock⟩
    · cases hblock
  obtain ⟨freed, hfreed, hperm⟩ := h.freed
  refine ⟨h.succeeds, Nat.le_succ_of_le h.calls_le, freed, hfreed, ?_⟩
  rw [handedOut_malloc h.calls_le, if_pos hok.1, hok.2]
  calc List.Perm (freed ++ block :: live) (block :: (freed ++ live)) := List.perm_middle
    List.Perm _ (block :: handedOut start heap) := hperm.cons block
    List.Perm _ (handedOut start heap ++ [block]) := (List.perm_append_singleton _ _).symm

theorem Ledger.malloc_none (h : Ledger start live heap) (hnone : heap.malloc.1 = none) :
    Ledger start live heap.malloc.2 := by
  have hfail : ¬ start.succeeds heap.calls = true := by
    rw [malloc, h.succeeds] at hnone
    split at hnone
    · cases hnone
    next hfail => exact hfail
  obtain ⟨freed, hfreed, hperm⟩ := h.freed
  refine ⟨h.succeeds, Nat.le_succ_of_le h.calls_le, freed, hfreed, ?_⟩
  rw [handedOut_malloc h.calls_le, if_neg hfail, List.append_nil]
  exact hperm

-- Only a live block may be freed, and it is live no more.
theorem Ledger.free {block : Nat} (h : Ledger start (block :: live) heap) :
    Ledger start live (heap.free block) := by
  obtain ⟨freed, hfreed, hperm⟩ := h.freed
  refine ⟨h.succeeds, h.calls_le, freed ++ [block], ?_, ?_⟩
  · show heap.freed ++ [block] = _
    rw [hfreed, List.append_assoc]
  · rw [List.append_assoc]
    exact hperm

-- With nothing live everything was freed.
theorem Ledger.freedOnce (h : Ledger start [] heap) : FreedOnce start heap := by
  obtain ⟨freed, hfreed, hperm⟩ := h.freed
  rw [List.append_nil] at hperm
  exact ⟨freed, hfreed, hperm.nodup_iff.mpr (nodup_handedOut start heap), fun _ => hperm.mem_iff⟩

end Ledger

-- Two accounts, one behind the other.
theorem Ledger.trans {start mid heap : Heap} {live live' : List Nat} (h : Ledger start live mid)
    (h' : Ledger mid live' heap) : Ledger start (live ++ live') heap := by
  obtain ⟨freed, hfreed, hperm⟩ := h.freed
  obtain ⟨freed', hfreed', hperm'⟩ := h'.freed
  have hsplit : handedOut start heap = handedOut start mid ++ handedOut mid heap := by
    have hcalls := h.calls_le
    have hcalls' := h'.calls_le
    have hrange : List.range' start.calls (heap.calls - start.calls) =
        List.range' start.calls (mid.calls - start.calls) ++
          List.range' mid.calls (heap.calls - mid.calls) := by
      have happend := @List.range'_append start.calls (mid.calls - start.calls)
        (heap.calls - mid.calls) 1
      rw [Nat.one_mul, Nat.add_sub_cancel' hcalls] at happend
      rw [happend]
      congr 1
      omega
    rw [handedOut, hrange, List.filter_append, handedOut, handedOut, h.succeeds]
  refine ⟨h'.succeeds.trans h.succeeds, Nat.le_trans h.calls_le h'.calls_le, freed ++ freed', ?_,
    ?_⟩
  · rw [hfreed', hfreed, List.append_assoc]
  · rw [hsplit]
    calc List.Perm (freed ++ freed' ++ (live ++ live')) (freed ++ live ++ (freed' ++ live')) := by
          rw [List.append_assoc, List.append_assoc]
          apply List.Perm.append_left
          rw [← List.append_assoc, ← List.append_assoc]
          exact List.perm_append_comm.append_right live'
      List.Perm _ (handedOut start mid ++ handedOut mid heap) := hperm.append hperm'

/-! ## How many allocations are needed -/

/-- The next `n` allocations succeed. -/
def Grants (heap : Heap) (n : Nat) : Prop := ∀ i < n, heap.succeeds (heap.calls + i) = true

/-- What ends in `heap'` succeeds exactly if the next `n` allocations do, and then needs no more. -/
structure Takes (heap : Heap) (n : Nat) (ok : Prop) (heap' : Heap) : Prop where
  ok_iff : ok ↔ heap.Grants n
  next : ok → heap'.succeeds = heap.succeeds ∧ heap'.calls = heap.calls + n

theorem takes_zero (heap : Heap) {ok : Prop} (hok : ok) : Takes heap 0 ok heap :=
  ⟨iff_of_true hok fun i hi => absurd hi (Nat.not_lt_zero i), fun _ => ⟨rfl, rfl⟩⟩

theorem takes_malloc (heap : Heap) : Takes heap 1 (heap.malloc.1.isSome = true) heap.malloc.2 := by
  have hone : heap.Grants 1 ↔ heap.succeeds heap.calls = true := by
    constructor
    · exact fun h => h 0 Nat.one_pos
    · intro h i hi
      obtain rfl : i = 0 := by omega
      exact h
  refine ⟨?_, fun _ => ⟨rfl, rfl⟩⟩
  rw [hone, malloc]
  dsimp only
  split
  next h => exact iff_of_true rfl h
  next h => exact iff_of_false Bool.false_ne_true h

-- One thing after the other.
theorem Takes.trans {heap mid heap' : Heap} {n m : Nat} {ok ok' : Prop} (h : Takes heap n ok mid)
    (hstop : ¬ ok → ¬ ok') (hgo : ok → Takes mid m ok' heap') : Takes heap (n + m) ok' heap' := by
  by_cases hok : ok
  · obtain ⟨hsucceeds, hcalls⟩ := h.next hok
    have hrest := hgo hok
    have hgrants : heap.Grants (n + m) ↔ mid.Grants m := by
      unfold Grants
      rw [hsucceeds, hcalls]
      constructor
      · intro hall i hi
        rw [Nat.add_assoc]
        exact hall (n + i) (by omega)
      · intro hlate i hi
        by_cases hin : i < n
        · exact h.ok_iff.mp hok i hin
        · have hi' := hlate (i - n) (by omega)
          rwa [show heap.calls + n + (i - n) = heap.calls + i by omega] at hi'
    refine ⟨hrest.ok_iff.trans hgrants.symm, fun hok' => ?_⟩
    obtain ⟨hsucceeds', hcalls'⟩ := hrest.next hok'
    exact ⟨hsucceeds'.trans hsucceeds, by omega⟩
  · refine ⟨iff_of_false (hstop hok) ?_, fun hok' => absurd hok' (hstop hok)⟩
    intro hall
    exact hok (h.ok_iff.mpr fun i hi => hall i (by omega))

end Heap
