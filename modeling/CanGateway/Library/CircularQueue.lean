import Mathlib.Algebra.Order.Ring.Nat
import Mathlib.Data.List.Basic
import Mathlib.Tactic.Common

/-!
# Circular queues and families of bounded queues

A circular queue keeps its elements in `cap` cells and reads them through a free-running counter:
element `i` of the queue is cell `(out + i) % cap` (`view`).  `QueueBank` is what such queues are
for: independent FIFO queues of one capacity, addressed by a number.
-/

namespace CircularQueue

variable {α : Type*}

/-- The `n` elements a circular queue holds from position `out` on. -/
def view (cell : Nat → α) (cap out n : Nat) : List α :=
  (List.range n).map fun i => cell ((out + i) % cap)

@[simp] theorem length_view (cell : Nat → α) (cap out n : Nat) :
    (view cell cap out n).length = n := by
  simp [view]

-- Taking an element advances the reading position.
theorem view_succ (cell : Nat → α) (cap out n : Nat) :
    view cell cap out (n + 1) = cell (out % cap) :: view cell cap (out + 1) n := by
  rw [view, List.range_succ_eq_map, List.map_cons, List.map_map, view, Nat.add_zero]
  congr 1
  apply List.map_congr_left
  intro i _
  simp only [Function.comp_apply, Nat.succ_eq_add_one]
  rw [show out + (i + 1) = out + 1 + i by omega]

-- Only the reading position modulo the capacity matters.
theorem view_mod (cell : Nat → α) (cap out out' n : Nat) (h : out % cap = out' % cap) :
    view cell cap out n = view cell cap out' n := by
  apply List.map_congr_left
  intro i _
  rw [Nat.add_mod, h, ← Nat.add_mod]

-- Distinct positions of a queue no longer than its capacity are distinct cells.
theorem cell_ne (cap out i n : Nat) (hi : i < n) (hn : n < cap) :
    (out + i) % cap ≠ (out + n) % cap := by
  intro h
  have hz := Nat.sub_mod_eq_zero_of_mod_eq h.symm
  rw [Nat.add_sub_add_left, Nat.mod_eq_of_lt (by omega)] at hz
  omega

-- The first free cell is not part of the queue.
theorem view_congr (cell cell' : Nat → α) (cap out n : Nat) (hn : n < cap)
    (hother : ∀ j, j < cap → j ≠ (out + n) % cap → cell' j = cell j) :
    view cell' cap out n = view cell cap out n := by
  apply List.map_congr_left
  intro i hi
  rw [List.mem_range] at hi
  exact hother _ (Nat.mod_lt _ (by omega)) (cell_ne cap out i n hi hn)

-- Storing into the first free cell appends to the queue.
theorem view_store (cell cell' : Nat → α) (cap out n : Nat) (x : α) (hn : n < cap)
    (hsame : cell' ((out + n) % cap) = x)
    (hother : ∀ j, j < cap → j ≠ (out + n) % cap → cell' j = cell j) :
    view cell' cap out (n + 1) = view cell cap out n ++ [x] := by
  have hrest := view_congr cell cell' cap out n hn hother
  rw [view] at hrest
  rw [view, List.range_succ, List.map_append, List.map_singleton, hsame, hrest]

/-! ## Free-running 32-bit counters

`in` and `out` count stores and takes modulo `2 ^ 32`; their difference is the queue length. -/

theorem count_store (i o : UInt32) (h : (i - o).toNat < 2 ^ 32 - 1) :
    (i + 1 - o).toNat = (i - o).toNat + 1 := by
  have hi := i.toNat_lt
  have ho := o.toNat_lt
  rw [UInt32.toNat_sub] at h ⊢
  rw [UInt32.toNat_sub, UInt32.toNat_add, UInt32.toNat_one]
  omega

theorem count_take (i o : UInt32) (h : 0 < (i - o).toNat) :
    (i - (o + 1)).toNat = (i - o).toNat - 1 := by
  have hi := i.toNat_lt
  have ho := o.toNat_lt
  rw [UInt32.toNat_sub] at h ⊢
  rw [UInt32.toNat_sub, UInt32.toNat_add, UInt32.toNat_one]
  omega

-- A power of two up to `2 ^ 32` divides the counters' modulus, so wrapping does not move the
-- queue in its cells.
theorem counter_mod {k : Nat} (hk : k ≤ 32) (x : Nat) : x % 2 ^ 32 % 2 ^ k = x % 2 ^ k :=
  Nat.mod_mod_of_dvd x (Nat.pow_dvd_pow 2 hk)

theorem store_position {k : Nat} (hk : k ≤ 32) (i o : UInt32) :
    i.toNat % 2 ^ k = (o.toNat + (i - o).toNat) % 2 ^ k := by
  have hi := i.toNat_lt
  have ho := o.toNat_lt
  have heq : i.toNat = (o.toNat + (i - o).toNat) % 2 ^ 32 := by
    rw [UInt32.toNat_sub]
    omega
  rw [← counter_mod hk (o.toNat + (i - o).toNat), ← heq]

theorem take_position {k : Nat} (hk : k ≤ 32) (o : UInt32) :
    (o + 1).toNat % 2 ^ k = (o.toNat + 1) % 2 ^ k := by
  rw [UInt32.toNat_add, UInt32.toNat_one, counter_mod hk]

end CircularQueue

/-- `channels` independent FIFO queues of capacity `cap`. -/
structure QueueBank (α : Type*) where
  channels : Nat
  cap : Nat
  queue : Nat → List α

namespace QueueBank

variable {α : Type*} (bank : QueueBank α)

/-- A bank of empty queues. -/
def fresh (channels cap : Nat) : QueueBank α := ⟨channels, cap, fun _ => []⟩

/-- The queue of channel `ch` replaced. -/
def update (ch : Nat) (q : List α) : QueueBank α :=
  { bank with queue := fun c => if c = ch then q else bank.queue c }

/-- A caller may restrict the channels it accepts by a limit of its own. -/
def Valid (limit ch : Nat) : Prop := ch < limit ∧ ch < bank.channels

instance (limit ch : Nat) : Decidable (bank.Valid limit ch) := inferInstanceAs (Decidable (_ ∧ _))

/-- Append `x` if the channel is valid and its queue is not full. -/
def put (limit ch : Nat) (x : α) : Bool × QueueBank α :=
  if bank.Valid limit ch ∧ (bank.queue ch).length < bank.cap then
    (true, bank.update ch (bank.queue ch ++ [x]))
  else (false, bank)

/-- Take the oldest element if the channel is valid and its queue is not empty. -/
def get (limit ch : Nat) : Option α × QueueBank α :=
  if bank.Valid limit ch then
    match bank.queue ch with
    | [] => (none, bank)
    | x :: rest => (some x, bank.update ch rest)
  else (none, bank)

/-- The number of queued elements; 0 for an invalid channel. -/
def len (limit ch : Nat) : Nat := if bank.Valid limit ch then (bank.queue ch).length else 0

/-- The free room; 0 for an invalid channel. -/
def avail (limit ch : Nat) : Nat :=
  if bank.Valid limit ch then bank.cap - (bank.queue ch).length else 0

/-- Empty the queue of a valid channel. -/
def reset (limit ch : Nat) : QueueBank α :=
  if bank.Valid limit ch then bank.update ch [] else bank

@[simp] theorem update_self (ch : Nat) (q : List α) : (bank.update ch q).queue ch = q := by
  simp [update]

theorem update_other (ch c : Nat) (q : List α) (h : c ≠ ch) :
    (bank.update ch q).queue c = bank.queue c := by
  simp [update, h]

theorem update_queue (ch : Nat) : bank.update ch (bank.queue ch) = bank := by
  have hq : (fun c => if c = ch then bank.queue ch else bank.queue c) = bank.queue := by
    funext c
    split
    next h => rw [h]
    next => rfl
  rw [update, hq]

/-! ### Another representation of the elements -/

section Map

variable {β : Type*} (f : α → β)

/-- The bank with every element replaced by its representation. -/
def map : QueueBank β := ⟨bank.channels, bank.cap, fun ch => (bank.queue ch).map f⟩

theorem map_update (ch : Nat) (q : List α) :
    (bank.update ch q).map f = (bank.map f).update ch (q.map f) := by
  have hq : (fun c => ((bank.update ch q).queue c).map f) =
      fun c => if c = ch then q.map f else (bank.queue c).map f := by
    funext c
    by_cases hc : c = ch
    · subst hc
      rw [update_self, if_pos rfl]
    · rw [update_other _ _ _ _ hc, if_neg hc]
  rw [map, hq]
  rfl

theorem map_put (limit ch : Nat) (x : α) :
    (bank.map f).put limit ch (f x) =
      ((bank.put limit ch x).1, (bank.put limit ch x).2.map f) := by
  have hlen : ((bank.map f).queue ch).length = (bank.queue ch).length := List.length_map _
  unfold put
  rw [hlen]
  show (if bank.Valid limit ch ∧ (bank.queue ch).length < bank.cap then
    (true, (bank.map f).update ch ((bank.queue ch).map f ++ [f x])) else (false, bank.map f)) = _
  by_cases h : bank.Valid limit ch ∧ (bank.queue ch).length < bank.cap
  · rw [if_pos h, if_pos h, map_update, List.map_append]
    rfl
  · rw [if_neg h, if_neg h]

theorem map_get (limit ch : Nat) :
    (bank.map f).get limit ch =
      ((bank.get limit ch).1.map f, (bank.get limit ch).2.map f) := by
  unfold get
  show (if bank.Valid limit ch then
    match (bank.queue ch).map f with
    | [] => (none, bank.map f)
    | x :: rest => (some x, (bank.map f).update ch rest) else (none, bank.map f)) = _
  by_cases h : bank.Valid limit ch
  · rw [if_pos h, if_pos h]
    cases bank.queue ch with
    | nil => rfl
    | cons x rest =>
        rw [List.map_cons, map_update]
        rfl
  · rw [if_neg h, if_neg h]
    rfl

theorem map_reset (limit ch : Nat) : (bank.map f).reset limit ch = (bank.reset limit ch).map f := by
  unfold reset
  show (if bank.Valid limit ch then (bank.map f).update ch [] else bank.map f) = _
  by_cases h : bank.Valid limit ch
  · rw [if_pos h, if_pos h, map_update]
    rfl
  · rw [if_neg h, if_neg h]

theorem map_len (limit ch : Nat) : (bank.map f).len limit ch = bank.len limit ch := by
  unfold len
  rw [show ((bank.map f).queue ch).length = (bank.queue ch).length from List.length_map _]
  rfl

theorem map_avail (limit ch : Nat) : (bank.map f).avail limit ch = bank.avail limit ch := by
  unfold avail
  rw [show ((bank.map f).queue ch).length = (bank.queue ch).length from List.length_map _]
  rfl

theorem map_fresh (channels cap : Nat) :
    (fresh channels cap : QueueBank α).map f = fresh channels cap := rfl

end Map

/-! ### What the operations do to one queue -/

theorem channels_put (limit ch : Nat) (x : α) :
    (bank.put limit ch x).2.channels = bank.channels := by
  unfold put
  split <;> rfl

theorem channels_get (limit ch : Nat) : (bank.get limit ch).2.channels = bank.channels := by
  unfold get
  split
  · split <;> rfl
  · rfl

theorem channels_reset (limit ch : Nat) : (bank.reset limit ch).channels = bank.channels := by
  unfold reset
  split <;> rfl

@[simp] theorem cap_put (limit ch : Nat) (x : α) : (bank.put limit ch x).2.cap = bank.cap := by
  unfold put
  split <;> rfl

@[simp] theorem cap_get (limit ch : Nat) : (bank.get limit ch).2.cap = bank.cap := by
  unfold get
  split
  · split <;> rfl
  · rfl

@[simp] theorem cap_reset (limit ch : Nat) : (bank.reset limit ch).cap = bank.cap := by
  unfold reset
  split <;> rfl

theorem queue_reset (limit ch c : Nat) :
    (bank.reset limit ch).queue c =
      if bank.Valid limit ch ∧ c = ch then [] else bank.queue c := by
  unfold reset
  by_cases h : bank.Valid limit ch
  · rw [if_pos h]
    by_cases hc : c = ch
    · subst hc
      rw [update_self, if_pos ⟨h, rfl⟩]
    · rw [update_other _ _ _ _ hc, if_neg (fun h => hc h.2)]
  · rw [if_neg h, if_neg (fun h' => h h'.1)]

/-- The first `n` channels reset, one after the other. -/
def resetAll (limit n : Nat) : QueueBank α :=
  (List.range n).foldl (fun b ch => b.reset limit ch) bank

theorem resetAll_succ (limit n : Nat) :
    bank.resetAll limit (n + 1) = (bank.resetAll limit n).reset limit n := by
  rw [resetAll, List.range_succ, List.foldl_append]
  rfl

theorem channels_resetAll (limit n : Nat) : (bank.resetAll limit n).channels = bank.channels := by
  induction n with
  | zero => rfl
  | succ n ih => rw [resetAll_succ, channels_reset, ih]

theorem cap_resetAll (limit n : Nat) : (bank.resetAll limit n).cap = bank.cap := by
  induction n with
  | zero => rfl
  | succ n ih => rw [resetAll_succ, cap_reset, ih]

theorem queue_resetAll (limit n c : Nat) (hc : c < n) (hv : bank.Valid limit c) :
    (bank.resetAll limit n).queue c = [] := by
  induction n with
  | zero => exact absurd hc (Nat.not_lt_zero c)
  | succ n ih =>
      rw [resetAll_succ, queue_reset]
      by_cases hcn : c = n
      · subst hcn
        have hv' : (bank.resetAll limit c).Valid limit c :=
          ⟨hv.1, by rw [channels_resetAll]; exact hv.2⟩
        rw [if_pos ⟨hv', rfl⟩]
      · rw [if_neg (fun h => hcn h.2)]
        exact ih (by omega)

theorem queue_put (limit ch c : Nat) (x : α) :
    (bank.put limit ch x).2.queue c =
      if (bank.put limit ch x).1 = true ∧ c = ch then bank.queue c ++ [x] else bank.queue c := by
  unfold put
  by_cases h : bank.Valid limit ch ∧ (bank.queue ch).length < bank.cap
  · rw [if_pos h]
    by_cases hc : c = ch
    · subst hc
      rw [update_self, if_pos ⟨rfl, rfl⟩]
    · rw [update_other _ _ _ _ hc, if_neg (fun h => hc h.2)]
  · rw [if_neg h, if_neg (fun h => Bool.false_ne_true h.1)]

theorem get_of_cons {limit ch : Nat} {x : α} {rest : List α} (hv : bank.Valid limit ch)
    (hq : bank.queue ch = x :: rest) : bank.get limit ch = (some x, bank.update ch rest) := by
  unfold get
  rw [if_pos hv, hq]

-- Taking splits the oldest element off its queue and leaves the others.
theorem queue_get (limit ch c : Nat) :
    bank.queue c =
      (if c = ch then (bank.get limit ch).1.toList else []) ++ (bank.get limit ch).2.queue c := by
  unfold get
  by_cases h : bank.Valid limit ch
  · rw [if_pos h]
    cases hq : bank.queue ch with
    | nil => by_cases hc : c = ch <;> simp [hc]
    | cons x rest =>
        by_cases hc : c = ch
        · subst hc
          simp [hq]
        · simp [hc, update_other]
  · rw [if_neg h]
    by_cases hc : c = ch <;> simp [hc]

end QueueBank
