import Mathlib.Data.List.Basic
import Mathlib.Tactic.Common

/-!
# A machine fed in batches that may give a batch up

`step` handles one input.  A batch is handled input by input, but in a state where `stops` holds the
input at hand is the last one of its batch: what is left of the batch is dropped.  `consumed` is
what was handled.  Nothing is dropped exactly when such states are met at the end of batches only,
and the machine then behaves as on the unbatched stream.
-/

namespace Batching

variable {σ ι ο κ : Type*} (step : σ → ι → List ο × σ) (stops : σ → Bool)

/-- The machine on a stream of inputs. -/
def stream : List ι → σ → List ο × σ
  | [], s => ([], s)
  | i :: is, s =>
      ((step s i).1 ++ (stream is (step s i).2).1, (stream is (step s i).2).2)

/-- The machine on one batch. -/
def batch : List ι → σ → List ο × σ
  | [], s => ([], s)
  | i :: is, s =>
      if stops s then step s i
      else ((step s i).1 ++ (batch is (step s i).2).1, (batch is (step s i).2).2)

/-- The inputs of a batch that are handled. -/
def consumed : List ι → σ → List ι
  | [], _ => []
  | i :: is, s => if stops s then [i] else i :: consumed is (step s i).2

/-- The machine on successive batches. -/
def batches : List (List ι) → σ → List ο × σ
  | [], s => ([], s)
  | b :: bs, s =>
      let r := batch step stops b s
      (r.1 ++ (batches bs r.2).1, (batches bs r.2).2)

/-- The inputs handled over successive batches. -/
def consumedAll : List (List ι) → σ → List ι
  | [], _ => []
  | b :: bs, s => consumed step stops b s ++ consumedAll bs (batch step stops b s).2

variable {step stops}

theorem stream_append (is js : List ι) (s : σ) :
    stream step (is ++ js) s =
      ((stream step is s).1 ++ (stream step js (stream step is s).2).1,
        (stream step js (stream step is s).2).2) := by
  induction is generalizing s with
  | nil => rfl
  | cons i is ih => rw [List.cons_append, stream, ih, stream, List.append_assoc]

-- A batch of one input is never given up.
theorem batches_singletons (is : List ι) (s : σ) :
    batches step stops (is.map fun i => [i]) s = stream step is s := by
  induction is generalizing s with
  | nil => rfl
  | cons i is ih =>
      have hone : batch step stops [i] s = step s i := by
        rw [batch, batch, List.append_nil]
        split <;> rfl
      rw [List.map_cons, batches, hone, stream]
      simp only [ih]

theorem batch_invariant {Inv : σ → Prop} (hinv : ∀ s i, Inv s → Inv (step s i).2) (is : List ι)
    (s : σ) (hs : Inv s) : Inv (batch step stops is s).2 := by
  induction is generalizing s with
  | nil => exact hs
  | cons i is ih =>
      rw [batch]
      split
      · exact hinv s i hs
      · exact ih _ (hinv s i hs)

theorem batches_invariant {Inv : σ → Prop} (hinv : ∀ s i, Inv s → Inv (step s i).2)
    (bs : List (List ι)) (s : σ) (hs : Inv s) : Inv (batches step stops bs s).2 := by
  induction bs generalizing s with
  | nil => exact hs
  | cons b bs ih => exact ih _ (batch_invariant hinv b s hs)

theorem length_consumed_le (is : List ι) (s : σ) :
    (consumed step stops is s).length ≤ is.length := by
  induction is generalizing s with
  | nil => exact Nat.le_refl _
  | cons i is ih =>
      rw [consumed]
      split
      · exact Nat.succ_le_succ (Nat.zero_le _)
      · exact Nat.succ_le_succ (ih _)

theorem length_consumedAll_le (bs : List (List ι)) (s : σ) :
    (consumedAll step stops bs s).length ≤ bs.flatten.length := by
  induction bs generalizing s with
  | nil => exact Nat.le_refl _
  | cons b bs ih =>
      rw [consumedAll, List.flatten_cons, List.length_append, List.length_append]
      exact Nat.add_le_add (length_consumed_le b s) (ih _)

theorem consumedAll_cons_eq_iff (b : List ι) (bs : List (List ι)) (s : σ) :
    consumedAll step stops (b :: bs) s = (b :: bs).flatten ↔
      consumed step stops b s = b ∧
        consumedAll step stops bs (batch step stops b s).2 = bs.flatten := by
  rw [consumedAll, List.flatten_cons]
  constructor
  · intro h
    have hlen := congrArg List.length h
    rw [List.length_append, List.length_append] at hlen
    have hb : (consumed step stops b s).length ≤ b.length := length_consumed_le b s
    have hbs : (consumedAll step stops bs (batch step stops b s).2).length ≤ bs.flatten.length :=
      length_consumedAll_le bs _
    exact List.append_inj h (by omega)
  · intro ⟨hb, hbs⟩
    rw [hb, hbs]

-- A batch nothing of which is dropped is a piece of the stream.
theorem batch_eq_stream (is : List ι) (s : σ) (h : consumed step stops is s = is) :
    batch step stops is s = stream step is s := by
  induction is generalizing s with
  | nil => rfl
  | cons i is ih =>
      rw [consumed] at h
      rw [batch, stream]
      split at h
      next hs =>
        rw [if_pos hs, ← (List.cons_inj_right i).mp h, stream, List.append_nil]
      next hs =>
        rw [if_neg hs, ih _ ((List.cons_inj_right i).mp h)]

-- Batches nothing of which is dropped are the stream.
theorem batches_eq_stream (bs : List (List ι)) (s : σ)
    (h : consumedAll step stops bs s = bs.flatten) :
    batches step stops bs s = stream step bs.flatten s := by
  induction bs generalizing s with
  | nil => rfl
  | cons b bs ih =>
      obtain ⟨hb, hbs⟩ := (consumedAll_cons_eq_iff b bs s).mp h
      rw [batches, ih _ hbs, List.flatten_cons, stream_append, batch_eq_stream b s hb]

-- If every handled input leaves its mark once, the marks of a run are what was handled.
theorem filterMap_batch {mark : ο → Option ι}
    (hmark : ∀ s i, (step s i).1.filterMap mark = [i]) (is : List ι) (s : σ) :
    (batch step stops is s).1.filterMap mark = consumed step stops is s := by
  induction is generalizing s with
  | nil => rfl
  | cons i is ih =>
      rw [batch, consumed]
      split
      · exact hmark s i
      · rw [List.filterMap_append, hmark, ih, List.singleton_append]

theorem filterMap_batches {mark : ο → Option ι}
    (hmark : ∀ s i, (step s i).1.filterMap mark = [i]) (bs : List (List ι)) (s : σ) :
    (batches step stops bs s).1.filterMap mark = consumedAll step stops bs s := by
  induction bs generalizing s with
  | nil => rfl
  | cons b bs ih =>
      rw [batches, consumedAll, List.filterMap_append, filterMap_batch hmark, ih]

/-! ## When nothing is dropped

Where a control `κ` that follows the inputs alone says in which states the machine stops, it also
says which batches are handled in full. -/

/-- Only the last input of a batch meets a stopping control. -/
def stopsLast (next : κ → ι → κ) (stop : κ → Bool) : κ → List ι → Bool
  | _, [] => true
  | _, [_] => true
  | k, i :: j :: is => !stop k && stopsLast next stop (next k i) (j :: is)

/-- The same for every one of successive batches. -/
def stopsLastAll (next : κ → ι → κ) (stop : κ → Bool) : κ → List (List ι) → Bool
  | _, [] => true
  | k, b :: bs => stopsLast next stop k b && stopsLastAll next stop (b.foldl next k) bs

section Control

variable {next : κ → ι → κ} {stop : κ → Bool} {ctl : σ → κ} {Inv : σ → Prop}

theorem stream_ctl (hinv : ∀ s i, Inv s → Inv (step s i).2)
    (hctl : ∀ s i, Inv s → ctl (step s i).2 = next (ctl s) i) (is : List ι) (s : σ) (hs : Inv s) :
    Inv (stream step is s).2 ∧ ctl (stream step is s).2 = is.foldl next (ctl s) := by
  induction is generalizing s with
  | nil => exact ⟨hs, rfl⟩
  | cons i is ih =>
      have h := ih _ (hinv s i hs)
      rw [hctl s i hs] at h
      exact h

theorem consumed_eq_iff (hinv : ∀ s i, Inv s → Inv (step s i).2)
    (hctl : ∀ s i, Inv s → ctl (step s i).2 = next (ctl s) i)
    (hstop : ∀ s, Inv s → stops s = stop (ctl s)) (is : List ι) (s : σ) (hs : Inv s) :
    consumed step stops is s = is ↔ stopsLast next stop (ctl s) is = true := by
  induction is generalizing s with
  | nil => simp [consumed, stopsLast]
  | cons i is ih =>
      have h := ih _ (hinv s i hs)
      rw [hctl s i hs] at h
      rw [consumed, hstop s hs]
      cases is with
      | nil => simp [consumed, stopsLast]
      | cons j is =>
          rw [stopsLast]
          cases hk : stop (ctl s) with
          | true => simp
          | false => simp [h]

theorem consumedAll_eq_iff (hinv : ∀ s i, Inv s → Inv (step s i).2)
    (hctl : ∀ s i, Inv s → ctl (step s i).2 = next (ctl s) i)
    (hstop : ∀ s, Inv s → stops s = stop (ctl s)) (bs : List (List ι)) (s : σ) (hs : Inv s) :
    consumedAll step stops bs s = bs.flatten ↔ stopsLastAll next stop (ctl s) bs = true := by
  induction bs generalizing s with
  | nil => simp [consumedAll, stopsLastAll]
  | cons b bs ih =>
      rw [consumedAll_cons_eq_iff, stopsLastAll, Bool.and_eq_true,
        consumed_eq_iff hinv hctl hstop b s hs]
      apply and_congr_right
      intro hb
      -- A batch handled in full leaves the machine where the stream would.
      have hfull := (consumed_eq_iff hinv hctl hstop b s hs).mpr hb
      have hend := stream_ctl hinv hctl b s hs
      rw [batch_eq_stream b s hfull, ih _ hend.1, hend.2]

end Control

end Batching
