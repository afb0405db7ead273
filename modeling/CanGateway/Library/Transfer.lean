import CanGateway.Library.Loop
import Mathlib.Data.List.Basic

/-!
# Transfers over a device that may move less

`read` and `write` move some of the units they are asked for, or none, or fail.  `retry` makes one
call again while it is interrupted; `full` goes on behind the units moved until all are, or no more
come.  Both keep a trace of the calls, and what holds of `full` is stated about the trace: it moves
an exact prefix.
-/

namespace Transfer

/-- What a call comes to: a count, or -1 with `errno`. -/
inductive CallResult where
  | count (n : Nat)
  | error (errno : Nat)
  deriving DecidableEq, Repr

/-- The units moved. -/
def CallResult.moved : CallResult → Nat
  | .count n => n
  | .error _ => 0

/-- A call that was made: the units asked for, and what it came to. -/
structure Attempt where
  offset : Nat
  len : Nat
  result : CallResult
  deriving DecidableEq, Repr

/-- A system call that is asked to move `len` units from `offset` on, and moves no more. -/
structure SysCall (σ : Type*) where
  call : σ → Nat → Nat → CallResult × σ
  count_le : ∀ s offset len n, (call s offset len).1 = .count n → n ≤ len

/-- The value returned, the calls made and the state they lead to. -/
structure Outcome (σ : Type*) where
  ret : Int
  trace : List Attempt
  state : σ

/-- The units moved by the calls of a trace. -/
def moved : List Attempt → Nat
  | [] => 0
  | attempt :: trace => attempt.result.moved + moved trace

@[simp] theorem moved_nil : moved [] = 0 := rfl

@[simp] theorem moved_cons (attempt : Attempt) (trace : List Attempt) :
    moved (attempt :: trace) = attempt.result.moved + moved trace := rfl

@[simp] theorem moved_append (trace trace' : List Attempt) :
    moved (trace ++ trace') = moved trace + moved trace' := by
  induction trace with
  | nil => exact (Nat.zero_add _).symm
  | cons attempt trace ih => rw [List.cons_append, moved_cons, moved_cons, ih, Nat.add_assoc]

theorem moved_eq_zero {trace : List Attempt}
    (h : ∀ attempt ∈ trace, attempt.result.moved = 0) : moved trace = 0 := by
  induction trace with
  | nil => rfl
  | cons attempt trace ih =>
      rw [moved_cons, h attempt List.mem_cons_self,
        ih fun later hmem => h later (List.mem_cons_of_mem attempt hmem)]

/-- The first call starts at `offset`, and every other one right behind the units moved so far. -/
def Advances : Nat → List Attempt → Prop
  | _, [] => True
  | offset, attempt :: rest =>
      attempt.offset = offset ∧ Advances (offset + attempt.result.moved) rest

theorem Advances.append {offset : Nat} {trace trace' : List Attempt} (h : Advances offset trace)
    (h' : Advances (offset + moved trace) trace') : Advances offset (trace ++ trace') := by
  induction trace generalizing offset with
  | nil => exact h'
  | cons attempt trace ih =>
      refine ⟨h.1, ih h.2 ?_⟩
      rw [moved_cons, ← Nat.add_assoc] at h'
      exact h'

variable {σ : Type*}

/-- `Calls c s trace t`: the calls of `trace`, made one after the other, lead from `s` to `t`. -/
inductive Calls (c : SysCall σ) : σ → List Attempt → σ → Prop
  | nil (s : σ) : Calls c s [] s
  | cons {s t : σ} {offset len : Nat} {trace : List Attempt} :
      Calls c (c.call s offset len).2 trace t →
      Calls c s (⟨offset, len, (c.call s offset len).1⟩ :: trace) t

theorem Calls.append {c : SysCall σ} {s t u : σ} {trace trace' : List Attempt}
    (h : Calls c s trace t) (h' : Calls c t trace' u) : Calls c s (trace ++ trace') u := by
  induction h with
  | nil => exact h'
  | cons _ ih => exact .cons (ih h')

theorem Calls.count_le {c : SysCall σ} {s t : σ} {trace : List Attempt} (h : Calls c s trace t) :
    ∀ attempt ∈ trace, attempt.result.moved ≤ attempt.len := by
  induction h with
  | nil => exact fun _ hmem => absurd hmem List.not_mem_nil
  | @cons s t offset len trace _ ih =>
      intro attempt hmem
      rcases List.mem_cons.mp hmem with rfl | hmem
      · cases hr : (c.call s offset len).1 with
        | count n => exact c.count_le s offset len n hr
        | error _ => exact Nat.zero_le _
      · exact ih attempt hmem

theorem Calls.answered {c : SysCall σ} {s t : σ} {trace : List Attempt} (h : Calls c s trace t) :
    ∀ attempt ∈ trace, ∃ u, attempt.result = (c.call u attempt.offset attempt.len).1 := by
  induction h with
  | nil => exact fun _ hmem => absurd hmem List.not_mem_nil
  | @cons s t offset len trace _ ih =>
      intro attempt hmem
      rcases List.mem_cons.mp hmem with rfl | hmem
      · exact ⟨s, rfl⟩
      · exact ih attempt hmem

theorem Calls.single (c : SysCall σ) (s : σ) (offset len : Nat) :
    Calls c s [⟨offset, len, (c.call s offset len).1⟩] (c.call s offset len).2 := .cons (.nil _)

/-! ## One call, made again while it is interrupted -/

/-- The loop variables of `retry`. -/
structure RetryState (σ : Type*) where
  errCnt : Nat
  trace : List Attempt
  state : σ

section Retry

variable (c : SysCall σ) (eintr limit offset len : Nat)

/-- The body of the retry loop. -/
def retryBody (s : RetryState σ) : RetryState σ ⊕ Outcome σ :=
  let r := c.call s.state offset len
  let trace := s.trace ++ [⟨offset, len, r.1⟩]
  match r.1 with
  | .count n => .inr ⟨n, trace, r.2⟩
  | .error errno =>
      if errno ≠ eintr then .inr ⟨-1, trace, r.2⟩
      else if s.errCnt + 1 > limit then .inr ⟨-1, trace, r.2⟩
      else .inl ⟨s.errCnt + 1, trace, r.2⟩

-- Everything one iteration can do.
theorem retryBody_cases (s : RetryState σ) :
    let r := c.call s.state offset len
    let trace := s.trace ++ [⟨offset, len, r.1⟩]
    (∃ n, r.1 = .count n ∧ retryBody c eintr limit offset len s = .inr ⟨n, trace, r.2⟩) ∨
    (∃ errno, r.1 = .error errno ∧ errno ≠ eintr ∧
      retryBody c eintr limit offset len s = .inr ⟨-1, trace, r.2⟩) ∨
    (r.1 = .error eintr ∧ limit < s.errCnt + 1 ∧
      retryBody c eintr limit offset len s = .inr ⟨-1, trace, r.2⟩) ∨
    (r.1 = .error eintr ∧ s.errCnt + 1 ≤ limit ∧
      retryBody c eintr limit offset len s = .inl ⟨s.errCnt + 1, trace, r.2⟩) := by
  intro r trace
  cases hr : r.1 with
  | count n =>
      refine Or.inl ⟨n, rfl, ?_⟩
      rw [retryBody]
      simp only [show (c.call s.state offset len).1 = .count n from hr]
      rw [← hr]
  | error errno =>
      have hbody : retryBody c eintr limit offset len s =
          if errno ≠ eintr then .inr ⟨-1, trace, r.2⟩
          else if s.errCnt + 1 > limit then .inr ⟨-1, trace, r.2⟩
          else .inl ⟨s.errCnt + 1, trace, r.2⟩ := by
        rw [retryBody]
        simp only [show (c.call s.state offset len).1 = .error errno from hr]
        rw [← hr]
      rw [hbody]
      by_cases herrno : errno = eintr
      · rw [if_neg (not_not.mpr herrno), herrno]
        by_cases hlimit : s.errCnt + 1 > limit
        · exact Or.inr (Or.inr (Or.inl ⟨rfl, hlimit, if_pos hlimit⟩))
        · exact Or.inr (Or.inr (Or.inr ⟨rfl, Nat.le_of_not_lt hlimit, if_neg hlimit⟩))
      · exact Or.inr (Or.inl ⟨errno, rfl, herrno, if_pos herrno⟩)

theorem retryBody_decreases (s s' : RetryState σ)
    (h : retryBody c eintr limit offset len s = .inl s') :
    limit - s'.errCnt < limit - s.errCnt := by
  obtain ⟨_, _, heq⟩ | ⟨_, _, _, heq⟩ | ⟨_, _, heq⟩ | ⟨_, hle, heq⟩ :=
    retryBody_cases c eintr limit offset len s
  · cases heq.symm.trans h
  · cases heq.symm.trans h
  · cases heq.symm.trans h
  · obtain rfl := Sum.inl.inj (heq.symm.trans h)
    show limit - (s.errCnt + 1) < limit - s.errCnt
    omega

/-- The call is made again while it fails with `eintr`, up to `limit` times. -/
def retry (s : σ) : Outcome σ :=
  Loop.eval (retryBody c eintr limit offset len) (fun s => limit - s.errCnt)
    (retryBody_decreases c eintr limit offset len) ⟨0, [], s⟩

/-- A call that was interrupted. -/
def interrupted : Attempt := ⟨offset, len, .error eintr⟩

theorem moved_interrupted (k : Nat) :
    moved (List.replicate k (interrupted eintr offset len)) = 0 := by
  apply moved_eq_zero
  intro attempt hmem
  rw [List.eq_of_mem_replicate hmem]
  rfl

theorem advances_interrupted (k : Nat) :
    Advances offset (List.replicate k (interrupted eintr offset len)) := by
  induction k with
  | zero => exact trivial
  | succ k ih => exact ⟨rfl, ih⟩

/-- How a call that is made again can end: it moves some units, it fails for another reason, or it
    has been interrupted too often. -/
inductive Retried : Int → List Attempt → Prop
  | counted {k n : Nat} : k ≤ limit → n ≤ len →
      Retried n (List.replicate k (interrupted eintr offset len) ++ [⟨offset, len, .count n⟩])
  | failed {k errno : Nat} : k ≤ limit → errno ≠ eintr →
      Retried (-1) (List.replicate k (interrupted eintr offset len) ++
        [⟨offset, len, .error errno⟩])
  | exhausted : Retried (-1) (List.replicate (limit + 1) (interrupted eintr offset len))

theorem retry_returns (s : σ) :
    Loop.Returns (retryBody c eintr limit offset len) ⟨0, [], s⟩
      (retry c eintr limit offset len s) := Loop.eval_returns _

-- By the invariant rule: so far every call has been interrupted.
theorem retry_spec (s : σ) :
    Calls c s (retry c eintr limit offset len s).trace (retry c eintr limit offset len s).state ∧
      Retried eintr limit offset len (retry c eintr limit offset len s).ret
        (retry c eintr limit offset len s).trace := by
  have hinv := (retry_returns c eintr limit offset len s).invariant
    (fun t => t.errCnt ≤ limit ∧
      t.trace = List.replicate t.errCnt (interrupted eintr offset len) ∧ Calls c s t.trace t.state)
    (fun o => Calls c s o.trace o.state ∧ Retried eintr limit offset len o.ret o.trace)
  apply hinv
  · rintro t t' ⟨hle, htrace, hcalls⟩ hbody
    obtain ⟨_, _, heq⟩ | ⟨_, _, _, heq⟩ | ⟨_, _, heq⟩ | ⟨hr, hlimit, heq⟩ :=
      retryBody_cases c eintr limit offset len t
    · cases heq.symm.trans hbody
    · cases heq.symm.trans hbody
    · cases heq.symm.trans hbody
    · obtain rfl := Sum.inl.inj (heq.symm.trans hbody)
      refine ⟨hlimit, ?_, hcalls.append (Calls.single c _ _ _)⟩
      show t.trace ++ [⟨offset, len, _⟩] = List.replicate (t.errCnt + 1) _
      rw [hr, htrace, List.replicate_succ']
      rfl
  · rintro t o ⟨hle, htrace, hcalls⟩ hbody
    have hnext := hcalls.append (Calls.single c t.state offset len)
    obtain ⟨n, hr, heq⟩ | ⟨errno, hr, hne, heq⟩ | ⟨hr, hlimit, heq⟩ | ⟨_, _, heq⟩ :=
      retryBody_cases c eintr limit offset len t
    · obtain rfl := Sum.inr.inj (heq.symm.trans hbody)
      refine ⟨hnext, ?_⟩
      rw [hr, htrace]
      exact .counted hle (c.count_le _ _ _ _ hr)
    · obtain rfl := Sum.inr.inj (heq.symm.trans hbody)
      refine ⟨hnext, ?_⟩
      rw [hr, htrace]
      exact .failed hle hne
    · obtain rfl := Sum.inr.inj (heq.symm.trans hbody)
      refine ⟨hnext, ?_⟩
      have hcount : t.errCnt = limit := by omega
      have hall : t.trace ++ [⟨offset, len, (c.call t.state offset len).1⟩] =
          List.replicate (limit + 1) (interrupted eintr offset len) := by
        rw [hr, htrace, hcount, List.replicate_succ']
        rfl
      show Retried eintr limit offset len (-1) (t.trace ++ _)
      rw [hall]
      exact .exhausted
    · cases heq.symm.trans hbody
  · exact ⟨Nat.zero_le _, rfl, .nil s⟩

end Retry

/-! ## Going on until everything is moved -/

/-- A way of making one call that ends as `retry` does. -/
structure SafeCall (c : SysCall σ) (eintr limit : Nat) where
  run : σ → Nat → Nat → Outcome σ
  calls : ∀ s offset len, Calls c s (run s offset len).trace (run s offset len).state
  retried : ∀ s offset len, 0 < len →
    Retried eintr limit offset len (run s offset len).ret (run s offset len).trace

/-- The loop variables of `full`: `total` units moved, `len` to go from `offset` on. -/
structure FullState (σ : Type*) where
  total : Int
  offset : Nat
  len : Nat
  trace : List Attempt
  state : σ

section Full

variable {c : SysCall σ} {eintr limit : Nat} (move : SafeCall c eintr limit)

/-- The body of the transfer loop. -/
def fullBody (s : FullState σ) : FullState σ ⊕ Outcome σ :=
  if s.len > 0 then
    let cc := move.run s.state s.offset s.len
    let trace := s.trace ++ cc.trace
    if cc.ret < 0 then .inr ⟨if s.total > 0 then s.total else cc.ret, trace, cc.state⟩
    else if cc.ret = 0 then .inr ⟨s.total, trace, cc.state⟩
    else .inl
      ⟨s.total + cc.ret, s.offset + cc.ret.toNat, s.len - cc.ret.toNat, trace, cc.state⟩
  else .inr ⟨s.total, s.trace, s.state⟩

theorem fullBody_decreases (s s' : FullState σ) (h : fullBody move s = .inl s') :
    s'.len < s.len := by
  unfold fullBody at h
  split at h
  next hlen =>
    dsimp only at h
    split at h
    · cases h
    split at h
    · cases h
    obtain rfl := Sum.inl.inj h
    show s.len - (move.run s.state s.offset s.len).ret.toNat < s.len
    omega
  · cases h

/-- Calls are made behind the units moved until `len` are moved, or no more come. -/
def full (len : Nat) (s : σ) : Outcome σ :=
  Loop.eval (fullBody move) FullState.len (fullBody_decreases move) ⟨0, 0, len, [], s⟩

theorem full_returns (len : Nat) (s : σ) :
    Loop.Returns (fullBody move) ⟨0, 0, len, [], s⟩ (full move len s) := Loop.eval_returns _

/-- Why a transfer stops early: a call moved nothing or failed for another reason than an
    interrupt, or the last `limit + 1` calls were all interrupted. -/
inductive Stopped (eintr limit : Nat) : List Attempt → Prop
  | nothing {trace : List Attempt} {offset len : Nat} :
      Stopped eintr limit (trace ++ [⟨offset, len, .count 0⟩])
  | failed {trace : List Attempt} {offset len errno : Nat} : errno ≠ eintr →
      Stopped eintr limit (trace ++ [⟨offset, len, .error errno⟩])
  | exhausted {trace : List Attempt} {offset len : Nat} :
      Stopped eintr limit (trace ++ List.replicate (limit + 1) (interrupted eintr offset len))

theorem Stopped.append {trace' : List Attempt} (h : Stopped eintr limit trace')
    (trace : List Attempt) : Stopped eintr limit (trace ++ trace') := by
  cases h with
  | nothing =>
      rw [← List.append_assoc]
      exact .nothing
  | failed hne =>
      rw [← List.append_assoc]
      exact .failed hne
  | exhausted =>
      rw [← List.append_assoc]
      exact .exhausted

theorem Stopped.unmoved {trace : List Attempt} (h : Stopped eintr limit trace) :
    ∃ attempt ∈ trace, attempt.result.moved = 0 := by
  cases h with
  | nothing => exact ⟨_, List.mem_append_right _ List.mem_cons_self, rfl⟩
  | failed _ => exact ⟨_, List.mem_append_right _ List.mem_cons_self, rfl⟩
  | exhausted =>
      rw [List.replicate_succ]
      exact ⟨_, List.mem_append_right _ List.mem_cons_self, rfl⟩

-- A call that moved nothing stops the transfer.
theorem Retried.stopped {offset len : Nat} {ret : Int} {trace : List Attempt}
    (h : Retried eintr limit offset len ret trace) (hret : ret ≤ 0) :
    Stopped eintr limit trace := by
  cases h with
  | counted _ _ =>
      obtain rfl : _ = 0 := Nat.le_zero.mp (Int.ofNat_le.mp hret)
      exact .nothing
  | failed _ hne => exact .failed hne
  | exhausted => exact @Stopped.exhausted _ _ [] _ _

theorem Retried.moved_eq {offset len : Nat} {ret : Int} {trace : List Attempt}
    (h : Retried eintr limit offset len ret trace) : moved trace = ret.toNat := by
  cases h with
  | counted _ _ =>
      rw [moved_append, moved_interrupted, Nat.zero_add]
      exact Nat.add_zero _
  | failed _ _ =>
      rw [moved_append, moved_interrupted]
      rfl
  | exhausted => exact moved_interrupted eintr offset len (limit + 1)

theorem Retried.advances {offset len : Nat} {ret : Int} {trace : List Attempt}
    (h : Retried eintr limit offset len ret trace) : Advances offset trace := by
  have hlast : ∀ k result, Advances offset
      (List.replicate k (interrupted eintr offset len) ++ [⟨offset, len, result⟩]) := by
    intro k result
    apply (advances_interrupted eintr offset len k).append
    rw [moved_interrupted]
    exact ⟨rfl, trivial⟩
  cases h with
  | counted _ _ => exact hlast _ _
  | failed _ _ => exact hlast _ _
  | exhausted => exact advances_interrupted eintr offset len (limit + 1)

theorem Retried.ret_range {offset len : Nat} {ret : Int} {trace : List Attempt}
    (h : Retried eintr limit offset len ret trace) : -1 ≤ ret ∧ ret ≤ len := by
  cases h with
  | counted _ hn => omega
  | failed _ _ => omega
  | exhausted => omega

theorem Retried.asked {offset len : Nat} {ret : Int} {trace : List Attempt}
    (h : Retried eintr limit offset len ret trace) :
    ∀ attempt ∈ trace, attempt.offset = offset ∧ attempt.len = len := by
  have hinterrupted : ∀ k, ∀ attempt ∈ List.replicate k (interrupted eintr offset len),
      attempt.offset = offset ∧ attempt.len = len := by
    intro k attempt hmem
    rw [List.eq_of_mem_replicate hmem]
    exact ⟨rfl, rfl⟩
  intro attempt hmem
  cases h with
  | counted _ _ =>
      rcases List.mem_append.mp hmem with hmem | hmem
      · exact hinterrupted _ attempt hmem
      · rw [List.mem_singleton.mp hmem]
        exact ⟨rfl, rfl⟩
  | failed _ _ =>
      rcases List.mem_append.mp hmem with hmem | hmem
      · exact hinterrupted _ attempt hmem
      · rw [List.mem_singleton.mp hmem]
        exact ⟨rfl, rfl⟩
  | exhausted => exact hinterrupted _ attempt hmem

/-- What a transfer of `len` units comes to. -/
structure Transferred (eintr limit len : Nat) (o : Outcome σ) : Prop where
  ret_range : -1 ≤ o.ret ∧ o.ret ≤ len
  /-- The calls move the units from 0 on without a gap. -/
  advances : Advances 0 o.trace
  moved : moved o.trace = o.ret.toNat
  /-- Every call asks for the rest of the buffer, whatever is left of it. -/
  asked : ∀ attempt ∈ o.trace, attempt.offset + attempt.len = len ∧ 0 < attempt.len
  stopped : o.ret < len → Stopped eintr limit o.trace

/-- The invariant of the transfer loop. -/
structure FullInv (c : SysCall σ) (len : Nat) (s₀ : σ) (s : FullState σ) : Prop where
  total : s.total = s.offset
  rest : s.offset + s.len = len
  advances : Advances 0 s.trace
  moved : moved s.trace = s.offset
  asked : ∀ attempt ∈ s.trace, attempt.offset + attempt.len = len ∧ 0 < attempt.len
  calls : Calls c s₀ s.trace s.state

theorem FullInv.asked_append {len : Nat} {s₀ : σ} {s : FullState σ} (h : FullInv c len s₀ s)
    {ret : Int} {trace : List Attempt} (hlen : 0 < s.len)
    (hretried : Retried eintr limit s.offset s.len ret trace) :
    ∀ attempt ∈ s.trace ++ trace, attempt.offset + attempt.len = len ∧ 0 < attempt.len := by
  intro attempt hmem
  rcases List.mem_append.mp hmem with hmem | hmem
  · exact h.asked attempt hmem
  · obtain ⟨hoffset, hattempt⟩ := hretried.asked attempt hmem
    rw [hoffset, hattempt]
    exact ⟨h.rest, hlen⟩

theorem FullInv.advances_append {len : Nat} {s₀ : σ} {s : FullState σ} (h : FullInv c len s₀ s)
    {ret : Int} {trace : List Attempt}
    (hretried : Retried eintr limit s.offset s.len ret trace) : Advances 0 (s.trace ++ trace) := by
  apply h.advances.append
  rw [h.moved, Nat.zero_add]
  exact hretried.advances

theorem FullInv.moved_append {len : Nat} {s₀ : σ} {s : FullState σ} (h : FullInv c len s₀ s)
    {ret : Int} {trace : List Attempt}
    (hretried : Retried eintr limit s.offset s.len ret trace) :
    Transfer.moved (s.trace ++ trace) = s.offset + ret.toNat := by
  rw [Transfer.moved_append, h.moved, hretried.moved_eq]

-- A call that has moved some units.
theorem FullInv.again {len : Nat} {s₀ state : σ} {s : FullState σ} (h : FullInv c len s₀ s)
    (hlen : 0 < s.len) {ret : Int} {trace : List Attempt}
    (hretried : Retried eintr limit s.offset s.len ret trace) (hret : 0 ≤ ret)
    (hcalls : Calls c s.state trace state) :
    FullInv c len s₀
      ⟨s.total + ret, s.offset + ret.toNat, s.len - ret.toNat, s.trace ++ trace, state⟩ := by
  have hrange := hretried.ret_range
  have htotal := h.total
  have hrest := h.rest
  refine ⟨?_, ?_, h.advances_append hretried, h.moved_append hretried,
    h.asked_append hlen hretried, h.calls.append hcalls⟩
  · show s.total + ret = ((s.offset + ret.toNat : Nat) : Int)
    omega
  · show s.offset + ret.toNat + (s.len - ret.toNat) = len
    omega

-- A call that has moved none: what was moved before counts.
theorem FullInv.stop {len : Nat} {s₀ state : σ} {s : FullState σ} (h : FullInv c len s₀ s)
    (hlen : 0 < s.len) {ret total : Int} {trace : List Attempt}
    (hretried : Retried eintr limit s.offset s.len ret trace) (hret : ret ≤ 0)
    (htotal : total.toNat = s.offset) (hmin : -1 ≤ total) :
    Transferred eintr limit len ⟨total, s.trace ++ trace, state⟩ := by
  have hrest := h.rest
  have hmoved := h.moved_append hretried
  have hnone : ret.toNat = 0 := by omega
  rw [hnone, Nat.add_zero, ← htotal] at hmoved
  refine ⟨⟨hmin, ?_⟩, h.advances_append hretried, hmoved, h.asked_append hlen hretried,
    fun _ => (hretried.stopped hret).append _⟩
  show total ≤ len
  omega

-- Nothing is left.
theorem FullInv.finish {len : Nat} {s₀ : σ} {s : FullState σ} (h : FullInv c len s₀ s)
    (hlen : ¬ 0 < s.len) : Transferred eintr limit len ⟨s.total, s.trace, s.state⟩ := by
  have hrest := h.rest
  have htotal := h.total
  have hmoved : s.offset = s.total.toNat := by omega
  refine ⟨?_, h.advances, ?_, h.asked, ?_⟩
  · show -1 ≤ s.total ∧ s.total ≤ len
    omega
  · rw [← hmoved]
    exact h.moved
  · intro hlt
    change s.total < len at hlt
    omega

-- By the invariant rule.
theorem full_spec (len : Nat) (s : σ) :
    Calls c s (full move len s).trace (full move len s).state ∧
      Transferred eintr limit len (full move len s) := by
  apply (full_returns move len s).invariant (FullInv c len s)
    (fun o => Calls c s o.trace o.state ∧ Transferred eintr limit len o)
  · intro t t' h hbody
    unfold fullBody at hbody
    split at hbody
    next hlen =>
      dsimp only at hbody
      split at hbody
      · cases hbody
      next hret =>
        split at hbody
        · cases hbody
        · obtain rfl := Sum.inl.inj hbody
          exact h.again hlen (move.retried _ _ _ hlen) (Int.not_lt.mp hret) (move.calls _ _ _)
    · cases hbody
  · intro t o h hbody
    have htotal := h.total
    unfold fullBody at hbody
    split at hbody
    next hlen =>
      dsimp only at hbody
      have hretried := move.retried t.state t.offset t.len hlen
      have hrange := hretried.ret_range
      have hcalls := h.calls.append (move.calls t.state t.offset t.len)
      split at hbody
      next hneg =>
        obtain rfl := Sum.inr.inj hbody
        exact ⟨hcalls, h.stop hlen hretried (by omega) (by split <;> omega) (by split <;> omega)⟩
      split at hbody
      next hnone =>
        obtain rfl := Sum.inr.inj hbody
        exact ⟨hcalls, h.stop hlen hretried (by omega) (by omega) (by omega)⟩
      · cases hbody
    next hlen =>
      obtain rfl := Sum.inr.inj hbody
      exact ⟨h.calls, h.finish hlen⟩
  · exact ⟨rfl, Nat.zero_add len, trivial, rfl, fun _ hmem => absurd hmem List.not_mem_nil,
      .nil s⟩

-- A call that always moves something moves everything in the end.
theorem full_complete (len : Nat) (s : σ)
    (hmoves : ∀ t offset n, offset + n = len → 0 < n → 0 < (c.call t offset n).1.moved) :
    (full move len s).ret = len := by
  obtain ⟨hcalls, htransferred⟩ := full_spec move len s
  by_contra hne
  have hrange := htransferred.ret_range
  obtain ⟨attempt, hmem, hunmoved⟩ := (htransferred.stopped (by omega)).unmoved
  obtain ⟨t, hresult⟩ := hcalls.answered attempt hmem
  obtain ⟨hend, hpos⟩ := htransferred.asked attempt hmem
  have hmoved := hmoves t _ _ hend hpos
  rw [← hresult, hunmoved] at hmoved
  exact Nat.lt_irrefl 0 hmoved

/-! ## Going on in spite of interrupts -/

-- Calls made one after the other can be split anywhere.
theorem Calls.of_append {s u : σ} {trace trace' : List Attempt}
    (h : Calls c s (trace ++ trace') u) : ∃ t, Calls c s trace t ∧ Calls c t trace' u := by
  induction trace generalizing s with
  | nil => exact ⟨s, .nil s, h⟩
  | cons attempt trace ih =>
      rw [List.cons_append] at h
      cases h with
      | cons hrest =>
          obtain ⟨t, hfirst, hlast⟩ := ih hrest
          exact ⟨t, .cons hfirst, hlast⟩

/-- A call moves something or is interrupted, and `burst` bounds how often it is in a row. -/
structure Progress (c : SysCall σ) (eintr limit len : Nat) (burst : σ → Nat)
    (Inv : Nat → σ → Prop) : Prop where
  burst_le : ∀ s, burst s ≤ limit
  moves : ∀ s offset n, offset + n = len → 0 < n → Inv offset s →
    (∃ m > 0, (c.call s offset n).1 = .count m ∧ Inv (offset + m) (c.call s offset n).2) ∨
    ((c.call s offset n).1 = .error eintr ∧ Inv offset (c.call s offset n).2 ∧
      burst (c.call s offset n).2 < burst s)

section Progress

variable {len offset n : Nat} {burst : σ → Nat} {Inv : Nat → σ → Prop} {s t : σ}

theorem Progress.interrupted (h : Progress c eintr limit len burst Inv) (hend : offset + n = len)
    (hn : 0 < n) {k : Nat}
    (hcalls : Calls c s (List.replicate k (interrupted eintr offset n)) t) (hinv : Inv offset s) :
    Inv offset t ∧ k + burst t ≤ burst s := by
  induction k generalizing s with
  | zero =>
      cases hcalls
      exact ⟨hinv, by omega⟩
  | succ k ih =>
      rw [List.replicate_succ] at hcalls
      generalize hattempt : Transfer.interrupted eintr offset n = attempt at hcalls
      cases hcalls with
      | cons hrest =>
          obtain ⟨rfl, rfl, hresult⟩ := Attempt.mk.inj hattempt
          obtain ⟨m, _, hcount, _⟩ | ⟨_, hkept, hless⟩ := h.moves s _ _ hend hn hinv
          · rw [hcount] at hresult
            cases hresult
          · rw [← hattempt] at hrest
            obtain ⟨hlast, hle⟩ := ih hrest hkept
            exact ⟨hlast, by omega⟩

-- A call that is made again moves something in the end.
theorem Progress.retried (h : Progress c eintr limit len burst Inv) (hend : offset + n = len)
    (hn : 0 < n) {ret : Int} {trace : List Attempt} (hcalls : Calls c s trace t)
    (hretried : Retried eintr limit offset n ret trace) (hinv : Inv offset s) :
    ∃ m > 0, ret = (m : Nat) ∧ m ≤ n ∧ Inv (offset + m) t := by
  cases hretried with
  | @counted k m _ hle =>
      obtain ⟨u, hfirst, hlast⟩ := hcalls.of_append
      obtain ⟨hkept, _⟩ := h.interrupted hend hn hfirst hinv
      generalize hattempt : (⟨offset, n, .count m⟩ : Attempt) = attempt at hlast
      cases hlast with
      | cons hrest =>
          obtain ⟨rfl, rfl, hresult⟩ := Attempt.mk.inj hattempt
          cases hrest
          obtain ⟨m', hpos, hcount, hnext⟩ | ⟨herror, _⟩ := h.moves u _ _ hend hn hkept
          · obtain rfl := CallResult.count.inj (hresult.trans hcount)
            exact ⟨m, hpos, rfl, hle, hnext⟩
          · cases hresult.trans herror
  | @failed k errno _ hne =>
      obtain ⟨u, hfirst, hlast⟩ := hcalls.of_append
      obtain ⟨hkept, _⟩ := h.interrupted hend hn hfirst hinv
      generalize hattempt : (⟨offset, n, .error errno⟩ : Attempt) = attempt at hlast
      cases hlast with
      | cons hrest =>
          obtain ⟨rfl, rfl, hresult⟩ := Attempt.mk.inj hattempt
          obtain ⟨m', _, hcount, _⟩ | ⟨herror, _⟩ := h.moves u _ _ hend hn hkept
          · cases hresult.trans hcount
          · exact absurd (CallResult.error.inj (hresult.trans herror)) hne
  | exhausted =>
      obtain ⟨_, hle⟩ := h.interrupted hend hn hcalls hinv
      have hburst := h.burst_le s
      omega

-- By the invariant rule: nothing stops the transfer.
theorem Progress.full (h : Progress c eintr limit len burst Inv) (hinv : Inv 0 s) :
    (full move len s).ret = len ∧ Inv len (full move len s).state := by
  apply (full_returns move len s).invariant
    (fun t => t.total = t.offset ∧ t.offset + t.len = len ∧ Inv t.offset t.state)
    (fun o : Outcome σ => o.ret = (len : Int) ∧ Inv len o.state)
  · rintro t t' ⟨htotal, hend, hkept⟩ hbody
    unfold fullBody at hbody
    split at hbody
    next hlen =>
      obtain ⟨m, hpos, hret, hle, hnext⟩ := h.retried hend hlen (move.calls _ _ _)
        (move.retried t.state t.offset t.len hlen) hkept
      dsimp only at hbody
      rw [hret, if_neg (by omega), if_neg (by omega)] at hbody
      obtain rfl := Sum.inl.inj hbody
      refine ⟨?_, ?_, hnext⟩
      · show t.total + (m : Int) = ((t.offset + m : Nat) : Int)
        omega
      · show t.offset + m + (t.len - m) = len
        omega
    · cases hbody
  · rintro t o ⟨htotal, hend, hkept⟩ hbody
    unfold fullBody at hbody
    split at hbody
    next hlen =>
      obtain ⟨m, hpos, hret, _⟩ := h.retried hend hlen (move.calls _ _ _)
        (move.retried t.state t.offset t.len hlen) hkept
      dsimp only at hbody
      rw [hret, if_neg (by omega), if_neg (by omega)] at hbody
      cases hbody
    next hlen =>
      obtain rfl := Sum.inr.inj hbody
      obtain rfl : t.offset = len := by omega
      exact ⟨htotal, hkept⟩
  · exact ⟨rfl, Nat.zero_add len, hinv⟩

end Progress

end Full

end Transfer
