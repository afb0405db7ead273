import Mathlib.Data.Fintype.Card
import Mathlib.Data.List.Basic
import Mathlib.Logic.Relation
import Mathlib.Order.WellFounded
import Mathlib.Tactic.Common

/-!
# Locks taken in order

A small language of lock programs: `lock`, `unlock`, sequence, branch, loop and call, with early
`return`, `break` and `continue`.  `wp` is its calculus of preconditions over the locks a function
has taken itself: it asks for every lock to be ranked above all those held, and for every call to
find its callee ranked above them.  A function is `Disciplined` when on every path it gives back
exactly what it took.  Threads that run disciplined programs never wait in a circle.
-/

namespace LockOrder

universe u v

/-! ## Programs -/

/-- How a command ends. -/
inductive Exit where
  | next
  | ret
  | brk
  | cont
  deriving DecidableEq

/-- What a program does to locks.  Nothing else is said of it: `branch` may go either way and `loop`
may end before any round. -/
inductive Prog (L : Type u) where
  | exit (e : Exit)
  | lock (l : L)
  | unlock (l : L)
  | seq (p q : Prog L)
  | branch (p q : Prog L)
  | loop (body : Prog L)
  | call (body : Prog L)

namespace Prog

variable {L : Type u}

/-- A statement list. -/
def block : List (Prog L) → Prog L
  | [] => .exit .next
  | p :: ps => .seq p (block ps)

/-- `if` without `else`. -/
def opt (ps : List (Prog L)) : Prog L := .branch (block ps) (.exit .next)

/-- `for` over a known list. -/
def each {α : Type v} (xs : List α) (body : α → Prog L) : Prog L := block (xs.map body)

/-- Waiting on a condition gives the lock back and takes it again. -/
def wait (l : L) : Prog L := block [.unlock l, .lock l]

end Prog

/-! ## Threads -/

/-- What remains to be done around the command a thread is at. -/
inductive Frame (L : Type u) where
  | seq (q : Prog L)
  | loop (p : Prog L)
  | call

variable {L : Type u}

/-- How a frame goes on when the command inside it has ended. -/
def resume : Exit → Frame L → Prog L
  | .next, .seq q => q
  | e, .seq _ => .exit e
  | .next, .loop p => .loop p
  | .cont, .loop p => .loop p
  | .brk, .loop _ => .exit .next
  | .ret, .loop _ => .exit .ret
  | _, .call => .exit .next

/-- A thread: its command, what surrounds it and the locks it holds, newest first. -/
structure Thread (L : Type u) where
  now : Prog L
  stack : List (Frame L)
  held : List L

/-- One step of a thread that can have the locks in `free`. -/
inductive Thread.Step [DecidableEq L] (free : L → Prop) : Thread L → Thread L → Prop
  | resume (e f fs h) : Step free ⟨.exit e, f :: fs, h⟩ ⟨resume e f, fs, h⟩
  | lock (l fs h) : free l → Step free ⟨.lock l, fs, h⟩ ⟨.exit .next, fs, l :: h⟩
  | unlock (l fs h) : Step free ⟨.unlock l, fs, h⟩ ⟨.exit .next, fs, h.erase l⟩
  | seq (p q fs h) : Step free ⟨.seq p q, fs, h⟩ ⟨p, .seq q :: fs, h⟩
  | left (p q fs h) : Step free ⟨.branch p q, fs, h⟩ ⟨p, fs, h⟩
  | right (p q fs h) : Step free ⟨.branch p q, fs, h⟩ ⟨q, fs, h⟩
  | leave (p fs h) : Step free ⟨.loop p, fs, h⟩ ⟨.exit .next, fs, h⟩
  | enter (p fs h) : Step free ⟨.loop p, fs, h⟩ ⟨p, .loop p :: fs, h⟩
  | call (p fs h) : Step free ⟨.call p, fs, h⟩ ⟨p, .call :: fs, h⟩

/-- Entered with `held`, the function `body` can return with `held'`. -/
def Returns [DecidableEq L] (body : Prog L) (held held' : List L) : Prop :=
  ∃ e, Relation.ReflTransGen (Thread.Step fun _ => True) ⟨body, [], held⟩ ⟨.exit e, [], held'⟩

/-- A thread that has nothing left to do. -/
def Thread.Done (t : Thread L) : Prop := ∃ e, t.now = .exit e ∧ t.stack = []

variable {ι : Type v}

/-- Nobody holds `l`: locks are not recursive, so this asks the taker too. -/
def Free (s : ι → Thread L) (l : L) : Prop := ∀ i, l ∉ (s i).held

/-- One thread takes a step. -/
def Moves [DecidableEq L] (s s' : ι → Thread L) : Prop :=
  ∃ i, Thread.Step (Free s) (s i) (s' i) ∧ ∀ j, j ≠ i → s' j = s j

/-- Thread `i` is about to take a lock that `j` holds. -/
def WaitsFor (s : ι → Thread L) (i j : ι) : Prop :=
  ∃ l, (s i).now = .lock l ∧ l ∈ (s j).held

/-! ## Preconditions -/

/-- What holds of the locks taken, at each way to end. -/
abbrev Post (L : Type u) := Exit → List L → Prop

/-- The function has ended and gave back what it took. -/
def Post.returned : Post L := fun e own => (e = .next ∨ e = .ret) ∧ own = []

/-- `Q`, but a normal end has `N` to reach. -/
def Post.andThen (Q : Post L) (N : List L → Prop) : Post L
  | .next => N
  | e => Q e

/-- A loop's body comes back to the locks the round began with. -/
def Post.round (Q : Post L) (own : List L) : Post L
  | .next => fun own' => own' = own
  | .cont => fun own' => own' = own
  | .brk => Q .next
  | .ret => Q .ret

namespace Post

variable {Q : Post L} {N : List L → Prop} {own : List L}

@[simp] theorem andThen_next : Q.andThen N .next = N := rfl

@[simp] theorem andThen_ret : Q.andThen N .ret = Q .ret := rfl

@[simp] theorem andThen_brk : Q.andThen N .brk = Q .brk := rfl

@[simp] theorem andThen_cont : Q.andThen N .cont = Q .cont := rfl

@[simp] theorem round_next : Q.round own .next = fun own' => own' = own := rfl

@[simp] theorem round_cont : Q.round own .cont = fun own' => own' = own := rfl

@[simp] theorem round_brk : Q.round own .brk = Q .next := rfl

@[simp] theorem round_ret : Q.round own .ret = Q .ret := rfl

@[simp] theorem returned_next : (Post.returned : Post L) .next own ↔ own = [] := by
  simp [returned]

@[simp] theorem returned_ret : (Post.returned : Post L) .ret own ↔ own = [] := by
  simp [returned]

end Post

variable {R : Type v} [Preorder R] [DecidableEq L]

/-- What must hold of the locks `own` that a function has taken so far for `p` to end in `Q`, where
the function may take locks from rank `k` upwards. -/
def wp (rank : L → R) : R → Prog L → Post L → List L → Prop
  | _, .exit e, Q, own => Q e own
  | k, .lock l, Q, own => k ≤ rank l ∧ (∀ m ∈ own, rank m < rank l) ∧ Q .next (l :: own)
  | _, .unlock l, Q, own => l ∈ own ∧ Q .next (own.erase l)
  | k, .seq p q, Q, own => wp rank k p (Q.andThen (wp rank k q Q)) own
  | k, .branch p q, Q, own => wp rank k p Q own ∧ wp rank k q Q own
  | k, .loop p, Q, own => Q .next own ∧ wp rank k p (Q.round own) own
  | k, .call p, Q, own =>
      (∃ k', k ≤ k' ∧ (∀ m ∈ own, rank m < k') ∧ wp rank k' p Post.returned []) ∧ Q .next own

/-- A function that takes locks from rank `k` upwards, in order, and gives them all back. -/
def Disciplined (rank : L → R) (k : R) (body : Prog L) : Prop :=
  wp rank k body Post.returned []

section Rules

variable {rank : L → R} {k : R} {Q : Post L} {own : List L}

@[simp] theorem wp_exit (e : Exit) : wp rank k (.exit e) Q own ↔ Q e own := Iff.rfl

@[simp] theorem wp_lock (l : L) :
    wp rank k (.lock l) Q own ↔
      k ≤ rank l ∧ (∀ m ∈ own, rank m < rank l) ∧ Q .next (l :: own) := Iff.rfl

@[simp] theorem wp_unlock (l : L) :
    wp rank k (.unlock l) Q own ↔ l ∈ own ∧ Q .next (own.erase l) := Iff.rfl

@[simp] theorem wp_branch (p q : Prog L) :
    wp rank k (.branch p q) Q own ↔ wp rank k p Q own ∧ wp rank k q Q own := Iff.rfl

@[simp] theorem wp_loop (p : Prog L) :
    wp rank k (.loop p) Q own ↔ Q .next own ∧ wp rank k p (Q.round own) own := Iff.rfl

@[simp] theorem wp_block_nil : wp rank k (.block []) Q own ↔ Q .next own := Iff.rfl

@[simp] theorem wp_block_cons (p : Prog L) (ps : List (Prog L)) :
    wp rank k (.block (p :: ps)) Q own ↔
      wp rank k p (Q.andThen (wp rank k (.block ps) Q)) own := Iff.rfl

@[simp] theorem wp_opt (ps : List (Prog L)) :
    wp rank k (.opt ps) Q own ↔ wp rank k (.block ps) Q own ∧ Q .next own := Iff.rfl

@[simp] theorem wp_wait (l : L) :
    wp rank k (.wait l) Q own ↔
      l ∈ own ∧ k ≤ rank l ∧ (∀ m ∈ own.erase l, rank m < rank l) ∧
        Q .next (l :: own.erase l) := Iff.rfl

-- The locks a caller holds stay below its callee's: `base` is what lies under the callee's own.
theorem wp_frame {k' : R} (hk : k ≤ k') {base : List L} (hbase : ∀ m ∈ base, rank m < k')
    {p : Prog L} {Q' : Post L} (hQ : ∀ e o, Q e o → Q' e (o ++ base))
    (h : wp rank k' p Q own) : wp rank k p Q' (own ++ base) := by
  induction p generalizing k k' Q Q' own with
  | exit e => exact hQ e own h
  | lock l =>
      obtain ⟨hl, hown, hnext⟩ := h
      refine ⟨hk.trans hl, fun m hm => ?_, hQ _ _ hnext⟩
      rcases List.mem_append.mp hm with hm | hm
      · exact hown m hm
      · exact (hbase m hm).trans_le hl
  | unlock l =>
      obtain ⟨hmem, hnext⟩ := h
      refine ⟨List.mem_append_left base hmem, ?_⟩
      rw [List.erase_append_left base hmem]
      exact hQ _ _ hnext
  | seq p q ihp ihq =>
      refine ihp hk hbase (fun e o ho => ?_) h
      cases e with
      | next => exact ihq hk hbase hQ ho
      | ret => exact hQ .ret o ho
      | brk => exact hQ .brk o ho
      | cont => exact hQ .cont o ho
  | branch p q ihp ihq => exact ⟨ihp hk hbase hQ h.1, ihq hk hbase hQ h.2⟩
  | loop p ih =>
      refine ⟨hQ .next own h.1, ih hk hbase (fun e o ho => ?_) h.2⟩
      cases e with
      | next => exact congrArg (· ++ base) ho
      | ret => exact hQ .ret o ho
      | brk => exact hQ .next o ho
      | cont => exact congrArg (· ++ base) ho
  | call p ih =>
      obtain ⟨⟨k'', hk'', hown, hbody⟩, hnext⟩ := h
      refine ⟨⟨k'', hk.trans hk'', fun m hm => ?_, hbody⟩, hQ _ _ hnext⟩
      rcases List.mem_append.mp hm with hm | hm
      · exact hown m hm
      · exact (hbase m hm).trans_le hk''

theorem wp_mono {p : Prog L} {Q' : Post L} (hQ : ∀ e o, Q e o → Q' e o)
    (h : wp rank k p Q own) : wp rank k p Q' own := by
  have hnil : wp rank k p Q' (own ++ []) :=
    wp_frame (le_refl k) (by simp) (fun e o ho => by simpa using hQ e o ho) h
  rwa [List.append_nil] at hnil

theorem Disciplined.mono {k' : R} {body : Prog L} (hbody : Disciplined rank k' body) (hk : k ≤ k') :
    Disciplined rank k body := by
  have hnil : wp rank k body Post.returned ([] ++ []) :=
    wp_frame hk (by simp) (fun e o ho => by simpa using ho) hbody
  exact hnil

-- Calling a disciplined function changes nothing, if all that is held ranks below it.
theorem Disciplined.wp_call {k' : R} {body : Prog L} (hbody : Disciplined rank k' body)
    (hk : k ≤ k') (hown : ∀ m ∈ own, rank m < k') :
    wp rank k (.call body) Q own ↔ Q .next own :=
  ⟨fun h => h.2, fun hQ => ⟨⟨k', hk, hown, hbody⟩, hQ⟩⟩

-- A statement list each of whose statements leaves the locks alone leaves them alone.
theorem wp_each {α : Type v} {xs : List α} {body : α → Prog L} (hQ : Q .next own)
    (hbody : ∀ x ∈ xs, ∀ N : List L → Prop, N own → wp rank k (body x) (Q.andThen N) own) :
    wp rank k (.each xs body) Q own := by
  induction xs with
  | nil => exact hQ
  | cons x xs ih =>
      refine hbody x List.mem_cons_self _ ?_
      exact ih fun y hy => hbody y (List.mem_cons_of_mem x hy)

end Rules

/-! ## What every step keeps -/

/-- What the surrounding frames ask of each way to end. -/
def after (rank : L → R) (k : R) : List (Frame L) → Post L
  | [] => Post.returned
  | f :: fs => fun e own => wp rank k (resume e f) (after rank k fs) own

/-- Under what the thread has taken lies `base`, and it will give back exactly the rest. -/
def Thread.Keeps (rank : L → R) (k : R) (base : List L) (t : Thread L) : Prop :=
  ∃ own, t.held = own ++ base ∧ wp rank k t.now (after rank k t.stack) own

section Invariant

variable {rank : L → R} {k : R} {base : List L} {t t' : Thread L} {free : L → Prop}

theorem Disciplined.keeps {body : Prog L} (hbody : Disciplined rank k body) (base : List L) :
    Thread.Keeps rank k base ⟨body, [], base⟩ :=
  ⟨[], rfl, hbody⟩

theorem Thread.Step.keeps (hstep : Thread.Step free t t') (ht : t.Keeps rank k base) :
    t'.Keeps rank k base := by
  obtain ⟨own, hheld, hwp⟩ := ht
  cases hstep with
  | resume e f fs h => exact ⟨own, hheld, hwp⟩
  | lock l fs h hfree => exact ⟨l :: own, congrArg (l :: ·) hheld, hwp.2.2⟩
  | unlock l fs h =>
      refine ⟨own.erase l, ?_, hwp.2⟩
      rw [show h = own ++ base from hheld, List.erase_append_left base hwp.1]
  | seq p q fs h =>
      refine ⟨own, hheld, wp_mono (fun e o ho => ?_) hwp⟩
      cases e <;> exact ho
  | left p q fs h => exact ⟨own, hheld, hwp.1⟩
  | right p q fs h => exact ⟨own, hheld, hwp.2⟩
  | leave p fs h => exact ⟨own, hheld, hwp.1⟩
  | enter p fs h =>
      -- A round that ends finds the loop with the locks it began with, so `hwp` serves again.
      refine ⟨own, hheld, wp_mono (fun e o ho => ?_) hwp.2⟩
      cases e with
      | next => exact ho ▸ hwp
      | ret => exact ho
      | brk => exact ho
      | cont => exact ho ▸ hwp
  | call p fs h =>
      obtain ⟨⟨k', hk, hown, hbody⟩, hnext⟩ := hwp
      refine ⟨own, hheld, ?_⟩
      show wp rank k p (after rank k (.call :: fs)) ([] ++ own)
      refine wp_frame hk hown ?_ hbody
      rintro e o ⟨rfl | rfl, rfl⟩
      · exact hnext
      · exact hnext

theorem Thread.Keeps.run (ht : t.Keeps rank k base)
    (hrun : Relation.ReflTransGen (Thread.Step free) t t') : t'.Keeps rank k base := by
  induction hrun with
  | refl => exact ht
  | tail _ hstep ih => exact hstep.keeps ih

-- A disciplined function returns with what it was entered with, whatever that was.
theorem Disciplined.returns {body : Prog L} (hbody : Disciplined rank k body)
    {held held' : List L} (hret : Returns body held held') : held' = held := by
  obtain ⟨e, hrun⟩ := hret
  obtain ⟨own, hheld, -, hown⟩ := (hbody.keeps held).run hrun
  rw [show held' = own ++ held from hheld, hown, List.nil_append]

-- What a thread waits for ranks above all it holds.
theorem Thread.Keeps.wants_above (ht : t.Keeps rank k base) (hbase : ∀ m ∈ base, rank m < k)
    {l : L} (hl : t.now = .lock l) : ∀ m ∈ t.held, rank m < rank l := by
  obtain ⟨own, hheld, hwp⟩ := ht
  rw [hl] at hwp
  intro m hm
  rw [hheld] at hm
  rcases List.mem_append.mp hm with hm | hm
  · exact hwp.2.1 m hm
  · exact (hbase m hm).trans_le hwp.1

theorem Thread.Keeps.done (ht : t.Keeps rank k base) (hdone : t.Done) : t.held = base := by
  obtain ⟨own, hheld, hwp⟩ := ht
  obtain ⟨e, he, hstack⟩ := hdone
  rw [he, hstack] at hwp
  rw [hheld, hwp.2, List.nil_append]

end Invariant

/-! ## Any number of threads -/

section System

variable {rank : L → R} {s s' : ι → Thread L}

/-- Every thread is in the middle of disciplined work. -/
def Orderly (rank : L → R) (s : ι → Thread L) : Prop := ∀ i, ∃ k, (s i).Keeps rank k []

theorem Moves.orderly (hmoves : Moves s s') (hs : Orderly rank s) : Orderly rank s' := by
  obtain ⟨i, hstep, hothers⟩ := hmoves
  intro j
  by_cases hj : j = i
  · subst hj
    obtain ⟨k, hk⟩ := hs j
    exact ⟨k, hstep.keeps hk⟩
  · rw [hothers j hj]
    exact hs j

theorem Orderly.run (hs : Orderly rank s) (hrun : Relation.ReflTransGen Moves s s') :
    Orderly rank s' := by
  induction hrun with
  | refl => exact hs
  | tail _ hmoves ih => exact hmoves.orderly ih

-- Along a chain of waiting threads the lock waited for ranks higher and higher.
theorem Orderly.rank_lt (hs : Orderly rank s) {i j : ι}
    (hchain : Relation.TransGen (WaitsFor s) i j) {l m : L} (hl : (s i).now = .lock l)
    (hm : (s j).now = .lock m) : rank l < rank m := by
  induction hchain generalizing m with
  | single hwait =>
      rename_i j
      obtain ⟨l', hl', hheld⟩ := hwait
      obtain ⟨k, hk⟩ := hs j
      obtain rfl : l = l' := Prog.lock.inj (hl.symm.trans hl')
      exact hk.wants_above (by simp) hm l hheld
  | tail hchain hwait ih =>
      rename_i i' j
      obtain ⟨l', hl', hheld⟩ := hwait
      obtain ⟨k, hk⟩ := hs j
      exact (ih hl').trans (hk.wants_above (by simp) hm l' hheld)

theorem Orderly.no_wait_cycle (hs : Orderly rank s) (i : ι) :
    ¬ Relation.TransGen (WaitsFor s) i i := by
  intro hcycle
  obtain ⟨j, ⟨l, hl, -⟩, -⟩ := Relation.TransGen.head'_iff.mp hcycle
  exact lt_irrefl _ (hs.rank_lt hcycle hl hl)

-- A thread that cannot move is done or waits for somebody.
theorem moves_or_waits (s : ι → Thread L) (i : ι) :
    (s i).Done ∨ (∃ t', Thread.Step (Free s) (s i) t') ∨ ∃ j, WaitsFor s i j := by
  rcases hi : s i with ⟨now, stack, held⟩
  cases now with
  | exit e =>
      cases stack with
      | nil => exact .inl ⟨e, rfl, rfl⟩
      | cons f fs => exact .inr (.inl ⟨_, .resume e f fs held⟩)
  | lock l =>
      by_cases hfree : Free s l
      · exact .inr (.inl ⟨_, .lock l stack held hfree⟩)
      · obtain ⟨j, hj⟩ := not_forall_not.mp hfree
        exact .inr (.inr ⟨j, l, by rw [hi], hj⟩)
  | unlock l => exact .inr (.inl ⟨_, .unlock l stack held⟩)
  | seq p q => exact .inr (.inl ⟨_, .seq p q stack held⟩)
  | branch p q => exact .inr (.inl ⟨_, .left p q stack held⟩)
  | loop p => exact .inr (.inl ⟨_, .leave p stack held⟩)
  | call p => exact .inr (.inl ⟨_, .call p stack held⟩)

-- Of finitely many threads that are not all done, one can move: else each of them would wait for
-- another, and the last of a longest chain for nobody.
theorem Orderly.progress [Finite ι] (hs : Orderly rank s) (hbusy : ∃ i, ¬ (s i).Done) :
    ∃ i t', Thread.Step (Free s) (s i) t' := by
  by_contra hstuck
  have hnext : ∀ i, ¬ (s i).Done → ∃ j, WaitsFor s i j ∧ ¬ (s j).Done := by
    intro i hi
    rcases moves_or_waits s i with hdone | hmoves | ⟨j, l, hl, hheld⟩
    · exact absurd hdone hi
    · exact absurd ⟨i, hmoves⟩ hstuck
    · refine ⟨j, ⟨l, hl, hheld⟩, fun hdone => ?_⟩
      obtain ⟨k, hk⟩ := hs j
      rw [hk.done hdone] at hheld
      exact List.not_mem_nil hheld
  let later : ι → ι → Prop := fun i j => Relation.TransGen (WaitsFor s) j i
  have htrans : IsTrans ι later := ⟨fun _ _ _ hab hbc => hbc.trans hab⟩
  have hirrefl : Std.Irrefl later := ⟨hs.no_wait_cycle⟩
  have hwf : WellFounded later := Finite.wellFounded_of_trans_of_irrefl later
  obtain ⟨i, hi, hlast⟩ := hwf.has_min {i | ¬ (s i).Done} hbusy
  obtain ⟨j, hwait, hj⟩ := hnext i hi
  exact hlast j hj (Relation.TransGen.single hwait)

end System

end LockOrder
