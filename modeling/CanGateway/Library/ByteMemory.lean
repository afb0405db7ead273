import Mathlib.Algebra.Order.Ring.Nat
import Mathlib.Data.List.Basic
import Mathlib.Tactic.Common

/-!
# Contiguous memory as a list

`slice` reads and `write` overwrites a window of a memory area; both are what `memcpy` does when the
window lies inside the area.  Windows of equal size at multiples of that size are the slots of an
array (`slot`).
-/

namespace ByteMemory

variable {α : Type*}

/-- The `n` elements from offset `off` on. -/
def slice (mem : List α) (off n : Nat) : List α := (mem.drop off).take n

/-- Overwrite the window that starts at `off` by `src`. -/
def write (mem : List α) (off : Nat) (src : List α) : List α :=
  mem.take off ++ (src ++ mem.drop (off + src.length))

theorem length_write (mem src : List α) (off : Nat) (h : off + src.length ≤ mem.length) :
    (write mem off src).length = mem.length := by
  simp only [write, List.length_append, List.length_take, List.length_drop]
  omega

@[simp] theorem write_nil (mem : List α) (off : Nat) : write mem off [] = mem := by
  simp [write]

theorem length_slice (mem : List α) (off n : Nat) (h : off + n ≤ mem.length) :
    (slice mem off n).length = n := by
  simp only [slice, List.length_take, List.length_drop]
  omega

@[simp] theorem slice_zero (mem : List α) (off : Nat) : slice mem off 0 = [] := by
  rw [slice, List.take_zero]

-- A window inside the first part of two areas does not see the second.
theorem slice_append_left (a b : List α) (off n : Nat) (h : off + n ≤ a.length) :
    slice (a ++ b) off n = slice a off n := by
  rw [slice, List.drop_append_of_le_length (by omega),
    List.take_append_of_le_length (by rw [List.length_drop]; omega), slice]

theorem slice_slice (mem : List α) (off n i m : Nat) (h : i + m ≤ n) :
    slice (slice mem off n) i m = slice mem (off + i) m := by
  rw [slice, slice, List.drop_take, List.take_take, Nat.min_eq_left (by omega), List.drop_drop,
    slice]

-- Reading back the window just written.
theorem slice_write_same (mem src : List α) (off : Nat) (h : off ≤ mem.length) :
    slice (write mem off src) off src.length = src := by
  have hlen : (mem.take off).length = off := by rw [List.length_take]; omega
  rw [slice, write, List.drop_append_of_le_length (by omega), List.drop_of_length_le (by omega),
    List.nil_append, List.take_left]

-- A window before the one written is untouched.
theorem slice_write_before (mem src : List α) (off i n : Nat) (h : i + n ≤ off)
    (hoff : off ≤ mem.length) : slice (write mem off src) i n = slice mem i n := by
  have hlen : (mem.take off).length = off := by rw [List.length_take]; omega
  rw [slice, write, List.drop_append_of_le_length (by omega),
    List.take_append_of_le_length (by rw [List.length_drop]; omega), List.drop_take,
    List.take_take, Nat.min_eq_left (by omega), slice]

-- A window behind the one written is untouched.
theorem slice_write_after (mem src : List α) (off i n : Nat) (h : off + src.length ≤ i)
    (hoff : off ≤ mem.length) : slice (write mem off src) i n = slice mem i n := by
  have hlen : (mem.take off).length = off := by rw [List.length_take]; omega
  rw [slice, write, ← List.append_assoc, List.drop_append, List.drop_of_length_le (by
    rw [List.length_append]; omega), List.nil_append, List.drop_drop, slice, List.length_append,
    hlen, show off + src.length + (i - (off + src.length)) = i by omega]

theorem getElem?_write (mem src : List α) (off j : Nat) (h : off + src.length ≤ mem.length) :
    (write mem off src)[j]? =
      if off ≤ j ∧ j < off + src.length then src[j - off]? else mem[j]? := by
  have hlen : (mem.take off).length = off := by rw [List.length_take]; omega
  rw [write]
  rcases Nat.lt_or_ge j off with hlt | hge
  · rw [if_neg (by omega), List.getElem?_append_left (by omega), List.getElem?_take_of_lt hlt]
  rw [List.getElem?_append_right (by omega), hlen]
  rcases Nat.lt_or_ge j (off + src.length) with hlt | hbehind
  · rw [if_pos ⟨hge, hlt⟩, List.getElem?_append_left (by omega)]
  · rw [if_neg (by omega), List.getElem?_append_right (by omega), List.getElem?_drop]
    congr 1
    omega

-- At the start of an area, whatever its length.
theorem getElem?_write_zero (mem src : List α) (j : Nat) :
    (write mem 0 src)[j]? = if j < src.length then src[j]? else mem[j]? := by
  rw [write, List.take_zero, List.nil_append, Nat.zero_add]
  split
  next hj => exact List.getElem?_append_left hj
  next hj =>
    rw [List.getElem?_append_right (Nat.le_of_not_lt hj), List.getElem?_drop]
    congr 1
    omega

-- A comparison of areas, element by element.
theorem take_eq_slice_iff (xs mem : List α) (off n : Nat) :
    xs.take n = slice mem off n ↔ ∀ j < n, xs[j]? = mem[off + j]? := by
  have hwindow : ∀ j < n, (slice mem off n)[j]? = mem[off + j]? := by
    intro j hj
    rw [slice, List.getElem?_take_of_lt hj, List.getElem?_drop]
  constructor
  · intro h j hj
    rw [← hwindow j hj, ← h, List.getElem?_take_of_lt hj]
  · intro h
    apply List.ext_getElem?
    intro j
    rcases Nat.lt_or_ge j n with hj | hj
    · rw [List.getElem?_take_of_lt hj, hwindow j hj, h j hj]
    · rw [slice, List.getElem?_take_eq_none hj, List.getElem?_take_eq_none hj]

-- A window around the one written.
theorem slice_write_inside (mem src : List α) (off i n : Nat) (h : i ≤ off)
    (hend : off + src.length ≤ i + n) (hmem : i + n ≤ mem.length) :
    slice (write mem off src) i n = write (slice mem i n) (off - i) src := by
  have hlen := length_slice mem i n hmem
  apply List.ext_getElem?
  intro j
  rw [getElem?_write _ _ _ _ (by omega), slice, List.getElem?_take]
  rcases Nat.lt_or_ge j n with hj | hj
  · rw [if_pos hj, List.getElem?_drop, getElem?_write _ _ _ _ (by omega), slice,
      List.getElem?_take_of_lt hj, List.getElem?_drop]
    by_cases hin : off ≤ i + j ∧ i + j < off + src.length
    · rw [if_pos hin, if_pos (by omega)]
      congr 1
      omega
    · rw [if_neg hin, if_neg (by omega)]
  · rw [if_neg (by omega), if_neg (by omega), List.getElem?_eq_none (by omega)]

theorem take_write (mem src : List α) (off : Nat) (h : off ≤ mem.length) :
    (write mem off src).take (off + src.length) = mem.take off ++ src := by
  have hlen : (mem.take off ++ src).length = off + src.length := by
    rw [List.length_append, List.length_take]; omega
  rw [write, ← List.append_assoc, ← hlen, List.take_left]

-- A window is read in two pieces.
theorem slice_add (mem : List α) (off m n : Nat) :
    slice mem off (m + n) = slice mem off m ++ slice mem (off + m) n := by
  rw [slice, List.take_add, List.drop_drop, slice, slice]

-- A window grows by what is written right behind it.
theorem slice_write_behind (mem src : List α) (off m : Nat) (h : off + m ≤ mem.length) :
    slice (write mem (off + m) src) off (m + src.length) = slice mem off m ++ src := by
  have hlen : (mem.take (off + m)).length = off + m := by rw [List.length_take]; omega
  rw [slice, List.take_drop, ← Nat.add_assoc, take_write mem src (off + m) h,
    List.drop_append_of_le_length (by omega), ← List.take_drop, slice]

-- Two writes, the second right behind the first, are one.
theorem write_write_behind (mem xs ys : List α) (off : Nat) (h : off ≤ mem.length) :
    write (write mem off xs) (off + xs.length) ys = write mem off (xs ++ ys) := by
  have hlen : (mem.take off ++ xs).length = off + xs.length := by
    rw [List.length_append, List.length_take]; omega
  have hdrop : (write mem off xs).drop (off + xs.length + ys.length) =
      mem.drop (off + xs.length + ys.length) := by
    rw [← List.drop_drop, write, ← List.append_assoc, ← hlen, List.drop_left, hlen, List.drop_drop]
  rw [write, take_write mem xs off h, hdrop, write, List.length_append, List.append_assoc,
    List.append_assoc, Nat.add_assoc]

-- Writing back what a window holds changes nothing.
theorem write_slice (mem : List α) (off n : Nat) (h : off + n ≤ mem.length) :
    write mem off (slice mem off n) = mem := by
  rw [write, length_slice mem off n h, slice, ← List.drop_drop, List.take_append_drop,
    List.take_append_drop]

/-- The `k`-th slot of an array of elements of size `e`. -/
def slot (mem : List α) (e k : Nat) : List α := slice mem (k * e) e

theorem length_slot (mem : List α) (e k cap : Nat) (hk : k < cap) (hmem : mem.length = cap * e) :
    (slot mem e k).length = e := by
  apply length_slice
  rw [hmem, ← Nat.succ_mul]
  exact Nat.mul_le_mul_right e hk

theorem slot_write_same (mem src : List α) (e k cap : Nat) (hk : k < cap)
    (hmem : mem.length = cap * e) (hsrc : src.length = e) :
    slot (write mem (k * e) src) e k = src := by
  have hle : k * e ≤ mem.length := by
    rw [hmem]
    exact Nat.mul_le_mul_right e (by omega)
  have h := slice_write_same mem src (k * e) hle
  rwa [hsrc] at h

-- A write of part of a slot leaves the other slots alone.
theorem slot_write_part (mem src : List α) (e i j k cap : Nat) (hk : k < cap)
    (hmem : mem.length = cap * e) (hsrc : i + src.length ≤ e) (hne : j ≠ k) :
    slot (write mem (k * e + i) src) e j = slot mem e j := by
  have hend : (k + 1) * e ≤ cap * e := Nat.mul_le_mul_right e hk
  rw [Nat.succ_mul] at hend
  rcases Nat.lt_or_gt_of_ne hne with hlt | hgt
  · have hbefore : (j + 1) * e ≤ k * e := Nat.mul_le_mul_right e hlt
    rw [Nat.succ_mul] at hbefore
    exact slice_write_before _ _ _ _ _ (by omega) (by omega)
  · have hbehind : (k + 1) * e ≤ j * e := Nat.mul_le_mul_right e hgt
    rw [Nat.succ_mul] at hbehind
    exact slice_write_after _ _ _ _ _ (by omega) (by omega)

theorem slot_write_other (mem src : List α) (e j k cap : Nat) (hk : k < cap)
    (hmem : mem.length = cap * e) (hsrc : src.length = e) (hne : j ≠ k) :
    slot (write mem (k * e) src) e j = slot mem e j :=
  slot_write_part mem src e 0 j k cap hk hmem (by omega) hne

theorem length_flatMap_of_length {β : Type*} (enc : β → List α) (e : Nat)
    (henc : ∀ x, (enc x).length = e) (xs : List β) :
    (xs.flatMap enc).length = xs.length * e := by
  induction xs with
  | nil => rw [List.flatMap_nil, List.length_nil, List.length_nil, Nat.zero_mul]
  | cons x xs ih =>
      rw [List.flatMap_cons, List.length_append, henc, ih, List.length_cons, Nat.succ_mul,
        Nat.add_comm]

-- The slots of an array are the elements it was put together from.
theorem map_slot_flatMap {β : Type*} (enc : β → List α) (e : Nat) (henc : ∀ x, (enc x).length = e)
    (xs : List β) : (List.range xs.length).map (slot (xs.flatMap enc) e) = xs.map enc := by
  induction xs with
  | nil => rfl
  | cons x xs ih =>
      have hhead : slot (enc x ++ xs.flatMap enc) e 0 = enc x := by
        rw [slot, Nat.zero_mul, slice, List.drop_zero, ← henc x, List.take_left]
      have htail : ∀ i, slot (enc x ++ xs.flatMap enc) e (i + 1) = slot (xs.flatMap enc) e i := by
        intro i
        rw [slot, slot, slice, slice, Nat.succ_mul, Nat.add_comm (i * e) e, ← List.drop_drop,
          ← henc x, List.drop_left]
      rw [List.flatMap_cons, List.length_cons, List.range_succ_eq_map, List.map_cons, hhead,
        List.map_map, List.map_cons, ← ih]
      congr 1
      apply List.map_congr_left
      intro i _
      exact htail i

end ByteMemory
