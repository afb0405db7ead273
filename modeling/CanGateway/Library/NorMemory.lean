import CanGateway.Library.ByteMemory

/-!
# NOR memory

Erasing sets every bit of a range, and programming clears the bits that are clear in the data.  So
programming the same data once more, or blank data, changes nothing.
-/

open ByteMemory

namespace NorMemory

/-- The value of an erased byte. -/
def blank : UInt8 := 0xff

/-- The bytes of the range are blank. -/
def erase (start len : Nat) (mem : Nat → UInt8) (off : Nat) : UInt8 :=
  if start ≤ off ∧ off < start + len then blank else mem off

/-- The data is programmed at `pos` and behind it. -/
def program (pos : Nat) (data : List UInt8) (mem : Nat → UInt8) (off : Nat) : UInt8 :=
  if pos ≤ off then mem off &&& data.getD (off - pos) blank else mem off

/-- The bytes from `pos` on. -/
def bytesAt (mem : Nat → UInt8) (pos len : Nat) : List UInt8 :=
  (List.range len).map fun i => mem (pos + i)

/-! ## Bytes -/

@[simp] theorem length_bytesAt (mem : Nat → UInt8) (pos len : Nat) :
    (bytesAt mem pos len).length = len := by
  rw [bytesAt, List.length_map, List.length_range]

theorem getElem?_bytesAt (mem : Nat → UInt8) (pos : Nat) {len i : Nat} (h : i < len) :
    (bytesAt mem pos len)[i]? = some (mem (pos + i)) := by
  rw [bytesAt, List.getElem?_map, List.getElem?_range h]
  rfl

theorem bytesAt_add (mem : Nat → UInt8) (pos m n : Nat) :
    bytesAt mem pos (m + n) = bytesAt mem pos m ++ bytesAt mem (pos + m) n := by
  rw [bytesAt, List.range_add, List.map_append, List.map_map]
  congr 1
  apply List.map_congr_left
  intro i _
  rw [Function.comp_apply, Nat.add_assoc]

theorem and_blank (b : UInt8) : b &&& blank = b := by
  apply UInt8.toNat_inj.mp
  show b.toNat &&& (2 ^ 8 - 1) = b.toNat
  rw [Nat.and_two_pow_sub_one_eq_mod, Nat.mod_eq_of_lt b.toNat_lt]

theorem blank_and (b : UInt8) : blank &&& b = b := by
  rw [UInt8.and_comm, and_blank]

section Data

variable (data : List UInt8) (i n : Nat)

-- What is left out of the data counts as blank.
theorem getD_take : (data.take n).getD i blank = if i < n then data.getD i blank else blank := by
  rw [List.getD_eq_getElem?_getD, List.getElem?_take]
  split
  · rw [List.getD_eq_getElem?_getD]
  · rfl

theorem getD_slice (offset : Nat) :
    (slice data offset n).getD i blank =
      if i < n then data.getD (offset + i) blank else blank := by
  rw [slice, getD_take]
  split
  · rw [List.getD_eq_getElem?_getD, List.getElem?_drop, List.getD_eq_getElem?_getD]
  · rfl

theorem getD_of_le (h : data.length ≤ i) : data.getD i blank = blank := by
  rw [List.getD_eq_getElem?_getD, List.getElem?_eq_none h]
  rfl

end Data

/-! ## Erasing -/

variable {mem : Nat → UInt8}

theorem erase_zero (start : Nat) (mem : Nat → UInt8) : erase start 0 mem = mem := by
  funext off
  exact if_neg (by omega)

theorem erase_outside {start len off : Nat} (h : off < start ∨ start + len ≤ off) :
    erase start len mem off = mem off := if_neg (by omega)

-- Two ranges, one behind the other.
theorem erase_erase (start a b : Nat) (mem : Nat → UInt8) :
    erase (start + a) b (erase start a mem) = erase start (a + b) mem := by
  funext off
  unfold erase
  split
  · rw [if_pos (by omega)]
  split
  · rw [if_pos (by omega)]
  · rw [if_neg (by omega)]

/-! ## Programming -/

section Program

variable {pos off K : Nat} {data : List UInt8}

theorem program_nil (pos : Nat) (mem : Nat → UInt8) : program pos [] mem = mem := by
  funext off
  unfold program
  split
  · exact and_blank _
  · rfl

theorem program_of_le (h : pos ≤ off) :
    program pos data mem off = mem off &&& data.getD (off - pos) blank := if_pos h

theorem program_congr {data' : List UInt8} (h : ∀ i, data.getD i blank = data'.getD i blank)
    (pos : Nat) (mem : Nat → UInt8) : program pos data mem = program pos data' mem := by
  funext off
  unfold program
  rw [h]

-- Blank data changes nothing, wherever it lies.
theorem program_blank (h : off < pos ∨ data.getD (off - pos) blank = blank) :
    program pos data mem off = mem off := by
  unfold program
  split
  next hle =>
    rw [h.resolve_left (by omega), and_blank]
  · rfl

theorem program_outside (h : off < pos ∨ pos + data.length ≤ off) :
    program pos data mem off = mem off := by
  apply program_blank
  exact h.imp_right fun hge => getD_of_le _ _ (by omega)

-- Programmed over erased bytes, the data is there.
theorem program_erased {byte : UInt8} {i : Nat} (hmem : mem (pos + i) = blank)
    (hbyte : data[i]? = some byte) : program pos data mem (pos + i) = byte := by
  rw [program_of_le (Nat.le_add_right _ _), hmem, blank_and, Nat.add_sub_cancel_left,
    List.getD_eq_getElem?_getD, hbyte]
  rfl

-- Going on from anywhere in what is programmed: part of the data once more, and what is behind it.
theorem program_again {offset n k : Nat} (hoffset : offset ≤ K) :
    program (pos + offset) ((slice data offset n).take k) (program pos (data.take K) mem) =
      program pos (data.take (max K (offset + min k n))) mem := by
  funext off
  unfold program
  by_cases hpos : pos ≤ off
  case neg => rw [if_neg (by omega), if_neg hpos, if_neg hpos]
  rw [if_pos hpos, if_pos hpos, getD_take data (off - pos) K,
    getD_take data (off - pos) (max K _)]
  by_cases hstart : pos + offset ≤ off
  case neg =>
    rw [if_neg hstart, if_pos (by omega), if_pos (by omega)]
  rw [if_pos hstart, getD_take, getD_slice,
    show offset + (off - (pos + offset)) = off - pos by omega]
  by_cases hk : off - (pos + offset) < k ∧ off - (pos + offset) < n
  · rw [if_pos hk.1, if_pos hk.2, if_pos (show off - pos < max K (offset + min k n) by omega)]
    by_cases hK : off - pos < K
    · rw [if_pos hK, UInt8.and_assoc, UInt8.and_self]
    · rw [if_neg hK, and_blank]
  · have hskipped : (if off - (pos + offset) < k then
        if off - (pos + offset) < n then data.getD (off - pos) blank else blank
        else blank) = blank := by
      split
      · exact if_neg (by omega)
      · rfl
    rw [hskipped, and_blank]
    by_cases hK : off - pos < K
    · rw [if_pos hK, if_pos (by omega)]
    · rw [if_neg hK, if_neg (by omega)]

end Program

end NorMemory
