import CanGateway.Library.ByteMemory

/-!
# A receive buffer of fixed capacity

The buffer a socket handler fills from behind and empties from the front.  The bytes past `used`
are stale; `pending` is what the buffer stands for.
-/

open ByteMemory

variable {α : Type*}

/-- `cap` cells, the first `used` of them filled. -/
structure ReceiveBuffer (α : Type*) (cap : Nat) where
  bytes : List α
  used : Nat
  length_eq : bytes.length = cap
  used_le : used ≤ cap

namespace ReceiveBuffer

variable {cap : Nat}

/-- The unread input. -/
def pending (b : ReceiveBuffer α cap) : List α := b.bytes.take b.used

theorem length_pending (b : ReceiveBuffer α cap) : b.pending.length = b.used := by
  have h := b.used_le
  rw [pending, List.length_take, b.length_eq]
  omega

/-- Room left behind the unread input. -/
def space (b : ReceiveBuffer α cap) : Nat := cap - b.used

/-- An empty buffer over `cap` copies of `a`. -/
def empty (cap : Nat) (a : α) : ReceiveBuffer α cap where
  bytes := List.replicate cap a
  used := 0
  length_eq := List.length_replicate
  used_le := Nat.zero_le _

@[simp] theorem pending_empty (a : α) : (empty cap a).pending = [] := rfl

@[simp] theorem used_empty (a : α) : (empty cap a).used = 0 := rfl

/-- `recv` into the free part: at most `space` elements of `chunk` are stored. -/
def receive (b : ReceiveBuffer α cap) (chunk : List α) : ReceiveBuffer α cap where
  bytes := write b.bytes b.used (chunk.take b.space)
  used := b.used + (chunk.take b.space).length
  length_eq := by
    have h := b.used_le
    rw [length_write _ _ _ (by rw [b.length_eq, List.length_take, space]; omega), b.length_eq]
  used_le := by
    have h := b.used_le
    rw [List.length_take, space]
    omega

theorem pending_receive (b : ReceiveBuffer α cap) (chunk : List α) (h : chunk.length ≤ b.space) :
    (b.receive chunk).pending = b.pending ++ chunk := by
  have hle : b.used ≤ b.bytes.length := by rw [b.length_eq]; exact b.used_le
  have ht := take_write b.bytes (chunk.take b.space) b.used hle
  rw [List.take_of_length_le h] at ht
  simp only [pending, receive, List.take_of_length_le h]
  exact ht

theorem length_moved_le (b : ReceiveBuffer α cap) (n : Nat) :
    0 + (slice b.bytes n (b.used - n)).length ≤ b.bytes.length := by
  have h := b.used_le
  rw [slice, List.length_take, List.length_drop, b.length_eq]
  omega

/-- Drop the first `n` unread elements and move the rest to the front (`memmove`). -/
def consume (b : ReceiveBuffer α cap) (n : Nat) : ReceiveBuffer α cap where
  bytes := write b.bytes 0 (slice b.bytes n (b.used - n))
  used := b.used - n
  length_eq := (length_write _ _ _ (b.length_moved_le n)).trans b.length_eq
  used_le := (Nat.sub_le _ _).trans b.used_le

@[simp] theorem used_consume (b : ReceiveBuffer α cap) (n : Nat) :
    (b.consume n).used = b.used - n := rfl

theorem pending_consume (b : ReceiveBuffer α cap) (n : Nat) (h : n ≤ b.used) :
    (b.consume n).pending = b.pending.drop n := by
  have hu := b.used_le
  have hlen : (slice b.bytes n (b.used - n)).length = b.used - n := by
    rw [length_slice]
    rw [b.length_eq]
    omega
  have ht := take_write b.bytes (slice b.bytes n (b.used - n)) 0 (Nat.zero_le _)
  rw [hlen, Nat.zero_add, List.take_zero, List.nil_append] at ht
  change (write b.bytes 0 (slice b.bytes n (b.used - n))).take (b.used - n) = _
  rw [ht, slice, pending, List.drop_take]

/-- Forget the unread input. -/
def clear (b : ReceiveBuffer α cap) : ReceiveBuffer α cap :=
  { b with used := 0, used_le := Nat.zero_le _ }

theorem pending_clear (b : ReceiveBuffer α cap) : b.clear.pending = [] := rfl

end ReceiveBuffer
