import CanGateway.Library.ByteMemory

/-!
# Little-endian numbers in byte lists

What a load or a store of a machine word does on a little-endian target.
-/

namespace LittleEndian

/-- The number a byte string stands for, least significant byte first. -/
def leNat : List UInt8 → Nat
  | [] => 0
  | b :: bs => b.toNat + 256 * leNat bs

/-- The `n` low bytes of a number, least significant byte first. -/
def leBytes : Nat → Nat → List UInt8
  | 0, _ => []
  | n + 1, v => UInt8.ofNat v :: leBytes n (v / 256)

@[simp] theorem length_leBytes (n v : Nat) : (leBytes n v).length = n := by
  induction n generalizing v with
  | zero => rfl
  | succ n ih => rw [leBytes, List.length_cons, ih]

-- Storing `n` bytes and loading them again keeps the low `n` bytes.
theorem leNat_leBytes (n v : Nat) : leNat (leBytes n v) = v % 256 ^ n := by
  induction n generalizing v with
  | zero => simp [leBytes, leNat, Nat.mod_one]
  | succ n ih =>
      have hb : (UInt8.ofNat v).toNat = v % 256 := UInt8.toNat_ofNat'
      rw [leBytes, leNat, ih, hb, Nat.pow_succ', Nat.mod_mul]

-- Bytes loaded and stored again are the same bytes.
theorem leBytes_leNat (bs : List UInt8) : leBytes bs.length (leNat bs) = bs := by
  induction bs with
  | nil => rfl
  | cons b bs ih =>
      have hlt := b.toNat_lt
      have hlow : (b.toNat + 256 * leNat bs) % 256 = b.toNat := by omega
      have hhigh : (b.toNat + 256 * leNat bs) / 256 = leNat bs := by omega
      rw [leNat, List.length_cons, leBytes, hhigh, ih, List.cons.injEq]
      refine ⟨UInt8.toNat_inj.mp ?_, rfl⟩
      rw [UInt8.toNat_ofNat']
      exact hlow

theorem leNat_lt (bs : List UInt8) : leNat bs < 256 ^ bs.length := by
  induction bs with
  | nil => exact Nat.one_pos
  | cons b bs ih =>
      have hlt := b.toNat_lt
      rw [leNat, List.length_cons, Nat.pow_succ]
      omega

end LittleEndian
