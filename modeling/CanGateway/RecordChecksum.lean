import CanGateway.Library.ParitySum
import CanGateway.Wire

/-!
# What the XOR checksum protects

`calculate_xor_checksum` over whole words is their parity sum.  The records of the protocol end in
the checksum of their first 44 bytes; a word replaced anywhere in such a record breaks the rule.
-/

open ByteMemory LittleEndian ParitySum

namespace CanGateway

/-- The word at a word offset. -/
def word (bs : List UInt8) (i : Nat) : UInt32 := load32 bs (i * 4)

/-- The parity sum of the first `n` words. -/
def xorSum (bs : List UInt8) (n : Nat) : UInt32 := sum (· ^^^ ·) 0 (word bs) n

theorem xor_self_eq (x : UInt32) : x ^^^ x = 0 := UInt32.xor_self

theorem word_cons (a b c d : UInt8) (rest : List UInt8) (i : Nat) :
    word (a :: b :: c :: d :: rest) (i + 1) = word rest i := by
  rw [word, word, Nat.add_mul]
  rfl

theorem exists_word {bs : List UInt8} (h : 4 ≤ bs.length) :
    ∃ a b c d rest, bs = a :: b :: c :: d :: rest := by
  obtain ⟨a, bs, rfl⟩ := List.exists_cons_of_length_pos (show 0 < bs.length by omega)
  rw [List.length_cons] at h
  obtain ⟨b, bs, rfl⟩ := List.exists_cons_of_length_pos (show 0 < bs.length by omega)
  rw [List.length_cons] at h
  obtain ⟨c, bs, rfl⟩ := List.exists_cons_of_length_pos (show 0 < bs.length by omega)
  rw [List.length_cons] at h
  obtain ⟨d, rest, rfl⟩ := List.exists_cons_of_length_pos (show 0 < bs.length by omega)
  exact ⟨a, b, c, d, rest, rfl⟩

theorem xorWords_eq (n : Nat) (bs : List UInt8) (res : UInt32) (h : bs.length = n * 4) :
    xorWords res bs = res ^^^ xorSum bs n := by
  induction n generalizing bs res with
  | zero =>
      rw [List.length_eq_zero_iff.mp (by omega : bs.length = 0)]
      exact UInt32.xor_zero.symm
  | succ n ih =>
      obtain ⟨a, b, c, d, rest, rfl⟩ := exists_word (show 4 ≤ bs.length by omega)
      have hrest : rest.length = n * 4 := by
        simp only [List.length_cons] at h
        omega
      have hwords : (fun i => word (a :: b :: c :: d :: rest) (i + 1)) = word rest :=
        funext fun i => word_cons a b c d rest i
      have hsum : xorSum (a :: b :: c :: d :: rest) (n + 1) =
          UInt32.ofNat (leNat [a, b, c, d]) ^^^ xorSum rest n := by
        rw [xorSum, sum_succ_front, hwords]
        rfl
      rw [xorWords, ih rest _ hrest, hsum, UInt32.xor_assoc]

theorem word_append (s t : List UInt8) (i : Nat) (h : i * 4 + 4 ≤ s.length) :
    word (s ++ t) i = word s i := load32_append s t (i * 4) h

theorem xorSum_append (s t : List UInt8) (n : Nat) (h : n * 4 ≤ s.length) :
    xorSum (s ++ t) n = xorSum s n :=
  sum_congr fun i hi => word_append s t i (by omega)

-- The checksum over `n` whole words.
theorem calculateXorChecksum_eq (bs : List UInt8) (n : Nat) (h : n * 4 ≤ bs.length) :
    calculateXorChecksum bs (n * 4) = xorSum bs n := by
  have hlen : (bs.take (n * 4)).length = n * 4 := by
    rw [List.length_take]
    omega
  have hsum := xorSum_append (bs.take (n * 4)) (bs.drop (n * 4)) n (by omega)
  rw [List.take_append_drop] at hsum
  rw [calculateXorChecksum, xorWords_eq n _ 0 hlen, UInt32.zero_xor, hsum]

-- The words of a record that is `m` words into the memory.
theorem word_drop (bs : List UInt8) (m i : Nat) : word (bs.drop (m * 4)) i = word bs (m + i) := by
  rw [word, word, load32, load32, slice, slice, List.drop_drop, Nat.add_mul]

theorem xorSum_add (bs : List UInt8) (m n : Nat) :
    xorSum bs (m + n) = xorSum bs m ^^^ xorSum (bs.drop (m * 4)) n := by
  rw [xorSum, sum_add]
  congr 1
  exact sum_congr fun i _ => (word_drop bs m i).symm

/-! ## Replacing a word -/

/-- The word at word offset `i` replaced. -/
def setWord (bs : List UInt8) (i : Nat) (w : UInt32) : List UInt8 := write bs (i * 4) (store32 w)

theorem length_setWord (bs : List UInt8) (i : Nat) (w : UInt32) (h : i * 4 + 4 ≤ bs.length) :
    (setWord bs i w).length = bs.length :=
  length_write bs (store32 w) (i * 4) (by rw [length_store32]; exact h)

theorem load32_store32_self (w : UInt32) : load32 (store32 w) 0 = w := by
  simpa using load32_store32 [] [] w 0 rfl

theorem word_setWord_self (bs : List UInt8) (i : Nat) (w : UInt32) (h : i * 4 + 4 ≤ bs.length) :
    word (setWord bs i w) i = w := by
  have hslice := slice_write_same bs (store32 w) (i * 4) (by omega)
  rw [length_store32] at hslice
  have hself := load32_store32_self w
  rw [load32, slice, List.drop_zero, List.take_of_length_le (by rw [length_store32])] at hself
  rw [word, load32, setWord, hslice, hself]

theorem store32_word (bs : List UInt8) (i : Nat) (h : i * 4 + 4 ≤ bs.length) :
    store32 (word bs i) = slice bs (i * 4) 4 := by
  have hlen : (slice bs (i * 4) 4).length = 4 := length_slice bs (i * 4) 4 h
  have hlt := leNat_lt (slice bs (i * 4) 4)
  have hself := leBytes_leNat (slice bs (i * 4) 4)
  rw [hlen] at hlt hself
  rw [store32, word, load32, UInt32.toNat_ofNat_of_lt' hlt, hself]

-- The bytes of the replaced word, and all others.
theorem load8_setWord_self (bs : List UInt8) (i : Nat) {j : Nat} (w : UInt32)
    (h : i * 4 + 4 ≤ bs.length) (hj : j < 4) :
    load8 (setWord bs i w) (i * 4 + j) = load8 (store32 w) j := by
  have hlen := length_store32 w
  rw [load8, load8, List.getD_eq_getElem?_getD, List.getD_eq_getElem?_getD, setWord,
    getElem?_write _ _ _ _ (by omega), if_pos (by omega), Nat.add_sub_cancel_left]

theorem load8_setWord_other (bs : List UInt8) (i : Nat) {off : Nat} (w : UInt32)
    (h : i * 4 + 4 ≤ bs.length) (hoff : off < i * 4 ∨ i * 4 + 4 ≤ off) :
    load8 (setWord bs i w) off = load8 bs off := by
  have hlen := length_store32 w
  rw [load8, load8, List.getD_eq_getElem?_getD, List.getD_eq_getElem?_getD, setWord,
    getElem?_write _ _ _ _ (by omega), if_neg (by omega)]

theorem load8_store32_word (bs : List UInt8) (i : Nat) {j : Nat} (h : i * 4 + 4 ≤ bs.length)
    (hj : j < 4) : load8 (store32 (word bs i)) j = load8 bs (i * 4 + j) := by
  rw [store32_word bs i h, load8, load8, List.getD_eq_getElem?_getD, List.getD_eq_getElem?_getD,
    slice, List.getElem?_take_of_lt hj, List.getElem?_drop]

-- A window that misses the word is untouched.
theorem slice_setWord (bs : List UInt8) (i off n : Nat) (w : UInt32) (h : i * 4 + 4 ≤ bs.length)
    (hoff : off + n ≤ i * 4 ∨ i * 4 + 4 ≤ off) :
    slice (setWord bs i w) off n = slice bs off n := by
  rcases hoff with hoff | hoff
  · exact slice_write_before bs (store32 w) (i * 4) off n hoff (by omega)
  · exact slice_write_after bs (store32 w) (i * 4) off n (by rw [length_store32]; exact hoff)
      (by omega)

theorem word_setWord_other (bs : List UInt8) {i j : Nat} (w : UInt32) (h : i * 4 + 4 ≤ bs.length)
    (hne : j ≠ i) : word (setWord bs i w) j = word bs j := by
  rw [word, load32, slice_setWord bs i (j * 4) 4 w h (by omega), word, load32]

-- The sum follows the replaced word.
theorem xorSum_setWord (bs : List UInt8) {i n : Nat} (w : UInt32) (h : n * 4 ≤ bs.length)
    (hi : i < n) : xorSum (setWord bs i w) n = xorSum bs n ^^^ (word bs i ^^^ w) := by
  have hother : ∀ j, j < n → j ≠ i → word (setWord bs i w) j = word bs j :=
    fun j _ hne => word_setWord_other bs w (by omega) hne
  rw [xorSum, sum_replace xor_self_eq hi hother, word_setWord_self bs i w (by omega), xorSum]

-- The words of one record of an array, and the record a replaced word belongs to.
theorem word_slot (bs : List UInt8) (k : Nat) {i : Nat} (hi : i < 12) :
    word (slot bs 48 k) i = word bs (12 * k + i) := by
  have hoff : k * 48 + i * 4 = (12 * k + i) * 4 := by omega
  rw [word, load32, slot, slice_slice bs _ _ _ _ (by omega), hoff, word, load32]

theorem slot_setWord_same (bs : List UInt8) {i : Nat} (w : UInt32)
    (h : i / 12 * 48 + 48 ≤ bs.length) :
    slot (setWord bs i w) 48 (i / 12) = setWord (slot bs 48 (i / 12)) (i % 12) w := by
  have hlen := length_store32 w
  rw [slot, setWord, slice_write_inside bs (store32 w) (i * 4) _ _ (by omega) (by omega) h, setWord,
    slot]
  congr 1
  omega

/-! ## The rule of a 48-byte record -/

/-- A record carries the checksum of its own first 44 bytes. -/
def ChecksumRule (record : List UInt8) : Prop :=
  load32 record 44 = calculateXorChecksum record 44

-- The rule in words: the twelve words of the record cancel out.
theorem checksumRule_iff (record : List UInt8) (h : 48 ≤ record.length) :
    ChecksumRule record ↔ xorSum record 12 = 0 := by
  have hsum : calculateXorChecksum record 44 = xorSum record 11 :=
    calculateXorChecksum_eq record 11 (by omega)
  have htwelve : xorSum record 12 = xorSum record 11 ^^^ word record 11 := rfl
  rw [ChecksumRule, hsum, htwelve, UInt32.xor_eq_zero_iff, eq_comm]
  rfl

-- No single word can be changed.
theorem checksumRule_setWord (record : List UInt8) (h : 48 ≤ record.length)
    (hrule : ChecksumRule record) {i : Nat} (hi : i < 12) {w : UInt32} (hw : w ≠ word record i) :
    ¬ ChecksumRule (setWord record i w) := by
  have hlen := length_setWord record i w (by omega)
  rw [checksumRule_iff _ h] at hrule
  rw [checksumRule_iff _ (by omega), xorSum_setWord record w (by omega) hi, hrule,
    UInt32.zero_xor, UInt32.xor_eq_zero_iff]
  exact fun heq => hw heq.symm

end CanGateway
