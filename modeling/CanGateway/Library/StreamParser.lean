import CanGateway.Library.Loop
import Mathlib.Data.List.Basic

/-!
# Incremental parsing of an unbounded stream

A framing looks at the front of the unread stream and answers `wait`, `skip n` (resynchronise) or
`packet n p`.  Its verdict may depend on a bounded look-ahead only: a verdict other than `wait` is
not changed by more input.  From that alone, parsing a stream in pieces and keeping the unread tail
is the same as parsing it in one go (`parse_append`).
-/

namespace StreamParser

variable {α π : Type*}

/-- The verdict on the front of the unread stream. -/
inductive Verdict (π : Type*) where
  | wait
  | skip (n : Nat)
  | packet (n : Nat) (p : π)
  deriving Repr

instance (v : Verdict π) : Decidable (v = .wait) :=
  match v with
  | .wait => isTrue rfl
  | .skip _ => isFalse nofun
  | .packet _ _ => isFalse nofun

/-- How many elements a verdict consumes. -/
def Verdict.size : Verdict π → Nat
  | .wait => 0
  | .skip n => n
  | .packet n _ => n

/-- The packet a verdict delivers, if any. -/
def Verdict.packets : Verdict π → List π
  | .wait => []
  | .skip _ => []
  | .packet _ p => [p]

/-- A framing with the two facts every parse relies on: progress inside the stream, and stability
    of a verdict under extension. -/
structure Framing (α π : Type*) where
  step : List α → Verdict π
  size_pos : ∀ s, step s ≠ .wait → 0 < (step s).size
  size_le : ∀ s, (step s).size ≤ s.length
  stable : ∀ s t, step s ≠ .wait → step (s ++ t) = step s

variable (F : Framing α π)

/-- Parse as far as the stream allows: the packets found and the unread tail. -/
def parse (s : List α) : List π × List α :=
  if _h : F.step s = .wait then ([], s)
  else
    let r := parse (s.drop (F.step s).size)
    ((F.step s).packets ++ r.1, r.2)
termination_by s.length
decreasing_by
  have hp := F.size_pos s ‹_›
  have hl := F.size_le s
  rw [List.length_drop]
  omega

theorem parse_wait {s : List α} (h : F.step s = .wait) : parse F s = ([], s) := by
  rw [parse, dif_pos h]

theorem parse_step {s : List α} (h : F.step s ≠ .wait) :
    parse F s = ((F.step s).packets ++ (parse F (s.drop (F.step s).size)).1,
      (parse F (s.drop (F.step s).size)).2) := by
  rw [parse, dif_neg h]

-- Induction along a parse.
theorem parse_induction {P : List α → Prop} (hwait : ∀ s, F.step s = .wait → P s)
    (hstep : ∀ s, F.step s ≠ .wait → P (s.drop (F.step s).size) → P s) (s : List α) : P s := by
  by_cases h : F.step s = .wait
  · exact hwait s h
  · exact hstep s h (parse_induction hwait hstep (s.drop (F.step s).size))
termination_by s.length
decreasing_by
  have hp := F.size_pos s h
  have hl := F.size_le s
  rw [List.length_drop]
  omega

-- The unread tail needs more input.
theorem step_parse_tail (s : List α) : F.step (parse F s).2 = .wait := by
  induction s using parse_induction F with
  | hwait s h => rw [parse_wait F h]; exact h
  | hstep s h ih => rw [parse_step F h]; exact ih

-- Parsing a prefix first and carrying its tail over loses nothing.
theorem parse_append (s t : List α) :
    parse F (s ++ t) =
      ((parse F s).1 ++ (parse F ((parse F s).2 ++ t)).1, (parse F ((parse F s).2 ++ t)).2) := by
  induction s using parse_induction F with
  | hwait s h => rw [parse_wait F h, List.nil_append]
  | hstep s h ih =>
      have hst := F.stable s t h
      have hne : F.step (s ++ t) ≠ .wait := by rw [hst]; exact h
      rw [parse_step F hne, hst, List.drop_append_of_le_length (F.size_le s), ih, parse_step F h,
        List.append_assoc]

/-- A dispatcher that also writes down the packets it is given. -/
def logged {σ : Type*} (dispatch : σ → π → σ) : List π × σ → π → List π × σ :=
  fun w p => (w.1 ++ [p], dispatch w.2 p)

theorem foldl_logged {σ : Type*} (dispatch : σ → π → σ) (ps log : List π) (w : σ) :
    ps.foldl (logged dispatch) (log, w) = (log ++ ps, ps.foldl dispatch w) := by
  induction ps generalizing log w with
  | nil => rw [List.foldl_nil, List.append_nil, List.foldl_nil]
  | cons p ps ih =>
      rw [List.foldl_cons, logged, ih, List.append_assoc, List.singleton_append, List.foldl_cons]

-- A loop whose body carries out the framing's verdict on the unread input `unread t`, handing
-- every packet to `dispatch`, stops, and it has then dispatched exactly the parse of that input.
-- `Inv` is whatever the loop needs to stay in step with its buffer.
theorem exits_parse {τ σ : Type*} (body : τ → Option τ) (unread : τ → List α) (world : τ → σ)
    (dispatch : σ → π → σ) (Inv : τ → Prop)
    (hwait : ∀ t, Inv t → F.step (unread t) = .wait → body t = none)
    (hgo : ∀ t, Inv t → F.step (unread t) ≠ .wait → ∃ t', body t = some t' ∧ Inv t' ∧
      unread t' = (unread t).drop (F.step (unread t)).size ∧
      world t' = (F.step (unread t)).packets.foldl dispatch (world t))
    (t : τ) (ht : Inv t) : ∃ t', Loop.Exits body t t' ∧ Inv t' ∧
      unread t' = (parse F (unread t)).2 ∧
      world t' = (parse F (unread t)).1.foldl dispatch (world t) := by
  generalize hs : unread t = s
  induction s using parse_induction F generalizing t with
  | hwait s h =>
      rw [parse_wait F h]
      exact ⟨t, .done (hwait t ht (hs ▸ h)), ht, hs, rfl⟩
  | hstep s h ih =>
      obtain ⟨t', hb, hi, hu, hw⟩ := hgo t ht (hs ▸ h)
      obtain ⟨t'', he, hi', hu', hw'⟩ := ih t' hi (by rw [hu, hs])
      refine ⟨t'', .again hb he, hi', ?_, ?_⟩
      · rw [hu', parse_step F h]
      · rw [hw', hw, hs, parse_step F h, List.foldl_append]

/-! ## Formats with a header of fixed size -/

/-- Packets that start with a header of `headerLen` elements, whose rules and length field are read
    from the header alone.  A header that breaks the rules is skipped one element at a time. -/
structure HeaderFormat (α π : Type*) where
  headerLen : Nat
  Valid : List α → Prop
  decValid : DecidablePred Valid
  packetLen : List α → Nat
  packet : List α → π
  headerLen_pos : 0 < headerLen
  headerLen_le : ∀ s, headerLen ≤ packetLen s
  valid_append : ∀ s t, headerLen ≤ s.length → (Valid (s ++ t) ↔ Valid s)
  packetLen_append : ∀ s t, headerLen ≤ s.length → packetLen (s ++ t) = packetLen s
  packet_append : ∀ s t, packetLen s ≤ s.length → packet (s ++ t) = packet s

namespace HeaderFormat

variable (H : HeaderFormat α π)

instance : DecidablePred H.Valid := H.decValid

/-- Wait for a whole header, resynchronise on a bad one, wait for the whole packet. -/
def step (s : List α) : Verdict π :=
  if s.length < H.headerLen then .wait
  else if H.Valid s then
    if s.length < H.packetLen s then .wait else .packet (H.packetLen s) (H.packet s)
  else .skip 1

theorem step_short {s : List α} (h : s.length < H.headerLen) : H.step s = .wait := if_pos h

theorem step_skip {s : List α} (h : H.headerLen ≤ s.length) (hv : ¬ H.Valid s) :
    H.step s = .skip 1 := by
  rw [step, if_neg (by omega), if_neg hv]

theorem step_incomplete {s : List α} (h : s.length < H.packetLen s) (hv : H.Valid s) :
    H.step s = .wait := by
  rw [step, if_pos hv, if_pos h, ite_self]

theorem step_packet {s : List α} (h : H.packetLen s ≤ s.length) (hv : H.Valid s) :
    H.step s = .packet (H.packetLen s) (H.packet s) := by
  have hl := H.headerLen_le s
  rw [step, if_neg (by omega), if_pos hv, if_neg (by omega)]

-- The four ways the front of the stream can look.
theorem step_cases (s : List α) :
    (s.length < H.headerLen ∧ H.step s = .wait) ∨
    (H.headerLen ≤ s.length ∧ ¬ H.Valid s ∧ H.step s = .skip 1) ∨
    (H.headerLen ≤ s.length ∧ s.length < H.packetLen s ∧ H.Valid s ∧ H.step s = .wait) ∨
    (H.packetLen s ≤ s.length ∧ H.Valid s ∧
      H.step s = .packet (H.packetLen s) (H.packet s)) := by
  by_cases hl : s.length < H.headerLen
  · exact .inl ⟨hl, H.step_short hl⟩
  · by_cases hv : H.Valid s
    · by_cases hp : s.length < H.packetLen s
      · exact .inr (.inr (.inl ⟨by omega, hp, hv, H.step_incomplete hp hv⟩))
      · exact .inr (.inr (.inr ⟨by omega, hv, H.step_packet (by omega) hv⟩))
    · exact .inr (.inl ⟨by omega, hv, H.step_skip (by omega) hv⟩)

/-- A header format is a framing. -/
def framing : Framing α π where
  step := H.step
  size_pos s h := by
    have hpos := H.headerLen_pos
    have hle := H.headerLen_le s
    obtain ⟨_, hs⟩ | ⟨_, _, hs⟩ | ⟨_, _, _, hs⟩ | ⟨_, _, hs⟩ := H.step_cases s
    · exact absurd hs h
    · rw [hs]; exact Nat.one_pos
    · exact absurd hs h
    · rw [hs]; exact Nat.lt_of_lt_of_le hpos hle
  size_le s := by
    have hpos := H.headerLen_pos
    obtain ⟨_, hs⟩ | ⟨hl, _, hs⟩ | ⟨_, _, _, hs⟩ | ⟨hp, _, hs⟩ := H.step_cases s
    · rw [hs]; exact Nat.zero_le _
    · rw [hs]; exact Nat.le_trans hpos hl
    · rw [hs]; exact Nat.zero_le _
    · rw [hs]; exact hp
  stable s t h := by
    have hle := H.headerLen_le s
    have hlen : (s ++ t).length = s.length + t.length := List.length_append
    obtain ⟨_, hs⟩ | ⟨hl, hv, hs⟩ | ⟨_, _, _, hs⟩ | ⟨hp, hv, hs⟩ := H.step_cases s
    · exact absurd hs h
    · rw [hs, H.step_skip (by omega) (by rwa [H.valid_append s t hl])]
    · exact absurd hs h
    · have hpl := H.packetLen_append s t (by omega)
      rw [hs, H.step_packet (by omega) (by rwa [H.valid_append s t (by omega)]), hpl,
        H.packet_append s t hp]

-- What is left unread is less than a header, or less than the packet its header announces.
theorem tail_short (s : List α) :
    (parse H.framing s).2.length < H.headerLen ∨
      ((parse H.framing s).2.length < H.packetLen (parse H.framing s).2 ∧
        H.Valid (parse H.framing s).2) := by
  have hw : H.step (parse H.framing s).2 = .wait := step_parse_tail H.framing s
  obtain ⟨hl, _⟩ | ⟨_, _, hs⟩ | ⟨_, hp, hv, _⟩ | ⟨_, _, hs⟩ := H.step_cases (parse H.framing s).2
  · exact .inl hl
  · rw [hs] at hw; cases hw
  · exact .inr ⟨hp, hv⟩
  · rw [hs] at hw; cases hw

end HeaderFormat

/-! ## Streams of packets and junk -/

section Streams

variable {ι : Type*} (encode : ι → List α) (Header : List α → Prop)

/-- Encoded packets, each behind a gap, and a gap at the end. -/
def stream : List (List α × ι) → List α → List α
  | [], trailing => trailing
  | (gap, i) :: rest, trailing => gap ++ (encode i ++ stream rest trailing)

/-- No position of the gap starts a header; such a header may reach into what comes `after`. -/
def Clean (gap after : List α) : Prop := ∀ k, k < gap.length → ¬ Header ((gap ++ after).drop k)

def CleanGaps : List (List α × ι) → List α → Prop
  | [], trailing => Clean Header trailing []
  | (gap, i) :: rest, trailing =>
      Clean Header gap (encode i ++ stream encode rest trailing) ∧ CleanGaps rest trailing

instance [DecidablePred Header] (gap after : List α) : Decidable (Clean Header gap after) :=
  inferInstanceAs (Decidable (∀ k, k < gap.length → ¬ Header ((gap ++ after).drop k)))

theorem Clean.tail {a : α} {gap after : List α} (h : Clean Header (a :: gap) after) :
    Clean Header gap after := fun k hk => h (k + 1) (Nat.succ_lt_succ hk)

namespace HeaderFormat

variable (H : HeaderFormat α π) {encode Header} {decode : ι → π}

/-- The encoding of `i` is read back as the packet `decode i`, whatever follows. -/
structure Encodes (encode : ι → List α) (decode : ι → π) : Prop where
  valid : ∀ i s, H.Valid (encode i ++ s)
  packetLen : ∀ i s, H.packetLen (encode i ++ s) = (encode i).length
  packet : ∀ i s, H.packet (encode i ++ s) = decode i

-- A clean gap before enough input is skipped, one element after the other.
theorem parse_clean (hheader : ∀ s, H.headerLen ≤ s.length → H.Valid s → Header s)
    {gap after : List α} (hafter : H.headerLen ≤ after.length) (h : Clean Header gap after) :
    parse H.framing (gap ++ after) = parse H.framing after := by
  induction gap with
  | nil => rfl
  | cons a gap ih =>
      have hlen : H.headerLen ≤ (a :: gap ++ after).length := by
        rw [List.length_append]
        omega
      have hbad : ¬ H.Valid (a :: gap ++ after) :=
        fun hv => h 0 (Nat.succ_pos _) (hheader _ hlen hv)
      have hskip : H.framing.step (a :: gap ++ after) = .skip 1 := H.step_skip hlen hbad
      rw [parse_step H.framing (by rw [hskip]; exact nofun), hskip]
      exact ih h.tail

-- Of a clean gap at the end only less than a header is left.
theorem parse_trailing (hheader : ∀ s, H.headerLen ≤ s.length → H.Valid s → Header s)
    {gap : List α} (h : Clean Header gap []) :
    ∃ eaten rest, gap = eaten ++ rest ∧ rest.length < H.headerLen ∧
      parse H.framing gap = ([], rest) := by
  induction gap with
  | nil => exact ⟨[], [], rfl, H.headerLen_pos, parse_wait H.framing (H.step_short H.headerLen_pos)⟩
  | cons a gap ih =>
      by_cases hlen : H.headerLen ≤ (a :: gap).length
      · have hbad : ¬ H.Valid (a :: gap) := by
          intro hv
          apply h 0 (Nat.succ_pos _)
          rw [List.append_nil]
          exact hheader _ hlen hv
        have hskip : H.framing.step (a :: gap) = .skip 1 := H.step_skip hlen hbad
        obtain ⟨eaten, rest, hgap, hrest, hparse⟩ := ih h.tail
        refine ⟨a :: eaten, rest, by rw [hgap]; rfl, hrest, ?_⟩
        rw [parse_step H.framing (by rw [hskip]; exact nofun), hskip]
        exact hparse
      · have hshort : (a :: gap).length < H.headerLen := Nat.lt_of_not_le hlen
        exact ⟨[], a :: gap, rfl, hshort, parse_wait H.framing (H.step_short hshort)⟩

theorem step_encoded (henc : H.Encodes encode decode) (i : ι) (s : List α) :
    H.framing.step (encode i ++ s) = .packet (encode i).length (decode i) := by
  have hle : H.packetLen (encode i ++ s) ≤ (encode i ++ s).length := by
    rw [henc.packetLen, List.length_append]
    exact Nat.le_add_right _ _
  have hstep := H.step_packet hle (henc.valid i s)
  rw [henc.packetLen, henc.packet] at hstep
  exact hstep

-- A packet at the front is found, and nothing in its payload is looked at.
theorem parse_encoded (henc : H.Encodes encode decode) (i : ι) (s : List α) :
    parse H.framing (encode i ++ s) =
      (decode i :: (parse H.framing s).1, (parse H.framing s).2) := by
  have hpacket := H.step_encoded henc i s
  rw [parse_step H.framing (by rw [hpacket]; exact nofun), hpacket]
  show ([decode i] ++ (parse H.framing ((encode i ++ s).drop (encode i).length)).1, _) = _
  rw [Verdict.size, List.drop_left]
  rfl

-- Decode after encode: exactly the packets, whatever lies between them.
theorem parse_stream (hheader : ∀ s, H.headerLen ≤ s.length → H.Valid s → Header s)
    (henc : H.Encodes encode decode) (items : List (List α × ι)) (trailing : List α)
    (h : CleanGaps encode Header items trailing) :
    ∃ eaten rest, trailing = eaten ++ rest ∧ rest.length < H.headerLen ∧
      parse H.framing (stream encode items trailing) =
        (items.map fun item => decode item.2, rest) := by
  induction items with
  | nil => exact H.parse_trailing hheader h
  | cons item items ih =>
      obtain ⟨gap, i⟩ := item
      obtain ⟨hgap, hrest⟩ := h
      obtain ⟨eaten, rest, htrailing, hlen, hparse⟩ := ih hrest
      have hafter : H.headerLen ≤ (encode i ++ stream encode items trailing).length := by
        rw [List.length_append, ← henc.packetLen i []]
        exact Nat.le_trans (H.headerLen_le _) (Nat.le_add_right _ _)
      refine ⟨eaten, rest, htrailing, hlen, ?_⟩
      rw [stream, H.parse_clean hheader hafter hgap, H.parse_encoded henc, hparse]
      rfl

-- A packet cut short is waited for.
theorem step_cut (henc : H.Encodes encode decode) {i : ι} {n : Nat}
    (hn : n < (encode i).length) : H.framing.step ((encode i).take n) = .wait := by
  by_contra hne
  have hstable := H.framing.stable _ ((encode i).drop n) hne
  have hsize := H.framing.size_le ((encode i).take n)
  have hpacket := H.step_encoded henc i []
  rw [List.append_nil] at hpacket
  rw [List.take_append_drop, hpacket] at hstable
  rw [← hstable, List.length_take] at hsize
  change (encode i).length ≤ _ at hsize
  omega

-- Whatever part of the stream has arrived, the packets read are those that are whole, and what is
-- left is the front of the next one.
theorem parse_part (henc : H.Encodes encode decode) (items : List ι) (n : Nat) :
    ∃ whole rest, parse H.framing ((items.flatMap encode).take n) = (whole.map decode, rest) ∧
      (items.flatMap encode).take n = whole.flatMap encode ++ rest ∧
      ((items = whole ∧ rest = []) ∨
        ∃ i later, items = whole ++ i :: later ∧ rest <+: encode i ∧
          rest.length < (encode i).length) := by
  induction items generalizing n with
  | nil =>
      refine ⟨[], [], ?_, List.take_nil, Or.inl ⟨rfl, rfl⟩⟩
      rw [List.flatMap_nil, List.take_nil]
      exact parse_wait H.framing (H.step_short H.headerLen_pos)
  | cons i items ih =>
      rw [List.flatMap_cons]
      by_cases hcut : n < (encode i).length
      · rw [List.take_append_of_le_length (Nat.le_of_lt hcut)]
        refine ⟨[], (encode i).take n, ?_, rfl, Or.inr ⟨i, items, rfl, ?_, ?_⟩⟩
        · exact parse_wait H.framing (H.step_cut henc hcut)
        · exact List.take_prefix n (encode i)
        · rw [List.length_take]
          omega
      · obtain ⟨whole, rest, hparse, hstream, hnext⟩ := ih (n - (encode i).length)
        have htake : (encode i ++ items.flatMap encode).take n =
            encode i ++ (items.flatMap encode).take (n - (encode i).length) := by
          rw [List.take_append, List.take_of_length_le (Nat.le_of_not_lt hcut)]
        refine ⟨i :: whole, rest, ?_, ?_, ?_⟩
        · rw [htake, H.parse_encoded henc, hparse]
          rfl
        · rw [htake, hstream, List.flatMap_cons, List.append_assoc]
        · rcases hnext with ⟨rfl, hrest⟩ | ⟨j, later, rfl, hfront, hshort⟩
          · exact Or.inl ⟨rfl, hrest⟩
          · exact Or.inr ⟨j, later, rfl, hfront, hshort⟩

end HeaderFormat

end Streams

end StreamParser
