import CanGateway.UploadRecords
import Mathlib.Data.List.Chain

/-!
# The sequence numbers of the reports

`handle_normal_mode` numbers its reports over all channels (`total_count`) and per channel
(`ch_count`), both as 32-bit fields.  The channel's counter is a `uint32_t`; the common one,
`data_counter`, is a `uint16_t` that is tested against the 32-bit maximum.
-/

namespace CanGateway

/-- The report of a call, which goes out if a client is connected. -/
def normalReport (canId : UInt8) (frame : AxicanFrame) (counters : UploadCounters) :
    UploadMessage :=
  (handleNormalMode true canId frame counters).1.get rfl

theorem handleNormalMode_report (connected : Bool) (canId : UInt8) (frame : AxicanFrame)
    (counters : UploadCounters) :
    (handleNormalMode connected canId frame counters).1 =
      if connected then some (normalReport canId frame counters) else none := rfl

/-- The arguments of a call, and whether a client is connected. -/
structure NormalModeCall where
  connected : Bool
  canId : UInt8
  frame : AxicanFrame
  deriving DecidableEq

/-- One call: the record of its report and the counters behind it. -/
def reportStep (counters : UploadCounters) (call : NormalModeCall) :
    UploadRecord × UploadCounters :=
  ((normalReport call.canId call.frame counters).record,
    (handleNormalMode call.connected call.canId call.frame counters).2)

/-- Each number is the one before plus one, modulo 2^32. -/
def Consecutive (numbers : List UInt32) : Prop := numbers.IsChain fun prev next => next = prev + 1

/-- `ch_count` of the reports on a channel, in order. -/
def channelNumbers (ch : UInt8) (reports : List UploadRecord) : List UInt32 :=
  (reports.filter fun report => report.chId = ch).map UploadRecord.chCount

/-- The numbering the two fields are for. -/
structure NumberedInSequence (reports : List UploadRecord) : Prop where
  total : Consecutive (reports.map UploadRecord.totalCount)
  channel : ∀ ch, Consecutive (channelNumbers ch reports)

section Numbers

variable (counters : UploadCounters) (call : NormalModeCall)

theorem reportStep_chId : (reportStep counters call).1.chId = call.canId := rfl

theorem reportStep_chCount : (reportStep counters call).1.chCount = counters.nextOn call.canId :=
  rfl

theorem reportStep_channelFrameCount (ch : UInt8) :
    (reportStep counters call).2.channelFrameCount ch =
      if ch = call.canId then counters.nextOn call.canId else counters.channelFrameCount ch := rfl

-- The test against the maximum is the wrap of the addition.
theorem UploadCounters.nextOn_eq (ch : UInt8) :
    counters.nextOn ch = counters.channelFrameCount ch + 1 := by
  rw [UploadCounters.nextOn]
  split
  next hmax =>
    rw [hmax]
    rfl
  · rfl

-- For 16 bits the test never fires.
theorem UploadCounters.nextTotal_eq :
    counters.nextTotal = counters.dataCounter.toUInt32 + 1 := by
  have hlt := counters.dataCounter.toNat_lt
  rw [UploadCounters.nextTotal, if_neg]
  intro hmax
  have hnat := congrArg UInt32.toNat hmax
  rw [UInt16.toNat_toUInt32] at hnat
  change counters.dataCounter.toNat = 4294967295 at hnat
  omega

theorem reportStep_totalCount :
    (reportStep counters call).1.totalCount = counters.dataCounter.toUInt32 + 1 :=
  counters.nextTotal_eq

-- The counter keeps the low half of the number.
theorem reportStep_dataCounter :
    (reportStep counters call).2.dataCounter.toNat = (counters.dataCounter.toNat + 1) % 65536 := by
  have hnext : (reportStep counters call).2.dataCounter = counters.nextTotal.toUInt16 := rfl
  have hlt := counters.dataCounter.toNat_lt
  rw [hnext, counters.nextTotal_eq, UInt32.toNat_toUInt16, UInt32.toNat_add,
    UInt16.toNat_toUInt32, UInt32.toNat_one]
  omega

-- The next report continues the numbering unless the counter has just wrapped.
theorem reportStep_next_total (next : NormalModeCall) :
    (reportStep (reportStep counters call).2 next).1.totalCount =
        (reportStep counters call).1.totalCount + 1 ↔
      counters.dataCounter.toNat + 1 < 65536 := by
  have hlt := counters.dataCounter.toNat_lt
  have hcounter := reportStep_dataCounter counters call
  rw [reportStep_totalCount, reportStep_totalCount, ← UInt32.toNat_inj, UInt32.toNat_add,
    UInt32.toNat_add, UInt32.toNat_add, UInt16.toNat_toUInt32, UInt16.toNat_toUInt32, hcounter,
    UInt32.toNat_one]
  omega

variable {counters} in
-- By induction on the calls: the channel's counter itself is the number before the first.
theorem run_channelNumbers (calls : List NormalModeCall) (ch : UInt8) :
    Consecutive (counters.channelFrameCount ch ::
      channelNumbers ch (Transducer.run reportStep calls counters).1) := by
  induction calls generalizing counters with
  | nil => exact List.isChain_singleton _
  | cons call calls ih =>
      have hrest := @ih (reportStep counters call).2
      rw [reportStep_channelFrameCount] at hrest
      rw [Transducer.run, channelNumbers, List.filter_cons, reportStep_chId]
      by_cases hch : call.canId = ch
      · rw [if_pos hch.symm] at hrest
        rw [if_pos (decide_eq_true hch), List.map_cons, reportStep_chCount]
        refine List.isChain_cons_cons.mpr ⟨?_, hrest⟩
        rw [counters.nextOn_eq, hch]
      · rw [if_neg (Ne.symm hch)] at hrest
        rw [if_neg (by rw [decide_eq_true_iff]; exact hch)]
        exact hrest

variable {counters} in
-- By induction on the calls: every pair of reports must miss the wrap.
theorem run_totalNumbers (calls : List NormalModeCall) :
    Consecutive ((Transducer.run reportStep calls counters).1.map UploadRecord.totalCount) ↔
      counters.dataCounter.toNat + calls.length ≤ 65536 := by
  have hlt := counters.dataCounter.toNat_lt
  induction calls generalizing counters with
  | nil =>
      rw [List.length_nil]
      exact iff_of_true List.isChain_nil (by omega)
  | cons call calls ih =>
      cases calls with
      | nil =>
          rw [List.length_singleton]
          exact iff_of_true (List.isChain_singleton _) (by omega)
      | cons next calls =>
          have hcounter := reportStep_dataCounter counters call
          have hpair := reportStep_next_total counters call next
          have hrest := @ih (reportStep counters call).2
            (reportStep counters call).2.dataCounter.toNat_lt
          rw [Transducer.run, List.map_cons] at hrest
          rw [Transducer.run, Transducer.run, List.map_cons, List.map_cons, Consecutive,
            List.isChain_cons_cons]
          refine (and_congr hpair hrest).trans ?_
          simp only [hcounter, List.length_cons]
          omega

end Numbers

/-- **When the reports are numbered in sequence.**  Those of a channel always are.  Those of all
    channels are exactly as long as the 16-bit counter has not wrapped before the last one. -/
theorem numbered_in_sequence_iff (counters : UploadCounters) (calls : List NormalModeCall) :
    NumberedInSequence (Transducer.run reportStep calls counters).1 ↔
      counters.dataCounter.toNat + calls.length ≤ 65536 := by
  constructor
  · intro h
    exact (run_totalNumbers calls).mp h.total
  · intro h
    exact ⟨(run_totalNumbers calls).mpr h, fun ch => (run_channelNumbers calls ch).tail⟩

-- The counter is at its maximum: the reports are numbered 65536 and 1.
theorem report_number_repeats :
    let call : NormalModeCall := ⟨true, 0, default⟩
    let reports := (Transducer.run reportStep [call, call] ⟨65535, fun _ => 0⟩).1
    reports.map UploadRecord.totalCount = [65536, 1] ∧ ¬ NumberedInSequence reports := by
  intro call reports
  have hnumbers : reports.map UploadRecord.totalCount = [65536, 1] := by decide +kernel
  refine ⟨hnumbers, ?_⟩
  intro h
  have htotal := h.total
  rw [hnumbers] at htotal
  have hpair := (List.isChain_cons_cons.mp htotal).1
  exact absurd hpair (by decide)

end CanGateway
