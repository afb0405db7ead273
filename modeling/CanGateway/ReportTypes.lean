import CanGateway.MonitorPath

/-!
# The type of the monitored reports

A report thread writes the type for its channel's mode to `can_data_type` and reads it back for each
frame.  The variable belongs to all channels, so another thread can write it in between.
-/

namespace CanGateway

/-! ## The types -/

/-- The type `axican_data_process_thread_1` has for a mode; the other modes have none. -/
def modeDataType (mode : UInt8) : Option UInt8 :=
  if mode.toUInt16 = alongMode then some 0x82
  else if mode.toUInt16 = normalMode then some 0x80
  else none

/-- Other threads leave the channels' modes as they are. -/
def MonitorCall.KeepsModes (modes : UInt8 → UInt8) : MonitorCall → Prop
  | other configs _ _ => ∀ c, (configs c).canType = modes c
  | _ => True

/-- A report, and the message that is sent if there is a client, have the type of the channel's
    mode, if the mode has one. -/
def MonitorEvent.RightType (modes : UInt8 → UInt8) : MonitorEvent → Prop
  | reported c dataType _ message =>
      ∀ t, modeDataType (modes c) = some t → dataType = t ∧ ∀ m ∈ message, m.record.type = t
  | _ => True

/-- Every run with these modes reports every frame under the type of its channel's mode. -/
def TypesRight (modes : UInt8 → UInt8) : Prop :=
  ∀ (set₀ set : RingBuffer32ChSet) (heap heap' : Heap) (configs : CanConfigs),
    ringbuffer32chInit set₀ 24 32768 6 heap = (0, set, heap') →
    (∀ c, (configs c).canType = modes c) →
    ∀ calls : List MonitorCall, (∀ call ∈ calls, call.KeepsModes modes) →
      ∀ e ∈ (Transducer.run monitorStep calls (.initial set configs)).1, e.RightType modes

/-- Some run with these modes sends a frame of channel `a` to a connected client under the type for
    the mode of channel `b`. -/
def SentUnder (modes : UInt8 → UInt8) (a b : UInt8) : Prop :=
  ∃ (set : RingBuffer32ChSet) (heap' : Heap) (configs : CanConfigs) (calls : List MonitorCall),
    ringbuffer32chInit .zero 24 32768 6 ampleHeap = (0, set, heap') ∧
    (∀ c, (configs c).canType = modes c) ∧ (∀ call ∈ calls, call.KeepsModes modes) ∧
    ∃ frame m, .reported a m.record.type frame (some m) ∈
        (Transducer.run monitorStep calls (.initial set configs)).1 ∧
      m.record.chId = a ∧ modeDataType (modes b) = some m.record.type

/-- Two channels whose modes have different types. -/
def MixedModes (modes : UInt8 → UInt8) : Prop :=
  ∃ a b : UInt8, a.toNat < axicanMax ∧ b.toNat < axicanMax ∧
    (modes a).toUInt16 = alongMode ∧ (modes b).toUInt16 = normalMode

theorem modeDataType_along {mode : UInt8} (h : mode.toUInt16 = alongMode) :
    modeDataType mode = some 0x82 := if_pos h

theorem modeDataType_normal {mode : UInt8} (h : mode.toUInt16 = normalMode) :
    modeDataType mode = some 0x80 := by
  rw [modeDataType, if_neg (by rw [h]; decide), if_pos h]

theorem modeDataType_some {mode t : UInt8} (h : modeDataType mode = some t) :
    (mode.toUInt16 = alongMode ∧ t = 0x82) ∨ (mode.toUInt16 = normalMode ∧ t = 0x80) := by
  unfold modeDataType at h
  split at h
  next hmode => exact Or.inl ⟨hmode, (Option.some.inj h).symm⟩
  split at h
  next hmode => exact Or.inr ⟨hmode, (Option.some.inj h).symm⟩
  · cases h

-- Without mixed modes the channels agree on the type.
theorem modeDataType_agree {modes : UInt8 → UInt8} (h : ¬ MixedModes modes) {c d t u : UInt8}
    (hc : c.toNat < axicanMax) (hd : d.toNat < axicanMax) (ht : modeDataType (modes c) = some t)
    (hu : modeDataType (modes d) = some u) : t = u := by
  rcases modeDataType_some ht with ⟨hmc, rfl⟩ | ⟨hmc, rfl⟩ <;>
    rcases modeDataType_some hu with ⟨hmd, rfl⟩ | ⟨hmd, rfl⟩
  · rfl
  · exact absurd ⟨c, d, hc, hd, hmc, hmd⟩ h
  · exact absurd ⟨d, c, hd, hc, hmd, hmc⟩ h
  · rfl

/-! ## One type for all -/

/-- What a report thread knows of its type at each point. -/
def ReporterPc.TypeOk (mode canDataType : UInt8) : ReporterPc → Prop
  | .retyping _ => mode.toUInt16 ≠ alongMode
  | .writing dataType _ => modeDataType mode = some dataType
  | .sending _ => ∀ t, modeDataType mode = some t → canDataType = t
  | .calling dataType _ _ => ∀ t, modeDataType mode = some t → canDataType = t ∧ dataType = t
  | _ => True

structure MonitorSystem.Typed (modes : UInt8 → UInt8) (s : MonitorSystem) : Prop where
  canType : ∀ c, (s.configs c).canType = modes c
  threads : ∀ c, (s.reporters c).TypeOk (modes c) s.canDataType
  idle : ∀ c, axicanMax ≤ c.toNat → s.reporters c = .counting

section Steps

variable {modes : UInt8 → UInt8} {s s' : MonitorSystem} {c : UInt8}

-- A step of one report thread that does not write the type.
theorem MonitorSystem.Typed.move (h : s.Typed modes) (hc : c.toNat < axicanMax) {pc : ReporterPc}
    (hpc : pc.TypeOk (modes c) s.canDataType) (hconfigs : s'.configs = s.configs)
    (htype : s'.canDataType = s.canDataType)
    (hreporters : s'.reporters = Function.update s.reporters c pc) : s'.Typed modes where
  canType := by
    rw [hconfigs]
    exact h.canType
  threads := by
    intro d
    rw [hreporters, htype, Function.update_apply]
    split
    next hd => exact hd ▸ hpc
    · exact h.threads d
  idle := by
    intro d hd
    rw [hreporters, Function.update_apply, if_neg]
    · exact h.idle d hd
    · rintro rfl
      exact Nat.not_le.mpr hc hd

/-- The points where a thread relies on no type. -/
def ReporterPc.Untyped : ReporterPc → Prop
  | .counting | .dequeuing _ _ | .typing _ => True
  | _ => False

theorem ReporterPc.Untyped.typeOk {pc : ReporterPc} (h : pc.Untyped) (mode canDataType : UInt8) :
    pc.TypeOk mode canDataType := by
  cases pc <;> trivial

theorem MonitorSystem.Typed.untyped (h : s.Typed modes) (hc : c.toNat < axicanMax)
    {pc : ReporterPc} (hconfigs : s'.configs = s.configs)
    (htype : s'.canDataType = s.canDataType)
    (hreporters : s'.reporters = Function.update s.reporters c pc) (hpc : pc.Untyped) :
    s'.Typed modes :=
  h.move hc (hpc.typeOk _ _) hconfigs htype hreporters

-- A thread writes the type that every other thread relies on.
theorem MonitorSystem.Typed.write (h : s.Typed modes) (hsame : ¬ MixedModes modes)
    (hc : c.toNat < axicanMax) {dataType : UInt8} (ht : modeDataType (modes c) = some dataType)
    (batch : List AxicanFrame) :
    MonitorSystem.Typed modes
      { s.setReporter c (.sending batch) with canDataType := dataType } where
  canType := h.canType
  threads := by
    intro d
    show ((s.setReporter c (.sending batch)).reporters d).TypeOk (modes d) dataType
    rw [MonitorSystem.reporters_setReporter]
    have hagree : d.toNat < axicanMax → ∀ t, modeDataType (modes d) = some t → dataType = t :=
      fun hd t hdt => modeDataType_agree hsame hc hd ht hdt
    split
    next hd =>
      rw [hd]
      intro t hdt
      exact Option.some.inj (ht.symm.trans hdt)
    · by_cases hd : d.toNat < axicanMax
      · have hold := h.threads d
        cases hpc : s.reporters d with
        | sending other => exact hagree hd
        | calling dataType' frame other =>
            rw [hpc] at hold
            intro t hdt
            exact ⟨hagree hd t hdt, (hold t hdt).2⟩
        | retyping other =>
            rw [hpc] at hold
            exact hold
        | writing dataType' other =>
            rw [hpc] at hold
            exact hold
        | counting => trivial
        | dequeuing left other => trivial
        | typing other => trivial
      · rw [h.idle d (Nat.not_lt.mp hd)]
        trivial
  idle := by
    intro d hd
    show (s.setReporter c (.sending batch)).reporters d = _
    rw [MonitorSystem.reporters_setReporter, if_neg]
    · exact h.idle d hd
    · rintro rfl
      exact Nat.not_le.mpr hc hd

theorem sendCanTransmitResponse_type {connected : Bool} {canId type status : UInt8}
    {frame : AxicanFrame} {clock : UInt64} {counters : UploadCounters} {message : UploadMessage}
    (h : (sendCanTransmitResponse connected canId type status frame clock counters).1 =
      some message) : message.record.type = type := by
  unfold sendCanTransmitResponse at h
  split at h
  · cases h
  · cases h
    rfl

theorem reporterStep_typed (h : s.Typed modes) (hsame : ¬ MixedModes modes)
    (hc : c.toNat < axicanMax) (clock : UInt64) :
    (reporterStep s c clock).2.Typed modes ∧ (reporterStep s c clock).1.RightType modes := by
  have hok := h.threads c
  have hmode := h.canType c
  cases hpc : s.reporters c with
  | counting =>
      simp only [reporterStep, hpc]
      exact ⟨h.untyped hc rfl rfl rfl trivial, trivial⟩
  | dequeuing left batch =>
      cases left with
      | zero =>
          simp only [reporterStep, hpc]
          exact ⟨h.untyped hc rfl rfl rfl trivial, trivial⟩
      | succ left =>
          simp only [reporterStep, hpc]
          split
          · exact ⟨h.untyped hc rfl rfl rfl trivial, trivial⟩
          · exact ⟨h.untyped hc rfl rfl rfl trivial, trivial⟩
  | typing batch =>
      simp only [reporterStep, hpc, hmode]
      refine ⟨h.move hc ?_ rfl rfl rfl, trivial⟩
      split
      next halong => exact modeDataType_along halong
      next halong => exact halong
  | retyping batch =>
      rw [hpc] at hok
      simp only [reporterStep, hpc, hmode]
      refine ⟨h.move hc ?_ rfl rfl rfl, trivial⟩
      split
      next hnormal => exact modeDataType_normal hnormal
      next hnormal =>
        intro t ht
        rcases modeDataType_some ht with ⟨halong, _⟩ | ⟨hn, _⟩
        · exact absurd halong hok
        · exact absurd hn hnormal
  | writing dataType batch =>
      rw [hpc] at hok
      simp only [reporterStep, hpc]
      exact ⟨h.write hsame hc hok batch, trivial⟩
  | sending batch =>
      rw [hpc] at hok
      cases batch with
      | nil =>
          simp only [reporterStep, hpc]
          exact ⟨h.untyped hc rfl rfl rfl trivial, trivial⟩
      | cons frame batch =>
          simp only [reporterStep, hpc]
          refine ⟨h.move hc ?_ rfl rfl rfl, trivial⟩
          exact fun t ht => ⟨hok t ht, hok t ht⟩
  | calling dataType frame batch =>
      rw [hpc] at hok
      simp only [reporterStep, hpc]
      refine ⟨h.move hc ?_ rfl rfl rfl, fun t ht => ⟨(hok t ht).2, fun m hm => ?_⟩⟩
      · exact fun t ht => (hok t ht).1
      · rw [sendCanTransmitResponse_type hm]
        exact (hok t ht).2

theorem monitorStep_typed (h : s.Typed modes) (hsame : ¬ MixedModes modes) (call : MonitorCall)
    (hkeeps : call.KeepsModes modes) :
    (monitorStep s call).2.Typed modes ∧ (monitorStep s call).1.RightType modes := by
  cases call with
  | poll c pollrc rc frameCount =>
      simp only [monitorStep]
      split
      · exact ⟨⟨h.canType, h.threads, h.idle⟩, trivial⟩
      · exact ⟨h, trivial⟩
  | read c rc frame =>
      simp only [monitorStep]
      unfold readerStep
      split
      · exact ⟨h, trivial⟩
      split
      · split
        · exact ⟨⟨h.canType, h.threads, h.idle⟩, trivial⟩
        · exact ⟨⟨h.canType, h.threads, h.idle⟩, trivial⟩
      · exact ⟨⟨h.canType, h.threads, h.idle⟩, trivial⟩
  | report c clock =>
      simp only [monitorStep]
      split
      next hc => exact reporterStep_typed h hsame hc clock
      · exact ⟨h, trivial⟩
  | other configs connected counters => exact ⟨⟨hkeeps, h.threads, h.idle⟩, trivial⟩

end Steps

-- With one type for all channels every run is right: by induction on its calls.
theorem run_typed {modes : UInt8 → UInt8} (hsame : ¬ MixedModes modes) (calls : List MonitorCall)
    (hkeeps : ∀ call ∈ calls, call.KeepsModes modes) {s : MonitorSystem} (h : s.Typed modes) :
    ∀ e ∈ (Transducer.run monitorStep calls s).1, e.RightType modes := by
  induction calls generalizing s with
  | nil =>
      intro e hmem
      cases hmem
  | cons call calls ih =>
      have hstep := monitorStep_typed h hsame call (hkeeps call List.mem_cons_self)
      intro e hmem
      rw [Transducer.run] at hmem
      rcases List.mem_cons.mp hmem with rfl | hmem
      · exact hstep.2
      · exact ih (fun c hc => hkeeps c (List.mem_cons_of_mem _ hc)) hstep.1 e hmem

/-! ## A report of the wrong type -/

section WrongType

variable {s : MonitorSystem} {c : UInt8}

theorem reporterStep_turn (hc : c.toNat < axicanMax) (clock : UInt64) :
    monitorStep s (.report c clock) = reporterStep s c clock := if_pos hc

@[simp] theorem MonitorSystem.setReporter_self (s : MonitorSystem) (c : UInt8) (pc : ReporterPc) :
    (s.setReporter c pc).reporters c = pc := Function.update_self _ _ _

@[simp] theorem MonitorSystem.setReporter_setReporter (s : MonitorSystem) (c : UInt8)
    (pc pc' : ReporterPc) : (s.setReporter c pc).setReporter c pc' = s.setReporter c pc' := by
  simp only [MonitorSystem.setReporter, Function.update_idem]

/-- The state after `n` turns of the report thread of channel `c`. -/
def turns (c : UInt8) (n : Nat) (s : MonitorSystem) : MonitorSystem :=
  (Transducer.run monitorStep (List.replicate n (.report c 0)) s).2

theorem turns_succ (hc : c.toNat < axicanMax) (n : Nat) (s : MonitorSystem) :
    turns c (n + 1) s = turns c n (reporterStep s c 0).2 := by
  rw [turns, List.replicate_succ, Transducer.run, reporterStep_turn hc]
  rfl

-- A thread with nothing queued writes its type all the same.
theorem turns_idle (hc : c.toNat < axicanMax) (hpc : s.reporters c = .counting)
    (hempty : ringbuffer32chLen s.gPollBufSet c 6 = 0)
    (hmode : (s.configs c).canType.toUInt16 = normalMode) :
    turns c 5 s = { s.setReporter c (.sending []) with canDataType := 0x80 } := by
  have hnot : normalMode ≠ alongMode := by decide
  have h1 : (reporterStep s c 0).2 = s.setReporter c (.dequeuing 0 []) := by
    simp [reporterStep, hpc, hempty]
  have h2 : (reporterStep (s.setReporter c (.dequeuing 0 [])) c 0).2 =
      s.setReporter c (.typing []) := by
    simp [reporterStep]
  have h3 : (reporterStep (s.setReporter c (.typing [])) c 0).2 =
      s.setReporter c (.retyping []) := by
    simp [reporterStep, MonitorSystem.setReporter, hmode, hnot]
  have h4 : (reporterStep (s.setReporter c (.retyping [])) c 0).2 =
      s.setReporter c (.writing 0x80 []) := by
    simp [reporterStep, MonitorSystem.setReporter, hmode]
  have h5 : (reporterStep (s.setReporter c (.writing 0x80 [])) c 0).2 =
      { s.setReporter c (.sending []) with canDataType := 0x80 } := by
    simp [reporterStep]
  rw [turns_succ hc, h1, turns_succ hc, h2, turns_succ hc, h3, turns_succ hc, h4, turns_succ hc, h5]
  rfl

-- A thread with one frame queued has written its type and not yet read it back.
theorem turns_one (hc : c.toNat < axicanMax) {frame : AxicanFrame} {set : RingBuffer32ChSet}
    (hpc : s.reporters c = .counting) (hlen : ringbuffer32chLen s.gPollBufSet c 6 = 1)
    (hget : ringbuffer32chGet s.gPollBufSet c (some (List.replicate sizeofAxicanFrame 0)) 6 =
      (1, some frame.toBytes, set))
    (hmode : (s.configs c).canType.toUInt16 = alongMode) :
    turns c 5 s =
      { s.setReporter c (.sending [frame]) with gPollBufSet := set, canDataType := 0x82 } := by
  have hframe : AxicanFrame.ofBytes frame.toBytes = frame := frame.ofBytes_toBytes
  have h1 : (reporterStep s c 0).2 = s.setReporter c (.dequeuing 1 []) := by
    simp [reporterStep, hpc, hlen, dequeueBatchSize]
  have h2 : (reporterStep (s.setReporter c (.dequeuing 1 [])) c 0).2 =
      { s.setReporter c (.dequeuing 0 [frame]) with gPollBufSet := set } := by
    have hget' : ringbuffer32chGet (s.setReporter c (.dequeuing 1 [])).gPollBufSet c
        (some (List.replicate sizeofAxicanFrame 0)) 6 = (1, some frame.toBytes, set) := hget
    simp [reporterStep, hget', hframe]
  have h3 : (reporterStep
      { s.setReporter c (.dequeuing 0 [frame]) with gPollBufSet := set } c 0).2 =
      { s.setReporter c (.typing [frame]) with gPollBufSet := set } := by
    simp [reporterStep, MonitorSystem.setReporter]
  have h4 : (reporterStep { s.setReporter c (.typing [frame]) with gPollBufSet := set } c 0).2 =
      { s.setReporter c (.writing 0x82 [frame]) with gPollBufSet := set } := by
    simp [reporterStep, MonitorSystem.setReporter, hmode]
  have h5 : (reporterStep
      { s.setReporter c (.writing 0x82 [frame]) with gPollBufSet := set } c 0).2 =
      { s.setReporter c (.sending [frame]) with gPollBufSet := set, canDataType := 0x82 } := by
    simp [reporterStep, MonitorSystem.setReporter]
  rw [turns_succ hc, h1, turns_succ hc, h2, turns_succ hc, h3, turns_succ hc, h4, turns_succ hc, h5]
  rfl

theorem sendCanTransmitResponse_sent (c type status : UInt8) (frame : AxicanFrame) (clock : UInt64)
    (counters : UploadCounters) :
    ∃ m, (sendCanTransmitResponse true c type status frame clock counters).1 = some m ∧
      m.record.type = type ∧ m.record.chId = c := by
  rw [sendCanTransmitResponse, if_neg (by simp)]
  exact ⟨_, rfl, rfl, rfl⟩

-- The next frame is sent under whatever type is there.
theorem report_next (hc : c.toNat < axicanMax) {frame : AxicanFrame} {batch : List AxicanFrame}
    (hpc : s.reporters c = .sending (frame :: batch)) (hconnected : s.connected = true) :
    ∃ m, m.record.type = s.canDataType ∧ m.record.chId = c ∧
      MonitorEvent.reported c s.canDataType frame (some m) ∈
        (Transducer.run monitorStep (List.replicate 2 (.report c 0)) s).1 := by
  obtain ⟨m, hsent, htype, hch⟩ :=
    sendCanTransmitResponse_sent c s.canDataType 1 frame 0 s.counters
  refine ⟨m, htype, hch, ?_⟩
  have h1 : reporterStep s c 0 =
      (.quiet, s.setReporter c (.calling s.canDataType frame batch)) := by
    simp [reporterStep, hpc]
  have hevent : (reporterStep (s.setReporter c (.calling s.canDataType frame batch)) c 0).1 =
      .reported c s.canDataType frame (some m) := by
    rw [← hsent, ← hconnected]
    simp [reporterStep, MonitorSystem.setReporter]
  simp only [List.replicate, Transducer.run, reporterStep_turn hc, h1]
  apply List.mem_cons_of_mem
  rw [hevent]
  exact List.mem_cons_self

end WrongType

/-- The queues after one frame for channel `a`: it can be taken out, and channel `b` has none. -/
theorem oneQueued {set₀ set : RingBuffer32ChSet} {heap heap' : Heap}
    (hinit : ringbuffer32chInit set₀ 24 32768 6 heap = (0, set, heap')) (frame : AxicanFrame)
    {a b : UInt8} (ha : a.toNat < axicanMax) (hb : b.toNat < axicanMax) (hab : a ≠ b) :
    (ringbuffer32chPut set a (some frame.toBytes) 6).1 = 1 ∧
      ∃ set', ringbuffer32chLen (ringbuffer32chPut set a (some frame.toBytes) 6).2 a 6 = 1 ∧
        ringbuffer32chGet (ringbuffer32chPut set a (some frame.toBytes) 6).2 a
          (some (List.replicate sizeofAxicanFrame 0)) 6 = (1, some frame.toBytes, set') ∧
        ringbuffer32chLen set' b 6 = 0 := by
  have hcarries := carries_fresh AxicanFrame.toBytes hinit AxicanFrame.length_toBytes
  obtain ⟨hret, hput⟩ := hcarries.put a 6 frame
  have hvalid : (QueueBank.fresh (6 : UInt8).toNat (actualCap 32768).toNat :
      QueueBank AxicanFrame).Valid (6 : UInt8).toNat a.toNat := ⟨ha, ha⟩
  have hroom : (QueueBank.fresh (6 : UInt8).toNat (actualCap 32768).toNat :
      QueueBank AxicanFrame).put (6 : UInt8).toNat a.toNat frame =
        (true, QueueBank.update (.fresh (6 : UInt8).toNat (actualCap 32768).toNat) a.toNat
          [frame]) := by
    rw [QueueBank.put, if_pos ⟨hvalid, show 0 < (actualCap 32768).toNat by decide⟩]
    rfl
  rw [hroom] at hret hput
  generalize ringbuffer32chPut set a (some frame.toBytes) 6 = put at hret hput
  obtain ⟨ret, set₁⟩ := put
  dsimp only at hret hput
  have hqueue : (QueueBank.update (.fresh (6 : UInt8).toNat (actualCap 32768).toNat) a.toNat
      [frame]).queue a.toNat = [frame] := QueueBank.update_self _ _ _
  have hvalid' : (QueueBank.update (.fresh (6 : UInt8).toNat (actualCap 32768).toNat) a.toNat
      [frame]).Valid (6 : UInt8).toNat a.toNat := ⟨ha, ha⟩
  have hdst : (List.replicate sizeofAxicanFrame (0 : UInt8)).length = set₁.elemSize.toNat := by
    rw [← hput.size frame, AxicanFrame.length_toBytes, List.length_replicate]
    rfl
  obtain ⟨hret', hdata, hget⟩ := hput.get a 6 _ hdst
  rw [QueueBank.get_of_cons _ hvalid' hqueue] at hret' hdata hget
  refine ⟨hret, _, ?_, Prod.ext hret' (Prod.ext hdata rfl), ?_⟩
  · apply UInt32.toNat_inj.mp
    rw [hput.len, QueueBank.len, if_pos hvalid', hqueue]
    rfl
  · apply UInt32.toNat_inj.mp
    have hne : b.toNat ≠ a.toNat := fun h => hab (UInt8.toNat_inj.mp h).symm
    rw [hget.len, QueueBank.len, if_pos ⟨hb, hb⟩, QueueBank.update_other _ _ _ _ hne,
      QueueBank.update_other _ _ _ _ hne]
    rfl

-- A thread of the other type, between the writing and the reading, makes the report wrong.
theorem sentUnder_of_modes {modes : UInt8 → UInt8} {a b : UInt8} (ha : a.toNat < axicanMax)
    (hb : b.toNat < axicanMax) (halong : (modes a).toUInt16 = alongMode)
    (hnormal : (modes b).toUInt16 = normalMode) : SentUnder modes a b := by
  have hab : a ≠ b := by
    rintro rfl
    rw [halong] at hnormal
    exact absurd hnormal (by decide)
  obtain ⟨set, heap', hinit⟩ : ∃ set heap',
      ringbuffer32chInit .zero 24 32768 6 ampleHeap = (0, set, heap') := ⟨_, _, rfl⟩
  let configs : CanConfigs := fun c => { initialConfig c with canType := modes c }
  let frame : AxicanFrame := default
  obtain ⟨hput, set₂, hlen, hget, hempty⟩ := oneQueued hinit frame ha hb hab
  -- a client connects and one frame of `a` is read
  let reading : List MonitorCall :=
    [.other configs true ⟨0, fun _ => 0⟩, .poll a 1 0 1, .read a 24 frame]
  let s₀ : MonitorSystem := { MonitorSystem.initial set configs with connected := true }
  let s₁ := (Transducer.run monitorStep reading (.initial set configs)).2
  have hs₁ : s₁ = { s₀.setReader a (.reading 1 1) with
      gPollBufSet := (ringbuffer32chPut set a (some frame.toBytes) 6).2 } := by
    have hother : monitorStep (.initial set configs) (.other configs true ⟨0, fun _ => 0⟩) =
        (.quiet, s₀) := rfl
    have hpoll : monitorStep s₀ (.poll a 1 0 1) = (.quiet, s₀.setReader a (.reading 0 1)) := by
      rw [monitorStep, if_pos ⟨ha, rfl, rfl, by decide⟩]
      rfl
    simp only [s₁, reading, Transducer.run, hother, hpoll]
    simp [s₀, monitorStep, readerStep, MonitorSystem.setReader, MonitorSystem.initial,
      sizeofAxicanFrame]
  -- the report thread of `a` has written its type, that of `b` comes in between
  have hs₂ : turns a 5 s₁ =
      { s₁.setReporter a (.sending [frame]) with gPollBufSet := set₂, canDataType := 0x82 } := by
    apply turns_one ha
    · rw [hs₁]
      rfl
    · rw [hs₁]
      exact hlen
    · rw [hs₁]
      exact hget
    · rw [hs₁]
      exact halong
  have hs₃ : turns b 5 (turns a 5 s₁) =
      { (turns a 5 s₁).setReporter b (.sending []) with canDataType := 0x80 } := by
    apply turns_idle hb
    · rw [hs₂]
      show (s₁.setReporter a (.sending [frame])).reporters b = _
      rw [MonitorSystem.reporters_setReporter, if_neg (Ne.symm hab), hs₁]
      rfl
    · rw [hs₂]
      exact hempty
    · rw [hs₂, hs₁]
      exact hnormal
  have hpc : (turns b 5 (turns a 5 s₁)).reporters a = .sending [frame] := by
    rw [hs₃]
    show ((turns a 5 s₁).setReporter b (.sending [])).reporters a = _
    rw [MonitorSystem.reporters_setReporter, if_neg hab, hs₂]
    exact MonitorSystem.setReporter_self _ _ _
  have hconnected : (turns b 5 (turns a 5 s₁)).connected = true := by
    rw [hs₃, hs₂, hs₁]
    rfl
  have htype : (turns b 5 (turns a 5 s₁)).canDataType = 0x80 := by rw [hs₃]
  obtain ⟨m, hmtype, hch, hmem⟩ := report_next ha hpc hconnected
  rw [htype] at hmtype hmem
  refine ⟨set, heap', configs, reading ++ (List.replicate 5 (.report a 0) ++
    (List.replicate 5 (.report b 0) ++ List.replicate 2 (.report a 0))), hinit, fun _ => rfl,
    ?_, frame, m, ?_, hch, ?_⟩
  · intro call hcall
    simp only [reading, List.mem_append, List.mem_cons, List.mem_replicate, List.not_mem_nil,
      or_false] at hcall
    obtain (rfl | rfl | rfl) | ⟨_, rfl⟩ | ⟨_, rfl⟩ | ⟨_, rfl⟩ := hcall
    · exact fun _ => rfl
    all_goals trivial
  · rw [hmtype, Transducer.run_append, Transducer.run_append, Transducer.run_append]
    exact List.mem_append_right _ (List.mem_append_right _ (List.mem_append_right _ hmem))
  · rw [hmtype]
    exact modeDataType_normal hnormal

/-- **When the reports have the right type.**  Whatever the order of the steps, every report has the
    type of its channel's mode exactly if no two of the six channels are in `ALONG_MODE` and in
    `NORMAL_MODE` at a time.  With two such channels some run sends a frame of the first to a
    connected client under the type of the second. -/
theorem types_right_iff (modes : UInt8 → UInt8) :
    (TypesRight modes ↔ ¬ MixedModes modes) ∧
    ∀ a b : UInt8, a.toNat < axicanMax → b.toNat < axicanMax →
      (modes a).toUInt16 = alongMode → (modes b).toUInt16 = normalMode → SentUnder modes a b := by
  refine ⟨⟨?_, ?_⟩, fun a b ha hb => sentUnder_of_modes ha hb⟩
  · intro hright hmixed
    obtain ⟨a, b, ha, hb, halong, hnormal⟩ := hmixed
    obtain ⟨set, heap', configs, calls, hinit, hmodes, hkeeps, frame, m, hmem, _, htype⟩ :=
      sentUnder_of_modes ha hb halong hnormal
    have hright := hright .zero set ampleHeap heap' configs hinit hmodes calls hkeeps _ hmem 0x82
      (modeDataType_along halong)
    rw [modeDataType_normal hnormal, hright.1] at htype
    exact absurd htype (by decide)
  · intro hsame set₀ set heap heap' configs _ hmodes calls hkeeps
    apply run_typed hsame calls hkeeps
    exact ⟨hmodes, fun _ => trivial, fun _ _ => rfl⟩

end CanGateway
