import CanGateway.Library.Transducer
import CanGateway.Library.Unwinding

/-!
# What the PPS driver holds

Loading and unloading the module, and binding it to devices and unbinding it, with every call that
can fail.  The labels of `zmuav_pl2ps_irq_probe` unwind what was acquired; `zmuav_pl2ps_irq_init`
does not.
-/

open Unwinding

namespace CanGateway

/-! ## The functions -/

/-- What the driver acquires for a device: its driver data, the interrupt, a number, the device file
    and the character device. -/
inductive DevicePart where
  | drvdata
  | irq
  | chrdevRegion
  | device
  | cdev
  deriving DecidableEq, Repr

inductive DriverResource where
  | driverClass (load : Nat)
  | part (dev : Nat) (part : DevicePart)
  deriving DecidableEq, Repr

abbrev DriverEvent := Event DriverResource

/-- What the calls of `zmuav_pl2ps_irq_probe` return; an error pointer is its negative number. -/
structure ProbeEnv where
  allocated : Bool
  irq : Int
  requestIrq : Int
  allocChrdevRegion : Int
  deviceCreate : Int
  cdevAdd : Int

/-- `zmuav_pl2ps_irq_probe`: what it returns, and what it acquires and releases. -/
def zmuavPl2psIrqProbe (dev : Nat) (env : ProbeEnv) : Int × List DriverEvent :=
  -- `-ENOMEM`
  if ¬ env.allocated then (-12, [])
  else
    let hasData : List DriverEvent := [.acquired (.part dev .drvdata)]
    let hasIrq := hasData ++ [.acquired (.part dev .irq)]
    let hasChrdevRegion := hasIrq ++ [.acquired (.part dev .chrdevRegion)]
    let hasDev := hasChrdevRegion ++ [.acquired (.part dev .device)]
    -- the labels, from the last to the first
    let errInitial : List DriverEvent := [.released (.part dev .drvdata)]
    let errIrq := .released (.part dev .irq) :: errInitial
    let errChrdevRegion := .released (.part dev .chrdevRegion) :: errIrq
    let errDev := .released (.part dev .device) :: errChrdevRegion
    if env.irq < 0 then (env.irq, hasData ++ errInitial)
    else if env.requestIrq ≠ 0 then (env.requestIrq, hasData ++ errInitial)
    else if env.allocChrdevRegion < 0 then (env.allocChrdevRegion, hasIrq ++ errIrq)
    else if env.deviceCreate < 0 then (env.deviceCreate, hasChrdevRegion ++ errChrdevRegion)
    else if env.cdevAdd < 0 then (env.cdevAdd, hasDev ++ errDev)
    else (0, hasDev ++ [.acquired (.part dev .cdev)])

/-- `zmuav_pl2ps_irq_remove`. -/
def zmuavPl2psIrqRemove (dev : Nat) : List DriverEvent :=
  [.released (.part dev .cdev), .released (.part dev .device), .released (.part dev .chrdevRegion),
    .released (.part dev .irq), .released (.part dev .drvdata)]

/-- `zmuav_pl2ps_irq_init`, the `load`-th that creates a class. -/
def zmuavPl2psIrqInit (load : Nat) (classCreate register : Int) : Int × List DriverEvent :=
  if classCreate < 0 then (classCreate, [])
  else (register, [.acquired (.driverClass load)])

/-- `zmuav_pl2ps_irq_exit`; `platform_driver_unregister` removes the driver from the devices it is
    bound to. -/
def zmuavPl2psIrqExit (load : Nat) (bound : List Nat) : List DriverEvent :=
  bound.flatMap zmuavPl2psIrqRemove ++ [.released (.driverClass load)]

/-! ## The driver over a run -/

/-- `loads` counts the classes created; `bound` has the newest device first. -/
structure PpsDriver where
  loads : Nat
  registered : Bool
  bound : List Nat
  deriving DecidableEq, Repr

def PpsDriver.unloaded : PpsDriver := ⟨0, false, []⟩

inductive DriverCall where
  | init (classCreate register : Int)
  | probe (dev : Nat) (env : ProbeEnv)
  | remove (dev : Nat)
  | exit

/-- What a call returns, if the kernel makes it, and what it acquires and releases: the module is
    not loaded twice, and a device is not bound twice. -/
def driverStep (s : PpsDriver) : DriverCall → (Option Int × List DriverEvent) × PpsDriver
  | .init classCreate register =>
      if s.registered then ((none, []), s)
      else
        let r := zmuavPl2psIrqInit s.loads classCreate register
        ((some r.1, r.2),
          { s with
            loads := if classCreate < 0 then s.loads else s.loads + 1
            registered := decide (0 ≤ r.1) })
  | .probe dev env =>
      if s.registered ∧ dev ∉ s.bound then
        let r := zmuavPl2psIrqProbe dev env
        ((some r.1, r.2), if r.1 = 0 then { s with bound := dev :: s.bound } else s)
      else ((none, []), s)
  | .remove dev =>
      if dev ∈ s.bound then
        ((some 0, zmuavPl2psIrqRemove dev), { s with bound := s.bound.erase dev })
      else ((none, []), s)
  | .exit =>
      if s.registered then
        ((some 0, zmuavPl2psIrqExit (s.loads - 1) s.bound),
          { s with registered := false, bound := [] })
      else ((none, []), s)

/-! ## A device's resources -/

/-- In the order of `zmuav_pl2ps_irq_probe`. -/
def deviceResources (dev : Nat) : List DriverResource :=
  [.part dev .drvdata, .part dev .irq, .part dev .chrdevRegion, .part dev .device, .part dev .cdev]

/-- The calls `zmuav_pl2ps_irq_probe` makes for a resource succeed. -/
def ProbeEnv.grants (env : ProbeEnv) : DriverResource → Bool
  | .driverClass _ => true
  | .part _ .drvdata => env.allocated
  | .part _ .irq => decide (0 ≤ env.irq ∧ env.requestIrq = 0)
  | .part _ .chrdevRegion => decide (0 ≤ env.allocChrdevRegion)
  | .part _ .device => decide (0 ≤ env.deviceCreate)
  | .part _ .cdev => decide (0 ≤ env.cdevAdd)

-- The labels of the function release what was acquired, last first.
theorem probe_eq_attempt (dev : Nat) (env : ProbeEnv) :
    (zmuavPl2psIrqProbe dev env).2 = (attempt env.grants (deviceResources dev)).1 ∧
      ((zmuavPl2psIrqProbe dev env).1 = 0 ↔
        (attempt env.grants (deviceResources dev)).2 = true) := by
  unfold zmuavPl2psIrqProbe deviceResources
  by_cases hallocated : ¬ env.allocated = true
  · have hfail : env.grants (.part dev .drvdata) = false := Bool.eq_false_iff.mpr hallocated
    rw [if_pos hallocated, attempt_fail hfail]
    exact ⟨rfl, by decide⟩
  rw [if_neg hallocated]
  have hdata : env.grants (.part dev .drvdata) = true := not_not.mp hallocated
  split_ifs with hirq hrequest hregion hdevice hcdev
  · have hfail : env.grants (.part dev .irq) = false := decide_eq_false (by omega)
    rw [attempt_undo hdata (attempt_fail hfail)]
    exact ⟨rfl, iff_of_false (Int.ne_of_lt hirq) Bool.false_ne_true⟩
  · have hfail : env.grants (.part dev .irq) = false := decide_eq_false (by omega)
    rw [attempt_undo hdata (attempt_fail hfail)]
    exact ⟨rfl, iff_of_false hrequest Bool.false_ne_true⟩
  all_goals have hgrantIrq : env.grants (.part dev .irq) = true := decide_eq_true (by omega)
  · have hfail : env.grants (.part dev .chrdevRegion) = false := decide_eq_false (by omega)
    rw [attempt_undo hdata (attempt_undo hgrantIrq (attempt_fail hfail))]
    exact ⟨rfl, iff_of_false (Int.ne_of_lt hregion) Bool.false_ne_true⟩
  all_goals
    have hgrantRegion : env.grants (.part dev .chrdevRegion) = true := decide_eq_true (by omega)
  · have hfail : env.grants (.part dev .device) = false := decide_eq_false (by omega)
    rw [attempt_undo hdata (attempt_undo hgrantIrq (attempt_undo hgrantRegion
      (attempt_fail hfail)))]
    exact ⟨rfl, iff_of_false (Int.ne_of_lt hdevice) Bool.false_ne_true⟩
  all_goals have hgrantDevice : env.grants (.part dev .device) = true := decide_eq_true (by omega)
  · have hfail : env.grants (.part dev .cdev) = false := decide_eq_false (by omega)
    rw [attempt_undo hdata (attempt_undo hgrantIrq (attempt_undo hgrantRegion
      (attempt_undo hgrantDevice (attempt_fail hfail))))]
    exact ⟨rfl, iff_of_false (Int.ne_of_lt hcdev) Bool.false_ne_true⟩
  · have hgrantCdev : env.grants (.part dev .cdev) = true := decide_eq_true (by omega)
    rw [attempt_keep hdata (attempt_keep hgrantIrq (attempt_keep hgrantRegion
      (attempt_keep hgrantDevice (attempt_keep hgrantCdev rfl))))]
    exact ⟨rfl, iff_of_true rfl rfl⟩

theorem remove_eq_releaseAll (dev : Nat) :
    zmuavPl2psIrqRemove dev = releaseAll (deviceResources dev).reverse := rfl

theorem mem_deviceResources {dev : Nat} {resource : DriverResource} :
    resource ∈ deviceResources dev ↔ ∃ part, resource = .part dev part := by
  constructor
  · intro h
    simp only [deviceResources, List.mem_cons, List.not_mem_nil, or_false] at h
    rcases h with rfl | rfl | rfl | rfl | rfl <;> exact ⟨_, rfl⟩
  · rintro ⟨part, rfl⟩
    cases part <;> simp [deviceResources]

theorem nodup_deviceResources (dev : Nat) : (deviceResources dev).Nodup := by
  simp [deviceResources]

/-! ## What a device sees -/

/-- A resource of the device, or of the module, which the device file needs. -/
def DriverResource.concerns (dev : Nat) : DriverResource → Bool
  | .driverClass _ => true
  | .part d _ => d == dev

def seenBy (dev : Nat) (events : List DriverEvent) : List DriverEvent :=
  events.filter fun event => event.resource.concerns dev

section SeenBy

variable {dev other : Nat} {events : List DriverEvent}

theorem seenBy_append (dev : Nat) (events later : List DriverEvent) :
    seenBy dev (events ++ later) = seenBy dev events ++ seenBy dev later := List.filter_append _ _

theorem seenBy_self (h : ∀ event ∈ events, event.resource ∈ deviceResources dev) :
    seenBy dev events = events := by
  apply List.filter_eq_self.mpr
  intro event hevent
  obtain ⟨part, hpart⟩ := mem_deviceResources.mp (h event hevent)
  rw [hpart]
  exact beq_self_eq_true dev

theorem seenBy_other (hne : other ≠ dev)
    (h : ∀ event ∈ events, event.resource ∈ deviceResources other) : seenBy dev events = [] := by
  apply List.filter_eq_nil_iff.mpr
  intro event hevent
  obtain ⟨part, hpart⟩ := mem_deviceResources.mp (h event hevent)
  rw [hpart]
  exact fun heq => hne (eq_of_beq heq)

theorem resource_mem_probe {env : ProbeEnv} {event : DriverEvent}
    (h : event ∈ (zmuavPl2psIrqProbe dev env).2) : event.resource ∈ deviceResources dev := by
  rw [(probe_eq_attempt dev env).1] at h
  exact resource_mem_attempt h

theorem resource_mem_remove {event : DriverEvent} (h : event ∈ zmuavPl2psIrqRemove dev) :
    event.resource ∈ deviceResources dev := by
  rw [remove_eq_releaseAll] at h
  exact List.mem_reverse.mp (resource_mem_releaseAll h)

-- Of all devices the driver is removed from, one is the device itself.
theorem seenBy_removeAll {bound : List Nat} (h : bound.Nodup) :
    seenBy dev (bound.flatMap zmuavPl2psIrqRemove) =
      if dev ∈ bound then zmuavPl2psIrqRemove dev else [] := by
  induction bound with
  | nil => rfl
  | cons d bound ih =>
      obtain ⟨hd, hbound⟩ := List.nodup_cons.mp h
      rw [List.flatMap_cons, seenBy_append, ih hbound]
      by_cases hdev : d = dev
      · subst hdev
        rw [seenBy_self fun _ => resource_mem_remove, if_neg hd, if_pos List.mem_cons_self,
          List.append_nil]
      · rw [seenBy_other hdev fun _ => resource_mem_remove, List.nil_append]
        simp only [List.mem_cons, Ne.symm hdev, false_or]

end SeenBy

/-! ## What is held -/

/-- The class of the load the driver is in. -/
def PpsDriver.ownClass (s : PpsDriver) : List DriverResource :=
  if s.registered then [.driverClass (s.loads - 1)] else []

/-- What the driver holds for a device, last acquired first. -/
def PpsDriver.holds (s : PpsDriver) (dev : Nat) : List DriverResource :=
  (if dev ∈ s.bound then (deviceResources dev).reverse else []) ++ s.ownClass

/-- A call that leaves a class behind: `platform_driver_register` fails. -/
def leavesClass : DriverCall → Option Int → Bool
  | .init classCreate _, some ret => decide (0 ≤ classCreate ∧ ret < 0)
  | _, _ => false

/-- A driver and the classes left behind so far. -/
structure PpsDriver.Sound (s : PpsDriver) (left : List DriverResource) : Prop where
  nodup_bound : s.bound.Nodup
  bound : s.registered = false → s.bound = []
  nodup : (s.ownClass ++ left).Nodup
  classes : ∀ resource ∈ s.ownClass ++ left,
    ∃ load, resource = .driverClass load ∧ load < s.loads

section Sound

variable {s : PpsDriver} {left : List DriverResource}

theorem PpsDriver.holds_append (s : PpsDriver) (dev : Nat) (left : List DriverResource) :
    s.holds dev ++ left =
      (if dev ∈ s.bound then (deviceResources dev).reverse else []) ++ (s.ownClass ++ left) :=
  List.append_assoc _ _ _

theorem PpsDriver.Sound.fresh (h : s.Sound left) (dev : Nat) :
    ((deviceResources dev).reverse ++ (s.ownClass ++ left)).Nodup := by
  apply List.Nodup.append (List.nodup_reverse.mpr (nodup_deviceResources dev)) h.nodup
  intro resource hdevice hclass
  obtain ⟨part, hpart⟩ := mem_deviceResources.mp (List.mem_reverse.mp hdevice)
  obtain ⟨load, hload, _⟩ := h.classes resource hclass
  cases hpart.symm.trans hload

/-- What every device sees of a step, from what is held before to what is held after. -/
def Replays (s s' : PpsDriver) (left left' : List DriverResource) (events : List DriverEvent) :
    Prop :=
  ∀ dev, replay (seenBy dev events) (s.holds dev ++ left) = some (s'.holds dev ++ left')

theorem replays_nil (s : PpsDriver) (left : List DriverResource) : Replays s s left left [] :=
  fun _ => rfl

-- A step that is about one device.
theorem replays_device {dev : Nat} {bound : List Nat} {events : List DriverEvent}
    (hevents : ∀ event ∈ events, event.resource ∈ deviceResources dev)
    (hself : replay events (s.holds dev ++ left) =
      some ({ s with bound := bound }.holds dev ++ left))
    (hother : ∀ d, d ≠ dev → (d ∈ bound ↔ d ∈ s.bound)) :
    Replays s { s with bound := bound } left left events := by
  intro d
  by_cases hd : d = dev
  · subst hd
    rw [seenBy_self hevents, hself]
  · have hholds : { s with bound := bound }.holds d = s.holds d := by
      unfold PpsDriver.holds
      simp only [hother d hd]
      rfl
    rw [seenBy_other (Ne.symm hd) hevents, hholds]
    rfl

theorem PpsDriver.Sound.rebound {bound : List Nat} (h : s.Sound left) (hnodup : bound.Nodup)
    (hregistered : s.registered = true) : { s with bound := bound }.Sound left := by
  constructor
  · exact hnodup
  · intro hnot
    exact absurd (hregistered.symm.trans hnot) Bool.true_eq_false.mp
  · exact h.nodup
  · exact h.classes

theorem probe_sound {dev : Nat} (h : s.Sound left) (env : ProbeEnv) (hnew : dev ∉ s.bound)
    (hregistered : s.registered = true) :
    let s' := if (zmuavPl2psIrqProbe dev env).1 = 0 then { s with bound := dev :: s.bound } else s
    s'.Sound left ∧ Replays s s' left left (zmuavPl2psIrqProbe dev env).2 := by
  obtain ⟨hevents, hret⟩ := probe_eq_attempt dev env
  have hreplay := replay_attempt env.grants (deviceResources dev) (s.ownClass ++ left) (h.fresh dev)
  have hbefore : s.holds dev ++ left = s.ownClass ++ left := by
    rw [s.holds_append, if_neg hnew, List.nil_append]
  dsimp only
  by_cases hzero : (zmuavPl2psIrqProbe dev env).1 = 0
  · rw [if_pos (hret.mp hzero)] at hreplay
    rw [if_pos hzero]
    refine ⟨h.rebound (List.nodup_cons.mpr ⟨hnew, h.nodup_bound⟩) hregistered, ?_⟩
    apply replays_device fun _ => resource_mem_probe
    · rw [hbefore, hevents, hreplay, PpsDriver.holds_append, if_pos List.mem_cons_self]
      rfl
    · intro d hd
      rw [List.mem_cons, or_iff_right hd]
  · rw [if_neg fun hok => hzero (hret.mpr hok)] at hreplay
    rw [if_neg hzero]
    refine ⟨h, replays_device (fun _ => resource_mem_probe) ?_ fun _ _ => Iff.rfl⟩
    rw [hbefore, hevents, hreplay]

theorem remove_sound {dev : Nat} (h : s.Sound left) (hbound : dev ∈ s.bound) :
    let s' := { s with bound := s.bound.erase dev }
    s'.Sound left ∧ Replays s s' left left (zmuavPl2psIrqRemove dev) := by
  have hregistered : s.registered = true := by
    by_contra hnot
    rw [h.bound (Bool.eq_false_iff.mpr hnot)] at hbound
    cases hbound
  refine ⟨h.rebound (h.nodup_bound.erase dev) hregistered, ?_⟩
  apply replays_device fun _ => resource_mem_remove
  · rw [PpsDriver.holds_append, PpsDriver.holds_append, if_pos hbound,
      if_neg h.nodup_bound.not_mem_erase, remove_eq_releaseAll]
    exact replay_releaseAll _ _
  · intro d hd
    exact List.mem_erase_of_ne hd

theorem exit_sound (h : s.Sound left) (hregistered : s.registered = true) :
    let s' := { s with registered := false, bound := [] }
    s'.Sound left ∧ Replays s s' left left (zmuavPl2psIrqExit (s.loads - 1) s.bound) := by
  have hown : s.ownClass = [.driverClass (s.loads - 1)] := if_pos hregistered
  constructor
  · constructor
    · exact List.nodup_nil
    · exact fun _ => rfl
    · exact h.nodup.of_append_right
    · exact fun resource hresource => h.classes resource (List.mem_append_right _ hresource)
  intro dev
  rw [zmuavPl2psIrqExit, seenBy_append, seenBy_removeAll h.nodup_bound, PpsDriver.holds_append,
    hown]
  by_cases hdev : dev ∈ s.bound
  · rw [if_pos hdev, if_pos hdev, remove_eq_releaseAll, replay_append (replay_releaseAll _ _)]
    exact replay_released _ left
  · rw [if_neg hdev, if_neg hdev]
    exact replay_released _ left

-- A class is newer than all before it; the driver has it, or it is left behind.
theorem newClass_sound {s' : PpsDriver} {left' : List DriverResource} (h : s.Sound left)
    (hregistered : s.registered = false) (hloads : s'.loads = s.loads + 1)
    (hbound : s'.bound = s.bound)
    (hclasses : s'.ownClass ++ left' = .driverClass s.loads :: left) :
    s'.Sound left' ∧ Replays s s' left left' [.acquired (.driverClass s.loads)] := by
  have hnobound := h.bound hregistered
  have hown : s.ownClass = [] := if_neg (by rw [hregistered]; exact Bool.false_ne_true)
  have holder := h.classes
  have hnodup := h.nodup
  rw [hown, List.nil_append] at holder hnodup
  have hnew : .driverClass s.loads ∉ left := by
    intro hmem
    obtain ⟨load, hload, hlt⟩ := holder _ hmem
    rw [DriverResource.driverClass.injEq] at hload
    omega
  constructor
  · constructor
    · rw [hbound]
      exact h.nodup_bound
    · exact fun _ => hbound.trans hnobound
    · rw [hclasses]
      exact List.nodup_cons.mpr ⟨hnew, hnodup⟩
    · intro resource hresource
      rw [hclasses] at hresource
      rw [hloads]
      rcases List.mem_cons.mp hresource with rfl | hold
      · exact ⟨s.loads, rfl, Nat.lt_succ_self _⟩
      · obtain ⟨load, hload, hlt⟩ := holder resource hold
        exact ⟨load, hload, Nat.lt_succ_of_lt hlt⟩
  · intro dev
    rw [PpsDriver.holds_append, PpsDriver.holds_append, hclasses, hbound, hnobound, hown,
      if_neg List.not_mem_nil]
    exact replay_acquired hnew

theorem init_sound (h : s.Sound left) (hregistered : s.registered = false)
    (classCreate register : Int) :
    let r := driverStep s (.init classCreate register)
    ∃ left', r.2.Sound left' ∧ Replays s r.2 left left' r.1.2 ∧
      left'.length = left.length +
        if leavesClass (.init classCreate register) r.1.1 then 1 else 0 := by
  have hstep : driverStep s (.init classCreate register) = _ :=
    if_neg (by rw [hregistered]; exact Bool.false_ne_true)
  rw [hstep]
  unfold zmuavPl2psIrqInit leavesClass
  by_cases hclass : classCreate < 0
  · have hsame : { s with registered := decide (0 ≤ classCreate) } = s := by
      rw [decide_eq_false (by omega), ← hregistered]
    simp only [if_pos hclass, hsame]
    refine ⟨left, h, replays_nil s left, ?_⟩
    rw [if_neg (by rw [decide_eq_true_iff]; omega)]
    rfl
  · simp only [if_neg hclass]
    by_cases hfails : register < 0
    · obtain ⟨hsound, hreplays⟩ := @newClass_sound s left
        { s with loads := s.loads + 1, registered := decide (0 ≤ register) }
        (.driverClass s.loads :: left) h hregistered rfl rfl (by
          rw [PpsDriver.ownClass, if_neg (by rw [decide_eq_true_iff]; omega)]
          rfl)
      refine ⟨_, hsound, hreplays, ?_⟩
      rw [if_pos (by rw [decide_eq_true_iff]; omega), List.length_cons]
    · obtain ⟨hsound, hreplays⟩ := @newClass_sound s left
        { s with loads := s.loads + 1, registered := decide (0 ≤ register) } left
        h hregistered rfl rfl (by
          rw [PpsDriver.ownClass, if_pos (by rw [decide_eq_true_iff]; omega)]
          rfl)
      refine ⟨_, hsound, hreplays, ?_⟩
      rw [if_neg (by rw [decide_eq_true_iff]; omega)]
      rfl

theorem driverStep_sound (h : s.Sound left) (call : DriverCall) :
    let r := driverStep s call
    ∃ left', r.2.Sound left' ∧ Replays s r.2 left left' r.1.2 ∧
      left'.length = left.length + if leavesClass call r.1.1 then 1 else 0 := by
  have hstays : ∃ left', s.Sound left' ∧ Replays s s left left' [] ∧
      left'.length = left.length + if false then 1 else 0 := ⟨left, h, replays_nil s left, rfl⟩
  cases call with
  | init classCreate register =>
      cases hregistered : s.registered with
      | false => exact init_sound h hregistered classCreate register
      | true =>
          have hstep : driverStep s (.init classCreate register) = ((none, []), s) :=
            if_pos hregistered
          rw [hstep]
          exact hstays
  | probe dev env =>
      by_cases hmade : s.registered = true ∧ dev ∉ s.bound
      · obtain ⟨hsound, hreplays⟩ := probe_sound h env hmade.2 hmade.1
        have hstep : driverStep s (.probe dev env) = _ := if_pos hmade
        rw [hstep]
        exact ⟨left, hsound, hreplays, rfl⟩
      · have hstep : driverStep s (.probe dev env) = ((none, []), s) := if_neg hmade
        rw [hstep]
        exact hstays
  | remove dev =>
      by_cases hbound : dev ∈ s.bound
      · obtain ⟨hsound, hreplays⟩ := remove_sound h hbound
        have hstep : driverStep s (.remove dev) = _ := if_pos hbound
        rw [hstep]
        exact ⟨left, hsound, hreplays, rfl⟩
      · have hstep : driverStep s (.remove dev) = ((none, []), s) := if_neg hbound
        rw [hstep]
        exact hstays
  | exit =>
      by_cases hregistered : s.registered = true
      · obtain ⟨hsound, hreplays⟩ := exit_sound h hregistered
        have hstep : driverStep s .exit = _ := if_pos hregistered
        rw [hstep]
        exact ⟨left, hsound, hreplays, rfl⟩
      · have hstep : driverStep s .exit = ((none, []), s) := if_neg hregistered
        rw [hstep]
        exact hstays

theorem run_sound (calls : List DriverCall) (h : s.Sound left) :
    let r := Transducer.run driverStep calls s
    ∃ left', r.2.Sound left' ∧ Replays s r.2 left left' (r.1.flatMap Prod.snd) ∧
      left'.length = left.length +
        (calls.zip (r.1.map Prod.fst)).countP fun c => leavesClass c.1 c.2 := by
  induction calls generalizing s left with
  | nil => exact ⟨left, h, replays_nil s left, rfl⟩
  | cons call calls ih =>
      obtain ⟨mid, hmid, hreplays, hlength⟩ := driverStep_sound h call
      obtain ⟨left', hleft', hrest, hlength'⟩ := ih hmid
      refine ⟨left', hleft', ?_, ?_⟩
      · intro dev
        rw [Transducer.run, List.flatMap_cons, seenBy_append, replay_append (hreplays dev)]
        exact hrest dev
      · rw [hlength', hlength, Transducer.run, List.map_cons, List.zip_cons_cons, List.countP_cons]
        dsimp only
        omega

end Sound

/-- **What the PPS driver holds.**  Over any run, with any failures, the driver acquires and
    releases what a device sees in the order of a stack.  It ends with every resource of the devices
    it is bound to and none of the others, above the class of the loaded module and one class for
    every load that failed in `platform_driver_register`. -/
theorem driver_holds (calls : List DriverCall) :
    let r := Transducer.run driverStep calls .unloaded
    ∃ left : List DriverResource,
      (∀ dev, replay (seenBy dev (r.1.flatMap Prod.snd)) [] = some (r.2.holds dev ++ left)) ∧
      (∀ resource ∈ left, ∃ load, resource = .driverClass load) ∧
      left.length = (calls.zip (r.1.map Prod.fst)).countP (fun c => leavesClass c.1 c.2) ∧
      (r.2.registered = false → ∀ dev, r.2.holds dev = []) := by
  intro r
  have hsound : PpsDriver.unloaded.Sound [] :=
    ⟨List.nodup_nil, fun _ => rfl, List.nodup_nil, List.forall_mem_nil _⟩
  obtain ⟨left, hleft, hreplays, hlength⟩ := run_sound calls hsound
  refine ⟨left, hreplays, ?_, ?_, ?_⟩
  · intro resource hresource
    obtain ⟨load, hload, _⟩ := hleft.classes resource (List.mem_append_right _ hresource)
    exact ⟨load, hload⟩
  · rw [hlength, List.length_nil, Nat.zero_add]
  · intro hregistered dev
    rw [PpsDriver.holds, hleft.bound hregistered, if_neg List.not_mem_nil, PpsDriver.ownClass,
      if_neg (by rw [hregistered]; exact Bool.false_ne_true)]
    rfl

end CanGateway
