import XtratuM.Faults.Actions

/-! Events and panics on a system that an accepted configuration describes: no panic follows on
a panic, and a partition that panics takes the system along only where its table says so or its
halted vCPU would go on running.
-/

namespace XtratuM.Faults

open XtratuM.Objects (XmHmLog hmEvent HMLOG_OPCODE_SYS_MASK)
open XtratuM.Parser (HmAction HmEventId HmTab HmDocument XM_HM_MAX_EVENTS)
open XtratuM.Hypercalls (Caller)

-----------------------------------------------------------------------------------------
-- What stops the system

/-- The actions on a partition that reach beyond it. -/
def EndsSystem (action : HmAction) : Prop :=
  action = .hypervisorColdReset ∨ action = .hypervisorWarmReset ∨ action = .hypervisorHalt

/-- For an event of the hypervisor the actions on a partition are unknown, and a panic. -/
def EndsHypervisor (action : HmAction) : Prop :=
  action ≠ .ignore ∧ action ≠ .switchToMaintenance

/-- The action of an event that exists. -/
def actionOf (tab : HmTab) (event : XmU32) : Option HmAction :=
  if known : event.toNat < XM_HM_MAX_EVENTS then
    some (tab ⟨event.toNat, known⟩).action
  else
    none

/-- A partition that panics takes the system along if the halted vCPU goes on running. -/
def PanicStops (cfg : Config) (c : Circumstances) : Prop :=
  match c.current with
  | none => True
  | some k =>
      c.deferred = true
        ∨ actionOf (cfg.partHmTab k.partitionId) XM_HM_EV_INTERNAL_ERROR = some .hypervisorHalt

theorem actionOf_internalError (tab : HmTab)
    : actionOf tab XM_HM_EV_INTERNAL_ERROR = some (tab 0).action :=
  rfl

-----------------------------------------------------------------------------------------
-- Panics and events

section

variable {cfg : Config} {doc : HmDocument} {c : Circumstances} {s : State}

theorem Live.halts (live : Live cfg s) : Sane cfg (haltSystem s) :=
  ⟨live.hmInit, live.log, live.plan, live.traps⟩

theorem Live.resets (live : Live cfg s) (resetMode eventId : XmU32)
    : Sane cfg (resetSystem resetMode eventId s) :=
  ⟨live.hmInit, live.log, live.plan, live.traps⟩

/-- An event of the hypervisor acts as its table says. -/
theorem hmRaiseEvent_system {log : XmHmLog} (live : Live cfg s)
    (system : (hmEvent log).system = true) {event : HmEventId}
    (read : (hmEvent log).eventId.toNat = event.val) (depth : Nat)
    : ∃ logged, Live cfg logged
      ∧ hmRaiseEvent cfg c (depth + 1) log s
        = hpvAction cfg (hmRaiseEvent cfg c depth) c (hmEvent log).eventId
            (cfg.hpvHmTab event).action logged := by
  have known : (hmEvent log).eventId.toNat < XM_HM_MAX_EVENTS := read ▸ event.isLt
  have same : (⟨(hmEvent log).eventId.toNat, known⟩ : HmEventId) = event := Fin.ext read
  obtain ⟨logged, wrote, stillLive, -⟩ :=
    logIf_returns live (cfg.hpvHmTab event).log c.now log
  refine ⟨logged, stillLive, ?_⟩
  rw [hmRaiseEvent]
  simp only [live.hmInit, Bool.not_true, Bool.false_eq_true, if_false, dif_pos known, system,
    if_true, same, wrote, ok_bind]

/-- An event of a partition acts as the table of the partition says. -/
theorem hmRaiseEvent_partition {log : XmHmLog} (live : Live cfg s)
    (system : (hmEvent log).system = false) {event : HmEventId}
    (read : (hmEvent log).eventId.toNat = event.val) {p : XmU32}
    (owner : (hmEvent log).partitionId = p) (inside : p < cfg.calls.noPartitions) (depth : Nat)
    : ∃ logged, Live cfg logged ∧ logged.parts = s.parts
      ∧ hmRaiseEvent cfg c (depth + 1) log s
        = partAction cfg (hmRaiseEvent cfg c depth) c p (hmEvent log).eventId
            (cfg.partHmTab p event).action logged := by
  have known : (hmEvent log).eventId.toNat < XM_HM_MAX_EVENTS := read ▸ event.isLt
  have same : (⟨(hmEvent log).eventId.toNat, known⟩ : HmEventId) = event := Fin.ext read
  have table : cfg.partTab p = .ok (cfg.partHmTab p) := if_pos inside
  obtain ⟨logged, wrote, stillLive, parts⟩ :=
    logIf_returns live (cfg.partHmTab p event).log c.now log
  refine ⟨logged, stillLive, parts, ?_⟩
  rw [hmRaiseEvent]
  simp only [live.hmInit, Bool.not_true, Bool.false_eq_true, if_false, dif_pos known, system,
    owner, table, same, wrote, ok_bind]

/-- `SystemPanic` ends the system, by the table or by itself; no panic follows on it. -/
theorem systemPanic_ends (configured : Configured cfg doc)
    (inside : ∀ k, c.current = some k → Inside cfg k) (live : Live cfg s) (depth : Nat)
    {α : Type} {stops : Prop} (always : stops)
    : Handles (α := α) cfg stops (systemPanic (hmRaiseEvent cfg c (depth + 1)) c s) := by
  have event := panicLog_event inside configured.small HMLOG_OPCODE_SYS_MASK
  have read : (hmEvent (panicLog c HMLOG_OPCODE_SYS_MASK)).eventId.toNat = (0 : HmEventId).val := by
    rw [event]
    rfl
  obtain ⟨logged, stillLive, raised⟩ :=
    hmRaiseEvent_system (c := c) live (panicLog_system c) read depth
  have permitted := configured.hpv.permitted.permitted 0 (by decide)
  unfold systemPanic
  rw [raised]
  rcases hpv_internalError permitted with cold | warm | halt
  · rw [cold]
    exact ⟨_, rfl, Handled.ends (stillLive.resets _ _) (by simp [resetSystem]) always⟩
  · rw [warm]
    exact ⟨_, rfl, Handled.ends (stillLive.resets _ _) (by simp [resetSystem]) always⟩
  · rw [halt]
    exact ⟨_, rfl, Handled.ends stillLive.halts (by simp [haltSystem]) always⟩

/-- An event that does not exist is a panic. -/
theorem hmRaiseEvent_unknown (configured : Configured cfg doc)
    (inside : ∀ k, c.current = some k → Inside cfg k) (live : Live cfg s) {log : XmHmLog}
    (unknown : ¬ (hmEvent log).eventId.toNat < XM_HM_MAX_EVENTS) {stops : Prop} (always : stops)
    : Handles cfg stops (raiseEvent cfg c log s) := by
  rw [raiseEvent, panicDepth, hmRaiseEvent]
  simp only [live.hmInit, Bool.not_true, Bool.false_eq_true, if_false, dif_neg unknown]
  exact systemPanic_ends configured inside live 0 always

theorem hpvAction_handled (configured : Configured cfg doc)
    (inside : ∀ k, c.current = some k → Inside cfg k) (live : Live cfg s) (eventId : XmU32)
    {action : HmAction} (maintenance : action = .switchToMaintenance → MaintenancePlan cfg)
    (depth : Nat)
    : Handles cfg (EndsHypervisor action)
        (hpvAction cfg (hmRaiseEvent cfg c (depth + 1)) c eventId action s) := by
  cases action with
  | ignore => exact ⟨_, rfl, Handled.goesOn _ live (by simp [EndsHypervisor])⟩
  | switchToMaintenance =>
      obtain ⟨result, switched, ran, stillLive, -⟩ :=
        switchToMaintenance_returns live (maintenance rfl) c
      exact ⟨_, ran, Handled.goesOn result stillLive (by simp [EndsHypervisor])⟩
  | hypervisorColdReset =>
      exact ⟨_, rfl, Handled.ends (live.resets _ _) (by simp [resetSystem])
        (by simp [EndsHypervisor])⟩
  | hypervisorWarmReset =>
      exact ⟨_, rfl, Handled.ends (live.resets _ _) (by simp [resetSystem])
        (by simp [EndsHypervisor])⟩
  | hypervisorHalt =>
      exact ⟨_, rfl, Handled.ends live.halts (by simp [haltSystem]) (by simp [EndsHypervisor])⟩
  | shutdown => exact systemPanic_ends configured inside live depth (by simp [EndsHypervisor])
  | partitionColdReset =>
      exact systemPanic_ends configured inside live depth (by simp [EndsHypervisor])
  | partitionWarmReset =>
      exact systemPanic_ends configured inside live depth (by simp [EndsHypervisor])
  | suspend => exact systemPanic_ends configured inside live depth (by simp [EndsHypervisor])
  | partitionHalt =>
      exact systemPanic_ends configured inside live depth (by simp [EndsHypervisor])
  | propagate => exact systemPanic_ends configured inside live depth (by simp [EndsHypervisor])

theorem Live.haltPartition (live : Live cfg s) (p : XmU32)
    : Live cfg (haltAll cfg p s) :=
  (live.change halt_trap p (cfg.calls.vCpus p)).opMode p .idle

theorem resetOrHalt_handled (live : Live cfg s) (p : XmU32) (opMode : OpMode) {stops : Prop}
    (never : ¬ stops)
    : ∃ result, resetOrHalt cfg c p opMode s = .ok result ∧ Handled cfg stops result
      ∧ result.1 ≠ some true := by
  have halted := live.haltPartition p
  cases valid : c.valid with
  | false =>
      simp only [resetOrHalt, Hypercalls.resetPartition, valid, Bool.not_false, if_true]
      refine ⟨_, rfl, Handled.goesOn _ (halted.haltPartition p) never, ?_⟩
      split <;> simp
  | true =>
      have reset := (halted.opMode p opMode).change (resetKThread_trap opMode) p [0]
      simp only [resetOrHalt, Hypercalls.resetPartition, valid, Bool.not_true, Bool.false_eq_true,
        if_false]
      split
      · exact ⟨_, rfl, Handled.goesOn _ reset never, by simp⟩
      · refine ⟨_, rfl, Handled.goesOn _ reset never, ?_⟩
        split <;> simp

/-- What an event of a partition comes to; a panic would need an event of the hypervisor. -/
theorem partAction_handled (live : Live cfg s) {p : XmU32} (part : p ≠ XM_HYPERVISOR_ID)
    (eventId : XmU32) {action : HmAction}
    (maintenance : action = .switchToMaintenance → MaintenancePlan cfg) (raise : Raise)
    : ∃ result, partAction cfg raise c p eventId action s = .ok result
      ∧ Handled cfg (EndsSystem action) result
      ∧ (result.1 = some true ↔ action = .propagate) ∧ (action = .propagate → result.2 = s) := by
  have scheduled : ∀ state, (if schedule c state then some false else none) ≠ some true := by
    intro state
    split <;> simp
  cases action with
  | ignore => exact ⟨_, rfl, Handled.goesOn _ live (by simp [EndsSystem]), by simp, by simp⟩
  | propagate => exact ⟨_, rfl, Handled.goesOn _ live (by simp [EndsSystem]), by simp, by simp⟩
  | shutdown =>
      have changed := live.change (setExtIrqPending_trap XM_VT_EXT_SHUTDOWN) p (cfg.calls.vCpus p)
      exact ⟨_, rfl, Handled.goesOn _ changed (by simp [EndsSystem]), by simp, by simp⟩
  | partitionColdReset =>
      have never : ¬ EndsSystem .partitionColdReset := by simp [EndsSystem]
      obtain ⟨result, ran, handled, other⟩ :=
        resetOrHalt_handled (c := c) live p .coldReset never
      exact ⟨result, ran, handled, by simpa using other, by simp⟩
  | partitionWarmReset =>
      have never : ¬ EndsSystem .partitionWarmReset := by simp [EndsSystem]
      obtain ⟨result, ran, handled, other⟩ :=
        resetOrHalt_handled (c := c) live p .warmReset never
      exact ⟨result, ran, handled, by simpa using other, by simp⟩
  | hypervisorColdReset =>
      exact ⟨_, rfl, Handled.ends (live.resets _ _) (by simp [resetSystem]) (by simp [EndsSystem]),
        by simp, by simp⟩
  | hypervisorWarmReset =>
      exact ⟨_, rfl, Handled.ends (live.resets _ _) (by simp [resetSystem]) (by simp [EndsSystem]),
        by simp, by simp⟩
  | hypervisorHalt =>
      exact ⟨_, rfl, Handled.ends live.halts (by simp [haltSystem]) (by simp [EndsSystem]),
        by simp, by simp⟩
  | suspend =>
      have changed := live.change suspend_trap p (cfg.calls.vCpus p)
      rw [partAction, if_neg part]
      exact ⟨_, rfl, Handled.goesOn _ changed (by simp [EndsSystem]),
        iff_of_false (scheduled _) (by simp), by simp⟩
  | partitionHalt =>
      rw [partAction, if_neg part]
      exact ⟨_, rfl, Handled.goesOn _ (live.haltPartition p) (by simp [EndsSystem]),
        iff_of_false (scheduled _) (by simp), by simp⟩
  | switchToMaintenance =>
      obtain ⟨result, switched, ran, stillLive, other⟩ :=
        switchToMaintenance_returns live (maintenance rfl) c
      exact ⟨_, ran, Handled.goesOn result stillLive (by simp [EndsSystem]),
        iff_of_false other (by simp), by simp⟩

theorem halt_notReady (k : KThread) : (Hypercalls.halt k).isReady = false := by
  have halted : areKThreadFlagsSet (Hypercalls.halt k) KTHREAD_HALTED_F = true := by
    have set : KTHREAD_HALTED_F &&& KTHREAD_HALTED_F != 0 := by decide
    exact (setKThreadFlags_areSet k KTHREAD_HALTED_F KTHREAD_HALTED_F).trans
      (by rw [set, Bool.or_true])
  simp [KThread.isReady, areKThreadFlagsSet_or, halted]

/-- A vCPU of a partition that is halted is not run again. -/
theorem schedule_halted {k : Caller} (current : c.current = some k) (inside : Inside cfg k)
    : schedule c (haltAll cfg k.partitionId s) = c.deferred := by
  have member := Hypercalls.Config.mem_vCpus.mpr inside.vCpuId
  have notReady : currentReady c (haltAll cfg k.partitionId s) = false := by
    simp only [currentReady, current, haltAll, Hypercalls.haltPartition,
      Hypercalls.State.setOpMode, Hypercalls.State.change, true_and, if_pos member]
    exact halt_notReady _
  simp [schedule, notReady]

/-- `PartitionPanic` stops a partition, or the system. -/
theorem partitionPanic_handled (configured : Configured cfg doc)
    (inside : ∀ k, c.current = some k → Inside cfg k) (live : Live cfg s) (depth : Nat)
    {α : Type}
    : Handles (α := α) cfg (PanicStops cfg c)
        (partitionPanic (hmRaiseEvent cfg c (depth + 1)) c s) := by
  cases current : c.current with
  | none =>
      have always : PanicStops cfg c := by simp [PanicStops, current]
      rw [partitionPanic, current]
      exact ⟨_, rfl, Handled.ends live.halts (by simp [haltSystem]) always⟩
  | some k =>
      have isInside := inside k current
      have read : (hmEvent (panicLog c 0)).eventId.toNat = (0 : HmEventId).val := by
        rw [panicLog_event inside configured.small]
        rfl
      obtain ⟨logged, stillLive, -, raised⟩ :=
        hmRaiseEvent_partition (c := c) live (panicLog_partition_event c) read
          (panicLog_partition current isInside configured.small 0) isInside.partitionId depth
      have permitted :=
        (configured.part isInside.partitionId).permitted.permitted 0 (by decide)
      have part : k.partitionId ≠ XM_HYPERVISOR_ID := isInside.partition configured.small
      simp only [partitionPanic, current, raised]
      rcases part_internalError permitted with halts | ends
      · have halted := stillLive.haltPartition k.partitionId
        simp only [halts, partAction, if_neg part, thenSchedule, schedule_halted current isInside,
          ok_bind]
        cases deferred : c.deferred with
        | true =>
            have always : PanicStops cfg c := by simp [PanicStops, current, deferred]
            have haltedCurrent := halted.change
              (setKThreadFlags_trap (f := KTHREAD_HALTED_F) (by decide)) k.partitionId [k.vCpuId]
            simp only [if_true, schedule, deferred, Bool.true_or]
            exact systemPanic_ends configured inside haltedCurrent depth always
        | false =>
            have never : ¬ PanicStops cfg c := by
              simp [PanicStops, current, deferred, halts, actionOf_internalError]
            exact ⟨_, rfl, Handled.goesOn _ halted never⟩
      · have always : PanicStops cfg c := by
          simp [PanicStops, current, ends, actionOf_internalError]
        rw [ends]
        exact ⟨_, rfl, Handled.ends stillLive.halts (by simp [haltSystem]) always⟩

end

end XtratuM.Faults
