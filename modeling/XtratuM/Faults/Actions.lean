import XtratuM.Faults.EventLogs

/-! What one event does on a system that an accepted configuration describes: `HmRaiseEvent`
returns, and the action of the event alone decides whether the system goes on.
-/

namespace XtratuM.Faults

open XtratuM.Objects (LogState LogOp XmHmLog hmEvent WellFormed hmLogRecord logStreamInsert
  logStreamCommit_ctrl logStreamInsert_refines HMLOG_OPCODE_SYS_MASK)
open XtratuM.Parser (HmAction HmEventId HmTab HmDocument HmTables AllPermitted Permits
  XM_HM_MAX_EVENTS hmPartEventsAndActions hmHpvEventsAndActions hmEvents readHealthMonitor)
open XtratuM.Hypercalls (Caller halt haltPartition resetPartition resetKThread suspend setOpMode)
open XtratuM.Irqs (KTHREAD_TRAP_PENDING_F)

-----------------------------------------------------------------------------------------
-- Configurations

/-- There is a plan 1 to switch to. -/
structure MaintenancePlan (cfg : Config) : Prop where
  defined : 1 < cfg.sched.noSchedCyclicPlans
  plan : ∃ plan, cfg.sched.plan (.tab (cfg.sched.schedCyclicPlansOffset + 1)) = .ok plan

/-- The tables are those the parser makes of a document, and the plans of this processor are in the
table and as many as it counted for one of the processors. A plan need not have a major frame.
-/
structure Configured (cfg : Config) (doc : HmDocument) : Prop where
  tables : ∃ tables, readHealthMonitor doc = .ok tables ∧ tables.hpv = cfg.hpvHmTab
    ∧ ∀ p, p < cfg.calls.noPartitions → tables.partitions[p.toNat]? = some (cfg.partHmTab p)
  counted : cfg.sched.noSchedCyclicPlans ∈ doc.cyclicPlans
  plans : ∀ i < cfg.sched.noSchedCyclicPlans,
    ∃ plan, cfg.sched.plan (.tab (cfg.sched.schedCyclicPlansOffset + i)) = .ok plan
  small : Small cfg

/-- A table asks for what its events permit, and for a plan only if there is one. -/
structure Usable (cfg : Config) (eventsAndActions : HmEventId → XmU32) (tab : HmTab) : Prop where
  permitted : AllPermitted eventsAndActions tab
  maintenance : ∀ event, (tab event).action = .switchToMaintenance → MaintenancePlan cfg

theorem maintenance_of_action {tab : HmTab} {event : HmEventId}
    (switches : (tab event).action = .switchToMaintenance)
    : tab.maintenance = true :=
  List.any_eq_true.mpr ⟨event, List.mem_finRange event, beq_iff_eq.mpr switches⟩

section

variable {cfg : Config} {doc : HmDocument}

theorem Configured.maintenancePlan (configured : Configured cfg doc)
    (enough : 2 ≤ cfg.sched.noSchedCyclicPlans)
    : MaintenancePlan cfg :=
  ⟨enough, configured.plans 1 enough⟩

theorem Configured.hpv (configured : Configured cfg doc)
    : Usable cfg hmHpvEventsAndActions cfg.hpvHmTab := by
  obtain ⟨tables, accepted, hpv, -⟩ := configured.tables
  have describes := Parser.readHealthMonitor_describes accepted
  rw [← hpv]
  refine ⟨describes.hpv_permitted, fun event switches => ?_⟩
  have asks := maintenance_of_action switches
  exact configured.maintenancePlan
    (describes.maintenance (by rw [asks]; rfl) _ configured.counted)

theorem Configured.part (configured : Configured cfg doc) {p : XmU32}
    (inside : p < cfg.calls.noPartitions)
    : Usable cfg hmPartEventsAndActions (cfg.partHmTab p) := by
  obtain ⟨tables, accepted, -, partitions⟩ := configured.tables
  have describes := Parser.readHealthMonitor_describes accepted
  have member := List.mem_of_getElem? (partitions p inside)
  refine ⟨describes.part_permitted member, fun event switches => ?_⟩
  have asks : tables.partitions.any HmTab.maintenance = true :=
    List.any_eq_true.mpr ⟨_, member, maintenance_of_action switches⟩
  exact configured.maintenancePlan
    (describes.maintenance (by rw [asks, Bool.or_true]) _ configured.counted)

end

/-- An internal error of the hypervisor ends the system. -/
theorem hpv_internalError {action : HmAction} (permitted : Permits hmHpvEventsAndActions 0 action)
    : action = .hypervisorColdReset ∨ action = .hypervisorWarmReset
      ∨ action = .hypervisorHalt := by
  cases action <;> first | exact absurd permitted (by decide) | simp

theorem part_internalError {action : HmAction}
    (permitted : Permits hmPartEventsAndActions 0 action)
    : action = .partitionHalt ∨ action = .hypervisorHalt := by
  cases action <;> first | exact absurd permitted (by decide) | simp

-----------------------------------------------------------------------------------------
-- States

/-- The log takes records, or drops them all for want of a device. -/
def Writable (stream : LogState XmHmLog) : Prop :=
  stream.stream.info.maxNoElem = 0 ∨ ∃ capacity, WellFormed capacity stream

/-- What every handler finds and leaves. -/
structure Sane (cfg : Config) (s : State) : Prop where
  hmInit : s.hmInit = true
  log : Writable s.hmLogStream
  plan : ∀ plan, s.cyclic.current = some plan → ∃ entry, cfg.sched.plan plan = .ok entry
  traps : ∀ p v, areKThreadFlagsSet (s.parts.kThread p v) KTHREAD_TRAP_PENDING_F = false

/-- A sane state of a system that has not been stopped. -/
structure Live (cfg : Config) (s : State) : Prop extends Sane cfg s where
  running : s.power = .running

/-- What a handler comes to. Control comes back to it only while the system runs. -/
structure Handled {α : Type} (cfg : Config) (stops : Prop) (out : Result α) : Prop where
  sane : Sane cfg out.2
  stops : out.2.power ≠ .running ↔ stops
  back : out.1 ≠ none → out.2.power = .running

/-- A handler returns, and the system stops exactly if `stops`. -/
def Handles {α : Type} (cfg : Config) (stops : Prop) (out : Except Stop (Result α)) : Prop :=
  ∃ result, out = .ok result ∧ Handled cfg stops result

theorem Handled.goesOn {α : Type} {cfg : Config} {s : State} {stops : Prop} (result : Option α)
    (live : Live cfg s) (never : ¬ stops)
    : Handled cfg stops (result, s) :=
  ⟨live.toSane, iff_of_false (not_not.mpr live.running) never, fun _ => live.running⟩

theorem Handled.ends {α : Type} {cfg : Config} {s : State} {stops : Prop}
    (sane : Sane cfg s) (off : s.power ≠ .running) (always : stops)
    : Handled cfg stops ((none, s) : Result α) :=
  ⟨sane, iff_of_true off always, fun answered => absurd rfl answered⟩

theorem Handled.live {α : Type} {cfg : Config} {stops : Prop} {out : Result α}
    (handled : Handled cfg stops out) (back : out.1 ≠ none)
    : Live cfg out.2 :=
  ⟨handled.sane, handled.back back⟩

theorem Handled.congr {α : Type} {cfg : Config} {stops stops' : Prop} {out : Result α}
    (handled : Handled cfg stops out) (same : stops ↔ stops')
    : Handled cfg stops' out :=
  ⟨handled.sane, handled.stops.trans same, handled.back⟩

/-- What is left of a result without its value. -/
theorem Handled.map {α β : Type} {cfg : Config} {stops : Prop} {out : Result α}
    (handled : Handled cfg stops out) (f : α → β)
    : Handled cfg stops (out.1.map f, out.2) :=
  ⟨handled.sane, handled.stops, fun back => handled.back fun noRoom => back (by simp [noRoom])⟩

section

variable {cfg : Config} {s : State}

/-- A change of kthreads that leaves the pending traps alone. -/
theorem Live.change (live : Live cfg s) {change : KThread → KThread}
    (keeps : ∀ k, areKThreadFlagsSet (change k) KTHREAD_TRAP_PENDING_F
      = areKThreadFlagsSet k KTHREAD_TRAP_PENDING_F)
    (partitionId : XmU32) (vCpus : List XmU32)
    : Live cfg { s with parts := s.parts.change partitionId vCpus change } where
  hmInit := live.hmInit
  log := live.log
  plan := live.plan
  traps := by
    intro p v
    unfold Hypercalls.State.change
    dsimp only
    split
    · rw [keeps, live.traps]
    · exact live.traps p v
  running := live.running

theorem Live.opMode (live : Live cfg s) (partitionId : XmU32) (opMode : OpMode)
    : Live cfg { s with parts := s.parts.setOpMode partitionId opMode } where
  hmInit := live.hmInit
  log := live.log
  plan := live.plan
  traps := live.traps
  running := live.running

end

/-- Flags other than the pending trap. -/
theorem setKThreadFlags_trap {f : XmU32} (apart : f &&& KTHREAD_TRAP_PENDING_F = 0) (k : KThread)
    : areKThreadFlagsSet (setKThreadFlags k f) KTHREAD_TRAP_PENDING_F
      = areKThreadFlagsSet k KTHREAD_TRAP_PENDING_F := by
  rw [setKThreadFlags_areSet, apart]
  simp

theorem suspend_trap (k : KThread)
    : areKThreadFlagsSet (suspend k) KTHREAD_TRAP_PENDING_F
      = areKThreadFlagsSet k KTHREAD_TRAP_PENDING_F :=
  setKThreadFlags_trap (by decide) k

theorem halt_trap (k : KThread)
    : areKThreadFlagsSet (halt k) KTHREAD_TRAP_PENDING_F
      = areKThreadFlagsSet k KTHREAD_TRAP_PENDING_F :=
  setKThreadFlags_trap (by decide) k

theorem resetKThread_trap (opMode : OpMode) (k : KThread)
    : areKThreadFlagsSet (resetKThread (setOpMode k opMode)) KTHREAD_TRAP_PENDING_F
      = areKThreadFlagsSet k KTHREAD_TRAP_PENDING_F := by
  unfold resetKThread
  rw [clearKThreadFlags_areSet _ (by decide)]
  exact setKThreadFlags_trap (by decide) _

theorem setExtIrqPending_trap (irq : Nat) (k : KThread)
    : areKThreadFlagsSet (setExtIrqPending k irq) KTHREAD_TRAP_PENDING_F
      = areKThreadFlagsSet k KTHREAD_TRAP_PENDING_F := by
  unfold setExtIrqPending
  split
  · rfl
  · exact setKThreadFlags_trap (by decide) _

-----------------------------------------------------------------------------------------
-- Logs and plans

theorem Writable.insert {stream : LogState XmHmLog} (writable : Writable stream) (log : XmHmLog)
    : ∃ reply stream', (LogOp.insert log).run stream = .ok (reply, stream')
      ∧ Writable stream' := by
  rcases writable with noRoom | ⟨capacity, formed⟩
  · have nonneg : 0 ≤ stream.stream.info.maxNoElem := by rw [noRoom]
    have empty : ¬ stream.stream.info.maxNoElem ≠ 0 := not_not.mpr noRoom
    simp only [LogOp.run, LogOp.effect, logStreamInsert, assert_of nonneg, ok_bind, if_neg empty]
    refine ⟨_, _, rfl, Or.inl ?_⟩
    exact (logStreamCommit_ctrl (ρ := XmHmLog) stream.stream).2.1.trans noRoom
  · obtain ⟨stream', ran, formed', -⟩ := logStreamInsert_refines formed log
    exact ⟨_, stream', ran, Or.inr ⟨capacity, formed'⟩⟩

section

variable {cfg : Config} {s : State}

theorem logIf_returns (live : Live cfg s) (enabled : Bool) (now : BitVec 64) (log : XmHmLog)
    : ∃ s', logIf enabled now log s = .ok s' ∧ Live cfg s' ∧ s'.parts = s.parts := by
  cases enabled with
  | false => exact ⟨s, rfl, live, rfl⟩
  | true =>
      obtain ⟨record, recorded, -⟩ := Objects.LogRecord.sealed_halfWords
        { log with
          signature := Objects.XM_HMLOG_SIGNATURE
          timestamp := now
          opCodeH := log.opCodeH &&& ~~~Objects.HMLOG_OPCODE_SEQ_MASK
            ||| s.seq <<< Objects.HMLOG_OPCODE_SEQ_BIT }
      have stamped : hmLogRecord s.seq now log = .ok record := recorded
      obtain ⟨reply, stream, ran, writable⟩ := live.log.insert record
      simp only [logIf, if_true, logEvent, stamped, ok_bind, ran]
      exact ⟨_, rfl, ⟨⟨live.hmInit, writable, live.plan, live.traps⟩, live.running⟩, rfl⟩

/-- Another plan in force that can be read. -/
theorem Live.cyclic (live : Live cfg s) {cyclic : Sched.CyclicData}
    (readable : ∀ plan, cyclic.current = some plan → ∃ entry, cfg.sched.plan plan = .ok entry)
    : Live cfg { s with cyclic } where
  hmInit := live.hmInit
  log := live.log
  plan := readable
  traps := live.traps
  running := live.running

/-- A switch to the maintenance plan leaves the system running, in `IdleTask` or not. -/
theorem switchToMaintenance_returns (live : Live cfg s) (maintenance : MaintenancePlan cfg)
    (c : Circumstances)
    : ∃ result s', switchToMaintenance cfg c s = .ok (result, s') ∧ Live cfg s'
      ∧ result ≠ some true := by
  obtain ⟨plan, found⟩ := maintenance.plan
  have old : ∃ old, Sched.currentPlanId cfg.sched s.cyclic = .ok old := by
    unfold Sched.currentPlanId
    split
    · next current known =>
        obtain ⟨entry, read⟩ := live.plan current known
        rw [read]
        exact ⟨_, rfl⟩
    · exact ⟨_, rfl⟩
  obtain ⟨old, read⟩ := old
  simp only [switchToMaintenance, Sched.switchSchedPlan, read, ok_bind,
    if_pos maintenance.defined, pure_bind, Sched.makePlanSwitch, found]
  have installed : ∀ current,
      some (Sched.PlanRef.tab (cfg.sched.schedCyclicPlansOffset + 1)) = some current →
        ∃ entry, cfg.sched.plan current = .ok entry := by
    intro current here
    cases here
    exact ⟨plan, found⟩
  by_cases same : s.cyclic.current = some (.tab (cfg.sched.schedCyclicPlansOffset + 1))
  · rw [if_pos same]
    refine ⟨_, _, rfl, live.cyclic live.plan, ?_⟩
    split <;> simp
  · rw [if_neg same]
    by_cases idle : plan.majorFrame = 0
    · rw [if_pos idle]
      exact ⟨none, _, rfl, live.cyclic installed, by simp⟩
    · rw [if_neg idle]
      refine ⟨_, _, rfl, live.cyclic installed, ?_⟩
      split <;> simp

end

end XtratuM.Faults
