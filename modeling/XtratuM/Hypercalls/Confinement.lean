import XtratuM.Guest.Access
import XtratuM.Hypercalls.LifeCycle
import XtratuM.Kernel.KTimer
import XtratuM.Sched.Maintenance

/-! The hypercalls with which a partition controls partitions, vCPUs, the plan and the system, with
the `Schedule` that some of them end in, and what they do to the other partitions when the caller is
not a system partition.
-/

namespace XtratuM.Control

open Reachability
open XtratuM.Guest
open XtratuM.Hypercalls
open XtratuM.Sched

/-- The configuration: that of the life-cycle calls, `xmcVCpuTab`, and for each processor whether it
is under `FP_SCHED`, its entries of `xmcFpSchedTab` and its cyclic plans.
-/
structure ControlConfig where
  calls : Hypercalls.Config
  noCpus : Nat
  cpu : XmU32 → XmU32 → Nat
  fpSched : Nat → Bool
  fpTab : Nat → List (XmU32 × XmU32)
  cyclic : Nat → Sched.Config

/-- The vCPUs with their clocks and timers, `hwIrqsPend` of their control tables,
`partitionTab[..].opMode`, the scheduler's data of each processor and the flags that `Schedule`
reads on this one.
-/
structure Kernel where
  vCpu : XmU32 → XmU32 → VCpu
  hwIrqsPend : XmU32 → XmU32 → XmU32
  opMode : XmU32 → OpMode
  cyclic : Nat → CyclicData
  idleKThread : KThread
  schedEnabled : Bool
  irqInProgress : Bool
  schedPending : Bool

/-- What `GetSysClockUsec` returns in the course of a `Schedule`. -/
structure Readings where
  chosen : Nat
  stopped : Int
  traversed : Int

/-- Changes some vCPUs of a partition. -/
def Kernel.change (s : Kernel) (partitionId : XmU32) (vCpus : List XmU32)
    (change : XmU32 → VCpu → VCpu) : Kernel :=
  { s with
    vCpu := fun p v =>
      if p = partitionId ∧ v ∈ vCpus then change v (s.vCpu p v) else s.vCpu p v }

def Kernel.setOpMode (s : Kernel) (partitionId : XmU32) (opMode : OpMode) : Kernel :=
  { s with opMode := fun p => if p = partitionId then opMode else s.opMode p }

def onKThread (change : KThread → KThread) (g : VCpu) : VCpu := { g with k := change g.k }

-----------------------------------------------------------------------------------------
-- Scheduling

def Kernel.kThreadTab (cfg : ControlConfig) (s : Kernel) : KThreadTab := fun p v =>
  if p < cfg.calls.noPartitions ∧ v < cfg.calls.noVCpus p then some (s.vCpu p v).k else none

/-- The vCPUs with the kthreads of a table. -/
def Kernel.withKThreads (s : Kernel) (tab : KThreadTab) : Kernel :=
  { s with
    vCpu := fun p v => { s.vCpu p v with k := (tab p v).getD (s.vCpu p v).k } }

/-- `GetReadyKThreadFP`. -/
def getReadyKThreadFP (tab : KThreadTab)
    : List (XmU32 × XmU32) → Except Stop (Option KThreadRef × KThreadTab)
  | [] => .ok (none, tab)
  | entry :: rest =>
      match tab entry.1 entry.2 with
      | none => .error .badAccess
      | some newK =>
          if newK.isReady then
            .ok (some (.vCpu entry.1 entry.2),
              tab.set entry.1 entry.2 (Hypercalls.setOpMode newK .normal))
          else
            getReadyKThreadFP tab rest

/-- `GetReadyKThread` of a processor. -/
def getReadyKThread (cfg : ControlConfig) (clock cpu : Nat) (s : Kernel)
    : Except Stop (Option KThreadRef × Kernel) :=
  if cfg.fpSched cpu then do
    let (newK, tab) ← getReadyKThreadFP (s.kThreadTab cfg) (cfg.fpTab cpu)
    pure (newK, s.withKThreads tab)
  else do
    let (newK, m) ← getReadyKThreadCyclic (cfg.cyclic cpu)
      { clock
        cyclic := s.cyclic cpu
        idleKThread := s.idleKThread
        kThreadTab := s.kThreadTab cfg }
    pure (newK,
      { s.withKThreads m.kThreadTab with
        cyclic := fun c => if c = cpu then m.cyclic else s.cyclic c })

/-- The switch of `Schedule` up to `CONTEXT_SWITCH`. The queue of a kthread's own timers is empty
under `FP_SCHED`.
-/
def switchKThread (cfg : ControlConfig) (now : Readings) (caller : Caller)
    (newK : Option KThreadRef) (s : Kernel) : Except Stop Kernel :=
  let stopped := s.change caller.partitionId [caller.vCpuId] fun _ g => stopVClock g now.stopped
  match newK with
  | some (.vCpu p v) =>
      if cfg.fpSched (cfg.cpu p v) then
        .ok stopped
      else do
        let (g, _) ← traverseKTimerQueue (stopped.vCpu p v) now.traversed
        pure (stopped.change p [v] fun _ _ => g)
  | _ => .ok stopped

/-- `Schedule` on the processor of the running vCPU, with the kthread that it selects. -/
def schedule (cfg : ControlConfig) (now : Readings) (caller : Caller) (s : Kernel)
    : Except Stop (Option KThreadRef × Kernel) :=
  if !s.schedEnabled then
    .ok (none, { s with schedPending := false })
  else if s.irqInProgress then
    .ok (none, { s with schedPending := true })
  else do
    let (newK, s) ← getReadyKThread cfg now.chosen (cfg.cpu caller.partitionId caller.vCpuId)
      { s with schedPending := false }
    if newK = some (.vCpu caller.partitionId caller.vCpuId) then
      pure (newK, s)
    else do
      let s ← switchKThread cfg now caller newK s
      pure (newK, s)

-----------------------------------------------------------------------------------------
-- What the calls do before they schedule

/-- A call's return code, none when control does not come back to the caller; the state it leaves,
and whether it goes on to `Schedule` with it.
-/
structure Act where
  ret : Option XmRet
  kernel : Kernel
  schedules : Bool

/-- A call that returns. -/
def Act.back (ret : XmRet) (kernel : Kernel) : Act := ⟨some ret, kernel, false⟩

/-- `HALT_VCPU`, and each round of `HALT_PARTITION`. -/
def haltVCpu (cfg : ControlConfig) (partitionId vCpuId : XmU32) (g : VCpu) : VCpu :=
  let halted := onKThread halt g
  if cfg.fpSched (cfg.cpu partitionId vCpuId) then
    { halted with
      kTimer := disarmKTimer halted.kTimer
      watchdogTimer := disarmKTimer halted.watchdogTimer }
  else
    halted

/-- `HALT_PARTITION`. -/
def haltPartition (cfg : ControlConfig) (partitionId : XmU32) (s : Kernel) : Kernel :=
  (s.change partitionId (cfg.calls.vCpus partitionId) (haltVCpu cfg partitionId)).setOpMode
    partitionId .idle

/-- `ResetKThread`, whose `SetupPct` zeroes the control table. -/
def resetVCpu (partitionId vCpuId : XmU32) (s : Kernel) : Kernel :=
  let reset := s.change partitionId [vCpuId] fun _ => onKThread resetKThread
  { reset with
    hwIrqsPend := fun p v =>
      if p = partitionId ∧ v = vCpuId then 0 else reset.hwIrqsPend p v }

/-- `SuspendVCpuSys`. -/
def suspendVCpuSys (cfg : ControlConfig) (caller : Caller) (vCpuId : XmU32) (s : Kernel) : Act :=
  if cfg.calls.noVCpus caller.partitionId ≤ vCpuId then
    .back .invalidParam s
  else if !areKThreadFlagsSet (s.vCpu caller.partitionId vCpuId).k
      (KTHREAD_SUSPENDED_F ||| KTHREAD_HALTED_F) then
    .back .noAction s
  else
    ⟨some .ok, s.change caller.partitionId [vCpuId] fun _ => onKThread suspend,
      vCpuId = caller.vCpuId⟩

/-- `ResumeVCpuSys`. -/
def resumeVCpuSys (cfg : ControlConfig) (caller : Caller) (vCpuId : XmU32) (s : Kernel) : Act :=
  if cfg.calls.noVCpus caller.partitionId ≤ vCpuId then
    .back .invalidParam s
  else if areKThreadFlagsSet (s.vCpu caller.partitionId vCpuId).k KTHREAD_SUSPENDED_F
      && !areKThreadFlagsSet (s.vCpu caller.partitionId vCpuId).k KTHREAD_HALTED_F then
    .back .noAction s
  else
    ⟨some .ok, s.change caller.partitionId [vCpuId] fun _ => onKThread resume,
      vCpuId = caller.vCpuId⟩

/-- `HaltVCpuSys`. -/
def haltVCpuSys (cfg : ControlConfig) (caller : Caller) (vCpuId : XmU32) (s : Kernel) : Act :=
  if cfg.calls.noVCpus caller.partitionId ≤ vCpuId then
    .back .invalidParam s
  else if areKThreadFlagsSet (s.vCpu caller.partitionId vCpuId).k KTHREAD_HALTED_F then
    .back .noAction s
  else
    ⟨some .ok, s.change caller.partitionId [vCpuId] (haltVCpu cfg caller.partitionId),
      vCpuId = caller.vCpuId⟩

/-- `ResetVCpuSys`; `isPtdL1` tells whether `ptdL1` is a page of the partition of that type. A
vCPU that resets itself goes on at its entry point, another one is scheduled.
-/
def resetVCpuSys (cfg : ControlConfig) (caller : Caller) (vCpuId : XmU32) (isPtdL1 : Bool)
    (s : Kernel) : Act :=
  if cfg.calls.noVCpus caller.partitionId ≤ vCpuId then
    .back .invalidParam s
  else if !isPtdL1 then
    .back .invalidParam s
  else
    let halted := s.change caller.partitionId [vCpuId] (haltVCpu cfg caller.partitionId)
    let reset := resetVCpu caller.partitionId vCpuId halted
    if vCpuId = caller.vCpuId then ⟨none, reset, false⟩ else ⟨some .ok, reset, true⟩

/-- What a partition needs to act on another one. -/
def onPartition (cfg : ControlConfig) (caller : Caller) (partitionId : XmU32) (s : Kernel)
    (act : Act) : Act :=
  if !cfg.calls.system caller.partitionId then
    .back .permError s
  else if cfg.calls.noPartitions ≤ partitionId then
    .back .invalidParam s
  else
    act

/-- `SuspendPartitionSys`. -/
def suspendPartitionSys (cfg : ControlConfig) (caller : Caller) (partitionId : XmU32) (s : Kernel)
    : Act :=
  let suspended := s.change partitionId (cfg.calls.vCpus partitionId) fun _ => onKThread suspend
  if partitionId ≠ caller.partitionId then
    onPartition cfg caller partitionId s
      (if (cfg.calls.vCpus partitionId).any fun e =>
          !areKThreadFlagsSet (s.vCpu partitionId e).k
            (KTHREAD_SUSPENDED_F ||| KTHREAD_HALTED_F) then
        .back .ok suspended
      else
        .back .noAction s)
  else
    ⟨some .ok, suspended, true⟩

/-- `ResumePartitionSys`. -/
def resumePartitionSys (cfg : ControlConfig) (caller : Caller) (partitionId : XmU32) (s : Kernel)
    : Act :=
  if partitionId = caller.partitionId then
    .back .noAction s
  else
    onPartition cfg caller partitionId s
      (if (cfg.calls.vCpus partitionId).any fun e =>
          areKThreadFlagsSet (s.vCpu partitionId e).k KTHREAD_SUSPENDED_F
            && !areKThreadFlagsSet (s.vCpu partitionId e).k KTHREAD_HALTED_F then
        .back .ok (s.change partitionId (cfg.calls.vCpus partitionId) fun _ => onKThread resume)
      else
        .back .noAction s)

/-- `HaltPartitionSys`; a partition that halts itself is not run again. -/
def haltPartitionSys (cfg : ControlConfig) (caller : Caller) (partitionId : XmU32) (s : Kernel)
    : Act :=
  if partitionId ≠ caller.partitionId then
    onPartition cfg caller partitionId s
      (if (cfg.calls.vCpus partitionId).any fun e =>
          !areKThreadFlagsSet (s.vCpu partitionId e).k KTHREAD_HALTED_F then
        .back .ok (haltPartition cfg partitionId s)
      else
        .back .noAction s)
  else
    ⟨none, haltPartition cfg partitionId s, true⟩

/-- `ResetPartition`, with whether it succeeded: every vCPU is halted, and the first is started
again when the image is `valid` and its page table can be set up.
-/
def resetPartition (cfg : ControlConfig) (partitionId : XmU32) (opMode : OpMode) (valid : Bool)
    (s : Kernel) : Bool × Kernel :=
  let halted := haltPartition cfg partitionId s
  if !valid then
    (false, halted)
  else
    let mode := (halted.setOpMode partitionId opMode).change partitionId [0]
      fun _ => onKThread (Hypercalls.setOpMode · opMode)
    (true, resetVCpu partitionId 0 mode)

/-- What `ResetPartitionSys` answers to a reset. A partition that resets itself does not come back,
unless it cannot be started; only its first vCPU goes on at once.
-/
def answerReset (caller : Caller) (partitionId : XmU32) (result : Bool × Kernel) : Act :=
  if !result.1 then
    .back .invalidConfig result.2
  else if partitionId = caller.partitionId then
    ⟨none, result.2, caller.vCpuId ≠ 0⟩
  else
    ⟨some .ok, result.2, true⟩

/-- The two modes of a reset. -/
def resetByMode (cfg : ControlConfig) (caller : Caller) (partitionId resetMode : XmU32)
    (valid : Bool) (s : Kernel) : Act :=
  if resetMode = XM_WARM_RESET then
    answerReset caller partitionId (resetPartition cfg partitionId .warmReset valid s)
  else if resetMode = XM_COLD_RESET then
    answerReset caller partitionId (resetPartition cfg partitionId .coldReset valid s)
  else
    .back .invalidParam s

/-- `ResetPartitionSys`. -/
def resetPartitionSys (cfg : ControlConfig) (caller : Caller) (partitionId resetMode : XmU32)
    (valid : Bool) (s : Kernel) : Act :=
  if partitionId ≠ caller.partitionId then
    onPartition cfg caller partitionId s (resetByMode cfg caller partitionId resetMode valid s)
  else
    resetByMode cfg caller partitionId resetMode valid s

def XM_VT_EXT_SHUTDOWN : Nat := 3

/-- `ShutdownPartitionSys`; `SetPartitionExtIrqPending` treats each vCPU as `SetExtIrqPending`. -/
def shutdownPartitionSys (cfg : ControlConfig) (caller : Caller) (partitionId : XmU32) (s : Kernel)
    : Act :=
  let shutdown := .back .ok (s.change partitionId (cfg.calls.vCpus partitionId)
    fun _ => onKThread (setExtIrqPending · XM_VT_EXT_SHUTDOWN))
  if partitionId ≠ caller.partitionId then
    onPartition cfg caller partitionId s shutdown
  else
    shutdown

/-- The plan that `SwitchSchedPlan` requests of a processor. -/
def requestedPlan (cfg : Sched.Config) (newPlanId : XmU32) : PlanRef :=
  if newPlanId.toNat < cfg.noSchedCyclicPlans then
    .tab (cfg.schedCyclicPlansOffset + newPlanId.toNat)
  else
    .idle

/-- `SwitchSchedPlanSys` once its parameter is accepted. -/
def switchPlan (cfg : ControlConfig) (cpu : Nat) (newPlanId : XmU32) (s : Kernel)
    : Except Stop Act := do
  let current ← currentPlan (cfg.cyclic cpu) (s.cyclic cpu)
  if current.id = newPlanId then
    pure (.back .noAction s)
  else if (cfg.cyclic cpu).noSchedCyclicPlans ≤ newPlanId.toNat then
    pure (.back .invalidParam s)
  else
    pure (.back .ok
      { s with
        cyclic := fun e =>
          if e < cfg.noCpus then
            { s.cyclic e with new := requestedPlan (cfg.cyclic e) newPlanId }
          else s.cyclic e })

def currentPlanIdFlags : PFlags where
  rw := true
  notNull := true

/-- `SwitchSchedPlanSys`, but for the identifier it leaves in the guest's memory. -/
def switchSchedPlanSys (cfg : ControlConfig) (caller : Caller) (space : AddressSpace)
    (newPlanId currentPlanId : XmU32) (s : Kernel) : Except Stop Act :=
  if !cfg.calls.system caller.partitionId then
    .ok (.back .permError s)
  else
    ifChecked space currentPlanId 4 currentPlanIdFlags (.back .invalidParam s)
      (switchPlan cfg (cfg.cpu caller.partitionId caller.vCpuId) newPlanId s)

/-- `HaltSystemSys`; none when the system is halted. -/
def haltSystemSys (cfg : ControlConfig) (caller : Caller) (s : Kernel) : Option Act :=
  if !cfg.calls.system caller.partitionId then some (.back .permError s) else none

/-- `ResetSystemSys`; none when the system starts again. -/
def resetSystemSys (cfg : ControlConfig) (caller : Caller) (resetMode : XmU32) (s : Kernel)
    : Option Act :=
  if !cfg.calls.system caller.partitionId then
    some (.back .permError s)
  else if resetMode ≠ XM_COLD_RESET ∧ resetMode ≠ XM_WARM_RESET then
    some (.back .invalidParam s)
  else
    none

def XM_HYPERVISOR_ID : XmU32 := 0xff

/-- The codes of the operating modes. -/
def opModeOf (code : XmU32) : Option OpMode :=
  [OpMode.idle, .coldReset, .warmReset, .normal][code.toNat]?

/-- `CtrlStatus` with `XM_SET_PARTITION_OPMODE`; the mode is read through an unchecked pointer. -/
def setPartitionOpMode (cfg : ControlConfig) (caller : Caller) (space : AddressSpace)
    (desc args : XmU32) (s : Kernel) : Except Stop Act :=
  let partId := desc >>> 10 &&& 0x3ff
  if partId ≠ caller.partitionId ∧ !cfg.calls.system caller.partitionId then
    .ok (.back .permError s)
  else if partId = XM_HYPERVISOR_ID then
    .ok (.back .invalidParam s)
  else if cfg.calls.noPartitions ≤ partId then
    .ok (.back .invalidParam s)
  else do
    let code ← space.read args
    match opModeOf code with
    | none => pure (.back .invalidParam s)
    | some opMode => pure (.back .ok (s.setOpMode partId opMode))

-----------------------------------------------------------------------------------------
-- Runs

/-- A call, with its arguments and what the guest's memory says. -/
inductive Call
  | suspendVCpu (vCpuId : XmU32)
  | resumeVCpu (vCpuId : XmU32)
  | haltVCpu (vCpuId : XmU32)
  | resetVCpu (vCpuId : XmU32) (isPtdL1 : Bool)
  | suspendPartition (partitionId : XmU32)
  | resumePartition (partitionId : XmU32)
  | haltPartition (partitionId : XmU32)
  | resetPartition (partitionId resetMode : XmU32) (valid : Bool)
  | shutdownPartition (partitionId : XmU32)
  | switchSchedPlan (space : AddressSpace) (newPlanId currentPlanId : XmU32)
  | haltSystem
  | resetSystem (resetMode : XmU32)
  | setPartitionOpMode (space : AddressSpace) (desc args : XmU32)

/-- What a call does up to its `Schedule`; none when it ends the system. -/
def Call.act (cfg : ControlConfig) (caller : Caller) (s : Kernel) : Call → Except Stop (Option Act)
  | .suspendVCpu v => .ok (some (suspendVCpuSys cfg caller v s))
  | .resumeVCpu v => .ok (some (resumeVCpuSys cfg caller v s))
  | .haltVCpu v => .ok (some (haltVCpuSys cfg caller v s))
  | .resetVCpu v isPtdL1 => .ok (some (resetVCpuSys cfg caller v isPtdL1 s))
  | .suspendPartition p => .ok (some (suspendPartitionSys cfg caller p s))
  | .resumePartition p => .ok (some (resumePartitionSys cfg caller p s))
  | .haltPartition p => .ok (some (haltPartitionSys cfg caller p s))
  | .resetPartition p resetMode valid =>
      .ok (some (resetPartitionSys cfg caller p resetMode valid s))
  | .shutdownPartition p => .ok (some (shutdownPartitionSys cfg caller p s))
  | .switchSchedPlan space newPlanId currentPlanId =>
      (switchSchedPlanSys cfg caller space newPlanId currentPlanId s).map some
  | .haltSystem => .ok (haltSystemSys cfg caller s)
  | .resetSystem resetMode => .ok (resetSystemSys cfg caller resetMode s)
  | .setPartitionOpMode space desc args =>
      (Control.setPartitionOpMode cfg caller space desc args s).map some

/-- A call of the running vCPU, with the clock readings of its `Schedule`, the code it returns and
the kthread that it selects.
-/
structure Event where
  caller : Caller
  call : Call
  now : Readings
  ret : Option XmRet
  newK : Option KThreadRef

/-- The call as a whole. -/
def Next (cfg : ControlConfig) (s : Kernel) (event : Event) (s' : Kernel) : Prop :=
  ∃ act, event.call.act cfg event.caller s = .ok (some act) ∧ event.ret = act.ret
    ∧ if act.schedules then
        schedule cfg event.now event.caller act.kernel = .ok (event.newK, s')
      else
        event.newK = none ∧ s' = act.kernel

/-- Calls of partition `p`. -/
def NextBy (cfg : ControlConfig) (p : XmU32) (s : Kernel) (event : Event) (s' : Kernel) : Prop :=
  event.caller.partitionId = p ∧ Next cfg s event s'

-----------------------------------------------------------------------------------------
-- The life cycle

/-- The kthreads and the modes alone. -/
def Kernel.lifeCycle (s : Kernel) : Hypercalls.State where
  kThread p v := (s.vCpu p v).k
  opMode := s.opMode

/-- What an act is where there are only kthreads and modes. -/
def Act.lifeCycle (act : Act) : Hypercalls.Result := (act.ret, act.kernel.lifeCycle)

/-- The calls of the life cycle among the calls. -/
def callOf : Hypercalls.Op → Call
  | .suspendVCpu v => .suspendVCpu v
  | .resumeVCpu v => .resumeVCpu v
  | .haltVCpu v => .haltVCpu v
  | .resetVCpu v isPtdL1 => .resetVCpu v isPtdL1
  | .suspendPartition p => .suspendPartition p
  | .resumePartition p => .resumePartition p
  | .haltPartition p => .haltPartition p
  | .resetPartition p resetMode valid => .resetPartition p resetMode valid

section LifeCycle

variable {cfg : ControlConfig} {caller : Caller} {s : Kernel}

theorem change_lifeCycle {change : XmU32 → VCpu → VCpu} {onK : KThread → KThread}
    (acts : ∀ v g, (change v g).k = onK g.k) (p : XmU32) (vCpus : List XmU32)
    : (s.change p vCpus change).lifeCycle = s.lifeCycle.change p vCpus onK := by
  unfold Kernel.lifeCycle Kernel.change Hypercalls.State.change
  congr 1
  funext p' v
  dsimp only
  split
  · exact acts v _
  · rfl

theorem haltVCpu_k (p v : XmU32) (g : VCpu) : (haltVCpu cfg p v g).k = halt g.k := by
  unfold haltVCpu
  dsimp only
  split <;> rfl

theorem haltVCpus_lifeCycle (p : XmU32) (vCpus : List XmU32)
    : (s.change p vCpus (haltVCpu cfg p)).lifeCycle = s.lifeCycle.change p vCpus halt :=
  change_lifeCycle (haltVCpu_k p) p vCpus

theorem onKThread_lifeCycle (onK : KThread → KThread) (p : XmU32) (vCpus : List XmU32)
    : (s.change p vCpus fun _ => onKThread onK).lifeCycle = s.lifeCycle.change p vCpus onK :=
  change_lifeCycle (fun _ _ => rfl) p vCpus

theorem haltPartition_lifeCycle (p : XmU32)
    : (haltPartition cfg p s).lifeCycle = Hypercalls.haltPartition cfg.calls p s.lifeCycle :=
  congrArg (Hypercalls.State.setOpMode · p .idle) (haltVCpus_lifeCycle p (cfg.calls.vCpus p))

theorem resetVCpu_lifeCycle (p v : XmU32)
    : (resetVCpu p v s).lifeCycle = s.lifeCycle.change p [v] resetKThread :=
  onKThread_lifeCycle resetKThread p [v]

theorem resetPartition_lifeCycle (p : XmU32) (opMode : OpMode) (valid : Bool)
    : ((resetPartition cfg p opMode valid s).1, (resetPartition cfg p opMode valid s).2.lifeCycle)
      = Hypercalls.resetPartition cfg.calls p opMode valid s.lifeCycle := by
  cases valid with
  | false => exact congrArg (Prod.mk false) (haltPartition_lifeCycle p)
  | true =>
      have mode : ((haltPartition cfg p s).setOpMode p opMode).lifeCycle
          = (Hypercalls.haltPartition cfg.calls p s.lifeCycle).setOpMode p opMode :=
        congrArg (Hypercalls.State.setOpMode · p opMode) (haltPartition_lifeCycle p)
      simp only [resetPartition, Hypercalls.resetPartition, Bool.not_true, Bool.false_eq_true,
        if_false, resetVCpu_lifeCycle, onKThread_lifeCycle, mode]
      unfold Hypercalls.State.change
      congr 2
      funext p' v
      dsimp only
      split <;> rfl

theorem onPartition_lifeCycle (p : XmU32) (act : Act)
    : (onPartition cfg caller p s act).lifeCycle
      = Hypercalls.onPartition cfg.calls caller p s.lifeCycle act.lifeCycle := by
  simp only [onPartition, Hypercalls.onPartition, apply_ite Act.lifeCycle]
  rfl

theorem answerReset_lifeCycle (p : XmU32) (result : Bool × Kernel)
    : (answerReset caller p result).lifeCycle
      = Hypercalls.answerReset caller p (result.1, result.2.lifeCycle) := by
  unfold answerReset Hypercalls.answerReset
  split
  · rfl
  · split <;> rfl

theorem resetByMode_lifeCycle (p resetMode : XmU32) (valid : Bool)
    : (resetByMode cfg caller p resetMode valid s).lifeCycle
      = Hypercalls.resetByMode cfg.calls caller p resetMode valid s.lifeCycle := by
  simp only [resetByMode, Hypercalls.resetByMode, apply_ite Act.lifeCycle, answerReset_lifeCycle,
    resetPartition_lifeCycle]
  rfl

/-- Up to its `Schedule` a call of the life cycle does to the kthreads and the modes what it does
where nothing else is modelled.
-/
theorem act_lifeCycle (op : Hypercalls.Op)
    : ∃ act, (callOf op).act cfg caller s = .ok (some act)
      ∧ act.lifeCycle = op.run cfg.calls caller s.lifeCycle := by
  cases op with
  | suspendVCpu v =>
      refine ⟨_, rfl, ?_⟩
      simp only [suspendVCpuSys, apply_ite Act.lifeCycle]
      simp only [Act.lifeCycle, onKThread_lifeCycle]
      rfl
  | resumeVCpu v =>
      refine ⟨_, rfl, ?_⟩
      simp only [resumeVCpuSys, apply_ite Act.lifeCycle]
      simp only [Act.lifeCycle, onKThread_lifeCycle]
      rfl
  | haltVCpu v =>
      refine ⟨_, rfl, ?_⟩
      simp only [haltVCpuSys, apply_ite Act.lifeCycle]
      simp only [Act.lifeCycle, haltVCpus_lifeCycle]
      rfl
  | resetVCpu v isPtdL1 =>
      refine ⟨_, rfl, ?_⟩
      simp only [resetVCpuSys, apply_ite Act.lifeCycle]
      simp only [Act.lifeCycle, resetVCpu_lifeCycle, haltVCpus_lifeCycle]
      unfold Hypercalls.Op.run Hypercalls.resetVCpuSys
      dsimp only
      split
      · rfl
      · split
        · rfl
        · split <;> rfl
  | suspendPartition p =>
      refine ⟨_, rfl, ?_⟩
      simp only [suspendPartitionSys, apply_ite Act.lifeCycle, onPartition_lifeCycle]
      simp only [Act.lifeCycle, Act.back, onKThread_lifeCycle]
      rfl
  | resumePartition p =>
      refine ⟨_, rfl, ?_⟩
      simp only [resumePartitionSys, apply_ite Act.lifeCycle, onPartition_lifeCycle]
      simp only [Act.lifeCycle, Act.back, onKThread_lifeCycle]
      rfl
  | haltPartition p =>
      refine ⟨_, rfl, ?_⟩
      simp only [haltPartitionSys, apply_ite Act.lifeCycle, onPartition_lifeCycle]
      simp only [Act.lifeCycle, Act.back, haltPartition_lifeCycle]
      rfl
  | resetPartition p resetMode valid =>
      refine ⟨_, rfl, ?_⟩
      simp only [resetPartitionSys, apply_ite Act.lifeCycle, onPartition_lifeCycle,
        resetByMode_lifeCycle]
      rfl

end LifeCycle

-----------------------------------------------------------------------------------------
-- The calls themselves

/-- Nothing of the partitions other than `p`, and no requested plan, is changed. -/
structure Spares (p : XmU32) (s s' : Kernel) : Prop where
  vCpu : ∀ q ≠ p, ∀ v, s'.vCpu q v = s.vCpu q v
  hwIrqsPend : ∀ q ≠ p, ∀ v, s'.hwIrqsPend q v = s.hwIrqsPend q v
  opMode : ∀ q ≠ p, s'.opMode q = s.opMode q
  requested : ∀ c, (s'.cyclic c).new = (s.cyclic c).new

theorem Spares.refl (p : XmU32) (s : Kernel) : Spares p s s where
  vCpu := fun _ _ _ => rfl
  hwIrqsPend := fun _ _ _ => rfl
  opMode := fun _ _ => rfl
  requested := fun _ => rfl

theorem Spares.trans {p : XmU32} {s s' s'' : Kernel} (first : Spares p s s')
    (second : Spares p s' s'')
    : Spares p s s'' where
  vCpu := fun q other v => (second.vCpu q other v).trans (first.vCpu q other v)
  hwIrqsPend := fun q other v => (second.hwIrqsPend q other v).trans (first.hwIrqsPend q other v)
  opMode := fun q other => (second.opMode q other).trans (first.opMode q other)
  requested := fun c => (second.requested c).trans (first.requested c)

theorem change_spares (s : Kernel) (p : XmU32) (vCpus : List XmU32)
    (change : XmU32 → VCpu → VCpu)
    : Spares p s (s.change p vCpus change) where
  vCpu := fun _ other _ => if_neg fun same => other same.1
  hwIrqsPend := fun _ _ _ => rfl
  opMode := fun _ _ => rfl
  requested := fun _ => rfl

theorem setOpMode_spares (s : Kernel) (p : XmU32) (opMode : OpMode)
    : Spares p s (s.setOpMode p opMode) where
  vCpu := fun _ _ _ => rfl
  hwIrqsPend := fun _ _ _ => rfl
  opMode := fun _ other => if_neg other
  requested := fun _ => rfl

theorem resetVCpu_spares (s : Kernel) (p v : XmU32) : Spares p s (resetVCpu p v s) where
  vCpu := (change_spares s p [v] fun _ => onKThread resetKThread).vCpu
  hwIrqsPend := fun _ other _ => if_neg fun same => other same.1
  opMode := fun _ _ => rfl
  requested := fun _ => rfl

theorem haltPartition_spares (cfg : ControlConfig) (p : XmU32) (s : Kernel)
    : Spares p s (haltPartition cfg p s) :=
  (change_spares s p _ _).trans (setOpMode_spares _ p .idle)

theorem resetPartition_spares (cfg : ControlConfig) (p : XmU32) (opMode : OpMode) (valid : Bool)
    (s : Kernel)
    : Spares p s (resetPartition cfg p opMode valid s).2 := by
  have halted := haltPartition_spares cfg p s
  cases valid with
  | false => exact halted
  | true =>
      have mode := halted.trans (setOpMode_spares _ p opMode)
      exact (mode.trans (change_spares _ p [0] _)).trans (resetVCpu_spares _ p 0)

theorem resetByMode_spares (cfg : ControlConfig) (caller : Caller) (p resetMode : XmU32)
    (valid : Bool) (s : Kernel)
    : Spares p s (resetByMode cfg caller p resetMode valid s).kernel := by
  have answered (result : Bool × Kernel)
      : (answerReset caller p result).kernel = result.2 := by
    simp only [answerReset]
    split
    · rfl
    · split <;> rfl
  unfold resetByMode
  split
  · rw [answered]
    exact resetPartition_spares cfg p .warmReset valid s
  · split
    · rw [answered]
      exact resetPartition_spares cfg p .coldReset valid s
    · exact .refl p s

/-- A partition that is not a system partition is refused what it asks of another one. -/
theorem onPartition_refused {cfg : ControlConfig} {caller : Caller}
    (notSystem : cfg.calls.system caller.partitionId = false) (partitionId : XmU32) (s : Kernel)
    (act : Act)
    : onPartition cfg caller partitionId s act = .back .permError s := by
  simp [onPartition, notSystem]

/-- Calls that act on another partition, the plan or the system. -/
def Call.OnOthers (caller : Caller) : Call → Prop
  | .suspendPartition p | .resumePartition p | .haltPartition p | .resetPartition p _ _
  | .shutdownPartition p => p ≠ caller.partitionId
  | .switchSchedPlan _ _ _ | .haltSystem | .resetSystem _ => True
  | .setPartitionOpMode _ desc _ => desc >>> 10 &&& 0x3ff ≠ caller.partitionId
  | _ => False

/-- Such a call is refused, whatever its other arguments are. -/
theorem Call.act_refused {cfg : ControlConfig} {caller : Caller}
    (notSystem : cfg.calls.system caller.partitionId = false) {call : Call}
    (onOthers : call.OnOthers caller) (s : Kernel)
    : call.act cfg caller s = .ok (some (.back .permError s)) := by
  have refused := fun q => onPartition_refused notSystem q s
  cases call with
  | suspendVCpu | resumeVCpu | haltVCpu | resetVCpu => exact onOthers.elim
  | suspendPartition q =>
      simp [Call.act, suspendPartitionSys, refused, show q ≠ caller.partitionId from onOthers]
  | resumePartition q =>
      simp [Call.act, resumePartitionSys, refused, show q ≠ caller.partitionId from onOthers]
  | haltPartition q =>
      simp [Call.act, haltPartitionSys, refused, show q ≠ caller.partitionId from onOthers]
  | resetPartition q resetMode valid =>
      simp [Call.act, resetPartitionSys, refused, show q ≠ caller.partitionId from onOthers]
  | shutdownPartition q =>
      simp [Call.act, shutdownPartitionSys, refused, show q ≠ caller.partitionId from onOthers]
  | switchSchedPlan space newPlanId currentPlanId =>
      simp [Call.act, switchSchedPlanSys, notSystem, Except.map]
  | haltSystem => simp [Call.act, haltSystemSys, notSystem]
  | resetSystem resetMode => simp [Call.act, resetSystemSys, notSystem]
  | setPartitionOpMode space desc args =>
      have other : desc >>> 10 &&& 0x3ff ≠ caller.partitionId := onOthers
      simp only [Call.act, Control.setPartitionOpMode, notSystem, Bool.not_false, and_true]
      rw [if_pos other]
      rfl

/-- Before it schedules, no call of such a partition does anything to the others. Witness: case
analysis on the call.
-/
theorem Call.act_spares {cfg : ControlConfig} {caller : Caller}
    (notSystem : cfg.calls.system caller.partitionId = false) {call : Call} {s : Kernel} {act : Act}
    (returned : call.act cfg caller s = .ok (some act))
    : Spares caller.partitionId s act.kernel := by
  have refl := Spares.refl caller.partitionId s
  by_cases onOthers : call.OnOthers caller
  · cases (Call.act_refused notSystem onOthers s).symm.trans returned
    exact refl
  cases call with
  | suspendVCpu v =>
      cases returned
      unfold suspendVCpuSys
      split
      · exact refl
      · split
        · exact refl
        · exact change_spares s _ _ _
  | resumeVCpu v =>
      cases returned
      unfold resumeVCpuSys
      split
      · exact refl
      · split
        · exact refl
        · exact change_spares s _ _ _
  | haltVCpu v =>
      cases returned
      unfold haltVCpuSys
      split
      · exact refl
      · split
        · exact refl
        · exact change_spares s _ _ _
  | resetVCpu v isPtdL1 =>
      cases returned
      have reset := (change_spares s caller.partitionId [v] (Control.haltVCpu cfg
        caller.partitionId)).trans (resetVCpu_spares _ caller.partitionId v)
      unfold resetVCpuSys
      split
      · exact refl
      · split
        · exact refl
        · dsimp only
          split
          · exact reset
          · exact reset
  | suspendPartition q =>
      cases not_not.mp onOthers
      cases returned
      simp only [suspendPartitionSys, ne_eq, not_true_eq_false, if_false]
      exact change_spares s _ _ _
  | resumePartition q =>
      cases not_not.mp onOthers
      cases returned
      simp only [resumePartitionSys, if_true]
      exact refl
  | haltPartition q =>
      cases not_not.mp onOthers
      cases returned
      simp only [haltPartitionSys, ne_eq, not_true_eq_false, if_false]
      exact haltPartition_spares cfg _ s
  | resetPartition q resetMode valid =>
      cases not_not.mp onOthers
      cases returned
      simp only [resetPartitionSys, ne_eq, not_true_eq_false, if_false]
      exact resetByMode_spares cfg caller _ resetMode valid s
  | shutdownPartition q =>
      cases not_not.mp onOthers
      cases returned
      simp only [shutdownPartitionSys, ne_eq, not_true_eq_false, if_false]
      exact change_spares s _ _ _
  | switchSchedPlan | haltSystem | resetSystem => exact absurd trivial onOthers
  | setPartitionOpMode space desc args =>
      have own : desc >>> 10 &&& 0x3ff = caller.partitionId := not_not.mp onOthers
      obtain ⟨_, set, same⟩ := map_eq_ok.mp returned
      cases same
      simp only [Control.setPartitionOpMode, own, ne_eq, not_true_eq_false, false_and,
        if_false] at set
      split at set
      · cases set
        exact refl
      · split at set
        · cases set
          exact refl
        · obtain ⟨code, _, set⟩ := bind_eq_ok.mp set
          split at set
          · cases set
            exact refl
          · cases set
            exact setOpMode_spares s _ _

-----------------------------------------------------------------------------------------
-- What a vCPU is told when it is selected

/-- The interrupts of a vCPU's own timers and of the start of its slot. -/
def dispatchIrqs : XmU32 :=
  1 <<< XM_VT_EXT_HW_TIMER ||| 1 <<< XM_VT_EXT_EXEC_TIMER ||| 1 <<< XM_VT_EXT_WATCHDOG_TIMER
    ||| 1 <<< XM_VT_EXT_CYCLIC_SLOT_START

/-- A ready vCPU that is selected keeps its flags and everything pending. It may go to normal mode
and get interrupts of its own timers and slot.
-/
structure Dispatched (k k' : KThread) : Prop where
  ready : k.isReady = true
  flags : k'.flags = k.flags
  opMode : k'.g.map Guest.opMode = k.g.map Guest.opMode
    ∨ k'.g.map Guest.opMode = k.g.map fun _ => .normal
  pending : ∃ irqs, irqs &&& ~~~dispatchIrqs = 0
    ∧ k'.g.map (·.partCtrlTab.extIrqsPend) = k.g.map (·.partCtrlTab.extIrqsPend ||| irqs)

theorem Dispatched.refl {k : KThread} (ready : k.isReady = true) : Dispatched k k where
  ready := ready
  flags := rfl
  opMode := Or.inl rfl
  pending := ⟨0, by simp⟩

theorem isReady_flags {k k' : KThread} (flags : k'.flags = k.flags) : k'.isReady = k.isReady := by
  simp only [KThread.isReady, areKThreadFlagsSet, flags]

theorem Dispatched.still {k k' : KThread} (dispatched : Dispatched k k') : k'.isReady = true :=
  (isReady_flags dispatched.flags).trans dispatched.ready

theorem Dispatched.trans {k k' k'' : KThread} (first : Dispatched k k')
    (second : Dispatched k' k'')
    : Dispatched k k'' where
  ready := first.ready
  flags := second.flags.trans first.flags
  opMode := by
    rcases second.opMode with same | normal
    · rw [same]
      exact first.opMode
    · refine Or.inr ?_
      have guests : k'.g.isSome = k.g.isSome := by
        rcases first.opMode with same | same
        · simpa using congrArg Option.isSome same
        · simpa using congrArg Option.isSome same
      rw [normal]
      cases guest : k.g with
      | none => simpa [guest] using guests
      | some g =>
          obtain ⟨g', guest'⟩ := Option.isSome_iff_exists.mp (by simpa [guest] using guests)
          simp [guest']
  pending := by
    obtain ⟨irqs, within, pend⟩ := first.pending
    obtain ⟨irqs', within', pend'⟩ := second.pending
    refine ⟨irqs ||| irqs', ?_, ?_⟩
    · rw [BitVec.and_or_distrib_right, within, within']
      rfl
    · have both := congrArg (Option.map (· ||| irqs')) pend
      simp only [Option.map_map, Function.comp_def] at both
      rw [pend', both]
      simp only [BitVec.or_assoc]

theorem setOpMode_dispatched {k : KThread} (ready : k.isReady = true)
    : Dispatched k (Hypercalls.setOpMode k .normal) where
  ready := ready
  flags := rfl
  opMode := Or.inr (by simp [Hypercalls.setOpMode, Function.comp_def])
  pending := ⟨0, by simp, by simp [Hypercalls.setOpMode, Function.comp_def]⟩

/-- A vCPU that is ready already gets no flag with an interrupt. -/
theorem setExtIrqPending_dispatched {k : KThread} (ready : k.isReady = true) {irq : Nat}
    (told : (1 : XmU32) <<< irq &&& ~~~dispatchIrqs = 0)
    : Dispatched k (setExtIrqPending k irq) := by
  have running : areKThreadFlagsSet k KTHREAD_HALTED_F = false := by
    simp only [KThread.isReady, areKThreadFlagsSet_or, Bool.and_eq_true, Bool.not_eq_true',
      Bool.or_eq_false_iff] at ready
    exact ready.1.1
  have bit : k.flags.getLsbD 4 = true := by
    simp only [KThread.isReady, Bool.and_eq_true] at ready
    exact (and_shiftLeft_ne_zero k.flags (by decide)).symm.trans ready.2
  have flags : k.flags ||| KTHREAD_READY_F = k.flags := by
    apply BitVec.eq_of_getLsbD_eq
    intro i _
    have mask : KTHREAD_READY_F = (1 : XmU32) <<< 4 := by decide
    rw [mask, getLsbD_or_shiftLeft k.flags (by decide)]
    by_cases same : 4 = i
    · subst same
      simp [bit]
    · simp [same]
  exact
    { ready
      flags := by simp [setExtIrqPending, running, setKThreadFlags, flags]
      opMode := Or.inl (by
        simp [setExtIrqPending, running, setKThreadFlags, Function.comp_def])
      pending := ⟨_, told, by
        simp [setExtIrqPending, running, setKThreadFlags, Function.comp_def]⟩ }

/-- `SCHED_CYCLIC` tells the guest its slot. -/
theorem dispatch_dispatched {k : KThread} (ready : k.isReady = true) (slot : Int)
    (entry : CyclicSlot)
    : Dispatched k (Sched.dispatch slot entry k) := by
  cases guest : k.g with
  | none => simpa [Sched.dispatch, guest] using Dispatched.refl ready
  | some g =>
      have told : (1 : XmU32) <<< XM_VT_EXT_CYCLIC_SLOT_START &&& ~~~dispatchIrqs = 0 := by decide
      have normal (schedInfo : SchedInfo)
          : Dispatched k
            { k with
              g := some { opMode := .normal, partCtrlTab := { g.partCtrlTab with schedInfo } } } :=
        { ready
          flags := rfl
          opMode := Or.inr (by simp [guest])
          pending := ⟨0, by simp, by simp [guest]⟩ }
      simp only [Sched.dispatch, guest]
      exact (normal _).trans (setExtIrqPending_dispatched (normal _).still told)

@[simp] theorem setActive_k (g : VCpu) (timer : ActiveKTimer) (kTimer : XtratuM.KTimer)
    : (g.setActive timer kTimer).k = g.k := by
  cases timer <;> rfl

@[simp] theorem rearm_k (g : VCpu) (timer : ActiveKTimer) (cTime nextAct : Int)
    : (rearm g timer cTime nextAct).1.k = g.k := by
  simp only [rearm]
  split <;> simp

theorem action_dispatched {g g' : VCpu} (ready : g.k.isReady = true) {timer : ActiveKTimer}
    (returned : g.action timer = .ok g')
    : Dispatched g.k g'.k := by
  cases timer with
  | vTimer =>
      obtain ⟨_, _, returned⟩ := bind_eq_ok.mp returned
      obtain ⟨_, _, returned⟩ := bind_eq_ok.mp returned
      cases returned
      exact setExtIrqPending_dispatched ready (by decide)
  | watchdogTimer =>
      cases returned
      exact setExtIrqPending_dispatched ready (by decide)
  | kTimer =>
      cases returned
      exact setExtIrqPending_dispatched ready (by decide)

theorem traverseKTimer_dispatched {g g' : VCpu} (ready : g.k.isReady = true)
    {timer : ActiveKTimer} {cTime nextAct nextAct' : Int}
    (returned : traverseKTimer cTime timer g nextAct = .ok (g', nextAct'))
    : Dispatched g.k g'.k := by
  unfold traverseKTimer at returned
  split at returned
  · split at returned
    · obtain ⟨handled, action, returned⟩ := bind_eq_ok.mp returned
      have same := congrArg (fun result => result.1.k) (Except.ok.inj returned)
      simp only [rearm_k] at same
      rw [← same]
      exact action_dispatched ready action
    · cases returned
      exact .refl ready
  · cases returned
    exact .refl ready

/-- Witness: induction on the queue. -/
theorem traverseKTimers_dispatched {g g' : VCpu} (ready : g.k.isReady = true)
    {timers : List ActiveKTimer} {cTime nextAct nextAct' : Int}
    (returned : traverseKTimers cTime timers g nextAct = .ok (g', nextAct'))
    : Dispatched g.k g'.k := by
  induction timers generalizing g nextAct with
  | nil =>
      cases returned
      exact .refl ready
  | cons timer rest ih =>
      obtain ⟨⟨next, nextAct''⟩, round, rounds⟩ := bind_eq_ok.mp returned
      have first := traverseKTimer_dispatched ready round
      exact first.trans (ih first.still rounds)

-----------------------------------------------------------------------------------------
-- What a selection changes

/-- Of all kthreads, only the selected one may be told of its dispatch. -/
structure Selects (tab : KThreadTab) (newK : Option KThreadRef) (tab' : KThreadTab) : Prop where
  others : ∀ q v, newK ≠ some (.vCpu q v) → tab' q v = tab q v
  selected : ∀ q v, newK = some (.vCpu q v) →
    ∃ k k', tab q v = some k ∧ tab' q v = some k' ∧ Dispatched k k'

/-- The selected kthread is overwritten. -/
theorem selects_set {tab : KThreadTab} {p v : XmU32} {k k' : KThread} (present : tab p v = some k)
    (dispatched : Dispatched k k')
    : Selects tab (some (.vCpu p v)) (tab.set p v k') where
  others := by
    intro q w other
    apply KThreadTab.set_other
    rintro ⟨rfl, rfl⟩
    exact other rfl
  selected := by
    intro q w same
    cases same
    exact ⟨k, k', present, if_pos ⟨rfl, rfl⟩, dispatched⟩

/-- No vCPU is selected. -/
theorem selects_none (tab : KThreadTab) : Selects tab none tab where
  others := fun _ _ _ => rfl
  selected := fun _ _ chosen => nomatch chosen

/-- Witness: induction on the table. -/
theorem getReadyKThreadFP_selects {tab tab' : KThreadTab} {fpTab : List (XmU32 × XmU32)}
    {newK : Option KThreadRef} (returned : getReadyKThreadFP tab fpTab = .ok (newK, tab'))
    : Selects tab newK tab' := by
  induction fpTab with
  | nil =>
      cases returned
      exact selects_none tab
  | cons entry rest ih =>
      unfold getReadyKThreadFP at returned
      split at returned
      · cases returned
      · next k present =>
          split at returned
          · next ready =>
              cases returned
              exact selects_set present (setOpMode_dispatched ready)
          · exact ih returned

theorem notifyGuest_selects {cfg : Sched.Config} {plan : CyclicPlan} {slot : Nat} {m : Machine}
    {newK : Option KThreadRef} {tab : KThreadTab}
    (ready : ∀ ref, newK = some ref → ∃ p v k, ref = .vCpu p v ∧ m.kThreadTab p v = some k
      ∧ k.isReady = true)
    (returned : notifyGuest cfg plan slot m newK = .ok tab)
    : Selects m.kThreadTab newK tab := by
  cases newK with
  | none =>
      cases returned
      exact selects_none m.kThreadTab
  | some ref =>
      obtain ⟨p, v, k, rfl, present, ready⟩ := ready ref rfl
      simp only [notifyGuest, present] at returned
      obtain ⟨entry, _, returned⟩ := bind_eq_ok.mp returned
      cases returned
      exact selects_set present (dispatch_dispatched ready slot entry)

/-- The choice that was kept is only a kthread that may run. -/
theorem cachedKThread_selects {m : Machine} {newK : Option KThreadRef}
    (cached : cachedKThread m = newK)
    : Selects m.kThreadTab newK m.kThreadTab where
  others := fun _ _ _ => rfl
  selected := by
    intro q v chosen
    cases chosen
    obtain ⟨ref, _, kept⟩ := Option.bind_eq_some_iff.mp cached
    obtain ⟨k, present, kept⟩ := Option.bind_eq_some_iff.mp kept
    split at kept
    · next ready =>
        cases kept
        exact ⟨k, k, present, present, .refl ready⟩
    · cases kept

/-- Witness: induction on the passes left. -/
theorem catchUp_requested {majorFrame : XmU32} {cTime : Int} {fuel : Nat}
    {cyclic caught : CyclicData} (returned : catchUp majorFrame cTime fuel cyclic = .ok caught)
    : caught.new = cyclic.new := by
  induction fuel generalizing cyclic with
  | zero => cases returned
  | succ fuel ih =>
      unfold catchUp at returned
      split at returned
      · have later := ih returned
        exact later
      · cases returned
        rfl

theorem refreshFrame_requested {cfg : Sched.Config} {cTime : Int} {cyclic framed : CyclicData}
    (returned : refreshFrame cfg cTime cyclic = .ok framed)
    : framed.new = cyclic.new := by
  unfold refreshFrame at returned
  split at returned
  · obtain ⟨switched, switch, returned⟩ := bind_eq_ok.mp returned
    obtain ⟨plan, _, returned⟩ := bind_eq_ok.mp returned
    obtain ⟨entered, enter, returned⟩ := bind_eq_ok.mp returned
    cases returned
    have same : switched.new = cyclic.new := by
      rcases makePlanSwitch_cases switch with ⟨_, rfl⟩ | ⟨rfl, _⟩
      · rfl
      · rfl
    rw [← same]
    unfold enterFrame at enter
    split at enter
    · have caught := catchUp_requested enter
      exact caught
    · cases enter
      rfl
  · cases returned
    rfl

theorem getReadyKThreadCyclic_selects {cfg : Sched.Config} {m m' : Machine}
    {newK : Option KThreadRef} (returned : getReadyKThreadCyclic cfg m = .ok (newK, m'))
    : Selects m.kThreadTab newK m'.kThreadTab ∧ m'.cyclic.new = m.cyclic.new := by
  unfold getReadyKThreadCyclic at returned
  split at returned
  · cases returned
    exact ⟨cachedKThread_selects rfl, rfl⟩
  · obtain ⟨framed, refreshed, returned⟩ := bind_eq_ok.mp returned
    obtain ⟨plan, _, returned⟩ := bind_eq_ok.mp returned
    obtain ⟨⟨slot, decision⟩, chosen, returned⟩ := bind_eq_ok.mp returned
    obtain ⟨tab, notified, returned⟩ := bind_eq_ok.mp returned
    cases returned
    have requested := refreshFrame_requested refreshed
    exact ⟨notifyGuest_selects (chooseSlot_ready chosen) notified, requested⟩

/-- Of the partitions other than `p`, only vCPUs that are `selected` are told of their dispatch;
nothing else of them is changed, and no requested plan.
-/
structure Confined (p : XmU32) (selected : KThreadRef → Prop) (s s' : Kernel) : Prop where
  vCpu : ∀ q ≠ p, ∀ v, s'.vCpu q v = s.vCpu q v
    ∨ selected (.vCpu q v) ∧ Dispatched (s.vCpu q v).k (s'.vCpu q v).k
  hwIrqsPend : ∀ q ≠ p, ∀ v, s'.hwIrqsPend q v = s.hwIrqsPend q v
  opMode : ∀ q ≠ p, s'.opMode q = s.opMode q
  requested : ∀ c, (s'.cyclic c).new = (s.cyclic c).new

theorem Spares.confined {p : XmU32} {s s' : Kernel} (spares : Spares p s s')
    (selected : KThreadRef → Prop)
    : Confined p selected s s' where
  vCpu := fun q other v => Or.inl (spares.vCpu q other v)
  hwIrqsPend := spares.hwIrqsPend
  opMode := spares.opMode
  requested := spares.requested

theorem Confined.mono {p : XmU32} {selected wider : KThreadRef → Prop} {s s' : Kernel}
    (confined : Confined p selected s s') (contained : ∀ ref, selected ref → wider ref)
    : Confined p wider s s' where
  vCpu := by
    intro q other v
    rcases confined.vCpu q other v with same | ⟨chosen, dispatched⟩
    · exact Or.inl same
    · exact Or.inr ⟨contained _ chosen, dispatched⟩
  hwIrqsPend := confined.hwIrqsPend
  opMode := confined.opMode
  requested := confined.requested

theorem Confined.trans {p : XmU32} {selected : KThreadRef → Prop} {s s' s'' : Kernel}
    (first : Confined p selected s s') (second : Confined p selected s' s'')
    : Confined p selected s s'' where
  vCpu := by
    intro q other v
    rcases second.vCpu q other v with same | ⟨chosen, dispatched⟩
    · rw [same]
      exact first.vCpu q other v
    · refine Or.inr ⟨chosen, ?_⟩
      rcases first.vCpu q other v with same | ⟨_, before⟩
      · rw [same] at dispatched
        exact dispatched
      · exact before.trans dispatched
  hwIrqsPend := fun q other v => (second.hwIrqsPend q other v).trans (first.hwIrqsPend q other v)
  opMode := fun q other => (second.opMode q other).trans (first.opMode q other)
  requested := fun c => (second.requested c).trans (first.requested c)

/-- The kthreads of all vCPUs as the tables of a selection leave them. -/
structure Selected (newK : Option KThreadRef) (s s' : Kernel) : Prop where
  others : ∀ q v, newK ≠ some (.vCpu q v) → s'.vCpu q v = s.vCpu q v
  selected : ∀ q v, newK = some (.vCpu q v) → Dispatched (s.vCpu q v).k (s'.vCpu q v).k
  hwIrqsPend : s'.hwIrqsPend = s.hwIrqsPend
  opMode : s'.opMode = s.opMode
  requested : ∀ c, (s'.cyclic c).new = (s.cyclic c).new

theorem withKThreads_selected {cfg : ControlConfig} {s : Kernel} {newK : Option KThreadRef}
    {tab : KThreadTab} (selects : Selects (s.kThreadTab cfg) newK tab)
    : Selected newK s (s.withKThreads tab) where
  others := by
    intro q v other
    have same := selects.others q v other
    simp only [Kernel.withKThreads, same, Kernel.kThreadTab]
    split <;> rfl
  selected := by
    intro q v chosen
    obtain ⟨k, k', present, present', dispatched⟩ := selects.selected q v chosen
    simp only [Kernel.withKThreads, present', Option.getD_some]
    simp only [Kernel.kThreadTab, Option.ite_none_right_eq_some, Option.some.injEq] at present
    rwa [present.2]
  hwIrqsPend := rfl
  opMode := rfl
  requested := fun _ => rfl

theorem getReadyKThread_selected {cfg : ControlConfig} {clock cpu : Nat} {s s' : Kernel}
    {newK : Option KThreadRef} (returned : getReadyKThread cfg clock cpu s = .ok (newK, s'))
    : Selected newK s s' := by
  unfold getReadyKThread at returned
  split at returned
  · obtain ⟨⟨newK', tab⟩, chosen, returned⟩ := bind_eq_ok.mp returned
    cases returned
    exact withKThreads_selected (getReadyKThreadFP_selects chosen)
  · obtain ⟨⟨newK', m⟩, chosen, returned⟩ := bind_eq_ok.mp returned
    cases returned
    obtain ⟨selects, requested⟩ := getReadyKThreadCyclic_selects chosen
    exact
      { withKThreads_selected selects with
        requested := by
          intro c
          dsimp only
          split
          · next own =>
              rw [own]
              exact requested
          · rfl }

/-- What the switch does to the others: the selected vCPU's own timers may expire. -/
theorem switchKThread_confined {cfg : ControlConfig} {now : Readings} {caller : Caller}
    {newK : Option KThreadRef} {s s' : Kernel}
    (ready : ∀ q v, newK = some (.vCpu q v) → (s.vCpu q v).k.isReady = true)
    (returned : switchKThread cfg now caller newK s = .ok s')
    : Confined caller.partitionId (newK = some ·) s s' := by
  have stopped := (change_spares s caller.partitionId [caller.vCpuId]
    fun _ g => stopVClock g now.stopped).confined (newK = some ·)
  unfold switchKThread at returned
  dsimp only at returned
  split at returned
  · next p v =>
      split at returned
      · cases returned
        exact stopped
      · obtain ⟨⟨g, nextAct⟩, traversed, returned⟩ := bind_eq_ok.mp returned
        cases returned
        refine stopped.trans ?_
        generalize kernel : s.change caller.partitionId [caller.vCpuId]
          (fun _ g => stopVClock g now.stopped) = middle at traversed
        have kept : (middle.vCpu p v).k = (s.vCpu p v).k := by
          rw [← kernel]
          simp only [Kernel.change]
          split <;> rfl
        have told := traverseKTimers_dispatched (kept ▸ ready p v rfl) traversed
        exact
          { vCpu := by
              intro q _ w
              simp only [Kernel.change, List.mem_singleton]
              split
              · next same =>
                  cases same.1
                  cases same.2
                  exact Or.inr ⟨rfl, told⟩
              · exact Or.inl rfl
            hwIrqsPend := fun _ _ _ => rfl
            opMode := fun _ _ => rfl
            requested := fun _ => rfl }
  · cases returned
    exact stopped

theorem schedule_confined {cfg : ControlConfig} {now : Readings} {caller : Caller}
    {newK : Option KThreadRef} {s s' : Kernel}
    (returned : schedule cfg now caller s = .ok (newK, s'))
    : Confined caller.partitionId (newK = some ·) s s' := by
  have left (newK : Option KThreadRef) :=
    (Spares.refl caller.partitionId s).confined (newK = some ·)
  unfold schedule at returned
  split at returned
  · cases returned
    exact { left none with }
  · split at returned
    · cases returned
      exact { left none with }
    · obtain ⟨⟨newK', middle⟩, chosen, returned⟩ := bind_eq_ok.mp returned
      have selected := getReadyKThread_selected chosen
      have confined : Confined caller.partitionId (newK' = some ·) s middle := by
        exact
          { vCpu := by
              intro q _ v
              by_cases own : newK' = some (.vCpu q v)
              · exact Or.inr ⟨own, selected.selected q v own⟩
              · exact Or.inl (selected.others q v own)
            hwIrqsPend := fun q _ v => congrFun (congrFun selected.hwIrqsPend q) v
            opMode := fun q _ => congrFun selected.opMode q
            requested := selected.requested }
      dsimp only at returned
      split at returned
      · cases returned
        exact confined
      · obtain ⟨switched, switch, returned⟩ := bind_eq_ok.mp returned
        cases returned
        refine confined.trans (switchKThread_confined ?_ switch)
        exact fun q v chosen => (selected.selected q v chosen).still

theorem Next.confined {cfg : ControlConfig} {s s' : Kernel} {event : Event}
    (next : Next cfg s event s') (notSystem : cfg.calls.system event.caller.partitionId = false)
    : Confined event.caller.partitionId (event.newK = some ·) s s' := by
  obtain ⟨act, returned, _, after⟩ := next
  have spares := Call.act_spares notSystem returned
  split at after
  · exact (spares.confined _).trans (schedule_confined after)
  · rw [after.2]
    exact spares.confined _

/-- What such a partition asks of another one, the plan or the system changes nothing at all. -/
theorem Next.refused {cfg : ControlConfig} {s s' : Kernel} {event : Event}
    (next : Next cfg s event s') (notSystem : cfg.calls.system event.caller.partitionId = false)
    (onOthers : event.call.OnOthers event.caller)
    : s' = s ∧ event.newK = none ∧ event.ret = some .permError := by
  obtain ⟨act, returned, ret, after⟩ := next
  cases (Call.act_refused notSystem onOthers s).symm.trans returned
  exact ⟨after.2, after.1, ret⟩

/-- One processor under `FP_SCHED` with two partitions of one vCPU, neither a system partition. -/
def twoPartitions : ControlConfig where
  calls := { noPartitions := 2, noVCpus := fun _ => 1, system := fun _ => false }
  noCpus := 1
  cpu := fun _ _ => 0
  fpSched := fun _ => true
  fpTab := fun _ => [(0, 0), (1, 0)]
  cyclic := fun _ =>
    { slotTab := []
      planTab := []
      schedCyclicPlansOffset := 0
      noSchedCyclicPlans := 0
      noPartitions := 2 }

/-- A vCPU that has not run since its partition's cold reset. -/
def coldVCpu : VCpu where
  k :=
    { flags := KTHREAD_READY_F
      g :=
        some
          { opMode := .coldReset
            partCtrlTab :=
              { flags := KTHREAD_READY_F
                extIrqsPend := 0
                schedInfo := { noSlot := 0, id := 0, slotDuration := 0 } } } }
  vClock := { acc := 0, delta := 0, flags := 0 }
  vTimer :=
    { value := 0
      interval := 0
      flags := 0
      kTimer := { value := 0, interval := 0, flags := 0 } }
  kTimer := { value := 0, interval := 0, flags := 0 }
  watchdogTimer := { value := 0, interval := 0, flags := 0 }
  hmEvents := []

def coldPartitions : Kernel where
  vCpu := fun _ _ => coldVCpu
  hwIrqsPend := fun _ _ => 0
  opMode := fun _ => .coldReset
  cyclic := fun cpu => initSchedLocal (twoPartitions.cyclic cpu)
  idleKThread := { flags := KTHREAD_READY_F, g := none }
  schedEnabled := true
  irqInProgress := false
  schedPending := false

/-- Partition 0 suspends itself, and partition 1's vCPU is selected. -/
def suspendItself : Event where
  caller := { partitionId := 0, vCpuId := 0 }
  call := .suspendPartition 0
  now := { chosen := 0, stopped := 0, traversed := 0 }
  ret := some .ok
  newK := some (.vCpu 1 0)

theorem suspendItself_next
    : ∃ s, NextBy twoPartitions 0 coldPartitions suspendItself s
      ∧ (s.vCpu 1 0).k.g.map Guest.opMode = some .normal := by
  have suspended :
      (schedule twoPartitions suspendItself.now suspendItself.caller
        (suspendPartitionSys twoPartitions suspendItself.caller 0 coldPartitions).kernel).map
          (fun result => (result.1, (result.2.vCpu 1 0).k.g.map Guest.opMode))
        = .ok (some (.vCpu 1 0), some .normal) := by
    decide
  obtain ⟨⟨newK, s⟩, selects, same⟩ := map_eq_ok.mp suspended
  cases congrArg Prod.fst same
  exact ⟨s, ⟨rfl, _, rfl, rfl, selects⟩, congrArg Prod.snd same⟩

end XtratuM.Control
