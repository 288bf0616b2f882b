import XtratuM.Hypercalls.Confinement
import XtratuM.Hypercalls.IrqVectors
import XtratuM.Hypercalls.RaiseIpvi

/-! Fixed-priority scheduling and virtual interrupts: whether a vCPU with an interrupt to take
can be selected.
-/

namespace XtratuM.WakeUps
open Reachability
open XtratuM.Hypercalls
open XtratuM.Irqs
open XtratuM.Parser

/-- The entries of `fpTab` in the order of their priorities, `noVCpus` of each partition, and the
destinations of the inter-partition interrupts.
-/
structure FpConfig where
  fpTab : List (XmU32 × XmU32)
  partitions : List Nat
  ipvis : IpviTables
  irqs : IrqConfig

/-- The vCPUs of all partitions, and `cKThread`: `none` is the idle kthread. -/
structure State where
  vCpus : XmU32 → XmU32 → Option Irqs.VCpu
  cKThread : Option (XmU32 × XmU32)

def State.set (s : State) (partitionId vCpuId : XmU32) (vCpu : Irqs.VCpu) : State :=
  { s with
    vCpus := fun p v => if p = partitionId ∧ v = vCpuId then some vCpu else s.vCpus p v }

theorem State.set_self (s : State) (partitionId vCpuId : XmU32) (vCpu : Irqs.VCpu)
    : (s.set partitionId vCpuId vCpu).vCpus partitionId vCpuId = some vCpu :=
  if_pos ⟨rfl, rfl⟩

theorem State.set_other {s : State} {partitionId vCpuId p v : XmU32} {vCpu : Irqs.VCpu}
    (other : ¬ (p = partitionId ∧ v = vCpuId))
    : (s.set partitionId vCpuId vCpu).vCpus p v = s.vCpus p v :=
  if_neg other

def State.kThreads (s : State) : KThreadTab := fun p v => (s.vCpus p v).map Irqs.VCpu.k

/-- The vCPUs with the kthreads of a table. -/
def State.withKThreads (s : State) (tab : KThreadTab) : State :=
  { s with
    vCpus := fun p v =>
      match s.vCpus p v, tab p v with
      | some vCpu, some k => some { vCpu with k }
      | some vCpu, none => some vCpu
      | none, _ => none }

-----------------------------------------------------------------------------------------
-- Scheduling

/-- `GetReadyKThreadFP`: the first entry whose vCPU is ready. -/
def getReadyKThreadFP (s : State) : List (XmU32 × XmU32) → Except Stop (Option (XmU32 × XmU32))
  | [] => .ok none
  | entry :: rest =>
      match s.vCpus entry.1 entry.2 with
      | none => .error .badAccess
      | some newK => if newK.k.isReady then .ok (some entry) else getReadyKThreadFP s rest

/-- `Schedule`, with the operating mode `GetReadyKThreadFP` sets left out. -/
def schedule (cfg : FpConfig) (s : State) : Except Stop State := do
  let newK ← getReadyKThreadFP s cfg.fpTab
  pure { s with cKThread := newK }

/-- Runs a step of the current vCPU. -/
def onCurrent (s : State) (step : Irqs.VCpu → Except Stop Irqs.VCpu) : Except Stop State :=
  match s.cKThread with
  | none => .error .badAccess
  | some (partitionId, vCpuId) =>
      match s.vCpus partitionId vCpuId with
      | none => .error .badAccess
      | some vCpu => (step vCpu).map (s.set partitionId vCpuId)

/-- `IdleSelfSys`. -/
def idleSelfSys (cfg : FpConfig) (s : State) : Except Stop State := do
  let s ← onCurrent s fun vCpu => .ok { vCpu with k := clearKThreadFlags vCpu.k KTHREAD_READY_F }
  schedule cfg s

-----------------------------------------------------------------------------------------
-- Raising interrupts

/-- `ArePartitionExtIrqPendingSet`. -/
def arePartitionExtIrqPendingSet (tab : KThreadTab) (partitionId : XmU32) (irq : Nat)
    : List Nat → Except Stop Bool
  | [] => .ok true
  | v :: rest =>
      match (tab partitionId (BitVec.ofNat 32 v)).bind KThread.g with
      | none => .error .badAccess
      | some g =>
          if areExtIrqPendingSet g irq then
            arePartitionExtIrqPendingSet tab partitionId irq rest
          else
            .ok false

/-- What `RaisePartitionIpviSys` does at the destination it was called for. -/
def raisePartition (noVCpus noIpvi : Nat) (partitionId : XmU32) (tab : KThreadTab)
    : Except Stop (XmRet × KThreadTab) := do
  let pending ← arePartitionExtIrqPendingSet tab partitionId noIpvi (List.range noVCpus)
  if pending then
    pure (.noAction, tab)
  else
    let tab ← (List.range noVCpus).foldlM (raiseVCpu noIpvi partitionId) tab
    pure (.ok, tab)

/-- The search of `RaisePartitionIpviSys` among the destinations of the interrupt. -/
def raiseFound (cfg : FpConfig) (dstOffset : Nat) (partitionId : XmU32) (noIpvi : Nat)
    (tab : KThreadTab) : List Nat → Except Stop (XmRet × KThreadTab)
  | [] => .ok (.invalidConfig, tab)
  | e :: rest =>
      match cfg.ipvis.ipviDstTab[dstOffset + e]? with
      | none => .error .badAccess
      | some id =>
          if partitionId = id.setWidth 32 then
            match cfg.partitions[id.toNat]? with
            | none => .error .badAccess
            | some noVCpus => raisePartition noVCpus noIpvi partitionId tab
          else
            raiseFound cfg dstOffset partitionId noIpvi tab rest

/-- `RaisePartitionIpviSys` called by a vCPU of `caller`; its test of `partitionId` never fails. -/
def raisePartitionIpviSys (cfg : FpConfig) (caller : Nat) (partitionId : XmU32) (noIpvi : Nat)
    (tab : KThreadTab) : Except Stop (XmRet × KThreadTab) :=
  if noIpvi < XM_VT_EXT_IPVI0 ∨ XM_VT_EXT_IPVI0 + CONFIG_XM_MAX_IPVI.toNat ≤ noIpvi then
    .ok (.invalidParam, tab)
  else
    let ipvi := cfg.ipvis.ipviTab caller (noIpvi - XM_VT_EXT_IPVI0)
    if ipvi.noDsts = 0 then
      .ok (.invalidConfig, tab)
    else
      raiseFound cfg ipvi.dstOffset partitionId noIpvi tab (List.range ipvi.noDsts)

def onKThreads (s : State) (call : KThreadTab → Except Stop (XmRet × KThreadTab))
    : Except Stop State :=
  (call s.kThreads).map fun result => s.withKThreads result.2

def changeVCpu (change : Irqs.VCpu → Irqs.VCpu) (partitionId : XmU32) (s : State) (v : XmU32)
    : Except Stop State :=
  match s.vCpus partitionId v with
  | none => .error .badAccess
  | some vCpu => .ok (s.set partitionId v (change vCpu))

/-- `SetPartitionExtIrqPending` and `SetPartitionHwIrqPending`, which treat each vCPU as
`SetExtIrqPending` and `SetHwIrqPending` do.
-/
def changePartition (cfg : FpConfig) (change : Irqs.VCpu → Irqs.VCpu) (partitionId : XmU32)
    (s : State) : Except Stop State :=
  match cfg.partitions[partitionId.toNat]? with
  | none => .error .badAccess
  | some noVCpus =>
      (List.range noVCpus).foldlM (fun s v => changeVCpu change partitionId s (BitVec.ofNat 32 v)) s

/-- What happens to the vCPUs of a processor under `FP_SCHED`. -/
inductive SchedOp
  | schedule
  | idleSelf
  /-- A call of the running vCPU on its own interrupts, or their delivery to it. -/
  | guest (op : IrqOp)
  | raiseIpvi (caller noIpvi : Nat)
  | raisePartitionIpvi (caller : Nat) (partitionId : XmU32) (noIpvi : Nat)
  | setExtIrqPending (partitionId vCpuId : XmU32) (irq : Nat)
  | setHwIrqPending (partitionId vCpuId : XmU32) (irq : Nat)
  | setPartitionExtIrqPending (partitionId : XmU32) (irq : Nat)
  | setPartitionHwIrqPending (partitionId : XmU32) (irq : Nat)

def SchedOp.run (cfg : FpConfig) (s : State) : SchedOp → Except Stop State
  | .schedule => WakeUps.schedule cfg s
  | .idleSelf => idleSelfSys cfg s
  | .guest op => onCurrent s (op.run cfg.irqs)
  | .raiseIpvi caller noIpvi =>
      onKThreads s (raiseIpviSys cfg.partitions cfg.ipvis caller noIpvi)
  | .raisePartitionIpvi caller partitionId noIpvi =>
      onKThreads s (raisePartitionIpviSys cfg caller partitionId noIpvi)
  | .setExtIrqPending partitionId vCpuId irq =>
      changeVCpu (raiseExtIrq · irq) partitionId s vCpuId
  | .setHwIrqPending partitionId vCpuId irq =>
      changeVCpu (Irqs.setHwIrqPending · irq) partitionId s vCpuId
  | .setPartitionExtIrqPending partitionId irq =>
      changePartition cfg (raiseExtIrq · irq) partitionId s
  | .setPartitionHwIrqPending partitionId irq =>
      changePartition cfg (Irqs.setHwIrqPending · irq) partitionId s

def Next (cfg : FpConfig) (s : State) (op : SchedOp) (s' : State) : Prop := op.run cfg s = .ok s'

-----------------------------------------------------------------------------------------
-- Sleeping and waking

/-- An unmasked virtual interrupt is pending. -/
def HasIrq (vCpu : Irqs.VCpu) : Prop :=
  vCpu.hwIrqsPend &&& ~~~vCpu.hwIrqsMask ≠ 0 ∨ vCpu.extIrqsPend &&& ~~~vCpu.extIrqsMask ≠ 0

instance (vCpu : Irqs.VCpu) : Decidable (HasIrq vCpu) :=
  inferInstanceAs (Decidable (_ ∨ _))

/-- A vCPU with an interrupt to take is ready, unless it is halted. -/
def Awake (vCpu : Irqs.VCpu) : Prop :=
  HasIrq vCpu → areKThreadFlagsSet vCpu.k KTHREAD_HALTED_F = false →
    areKThreadFlagsSet vCpu.k KTHREAD_READY_F = true

def State.AllAwake (s : State) : Prop :=
  ∀ partitionId vCpuId vCpu, s.vCpus partitionId vCpuId = some vCpu → Awake vCpu

/-- No vCPU runs yet, and no interrupt is pending. -/
structure Fresh (s : State) : Prop where
  idle : s.cKThread = none
  quiet : ∀ partitionId vCpuId vCpu, s.vCpus partitionId vCpuId = some vCpu → ¬ HasIrq vCpu

/-- A vCPU gives the processor up only when it has no interrupt to take. -/
def IdlesQuietly (s : State) : SchedOp → Prop
  | .idleSelf => ∀ partitionId vCpuId vCpu, s.cKThread = some (partitionId, vCpuId) →
      s.vCpus partitionId vCpuId = some vCpu → ¬ HasIrq vCpu
  | _ => True

/-- The running vCPU is one the scheduler may select. -/
def State.Running (s : State) : Prop :=
  ∀ partitionId vCpuId, s.cKThread = some (partitionId, vCpuId) →
    ∃ vCpu, s.vCpus partitionId vCpuId = some vCpu ∧ vCpu.k.isReady = true

-----------------------------------------------------------------------------------------
-- What a step leaves of the flags

/-- The vCPU stays as selectable as it was. -/
structure KeepsRunning (k k' : KThread) : Prop where
  halted : areKThreadFlagsSet k' KTHREAD_HALTED_F = areKThreadFlagsSet k KTHREAD_HALTED_F
  stopped : areKThreadFlagsSet k' (KTHREAD_HALTED_F ||| KTHREAD_SUSPENDED_F)
    = areKThreadFlagsSet k (KTHREAD_HALTED_F ||| KTHREAD_SUSPENDED_F)
  ready : areKThreadFlagsSet k KTHREAD_READY_F = true →
    areKThreadFlagsSet k' KTHREAD_READY_F = true

theorem KeepsRunning.of_flags {k k' : KThread} (same : k'.flags = k.flags) : KeepsRunning k k' where
  halted := by rw [areKThreadFlagsSet, same, areKThreadFlagsSet]
  stopped := by rw [areKThreadFlagsSet, same, areKThreadFlagsSet]
  ready ready := by rwa [areKThreadFlagsSet, same]

theorem KeepsRunning.trans {k k' k'' : KThread} (first : KeepsRunning k k')
    (second : KeepsRunning k' k'')
    : KeepsRunning k k'' where
  halted := second.halted.trans first.halted
  stopped := second.stopped.trans first.stopped
  ready ready := second.ready (first.ready ready)

/-- Setting a flag that stops no vCPU. -/
theorem KeepsRunning.set (k : KThread) {f : XmU32}
    (harmless : f &&& (KTHREAD_HALTED_F ||| KTHREAD_SUSPENDED_F) = 0 ∧ f &&& KTHREAD_HALTED_F = 0)
    : KeepsRunning k (setKThreadFlags k f) where
  halted := by simp [setKThreadFlags_areSet, harmless.2]
  stopped := by simp [setKThreadFlags_areSet, harmless.1]
  ready ready := by simp [setKThreadFlags_areSet, ready]

theorem KeepsRunning.isReady {k k' : KThread} (keeps : KeepsRunning k k')
    (ready : k.isReady = true)
    : k'.isReady = true := by
  unfold KThread.isReady at ready ⊢
  rw [Bool.and_eq_true] at ready ⊢
  rw [keeps.stopped]
  exact ⟨ready.1, keeps.ready ready.2⟩

theorem clearTrap_keeps (k : KThread)
    : KeepsRunning k (clearKThreadFlags k KTHREAD_TRAP_PENDING_F) where
  halted := clearKThreadFlags_areSet k (by decide)
  stopped := clearKThreadFlags_areSet k (by decide)
  ready ready := by rwa [clearKThreadFlags_areSet k (by decide)]

theorem isReady_ready {k : KThread} (ready : k.isReady = true)
    : areKThreadFlagsSet k KTHREAD_READY_F = true := by
  unfold KThread.isReady at ready
  exact (Bool.and_eq_true_iff.mp ready).2

theorem isReady_halted {k : KThread} (ready : k.isReady = true)
    : areKThreadFlagsSet k KTHREAD_HALTED_F = false := by
  unfold KThread.isReady at ready
  rw [areKThreadFlagsSet_or] at ready
  simp_all

/-- Either nothing happened to the vCPU, or it is ready now; `k` is its kthread. -/
structure Roused {α : Type} (k : α → KThread) (a a' : α) : Prop where
  keeps : KeepsRunning (k a) (k a')
  woken : a' = a ∨ areKThreadFlagsSet (k a') KTHREAD_READY_F = true

theorem Roused.refl {α : Type} {k : α → KThread} (a : α) : Roused k a a where
  keeps := .of_flags rfl
  woken := .inl rfl

theorem Roused.trans {α : Type} {k : α → KThread} {a b c : α} (first : Roused k a b)
    (second : Roused k b c)
    : Roused k a c where
  keeps := first.keeps.trans second.keeps
  woken := by
    rcases second.woken with rfl | ready
    · exact first.woken
    · exact .inr ready

abbrev Rouses : Irqs.VCpu → Irqs.VCpu → Prop := Roused Irqs.VCpu.k

/-- What a call may do to a kthread it raises an interrupt for. -/
abbrev Raises : KThread → KThread → Prop := Roused fun k => k

theorem Rouses.awake {s s' : Irqs.VCpu} (rouses : Rouses s s') (awake : Awake s) : Awake s' := by
  intro pending running
  rcases rouses.woken with rfl | ready
  · exact awake pending running
  · exact ready

theorem readied (k : KThread)
    : areKThreadFlagsSet (setKThreadFlags k KTHREAD_READY_F) KTHREAD_READY_F = true := by
  rw [setKThreadFlags_areSet, Bool.or_eq_true]
  exact .inr (by decide)

theorem KeepsRunning.readied (k : KThread) : KeepsRunning k (setKThreadFlags k KTHREAD_READY_F) :=
  .set k (by decide)

/-- `SetExtIrqPending` makes a vCPU ready, unless it is halted. -/
theorem setExtIrqPending_cases (k : KThread) (irq : Nat)
    : setExtIrqPending k irq = k
      ∨ KeepsRunning k (setExtIrqPending k irq)
        ∧ areKThreadFlagsSet (setExtIrqPending k irq) KTHREAD_READY_F = true := by
  unfold setExtIrqPending
  split
  · exact .inl rfl
  · exact .inr ⟨(KeepsRunning.readied k).trans (.of_flags rfl), readied _⟩

/-- A vCPU whose kthread is as it was, or ready. -/
theorem Rouses.of_k {s : Irqs.VCpu} {k : KThread}
    (raised : k = s.k ∨ KeepsRunning s.k k ∧ areKThreadFlagsSet k KTHREAD_READY_F = true)
    : Rouses s { s with k } := by
  rcases raised with rfl | ⟨keeps, ready⟩
  · exact .refl s
  · exact ⟨keeps, .inr ready⟩

theorem raiseExtIrq_rouses (s : Irqs.VCpu) (irq : Nat) : Rouses s (raiseExtIrq s irq) :=
  .of_k (setExtIrqPending_cases s.k irq)

theorem setHwIrqPending_rouses (s : Irqs.VCpu) (irq : Nat) : Rouses s (setHwIrqPending s irq) := by
  unfold setHwIrqPending
  split
  · exact .refl s
  · exact ⟨.readied s.k, .inr (readied s.k)⟩

-----------------------------------------------------------------------------------------
-- Calls of the running vCPU

theorem archEmul_k {cfg : IrqConfig} {ctxt : CpuCtxt} {cls : IrqClass} {number : Nat}
    {s s' : Irqs.VCpu} {delivery : Option Delivery}
    (returned : archEmul cfg ctxt cls number s = .ok (delivery, s'))
    : s'.k = s.k := by
  unfold archEmul at returned
  rcases fixStack_cases ctxt s (s.vectors (cfg.slot cls number)) with panics | ⟨iFlags, fixed⟩
  · simp only [panics] at returned
    cases returned
  · simp only [fixed] at returned
    cases returned
    rfl

theorem raiseMaskable_flags {cfg : IrqConfig} {ctxt : CpuCtxt} {s s' : Irqs.VCpu}
    {delivery : Option Delivery} (returned : raiseMaskable cfg ctxt s = .ok (delivery, s'))
    : s'.k.flags = s.k.flags := by
  obtain ⟨hw, -, returned⟩ := bind_eq_ok.mp returned
  cases hw with
  | some eIrq => rw [archEmul_k returned]
  | none =>
      dsimp only at returned
      cases ext : areExtIrqsPending cfg s with
      | some eIrq =>
          rw [ext] at returned
          rw [archEmul_k returned]
          rfl
      | none =>
          rw [ext] at returned
          cases returned
          rfl

/-- Delivery clears no flag but the one of a pending trap. -/
theorem raisePendIrqs_keeps {cfg : IrqConfig} {ctxt : CpuCtxt} {s s' : Irqs.VCpu}
    {delivery : Option Delivery} (returned : raisePendIrqs cfg ctxt s = .ok (delivery, s'))
    : KeepsRunning s.k s'.k := by
  unfold raisePendIrqs at returned
  split at returned
  · cases returned
    exact .of_flags rfl
  split at returned
  · cases returned
    exact .of_flags rfl
  split at returned
  · rw [archEmul_k returned]
    exact clearTrap_keeps s.k
  split at returned
  · rw [archEmul_k returned]
    exact .of_flags rfl
  split at returned
  · cases returned
    exact .of_flags rfl
  · exact .of_flags (raiseMaskable_flags returned)

theorem routeIrqSys_k (cfg : IrqConfig) (s : Irqs.VCpu) (type irq : XmU32) (vector : BitVec 16)
    : (routeIrqSys cfg s type irq vector).2.k = s.k := by
  unfold routeIrqSys
  split
  · rfl
  · split <;> rfl

theorem IrqOp.run_keeps {cfg : IrqConfig} {s s' : Irqs.VCpu} {op : IrqOp}
    (ran : op.run cfg s = .ok s')
    : KeepsRunning s.k s'.k := by
  cases op with
  | routeIrq type irq vector =>
      cases ran
      exact .of_flags (by rw [routeIrqSys_k])
  | hwIrq irq =>
      cases ran
      exact (setHwIrqPending_rouses s irq).keeps
  | extIrq irq =>
      cases ran
      exact (raiseExtIrq_rouses s irq).keeps
  | trap =>
      cases setTrapPending_ok ran
      exact .set _ (by decide)
  | raisePendIrqs ctxt =>
      obtain ⟨⟨delivery, after⟩, raised, rfl⟩ := map_eq_ok.mp ran
      exact raisePendIrqs_keeps raised
  | _ =>
      cases ran
      exact .of_flags rfl

-----------------------------------------------------------------------------------------
-- All vCPUs

/-- Tables related entry by entry. -/
def TabRel {α : Type} (related : α → α → Prop) (tab tab' : XmU32 → XmU32 → Option α) : Prop :=
  ∀ partitionId vCpuId, Option.Rel related (tab partitionId vCpuId) (tab' partitionId vCpuId)

theorem optionRel_refl {α : Type} {related : α → α → Prop} (refl : ∀ a, related a a)
    (entry : Option α)
    : Option.Rel related entry entry := by
  cases entry with
  | none => exact .none
  | some a => exact .some (refl a)

theorem TabRel.refl {α : Type} {related : α → α → Prop} (refl : ∀ a, related a a)
    (tab : XmU32 → XmU32 → Option α)
    : TabRel related tab tab := by
  intro partitionId vCpuId
  exact optionRel_refl refl _

theorem TabRel.trans {α : Type} {related : α → α → Prop}
    (trans : ∀ a b c, related a b → related b c → related a c)
    {tab tab' tab'' : XmU32 → XmU32 → Option α} (first : TabRel related tab tab')
    (second : TabRel related tab' tab'')
    : TabRel related tab tab'' := by
  intro partitionId vCpuId
  have left := first partitionId vCpuId
  have right := second partitionId vCpuId
  generalize tab partitionId vCpuId = a at left
  generalize tab' partitionId vCpuId = b at left right
  generalize tab'' partitionId vCpuId = c at right
  cases left with
  | none =>
      cases right
      exact .none
  | some one =>
      cases right with
      | some other => exact .some (trans _ _ _ one other)

/-- Changing one entry to a related one. -/
theorem TabRel.update {α : Type} {related : α → α → Prop} (refl : ∀ a, related a a)
    {tab : XmU32 → XmU32 → Option α} {partitionId vCpuId : XmU32} {a b : α}
    (present : tab partitionId vCpuId = some a) (step : related a b)
    : TabRel related tab fun p v => if p = partitionId ∧ v = vCpuId then some b else tab p v := by
  intro p v
  dsimp only
  split
  · rename_i here
    rw [here.1, here.2, present]
    exact .some step
  · exact optionRel_refl refl _

/-- A loop whose rounds relate the table before to the table after. -/
theorem TabRel.foldlM {α ι : Type} {related : α → α → Prop} (refl : ∀ a, related a a)
    (trans : ∀ a b c, related a b → related b c → related a c)
    {step : (XmU32 → XmU32 → Option α) → ι → Except Stop (XmU32 → XmU32 → Option α)}
    (keep : ∀ tab i tab', step tab i = .ok tab' → TabRel related tab tab') {elements : List ι}
    {tab tab' : XmU32 → XmU32 → Option α} (returned : elements.foldlM step tab = .ok tab')
    : TabRel related tab tab' := by
  apply foldlM_keeps (P := fun current => TabRel related tab current) ?_ (.refl refl tab) returned
  intro current i next before stepped
  exact before.trans trans (keep current i next stepped)

-----------------------------------------------------------------------------------------
-- Inter-partition interrupts

theorem raiseIpvi_raises {noIpvi : Nat} {k k' : KThread} (returned : raiseIpvi noIpvi k = .ok k')
    : Raises k k' := by
  unfold raiseIpvi at returned
  split at returned
  · cases returned
    exact .refl k
  split at returned
  · cases returned
  split at returned
  · cases returned
    exact .refl k
  · cases returned
    rcases setExtIrqPending_cases k noIpvi with same | ⟨keeps, ready⟩
    · rw [same]
      exact .refl k
    · exact ⟨keeps, .inr ready⟩

theorem raiseVCpu_raises {noIpvi : Nat} {partitionId : XmU32} {tab tab' : KThreadTab} {v : Nat}
    (returned : raiseVCpu noIpvi partitionId tab v = .ok tab')
    : TabRel Raises tab tab' := by
  unfold raiseVCpu at returned
  split at returned
  · cases returned
  · rename_i k present
    obtain ⟨k', raised, rfl⟩ := map_eq_ok.mp returned
    exact .update Roused.refl present (raiseIpvi_raises raised)

theorem raiseVCpus_raises {noIpvi noVCpus : Nat} {partitionId : XmU32} {tab tab' : KThreadTab}
    (returned : (List.range noVCpus).foldlM (raiseVCpu noIpvi partitionId) tab = .ok tab')
    : TabRel Raises tab tab' :=
  TabRel.foldlM Roused.refl (fun _ _ _ => Roused.trans) (fun _ _ _ => raiseVCpu_raises) returned

theorem raiseDst_raises {partitions : List Nat} {noIpvi : Nat} {xmcDstIpvi : List (BitVec 8)}
    {dstOffset e : Nat} {tab tab' : KThreadTab}
    (returned : raiseDst partitions noIpvi xmcDstIpvi dstOffset tab e = .ok tab')
    : TabRel Raises tab tab' := by
  unfold raiseDst at returned
  split at returned
  · cases returned
  split at returned
  · cases returned
  · exact raiseVCpus_raises returned

theorem raiseIpviSys_raises {partitions : List Nat} {tables : IpviTables} {caller noIpvi : Nat}
    {tab tab' : KThreadTab} {ret : XmRet}
    (returned : raiseIpviSys partitions tables caller noIpvi tab = .ok (ret, tab'))
    : TabRel Raises tab tab' := by
  unfold raiseIpviSys at returned
  split at returned
  · cases returned
    exact .refl Roused.refl tab
  · dsimp only at returned
    split at returned
    · cases returned
      exact .refl Roused.refl tab
    · obtain ⟨raised, looped, same⟩ := map_eq_ok.mp returned
      cases same
      exact TabRel.foldlM Roused.refl (fun _ _ _ => Roused.trans)
        (fun _ _ _ => raiseDst_raises) looped

theorem raisePartition_raises {noVCpus noIpvi : Nat} {partitionId : XmU32} {tab tab' : KThreadTab}
    {ret : XmRet} (returned : raisePartition noVCpus noIpvi partitionId tab = .ok (ret, tab'))
    : TabRel Raises tab tab' := by
  obtain ⟨pending, -, returned⟩ := bind_eq_ok.mp returned
  split at returned
  · cases returned
    exact .refl Roused.refl tab
  · obtain ⟨raised, looped, returned⟩ := bind_eq_ok.mp returned
    cases returned
    exact raiseVCpus_raises looped

/-- By induction on the destinations left to search. -/
theorem raiseFound_raises {cfg : FpConfig} {dstOffset noIpvi : Nat} {partitionId : XmU32}
    {tab tab' : KThreadTab} {ret : XmRet} {rest : List Nat}
    (returned : raiseFound cfg dstOffset partitionId noIpvi tab rest = .ok (ret, tab'))
    : TabRel Raises tab tab' := by
  induction rest with
  | nil =>
      cases returned
      exact .refl Roused.refl tab
  | cons e rest ih =>
      unfold raiseFound at returned
      split at returned
      · cases returned
      split at returned
      · split at returned
        · cases returned
        · exact raisePartition_raises returned
      · exact ih returned

theorem raisePartitionIpviSys_raises {cfg : FpConfig} {caller noIpvi : Nat} {partitionId : XmU32}
    {tab tab' : KThreadTab} {ret : XmRet}
    (returned : raisePartitionIpviSys cfg caller partitionId noIpvi tab = .ok (ret, tab'))
    : TabRel Raises tab tab' := by
  unfold raisePartitionIpviSys at returned
  split at returned
  · cases returned
    exact .refl Roused.refl tab
  · dsimp only at returned
    split at returned
    · cases returned
      exact .refl Roused.refl tab
    · exact raiseFound_raises returned

-----------------------------------------------------------------------------------------
-- Runs

/-- A step that rouses vCPUs at most, and leaves the processor to the one that has it. -/
structure State.Rouses (s s' : State) : Prop where
  vCpus : TabRel WakeUps.Rouses s.vCpus s'.vCpus
  cKThread : s'.cKThread = s.cKThread

theorem optionRel_some {α : Type} {related : α → α → Prop} {entry : Option α} {b : α}
    (rel : Option.Rel related entry (some b))
    : ∃ a, entry = some a ∧ related a b := by
  cases rel with
  | some step => exact ⟨_, rfl, step⟩

theorem optionRel_some_left {α : Type} {related : α → α → Prop} {entry : Option α} {a : α}
    (rel : Option.Rel related (some a) entry)
    : ∃ b, entry = some b ∧ related a b := by
  cases rel with
  | some step => exact ⟨_, rfl, step⟩

theorem State.Rouses.allAwake {s s' : State} (rouses : s.Rouses s') (awake : s.AllAwake)
    : s'.AllAwake := by
  intro partitionId vCpuId vCpu present
  have entry := rouses.vCpus partitionId vCpuId
  rw [present] at entry
  obtain ⟨before, present, step⟩ := optionRel_some entry
  exact step.awake (awake partitionId vCpuId before present)

theorem State.Rouses.running {s s' : State} (rouses : s.Rouses s') (running : s.Running)
    : s'.Running := by
  intro partitionId vCpuId current
  rw [rouses.cKThread] at current
  obtain ⟨vCpu, present, ready⟩ := running partitionId vCpuId current
  have entry := rouses.vCpus partitionId vCpuId
  rw [present] at entry
  obtain ⟨after, present', step⟩ := optionRel_some_left entry
  exact ⟨after, present', step.keeps.isReady ready⟩

theorem onKThreads_rouses {s s' : State} {call : KThreadTab → Except Stop (XmRet × KThreadTab)}
    (raises : ∀ tab ret tab', call tab = .ok (ret, tab') → TabRel Raises tab tab')
    (returned : onKThreads s call = .ok s')
    : s.Rouses s' := by
  obtain ⟨⟨ret, tab⟩, called, rfl⟩ := map_eq_ok.mp returned
  refine ⟨?_, rfl⟩
  intro partitionId vCpuId
  have entry := raises _ _ _ called partitionId vCpuId
  simp only [State.withKThreads]
  simp only [State.kThreads] at entry
  cases present : s.vCpus partitionId vCpuId with
  | none => exact .none
  | some vCpu =>
      rw [present] at entry
      obtain ⟨k, found, raised⟩ := optionRel_some_left entry
      rw [found]
      refine .some (.of_k ?_)
      rcases raised.woken with same | ready
      · exact .inl same
      · exact .inr ⟨raised.keeps, ready⟩

theorem set_rouses {s : State} {partitionId vCpuId : XmU32} {vCpu vCpu' : Irqs.VCpu}
    (present : s.vCpus partitionId vCpuId = some vCpu) (step : WakeUps.Rouses vCpu vCpu')
    : s.Rouses (s.set partitionId vCpuId vCpu') where
  vCpus := .update Roused.refl present step
  cKThread := rfl

theorem changeVCpu_rouses {change : Irqs.VCpu → Irqs.VCpu}
    (rouses : ∀ s, WakeUps.Rouses s (change s))
    {s s' : State} {partitionId v : XmU32} (returned : changeVCpu change partitionId s v = .ok s')
    : s.Rouses s' := by
  unfold changeVCpu at returned
  split at returned
  · cases returned
  · rename_i vCpu present
    cases returned
    exact set_rouses present (rouses vCpu)

theorem changePartition_rouses {cfg : FpConfig} {change : Irqs.VCpu → Irqs.VCpu}
    (rouses : ∀ s, WakeUps.Rouses s (change s)) {s s' : State} {partitionId : XmU32}
    (returned : changePartition cfg change partitionId s = .ok s')
    : s.Rouses s' := by
  unfold changePartition at returned
  split at returned
  · cases returned
  · apply foldlM_keeps (P := fun current => s.Rouses current) ?_ ⟨.refl Roused.refl _, rfl⟩ returned
    intro current v next before stepped
    have step := changeVCpu_rouses rouses stepped
    exact ⟨before.vCpus.trans (fun _ _ _ => Roused.trans) step.vCpus,
      step.cKThread.trans before.cKThread⟩

/-- A call of the running vCPU, which is ready. -/
theorem guest_rouses {cfg : IrqConfig} {s s' : State} {op : IrqOp} (running : s.Running)
    (returned : onCurrent s (op.run cfg) = .ok s')
    : s.Rouses s' := by
  unfold onCurrent at returned
  split at returned
  · cases returned
  · rename_i partitionId vCpuId current
    obtain ⟨vCpu, present, ready⟩ := running partitionId vCpuId current
    rw [present] at returned
    obtain ⟨after, ran, rfl⟩ := map_eq_ok.mp returned
    have keeps := IrqOp.run_keeps ran
    exact set_rouses present ⟨keeps, .inr (keeps.ready (isReady_ready ready))⟩

/-- Every step but the two that schedule. -/
theorem SchedOp.run_rouses {cfg : FpConfig} {s s' : State} {op : SchedOp} (running : s.Running)
    (ran : op.run cfg s = .ok s') (stays : op ≠ .schedule ∧ op ≠ .idleSelf)
    : s.Rouses s' := by
  cases op with
  | schedule => exact absurd rfl stays.1
  | idleSelf => exact absurd rfl stays.2
  | guest op => exact guest_rouses running ran
  | raiseIpvi caller noIpvi =>
      exact onKThreads_rouses (fun _ _ _ => raiseIpviSys_raises) ran
  | raisePartitionIpvi caller partitionId noIpvi =>
      exact onKThreads_rouses (fun _ _ _ => raisePartitionIpviSys_raises) ran
  | setExtIrqPending partitionId vCpuId irq =>
      exact changeVCpu_rouses (raiseExtIrq_rouses · irq) ran
  | setHwIrqPending partitionId vCpuId irq =>
      exact changeVCpu_rouses (setHwIrqPending_rouses · irq) ran
  | setPartitionExtIrqPending partitionId irq =>
      exact changePartition_rouses (raiseExtIrq_rouses · irq) ran
  | setPartitionHwIrqPending partitionId irq =>
      exact changePartition_rouses (setHwIrqPending_rouses · irq) ran

-----------------------------------------------------------------------------------------
-- Scheduling steps

/-- The search selects what it does where the operating mode is modelled too. -/
theorem getReadyKThreadFP_selection (s : State) (entries : List (XmU32 × XmU32))
    : (Control.getReadyKThreadFP s.kThreads entries).map Prod.fst
      = (getReadyKThreadFP s entries).map
        (Option.map fun entry => KThreadRef.vCpu entry.1 entry.2) := by
  induction entries with
  | nil => rfl
  | cons entry rest ih =>
      unfold Control.getReadyKThreadFP getReadyKThreadFP State.kThreads
      cases s.vCpus entry.1 entry.2 with
      | none => rfl
      | some newK =>
          dsimp only [Option.map]
          split
          · rfl
          · exact ih

/-- By induction on the entries left to look at. -/
theorem getReadyKThreadFP_ready {s : State} {entries : List (XmU32 × XmU32)}
    {partitionId vCpuId : XmU32}
    (returned : getReadyKThreadFP s entries = .ok (some (partitionId, vCpuId)))
    : ∃ vCpu, s.vCpus partitionId vCpuId = some vCpu ∧ vCpu.k.isReady = true := by
  induction entries with
  | nil => cases returned
  | cons entry rest ih =>
      unfold getReadyKThreadFP at returned
      split at returned
      · cases returned
      · rename_i newK present
        split at returned
        · rename_i ready
          cases returned
          exact ⟨newK, present, ready⟩
        · exact ih returned

theorem schedule_effect {cfg : FpConfig} {s s' : State} (returned : schedule cfg s = .ok s')
    : s'.vCpus = s.vCpus ∧ s'.Running := by
  obtain ⟨newK, selected, returned⟩ := bind_eq_ok.mp returned
  cases returned
  refine ⟨rfl, ?_⟩
  intro partitionId vCpuId current
  cases current
  obtain ⟨vCpu, present, ready⟩ := getReadyKThreadFP_ready selected
  exact ⟨vCpu, present, ready⟩

/-- The vCPU that gives the processor up. -/
theorem idleSelfSys_effect {cfg : FpConfig} {s s' : State} (running : s.Running)
    (returned : idleSelfSys cfg s = .ok s')
    : ∃ partitionId vCpuId vCpu, s.cKThread = some (partitionId, vCpuId)
      ∧ s.vCpus partitionId vCpuId = some vCpu ∧ vCpu.k.isReady = true
      ∧ s'.vCpus = (s.set partitionId vCpuId
          { vCpu with k := clearKThreadFlags vCpu.k KTHREAD_READY_F }).vCpus
      ∧ s'.Running := by
  obtain ⟨cleared, called, scheduled⟩ := bind_eq_ok.mp returned
  unfold onCurrent at called
  split at called
  · cases called
  · rename_i partitionId vCpuId current
    obtain ⟨vCpu, present, ready⟩ := running partitionId vCpuId current
    rw [present] at called
    cases called
    obtain ⟨same, runs⟩ := schedule_effect scheduled
    exact ⟨partitionId, vCpuId, vCpu, current, present, ready, same, runs⟩

/-- A vCPU that gives the processor up stays awake when it has no interrupt to take. -/
theorem awake_idle {vCpu : Irqs.VCpu} (ready : vCpu.k.isReady = true)
    : Awake { vCpu with k := clearKThreadFlags vCpu.k KTHREAD_READY_F } ↔ ¬ HasIrq vCpu := by
  have halted : areKThreadFlagsSet (clearKThreadFlags vCpu.k KTHREAD_READY_F) KTHREAD_HALTED_F
      = false :=
    (clearKThreadFlags_areSet vCpu.k (by decide)).trans (isReady_halted ready)
  have asleep := clearKThreadFlags_cleared vCpu.k KTHREAD_READY_F
  have same : HasIrq { vCpu with k := clearKThreadFlags vCpu.k KTHREAD_READY_F }
      ↔ HasIrq vCpu := by
    unfold HasIrq Irqs.VCpu.extIrqsPend clearKThreadFlags
    cases vCpu.k.g <;> rfl
  unfold Awake
  rw [same, halted, asleep]
  simp

theorem idleSelf_awake {cfg : FpConfig} {s s' : State} (awake : s.AllAwake) (running : s.Running)
    (returned : idleSelfSys cfg s = .ok s')
    : s'.Running ∧ (s'.AllAwake ↔ IdlesQuietly s .idleSelf) := by
  obtain ⟨partitionId, vCpuId, vCpu, current, present, ready, same, runs⟩ :=
    idleSelfSys_effect running returned
  refine ⟨runs, ?_⟩
  constructor
  · intro after p v other currently there
    rw [current] at currently
    cases currently
    rw [present] at there
    cases there
    apply (awake_idle ready).mp
    apply after partitionId vCpuId
    rw [same, State.set_self]
  · intro quiet p v other there
    rw [same] at there
    by_cases here : p = partitionId ∧ v = vCpuId
    · obtain ⟨rfl, rfl⟩ := here
      rw [State.set_self] at there
      cases there
      exact (awake_idle ready).mpr (quiet p v vCpu current present)
    · rw [State.set_other here] at there
      exact awake p v other there

/-- A step leaves every vCPU awake exactly when the running one did not give the processor up with
an interrupt to take.
-/
theorem SchedOp.run_awake {cfg : FpConfig} {s s' : State} {op : SchedOp} (awake : s.AllAwake)
    (running : s.Running) (next : Next cfg s op s')
    : s'.Running ∧ (s'.AllAwake ↔ IdlesQuietly s op) := by
  by_cases idle : op = .idleSelf
  · subst idle
    exact idleSelf_awake awake running next
  · have quiet : IdlesQuietly s op := by
      cases op with
      | idleSelf => exact absurd rfl idle
      | _ => trivial
    by_cases scheduling : op = .schedule
    · subst scheduling
      obtain ⟨same, runs⟩ := schedule_effect next
      refine ⟨runs, iff_of_true ?_ quiet⟩
      intro partitionId vCpuId vCpu present
      rw [same] at present
      exact awake partitionId vCpuId vCpu present
    · have rouses := SchedOp.run_rouses running next ⟨scheduling, idle⟩
      exact ⟨rouses.running running, iff_of_true (rouses.allAwake awake) quiet⟩

theorem Fresh.awake {s : State} (fresh : Fresh s) : s.AllAwake ∧ s.Running := by
  constructor
  · intro partitionId vCpuId vCpu present pending
    exact absurd pending (fresh.quiet partitionId vCpuId vCpu present)
  · intro partitionId vCpuId current
    rw [fresh.idle] at current
    cases current

/-- Two partitions of one vCPU; the second comes first, and may interrupt the other. -/
def twoVCpus : FpConfig where
  fpTab := [(1, 0), (0, 0)]
  partitions := [1, 1]
  ipvis :=
    { ipviTab := fun source _ => { dstOffset := 0, noDsts := source }
      ipviDstTab := [0] }
  irqs := defaultBuild

def bootedVCpus : State where
  vCpus p v :=
    if (p = 0 ∨ p = 1) ∧ v = 0 then some (setupPct defaultBuild runningKThread) else none
  cKThread := none

theorem bootedVCpus_fresh : Fresh bootedVCpus where
  idle := rfl
  quiet partitionId vCpuId vCpu present := by
    unfold bootedVCpus at present
    dsimp only at present
    split at present
    · cases present
      decide
    · cases present

theorem idlesQuietly_of {s : State} {partitionId vCpuId : XmU32} {vCpu : Irqs.VCpu}
    (current : s.cKThread = some (partitionId, vCpuId))
    (present : s.vCpus partitionId vCpuId = some vCpu) (quiet : ¬ HasIrq vCpu)
    : IdlesQuietly s .idleSelf := by
  intro p v other currently there
  rw [current] at currently
  cases currently
  rw [present] at there
  cases there
  exact quiet

/-- The second partition raises its interrupt while the first one runs, and again after the first
one has given the processor up.
-/
def sleepingOps : List SchedOp :=
  [.schedule, .idleSelf, .guest (.clearIrqMask 0 0x1000000), .setExtIrqPending 1 0 0, .schedule,
    .raiseIpvi 1 24, .idleSelf, .idleSelf, .setExtIrqPending 1 0 0, .schedule, .raiseIpvi 1 24]

end XtratuM.WakeUps
