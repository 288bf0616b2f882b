import XtratuM.Kernel.KThread
import XtratuM.Library.Reachability

/-! The hypercalls that suspend, resume, halt and reset vCPUs and partitions, beside the one
life cycle they are meant to keep for every vCPU.
-/

namespace XtratuM.Hypercalls

open Reachability

/-- What the calls read of the configuration; `system` is `XM_PART_SYSTEM`. -/
structure Config where
  noPartitions : XmU32
  noVCpus : XmU32 → XmU32
  system : XmU32 → Bool

/-- The indices `e` of the loops over `kThread[e]`. -/
def Config.vCpus (cfg : Config) (partitionId : XmU32) : List XmU32 :=
  (List.range (cfg.noVCpus partitionId).toNat).map (BitVec.ofNat 32)

theorem Config.mem_vCpus {cfg : Config} {p v : XmU32} : v ∈ cfg.vCpus p ↔ v < cfg.noVCpus p := by
  simp only [Config.vCpus, List.mem_map, List.mem_range, BitVec.lt_def]
  constructor
  · intro member
    obtain ⟨e, inside, rfl⟩ := member
    have size := (cfg.noVCpus p).isLt
    rwa [BitVec.toNat_ofNat, Nat.mod_eq_of_lt (by omega)]
  · intro inside
    exact ⟨v.toNat, inside, by simp⟩

/-- `partitionTab`: the kthreads `CreatePartition` allocated, and the mode of each partition. -/
structure State where
  kThread : XmU32 → XmU32 → KThread
  opMode : XmU32 → OpMode

/-- The running vCPU. -/
structure Caller where
  partitionId : XmU32
  vCpuId : XmU32
  deriving DecidableEq

/-- Changes some kthreads of a partition. -/
def State.change (s : State) (partitionId : XmU32) (vCpus : List XmU32)
    (change : KThread → KThread) : State :=
  { s with
    kThread := fun p v =>
      if p = partitionId ∧ v ∈ vCpus then change (s.kThread p v) else s.kThread p v }

def State.setOpMode (s : State) (partitionId : XmU32) (opMode : OpMode) : State :=
  { s with opMode := fun p => if p = partitionId then opMode else s.opMode p }

-----------------------------------------------------------------------------------------
-- What the calls do to kthreads

def setOpMode (k : KThread) (opMode : OpMode) : KThread :=
  { k with g := k.g.map fun g => { g with opMode } }

/-- `SUSPEND_VCPU`, and each round of `SUSPEND_PARTITION`. -/
def suspend (k : KThread) : KThread :=
  setKThreadFlags k KTHREAD_SUSPENDED_F

/-- `RESUME_VCPU`, and each round of `RESUME_PARTITION`. -/
def resume (k : KThread) : KThread :=
  clearKThreadFlags k KTHREAD_SUSPENDED_F

/-- `HALT_VCPU`, and each round of `HALT_PARTITION`. -/
def halt (k : KThread) : KThread :=
  setOpMode (setKThreadFlags k KTHREAD_HALTED_F) .idle

/-- `SetupPct` zeroes the control table but for the mirrored flags. -/
def setupPct (k : KThread) : KThread :=
  { k with
    g := k.g.map fun g =>
      { g with
        partCtrlTab :=
          { flags := k.flags
            extIrqsPend := 0
            schedInfo := { noSlot := 0, id := 0, slotDuration := 0 } } } }

/-- `ResetKThread`. -/
def resetKThread (k : KThread) : KThread :=
  clearKThreadFlags (setKThreadFlags (setupPct k) KTHREAD_READY_F) KTHREAD_HALTED_F

def haltPartition (cfg : Config) (partitionId : XmU32) (s : State) : State :=
  (s.change partitionId (cfg.vCpus partitionId) halt).setOpMode partitionId .idle

-----------------------------------------------------------------------------------------
-- The calls

/-- A call's result: its return code, or none when control does not come back to the caller. -/
abbrev Result : Type := Option XmRet × State

/-- `SuspendVCpuSys`. -/
def suspendVCpuSys (cfg : Config) (caller : Caller) (vCpuId : XmU32) (s : State) : Result :=
  if cfg.noVCpus caller.partitionId ≤ vCpuId then
    (some .invalidParam, s)
  else if !areKThreadFlagsSet (s.kThread caller.partitionId vCpuId)
      (KTHREAD_SUSPENDED_F ||| KTHREAD_HALTED_F) then
    (some .noAction, s)
  else
    (some .ok, s.change caller.partitionId [vCpuId] suspend)

/-- `ResumeVCpuSys`. -/
def resumeVCpuSys (cfg : Config) (caller : Caller) (vCpuId : XmU32) (s : State) : Result :=
  if cfg.noVCpus caller.partitionId ≤ vCpuId then
    (some .invalidParam, s)
  else if areKThreadFlagsSet (s.kThread caller.partitionId vCpuId) KTHREAD_SUSPENDED_F
      && !areKThreadFlagsSet (s.kThread caller.partitionId vCpuId) KTHREAD_HALTED_F then
    (some .noAction, s)
  else
    (some .ok, s.change caller.partitionId [vCpuId] resume)

/-- `HaltVCpuSys`. -/
def haltVCpuSys (cfg : Config) (caller : Caller) (vCpuId : XmU32) (s : State) : Result :=
  if cfg.noVCpus caller.partitionId ≤ vCpuId then
    (some .invalidParam, s)
  else if areKThreadFlagsSet (s.kThread caller.partitionId vCpuId) KTHREAD_HALTED_F then
    (some .noAction, s)
  else
    (some .ok, s.change caller.partitionId [vCpuId] halt)

/-- `ResetVCpuSys`; `isPtdL1` tells whether `ptdL1` is a page of the partition of that type. A
vCPU that resets itself goes on at its entry point.
-/
def resetVCpuSys (cfg : Config) (caller : Caller) (vCpuId : XmU32) (isPtdL1 : Bool)
    (s : State) : Result :=
  if cfg.noVCpus caller.partitionId ≤ vCpuId then
    (some .invalidParam, s)
  else if !isPtdL1 then
    (some .invalidParam, s)
  else
    (if vCpuId = caller.vCpuId then none else some .ok,
      (s.change caller.partitionId [vCpuId] halt).change caller.partitionId [vCpuId] resetKThread)

/-- What a partition needs to act on another one. -/
def onPartition (cfg : Config) (caller : Caller) (partitionId : XmU32) (s : State)
    (act : Result) : Result :=
  if !cfg.system caller.partitionId then
    (some .permError, s)
  else if cfg.noPartitions ≤ partitionId then
    (some .invalidParam, s)
  else
    act

/-- `SuspendPartitionSys`. -/
def suspendPartitionSys (cfg : Config) (caller : Caller) (partitionId : XmU32) (s : State)
    : Result :=
  let suspended := s.change partitionId (cfg.vCpus partitionId) suspend
  if partitionId ≠ caller.partitionId then
    onPartition cfg caller partitionId s
      (if (cfg.vCpus partitionId).any fun e =>
          !areKThreadFlagsSet (s.kThread partitionId e)
            (KTHREAD_SUSPENDED_F ||| KTHREAD_HALTED_F) then
        (some .ok, suspended)
      else
        (some .noAction, s))
  else
    (some .ok, suspended)

/-- `ResumePartitionSys`. -/
def resumePartitionSys (cfg : Config) (caller : Caller) (partitionId : XmU32) (s : State)
    : Result :=
  if partitionId = caller.partitionId then
    (some .noAction, s)
  else
    onPartition cfg caller partitionId s
      (if (cfg.vCpus partitionId).any fun e =>
          areKThreadFlagsSet (s.kThread partitionId e) KTHREAD_SUSPENDED_F
            && !areKThreadFlagsSet (s.kThread partitionId e) KTHREAD_HALTED_F then
        (some .ok, s.change partitionId (cfg.vCpus partitionId) resume)
      else
        (some .noAction, s))

/-- `HaltPartitionSys`; a partition that halts itself is not run again. -/
def haltPartitionSys (cfg : Config) (caller : Caller) (partitionId : XmU32) (s : State)
    : Result :=
  if partitionId ≠ caller.partitionId then
    onPartition cfg caller partitionId s
      (if (cfg.vCpus partitionId).any fun e =>
          !areKThreadFlagsSet (s.kThread partitionId e) KTHREAD_HALTED_F then
        (some .ok, haltPartition cfg partitionId s)
      else
        (some .noAction, s))
  else
    (none, haltPartition cfg partitionId s)

def XM_COLD_RESET : XmU32 := 0
def XM_WARM_RESET : XmU32 := 1

/-- `ResetPartition`: every vCPU is halted, and the first is started again when the image is
`valid` and its page table can be set up. The mode is the one of the reset.
-/
def resetPartition (cfg : Config) (partitionId : XmU32) (opMode : OpMode) (valid : Bool)
    (s : State) : Bool × State :=
  let halted := haltPartition cfg partitionId s
  if !valid then
    (false, halted)
  else
    (true,
      (halted.setOpMode partitionId opMode).change partitionId [0]
        fun k => resetKThread (setOpMode k opMode))

/-- What `ResetPartitionSys` answers to a reset. A partition that resets itself does not come
back, unless it cannot be started.
-/
def answerReset (caller : Caller) (partitionId : XmU32) (result : Bool × State) : Result :=
  (if !result.1 then some .invalidConfig
    else if partitionId = caller.partitionId then none
    else some .ok,
    result.2)

/-- The two modes of a reset. -/
def resetByMode (cfg : Config) (caller : Caller) (partitionId resetMode : XmU32) (valid : Bool)
    (s : State) : Result :=
  if resetMode = XM_WARM_RESET then
    answerReset caller partitionId (resetPartition cfg partitionId .warmReset valid s)
  else if resetMode = XM_COLD_RESET then
    answerReset caller partitionId (resetPartition cfg partitionId .coldReset valid s)
  else
    (some .invalidParam, s)

/-- `ResetPartitionSys`. -/
def resetPartitionSys (cfg : Config) (caller : Caller) (partitionId resetMode : XmU32)
    (valid : Bool) (s : State) : Result :=
  if partitionId ≠ caller.partitionId then
    onPartition cfg caller partitionId s (resetByMode cfg caller partitionId resetMode valid s)
  else
    resetByMode cfg caller partitionId resetMode valid s

/-- A call, with its arguments and what the guest's memory says to the resets. -/
inductive Op
  | suspendVCpu (vCpuId : XmU32)
  | resumeVCpu (vCpuId : XmU32)
  | haltVCpu (vCpuId : XmU32)
  | resetVCpu (vCpuId : XmU32) (isPtdL1 : Bool)
  | suspendPartition (partitionId : XmU32)
  | resumePartition (partitionId : XmU32)
  | haltPartition (partitionId : XmU32)
  | resetPartition (partitionId resetMode : XmU32) (valid : Bool)
  deriving DecidableEq

def Op.run (cfg : Config) (caller : Caller) (s : State) : Op → Result
  | .suspendVCpu v => suspendVCpuSys cfg caller v s
  | .resumeVCpu v => resumeVCpuSys cfg caller v s
  | .haltVCpu v => haltVCpuSys cfg caller v s
  | .resetVCpu v isPtdL1 => resetVCpuSys cfg caller v isPtdL1 s
  | .suspendPartition p => suspendPartitionSys cfg caller p s
  | .resumePartition p => resumePartitionSys cfg caller p s
  | .haltPartition p => haltPartitionSys cfg caller p s
  | .resetPartition p resetMode valid => resetPartitionSys cfg caller p resetMode valid s

structure Event where
  caller : Caller
  op : Op
  ret : Option XmRet

def Next (cfg : Config) (s : State) (event : Event) (s' : State) : Prop :=
  event.op.run cfg event.caller s = (event.ret, s')

-----------------------------------------------------------------------------------------
-- The life cycle of a vCPU

structure Life where
  halted : Bool
  suspended : Bool
  deriving DecidableEq

inductive Action
  | start
  | halt
  | suspend
  | resume
  deriving DecidableEq

/-- The life cycle: starting a vCPU makes it selectable whatever it was before. -/
def Action.next : Action → Life → Life
  | .start, _ => { halted := false, suspended := false }
  | .halt, life => { life with halted := true }
  | .suspend, life => { life with suspended := true }
  | .resume, life => { life with suspended := false }

/-- The flags of a kthread, as a stage of that life cycle. -/
def lifeOf (k : KThread) : Life where
  halted := areKThreadFlagsSet k KTHREAD_HALTED_F
  suspended := areKThreadFlagsSet k KTHREAD_SUSPENDED_F

/-- The scheduler may select the vCPU. -/
def Selectable (s : State) (p v : XmU32) : Prop :=
  lifeOf (s.kThread p v) = { halted := false, suspended := false }

/-- What a call did to vCPU `v` of partition `p`, by what it named and answered; a partition
that could not be started again stays halted.
-/
def Event.action (event : Event) (p v : XmU32) : Option Action :=
  match event.ret with
  | some .ok | none =>
      match event.op with
      | .suspendVCpu w => if p = event.caller.partitionId ∧ v = w then some .suspend else none
      | .resumeVCpu w => if p = event.caller.partitionId ∧ v = w then some .resume else none
      | .haltVCpu w => if p = event.caller.partitionId ∧ v = w then some .halt else none
      | .resetVCpu w _ => if p = event.caller.partitionId ∧ v = w then some .start else none
      | .suspendPartition q => if p = q then some .suspend else none
      | .resumePartition q => if p = q then some .resume else none
      | .haltPartition q => if p = q then some .halt else none
      | .resetPartition q _ _ => if p = q then some (if v = 0 then .start else .halt) else none
  | some .invalidConfig =>
      match event.op with
      | .resetPartition q _ _ => if p = q then some .halt else none
      | _ => none
  | _ => none

section Flags

variable (k : KThread)

@[simp] theorem lifeOf_suspend : lifeOf (suspend k) = Action.suspend.next (lifeOf k) := by
  simp only [lifeOf, suspend, setKThreadFlags_areSet, Action.next]
  simp [KTHREAD_HALTED_F, KTHREAD_SUSPENDED_F]

@[simp] theorem lifeOf_resume : lifeOf (resume k) = Action.resume.next (lifeOf k) := by
  have apart : ~~~KTHREAD_SUSPENDED_F &&& KTHREAD_HALTED_F = KTHREAD_HALTED_F := by decide
  simp only [lifeOf, resume, clearKThreadFlags_cleared, clearKThreadFlags_areSet k apart,
    Action.next]

@[simp] theorem lifeOf_setOpMode (opMode : OpMode) : lifeOf (setOpMode k opMode) = lifeOf k :=
  rfl

@[simp] theorem lifeOf_halt : lifeOf (halt k) = Action.halt.next (lifeOf k) := by
  rw [halt, lifeOf_setOpMode]
  simp only [lifeOf, setKThreadFlags_areSet, Action.next]
  simp [KTHREAD_HALTED_F, KTHREAD_SUSPENDED_F]

/-- A reset starts a kthread and leaves its suspension as it was. -/
@[simp] theorem lifeOf_resetKThread
    : lifeOf (resetKThread k) = { halted := false, suspended := (lifeOf k).suspended } := by
  have apart : ~~~KTHREAD_HALTED_F &&& KTHREAD_SUSPENDED_F = KTHREAD_SUSPENDED_F := by decide
  have same : areKThreadFlagsSet (setupPct k) KTHREAD_SUSPENDED_F
      = areKThreadFlagsSet k KTHREAD_SUSPENDED_F := rfl
  simp only [lifeOf, resetKThread, clearKThreadFlags_cleared, clearKThreadFlags_areSet _ apart,
    setKThreadFlags_areSet, same]
  simp [KTHREAD_READY_F, KTHREAD_SUSPENDED_F]

end Flags

/-- The life of a vCPU after an action of the code, which differs from the life cycle's in what
a start makes of a suspended vCPU.
-/
def Action.coded : Action → Life → Life
  | .start, life => { halted := false, suspended := life.suspended }
  | action, life => action.next life

section Changes

variable {f : KThread → KThread} (action : Action)
  (effect : ∀ k, lifeOf (f k) = action.coded (lifeOf k))
include effect

/-- Changing the one kthread a call names. -/
theorem life_changeOne (s : State) (q w p v : XmU32)
    : lifeOf ((s.change q [w] f).kThread p v)
      = (if p = q ∧ v = w then some action else none).elim (lifeOf (s.kThread p v))
        fun action => action.coded (lifeOf (s.kThread p v)) := by
  by_cases named : p = q ∧ v = w
  · simp [State.change, named, effect]
  · simp [State.change, named]

/-- Changing every kthread of a partition. -/
theorem life_changeAll {cfg : Config} {p v : XmU32} (inside : v < cfg.noVCpus p) (s : State)
    (q : XmU32)
    : lifeOf ((s.change q (cfg.vCpus q) f).kThread p v)
      = (if p = q then some action else none).elim (lifeOf (s.kThread p v))
        fun action => action.coded (lifeOf (s.kThread p v)) := by
  by_cases named : p = q
  · subst named
    simp [State.change, Config.mem_vCpus.mpr inside, effect]
  · simp [State.change, named]

end Changes

/-- How a call on a partition ends: refused with nothing changed, or as it acts. -/
theorem onPartition_cases {cfg : Config} {caller : Caller} {partitionId : XmU32} {s : State}
    {act result : Result} (ends : onPartition cfg caller partitionId s act = result)
    : (∃ ret, (ret = .permError ∨ ret = .invalidParam) ∧ result = (some ret, s))
      ∨ act = result := by
  unfold onPartition at ends
  split at ends
  · exact Or.inl ⟨_, Or.inl rfl, ends.symm⟩
  · split at ends
    · exact Or.inl ⟨_, Or.inr rfl, ends.symm⟩
    · exact Or.inr ends

/-- A refused call on a partition does nothing to any vCPU. -/
theorem Event.action_refused {caller : Caller} {op : Op} {ret : XmRet} {p v : XmU32}
    (refused : ret = .permError ∨ ret = .invalidParam)
    : Event.action ⟨caller, op, some ret⟩ p v = none := by
  rcases refused with rfl | rfl <;> rfl

theorem haltPartition_life {cfg : Config} {p v : XmU32} (inside : v < cfg.noVCpus p) (q : XmU32)
    (s : State)
    : lifeOf ((haltPartition cfg q s).kThread p v)
      = (if p = q then some Action.halt else none).elim (lifeOf (s.kThread p v))
        fun action => action.coded (lifeOf (s.kThread p v)) :=
  life_changeAll .halt lifeOf_halt inside s q

/-- A reset of either mode starts the first vCPU and leaves the others halted. -/
theorem resetPartition_life {cfg : Config} {p v : XmU32} (inside : v < cfg.noVCpus p)
    (q : XmU32) (opMode : OpMode) (s : State)
    : lifeOf ((resetPartition cfg q opMode true s).2.kThread p v)
      = (if p = q then some (if v = 0 then Action.start else .halt) else none).elim
        (lifeOf (s.kThread p v)) fun action => action.coded (lifeOf (s.kThread p v)) := by
  have restarted := life_changeOne (f := fun k => resetKThread (setOpMode k opMode)) .start
    (fun k => lifeOf_resetKThread (setOpMode k opMode))
    ((haltPartition cfg q s).setOpMode q opMode) q 0 p v
  have halted := haltPartition_life inside q s
  refine restarted.trans ?_
  simp only [State.setOpMode, halted]
  by_cases named : p = q
  · by_cases first : v = 0#32
    · simp [named, first, Action.coded, Action.next]
    · simp [named, first]
  · simp [named]

/-- The part of a reset after its checks. -/
theorem resetByMode_life {cfg : Config} {s s' : State} {caller : Caller} {q resetMode : XmU32}
    {valid : Bool} {ret : Option XmRet} {p v : XmU32}
    (ends : resetByMode cfg caller q resetMode valid s = (ret, s'))
    (inside : v < cfg.noVCpus p)
    : lifeOf (s'.kThread p v)
      = (Event.action ⟨caller, .resetPartition q resetMode valid, ret⟩ p v).elim
        (lifeOf (s.kThread p v)) fun action => action.coded (lifeOf (s.kThread p v)) := by
  have both (opMode : OpMode)
      (ends : answerReset caller q (resetPartition cfg q opMode valid s) = (ret, s'))
      : lifeOf (s'.kThread p v)
        = (Event.action ⟨caller, .resetPartition q resetMode valid, ret⟩ p v).elim
          (lifeOf (s.kThread p v)) fun action => action.coded (lifeOf (s.kThread p v)) := by
    obtain ⟨answer, rfl⟩ := Prod.mk.inj ends
    cases valid with
    | false =>
        cases answer
        exact haltPartition_life inside q s
    | true =>
        have started : Event.action ⟨caller, .resetPartition q resetMode true, ret⟩ p v
            = if p = q then some (if v = 0 then .start else .halt) else none := by
          rw [← answer]
          by_cases own : q = caller.partitionId <;> simp [own, resetPartition, Event.action]
        rw [started]
        exact resetPartition_life inside q opMode s
  unfold resetByMode at ends
  split at ends
  · exact both .warmReset ends
  · split at ends
    · exact both .coldReset ends
    · cases ends
      rfl

/-- A call does to each vCPU what its label says. -/
theorem Next.life {cfg : Config} {s s' : State} {event : Event} (next : Next cfg s event s')
    {p v : XmU32} (inside : v < cfg.noVCpus p)
    : lifeOf (s'.kThread p v)
      = (event.action p v).elim (lifeOf (s.kThread p v))
        fun action => action.coded (lifeOf (s.kThread p v)) := by
  obtain ⟨caller, op, ret⟩ := event
  cases op with
  | suspendVCpu w =>
      simp only [Next, Op.run, suspendVCpuSys] at next
      split at next
      · cases next
        rfl
      · split at next <;> cases next
        · rfl
        · exact life_changeOne .suspend lifeOf_suspend s _ _ _ _
  | resumeVCpu w =>
      simp only [Next, Op.run, resumeVCpuSys] at next
      split at next
      · cases next
        rfl
      · split at next <;> cases next
        · rfl
        · exact life_changeOne .resume lifeOf_resume s _ _ _ _
  | haltVCpu w =>
      simp only [Next, Op.run, haltVCpuSys] at next
      split at next
      · cases next
        rfl
      · split at next <;> cases next
        · rfl
        · exact life_changeOne .halt lifeOf_halt s _ _ _ _
  | resetVCpu w isPtdL1 => 
      simp only [Next, Op.run, resetVCpuSys] at next
      split at next
      · cases next
        rfl
      · split at next
        · cases next
          rfl
        · obtain ⟨answer, rfl⟩ := Prod.mk.inj next
          have started : Event.action ⟨caller, .resetVCpu w isPtdL1, ret⟩ p v
              = if p = caller.partitionId ∧ v = w then some .start else none := by
            rw [← answer]
            split <;> rfl
          rw [life_changeOne .start lifeOf_resetKThread, life_changeOne .halt lifeOf_halt, started]
          split <;> rfl
  | suspendPartition q =>
      simp only [Next, Op.run, suspendPartitionSys] at next
      split at next
      · rcases onPartition_cases next with ⟨ret', refused, same⟩ | next
        · cases same
          rw [Event.action_refused refused]
          rfl
        · split at next <;> cases next
          · exact life_changeAll .suspend lifeOf_suspend inside s q
          · rfl
      · cases next
        exact life_changeAll .suspend lifeOf_suspend inside s q
  | resumePartition q =>
      simp only [Next, Op.run, resumePartitionSys] at next
      split at next
      · cases next
        rfl
      · rcases onPartition_cases next with ⟨ret', refused, same⟩ | next
        · cases same
          rw [Event.action_refused refused]
          rfl
        · split at next <;> cases next
          · exact life_changeAll .resume lifeOf_resume inside s q
          · rfl
  | haltPartition q =>
      simp only [Next, Op.run, haltPartitionSys] at next
      split at next
      · rcases onPartition_cases next with ⟨ret', refused, same⟩ | next
        · cases same
          rw [Event.action_refused refused]
          rfl
        · split at next <;> cases next
          · exact life_changeAll .halt lifeOf_halt inside s q
          · rfl
      · cases next
        exact life_changeAll .halt lifeOf_halt inside s q
  | resetPartition q resetMode valid =>
      simp only [Next, Op.run, resetPartitionSys] at next
      split at next
      · rcases onPartition_cases next with ⟨ret', refused, same⟩ | next
        · cases same
          rw [Event.action_refused refused]
          rfl
        · exact resetByMode_life next inside
      · exact resetByMode_life next inside

-----------------------------------------------------------------------------------------
-- Runs

/-- `CreatePartition` leaves every vCPU halted. -/
def Created (cfg : Config) (s : State) : Prop :=
  ∀ p v, v < cfg.noVCpus p → lifeOf (s.kThread p v) = { halted := true, suspended := false }

/-- A vCPU was started and not halted since, and the last time it was suspended or resumed
since, it was not suspended.
-/
def Runs (p v : XmU32) (past : List Event) : Prop :=
  Since (fun event _ => event.action p v = some .start)
      (fun event => event.action p v = some .halt) past
    ∧ ¬ Since (fun event _ => event.action p v = some .suspend)
      (fun event => event.action p v = some .resume ∨ event.action p v = some .start) past

/-- A `SuspendVCpuSys` that suspends the vCPUs that are selectable. -/
def suspendSelectable (cfg : Config) (caller : Caller) (vCpuId : XmU32) (s : State) : Result :=
  if cfg.noVCpus caller.partitionId ≤ vCpuId then
    (some .invalidParam, s)
  else if lifeOf (s.kThread caller.partitionId vCpuId)
      = { halted := false, suspended := false } then
    (some .ok, s.change caller.partitionId [vCpuId] suspend)
  else
    (some .noAction, s)

/-- A `ResumeVCpuSys` that resumes the vCPUs that are suspended and not halted. -/
def resumeSuspended (cfg : Config) (caller : Caller) (vCpuId : XmU32) (s : State) : Result :=
  if cfg.noVCpus caller.partitionId ≤ vCpuId then
    (some .invalidParam, s)
  else if lifeOf (s.kThread caller.partitionId vCpuId)
      = { halted := false, suspended := true } then
    (some .ok, s.change caller.partitionId [vCpuId] resume)
  else
    (some .noAction, s)

/-- A step does to vCPUs what the life cycle says, and on a partition of one vCPU that runs,
the vCPU calls do what the partition calls do.
-/
structure FollowsLifeCycle (cfg : Config) (s : State) (event : Event) (s' : State) : Prop where
  suspend : ∀ v, event.op = .suspendVCpu v →
    (event.ret, s') = suspendSelectable cfg event.caller v s
  resume : ∀ v, event.op = .resumeVCpu v →
    (event.ret, s') = resumeSuspended cfg event.caller v s
  suspendAlone : ∀ v, event.op = .suspendVCpu v → v < cfg.noVCpus event.caller.partitionId →
    cfg.noVCpus event.caller.partitionId = 1 → Selectable s event.caller.partitionId v →
    (event.ret, s') = suspendPartitionSys cfg event.caller event.caller.partitionId s
  resumeAlone : ∀ v, event.op = .resumeVCpu v → v < cfg.noVCpus event.caller.partitionId →
    cfg.noVCpus event.caller.partitionId = 1 → Selectable s event.caller.partitionId v →
    (event.ret, s') = resumePartitionSys cfg event.caller event.caller.partitionId s
  start : ∀ p v, v < cfg.noVCpus p → event.action p v = some .start → Selectable s' p v

/-- No vCPU is suspended or resumed on its own, and none is started while it is suspended. -/
structure OnPartitions (cfg : Config) (s : State) (event : Event) : Prop where
  suspend : ∀ v < cfg.noVCpus event.caller.partitionId, event.op ≠ .suspendVCpu v
  resume : ∀ v < cfg.noVCpus event.caller.partitionId, event.op ≠ .resumeVCpu v
  start : ∀ p v, v < cfg.noVCpus p → event.action p v = some .start →
    (lifeOf (s.kThread p v)).suspended = false

theorem selectable_flags {k : KThread}
    : areKThreadFlagsSet k (KTHREAD_SUSPENDED_F ||| KTHREAD_HALTED_F) = false
      ↔ lifeOf k = { halted := false, suspended := false } := by
  simp [areKThreadFlagsSet_or, lifeOf, and_comm]

theorem suspended_flags {k : KThread}
    : (areKThreadFlagsSet k KTHREAD_SUSPENDED_F && !areKThreadFlagsSet k KTHREAD_HALTED_F) = true
      ↔ lifeOf k = { halted := false, suspended := true } := by
  simp [lifeOf, and_comm]

/-- The guard of `SuspendVCpuSys` lets through exactly what it should stop. -/
theorem suspendVCpuSys_differs {cfg : Config} {caller : Caller} {v : XmU32} (s : State)
    (inside : v < cfg.noVCpus caller.partitionId)
    : (suspendVCpuSys cfg caller v s).1 ≠ (suspendSelectable cfg caller v s).1 := by
  have valid : ¬ cfg.noVCpus caller.partitionId ≤ v := BitVec.not_le.mpr inside
  unfold suspendVCpuSys suspendSelectable
  rw [if_neg valid, if_neg valid]
  by_cases selectable : lifeOf (s.kThread caller.partitionId v)
      = { halted := false, suspended := false }
  · rw [if_pos selectable, selectable_flags.mpr selectable]
    simp
  · rw [if_neg selectable]
    have flags := mt selectable_flags.mp selectable
    simp [flags]

theorem resumeVCpuSys_differs {cfg : Config} {caller : Caller} {v : XmU32} (s : State)
    (inside : v < cfg.noVCpus caller.partitionId)
    : (resumeVCpuSys cfg caller v s).1 ≠ (resumeSuspended cfg caller v s).1 := by
  have valid : ¬ cfg.noVCpus caller.partitionId ≤ v := BitVec.not_le.mpr inside
  unfold resumeVCpuSys resumeSuspended
  rw [if_neg valid, if_neg valid]
  by_cases suspended : lifeOf (s.kThread caller.partitionId v)
      = { halted := false, suspended := true }
  · rw [if_pos suspended, if_pos (suspended_flags.mpr suspended)]
    simp
  · rw [if_neg suspended, if_neg (mt suspended_flags.mp suspended)]
    simp

/-- A start leaves a vCPU selectable exactly when it was not suspended. -/
theorem Next.start_selectable {cfg : Config} {s s' : State} {event : Event}
    (next : Next cfg s event s') {p v : XmU32} (inside : v < cfg.noVCpus p)
    (starts : event.action p v = some .start)
    : Selectable s' p v ↔ (lifeOf (s.kThread p v)).suspended = false := by
  have life := next.life inside
  rw [starts] at life
  rw [Selectable, life]
  simp [Action.coded]

/-- A step follows the life cycle exactly when it leaves single vCPUs alone and starts none
that is suspended.
-/
theorem Next.follows_iff {cfg : Config} {s s' : State} {event : Event}
    (next : Next cfg s event s')
    : FollowsLifeCycle cfg s event s' ↔ OnPartitions cfg s event := by
  obtain ⟨caller, op, ret⟩ := event
  constructor
  · intro follows
    refine { suspend := ?_, resume := ?_, start := ?_ }
    · rintro v inside rfl
      have same := next.trans (follows.suspend v rfl)
      exact suspendVCpuSys_differs s inside (congrArg Prod.fst same)
    · rintro v inside rfl
      have same := next.trans (follows.resume v rfl)
      exact resumeVCpuSys_differs s inside (congrArg Prod.fst same)
    · intro p v inside starts
      exact (next.start_selectable inside starts).mp (follows.start p v inside starts)
  · intro allowed
    have suspends (v : XmU32) (op_eq : op = .suspendVCpu v)
        : cfg.noVCpus caller.partitionId ≤ v :=
      BitVec.not_lt.mp fun inside => allowed.suspend v inside op_eq
    have resumes (v : XmU32) (op_eq : op = .resumeVCpu v)
        : cfg.noVCpus caller.partitionId ≤ v :=
      BitVec.not_lt.mp fun inside => allowed.resume v inside op_eq
    refine
      { suspend := ?_
        resume := ?_
        suspendAlone := fun v op_eq inside => absurd op_eq (allowed.suspend v inside)
        resumeAlone := fun v op_eq inside => absurd op_eq (allowed.resume v inside)
        start := fun p v inside starts =>
          (next.start_selectable inside starts).mpr (allowed.start p v inside starts) }
    · rintro v rfl
      refine next.symm.trans ?_
      simp only [Op.run, suspendVCpuSys, suspendSelectable, suspends v rfl, if_true]
    · rintro v rfl
      refine next.symm.trans ?_
      simp only [Op.run, resumeVCpuSys, resumeSuspended, resumes v rfl, if_true]

/-- As long as only whole partitions are suspended and resumed, and none is reset while it is
suspended, a vCPU is selectable exactly when its history says so; and that is exactly what a
next step needs to follow the life cycle.
-/
theorem vCpus_follow_lifeCycle {cfg : Config} {start s : State} {past : List Event}
    (created : Created cfg start)
    (run : Reach (guarded (OnPartitions cfg) (Next cfg)) start past s)
    : (∀ p v, v < cfg.noVCpus p → (Selectable s p v ↔ Runs p v past))
      ∧ ∀ event s', Next cfg s event s' →
        (FollowsLifeCycle cfg s event s' ↔ OnPartitions cfg s event) := by
  refine ⟨?_, fun event s' next => next.follows_iff⟩
  intro p v inside
  have started : (lifeOf (s.kThread p v)).halted = false
      ↔ Since (fun event _ => event.action p v = some .start)
        (fun event => event.action p v = some .halt) past := by
    refine run.since (P := fun s => (lifeOf (s.kThread p v)).halted = false) ?_ ?_
    · simp [created p v inside]
    · intro past s event s' _ taken
      have life := taken.2.life inside
      cases action : event.action p v with
      | none => simp [life, action]
      | some action' => cases action' <;> simp [life, action, Action.coded, Action.next]
  have suspended : (lifeOf (s.kThread p v)).suspended = true
      ↔ Since (fun event _ => event.action p v = some .suspend)
        (fun event => event.action p v = some .resume ∨ event.action p v = some .start)
        past := by
    refine run.since (P := fun s => (lifeOf (s.kThread p v)).suspended = true) ?_ ?_
    · simp [created p v inside]
    · intro past s event s' _ taken
      have life := taken.2.life inside
      have awake := taken.1.start p v inside
      cases action : event.action p v with
      | none => simp [life, action]
      | some action' =>
          cases action' with
          | start => simp [life, action, Action.coded, awake action]
          | halt | suspend | resume => simp [life, action, Action.coded, Action.next]
  rw [Runs, ← started, ← suspended, Selectable]
  cases lifeOf (s.kThread p v)
  simp

/-- A partition of one vCPU, which is no system partition. -/
def oneVCpu : Config where
  noPartitions := 1
  noVCpus _ := 1
  system _ := false

/-- Every vCPU as `CreatePartition` leaves it. -/
def haltedVCpus : State where
  kThread _ _ := { flags := KTHREAD_HALTED_F, g := none }
  opMode _ := .idle

/-- The partition resets itself. -/
def restart : Event where
  caller := { partitionId := 0, vCpuId := 0 }
  op := .resetPartition 0 XM_WARM_RESET true
  ret := none

/-- The partition after it was started. -/
def restarted : State :=
  (restart.op.run oneVCpu restart.caller haltedVCpus).2

theorem haltedVCpus_created : Created oneVCpu haltedVCpus := by
  intro p v _
  have halted : lifeOf { flags := KTHREAD_HALTED_F, g := none }
      = { halted := true, suspended := false } := by decide
  exact halted

theorem restart_allowed : OnPartitions oneVCpu haltedVCpus restart where
  suspend v _ op := by cases op
  resume v _ op := by cases op
  start p v inside _ := by rw [haltedVCpus_created p v inside]

theorem vCpus_follow_lifeCycle_oneVCpu
    : Created oneVCpu haltedVCpus
      ∧ Reach (guarded (OnPartitions oneVCpu) (Next oneVCpu)) haltedVCpus [restart] restarted
      ∧ (Selectable restarted 0 0 ↔ Runs 0 0 [restart]) := by
  have taken : guarded (OnPartitions oneVCpu) (Next oneVCpu) haltedVCpus restart restarted :=
    ⟨restart_allowed, rfl⟩
  have run := Reach.step .start taken
  obtain ⟨selectable, -⟩ := vCpus_follow_lifeCycle haltedVCpus_created run
  exact ⟨haltedVCpus_created, run, selectable 0 0 (by decide)⟩

/-- The vCPU of a partition that runs asks to be suspended, and nothing happens. -/
def suspendSelf : Event where
  caller := { partitionId := 0, vCpuId := 0 }
  op := .suspendVCpu 0
  ret := some .noAction

/-- A selectable vCPU is not suspended, where its partition would be. -/
theorem selectable_vCpu_not_suspended
    : Reach (Next oneVCpu) haltedVCpus [restart] restarted
      ∧ Selectable restarted 0 0
      ∧ Next oneVCpu restarted suspendSelf restarted
      ∧ ¬ FollowsLifeCycle oneVCpu restarted suspendSelf restarted
      ∧ (suspendPartitionSys oneVCpu suspendSelf.caller 0 restarted).1 = some .ok := by
  have selectable : Selectable restarted 0 0 := by
    rw [Selectable]
    decide
  have next : Next oneVCpu restarted suspendSelf restarted := by
    have refused : suspendVCpuSys oneVCpu suspendSelf.caller 0 restarted
        = (some .noAction, restarted) := by
      rw [suspendVCpuSys, if_neg (by decide), if_pos (by decide)]
    exact refused
  refine ⟨.step .start rfl, selectable, next, ?_, rfl⟩
  intro follows
  exact (next.follows_iff.mp follows).suspend 0 (by decide) rfl

end XtratuM.Hypercalls
