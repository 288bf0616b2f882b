import XtratuM.Kernel.KThread

/-! The cyclic scheduler of one processor: plans and slots as compiled from the
configuration, the state kept between calls, and `GetReadyKThreadCyclic`.
-/

namespace XtratuM.Sched

-----------------------------------------------------------------------------------------
-- Configuration tables

/-- `struct xmcSchedCyclicSlot`: offsets in microseconds from the start of the frame. -/
structure CyclicSlot where
  id : XmU32
  partitionId : XmU32
  vCpuId : XmU32
  sExec : XmU32
  eExec : XmU32
  deriving DecidableEq, Repr

/-- `struct xmcSchedCyclicPlan`. -/
structure CyclicPlan where
  id : XmU32
  majorFrame : XmU32
  noSlots : Nat
  slotsOffset : Nat
  deriving DecidableEq, Repr

/-- The tables of `xmcTab` that the scheduler of a processor reads. -/
structure Config where
  slotTab : List CyclicSlot
  planTab : List CyclicPlan
  schedCyclicPlansOffset : Nat
  noSchedCyclicPlans : Nat
  noPartitions : Nat

/-- A `const struct xmcSchedCyclicPlan *`, compared as a pointer by the plan switch. -/
inductive PlanRef
  | idle
  | tab (index : Nat)
  deriving DecidableEq, Repr

/-- `idleCyclicPlanTab`. -/
def idleCyclicPlanTab : CyclicPlan where
  id := 0
  majorFrame := 0
  noSlots := 0
  slotsOffset := 0

/-- Reads a plan through its pointer. -/
def Config.plan (cfg : Config) : PlanRef → Except Stop CyclicPlan
  | .idle => .ok idleCyclicPlanTab
  | .tab index =>
      match cfg.planTab[index]? with
      | some plan => .ok plan
      | none => .error .badAccess

/-- Reads `xmcSchedCyclicSlotTab[entry]`. -/
def Config.slot (cfg : Config) (entry : Nat) : Except Stop CyclicSlot :=
  match cfg.slotTab[entry]? with
  | some slot => .ok slot
  | none => .error .badAccess

/-- The slots of a plan, in table order. -/
def Config.slotsOf (cfg : Config) (plan : CyclicPlan) : List CyclicSlot :=
  (cfg.slotTab.drop plan.slotsOffset).take plan.noSlots

/-- The loop of `CheckSchedCyclicPlan`, with `t` the end of the slot before. A reported
line error ends the parser, so the result says whether none was reported.
-/
def checkSlots (majorFrame : XmU32) : XmU32 → List CyclicSlot → Bool
  | _, [] => true
  | t, slot :: rest =>
      if t > slot.sExec then
        false
      else if slot.eExec > majorFrame then
        false
      else
        checkSlots majorFrame slot.eExec rest

/-- `CheckSchedCyclicPlan`. -/
def checkSchedCyclicPlan (cfg : Config) (plan : CyclicPlan) : Bool :=
  checkSlots plan.majorFrame 0 (cfg.slotsOf plan)

-----------------------------------------------------------------------------------------
-- State kept between calls

/-- The fields of `kTimer_t` that arming it writes. -/
structure KTimer where
  value : Int
  interval : Int
  armed : Bool
  deriving DecidableEq, Repr

/-- `ArmKTimer`. -/
def armKTimer (_kTimer : KTimer) (value interval : Int) : KTimer :=
  { value, interval, armed := true }

/-- `struct cyclicData`; `resched` is the `RESCHED_ENABLED` bit of `flags`. -/
structure CyclicData where
  kTimer : KTimer
  current : Option PlanRef
  new : PlanRef
  prev : Option PlanRef
  slot : Int
  mjf : Int
  sExec : Int
  planSwitchTime : Int
  nextAct : Int
  kThread : Option KThreadRef
  resched : Bool

/-- What the scheduler reads and writes: the system clock, its own data and the kthreads. -/
structure Machine where
  clock : Nat
  cyclic : CyclicData
  idleKThread : KThread
  kThreadTab : KThreadTab

/-- Reads a kthread through its pointer. -/
def Machine.kThread (m : Machine) : KThreadRef → Option KThread
  | .idle => some m.idleKThread
  | .vCpu partitionId vCpuId => m.kThreadTab partitionId vCpuId

/-- `GetSysClockUsec`. -/
def getSysClockUsec (m : Machine) : Int := m.clock

/-- `InitSchedLocal`: the data is zeroed and the first plan of the processor requested. -/
def initSchedLocal (cfg : Config) : CyclicData where
  kTimer := { value := 0, interval := 0, armed := false }
  current := none
  new := .tab cfg.schedCyclicPlansOffset
  prev := none
  slot := -1
  mjf := 0
  sExec := 0
  planSwitchTime := 0
  nextAct := 0
  kThread := none
  resched := false

-----------------------------------------------------------------------------------------
-- Operations

/-- The identifier `SwitchSchedPlan` reports for the plan in force. -/
def currentPlanId (cfg : Config) (cyclic : CyclicData) : Except Stop Int :=
  match cyclic.current with
  | some current => (cfg.plan current).map (·.id.toInt)
  | none => .ok (-1)

/-- `SwitchSchedPlan`: the requested plan changes, nothing else. -/
def switchSchedPlan (cfg : Config) (newPlanId : Nat) (cyclic : CyclicData)
    : Except Stop (Int × CyclicData) := do
  let oldPlanId ← currentPlanId cfg cyclic
  let new : PlanRef :=
    if newPlanId < cfg.noSchedCyclicPlans then
      .tab (cfg.schedCyclicPlansOffset + newPlanId)
    else
      .idle
  pure (oldPlanId, { cyclic with new })

/-- The requested plan comes into force, with an unused frame. -/
def installPlan (cTime : Int) (cyclic : CyclicData) : CyclicData :=
  { cyclic with
    prev := cyclic.current
    current := some cyclic.new
    planSwitchTime := cTime
    slot := -1
    mjf := 0 }

/-- `MakePlanSwitch`: a plan without a major frame is installed too, but sends the processor to
`IdleTask`.
-/
def makePlanSwitch (cfg : Config) (cTime : Int) (cyclic : CyclicData)
    : Except Stop CyclicData := do
  if cyclic.current = some cyclic.new then
    pure cyclic
  else
    let plan ← cfg.plan cyclic.new
    if plan.majorFrame = 0 then
      .error .idleTask
    else
      pure (installPlan cTime cyclic)

/-- `while (mjf <= cTime) { sExec = mjf; mjf += majorFrame; }` -/
def catchUp (majorFrame : XmU32) (cTime : Int)
    : Nat → CyclicData → Except Stop CyclicData
  | 0, _ => .error .diverges
  | fuel + 1, cyclic =>
      if cyclic.mjf ≤ cTime then
        catchUp majorFrame cTime fuel
          { cyclic with sExec := cyclic.mjf, mjf := cyclic.mjf + majorFrame.toNat }
      else
        .ok cyclic

/-- The passes the loop over missed frames may need: one per microsecond at worst. -/
def catchUpFuel (cTime : Int) (cyclic : CyclicData) : Nat :=
  (cTime - cyclic.mjf).toNat + 2

/-- Reads the current plan; before the first switch the pointer is null. -/
def currentPlan (cfg : Config) (cyclic : CyclicData) : Except Stop CyclicPlan :=
  match cyclic.current with
  | some current => cfg.plan current
  | none => .error .badAccess

/-- Where the frame that contains `cTime` starts: a plan just installed starts it now. -/
def enterFrame (plan : CyclicPlan) (cTime : Int) (cyclic : CyclicData)
    : Except Stop CyclicData :=
  if 0 ≤ cyclic.slot then
    catchUp plan.majorFrame cTime (catchUpFuel cTime cyclic) cyclic
  else
    .ok { cyclic with sExec := cTime, mjf := plan.majorFrame.toNat + cTime }

/-- The part of `GetReadyKThreadCyclic` taken when the frame in progress is over. -/
def startFrame (cfg : Config) (cTime : Int) (cyclic : CyclicData)
    : Except Stop CyclicData := do
  let switched ← makePlanSwitch cfg cTime cyclic
  let plan ← currentPlan cfg switched
  let framed ← enterFrame plan cTime switched
  pure { framed with slot := 0 }

/-- `if (cyclic->mjf <= cTime) { ... }` -/
def refreshFrame (cfg : Config) (cTime : Int) (cyclic : CyclicData)
    : Except Stop CyclicData :=
  if cyclic.mjf ≤ cTime then startFrame cfg cTime cyclic else .ok cyclic

/-- The loop that skips the slots already over. It stops at a slot that ends after `t`, or
past the last slot of the plan.
-/
def advanceSlot (cfg : Config) (plan : CyclicPlan) (t : XmU32)
    : Nat → Nat → Except Stop Nat
  | 0, _ => .error .diverges
  | fuel + 1, slot =>
      if slot ≥ plan.noSlots then
        .ok slot
      else do
        let entry ← cfg.slot (plan.slotsOffset + slot)
        if t ≥ entry.eExec then
          advanceSlot cfg plan t fuel (slot + 1)
        else
          .ok slot

/-- What the slot search decides: the kthread to run, and the frame offset at which the
scheduler wants to be called again.
-/
structure Decision where
  newK : Option KThreadRef
  nextTime : XmU32

/-- The choice made inside the slot the search stopped at. -/
def chooseInSlot (cfg : Config) (m : Machine) (plan : CyclicPlan) (t : XmU32) (slot : Nat)
    : Except Stop Decision := do
  let entry ← cfg.slot (plan.slotsOffset + slot)
  if t ≥ entry.sExec then
    assert (entry.partitionId.toNat < cfg.noPartitions)
    match m.kThreadTab entry.partitionId entry.vCpuId with
    | none => .error .assertion
    | some newK =>
        if newK.isReady then
          pure
            { newK := some (.vCpu entry.partitionId entry.vCpuId), nextTime := entry.eExec }
        else if slot + 1 < plan.noSlots then do
          let following ← cfg.slot (plan.slotsOffset + slot + 1)
          pure { newK := none, nextTime := following.sExec }
        else
          pure { newK := none, nextTime := plan.majorFrame }
  else
    pure { newK := none, nextTime := entry.sExec }

/-- The cursor as a table index; a negative one points before the plan's slots. -/
def cursor (slot : Int) : Except Stop Nat :=
  if 0 ≤ slot then .ok slot.toNat else .error .badAccess

/-- From `t` to the label `out`: without a slot left the rest of the frame is idle. -/
def chooseSlot (cfg : Config) (m : Machine) (plan : CyclicPlan) (t : XmU32) (slot : Int)
    : Except Stop (Nat × Decision) := do
  let first ← cursor slot
  let found ← advanceSlot cfg plan t (plan.noSlots + 1) first
  if found ≥ plan.noSlots then
    pure (found, { newK := none, nextTime := plan.majorFrame })
  else do
    let decision ← chooseInSlot cfg m plan t found
    pure (found, decision)

/-- What a guest is told when it is dispatched: the slot, normal mode and the slot-start
interrupt.
-/
def dispatch (slot : Int) (entry : CyclicSlot) (k : KThread) : KThread :=
  match k.g with
  | none => k
  | some g =>
      setExtIrqPending
        { k with
          g :=
            some
              { opMode := .normal
                partCtrlTab :=
                  { g.partCtrlTab with
                    schedInfo :=
                      { noSlot := slot
                        id := entry.id
                        slotDuration := entry.eExec - entry.sExec } } } }
        XM_VT_EXT_CYCLIC_SLOT_START

/-- The guest told about its dispatch, when one was chosen. -/
def notifyGuest (cfg : Config) (plan : CyclicPlan) (slot : Nat) (m : Machine)
    : Option KThreadRef → Except Stop KThreadTab
  | some (.vCpu partitionId vCpuId) =>
      match m.kThreadTab partitionId vCpuId with
      | none => .error .badAccess
      | some k => do
          let entry ← cfg.slot (plan.slotsOffset + slot)
          pure (m.kThreadTab.set partitionId vCpuId (dispatch slot entry k))
  | _ => pure m.kThreadTab

/-- The part of `GetReadyKThreadCyclic` that recomputes the choice. -/
def recompute (cfg : Config) (m : Machine) : Except Stop (Option KThreadRef × Machine) := do
  let cTime := getSysClockUsec m
  let cleared := { m.cyclic with resched := false }
  let framed ← refreshFrame cfg cTime cleared
  let plan ← currentPlan cfg framed
  let t : XmU32 := BitVec.ofInt 32 (cTime - framed.sExec)
  let (slot, decision) ← chooseSlot cfg m plan t framed.slot
  let nextAct : Int := decision.nextTime.toNat + framed.sExec
  let kThreadTab ← notifyGuest cfg plan slot m decision.newK
  pure
    (decision.newK,
      { m with
        cyclic :=
          { framed with
            slot := slot
            nextAct
            kTimer := armKTimer framed.kTimer nextAct 0
            kThread := decision.newK }
        kThreadTab })

/-- The cached choice, dropped for this call when its kthread may not run. -/
def cachedKThread (m : Machine) : Option KThreadRef := do
  let ref ← m.cyclic.kThread
  let k ← m.kThread ref
  if k.isReady then some ref else none

/-- Whether `GetReadyKThreadCyclic` may answer from the choice it kept. -/
def usesCache (m : Machine) : Bool :=
  m.cyclic.nextAct > getSysClockUsec m && !m.cyclic.resched

/-- `GetReadyKThreadCyclic`; `none` stands for the null pointer. -/
def getReadyKThreadCyclic (cfg : Config) (m : Machine)
    : Except Stop (Option KThreadRef × Machine) :=
  if usesCache m then
    .ok (cachedKThread m, m)
  else
    recompute cfg m

/-- The assignment of `SchedYield`; the `Schedule` that follows calls
`GetReadyKThreadCyclic` unless scheduling is disabled or an interrupt is in progress.
-/
def schedYield (m : Machine) (k : KThreadRef) : Machine :=
  { m with cyclic := { m.cyclic with kThread := some k } }

end XtratuM.Sched
