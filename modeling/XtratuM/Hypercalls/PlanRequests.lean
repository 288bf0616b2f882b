import XtratuM.Hypercalls.Confinement

/-! Plan switches that partitions request, and the calls of the scheduler in which they take effect
on each processor.
-/

namespace XtratuM.Control

open Reachability
open XtratuM.Guest
open XtratuM.Hypercalls
open XtratuM.Sched

/-- The kernel with the time that all processors read. -/
structure Board where
  clock : Nat
  kernel : Kernel

/-- Changes the scheduler's data of a processor. -/
def Kernel.setCyclic (s : Kernel) (cpu : Nat) (cyclic : CyclicData) : Kernel :=
  { s with cyclic := fun c => if c = cpu then cyclic else s.cyclic c }

/-- What happens on the board: time passes, a processor looks for the kthread to run, a partition
requests a plan and is answered, vCPUs change, and a processor is told to look again or to go on
with its idle kthread.
-/
inductive PlanEvent
  | tick (elapsed : Nat)
  | getReadyKThread (cpu : Nat)
  | request (caller : Caller) (space : AddressSpace) (newPlanId currentPlanId : XmU32)
      (ret : XmRet)
  | vCpus (vCpu : XmU32 → XmU32 → VCpu)
  | reschedule (cpu : Nat)
  | yield (cpu : Nat)

def PlanNext (cfg : ControlConfig) (s : Board) (event : PlanEvent) (s' : Board) : Prop :=
  match event with
  | .tick elapsed => s' = { s with clock := s.clock + elapsed }
  | .getReadyKThread cpu =>
      ∃ newK kernel, getReadyKThread cfg s.clock cpu s.kernel = .ok (newK, kernel)
        ∧ s' = { s with kernel }
  | .request caller space newPlanId currentPlanId ret =>
      ∃ act, switchSchedPlanSys cfg caller space newPlanId currentPlanId s.kernel = .ok act
        ∧ act.ret = some ret ∧ s' = { s with kernel := act.kernel }
  | .vCpus vCpu => s' = { s with kernel := { s.kernel with vCpu } }
  | .reschedule cpu =>
      s' = { s with kernel := s.kernel.setCyclic cpu { s.kernel.cyclic cpu with resched := true } }
  | .yield cpu =>
      s' =
        { s with
          kernel := s.kernel.setCyclic cpu { s.kernel.cyclic cpu with kThread := some .idle } }

/-- The plan that the last request answered with `XM_OK` asked of a processor: before the first
one it is the plan that `InitSchedLocal` requests.
-/
def lastRequested (cfg : Sched.Config) : List PlanEvent → PlanRef
  | [] => .tab cfg.schedCyclicPlansOffset
  | .request _ _ newPlanId _ .ok :: _ => requestedPlan cfg newPlanId
  | _ :: past => lastRequested cfg past

/-- The plan in force, the one before and the time of the switch between them stay. -/
structure KeepsPlan (before after : CyclicData) : Prop where
  current : after.current = before.current
  prev : after.prev = before.prev
  planSwitchTime : after.planSwitchTime = before.planSwitchTime

/-- The frame in progress is over and `requested` is in force from `clock` on. Its first frame
starts at `clock`, and of its slots only those are passed over that end as they start there.
-/
structure StartsPlan (cfg : Sched.Config) (clock : Nat) (requested : PlanRef)
    (before after : CyclicData) : Prop where
  due : before.mjf ≤ clock
  current : after.current = some requested
  prev : after.prev = before.current
  planSwitchTime : after.planSwitchTime = clock
  sExec : after.sExec = clock
  slot_nonneg : 0 ≤ after.slot
  frame : ∃ plan, cfg.plan requested = .ok plan
    ∧ 0 < plan.majorFrame.toNat
    ∧ after.mjf = clock + plan.majorFrame.toNat
    ∧ Passed cfg plan 0 after.slot.toNat

/-- The cyclic scheduler of a processor, called now, looks for the kthread to run instead of
answering from the choice it kept, and the frame in progress is over.
-/
structure FrameOver (cfg : ControlConfig) (cpu : Nat) (s : Board) : Prop where
  cyclicPlan : cfg.fpSched cpu = false
  fresh : (s.kernel.cyclic cpu).nextAct ≤ s.clock ∨ (s.kernel.cyclic cpu).resched = true
  ended : (s.kernel.cyclic cpu).mjf ≤ s.clock

theorem KeepsPlan.refl (cyclic : CyclicData) : KeepsPlan cyclic cyclic :=
  ⟨rfl, rfl, rfl⟩

-----------------------------------------------------------------------------------------
-- Calls of the scheduler

/-- A switch to a plan with a major frame leaves its frame unused. -/
theorem makePlanSwitch_installs {cfg : Sched.Config} {cTime : Int} {cyclic switched : CyclicData}
    (other : cyclic.current ≠ some cyclic.new)
    (returned : makePlanSwitch cfg cTime cyclic = .ok switched)
    : ∃ plan, cfg.plan cyclic.new = .ok plan
      ∧ 0 < plan.majorFrame.toNat
      ∧ switched =
        { cyclic with
          prev := cyclic.current
          current := some cyclic.new
          planSwitchTime := cTime
          slot := -1
          mjf := 0 } := by
  simp only [makePlanSwitch, other, if_false] at returned
  obtain ⟨plan, read, returned⟩ := bind_eq_ok.mp returned
  split at returned
  · cases returned
  · next framed =>
      cases returned
      refine ⟨plan, read, ?_, rfl⟩
      exact Nat.pos_of_ne_zero fun zero => framed (BitVec.eq_of_toNat_eq zero)

/-- The data after a refresh: of the plan that was in force, which is the one requested when the
frame is over, or of a plan requested instead of it.
-/
theorem refreshFrame_plan {cfg : Sched.Config} {cTime : Int} {cyclic framed : CyclicData}
    (returned : refreshFrame cfg cTime cyclic = .ok framed)
    : (KeepsPlan cyclic framed ∧ (cyclic.mjf ≤ cTime → cyclic.current = some cyclic.new))
      ∨ cyclic.mjf ≤ cTime
        ∧ ∃ plan, cfg.plan cyclic.new = .ok plan
          ∧ 0 < plan.majorFrame.toNat
          ∧ framed =
            { cyclic with
              prev := cyclic.current
              current := some cyclic.new
              planSwitchTime := cTime
              sExec := cTime
              slot := 0
              mjf := plan.majorFrame.toNat + cTime } := by
  unfold refreshFrame at returned
  split at returned
  · next due =>
      obtain ⟨switched, switch, returned⟩ := bind_eq_ok.mp returned
      obtain ⟨plan, read, returned⟩ := bind_eq_ok.mp returned
      obtain ⟨entered, enter, returned⟩ := bind_eq_ok.mp returned
      cases returned
      by_cases same : cyclic.current = some cyclic.new
      · cases (makePlanSwitch_same same).symm.trans switch
        unfold enterFrame at enter
        split at enter
        · obtain ⟨sExec, rfl, _, _⟩ := catchUp_result enter due
          exact Or.inl ⟨⟨rfl, rfl, rfl⟩, fun _ => same⟩
        · cases enter
          exact Or.inl ⟨⟨rfl, rfl, rfl⟩, fun _ => same⟩
      · obtain ⟨plan', read', frame, rfl⟩ := makePlanSwitch_installs same switch
        cases read'.symm.trans read
        cases enter
        exact Or.inr ⟨due, plan, read', frame, rfl⟩
  · next inFrame =>
      cases returned
      exact Or.inl ⟨.refl cyclic, fun due => absurd due inFrame⟩

/-- A call keeps the plan in force, which one made anew when the frame is over only does to the
requested one, or starts the requested one.
-/
theorem getReadyKThreadCyclic_plan {cfg : Sched.Config} {m m' : Machine}
    {newK : Option KThreadRef} (returned : getReadyKThreadCyclic cfg m = .ok (newK, m'))
    : (KeepsPlan m.cyclic m'.cyclic
        ∧ (usesCache m = false → m.cyclic.mjf ≤ m.clock → m.cyclic.current = some m.cyclic.new))
      ∨ StartsPlan cfg m.clock m.cyclic.new m.cyclic m'.cyclic := by
  unfold getReadyKThreadCyclic at returned
  split at returned
  · next cached =>
      cases returned
      exact Or.inl ⟨.refl _, fun fresh => absurd (cached.symm.trans fresh) (by simp)⟩
  · obtain ⟨framed, refreshed, returned⟩ := bind_eq_ok.mp returned
    obtain ⟨plan, read, returned⟩ := bind_eq_ok.mp returned
    obtain ⟨⟨slot, decision⟩, chosen, returned⟩ := bind_eq_ok.mp returned
    obtain ⟨tab, _, returned⟩ := bind_eq_ok.mp returned
    cases returned
    rcases refreshFrame_plan refreshed with ⟨kept, inForce⟩ | ⟨due, plan', read', frame, rfl⟩
    · exact Or.inl ⟨⟨kept.current, kept.prev, kept.planSwitchTime⟩, fun _ => inForce⟩
    · cases read'.symm.trans read
      refine Or.inr
        { due
          current := rfl
          prev := rfl
          planSwitchTime := rfl
          sExec := rfl
          slot_nonneg := Int.natCast_nonneg slot
          frame := ⟨plan, read', frame, Int.add_comm _ _, ?_⟩ }
      -- The search starts at slot 0 and at offset 0.
      simp only [Int.sub_self] at chosen
      refine chooseSlot_passed ?_ chosen
      intro i before
      simp at before

-----------------------------------------------------------------------------------------
-- Requests

/-- A request that is answered with `XM_OK` sets the plan of every processor; no other request
changes the scheduler's data.
-/
theorem switchSchedPlanSys_requests {cfg : ControlConfig} {caller : Caller}
    {space : AddressSpace} {newPlanId currentPlanId : XmU32} {s : Kernel} {act : Act}
    (returned : switchSchedPlanSys cfg caller space newPlanId currentPlanId s = .ok act)
    {cpu : Nat} (inTable : cpu < cfg.noCpus)
    : act.kernel.cyclic cpu
      = if act.ret = some .ok then
          { s.cyclic cpu with new := requestedPlan (cfg.cyclic cpu) newPlanId }
        else s.cyclic cpu := by
  unfold switchSchedPlanSys at returned
  split at returned
  · cases returned
    rfl
  · obtain ⟨checked, _, returned⟩ := bind_eq_ok.mp returned
    split at returned
    · cases returned
      rfl
    · obtain ⟨current, _, returned⟩ := bind_eq_ok.mp returned
      split at returned
      · cases returned
        rfl
      · split at returned
        · cases returned
          rfl
        · cases returned
          simp [Act.back, inTable]

-----------------------------------------------------------------------------------------
-- Runs

/-- A call of a scheduler keeps the plans of the other processors. On its own it starts the
requested plan, or keeps the one in force, which is the requested one when the frame is over.
-/
theorem getReadyKThread_cyclic {cfg : ControlConfig} {clock cpu : Nat} {s s' : Kernel}
    {newK : Option KThreadRef} (returned : getReadyKThread cfg clock cpu s = .ok (newK, s'))
    (c : Nat)
    : (s'.cyclic c).new = (s.cyclic c).new
      ∧ ((KeepsPlan (s.cyclic c) (s'.cyclic c)
          ∧ (c = cpu → FrameOver cfg c { clock, kernel := s } →
            (s.cyclic c).current = some (s.cyclic c).new))
        ∨ c = cpu
          ∧ StartsPlan (cfg.cyclic c) clock (s.cyclic c).new (s.cyclic c) (s'.cyclic c)) := by
  refine ⟨(getReadyKThread_selected returned).requested c, ?_⟩
  unfold getReadyKThread at returned
  split at returned
  · next fixed =>
      obtain ⟨⟨newK', tab⟩, _, returned⟩ := bind_eq_ok.mp returned
      cases returned
      refine Or.inl ⟨.refl _, ?_⟩
      rintro rfl frame
      exact absurd (fixed.symm.trans frame.cyclicPlan) (by simp)
  · obtain ⟨⟨newK', m⟩, chosen, returned⟩ := bind_eq_ok.mp returned
    cases returned
    by_cases own : c = cpu
    · subst own
      simp only [if_true]
      rcases getReadyKThreadCyclic_plan chosen with ⟨kept, inForce⟩ | starts
      · refine Or.inl ⟨kept, fun _ frame => inForce ?_ frame.ended⟩
        have fresh := frame.fresh
        simp only [usesCache, getSysClockUsec, Bool.and_eq_false_iff, Bool.not_eq_false']
        exact fresh.imp_left fun early => decide_eq_false (Int.not_lt.mpr early)
      · exact Or.inr ⟨trivial, starts⟩
    · simp only [own, if_false]
      exact Or.inl ⟨.refl _, False.elim⟩

theorem setCyclic_keeps (s : Kernel) {cpu : Nat} {cyclic : CyclicData}
    (kept : KeepsPlan (s.cyclic cpu) cyclic) (new : cyclic.new = (s.cyclic cpu).new) (c : Nat)
    : ((s.setCyclic cpu cyclic).cyclic c).new = (s.cyclic c).new
      ∧ KeepsPlan (s.cyclic c) ((s.setCyclic cpu cyclic).cyclic c) := by
  unfold Kernel.setCyclic
  by_cases own : c = cpu
  · subst own
    simp only [if_true]
    exact ⟨new, kept⟩
  · simp only [own, if_false]
    exact ⟨trivial, .refl _⟩

/-- What a step does to the data of a processor: the requested plan is the last that was asked for,
and only a call of its own scheduler starts a plan, which it does when the frame is over and another
plan is in force.
-/
theorem planNext_step {cfg : ControlConfig} {past : List PlanEvent} {s s' : Board}
    {event : PlanEvent} {cpu : Nat} (inTable : cpu < cfg.noCpus)
    (requested : (s.kernel.cyclic cpu).new = lastRequested (cfg.cyclic cpu) past)
    (taken : PlanNext cfg s event s')
    : (s'.kernel.cyclic cpu).new = lastRequested (cfg.cyclic cpu) (event :: past)
      ∧ ((KeepsPlan (s.kernel.cyclic cpu) (s'.kernel.cyclic cpu)
          ∧ (event = .getReadyKThread cpu → FrameOver cfg cpu s →
            (s.kernel.cyclic cpu).current = some (lastRequested (cfg.cyclic cpu) past)))
        ∨ event = .getReadyKThread cpu
          ∧ StartsPlan (cfg.cyclic cpu) s.clock (lastRequested (cfg.cyclic cpu) past)
            (s.kernel.cyclic cpu) (s'.kernel.cyclic cpu)) := by
  cases event with
  | tick elapsed =>
      cases taken
      exact ⟨requested, Or.inl ⟨.refl _, nofun⟩⟩
  | getReadyKThread cpu' =>
      obtain ⟨newK, kernel, called, rfl⟩ := taken
      obtain ⟨new, plan⟩ := getReadyKThread_cyclic called cpu
      refine ⟨new.trans requested, ?_⟩
      rw [requested] at plan
      rcases plan with ⟨kept, inForce⟩ | ⟨rfl, starts⟩
      · refine Or.inl ⟨kept, fun own => ?_⟩
        cases own
        exact inForce rfl
      · exact Or.inr ⟨rfl, starts⟩
  | request caller space newPlanId currentPlanId ret =>
      obtain ⟨act, called, answered, rfl⟩ := taken
      have after := switchSchedPlanSys_requests called inTable
      rw [answered] at after
      dsimp only
      rw [after]
      by_cases granted : ret = .ok
      · subst granted
        exact ⟨rfl, Or.inl ⟨⟨rfl, rfl, rfl⟩, nofun⟩⟩
      · have refused : lastRequested (cfg.cyclic cpu)
            (.request caller space newPlanId currentPlanId ret :: past)
            = lastRequested (cfg.cyclic cpu) past := by
          cases ret with
          | ok => exact absurd rfl granted
          | _ => rfl
        simp only [Option.some.injEq, granted, if_false]
        exact ⟨requested.trans refused.symm, Or.inl ⟨.refl _, nofun⟩⟩
  | vCpus vCpu =>
      cases taken
      exact ⟨requested, Or.inl ⟨.refl _, nofun⟩⟩
  | reschedule cpu' =>
      cases taken
      have kept : KeepsPlan (s.kernel.cyclic cpu')
          { s.kernel.cyclic cpu' with resched := true } :=
        ⟨rfl, rfl, rfl⟩
      obtain ⟨new, kept⟩ := setCyclic_keeps s.kernel kept rfl cpu
      exact ⟨new.trans requested, Or.inl ⟨kept, nofun⟩⟩
  | yield cpu' =>
      cases taken
      have kept : KeepsPlan (s.kernel.cyclic cpu')
          { s.kernel.cyclic cpu' with kThread := some .idle } :=
        ⟨rfl, rfl, rfl⟩
      obtain ⟨new, kept⟩ := setCyclic_keeps s.kernel kept rfl cpu
      exact ⟨new.trans requested, Or.inl ⟨kept, nofun⟩⟩

/-- The requested plan of a processor is the last that was asked for. -/
theorem reachable_requested {cfg : ControlConfig} {start s : Board} {cpu : Nat}
    (booted : start.kernel.cyclic cpu = initSchedLocal (cfg.cyclic cpu))
    (inTable : cpu < cfg.noCpus) {past : List PlanEvent}
    (run : Reach (PlanNext cfg) start past s)
    : (s.kernel.cyclic cpu).new = lastRequested (cfg.cyclic cpu) past := by
  refine run.preserves
    (P := fun past s => (s.kernel.cyclic cpu).new = lastRequested (cfg.cyclic cpu) past) ?_ ?_
  · rw [booted]
    rfl
  · intro past s event s' requested taken
    exact (planNext_step inTable requested taken).1

/-- A requested switch waits for the frame boundary: in every run, the plan of a processor only
changes in a call of its own scheduler made when the frame in progress is over, and its first frame
then starts at the time of the call. Every call that finds the frame over, and does not answer from
the choice it kept, leaves the last plan that was asked for in force.
-/
theorem planSwitch_at_boundary {cfg : ControlConfig} {start s s' : Board} {cpu : Nat}
    (booted : start.kernel.cyclic cpu = initSchedLocal (cfg.cyclic cpu))
    (inTable : cpu < cfg.noCpus) {past : List PlanEvent}
    (run : Reach (PlanNext cfg) start past s) {event : PlanEvent}
    (taken : PlanNext cfg s event s')
    : (KeepsPlan (s.kernel.cyclic cpu) (s'.kernel.cyclic cpu)
        ∨ event = .getReadyKThread cpu
          ∧ StartsPlan (cfg.cyclic cpu) s.clock (lastRequested (cfg.cyclic cpu) past)
            (s.kernel.cyclic cpu) (s'.kernel.cyclic cpu))
      ∧ (event = .getReadyKThread cpu → FrameOver cfg cpu s →
        (s'.kernel.cyclic cpu).current = some (lastRequested (cfg.cyclic cpu) past)) := by
  rcases (planNext_step inTable (reachable_requested booted inTable run) taken).2
    with ⟨kept, inForce⟩ | ⟨call, starts⟩
  · refine ⟨Or.inl kept, fun call frame => ?_⟩
    rw [kept.current]
    exact inForce call frame
  · exact ⟨Or.inr ⟨call, starts⟩, fun _ _ => starts.current⟩

/-- One processor with two plans of idle frames, and system partitions only. -/
def idlePlans : ControlConfig :=
  { twoPartitions with
    calls := { twoPartitions.calls with system := fun _ => true }
    fpSched := fun _ => false
    cyclic := fun _ =>
      { slotTab := []
        planTab :=
          [{ id := 0, majorFrame := 10, noSlots := 0, slotsOffset := 0 },
            { id := 1, majorFrame := 20, noSlots := 0, slotsOffset := 0 }]
        schedCyclicPlansOffset := 0
        noSchedCyclicPlans := 2
        noPartitions := 2 } }

def idleBoard : Board where
  clock := 0
  kernel := { coldPartitions with cyclic := fun cpu => initSchedLocal (idlePlans.cyclic cpu) }

/-- The second plan, requested in the first frame of the first one, starts at its end. -/
theorem planSwitch_at_boundary_idlePlans
    : ∃ (past : List PlanEvent) (s s' : Board), Reach (PlanNext idlePlans) idleBoard past s
      ∧ FrameOver idlePlans 0 s
      ∧ (s.kernel.cyclic 0).current = some (.tab 0)
      ∧ (s'.kernel.cyclic 0).current = some (.tab 1)
      ∧ StartsPlan (idlePlans.cyclic 0) 10 (.tab 1) (s.kernel.cyclic 0) (s'.kernel.cyclic 0) := by
  let space : AddressSpace :=
    { byte := fun _ => 0, readable := fun _ => true, writable := fun _ => true }
  let caller : Caller := { partitionId := 0, vCpuId := 0 }
  have calls :
      (do
        let first ← getReadyKThread idlePlans 0 0 idleBoard.kernel
        let act ← switchSchedPlanSys idlePlans caller space 1 0x1000 first.2
        assert (act.ret = some XmRet.ok)
        let last ← getReadyKThread idlePlans 10 0 act.kernel
        pure ((act.kernel.cyclic 0).current, (act.kernel.cyclic 0).nextAct,
          (act.kernel.cyclic 0).mjf))
        = .ok (some (.tab 0), 10, 10) := by
    decide
  obtain ⟨⟨newK, first⟩, called, calls⟩ := bind_eq_ok.mp calls
  obtain ⟨act, requested, calls⟩ := bind_eq_ok.mp calls
  obtain ⟨_, granted, calls⟩ := bind_eq_ok.mp calls
  obtain ⟨⟨newK', last⟩, calledAgain, calls⟩ := bind_eq_ok.mp calls
  obtain ⟨before, frame⟩ := Prod.mk.inj (Except.ok.inj calls)
  obtain ⟨nextAct, mjf⟩ := Prod.mk.inj frame
  have starts : PlanNext idlePlans idleBoard (.getReadyKThread 0) { clock := 0, kernel := first } :=
    ⟨newK, first, called, rfl⟩
  have requests : PlanNext idlePlans { clock := 0, kernel := first }
      (.request caller space 1 0x1000 .ok) { clock := 0, kernel := act.kernel } :=
    ⟨act, requested, assert_ok.mp granted, rfl⟩
  have waits : PlanNext idlePlans { clock := 0, kernel := act.kernel } (.tick 10)
      { clock := 10, kernel := act.kernel } :=
    rfl
  have switches : PlanNext idlePlans { clock := 10, kernel := act.kernel } (.getReadyKThread 0)
      { clock := 10, kernel := last } :=
    ⟨newK', last, calledAgain, rfl⟩
  have booted : idleBoard.kernel.cyclic 0 = initSchedLocal (idlePlans.cyclic 0) := rfl
  have run := Reach.step (.step (.step .start starts) requests) waits
  have frame : FrameOver idlePlans 0 { clock := 10, kernel := act.kernel } :=
    { cyclicPlan := rfl
      fresh := Or.inl (by simp [nextAct])
      ended := by simp [mjf] }
  obtain ⟨keepsOrStarts, inForce⟩ := planSwitch_at_boundary booted (by decide) run switches
  have current := inForce rfl frame
  refine ⟨_, _, { clock := 10, kernel := last }, run, frame, before, current, ?_⟩
  rcases keepsOrStarts with kept | ⟨_, starts⟩
  · cases (before.symm.trans kept.current.symm).trans current
  · exact starts

end XtratuM.Control
