import XtratuM.Faults.Escalation

/-! Faults and the end of the system: on a system that an accepted configuration describes every
fault is handled, and whether it stops the system depends on the configuration and the fault
alone, not on what happened before.
-/

namespace XtratuM.Faults

open XtratuM.Objects (LogState XmHmLog hmEvent partitionErrorLog HMLOG_OPCODE_SYS_MASK
  XM_HM_EV_PARTITION_ERROR)
open XtratuM.Parser (HmAction HmEventId HmTab HmDocument Permits XM_HM_MAX_EVENTS
  hmPartEventsAndActions hmHpvEventsAndActions hmEvents)
open XtratuM.Hypercalls (Caller)
open XtratuM.Irqs (KTHREAD_TRAP_PENDING_F NO_TRAPS)

-----------------------------------------------------------------------------------------
-- What stops the system

/-- An exception in a guest; one that has no event of its own is a panic of the system. -/
def GuestTrapStops (cfg : Config) (c : Circumstances) (t : Trap) (k : Caller) : Prop :=
  ∀ action ∈ actionOf (cfg.partHmTab k.partitionId) (trapEvent t),
    EndsSystem action ∨ (action = .propagate ∧ t.emulates = false ∧ PanicStops cfg c)

def TrapStops (cfg : Config) (exPTable : List (List (XmU32 × XmU32))) (c : Circumstances)
    (t : Trap) : Prop :=
  NO_TRAPS ≤ t.irqNr
    ∨ (isInPartExTable exPTable c.pc = 0
      ∧ (t.supervisor = true ∨ ∀ k ∈ c.current, GuestTrapStops cfg c t k))

/-- A fault that stops the system. -/
def Stops (cfg : Config) (exPTable : List (List (XmU32 × XmU32))) (c : Circumstances)
    : Fault → Prop
  | .trap t => TrapStops cfg exPTable c t
  | .irq _ =>
      c.current = none
        ∨ ∀ action ∈ actionOf cfg.hpvHmTab XM_HM_EV_UNEXPECTED_TRAP, EndsHypervisor action
  | .watchdog k =>
      ∀ action ∈ actionOf (cfg.partHmTab k.partitionId) XM_HM_EV_WATCHDOG_TIMER,
        EndsSystem action
  | .traceEvent k payload =>
      (hmEvent (partitionErrorLog (kidOf k) c.stack payload)).system = true
        ∨ ∀ action ∈ actionOf (cfg.partHmTab k.partitionId) XM_HM_EV_PARTITION_ERROR,
          EndsSystem action
  | .partitionPanic => PanicStops cfg c
  | .systemPanic => True

/-- What the hardware and the timers can do: a guest's exception needs a guest, the processor
does not raise the reserved exception, and the vCPUs are configured.
-/
structure Fits (cfg : Config) (c : Circumstances) (fault : Fault) : Prop where
  current : ∀ k ∈ c.current, Inside cfg k
  trap : ∀ t, fault = .trap t → (t.supervisor = false → c.current ≠ none) ∧ t.irqNr ≠ 15
  watchdog : ∀ k, fault = .watchdog k → Inside cfg k
  traceEvent : ∀ k payload, fault = .traceEvent k payload → Inside cfg k

/-- Handles faults one after the other, until the system is stopped. -/
def serve (cfg : Config) (exPTable : List (List (XmU32 × XmU32)))
    : List (Circumstances × Fault) → State → Except Stop State
  | [], s => .ok s
  | (c, fault) :: rest, s => do
      let result ← handle cfg exPTable c fault s
      if result.2.power = .running then
        serve cfg exPTable rest result.2
      else
        pure result.2

-----------------------------------------------------------------------------------------
-- Exceptions

/-- An exception of the hypervisor's own, or a fault above its address, ends the system. -/
theorem hpv_trap {event : HmEventId} (trap : event = 5 ∨ 7 ≤ event.val) {action : HmAction}
    (permitted : Permits hmHpvEventsAndActions event action)
    : EndsHypervisor action := by
  have quiet : ∀ event : HmEventId, event = 5 ∨ 7 ≤ event.val →
      ¬ Permits hmHpvEventsAndActions event .ignore
        ∧ ¬ Permits hmHpvEventsAndActions event .switchToMaintenance := by
    decide
  obtain ⟨noIgnore, noMaintenance⟩ := quiet event trap
  refine ⟨?_, ?_⟩
  · rintro rfl
    exact noIgnore permitted
  · rintro rfl
    exact noMaintenance permitted

theorem hpv_partitionError {action : HmAction} (permitted : Permits hmHpvEventsAndActions 2 action)
    : EndsHypervisor action := by
  cases action <;> first | exact absurd permitted (by decide) | simp [EndsHypervisor]

theorem hmEvents_named {event : HmEventId} (named : event ≠ 22) : hmEvents event ≠ none := by
  revert event
  decide

theorem trapEvent_small {t : Trap} (inside : t.irqNr < NO_TRAPS)
    : (trapEvent t).toNat = 5 ∨ (trapEvent t).toNat = t.irqNr + 7 := by
  have bound : NO_TRAPS = 32 := rfl
  unfold trapEvent
  split
  · exact Or.inl rfl
  · refine Or.inr ?_
    rw [BitVec.toNat_ofNat]
    exact Nat.mod_eq_of_lt (by
      have generic : XM_HM_MAX_GENERIC_EVENTS = 7 := rfl
      omega)

theorem Handled.gone {α : Type} {cfg : Config} {stops : Prop} {out : Result α}
    (handled : Handled cfg stops out) (always : stops)
    : out.1 = none := by
  by_contra back
  exact handled.stops.mpr always (handled.back back)

/-- A handler that ends the system leaves nothing to the one that called it. -/
theorem Handles.cutsShort {α β : Type} {cfg : Config} {stops : Prop} {out : Except Stop (Result α)}
    (handles : Handles cfg stops out) (always : stops) {rest : Result α → Except Stop (Result β)}
    (quiet : ∀ s, rest (none, s) = .ok (none, s))
    : Handles cfg stops (out >>= rest) := by
  obtain ⟨⟨answer, s⟩, rfl, handled⟩ := handles
  have gone : answer = none := handled.gone always
  rw [ok_bind, gone, quiet]
  exact ⟨_, rfl, Handled.ends handled.sane (handled.stops.mpr always) always⟩

theorem Handles.congr {α : Type} {cfg : Config} {stops stops' : Prop}
    {out : Except Stop (Result α)} (handles : Handles cfg stops out) (same : stops ↔ stops')
    : Handles cfg stops' out := by
  obtain ⟨result, ran, handled⟩ := handles
  exact ⟨result, ran, handled.congr same⟩

/-- A handler that has nothing more to do. -/
theorem Handles.done {α : Type} {cfg : Config} {stops : Prop} {out : Except Stop (Result α)}
    (handles : Handles cfg stops out)
    : Handles cfg stops
        (out.bind fun raised => .ok (raised.1.map fun _ => (), raised.2)) := by
  obtain ⟨result, rfl, handled⟩ := handles
  exact ⟨_, rfl, handled.map fun _ => ()⟩

section

variable {cfg : Config} {doc : HmDocument} {c : Circumstances} {s : State}

/-- An exception of the hypervisor's own stops the system. -/
theorem hypervisorTrap_ends (configured : Configured cfg doc)
    (inside : ∀ k, c.current = some k → Inside cfg k) (live : Live cfg s) {t : Trap}
    (exception : t.irqNr < NO_TRAPS) (raised15 : t.irqNr ≠ 15) {stops : Prop} (always : stops)
    : Handles cfg stops (hypervisorTrap cfg c t s) := by
  have bound : NO_TRAPS = 32 := rfl
  have number := trapEvent_small exception
  have below : (trapEvent t).toNat < 2 ^ 16 := by omega
  have read := trapLog_event inside configured.small true below
  have raises : Handles cfg stops (raiseEvent cfg c (trapLog c true (trapEvent t)) s) := by
    by_cases known : (trapEvent t).toNat < XM_HM_MAX_EVENTS
    · let event : HmEventId := ⟨(trapEvent t).toNat, known⟩
      have isTrap : event = 5 ∨ 7 ≤ event.val := by
        rcases number with five | more
        · exact Or.inl (Fin.ext five)
        · exact Or.inr (by rw [show event.val = (trapEvent t).toNat from rfl]; omega)
      have named : event ≠ 22 := by
        intro reserved
        have value : (trapEvent t).toNat = 22 := congrArg Fin.val reserved
        omega
      have table := configured.hpv
      have names : (hmEvent (trapLog c true (trapEvent t))).eventId.toNat = event.val := by
        rw [read]
      obtain ⟨logged, stillLive, raised⟩ :=
        hmRaiseEvent_system (c := c) live (trapLog_system c true (trapEvent t)) names 1
      have ends := hpv_trap isTrap (table.permitted.permitted event (hmEvents_named named))
      rw [raiseEvent, panicDepth, raised]
      exact (hpvAction_handled configured inside stillLive _ (table.maintenance event) 0).congr
        (iff_of_true ends always)
    · exact hmRaiseEvent_unknown configured inside live (by rw [read]; exact known) always
  exact raises.cutsShort always fun _ => rfl

theorem raisePendTrap_quiet (live : Live cfg s) (t : Trap)
    : raisePendTrap cfg c t s = .ok (some (), s) := by
  unfold raisePendTrap
  cases c.current with
  | none => rfl
  | some k => simp [isTrapPending, live.traps]

/-- A pending trap is delivered, or the guest panics. -/
theorem raisePendTrap_pending (configured : Configured cfg doc)
    (inside : ∀ k, c.current = some k → Inside cfg k) (live : Live cfg s) {k : Caller}
    (current : c.current = some k) (t : Trap)
    : Handles cfg (t.emulates = false ∧ PanicStops cfg c)
        (raisePendTrap cfg c t
          (changeCurrent k (setKThreadFlags · KTHREAD_TRAP_PENDING_F) s)) := by
  have pending :
      isTrapPending k (changeCurrent k (setKThreadFlags · KTHREAD_TRAP_PENDING_F) s) = true := by
    simp only [isTrapPending, changeCurrent, Hypercalls.State.change, List.mem_singleton, and_self,
      if_true, setKThreadFlags_areSet]
    rw [show (KTHREAD_TRAP_PENDING_F &&& KTHREAD_TRAP_PENDING_F != 0) = true by decide,
      Bool.or_true]
  have cleared : Live cfg
      (changeCurrent k (clearKThreadFlags · KTHREAD_TRAP_PENDING_F)
        (changeCurrent k (setKThreadFlags · KTHREAD_TRAP_PENDING_F) s)) := by
    refine ⟨⟨live.hmInit, live.log, live.plan, ?_⟩, live.running⟩
    intro p v
    simp only [changeCurrent, Hypercalls.State.change]
    split
    · exact clearKThreadFlags_cleared _ _
    · exact live.traps p v
  simp only [raisePendTrap, current, pending, if_true]
  cases emulates : t.emulates with
  | true => exact ⟨_, rfl, Handled.goesOn _ cleared (by simp)⟩
  | false =>
      exact (partitionPanic_handled configured inside cleared 1).congr (by simp)

/-- An exception in a guest: the action of its event, or the trap is left pending. -/
theorem guestTrap_handled (configured : Configured cfg doc) (live : Live cfg s) {k : Caller}
    (current : c.current = some k) (isInside : Inside cfg k) {t : Trap}
    (known : (trapEvent t).toNat < XM_HM_MAX_EVENTS) {action : HmAction}
    (configures : (cfg.partHmTab k.partitionId ⟨(trapEvent t).toNat, known⟩).action = action)
    : ∃ result, guestTrap cfg c t k s = .ok result
      ∧ (action ≠ .propagate → Handled cfg (EndsSystem action) result)
      ∧ (action = .propagate → ∃ logged, Live cfg logged
        ∧ result
          = (some (), changeCurrent k (setKThreadFlags · KTHREAD_TRAP_PENDING_F) logged)) := by
  have inside : ∀ other, c.current = some other → Inside cfg other := by
    intro other running
    rw [current] at running
    exact Option.some.inj running ▸ isInside
  have table : cfg.partTab k.partitionId = .ok (cfg.partHmTab k.partitionId) :=
    if_pos isInside.partitionId
  have below : (trapEvent t).toNat < 2 ^ 16 := lt_trans known (by decide)
  have leaves : ∀ state, Live cfg state →
      setTrapPending cfg c k state
        = .ok (some (), changeCurrent k (setKThreadFlags · KTHREAD_TRAP_PENDING_F) state) := by
    intro state stillLive
    simp [setTrapPending, isTrapPending, stillLive.traps]
  simp only [guestTrap, dif_pos known, table, ok_bind, configures]
  split
  · next fast =>
      rw [leaves s live]
      exact ⟨_, rfl, fun other => absurd fast.1 other, fun _ => ⟨s, live, rfl⟩⟩
  · have read := trapLog_event inside configured.small false below
    let event : HmEventId := ⟨(trapEvent t).toNat, known⟩
    have names : (hmEvent (trapLog c false (trapEvent t))).eventId.toNat = event.val := by
      rw [read]
    obtain ⟨logged, stillLive, -, raised⟩ :=
      hmRaiseEvent_partition (c := c) live (trapLog_system c false (trapEvent t)) names
        (trapLog_partition current isInside configured.small false (trapEvent t))
        isInside.partitionId 1
    rw [raiseEvent, panicDepth, raised, configures]
    have maintenance := (configured.part isInside.partitionId).maintenance
      ⟨(trapEvent t).toNat, known⟩
    rw [configures] at maintenance
    obtain ⟨result, ran, handled, answers, same⟩ :=
      partAction_handled (c := c) stillLive (isInside.partition configured.small)
        (hmEvent (trapLog c false (trapEvent t))).eventId maintenance (hmRaiseEvent cfg c 1)
    have keeps : result.1 ≠ some true → action ≠ .propagate :=
      fun no propagates => no (answers.mpr propagates)
    rw [ran, ok_bind]
    rcases answer : result.1 with _ | propagated
    · have other := keeps (by simp [answer])
      exact ⟨_, rfl, fun _ => ⟨handled.sane, handled.stops, fun back => absurd rfl back⟩,
        fun propagates => absurd propagates other⟩
    · cases propagated with
      | false =>
          have back : result.1 ≠ none := by simp [answer]
          have other := keeps (by simp [answer])
          exact ⟨_, rfl, fun _ => ⟨handled.sane, handled.stops, fun _ => handled.back back⟩,
            fun propagates => absurd propagates other⟩
      | true =>
          have propagates := answers.mp answer
          have state := same propagates
          rw [state]
          exact ⟨_, leaves logged stillLive, fun other => absurd propagates other,
            fun _ => ⟨logged, stillLive, rfl⟩⟩

/-- `CommonTrapBody` handles every exception. -/
theorem commonTrapBody_handled (configured : Configured cfg doc) (live : Live cfg s) {t : Trap}
    (fits : Fits cfg c (.trap t)) (exPTable : List (List (XmU32 × XmU32)))
    : Handles cfg (TrapStops cfg exPTable c t) (commonTrapBody cfg exPTable c t s) := by
  have inside : ∀ k, c.current = some k → Inside cfg k := fits.current
  obtain ⟨guest, raised15⟩ := fits.trap t rfl
  by_cases vector : NO_TRAPS ≤ t.irqNr
  · have always : TrapStops cfg exPTable c t := Or.inl vector
    simp only [commonTrapBody, doTrap, if_pos vector]
    exact (systemPanic_ends configured inside live 1 always).cutsShort always fun _ => rfl
  simp only [commonTrapBody, doTrap, if_neg vector]
  by_cases fixed : isInPartExTable exPTable c.pc = 0
  · rw [if_neg (not_not.mpr fixed)]
    cases supervisor : t.supervisor with
    | true =>
        have always : TrapStops cfg exPTable c t := Or.inr ⟨fixed, Or.inl supervisor⟩
        have ends :=
          hypervisorTrap_ends configured inside live (Nat.not_le.mp vector) raised15 always
        exact ends.cutsShort always fun _ => rfl
    | false =>
        obtain ⟨k, current⟩ := Option.ne_none_iff_exists'.mp (guest supervisor)
        have isInside := inside k current
        have stops_iff : TrapStops cfg exPTable c t ↔ GuestTrapStops cfg c t k := by
          simp [TrapStops, vector, fixed, supervisor, current]
        simp only [Bool.false_eq_true, if_false, current]
        by_cases known : (trapEvent t).toNat < XM_HM_MAX_EVENTS
        · generalize configures :
            (cfg.partHmTab k.partitionId ⟨(trapEvent t).toNat, known⟩).action = action
          have action_iff : GuestTrapStops cfg c t k
              ↔ EndsSystem action
                ∨ (action = .propagate ∧ t.emulates = false ∧ PanicStops cfg c) := by
            simp [GuestTrapStops, actionOf, known, configures]
          obtain ⟨result, ran, acts, propagates⟩ :=
            guestTrap_handled configured live current isInside known configures
          rw [ran, ok_bind]
          by_cases isPropagate : action = .propagate
          · obtain ⟨logged, stillLive, rfl⟩ := propagates isPropagate
            refine (raisePendTrap_pending configured inside stillLive current t).congr ?_
            rw [stops_iff, action_iff, isPropagate]
            simp [EndsSystem]
          · have handled := acts isPropagate
            have same : EndsSystem action ↔ TrapStops cfg exPTable c t := by
              rw [stops_iff, action_iff]
              simp [isPropagate]
            cases answer : result.1 with
            | none => exact ⟨_, rfl, (handled.congr same).sane, (handled.congr same).stops,
                fun back => absurd rfl back⟩
            | some _ =>
                have back : result.1 ≠ none := by simp [answer]
                rw [raisePendTrap_quiet (handled.live back)]
                exact ⟨_, rfl, handled.sane, handled.stops.trans same,
                  fun _ => handled.back back⟩
        · have always : TrapStops cfg exPTable c t := by
            rw [stops_iff]
            simp [GuestTrapStops, actionOf, known]
          simp only [guestTrap, dif_neg known]
          exact (systemPanic_ends configured inside live 1 always).cutsShort always fun _ => rfl
  · have never : ¬ TrapStops cfg exPTable c t := by
      rintro (high | ⟨notFixed, -⟩)
      · exact vector high
      · exact fixed notFixed
    rw [if_pos fixed, ok_bind]
    cases t.supervisor with
    | true => exact ⟨_, rfl, Handled.goesOn _ live never⟩
    | false =>
        simp only [Bool.false_eq_true, if_false, raisePendTrap_quiet live]
        exact ⟨_, rfl, Handled.goesOn _ live never⟩

-----------------------------------------------------------------------------------------
-- Faults

/-- An event of the hypervisor, with nothing to do afterwards. -/
theorem raiseEvent_system (configured : Configured cfg doc)
    (inside : ∀ k, c.current = some k → Inside cfg k) (live : Live cfg s) {log : XmHmLog}
    (system : (hmEvent log).system = true) {event : HmEventId}
    (read : (hmEvent log).eventId.toNat = event.val)
    : Handles cfg (EndsHypervisor (cfg.hpvHmTab event).action) (raiseEvent cfg c log s) := by
  obtain ⟨logged, stillLive, raised⟩ := hmRaiseEvent_system (c := c) live system read 1
  rw [raiseEvent, panicDepth, raised]
  exact hpvAction_handled configured inside stillLive _ (configured.hpv.maintenance event) 0

/-- An event of a partition, with nothing to do afterwards. -/
theorem raiseEvent_partition (configured : Configured cfg doc) (live : Live cfg s)
    {log : XmHmLog} (system : (hmEvent log).system = false) {event : HmEventId}
    (read : (hmEvent log).eventId.toNat = event.val) {k : Caller}
    (owner : (hmEvent log).partitionId = k.partitionId) (isInside : Inside cfg k)
    : Handles cfg (EndsSystem (cfg.partHmTab k.partitionId event).action)
        (raiseEvent cfg c log s) := by
  obtain ⟨logged, stillLive, -, raised⟩ :=
    hmRaiseEvent_partition (c := c) live system read owner isInside.partitionId 1
  obtain ⟨result, ran, handled, -⟩ :=
    partAction_handled (c := c) stillLive (isInside.partition configured.small)
      (hmEvent log).eventId ((configured.part isInside.partitionId).maintenance event)
      (hmRaiseEvent cfg c 1)
  rw [raiseEvent, panicDepth, raised]
  exact ⟨result, ran, handled⟩

theorem defaultIrqHandler_handled (configured : Configured cfg doc)
    (inside : ∀ k, c.current = some k → Inside cfg k) (live : Live cfg s) (irqNr : XmU32)
    : Handles cfg (c.current = none ∨ EndsHypervisor (cfg.hpvHmTab 6).action)
        (defaultIrqHandler cfg c irqNr s) := by
  cases current : c.current with
  | none =>
      have unknown : ¬ (hmEvent (irqLog c irqNr)).eventId.toNat < XM_HM_MAX_EVENTS := by
        rw [irqLog_idle current]
        decide
      exact (hmRaiseEvent_unknown configured inside live unknown (Or.inl rfl)).done
  | some k =>
      have read : (hmEvent (irqLog c irqNr)).eventId.toNat = (6 : HmEventId).val := by
        rw [irqLog_event current (inside k current) configured.small]
        rfl
      exact (raiseEvent_system configured inside live (irqLog_system c irqNr) read).done.congr
        (by simp)

theorem kThrWatchdogTimerHndl_handled (configured : Configured cfg doc) (live : Live cfg s)
    {k : Caller} (isInside : Inside cfg k)
    : Handles cfg (EndsSystem (cfg.partHmTab k.partitionId 3).action)
        (kThrWatchdogTimerHndl cfg c k s) := by
  have pending := live.change (setExtIrqPending_trap XM_VT_EXT_WATCHDOG_TIMER) k.partitionId
    [k.vCpuId]
  have read :
      (hmEvent (partEventLog XM_HM_EV_WATCHDOG_TIMER k)).eventId.toNat = (3 : HmEventId).val := by
    rw [partEventLog_event isInside configured.small (by decide)]
    rfl
  exact (raiseEvent_partition configured pending (partEventLog_system _ k) read
    (partEventLog_partition isInside configured.small _) isInside).done

/-- An unrecoverable trace event; what the stack held may make it one of the hypervisor. -/
theorem raiseTraceEvent_handled (configured : Configured cfg doc)
    (inside : ∀ k, c.current = some k → Inside cfg k) (live : Live cfg s) {k : Caller}
    (isInside : Inside cfg k) (payload : Fin 16 → BitVec 8)
    : Handles cfg
        ((hmEvent (partitionErrorLog (kidOf k) c.stack payload)).system = true
          ∨ EndsSystem (cfg.partHmTab k.partitionId 2).action)
        (raiseTraceEvent cfg c k payload s) := by
  have read : (hmEvent (partitionErrorLog (kidOf k) c.stack payload)).eventId.toNat
      = (2 : HmEventId).val := by
    rw [partitionErrorLog_event isInside configured.small]
    rfl
  cases system : (hmEvent (partitionErrorLog (kidOf k) c.stack payload)).system with
  | true =>
      have ends := hpv_partitionError (configured.hpv.permitted.permitted 2 (by decide))
      exact (raiseEvent_system configured inside live system read).done.congr
        (iff_of_true ends (Or.inl rfl))
  | false =>
      exact (raiseEvent_partition configured live system read
        (partitionErrorLog_partition isInside configured.small c.stack payload)
        isInside).done.congr (by simp)

theorem actionOf_unexpectedTrap (tab : HmTab)
    : actionOf tab XM_HM_EV_UNEXPECTED_TRAP = some (tab 6).action :=
  rfl

theorem actionOf_watchdogTimer (tab : HmTab)
    : actionOf tab XM_HM_EV_WATCHDOG_TIMER = some (tab 3).action :=
  rfl

theorem actionOf_partitionError (tab : HmTab)
    : actionOf tab XM_HM_EV_PARTITION_ERROR = some (tab 2).action :=
  rfl

/-- Every fault is handled, and stops the system exactly if it is one that does. -/
theorem handle_handled (configured : Configured cfg doc) (live : Live cfg s) {fault : Fault}
    (fits : Fits cfg c fault) (exPTable : List (List (XmU32 × XmU32)))
    : Handles cfg (Stops cfg exPTable c fault) (handle cfg exPTable c fault s) := by
  cases fault with
  | trap t => exact commonTrapBody_handled configured live fits exPTable
  | irq irqNr =>
      exact (defaultIrqHandler_handled configured fits.current live irqNr).congr
        (by simp [Stops, actionOf_unexpectedTrap])
  | watchdog k =>
      exact (kThrWatchdogTimerHndl_handled configured live (fits.watchdog k rfl)).congr
        (by simp [Stops, actionOf_watchdogTimer])
  | traceEvent k payload =>
      have isInside := fits.traceEvent k payload rfl
      exact (raiseTraceEvent_handled configured fits.current live isInside payload).congr
        (by simp [Stops, actionOf_partitionError])
  | partitionPanic => exact partitionPanic_handled configured fits.current live 1
  | systemPanic => exact systemPanic_ends configured fits.current live 1 trivial

end

def defaultDocument : HmDocument where
  hypervisorFirst := true
  hpv := []
  partitions := [[], []]
  cyclicPlans := [1]

def defaultConfig : Config where
  calls := { noPartitions := 2, noVCpus := fun _ => 1, system := fun _ => false }
  sched :=
    { slotTab := []
      planTab := [{ id := 0, majorFrame := 1000, noSlots := 0, slotsOffset := 0 }]
      schedCyclicPlansOffset := 0
      noSchedCyclicPlans := 1
      noPartitions := 2 }
  hpvHmTab := Parser.defaultHpvHmTab
  partHmTab := fun _ => Parser.defaultPartHmTab

/-- A log without a device. -/
def noLog : LogState XmHmLog where
  stream :=
    { info := { elemSize := 32, maxNoElem := 0, lock := 0, cHdr := 0 }
      ctrl := Objects.zeroCtrl }
  dev :=
    { size := 0
      hdr := Objects.initHdr 0 32
      record := fun _ => zeroLog
      output := [] }

def defaultStart : State where
  parts :=
    { kThread := fun _ _ => { flags := KTHREAD_READY_F, g := none }
      opMode := fun _ => .normal }
  cyclic := Sched.initSchedLocal defaultConfig.sched
  hmInit := true
  seq := 0
  hmLogStream := noLog
  resetStatusInit := 0
  power := .running

def firstVCpu : Caller where
  partitionId := 0
  vCpuId := 0

def guestRuns : Circumstances where
  current := some firstVCpu
  deferred := false
  selected := true
  now := 0
  valid := true
  pc := 0
  psr := 0
  stack := zeroLog

theorem defaultConfig_configured : Configured defaultConfig defaultDocument where
  tables := by
    refine ⟨⟨Parser.defaultHpvHmTab, [Parser.defaultPartHmTab, Parser.defaultPartHmTab]⟩,
      rfl, rfl, ?_⟩
    intro p inside
    have first : p = 0 ∨ p = 1 := by
      change p < 2 at inside
      bv_omega
    rcases first with rfl | rfl <;> rfl
  counted := List.mem_singleton_self 1
  plans := by
    intro i inside
    have zero : i = 0 := Nat.lt_one_iff.mp inside
    rw [zero]
    exact ⟨_, rfl⟩
  small := ⟨by decide, fun _ => show (1 : XmU32) ≤ 255 by decide⟩

theorem defaultStart_live : Live defaultConfig defaultStart where
  hmInit := rfl
  log := Or.inl rfl
  plan := by
    intro plan absent
    cases absent
  traps := fun _ _ =>
    show areKThreadFlagsSet { flags := KTHREAD_READY_F, g := none } KTHREAD_TRAP_PENDING_F = false
      by decide
  running := rfl

/-- The watchdog of the guest expires, and an interrupt comes that nobody handles. -/
def watchdogThenIrq : List (Circumstances × Fault) :=
  [(guestRuns, .watchdog firstVCpu), (guestRuns, .irq 3)]

theorem watchdogThenIrq_fits : ∀ f ∈ watchdogThenIrq, Fits defaultConfig f.1 f.2 := by
  have inside : Inside defaultConfig firstVCpu := ⟨by decide, by decide⟩
  have current : ∀ k ∈ guestRuns.current, Inside defaultConfig k := by
    intro k running
    cases running
    exact inside
  intro f member
  rcases List.mem_cons.mp member with rfl | member
  · refine ⟨current, by simp, ?_, by simp⟩
    intro k expired
    cases expired
    exact inside
  · cases List.mem_singleton.mp member
    exact ⟨current, by simp, by simp, by simp⟩

end XtratuM.Faults
