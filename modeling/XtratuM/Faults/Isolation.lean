import XtratuM.Faults.Containment

/-! Faults and the other partitions: whatever the configuration asks for, the handlers of a fault
of one partition change no vCPU of another. What the scheduler writes when it goes on to another
vCPU is not their part.
-/

namespace XtratuM.Faults

open XtratuM.Objects (XmHmLog hmEvent partitionErrorLog HMLOG_OPCODE_SYS_MASK)
open XtratuM.Parser (HmAction XM_HM_MAX_EVENTS)
open XtratuM.Hypercalls (Caller)
open XtratuM.Irqs (KTHREAD_TRAP_PENDING_F NO_TRAPS)

/-- The partition is as it was. -/
structure Untouched (q : XmU32) (s s' : State) : Prop where
  kThread : s'.parts.kThread q = s.parts.kThread q
  opMode : s'.parts.opMode q = s.parts.opMode q

/-- Whatever a handler returns, the partition is as it was. -/
def Spares {α : Type} (q : XmU32) (s : State) (out : Except Stop (Result α)) : Prop :=
  ∀ result s', out = .ok (result, s') → Untouched q s s'

/-- The fault is one of the partition itself. -/
def Concerns (c : Circumstances) (q : XmU32) : Fault → Prop
  | .trap _ | .partitionPanic => ∃ k ∈ c.current, k.partitionId = q
  | .watchdog k | .traceEvent k _ => k.partitionId = q
  | .irq _ | .systemPanic => False

section

variable {q : XmU32} {s : State}

theorem Untouched.refl (s : State) : Untouched q s s :=
  ⟨rfl, rfl⟩

theorem Untouched.trans {s' s'' : State} (first : Untouched q s s') (second : Untouched q s' s'')
    : Untouched q s s'' :=
  ⟨second.kThread.trans first.kThread, second.opMode.trans first.opMode⟩

theorem Untouched.change {p : XmU32} (other : p ≠ q) (vCpus : List XmU32)
    (change : KThread → KThread)
    : Untouched q s { s with parts := s.parts.change p vCpus change } where
  kThread := by
    funext v
    exact if_neg fun here => other here.1.symm
  opMode := rfl

theorem Untouched.setOpMode {p : XmU32} (other : p ≠ q) (opMode : OpMode)
    : Untouched q s { s with parts := s.parts.setOpMode p opMode } where
  kThread := rfl
  opMode := if_neg fun here => other here.symm

theorem Untouched.haltAll {p : XmU32} (other : p ≠ q) (cfg : Config)
    : Untouched q s (haltAll cfg p s) :=
  (Untouched.change other (cfg.calls.vCpus p) Hypercalls.halt).trans
    (Untouched.setOpMode other .idle)

theorem Spares.ok {α : Type} {s' : State} (result : Option α) (untouched : Untouched q s s')
    : Spares q s (.ok (result, s')) := by
  intro result' s'' returned
  cases returned
  exact untouched

theorem Spares.error {α : Type} (stop : Stop)
    : Spares (α := α) q s (.error stop) := by
  intro result s' returned
  cases returned

theorem Spares.after {α : Type} {s₀ : State} {out : Except Stop (Result α)}
    (spares : Spares q s out) (untouched : Untouched q s₀ s)
    : Spares q s₀ out :=
  fun result s' returned => untouched.trans (spares result s' returned)

theorem Spares.bind {α β : Type} {first : Except Stop (Result α)}
    {rest : Result α → Except Stop (Result β)} (spares : Spares q s first)
    (continues : ∀ result s', Spares q s' (rest (result, s')))
    : Spares q s (first >>= rest) := by
  intro result s' returned
  obtain ⟨raised, ran, returned⟩ := bind_eq_ok.mp returned
  exact (continues raised.1 raised.2).after (spares raised.1 raised.2 ran) result s' returned

end

section

variable {cfg : Config} {c : Circumstances} {q : XmU32} {s : State}

theorem logIf_untouched {enabled : Bool} {now : BitVec 64} {log : XmHmLog} {s' : State}
    (returned : logIf enabled now log s = .ok s')
    : Untouched q s s' := by
  cases enabled with
  | false =>
      cases returned
      exact .refl s
  | true =>
      obtain ⟨record, -, returned⟩ := bind_eq_ok.mp returned
      obtain ⟨inserted, -, returned⟩ := bind_eq_ok.mp returned
      cases returned
      exact ⟨rfl, rfl⟩

theorem switchToMaintenance_spares : Spares q s (switchToMaintenance cfg c s) := by
  intro result s' returned
  obtain ⟨requested, -, returned⟩ := bind_eq_ok.mp returned
  split at returned
  · cases returned
    exact ⟨rfl, rfl⟩
  · cases returned
    exact ⟨rfl, rfl⟩
  · cases returned

-----------------------------------------------------------------------------------------
-- Events and panics

theorem systemPanic_spares {raise : Raise}
    (raises : ∀ s, Spares q s (raise (panicLog c HMLOG_OPCODE_SYS_MASK) s)) {α : Type}
    : Spares (α := α) q s (systemPanic raise c s) := by
  refine (raises s).bind ?_
  intro result s'
  refine .ok _ ?_
  split
  · exact ⟨rfl, rfl⟩
  · exact .refl s'

theorem hpvAction_spares {raise : Raise}
    (raises : ∀ s, Spares q s (raise (panicLog c HMLOG_OPCODE_SYS_MASK) s)) (eventId : XmU32)
    (action : HmAction)
    : Spares q s (hpvAction cfg raise c eventId action s) := by
  cases action with
  | ignore => exact .ok _ (.refl s)
  | hypervisorColdReset | hypervisorWarmReset | hypervisorHalt => exact .ok _ ⟨rfl, rfl⟩
  | switchToMaintenance => exact switchToMaintenance_spares
  | shutdown | partitionColdReset | partitionWarmReset | suspend | partitionHalt | propagate =>
      exact systemPanic_spares raises

theorem resetOrHalt_spares {p : XmU32} (other : p ≠ q) (opMode : OpMode)
    : Spares q s (resetOrHalt cfg c p opMode s) := by
  have halted : Untouched q s (haltAll cfg p s) := .haltAll other cfg
  have started := (halted.trans (.setOpMode other opMode)).trans
    (.change other [0] fun k => Hypercalls.resetKThread (Hypercalls.setOpMode k opMode))
  cases valid : c.valid with
  | false =>
      simp only [resetOrHalt, Hypercalls.resetPartition, valid, Bool.not_false, if_true]
      exact .ok _ (halted.trans (.haltAll other cfg))
  | true =>
      simp only [resetOrHalt, Hypercalls.resetPartition, valid, Bool.not_true, Bool.false_eq_true,
        if_false]
      split <;> exact .ok _ started

theorem partAction_spares {raise : Raise}
    (raises : ∀ s, Spares q s (raise (panicLog c HMLOG_OPCODE_SYS_MASK) s)) {p : XmU32}
    (other : p ≠ q) (eventId : XmU32) (action : HmAction)
    : Spares q s (partAction cfg raise c p eventId action s) := by
  cases action with
  | ignore | propagate => exact .ok _ (.refl s)
  | shutdown => exact .ok _ (.change other _ _)
  | partitionColdReset | partitionWarmReset => exact resetOrHalt_spares other _
  | hypervisorColdReset | hypervisorWarmReset | hypervisorHalt => exact .ok _ ⟨rfl, rfl⟩
  | suspend =>
      rw [partAction]
      split
      · exact systemPanic_spares raises
      · exact .ok _ (.change other _ _)
  | partitionHalt =>
      rw [partAction]
      split
      · exact systemPanic_spares raises
      · exact .ok _ (.haltAll other cfg)
  | switchToMaintenance => exact switchToMaintenance_spares

/-- An event touches the partition it names and no other; one of the hypervisor touches none. -/
theorem hmRaiseEvent_spares (depth : Nat) {log : XmHmLog}
    (other : (hmEvent log).system = true ∨ (hmEvent log).partitionId ≠ q)
    : Spares q s (hmRaiseEvent cfg c depth log s) := by
  induction depth generalizing log s with
  | zero => exact .error _
  | succ depth ih =>
      have raises : ∀ s, Spares q s
          (hmRaiseEvent cfg c depth (panicLog c HMLOG_OPCODE_SYS_MASK) s) :=
        fun s => ih (Or.inl (panicLog_system c))
      rw [hmRaiseEvent]
      split
      · exact .ok _ (.refl s)
      · split
        · split
          · intro result s' returned
            obtain ⟨logged, wrote, returned⟩ := bind_eq_ok.mp returned
            exact (hpvAction_spares raises _ _).after (logIf_untouched wrote) result s' returned
          · next notSystem =>
              have isOther := other.resolve_left notSystem
              intro result s' returned
              obtain ⟨hmTab, -, returned⟩ := bind_eq_ok.mp returned
              obtain ⟨logged, wrote, returned⟩ := bind_eq_ok.mp returned
              exact (partAction_spares raises isOther _ _).after (logIf_untouched wrote) result s'
                returned
        · exact systemPanic_spares raises

theorem raiseEvent_spares {log : XmHmLog}
    (other : (hmEvent log).system = true ∨ (hmEvent log).partitionId ≠ q)
    : Spares q s (raiseEvent cfg c log s) :=
  hmRaiseEvent_spares panicDepth other

theorem raiseEvent_panic_spares {α : Type}
    : Spares (α := α) q s (systemPanic (raiseEvent cfg c) c s) :=
  systemPanic_spares fun _ => raiseEvent_spares (Or.inl (panicLog_system c))

theorem partitionPanic_spares (small : Small cfg) (inside : ∀ k ∈ c.current, Inside cfg k)
    (other : ∀ k ∈ c.current, k.partitionId ≠ q) {α : Type}
    : Spares (α := α) q s (partitionPanic (raiseEvent cfg c) c s) := by
  unfold partitionPanic
  split
  · exact .ok _ ⟨rfl, rfl⟩
  · next k current =>
      have isOther := other k current
      have named := panicLog_partition current (inside k current) small 0
      refine (raiseEvent_spares (Or.inr (named ▸ isOther))).bind ?_
      intro result s'
      cases result with
      | none => exact .ok _ (.refl s')
      | some _ =>
          have halted : Untouched q s' (haltCurrent k s') := .change isOther _ _
          dsimp only
          split
          · exact raiseEvent_panic_spares.after halted
          · exact .ok _ halted

-----------------------------------------------------------------------------------------
-- Exceptions

theorem setTrapPending_spares {k : Caller} (other : k.partitionId ≠ q)
    : Spares q s (setTrapPending cfg c k s) := by
  unfold setTrapPending
  split
  · exact raiseEvent_panic_spares
  · exact .ok _ (.change other _ _)

theorem hypervisorTrap_spares (t : Trap) : Spares q s (hypervisorTrap cfg c t s) := by
  refine (raiseEvent_spares (Or.inl (trapLog_system c true (trapEvent t)))).bind ?_
  intro result s'
  cases result with
  | none => exact .ok _ (.refl s')
  | some _ =>
      dsimp only
      split
      · exact .error _
      · exact raiseEvent_panic_spares

theorem guestTrap_spares (small : Small cfg) {k : Caller} (current : c.current = some k)
    (inside : Inside cfg k) (other : k.partitionId ≠ q) (t : Trap)
    : Spares q s (guestTrap cfg c t k s) := by
  unfold guestTrap
  split
  · intro result s' returned
    obtain ⟨hmTab, -, returned⟩ := bind_eq_ok.mp returned
    dsimp only at returned
    split at returned
    · exact setTrapPending_spares other result s' returned
    · have named := trapLog_partition current inside small false (trapEvent t)
      refine Spares.bind (raiseEvent_spares (Or.inr (named ▸ other))) ?_ result s' returned
      intro raised s''
      rcases raised with _ | propagated
      · exact .ok _ (.refl s'')
      · cases propagated with
        | false => exact .ok _ (.refl s'')
        | true => exact setTrapPending_spares other
  · exact raiseEvent_panic_spares

theorem raisePendTrap_spares (small : Small cfg) (inside : ∀ k ∈ c.current, Inside cfg k)
    (other : ∀ k ∈ c.current, k.partitionId ≠ q) (t : Trap)
    : Spares q s (raisePendTrap cfg c t s) := by
  unfold raisePendTrap
  split
  · exact .ok _ (.refl s)
  · next k current =>
      split
      · have cleared : Untouched q s
            (changeCurrent k (clearKThreadFlags · KTHREAD_TRAP_PENDING_F) s) :=
          .change (other k current) _ _
        dsimp only
        split
        · exact .ok _ cleared
        · exact (partitionPanic_spares small inside other).after cleared
      · exact .ok _ (.refl s)

theorem commonTrapBody_spares (small : Small cfg) (inside : ∀ k ∈ c.current, Inside cfg k)
    (other : ∀ k ∈ c.current, k.partitionId ≠ q) (exPTable : List (List (XmU32 × XmU32)))
    (t : Trap)
    : Spares q s (commonTrapBody cfg exPTable c t s) := by
  have trap : Spares q s (doTrap cfg exPTable c t s) := by
    unfold doTrap
    split
    · exact raiseEvent_panic_spares
    · split
      · exact .ok _ (.refl s)
      · split
        · exact hypervisorTrap_spares t
        · split
          · exact .error _
          · next k current =>
              exact guestTrap_spares small current (inside k current) (other k current) t
  refine trap.bind ?_
  intro result s'
  cases result with
  | none => exact .ok _ (.refl s')
  | some _ =>
      dsimp only
      split
      · exact .ok _ (.refl s')
      · exact raisePendTrap_spares small inside other t

-----------------------------------------------------------------------------------------
-- Faults

/-- A handler that has nothing more to do. -/
theorem Spares.done {α : Type} {out : Except Stop (Result α)} (spares : Spares q s out)
    : Spares q s (out.bind fun raised => .ok (raised.1.map fun _ => (), raised.2)) :=
  spares.bind fun _ s' => .ok _ (.refl s')

/-- Handling a fault touches the partition it concerns and no other. -/
theorem handle_spares (small : Small cfg) (exPTable : List (List (XmU32 × XmU32)))
    {fault : Fault} (fits : Fits cfg c fault) (other : ¬ Concerns c q fault)
    : Spares q s (handle cfg exPTable c fault s) := by
  cases fault with
  | trap t =>
      exact commonTrapBody_spares small fits.current
        (fun k current same => other ⟨k, current, same⟩) exPTable t
  | irq irqNr => exact (raiseEvent_spares (Or.inl (irqLog_system c irqNr))).done
  | watchdog k =>
      have named := partEventLog_partition (fits.watchdog k rfl) small XM_HM_EV_WATCHDOG_TIMER
      exact (raiseEvent_spares (Or.inr (named ▸ other))).done.after (.change other _ _)
  | traceEvent k payload =>
      have named := partitionErrorLog_partition (fits.traceEvent k payload rfl) small c.stack
        payload
      exact (raiseEvent_spares (Or.inr (named ▸ other))).done
  | partitionPanic =>
      exact partitionPanic_spares small fits.current
        fun k current same => other ⟨k, current, same⟩
  | systemPanic => exact raiseEvent_panic_spares

end

theorem watchdogThenIrq_others : ∀ f ∈ watchdogThenIrq, ¬ Concerns f.1 1 f.2 := by
  intro f member
  rcases List.mem_cons.mp member with rfl | member
  · exact fun (same : firstVCpu.partitionId = 1) => absurd same (by decide)
  · cases List.mem_singleton.mp member
    exact id

end XtratuM.Faults
