import XtratuM.Arch.RingProtection
import XtratuM.Kernel.VirtualIrqs
import XtratuM.Library.Reachability

/-! Which vector a virtual interrupt is delivered through, over every history of the hypercalls
that route, force, clear and mask interrupts.
-/

namespace XtratuM.Irqs
open Reachability

/-- What may happen to the interrupts of a vCPU. -/
inductive IrqOp
  | routeIrq (type irq : XmU32) (vector : BitVec 16)
  | forceIrqs (hwIrqMask extIrqMask : XmU32)
  | clearIrqs (hwIrqMask extIrqMask : XmU32)
  | setIrqMask (hwIrqsMask extIrqsMask : XmU32)
  | clearIrqMask (hwIrqsMask extIrqsMask : XmU32)
  /-- The guest's interrupt flag after `X86SetIFSys`, `X86ClearIFSys` or `X86IRetSys`. -/
  | setIFlags (iFlags : XmU32)
  | hwIrq (irq : Nat)
  | extIrq (irq : Fin 32)
  | trap
  | raisePendIrqs (ctxt : CpuCtxt)

def IrqOp.run (cfg : IrqConfig) (s : VCpu) : IrqOp → Except Stop VCpu
  | .routeIrq type irq vector => .ok (routeIrqSys cfg s type irq vector).2
  | .forceIrqs hwIrqMask extIrqMask => .ok (forceIrqsSys cfg s hwIrqMask extIrqMask)
  | .clearIrqs hwIrqMask extIrqMask => .ok (clearIrqsSys s hwIrqMask extIrqMask)
  | .setIrqMask hwIrqsMask extIrqsMask => .ok (setIrqMaskSys s hwIrqsMask extIrqsMask)
  | .clearIrqMask hwIrqsMask extIrqsMask => .ok (clearIrqMaskSys s hwIrqsMask extIrqsMask)
  | .setIFlags iFlags => .ok { s with iFlags }
  | .hwIrq irq => .ok (setHwIrqPending s irq)
  | .extIrq irq => .ok (raiseExtIrq s irq)
  | .trap => setTrapPending s
  | .raisePendIrqs ctxt => (Irqs.raisePendIrqs cfg ctxt s).map Prod.snd

/-- The kernel raises the lines of the configuration only. -/
def IrqOp.Raisable (cfg : IrqConfig) : IrqOp → Prop
  | .hwIrq irq => cfg.hwIrqs.getLsbD irq = true
  | _ => True

def Next (cfg : IrqConfig) (s : VCpu) (op : IrqOp) (s' : VCpu) : Prop :=
  op.Raisable cfg ∧ op.run cfg s = .ok s'

-----------------------------------------------------------------------------------------
-- The vectors a guest asked for

/-- The vector of the last call that routed an interrupt. -/
def lastRoute (cls : IrqClass) (number : Nat) : List IrqOp → Option (BitVec 16)
  | [] => none
  | .routeIrq type irq vector :: past =>
      if irq.toNat < 32 ∧ IrqClass.ofType type = some cls ∧ irq.toNat = number then
        some vector
      else
        lastRoute cls number past
  | _ :: past => lastRoute cls number past

def vectorOf (past : List IrqOp) (cls : IrqClass) (number : Nat) : BitVec 16 :=
  (lastRoute cls number past).getD (defaultVector cls number)

/-- The numbers of a class. -/
def IrqConfig.count (cfg : IrqConfig) : IrqClass → Nat
  | .trap => NO_TRAPS
  | .hwIrq => cfg.noHwIrqs
  | .extIrq => 32

/-- A delivery of an interrupt of the class, through the vector the guest asked for. -/
def Delivery.Proper (cfg : IrqConfig) (past : List IrqOp) : Delivery → Prop
  | .swTrap _ => False
  | .irq cls number vector => number < cfg.count cls ∧ vector = vectorOf past cls number

/-- `RaisePendIrqs` passes its assertion, and what it delivers is proper. -/
def DeliversProperly (cfg : IrqConfig) (past : List IrqOp) (s : VCpu) : Prop :=
  ∀ ctxt, raisePendIrqs cfg ctxt s ≠ .error .assertion
    ∧ ∀ delivery s', raisePendIrqs cfg ctxt s = .ok (some delivery, s') → delivery.Proper cfg past

/-- A call that names hardware interrupts below `CONFIG_NO_HWIRQS` only: no other is routed, and
none is forced but the lines of the partition.
-/
def IrqOp.Confined (cfg : IrqConfig) : IrqOp → Prop
  | .routeIrq type irq _ =>
      IrqClass.ofType type = some .hwIrq → irq.toNat < 32 → irq.toNat < cfg.noHwIrqs
  | .forceIrqs hwIrqMask _ =>
      ∀ irq, (hwIrqMask &&& ~~~cfg.hwIrqs).getLsbD irq = true → irq < cfg.noHwIrqs
  | _ => True

/-- In a build with 32 hardware interrupts every call is confined. -/
theorem IrqOp.confined_of_full {cfg : IrqConfig} (full : cfg.noHwIrqs = 32) (op : IrqOp)
    : op.Confined cfg := by
  cases op with
  | routeIrq type irq vector =>
      intro _ small
      rwa [full]
  | forceIrqs hwIrqMask extIrqMask =>
      intro irq set
      rw [full]
      exact BitVec.lt_of_getLsbD set
  | _ => trivial

-----------------------------------------------------------------------------------------
-- The invariant

/-- Every entry of the three arrays holds the vector its own class and number was routed to, and
no hardware interrupt is pending that the build does not have.
-/
structure Routed (cfg : IrqConfig) (past : List IrqOp) (s : VCpu) : Prop where
  vectors : ∀ cls number, number < cfg.count cls →
    s.vectors (cfg.slot cls number) = vectorOf past cls number
  pending : ∀ irq, s.hwIrqsPend.getLsbD irq = true → irq < cfg.noHwIrqs
  swTrap : s.swTrap = 0

/-- Entries of different classes or numbers lie apart. -/
theorem IrqConfig.slot_inj (cfg : IrqConfig) {cls other : IrqClass} {number number' : Nat}
    (inside : number < cfg.count cls) (inside' : number' < cfg.count other)
    (same : cfg.slot cls number = cfg.slot other number')
    : cls = other ∧ number = number' := by
  cases cls <;> cases other <;>
    simp only [IrqConfig.count, IrqConfig.slot, NO_TRAPS] at inside inside' same <;>
    first
    | exact ⟨rfl, by omega⟩
    | omega

theorem defaultVectors_slot (cfg : IrqConfig) {cls : IrqClass} {number : Nat}
    (inside : number < cfg.count cls)
    : cfg.defaultVectors (cfg.slot cls number) = defaultVector cls number := by
  cases cls with
  | trap => exact if_pos inside
  | hwIrq =>
      have later : ¬ NO_TRAPS + number < NO_TRAPS := by omega
      have own : NO_TRAPS + number < NO_TRAPS + cfg.noHwIrqs := Nat.add_lt_add_left inside _
      simp only [IrqConfig.defaultVectors, IrqConfig.slot, if_neg later, if_pos own,
        Nat.add_sub_cancel_left]
  | extIrq =>
      have later : ¬ NO_TRAPS + cfg.noHwIrqs + number < NO_TRAPS := by omega
      have last : ¬ NO_TRAPS + cfg.noHwIrqs + number < NO_TRAPS + cfg.noHwIrqs := by omega
      have own : NO_TRAPS + cfg.noHwIrqs + number - NO_TRAPS - cfg.noHwIrqs = number := by omega
      simp only [IrqConfig.defaultVectors, IrqConfig.slot, if_neg later, if_neg last, own]

theorem setupPct_routed (cfg : IrqConfig) (k : KThread) : Routed cfg [] (setupPct cfg k) where
  vectors _ _ inside := defaultVectors_slot cfg inside
  pending irq set := by simp [setupPct] at set
  swTrap := rfl

/-- A step that touches no vector, when no call routes one. -/
theorem Routed.keep {cfg : IrqConfig} {past : List IrqOp} {s s' : VCpu} {op : IrqOp}
    (routed : Routed cfg past s)
    (unrouted : ∀ cls number, lastRoute cls number (op :: past) = lastRoute cls number past)
    (vectors : s'.vectors = s.vectors)
    (pending : ∀ irq, s'.hwIrqsPend.getLsbD irq = true → irq < cfg.noHwIrqs)
    (swTrap : s'.swTrap = s.swTrap)
    : Routed cfg (op :: past) s' where
  vectors cls number inside := by
    rw [vectors, vectorOf, unrouted]
    exact routed.vectors cls number inside
  pending := pending
  swTrap := swTrap.trans routed.swTrap

/-- The call writes the entry of its own class and number. -/
theorem Routed.route {cfg : IrqConfig} {past : List IrqOp} {s : VCpu}
    (routed : Routed cfg past s) {type irq : XmU32} {vector : BitVec 16}
    (confined : (IrqOp.routeIrq type irq vector).Confined cfg)
    : Routed cfg (.routeIrq type irq vector :: past) (routeIrqSys cfg s type irq vector).2 := by
  unfold routeIrqSys
  split
  · rename_i large
    apply routed.keep ?_ rfl routed.pending rfl
    intro cls number
    simp only [lastRoute, Nat.not_lt.mpr large, false_and, if_false]
  · rename_i small
    have small := Nat.not_le.mp small
    cases ofClass : IrqClass.ofType type with
    | none =>
        apply routed.keep ?_ rfl routed.pending rfl
        intro cls number
        simp only [lastRoute, ofClass, reduceCtorEq, false_and, and_false, if_false]
    | some cls =>
        have own : irq.toNat < cfg.count cls := by
          cases cls with
          | trap => exact small
          | hwIrq => exact confined ofClass small
          | extIrq => exact small
        refine ⟨?_, routed.pending, routed.swTrap⟩
        intro other number inside
        simp only [vectorOf, lastRoute, ofClass, small, true_and, Option.some.injEq]
        by_cases same : cls = other ∧ irq.toNat = number
        · obtain ⟨rfl, rfl⟩ := same
          simp
        · have apart : cfg.slot other number ≠ cfg.slot cls irq.toNat := by
            intro clash
            obtain ⟨rfl, rfl⟩ := cfg.slot_inj inside own clash
            exact same ⟨rfl, rfl⟩
          rw [if_neg same, Function.update_of_ne apart]
          exact routed.vectors other number inside

-----------------------------------------------------------------------------------------
-- Delivery

/-- A delivery reads the entry of its class and number, and raises no interrupt. -/
structure Delivered (cfg : IrqConfig) (s : VCpu) (delivery : Option Delivery) (s' : VCpu)
    : Prop where
  vectors : s'.vectors = s.vectors
  swTrap : s'.swTrap = s.swTrap
  pending : ∀ irq, s'.hwIrqsPend.getLsbD irq = true → s.hwIrqsPend.getLsbD irq = true
  entry : ∀ delivered, delivery = some delivered →
    ∃ cls number, number < cfg.count cls
      ∧ delivered = .irq cls number (s.vectors (cfg.slot cls number))

/-- A computation that does not fail an assertion, and delivers if it returns. -/
def Delivers (cfg : IrqConfig) (s : VCpu) : Except Stop (Option Delivery × VCpu) → Prop
  | .ok (delivery, s') => Delivered cfg s delivery s'
  | .error stop => stop ≠ .assertion

theorem delivers_nothing (cfg : IrqConfig) (s : VCpu) : Delivers cfg s (.ok (none, s)) where
  vectors := rfl
  swTrap := rfl
  pending _ set := set
  entry _ some := by cases some

/-- The access byte of the guest's gate for a vector, where `FixStack` delivers through it. -/
def gateOf (space : Guest.AddressSpace) (irqNr : Nat) (trap : Bool) (v : Arch.VCpu)
    (vector : BitVec 16) : Option (BitVec 8) :=
  match Arch.fixStack space irqNr (vector.setWidth 32) trap v with
  | .ok _ =>
      let gate := Arch.gateAt space (v.pct.idtr.linearBase + vector.setWidth 32 * 8)
      some (gate.low0.extractLsb' 8 8)
  | .error _ => none

theorem accessByte_interrupt (low0 : XmU32)
    : low0.extractLsb' 8 8 &&& 1 = (0 : BitVec 8) ↔ low0.getLsbD 8 = false := by
  constructor
  · intro clear
    have bit := congrArg (BitVec.getLsbD · 0) clear
    simpa using bit
  · intro clear
    ext bit inside
    cases bit with
    | zero => simpa using clear
    | succ bit => simp

/-- What `FixStack` does to the interrupts of a vCPU is what it leaves of the interrupt flag. -/
theorem fixStack_iFlags {space : Guest.AddressSpace} {irqNr : Nat} {trap : Bool} {v : Arch.VCpu}
    {ctxt : CpuCtxt} {s : VCpu} (vector : BitVec 16)
    (gate : ctxt.gate vector = gateOf space irqNr trap v vector) (iFlags : s.iFlags = v.pct.iFlags)
    : fixStack ctxt s vector
      = match Arch.fixStack space irqNr (vector.setWidth 32) trap v with
        | .ok (v', _) => .ok { s with iFlags := v'.pct.iFlags }
        | .error _ => .error .partitionPanic := by
  unfold fixStack
  rw [gate, gateOf]
  cases returned : Arch.fixStack space irqNr (vector.setWidth 32) trap v with
  | error stop => rfl
  | ok result =>
      have left := Arch.fixStack_leaves returned
      dsimp only
      rw [left, ← iFlags]
      simp only [accessByte_interrupt]
      cases (Arch.gateAt space (v.pct.idtr.linearBase + vector.setWidth 32 * 8)).low0.getLsbD 8
        <;> rfl

/-- `FixStack` changes the interrupt flag alone. -/
theorem fixStack_cases (ctxt : CpuCtxt) (s : VCpu) (vector : BitVec 16)
    : fixStack ctxt s vector = .error .partitionPanic
      ∨ ∃ iFlags, fixStack ctxt s vector = .ok { s with iFlags } := by
  unfold fixStack
  cases ctxt.gate vector with
  | none => exact .inl rfl
  | some access =>
      right
      dsimp only
      split
      · exact ⟨_, rfl⟩
      · exact ⟨s.iFlags, rfl⟩

theorem archEmul_delivers {cfg : IrqConfig} (ctxt : CpuCtxt) {cls : IrqClass} {number : Nat}
    (inside : number < cfg.count cls) {s acknowledged : VCpu}
    (vectors : acknowledged.vectors = s.vectors) (swTrap : acknowledged.swTrap = s.swTrap)
    (pending : ∀ irq, acknowledged.hwIrqsPend.getLsbD irq = true →
      s.hwIrqsPend.getLsbD irq = true)
    : Delivers cfg s (archEmul cfg ctxt cls number acknowledged) := by
  unfold archEmul
  rcases fixStack_cases ctxt acknowledged (acknowledged.vectors (cfg.slot cls number))
    with panics | ⟨iFlags, fixed⟩
  · simp only [panics]
    exact Stop.noConfusion
  · simp only [fixed]
    refine ⟨vectors, swTrap, pending, ?_⟩
    intro delivered same
    refine ⟨cls, number, inside, ?_⟩
    rw [← vectors]
    exact (Option.some.inj same).symm

theorem pending_of_andNot {word mask : XmU32} {irq : Nat}
    (set : (word &&& ~~~mask).getLsbD irq = true)
    : word.getLsbD irq = true := by
  rw [BitVec.getLsbD_and, Bool.and_eq_true] at set
  exact set.1

/-- Hardware interrupts come first; the assertion holds because none is pending out of range. -/
theorem raiseMaskable_delivers {cfg : IrqConfig} (ctxt : CpuCtxt) {s : VCpu}
    (inRange : ∀ irq, s.hwIrqsPend.getLsbD irq = true → irq < cfg.noHwIrqs)
    : Delivers cfg s (raiseMaskable cfg ctxt s) := by
  unfold raiseMaskable areHwIrqsPending
  cases hw : firstBit cfg.prioFbs (s.hwIrqsPend &&& ~~~s.hwIrqsMask) with
  | some eIrq =>
      have inside := inRange eIrq (pending_of_andNot (firstBit_some hw).2)
      simp only [assert_of inside]
      exact archEmul_delivers ctxt inside rfl rfl fun irq => pending_of_andNot
  | none =>
      simp only [ok_bind]
      cases ext : areExtIrqsPending cfg s with
      | some eIrq => exact archEmul_delivers ctxt (firstBit_some ext).1 rfl rfl fun irq set => set
      | none => exact delivers_nothing cfg s

theorem raisePendIrqs_delivers {cfg : IrqConfig} (ctxt : CpuCtxt) {s : VCpu}
    (inRange : ∀ irq, s.hwIrqsPend.getLsbD irq = true → irq < cfg.noHwIrqs)
    (swTrap : s.swTrap = 0)
    : Delivers cfg s (raisePendIrqs cfg ctxt s) := by
  have noSwTrap : ¬ s.swTrap &&& 1 ≠ 0 := by simp [swTrap]
  unfold raisePendIrqs
  rw [if_neg noSwTrap]
  split
  · exact delivers_nothing cfg s
  · split
    · exact archEmul_delivers ctxt ctxt.irqNr.isLt rfl rfl fun irq set => set
    · cases ext : areExtTrapsPending cfg s with
      | some eIrq => exact archEmul_delivers ctxt (firstBit_some ext).1 rfl rfl fun irq set => set
      | none =>
          dsimp only
          split
          · exact delivers_nothing cfg s
          · exact raiseMaskable_delivers ctxt inRange

-----------------------------------------------------------------------------------------
-- Runs

theorem forceIrqsSys_pending (cfg : IrqConfig) (s : VCpu) (hwIrqMask extIrqMask : XmU32) (irq : Nat)
    : (forceIrqsSys cfg s hwIrqMask extIrqMask).hwIrqsPend.getLsbD irq
      = (s.hwIrqsPend.getLsbD irq || (hwIrqMask &&& ~~~cfg.hwIrqs).getLsbD irq) := by
  simp only [forceIrqsSys, changeExtIrqsPend_hwIrqsPend, BitVec.getLsbD_or, BitVec.getLsbD_and,
    BitVec.getLsbD_not]
  cases hwIrqMask.getLsbD irq <;> simp

theorem setHwIrqPending_same (s : VCpu) (irq : Nat)
    : (setHwIrqPending s irq).vectors = s.vectors
      ∧ (setHwIrqPending s irq).swTrap = s.swTrap := by
  unfold setHwIrqPending
  split <;> exact ⟨rfl, rfl⟩

theorem setHwIrqPending_pending {s : VCpu} {line irq : Nat}
    (set : (setHwIrqPending s line).hwIrqsPend.getLsbD irq = true) (small : line < 32)
    : s.hwIrqsPend.getLsbD irq = true ∨ line = irq := by
  unfold setHwIrqPending at set
  split at set
  · exact .inl set
  · dsimp only at set
    rw [getLsbD_or_shiftLeft _ small, Bool.or_eq_true, decide_eq_true_eq] at set
    exact set

theorem setTrapPending_ok {s s' : VCpu} (returned : setTrapPending s = .ok s')
    : s' = { s with k := setKThreadFlags s.k KTHREAD_TRAP_PENDING_F } := by
  obtain ⟨-, -, returned⟩ := bind_eq_ok.mp returned
  exact (Except.ok.inj returned).symm

theorem Routed.step {cfg : IrqConfig} {past : List IrqOp} {s s' : VCpu} {op : IrqOp}
    (routed : Routed cfg past s) (confined : op.Confined cfg) (next : Next cfg s op s')
    : Routed cfg (op :: past) s' := by
  obtain ⟨raisable, ran⟩ := next
  cases op with
  | routeIrq type irq vector =>
      cases ran
      exact routed.route confined
  | forceIrqs hwIrqMask extIrqMask =>
      cases ran
      refine routed.keep (fun _ _ => rfl) rfl (fun irq set => ?_) rfl
      rw [forceIrqsSys_pending] at set
      rcases Bool.or_eq_true_iff.mp set with before | forced
      · exact routed.pending irq before
      · exact confined irq forced
  | clearIrqs hwIrqMask extIrqMask =>
      cases ran
      exact routed.keep (fun _ _ => rfl) rfl
        (fun irq set => routed.pending irq (pending_of_andNot set)) rfl
  | setIrqMask hwIrqsMask extIrqsMask =>
      cases ran
      exact routed.keep (fun _ _ => rfl) rfl routed.pending rfl
  | clearIrqMask hwIrqsMask extIrqsMask =>
      cases ran
      exact routed.keep (fun _ _ => rfl) rfl routed.pending rfl
  | setIFlags iFlags =>
      cases ran
      exact routed.keep (fun _ _ => rfl) rfl routed.pending rfl
  | hwIrq irq =>
      cases ran
      have inside := cfg.lines irq raisable
      have small := Nat.lt_of_lt_of_le inside cfg.supported
      refine routed.keep (fun _ _ => rfl) (setHwIrqPending_same s irq).1 (fun other set => ?_)
        (setHwIrqPending_same s irq).2
      rcases setHwIrqPending_pending set small with before | rfl
      · exact routed.pending other before
      · exact inside
  | extIrq irq =>
      cases ran
      exact routed.keep (fun _ _ => rfl) rfl routed.pending rfl
  | trap =>
      cases setTrapPending_ok ran
      exact routed.keep (fun _ _ => rfl) rfl routed.pending rfl
  | raisePendIrqs ctxt =>
      have delivers := raisePendIrqs_delivers ctxt routed.pending routed.swTrap
      obtain ⟨⟨delivery, after⟩, raised, rfl⟩ := map_eq_ok.mp ran
      rw [raised] at delivers
      exact routed.keep (fun _ _ => rfl) delivers.vectors
        (fun irq set => routed.pending irq (delivers.pending irq set)) delivers.swTrap

theorem Routed.delivers {cfg : IrqConfig} {past : List IrqOp} {s : VCpu}
    (routed : Routed cfg past s)
    : DeliversProperly cfg past s := by
  intro ctxt
  have delivers := raisePendIrqs_delivers ctxt routed.pending routed.swTrap
  constructor
  · intro failed
    rw [failed] at delivers
    exact delivers rfl
  · intro delivery s' raised
    rw [raised] at delivers
    obtain ⟨cls, number, inside, rfl⟩ := delivers.entry delivery rfl
    exact ⟨inside, routed.vectors cls number inside⟩

/-- The default build, and a partition without interrupt lines. -/
def defaultBuild : IrqConfig where
  noHwIrqs := 16
  prioFbs := true
  hwIrqs := 0
  supported := by decide
  lines irq set := by simp at set

def runningKThread : KThread where
  flags := KTHREAD_READY_F
  g := some
    { opMode := .normal
      partCtrlTab := { flags := 0, extIrqsPend := 0, schedInfo := ⟨0, 0, 0⟩ } }

/-- A guest context whose gates all keep the interrupt flag. -/
def guestCtxt : CpuCtxt where
  supervisor := false
  irqNr := 0
  gate _ := some 1

def runOps (ops : List IrqOp) : Except Stop VCpu :=
  ops.foldlM (IrqOp.run defaultBuild) (setupPct defaultBuild runningKThread)

theorem runOps_reach {ops : List IrqOp} (raisable : ∀ op ∈ ops, op.Raisable defaultBuild) {s : VCpu}
    (returned : runOps ops = .ok s)
    : Reach (Next defaultBuild) (setupPct defaultBuild runningKThread) ops.reverse s :=
  Reach.of_foldlM (fun op member _ _ ran => ⟨raisable op member, ran⟩) returned

/-- A guest that routes an interrupt of each class and waits for the extended one. -/
def routedOps : List IrqOp :=
  [.routeIrq 0 14 0x60, .routeIrq 1 4 0x61, .routeIrq 2 4 0x62, .extIrq 4, .clearIrqMask 0 0x10,
    .setIFlags CPU_FLAG_IF]

theorem routedOps_confined
    : ∀ op ∈ routedOps, op.Raisable defaultBuild ∧ op.Confined defaultBuild := by
  have routed : (IrqOp.routeIrq 1 4 0x61).Confined defaultBuild := fun _ _ => by decide
  have trap : (IrqOp.routeIrq 0 14 0x60).Confined defaultBuild := fun ofClass => by cases ofClass
  have ext : (IrqOp.routeIrq 2 4 0x62).Confined defaultBuild := fun ofClass => by cases ofClass
  simp only [routedOps, List.forall_mem_cons]
  exact ⟨⟨trivial, trap⟩, ⟨trivial, routed⟩, ⟨trivial, ext⟩, ⟨trivial, trivial⟩,
    ⟨trivial, trivial⟩, ⟨trivial, trivial⟩, by simp⟩

/-- A guest that forces a hardware interrupt the build does not have. -/
def forcedOps : List IrqOp :=
  [.forceIrqs 0x100000 0, .clearIrqMask 0x100000 0, .setIFlags CPU_FLAG_IF]

/-- A guest that routes such an interrupt, and waits for an extended one. -/
def spilledOps : List IrqOp :=
  [.routeIrq 1 20 0x50, .extIrq 4, .clearIrqMask 0 0x10, .setIFlags CPU_FLAG_IF]

end XtratuM.Irqs
