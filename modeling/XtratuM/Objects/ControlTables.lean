import XtratuM.Library.Painting
import XtratuM.Objects.PortEffects

/-! What the transfers do to the control tables of the vCPUs: the bits of the port bitmaps
they set or clear, and the interrupts they raise.
-/

namespace XtratuM.Objects

open Painting
open XtratuM.Guest

-----------------------------------------------------------------------------------------
-- One bit

/-- A bit of the words that follow the header of a vCPU's control table. -/
structure TableBit where
  partitionId : XmU32
  vCpuId : XmU32
  word : Nat
  bit : Nat
  deriving DecidableEq

def State.bit (s : State) (i : TableBit) : Bool :=
  ((s.pct i.partitionId i.vCpuId).words i.word).getLsbD i.bit

/-- The number of ports each control table says it has bits for. -/
def State.limits (s : State) (partitionId vCpuId : XmU32) : XmU32 :=
  (s.pct partitionId vCpuId).noCommPorts

/-- Bit number `bp` of a bitmap that starts at the word `base`. -/
structure TableBit.At (i : TableBit) (base bp : Nat) : Prop where
  word_eq : i.word = base + bp / 32
  bit_eq : i.bit = bp % 32

theorem TableBit.At.unique {i : TableBit} {base bp other : Nat} (bitAt : i.At base bp)
    (at' : i.At base other)
    : bp = other := by
  have := bitAt.word_eq
  have := bitAt.bit_eq
  have := at'.word_eq
  have := at'.bit_eq
  omega

/-- The bits that `xmSetBit` and `xmClearBit` of number `bp` change in the tables of some
vCPUs: none in a table that has no bit of that number.
-/
structure Changes (limits : XmU32 → XmU32 → XmU32) (partitionId : XmU32)
    (vCpus : List XmU32) (base : Nat) (bp : XmU32) (i : TableBit) : Prop where
  partition_eq : i.partitionId = partitionId
  vCpu : i.vCpuId ∈ vCpus
  below : bp < limits partitionId i.vCpuId
  bitAt : i.At base bp.toNat

/-- A change of a word that paints the bit of a mask. -/
def Paints (value : Bool) (change : XmU32 → XmU32 → XmU32) : Prop :=
  ∀ word j k, j < 32 →
    (change word ((1 : XmU32) <<< j)).getLsbD k = if j = k then value else word.getLsbD k

theorem or_paints : Paints true fun word mask => word ||| mask := by
  intro word j k inside
  rw [getLsbD_or_shiftLeft word inside]
  by_cases same : j = k <;> simp [same]

theorem andNot_paints : Paints false fun word mask => word &&& ~~~mask := by
  intro word j k inside
  rw [getLsbD_andNot_shiftLeft word inside]
  by_cases same : j = k <;> simp [same]

theorem changePcts_painted {value : Bool} {change : XmU32 → XmU32 → XmU32}
    (paints : Paints value change) (s : State) (partitionId : XmU32) (vCpus : List XmU32)
    (base : Nat) (bp : XmU32)
    : Painted value (Changes s.limits partitionId vCpus base bp) s.bit
      (s.changePcts partitionId vCpus (Pct.changeBit base bp change)).bit := by
  have index : (bp &&& 31).toNat = bp.toNat % 32 := by
    rw [BitVec.toNat_and]
    exact Nat.and_two_pow_sub_one_eq_mod bp.toNat 5
  have mask : (1 : XmU32) <<< (bp &&& 31) = (1 : XmU32) <<< (bp.toNat % 32) := by
    rw [← index]
    rfl
  have small : bp.toNat % 32 < 32 := Nat.mod_lt _ (by decide)
  -- the bit of one table, with the table changed or not
  have table (pct : Pct) (w b : Nat)
      : ((pct.changeBit base bp change).words w).getLsbD b
        = if bp < pct.noCommPorts ∧ w = base + bp.toNat / 32 ∧ b = bp.toNat % 32 then value
          else (pct.words w).getLsbD b := by
    by_cases below : bp < pct.noCommPorts
    · have inside : ¬ pct.noCommPorts ≤ bp := by
        simp only [BitVec.le_def, BitVec.lt_def] at below ⊢
        omega
      simp only [Pct.changeBit, inside, if_false, below, true_and, mask]
      by_cases here : w = base + bp.toNat / 32
      · subst here
        rw [Function.update_self, paints _ _ _ small]
        simp [eq_comm]
      · simp [here]
    · have outside : pct.noCommPorts ≤ bp := by
        simp only [BitVec.le_def, BitVec.lt_def] at below ⊢
        omega
      simp [Pct.changeBit, outside, below]
  constructor
  · intro i here
    simp only [State.bit, State.changePcts, here.partition_eq, here.vCpu, and_self, if_true,
      table]
    exact if_pos ⟨here.below, here.bitAt.word_eq, here.bitAt.bit_eq⟩
  · intro i outside
    simp only [State.bit, State.changePcts]
    by_cases changed : i.partitionId = partitionId ∧ i.vCpuId ∈ vCpus
    · rw [if_pos changed, table, if_neg]
      intro here
      refine outside ⟨changed.1, changed.2, ?_, here.2.1, here.2.2⟩
      rw [← changed.1]
      exact here.1
    · rw [if_neg changed]

-----------------------------------------------------------------------------------------
-- Bits and interrupts together

/-- What a transfer does to the control tables: it gives some bits one value and raises one
interrupt in vCPUs of some partitions.
-/
structure Marked (irq : Nat) (value : Bool) (bits : TableBit → Prop) (notified : XmU32 → Prop)
    (s s' : State) : Prop where
  limits : s'.limits = s.limits
  bits : Painted value bits s.bit s'.bit
  threads : ∀ p v, s'.kThreadTab p v = s.kThreadTab p v
    ∨ notified p ∧ s'.kThreadTab p v = (s.kThreadTab p v).map (setExtIrqPending · irq)

section Marked

variable {irq : Nat} {value : Bool} {s t u : State}

theorem Marked.nothing {bits : TableBit → Prop} {notified : XmU32 → Prop}
    (none : ∀ i, ¬ bits i) (limits : t.limits = s.limits) (same : t.bit = s.bit)
    (threads : t.kThreadTab = s.kThreadTab)
    : Marked irq value bits notified s t where
  limits := limits
  bits := by
    rw [same]
    exact .nothing none s.bit
  threads p v := Or.inl (by rw [threads])

theorem Marked.trans {bits bits' : TableBit → Prop} {notified notified' : XmU32 → Prop}
    (first : Marked irq value bits notified s t) (second : Marked irq value bits' notified' t u)
    : Marked irq value (fun i => bits i ∨ bits' i) (fun p => notified p ∨ notified' p) s u where
  limits := second.limits.trans first.limits
  bits := first.bits.trans second.bits
  threads p v := by
    rcases second.threads p v with kept | ⟨later, raised⟩
    · rw [kept]
      exact (first.threads p v).imp_right fun earlier => ⟨Or.inl earlier.1, earlier.2⟩
    · right
      refine ⟨Or.inr later, ?_⟩
      rcases first.threads p v with kept | ⟨-, before⟩
      · rw [raised, kept]
      · rw [raised, before, Option.map_map]
        congr 1
        funext k
        exact setExtIrqPending_twice k irq

theorem Marked.congr {bits other : TableBit → Prop} {notified told : XmU32 → Prop}
    (marked : Marked irq value bits notified s t) (same : ∀ i, bits i ↔ other i)
    (among : ∀ p, notified p → told p)
    : Marked irq value other told s t where
  limits := marked.limits
  bits := marked.bits.congr same
  threads p v := (marked.threads p v).imp_right fun raised => ⟨among p raised.1, raised.2⟩

/-- Only the control tables and the kthreads of the two states matter. -/
theorem Marked.between {bits : TableBit → Prop} {notified : XmU32 → Prop} {s' t' : State}
    (marked : Marked irq value bits notified s t) (pct : s'.pct = s.pct) (pct' : t'.pct = t.pct)
    (threads : s'.kThreadTab = s.kThreadTab) (threads' : t'.kThreadTab = t.kThreadTab)
    : Marked irq value bits notified s' t' where
  limits := by
    funext p v
    simpa only [State.limits, pct, pct'] using congrFun (congrFun marked.limits p) v
  bits := by
    have before : s'.bit = s.bit := by
      funext i
      simp only [State.bit, pct]
    have after : t'.bit = t.bit := by
      funext i
      simp only [State.bit, pct']
    rw [before, after]
    exact marked.bits
  threads p v := by
    rw [threads, threads']
    exact marked.threads p v

theorem changePcts_limits (s : State) (partitionId : XmU32) (vCpus : List XmU32) (base : Nat)
    (bp : XmU32) (change : XmU32 → XmU32 → XmU32)
    : (s.changePcts partitionId vCpus (Pct.changeBit base bp change)).limits = s.limits := by
  funext p v
  simp only [State.limits, State.changePcts, Pct.changeBit]
  split
  · split <;> rfl
  · rfl

theorem xmSetBit_marked (irq : Nat) (s : State) (partitionId : XmU32) (vCpus : List XmU32)
    (base : Nat) (bp : XmU32)
    : Marked irq true (Changes s.limits partitionId vCpus base bp) (fun _ => False) s
      (s.changePcts partitionId vCpus (xmSetBit base bp)) where
  limits := changePcts_limits s partitionId vCpus base bp _
  bits := changePcts_painted or_paints s partitionId vCpus base bp
  threads _ _ := Or.inl rfl

theorem xmClearBit_marked (irq : Nat) (s : State) (partitionId : XmU32) (vCpus : List XmU32)
    (base : Nat) (bp : XmU32)
    : Marked irq false (Changes s.limits partitionId vCpus base bp) (fun _ => False) s
      (s.changePcts partitionId vCpus (xmClearBit base bp)) where
  limits := changePcts_limits s partitionId vCpus base bp _
  bits := changePcts_painted andNot_paints s partitionId vCpus base bp
  threads _ _ := Or.inl rfl

@[simp] theorem setFlags_limits (s : State) (port : Nat) (flags : PortFlags)
    : (s.setFlags port flags).limits = s.limits :=
  rfl

theorem setPartitionExtIrqPending_raises {partitionId : XmU32} {vCpus : List XmU32}
    {tab tab' : KThreadTab}
    (returned : setPartitionExtIrqPending partitionId irq vCpus tab = .ok tab') (p v : XmU32)
    : tab' p v = tab p v
      ∨ p = partitionId ∧ tab' p v = (tab p v).map (setExtIrqPending · irq) := by
  induction vCpus generalizing tab with
  | nil =>
      cases returned
      exact Or.inl rfl
  | cons w rest ih =>
      simp only [setPartitionExtIrqPending] at returned
      cases present : tab partitionId w with
      | none => simp [present] at returned
      | some k =>
          simp only [present] at returned
          by_cases here : p = partitionId ∧ v = w
          · obtain ⟨rfl, rfl⟩ := here
            have raised : tab.set p v (setExtIrqPending k irq) p v
                = (tab p v).map (setExtIrqPending · irq) := by
              simp [KThreadTab.set, present]
            refine Or.inr ⟨rfl, ?_⟩
            rcases ih returned with kept | ⟨-, again⟩
            · rw [kept, raised]
            · rw [again, raised, Option.map_map]
              congr 1
              funext k
              exact setExtIrqPending_twice k irq
          · have other : tab.set partitionId w (setExtIrqPending k irq) p v = tab p v :=
              KThreadTab.set_other here
            simpa only [other] using ih returned

theorem raise_marked {cfg : Config} {partitionId : XmU32}
    (returned : s.raise cfg partitionId irq = .ok t)
    : Marked irq value (fun _ => False) (fun p => p = partitionId) s t := by
  obtain ⟨kThreadTab, raised, returned⟩ := bind_eq_ok.mp returned
  cases returned
  exact
    { limits := rfl
      bits := .nothing (fun _ => id) s.bit
      threads := setPartitionExtIrqPending_raises raised }

end Marked

-----------------------------------------------------------------------------------------
-- Queuing ports

/-- The bits a caller changes in the tables of a partition for one of its port numbers: they
are looked for where the caller's own bitmap would start.
-/
def Reaches (cfg : Config) (s : State) (caller partitionId : XmU32) (number : Nat)
    : TableBit → Prop :=
  Changes s.limits partitionId (cfg.vCpus partitionId) (commPortBitmap cfg caller)
    (BitVec.ofNat 32 number)

/-- The tables of a partition have a bit for a port number. -/
def Room (cfg : Config) (s : State) (partitionId : XmU32) (number : Nat) : Prop :=
  ∀ v ∈ cfg.vCpus partitionId, (number : Int) < (s.limits partitionId v).toInt

theorem assertPcts_ok {s : State} {partitionId : XmU32} {vCpus : List XmU32}
    {holds : Pct → Bool}
    : assertPcts s partitionId vCpus holds = .ok ()
      ↔ ∀ v ∈ vCpus, holds (s.pct partitionId v) = true := by
  simp [assertPcts]

section Queuing

variable {cfg : Config} {caller : XmU32} {channel : QueuingChannel} {s t : State}

theorem notifyReceiver_marked (returned : notifyReceiver cfg caller channel s = .ok t)
    : Marked XM_VT_EXT_QUEUING_PORT true
        (fun i => ∃ receiver, channel.receiver = some receiver
          ∧ Reaches cfg s caller receiver channel.receiverPort i)
        (fun p => channel.receiver = some p) s t
      ∧ ∀ receiver, channel.receiver = some receiver →
        Room cfg s receiver channel.receiverPort := by
  unfold notifyReceiver at returned
  cases registered : channel.receiver with
  | none =>
      simp only [registered] at returned
      cases returned
      exact ⟨.nothing (by simp) rfl rfl rfl, by simp⟩
  | some receiver =>
      simp only [registered] at returned
      obtain ⟨_, asserted, returned⟩ := bind_eq_ok.mp returned
      have set := xmSetBit_marked XM_VT_EXT_QUEUING_PORT s receiver (cfg.vCpus receiver)
        (commPortBitmap cfg caller) (BitVec.ofNat 32 channel.receiverPort)
      constructor
      · refine (set.trans (raise_marked returned)).congr (fun i => ?_) ?_
        · simp [Reaches]
        · simp
      · intro other same v member
        cases same
        simpa [State.limits] using assertPcts_ok.mp asserted v member

theorem sendQueuing_marked {space : AddressSpace} {c : Nat} {msgPtr msgSize : XmU32}
    {reply : Reply} (queuing : s.channelTab c = .queuing channel)
    (returned : sendQueuing cfg space caller c msgPtr msgSize s = .ok (reply, t))
    (success : 0 ≤ reply.ret)
    : Marked XM_VT_EXT_QUEUING_PORT true
        (fun i => (∃ receiver, channel.receiver = some receiver
            ∧ Reaches cfg s caller receiver channel.receiverPort i)
          ∨ Reaches cfg s caller caller channel.senderPort i)
        (fun p => channel.receiver = some p) s t
      ∧ (∀ receiver, channel.receiver = some receiver →
        Room cfg s receiver channel.receiverPort)
      ∧ (cfg.vCpus caller ≠ [] → channel.sender = some caller) := by
  unfold sendQueuing at returned
  rw [queuing] at returned
  split at returned
  · next same _ =>
      cases same
      split at returned
      · obtain ⟨queued, -, returned⟩ := bind_eq_ok.mp returned
        obtain ⟨notified, notify, returned⟩ := bind_eq_ok.mp returned
        obtain ⟨_, asserted, returned⟩ := bind_eq_ok.mp returned
        cases returned
        obtain ⟨marked, room⟩ := notifyReceiver_marked notify
        have set := xmSetBit_marked XM_VT_EXT_QUEUING_PORT notified caller (cfg.vCpus caller)
          (commPortBitmap cfg caller) (BitVec.ofNat 32 channel.senderPort)
        rw [marked.limits] at set
        refine ⟨?_, room, ?_⟩
        · exact Marked.congr (Marked.between (marked.trans set) rfl rfl rfl rfl)
            (fun _ => Iff.rfl) (by simp)
        · intro some
          obtain ⟨v, member⟩ := List.exists_mem_of_ne_nil _ some
          simpa using assertPcts_ok.mp asserted v member
      · cases returned
        exact absurd success (by decide)
  · cases returned

theorem raiseSender_marked (value : Bool) (returned : raiseSender cfg channel s = .ok t)
    : Marked XM_VT_EXT_QUEUING_PORT value (fun _ => False) (fun p => channel.sender = some p)
      s t := by
  unfold raiseSender at returned
  cases registered : channel.sender with
  | none =>
      simp only [registered] at returned
      cases returned
      exact .nothing (fun _ => id) rfl rfl rfl
  | some sender =>
      simp only [registered] at returned
      exact (raise_marked returned).congr (fun _ => Iff.rfl) (by simp)

theorem clearBits_marked {port : Nat} (returned : clearBits cfg caller port channel s = .ok t)
    : Marked XM_VT_EXT_QUEUING_PORT false
        (fun i => Reaches cfg s caller caller (cfg.partition caller).commPortsOffset i
          ∨ ∃ sender, channel.sender = some sender
            ∧ Reaches cfg s caller sender channel.senderPort i)
        (fun _ => False) s t
      ∧ ∀ v ∈ cfg.vCpus caller,
        BitVec.ofNat 32 port - BitVec.ofNat 32 (cfg.partition caller).commPortsOffset
          < s.limits caller v := by
  obtain ⟨_, asserted, returned⟩ := bind_eq_ok.mp returned
  have room := assertPcts_ok.mp asserted
  have own : Marked XM_VT_EXT_QUEUING_PORT false
      (Reaches cfg s caller caller (cfg.partition caller).commPortsOffset) (fun _ => False) s
      (s.changePcts caller (cfg.vCpus caller) (xmClearBit (commPortBitmap cfg caller)
        (BitVec.ofNat 32 (cfg.partition caller).commPortsOffset))) :=
    xmClearBit_marked _ s caller _ _ _
  generalize s.changePcts caller (cfg.vCpus caller) _ = cleared at own returned
  refine ⟨?_, ?_⟩
  · cases registered : channel.sender with
    | none =>
        simp only [registered] at returned
        cases returned
        exact own.congr (fun i => by simp) (fun _ => id)
    | some sender =>
        simp only [registered] at returned
        obtain ⟨-, -, returned⟩ := bind_eq_ok.mp returned
        cases returned
        have others := xmClearBit_marked XM_VT_EXT_QUEUING_PORT cleared sender
          (cfg.vCpus sender) (commPortBitmap cfg caller) (BitVec.ofNat 32 channel.senderPort)
        rw [own.limits] at others
        exact (own.trans others).congr (fun i => by simp [Reaches]) (by simp)
  · intro v member
    simpa [State.limits] using room v member

theorem enqueue_count {queued : QueuingChannel} {space : AddressSpace}
    {msgPtr : XmU32} {size : Nat} (enqueued : channel.enqueue space msgPtr size = .ok queued)
    : queued.usedMsgs = channel.usedMsgs + 1 := by
  obtain ⟨taken, -, enqueued⟩ := bind_eq_ok.mp enqueued
  split at enqueued
  · cases enqueued
  · obtain ⟨lists, -, enqueued⟩ := bind_eq_ok.mp enqueued
    cases enqueued
    rfl

theorem dequeue_count {size : Nat} {data : List (BitVec 8)} {left : QueuingChannel}
    (dequeued : channel.dequeue size = .ok (data, left))
    : left.usedMsgs = channel.usedMsgs - 1 := by
  obtain ⟨taken, -, dequeued⟩ := bind_eq_ok.mp dequeued
  split at dequeued
  · cases dequeued
  · obtain ⟨lists, -, dequeued⟩ := bind_eq_ok.mp dequeued
    cases dequeued
    rfl

theorem receiveQueuing_marked {port c : Nat} {msgSize : XmU32} {reply : Reply}
    (queuing : s.channelTab c = .queuing channel)
    (returned : receiveQueuing cfg caller port c msgSize s = .ok (reply, t))
    (success : 0 ≤ reply.ret)
    : 0 < channel.usedMsgs
      ∧ Marked XM_VT_EXT_QUEUING_PORT false
        (fun i => channel.usedMsgs = 1
          ∧ (Reaches cfg s caller caller (cfg.partition caller).commPortsOffset i
            ∨ ∃ sender, channel.sender = some sender
              ∧ Reaches cfg s caller sender channel.senderPort i))
        (fun p => channel.sender = some p) s t
      ∧ (channel.usedMsgs = 1 → ∀ v ∈ cfg.vCpus caller,
        BitVec.ofNat 32 port - BitVec.ofNat 32 (cfg.partition caller).commPortsOffset
          < s.limits caller v) := by
  unfold receiveQueuing at returned
  rw [queuing] at returned
  split at returned
  · next same _ =>
      cases same
      split at returned
      · next used =>
          obtain ⟨⟨data, left⟩, dequeued, returned⟩ := bind_eq_ok.mp returned
          obtain ⟨raised, raise, returned⟩ := bind_eq_ok.mp returned
          obtain ⟨cleared, clear, returned⟩ := bind_eq_ok.mp returned
          cases returned
          have count := dequeue_count dequeued
          have told := raiseSender_marked false raise
          refine ⟨used, ?_⟩
          unfold clearEmptied at clear
          split at clear
          · next empty =>
              have last : channel.usedMsgs = 1 := by
                simp only [count] at empty
                omega
              obtain ⟨marked, room⟩ := clearBits_marked clear
              simp only [Reaches, told.limits] at marked room
              constructor
              · refine Marked.congr (Marked.between (told.trans marked) rfl rfl rfl rfl)
                  (fun i => ?_) (by simp)
                simp only [last, true_and, false_or]
                rfl
              · exact fun _ => room
          · next more =>
              cases clear
              have others : channel.usedMsgs ≠ 1 := by
                simp only [count] at more
                omega
              constructor
              · exact Marked.congr (Marked.between told rfl rfl rfl rfl)
                  (fun i => by simp [others]) (fun _ => id)
              · exact fun last => absurd last others
      · cases returned
        exact absurd success (by decide)
  · cases returned

end Queuing

-----------------------------------------------------------------------------------------
-- Sampling ports

section Sampling

variable {cfg : Config} {caller : XmU32} {channel : SamplingChannel} {s t : State}

/-- The tables of the vCPUs of a receiver, one after the other. -/
theorem deliverTo_marked {receiver : XmU32} {receiverPort : Nat} {vCpus : List XmU32}
    (returned : deliverTo cfg caller receiver receiverPort vCpus s = .ok t)
    : Marked XM_VT_EXT_SAMPLING_PORT true
        (Changes s.limits receiver vCpus (commPortBitmap cfg caller)
          (BitVec.ofNat 32 receiverPort))
        (fun _ => False) s t
      ∧ ∀ v ∈ vCpus, (receiverPort : Int) < (s.limits receiver v).toInt := by
  induction vCpus generalizing s with
  | nil =>
      cases returned
      exact ⟨.nothing (fun i here => by simpa using here.vCpu) rfl rfl rfl, by simp⟩
  | cons v rest ih =>
      obtain ⟨_, asserted, returned⟩ := bind_eq_ok.mp returned
      have bit := assertPcts_ok.mp asserted
      have here := xmSetBit_marked XM_VT_EXT_SAMPLING_PORT s receiver [v]
        (commPortBitmap cfg caller) (BitVec.ofNat 32 receiverPort)
      obtain ⟨later, room⟩ := ih returned
      rw [setFlags_limits, here.limits] at later room
      constructor
      · refine Marked.congr (here.trans (Marked.between later rfl rfl rfl rfl)) (fun i => ?_)
          (by simp)
        constructor
        · intro changed
          rcases changed with now | later
          · have first : i.vCpuId = v := List.mem_singleton.mp now.vCpu
            exact ⟨now.partition_eq, by simp [first], now.below, now.bitAt⟩
          · have other := List.mem_cons_of_mem v later.vCpu
            exact ⟨later.partition_eq, other, later.below, later.bitAt⟩
        · intro changed
          rcases List.mem_cons.mp changed.vCpu with now | later
          · exact Or.inl ⟨changed.partition_eq, by simp [now], changed.below, changed.bitAt⟩
          · exact Or.inr ⟨changed.partition_eq, later, changed.below, changed.bitAt⟩
      · intro w member
        rcases List.mem_cons.mp member with rfl | other
        · simpa [State.limits] using bit w (by simp)
        · exact room w other

theorem deliver_marked {e : Nat} (returned : deliver cfg caller channel e s = .ok t)
    : Marked XM_VT_EXT_SAMPLING_PORT true
        (fun i => ∃ receiver, channel.receiverTab e = some receiver
          ∧ Reaches cfg s caller receiver (channel.receiverPortTab e) i)
        (fun p => channel.receiverTab e = some p) s t
      ∧ ∀ receiver, channel.receiverTab e = some receiver →
        Room cfg s receiver (channel.receiverPortTab e) := by
  unfold deliver at returned
  cases registered : channel.receiverTab e with
  | none =>
      simp only [registered] at returned
      cases returned
      exact ⟨.nothing (by simp) rfl rfl rfl, by simp⟩
  | some receiver =>
      simp only [registered] at returned
      obtain ⟨reached, delivered, returned⟩ := bind_eq_ok.mp returned
      obtain ⟨marked, room⟩ := deliverTo_marked delivered
      constructor
      · exact (marked.trans (raise_marked returned)).congr (fun i => by simp [Reaches]) (by simp)
      · intro other same
        cases same
        exact room

theorem deliverAll_marked {es : List Nat}
    (returned : deliverAll cfg caller channel es s = .ok t)
    : Marked XM_VT_EXT_SAMPLING_PORT true
        (fun i => ∃ e ∈ es, ∃ receiver, channel.receiverTab e = some receiver
          ∧ Reaches cfg s caller receiver (channel.receiverPortTab e) i)
        (fun p => ∃ e ∈ es, channel.receiverTab e = some p) s t
      ∧ ∀ e ∈ es, ∀ receiver, channel.receiverTab e = some receiver →
        Room cfg s receiver (channel.receiverPortTab e) := by
  induction es generalizing s with
  | nil =>
      cases returned
      exact ⟨.nothing (by simp) rfl rfl rfl, by simp⟩
  | cons e rest ih =>
      obtain ⟨reached, delivered, returned⟩ := bind_eq_ok.mp returned
      obtain ⟨here, first⟩ := deliver_marked delivered
      obtain ⟨later, others⟩ := ih returned
      simp only [Reaches, Room, here.limits] at later others
      constructor
      · exact (here.trans later).congr (fun i => by simp [Reaches]) (by simp)
      · intro e' member
        rcases List.mem_cons.mp member with rfl | other
        · exact first
        · exact others e' other

theorem writeSampling_marked {space : AddressSpace} {port c : Nat} {msgPtr msgSize : XmU32}
    {now : Int} {reply : Reply} (sampling : s.channelTab c = .sampling channel)
    (returned : writeSampling cfg space caller port c msgPtr msgSize now s = .ok (reply, t))
    : Marked XM_VT_EXT_SAMPLING_PORT true
        (fun i => Reaches cfg s caller caller port i
          ∨ ∃ e < channel.noReceivers, ∃ receiver, channel.receiverTab e = some receiver
            ∧ Reaches cfg s caller receiver (channel.receiverPortTab e) i)
        (fun p => ∃ e < channel.noReceivers, channel.receiverTab e = some p) s t
      ∧ ∀ e < channel.noReceivers, ∀ receiver, channel.receiverTab e = some receiver →
        Room cfg s receiver (channel.receiverPortTab e) := by
  unfold writeSampling at returned
  simp only [sampling] at returned
  obtain ⟨-, -, returned⟩ := bind_eq_ok.mp returned
  obtain ⟨reached, delivered, returned⟩ := bind_eq_ok.mp returned
  cases returned
  have own := xmSetBit_marked XM_VT_EXT_SAMPLING_PORT s caller (cfg.vCpus caller)
    (commPortBitmap cfg caller) (BitVec.ofNat 32 port)
  obtain ⟨marked, room⟩ := deliverAll_marked delivered
  simp only [Reaches, Room, own.limits, List.mem_range] at marked room
  exact ⟨Marked.congr (Marked.between (own.trans marked) rfl rfl rfl rfl)
    (fun i => by simp [Reaches]) (by simp), room⟩

theorem notifySender_marked (returned : notifySender cfg caller channel s = .ok t)
    : Marked XM_VT_EXT_SAMPLING_PORT false
      (fun i => ∃ sender, channel.sender = some sender
        ∧ Reaches cfg s caller sender channel.senderPort i)
      (fun p => channel.sender = some p) s t := by
  unfold notifySender at returned
  cases registered : channel.sender with
  | none =>
      simp only [registered] at returned
      cases returned
      exact .nothing (by simp) rfl rfl rfl
  | some sender =>
      simp only [registered] at returned
      have cleared := xmClearBit_marked XM_VT_EXT_SAMPLING_PORT s sender
        (cfg.vCpus sender) (commPortBitmap cfg caller) (BitVec.ofNat 32 channel.senderPort)
      exact (cleared.trans (raise_marked returned)).congr (fun i => by simp [Reaches]) (by simp)

theorem readSampling_marked {vCpu : XmU32} {port c : Nat} {msgSize flagsPtr : XmU32}
    {now : Int} {reply : Reply} (sampling : s.channelTab c = .sampling channel)
    (returned : readSampling cfg caller vCpu port c msgSize flagsPtr now s = .ok (reply, t))
    : Marked XM_VT_EXT_SAMPLING_PORT false
        (fun i => Changes s.limits caller [vCpu] (commPortBitmap cfg caller)
            (BitVec.ofNat 32 port - BitVec.ofNat 32 (cfg.partition caller).commPortsOffset) i
          ∨ ∃ sender, channel.sender = some sender
            ∧ Reaches cfg s caller sender channel.senderPort i)
        (fun p => channel.sender = some p) s t
      ∧ BitVec.ofNat 32 port - BitVec.ofNat 32 (cfg.partition caller).commPortsOffset
        < s.limits caller vCpu := by
  unfold readSampling at returned
  rw [sampling] at returned
  split at returned
  · next same _ =>
      cases same
      obtain ⟨_, asserted, returned⟩ := bind_eq_ok.mp returned
      obtain ⟨notified, notify, returned⟩ := bind_eq_ok.mp returned
      cases returned
      have own := xmClearBit_marked XM_VT_EXT_SAMPLING_PORT
        (s.setFlags port (s.portTab port).flags.read) caller [vCpu] (commPortBitmap cfg caller)
        (BitVec.ofNat 32 port - BitVec.ofNat 32 (cfg.partition caller).commPortsOffset)
      have marked := notifySender_marked notify
      simp only [Reaches, own.limits, setFlags_limits] at marked
      constructor
      · exact Marked.congr (Marked.between (own.trans marked) rfl rfl rfl rfl)
          (fun i => Iff.rfl) (by simp)
      · exact of_decide_eq_true (assertPcts_ok.mp asserted vCpu (by simp))
  · cases returned

end Sampling
end XtratuM.Objects
