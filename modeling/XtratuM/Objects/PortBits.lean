import XtratuM.Objects.ControlTables
import XtratuM.Objects.Endpoints

/-! The bit each port has in the control tables of its owner, and what the transfers do to the
bits of a channel whose partitions have control tables of one layout.
-/

namespace XtratuM.Objects

open XtratuM.Guest

-----------------------------------------------------------------------------------------
-- Bits of ports

/-- What the configuration compiler promises: one destination for a queuing channel, and a
number of ports that fits `xm_s32_t`.
-/
structure Compiled (cfg : Config) : Prop where
  single : OneDestination cfg
  counted : cfg.noCommPorts < 2 ^ 31

/-- `SetupPct` cleared the port bitmap of every vCPU. -/
def SetupPct (cfg : Config) (s : State) : Prop :=
  ∀ p, ∀ v ∈ cfg.vCpus p, ∀ e, 32 * e < (cfg.partition p).noPorts →
    (s.pct p v).words (commPortBitmap cfg p + e) = 0

/-- Every port was created by the partition it belongs to. -/
def PortsCreated (cfg : Config) (s : State) : Prop :=
  ∀ g < cfg.noCommPorts, Opened s g ∧ Owns cfg (s.portTab g).partitionId g

/-- The bit of port `g` in the table of a vCPU of its owner, where the owner's bitmap starts
and by the number the port has in that partition.
-/
structure PortBit (cfg : Config) (s : State) (g : Nat) (i : TableBit) : Prop where
  partition_eq : i.partitionId = (s.portTab g).partitionId
  vCpu : i.vCpuId ∈ cfg.vCpus (s.portTab g).partitionId
  bitAt : i.At (commPortBitmap cfg (s.portTab g).partitionId)
    (g - (cfg.partition (s.portTab g).partitionId).commPortsOffset)

theorem PortBit.unique {cfg : Config} {s : State} (created : PortsCreated cfg s) {g g' : Nat}
    {i : TableBit} (configured : g < cfg.noCommPorts) (configured' : g' < cfg.noCommPorts)
    (bit : PortBit cfg s g i) (bit' : PortBit cfg s g' i)
    : g = g' := by
  have own := (created g configured).2.1
  have own' := (created g' configured').2.1
  have same := bit.partition_eq.symm.trans bit'.partition_eq
  have place := bit.bitAt
  rw [same] at place own
  have number := place.unique bit'.bitAt
  omega

theorem PortBit.congr {cfg : Config} {s s' : State} {g : Nat} {i : TableBit}
    (same : (s'.portTab g).partitionId = (s.portTab g).partitionId)
    : PortBit cfg s' g i ↔ PortBit cfg s g i := by
  constructor
  · intro bit
    exact ⟨same ▸ bit.partition_eq, same ▸ bit.vCpu, same ▸ bit.bitAt⟩
  · intro bit
    exact ⟨same.symm ▸ bit.partition_eq, same.symm ▸ bit.vCpu, same.symm ▸ bit.bitAt⟩

/-- The partitions that own ports of channel `c` have their bitmaps where the caller has its
own.
-/
def SameLayout (cfg : Config) (s : State) (caller : XmU32) (c : Nat) : Prop :=
  ∀ g < cfg.noCommPorts, (cfg.xmcCommPorts g).channelId = some c →
    commPortBitmap cfg (s.portTab g).partitionId = commPortBitmap cfg caller

/-- A port of the channel that an end stands for, and the bits a call reaches for that end. -/
structure EndBits (cfg : Config) (s : State) (caller : XmU32) (c : Nat) (side : Direction)
    (partitionId : XmU32) (number g : Nat) : Prop where
  configured : g < cfg.noCommPorts
  endOf : EndOf cfg side g c
  owner : (s.portTab g).partitionId = partitionId
  place : number + (cfg.partition partitionId).commPortsOffset = g
  reaches : ∀ i, Reaches cfg s caller partitionId number i
    ↔ PortBit cfg s g i ∧ BitVec.ofNat 32 number < s.limits partitionId i.vCpuId

section Channel

variable {cfg : Config} {s s' : State} {caller : XmU32} {c : Nat}

theorem Endpoints.endBits (compiled : Compiled cfg) (endpoints : Endpoints cfg s)
    (created : PortsCreated cfg s) (layout : SameLayout cfg s caller c)
    (inside : c < cfg.noCommChannels) {side : Direction} {partitionId : XmU32} {number : Nat}
    (found : (s.channelTab c).HasEnd side partitionId number)
    : ∃ g, EndBits cfg s caller c side partitionId number g := by
  obtain ⟨g, configured, endOf, place, owner⟩ :=
    endpoints.registered c inside side partitionId number found
  have owned := owner (created g configured).1
  have base := layout g configured endOf.linked
  have small : (BitVec.ofNat 32 number).toNat = number := by
    have := compiled.counted
    rw [BitVec.toNat_ofNat, Nat.mod_eq_of_lt]
    omega
  have relative : g - (cfg.partition partitionId).commPortsOffset = number := by omega
  refine ⟨g, configured, endOf, owned, place, fun i => ?_⟩
  constructor
  · intro reached
    have bitAt := reached.bitAt
    rw [small] at bitAt
    refine ⟨⟨?_, ?_, ?_⟩, reached.below⟩
    · rw [owned]
      exact reached.partition_eq
    · rw [owned]
      exact reached.vCpu
    · rw [base, owned, relative]
      exact bitAt
  · intro ⟨bit, below⟩
    have bitAt := bit.bitAt
    rw [base, owned, relative] at bitAt
    refine ⟨bit.partition_eq.trans owned, owned ▸ bit.vCpu, below, ?_⟩
    rw [small]
    exact bitAt

/-- The asserted comparison of signed numbers is enough for the unsigned one. -/
theorem below_of_toInt {number : Nat} {limit : XmU32} (room : (number : Int) < limit.toInt)
    : BitVec.ofNat 32 number < limit := by
  rw [BitVec.lt_def, BitVec.toNat_ofNat]
  rw [BitVec.toInt_eq_toNat_cond] at room
  have := limit.isLt
  split at room
  · rw [Nat.mod_eq_of_lt (by omega)]
    omega
  · omega

/-- With room for the number, every bit of the port is reached. -/
theorem EndBits.all {side : Direction} {partitionId : XmU32} {number g : Nat}
    (bits : EndBits cfg s caller c side partitionId number g)
    (room : Room cfg s partitionId number) {i : TableBit} (bit : PortBit cfg s g i)
    : Reaches cfg s caller partitionId number i := by
  refine (bits.reaches i).mpr ⟨bit, below_of_toInt (room i.vCpuId ?_)⟩
  rw [← bits.owner]
  exact bit.vCpu

/-- Control tables change only in the bits of the ports of channel `c`, and in the interrupt
raised for their owners.
-/
structure Confined (cfg : Config) (s : State) (c irq : Nat) (s' : State) : Prop where
  limits : s'.limits = s.limits
  bits : ∀ i, s'.bit i ≠ s.bit i →
    ∃ g < cfg.noCommPorts, (cfg.xmcCommPorts g).channelId = some c ∧ PortBit cfg s g i
  threads : ∀ p v, s'.kThreadTab p v = s.kThreadTab p v
    ∨ (∃ g < cfg.noCommPorts, (cfg.xmcCommPorts g).channelId = some c
        ∧ (s.portTab g).partitionId = p)
      ∧ s'.kThreadTab p v = (s.kThreadTab p v).map (setExtIrqPending · irq)

theorem Marked.confined {irq : Nat} {value : Bool} {bits : TableBit → Prop}
    {notified : XmU32 → Prop} (marked : Marked irq value bits notified s s')
    (within : ∀ i, bits i →
      ∃ g < cfg.noCommPorts, (cfg.xmcCommPorts g).channelId = some c ∧ PortBit cfg s g i)
    (told : ∀ p, notified p → ∃ g < cfg.noCommPorts, (cfg.xmcCommPorts g).channelId = some c
      ∧ (s.portTab g).partitionId = p)
    : Confined cfg s c irq s' where
  limits := marked.limits
  bits i changed := within i (marked.bits.changed changed)
  threads p v := (marked.threads p v).imp_right fun raised => ⟨told p raised.1, raised.2⟩

/-- The bits of other channels' ports are kept. -/
theorem Confined.other {irq g c' : Nat} (confined : Confined cfg s c irq s')
    (created : PortsCreated cfg s) (configured : g < cfg.noCommPorts)
    (linked : (cfg.xmcCommPorts g).channelId = some c') (other : c' ≠ c) {i : TableBit}
    (bit : PortBit cfg s g i)
    : s'.bit i = s.bit i := by
  by_cases same : s'.bit i = s.bit i
  · exact same
  · obtain ⟨g', configured', linked', bit'⟩ := confined.bits i same
    have := bit.unique created configured configured' bit'
    subst this
    exact absurd (Option.some.inj (linked.symm.trans linked')) other

end Channel

-----------------------------------------------------------------------------------------
-- Transfers

section Transfers

variable {cfg : Config} {s s' : State} {caller : XmU32} {g c : Nat} {reply : Reply}

/-- A send sets the bits of the destination. -/
theorem send_bits (compiled : Compiled cfg) (endpoints : Endpoints cfg s)
    (created : PortsCreated cfg s) (layout : SameLayout cfg s caller c)
    (inside : c < cfg.noCommChannels) {space : AddressSpace} {msgPtr msgSize : XmU32}
    (returned : sendQueuing cfg space caller c msgPtr msgSize s = .ok (reply, s'))
    (success : 0 ≤ reply.ret)
    : Confined cfg s c XM_VT_EXT_QUEUING_PORT s'
      ∧ ∀ p i, p < cfg.noCommPorts → EndOf cfg .destination p c → PortBit cfg s p i →
        s'.bit i = true := by
  obtain ⟨channel, _, _, queuing, -, -⟩ := sendQueuing_effect returned
  obtain ⟨marked, room, sender⟩ := sendQueuing_marked queuing returned success
  have receives (receiver : XmU32) (registered : channel.receiver = some receiver)
      : ∃ g, EndBits cfg s caller c .destination receiver channel.receiverPort g := by
    apply endpoints.endBits compiled created layout inside
    rw [queuing]
    exact ⟨registered, rfl⟩
  constructor
  · refine marked.confined ?_ ?_
    · intro i reached
      rcases reached with ⟨receiver, registered, reached⟩ | reached
      · obtain ⟨g, bits⟩ := receives receiver registered
        exact ⟨g, bits.configured, bits.endOf.linked, ((bits.reaches i).mp reached).1⟩
      · have sends : ∃ g, EndBits cfg s caller c .source caller channel.senderPort g := by
          apply endpoints.endBits compiled created layout inside
          rw [queuing]
          exact ⟨sender (List.ne_nil_of_mem reached.vCpu), rfl⟩
        obtain ⟨g, bits⟩ := sends
        exact ⟨g, bits.configured, bits.endOf.linked, ((bits.reaches i).mp reached).1⟩
    · intro receiver registered
      obtain ⟨g, bits⟩ := receives receiver registered
      exact ⟨g, bits.configured, bits.endOf.linked, bits.owner⟩
  · intro p i configured endOf bit
    obtain ⟨-, receiver, number, found, place⟩ :=
      endpoints.listed p c endOf (created p configured).1
    rw [queuing] at found
    obtain ⟨registered, rfl⟩ := found
    obtain ⟨g, bits⟩ := receives receiver registered
    have same : g = p := bits.place.symm.trans place
    subst same
    exact marked.bits.inside i
      (Or.inl ⟨receiver, registered, bits.all (room receiver registered) bit⟩)

/-- The port through which the last message was taken is the one whose number is cleared. -/
def ClearsOwnNumber (cfg : Config) (s : State) (caller : XmU32) (g c : Nat) : Prop :=
  ∀ channel, s.channelTab c = .queuing channel → channel.usedMsgs = 1 →
    g = 2 * (cfg.partition caller).commPortsOffset

/-- A receive clears the bits of its port when it leaves the channel empty, and no others. -/
theorem receive_bits (compiled : Compiled cfg) (endpoints : Endpoints cfg s)
    (created : PortsCreated cfg s) (layout : SameLayout cfg s caller c)
    (own : OwnPort cfg s caller g .queuing) (linked : (cfg.xmcCommPorts g).channelId = some c)
    (inside : c < cfg.noCommChannels) (number : ClearsOwnNumber cfg s caller g c)
    {msgSize : XmU32} (returned : receiveQueuing cfg caller g c msgSize s = .ok (reply, s'))
    (success : 0 ≤ reply.ret) {channel : QueuingChannel}
    (queuing : s.channelTab c = .queuing channel)
    : Confined cfg s c XM_VT_EXT_QUEUING_PORT s' ∧ 0 < channel.usedMsgs
      ∧ (channel.usedMsgs = 1 → ∀ i, PortBit cfg s g i → s'.bit i = false)
      ∧ (channel.usedMsgs ≠ 1 → ∀ i, s'.bit i = s.bit i) := by
  obtain ⟨used, marked, room⟩ := receiveQueuing_marked queuing returned success
  have small := compiled.counted
  have configured := own.configured
  have sends (sender : XmU32) (registered : channel.sender = some sender)
      : ∃ g, EndBits cfg s caller c .source sender channel.senderPort g := by
    apply endpoints.endBits compiled created layout inside
    rw [queuing]
    exact ⟨registered, rfl⟩
  -- the offset of the caller's ports is the number of the port itself
  have place (last : channel.usedMsgs = 1)
      : g - (cfg.partition caller).commPortsOffset
        = (BitVec.ofNat 32 (cfg.partition caller).commPortsOffset).toNat := by
    have twice := number channel queuing last
    rw [BitVec.toNat_ofNat, Nat.mod_eq_of_lt] <;> omega
  have difference (last : channel.usedMsgs = 1)
      : BitVec.ofNat 32 g - BitVec.ofNat 32 (cfg.partition caller).commPortsOffset
        = BitVec.ofNat 32 (cfg.partition caller).commPortsOffset := by
    have twice := number channel queuing last
    apply BitVec.eq_of_toNat_eq
    simp only [BitVec.toNat_sub, BitVec.toNat_ofNat]
    omega
  refine ⟨marked.confined ?_ ?_, used, ?_, ?_⟩
  · intro i ⟨last, reached⟩
    rcases reached with reached | ⟨sender, registered, reached⟩
    · refine ⟨g, configured, linked, ?_⟩
      have bitAt := reached.bitAt
      rw [← place last] at bitAt
      refine ⟨reached.partition_eq.trans own.owner.symm, ?_, ?_⟩
      · rw [own.owner]
        exact reached.vCpu
      · rw [own.owner]
        exact bitAt
    · obtain ⟨g', bits⟩ := sends sender registered
      exact ⟨g', bits.configured, bits.endOf.linked, ((bits.reaches i).mp reached).1⟩
  · intro sender registered
    obtain ⟨g', bits⟩ := sends sender registered
    exact ⟨g', bits.configured, bits.endOf.linked, bits.owner⟩
  · intro last i bit
    have bitAt := bit.bitAt
    have vCpu := bit.vCpu
    rw [own.owner] at vCpu
    rw [own.owner, place last] at bitAt
    refine marked.bits.inside i
      ⟨last, Or.inl ⟨bit.partition_eq.trans own.owner, vCpu, ?_, bitAt⟩⟩
    rw [← difference last]
    exact room last i.vCpuId vCpu
  · intro more i
    exact marked.bits.outside i fun here => more here.1

/-- The writer's table has no bit of the port's own number, unless that is the number the
port has in its partition.
-/
def WritesOwnNumber (cfg : Config) (s : State) (caller : XmU32) (g : Nat) : Prop :=
  ∀ v ∈ cfg.vCpus caller, BitVec.ofNat 32 g < s.limits caller v →
    (cfg.partition caller).commPortsOffset = 0

/-- A write sets the bits of every destination. -/
theorem write_bits (compiled : Compiled cfg) (endpoints : Endpoints cfg s)
    (created : PortsCreated cfg s) (layout : SameLayout cfg s caller c)
    (own : OwnPort cfg s caller g .sampling) (linked : (cfg.xmcCommPorts g).channelId = some c)
    (inside : c < cfg.noCommChannels) (number : WritesOwnNumber cfg s caller g)
    {space : AddressSpace} {msgPtr msgSize : XmU32} {now : Int}
    (returned : writeSampling cfg space caller g c msgPtr msgSize now s = .ok (reply, s'))
    : Confined cfg s c XM_VT_EXT_SAMPLING_PORT s'
      ∧ ∀ p i, p < cfg.noCommPorts → EndOf cfg .destination p c → PortBit cfg s p i →
        s'.bit i = true := by
  obtain ⟨channel, effect⟩ := writeSampling_effect returned
  obtain ⟨marked, room⟩ := writeSampling_marked effect.sampling returned
  have small := compiled.counted
  have configured := own.configured
  have receives (e : Nat) (below : e < channel.noReceivers) (receiver : XmU32)
      (registered : channel.receiverTab e = some receiver)
      : ∃ g, EndBits cfg s caller c .destination receiver (channel.receiverPortTab e) g := by
    apply endpoints.endBits compiled created layout inside
    rw [effect.sampling]
    exact ⟨e, below, registered, rfl⟩
  constructor
  · refine marked.confined ?_ ?_
    · intro i reached
      rcases reached with reached | ⟨e, below, receiver, registered, reached⟩
      · have offset := number i.vCpuId reached.vCpu reached.below
        have bitAt := reached.bitAt
        have same : (BitVec.ofNat 32 g).toNat = g - (cfg.partition caller).commPortsOffset := by
          rw [BitVec.toNat_ofNat, Nat.mod_eq_of_lt (by omega), offset, Nat.sub_zero]
        rw [same] at bitAt
        refine ⟨g, configured, linked, reached.partition_eq.trans own.owner.symm, ?_, ?_⟩
        · rw [own.owner]
          exact reached.vCpu
        · rw [own.owner]
          exact bitAt
      · obtain ⟨g', bits⟩ := receives e below receiver registered
        exact ⟨g', bits.configured, bits.endOf.linked, ((bits.reaches i).mp reached).1⟩
    · intro receiver ⟨e, below, registered⟩
      obtain ⟨g', bits⟩ := receives e below receiver registered
      exact ⟨g', bits.configured, bits.endOf.linked, bits.owner⟩
  · intro p i configured endOf bit
    obtain ⟨-, receiver, number, found, place⟩ :=
      endpoints.listed p c endOf (created p configured).1
    rw [effect.sampling] at found
    obtain ⟨e, below, registered, rfl⟩ := found
    obtain ⟨g', bits⟩ := receives e below receiver registered
    have same : g' = p := bits.place.symm.trans place
    subst same
    exact marked.bits.inside i (Or.inr
      ⟨e, below, receiver, registered, bits.all (room e below receiver registered) bit⟩)

/-- The bit of a port is clear in the tables of the reader's other vCPUs. -/
def ReadElsewhere (cfg : Config) (s : State) (vCpu : XmU32) (g : Nat) : Prop :=
  ∀ i, PortBit cfg s g i → i.vCpuId ≠ vCpu → s.bit i = false

/-- A read leaves the bits of its port clear, and those of the other destinations alone. -/
theorem read_bits (compiled : Compiled cfg) (endpoints : Endpoints cfg s)
    (created : PortsCreated cfg s) (layout : SameLayout cfg s caller c)
    (own : OwnPort cfg s caller g .sampling) (endOf : EndOf cfg .destination g c)
    (inside : c < cfg.noCommChannels) {vCpu : XmU32} (vCpus : vCpu ∈ cfg.vCpus caller)
    (elsewhere : ReadElsewhere cfg s vCpu g) {msgSize flagsPtr : XmU32} {now : Int}
    (returned : readSampling cfg caller vCpu g c msgSize flagsPtr now s = .ok (reply, s'))
    : Confined cfg s c XM_VT_EXT_SAMPLING_PORT s'
      ∧ (∀ i, PortBit cfg s g i → s'.bit i = false)
      ∧ ∀ p i, p < cfg.noCommPorts → EndOf cfg .destination p c → p ≠ g →
        PortBit cfg s p i → s'.bit i = s.bit i := by
  obtain ⟨channel, sampling⟩ := (readSampling_effect returned).sampling
  obtain ⟨marked, room⟩ := readSampling_marked sampling returned
  have small := compiled.counted
  have configured := own.configured
  have above := (created g configured).2.1
  rw [own.owner] at above
  have relative
      : (BitVec.ofNat 32 g - BitVec.ofNat 32 (cfg.partition caller).commPortsOffset).toNat
        = g - (cfg.partition caller).commPortsOffset := by
    simp only [BitVec.toNat_sub, BitVec.toNat_ofNat]
    omega
  have sends (sender : XmU32) (registered : channel.sender = some sender)
      : ∃ g, EndBits cfg s caller c .source sender channel.senderPort g := by
    apply endpoints.endBits compiled created layout inside
    rw [sampling]
    exact ⟨registered, rfl⟩
  have within (i : TableBit)
      (reached : Changes s.limits caller [vCpu] (commPortBitmap cfg caller)
          (BitVec.ofNat 32 g - BitVec.ofNat 32 (cfg.partition caller).commPortsOffset) i
        ∨ ∃ sender, channel.sender = some sender
          ∧ Reaches cfg s caller sender channel.senderPort i)
      : PortBit cfg s g i
        ∨ ∃ g' < cfg.noCommPorts, EndOf cfg .source g' c ∧ PortBit cfg s g' i := by
    rcases reached with reached | ⟨sender, registered, reached⟩
    · left
      have bitAt := reached.bitAt
      rw [relative] at bitAt
      refine ⟨reached.partition_eq.trans own.owner.symm, ?_, ?_⟩
      · rw [own.owner, List.mem_singleton.mp reached.vCpu]
        exact vCpus
      · rw [own.owner]
        exact bitAt
    · obtain ⟨g', bits⟩ := sends sender registered
      exact Or.inr ⟨g', bits.configured, bits.endOf, ((bits.reaches i).mp reached).1⟩
  refine ⟨marked.confined ?_ ?_, ?_, ?_⟩
  · intro i reached
    rcases within i reached with bit | ⟨g', configured', source, bit⟩
    · exact ⟨g, configured, endOf.linked, bit⟩
    · exact ⟨g', configured', source.linked, bit⟩
  · intro sender registered
    obtain ⟨g', bits⟩ := sends sender registered
    exact ⟨g', bits.configured, bits.endOf.linked, bits.owner⟩
  · intro i bit
    by_cases here : i.vCpuId = vCpu
    · have bitAt := bit.bitAt
      rw [own.owner, ← relative] at bitAt
      refine marked.bits.inside i (Or.inl ⟨bit.partition_eq.trans own.owner, ?_, ?_, bitAt⟩)
      · simp [here]
      · rw [here]
        exact room
    · exact marked.bits.keeps (elsewhere i bit here)
  · intro p i configured' destination other bit
    refine marked.bits.outside i fun reached => ?_
    rcases within i reached with bit' | ⟨g', configured'', source, bit'⟩
    · exact other (bit.unique created configured' configured bit')
    · have same := bit.unique created configured' configured'' bit'
      subst same
      have := destination.direction_eq.symm.trans source.direction_eq
      cases this

end Transfers

end XtratuM.Objects
