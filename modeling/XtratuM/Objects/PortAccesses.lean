import XtratuM.Library.Tracked
import XtratuM.Objects.PortOwnership

/-! The operations on open ports again, with every access they make to the port tables by the
identifier in the descriptor.
-/

namespace XtratuM.Objects

open Guest
open Tracked

/-- An entry of `portTab` or of `xmcCommPorts`. Accesses to one entry that follow each other are
one.
-/
inductive PortAccess
  | portTab (index : Nat)
  | xmcCommPorts (index : Nat)
  deriving DecidableEq, Repr

def PortAccess.index : PortAccess → Nat
  | .portTab index => index
  | .xmcCommPorts index => index

/-- Both tables have `noCommPorts` entries. -/
def PortAccess.InRange (cfg : Config) (access : PortAccess) : Prop :=
  access.index < cfg.noCommPorts

abbrev Accessing (α : Type) : Type := Computation PortAccess Stop α

namespace Traced

def portEntry (cfg : Config) (s : State) (port : Nat) : Accessing Port :=
  access (.portTab port)
    (if port < cfg.noCommPorts then .ok (s.portTab port) else .error .badAccess)

def commPort (cfg : Config) (port : Nat) : Accessing XmcCommPort :=
  access (.xmcCommPorts port)
    (if port < cfg.noCommPorts then .ok (cfg.xmcCommPorts port) else .error .badAccess)

def ifChecked {α : Type} (space : AddressSpace) (param size : XmU32) (flags : PFlags)
    (refused : α) (accepted : Accessing α) : Accessing α := do
  let checked ← lift (checkGParam space param size flags)
  if checked.ret < 0 then pure refused else accepted

def onOwnPort {α : Type} (cfg : Config) (s : State) (caller : XmU32) (port : Nat)
    (type : PortType) (refused : α) (act : Accessing α) : Accessing α := do
  let entry ← portEntry cfg s port
  if entry.partitionId ≠ caller then
    pure refused
  else if entry.flags.opened = false then
    pure refused
  else do
    let configured ← commPort cfg port
    if configured.type ≠ type then pure refused else act

def withChannel {α : Type} (cfg : Config) (port : Nat) (unlinked : α) (act : Nat → Accessing α)
    : Accessing α := do
  let configured ← commPort cfg port
  match configured.channelId with
  | none => pure unlinked
  | some c => if c < cfg.noCommChannels then act c else lift (.error .badAccess)

def onChannel (cfg : Config) (space : AddressSpace) (port : Nat) (direction : Direction)
    (msgPtr msgSize : XmU32) (msgFlags : PFlags) (s : State)
    (act : Nat → Accessing (Reply × State)) : Accessing (Reply × State) := do
  let configured ← commPort cfg port
  if configured.direction ≠ direction then
    pure (.code .invalidParam, s)
  else if msgSize = 0 then
    pure (.code .invalidConfig, s)
  else
    withChannel cfg port ({ ret := 0, data := [], flags := none }, s) fun c =>
      if (cfg.xmcCommChannelTab c).maxLength < msgSize.toNat then
        pure (.code .invalidConfig, s)
      else
        ifChecked space msgPtr msgSize msgFlags (.code .invalidParam, s) (act c)

/-- `ReadSamplingPort`, which marks the port read once it has the message. -/
def readSamplingPort (cfg : Config) (space : AddressSpace)
    (caller vCpu desc msgPtr msgSize flagsPtr : XmU32) (now : Int) (s : State)
    : Accessing (Reply × State) :=
  if objDescGetPartitionId desc ≠ caller then
    pure (.code .permError, s)
  else
    ifChecked space flagsPtr 4 flagsFlags (.code .invalidParam, s)
      (onOwnPort cfg s caller (objDescGetId desc) .sampling (.code .invalidParam, s)
        (onChannel cfg space (objDescGetId desc) .destination msgPtr msgSize receivedFlags s
          fun c => do
            let _ ← portEntry cfg s (objDescGetId desc)
            lift (readSampling cfg caller vCpu (objDescGetId desc) c msgSize flagsPtr now s)))

/-- `WriteSamplingPort`. Past its checks it marks the ports its receiver table leads to. -/
def writeSamplingPort (cfg : Config) (space : AddressSpace)
    (caller desc msgPtr msgSize : XmU32) (now : Int) (s : State) : Accessing (Reply × State) :=
  if objDescGetPartitionId desc ≠ caller then
    pure (.code .permError, s)
  else
    onOwnPort cfg s caller (objDescGetId desc) .sampling (.code .invalidParam, s)
      (onChannel cfg space (objDescGetId desc) .source msgPtr msgSize sentFlags s fun c =>
        lift (writeSampling cfg space caller (objDescGetId desc) c msgPtr msgSize now s))

/-- `GetSPortStatus`. -/
def getSPortStatus (cfg : Config) (caller desc : XmU32) (now : Int) (s : State)
    : Accessing (XmRet × Option SamplingPortStatus) :=
  if objDescGetPartitionId desc ≠ caller then
    pure (.permError, none)
  else
    onOwnPort cfg s caller (objDescGetId desc) .sampling (.invalidParam, none)
      (withChannel cfg (objDescGetId desc)
        (.ok, some { timestamp := 0, lastMsgSize := 0, flags := 0 })
        fun c =>
          match s.channelTab c, cfg.xmcCommChannelTab c with
          | .sampling channel, .sampling _ period _ =>
              let valid := channel.timestamp ≠ 0 && msgValid period channel.timestamp now
              pure
                (.ok, some
                  { timestamp := channel.timestamp
                    lastMsgSize := channel.length
                    flags :=
                      (s.portTab (objDescGetId desc)).flags.status
                        ||| (if valid then XM_COMM_MSG_VALID else 0) })
          | _, _ => lift (.error .badAccess))

/-- `SendQueuingPort`. -/
def sendQueuingPort (cfg : Config) (space : AddressSpace) (caller desc msgPtr msgSize : XmU32)
    (s : State) : Accessing (Reply × State) :=
  if objDescGetPartitionId desc ≠ caller then
    pure (.code .permError, s)
  else
    onOwnPort cfg s caller (objDescGetId desc) .queuing (.code .invalidParam, s)
      (onChannel cfg space (objDescGetId desc) .source msgPtr msgSize sentFlags s fun c =>
        lift (sendQueuing cfg space caller c msgPtr msgSize s))

/-- `ReceiveQueuingPort`. -/
def receiveQueuingPort (cfg : Config) (space : AddressSpace)
    (caller desc msgPtr msgSize : XmU32) (s : State) : Accessing (Reply × State) :=
  if objDescGetPartitionId desc ≠ caller then
    pure (.code .permError, s)
  else
    onOwnPort cfg s caller (objDescGetId desc) .queuing (.code .invalidParam, s)
      (onChannel cfg space (objDescGetId desc) .destination msgPtr msgSize receivedFlags s
        fun c => lift (receiveQueuing cfg caller (objDescGetId desc) c msgSize s))

/-- `GetQPortStatus`, with the number of messages it reports. -/
def getQPortStatus (cfg : Config) (caller desc : XmU32) (s : State)
    : Accessing (XmRet × Option Nat) :=
  if objDescGetPartitionId desc ≠ caller then
    pure (.permError, none)
  else
    onOwnPort cfg s caller (objDescGetId desc) .queuing (.invalidParam, none)
      (withChannel cfg (objDescGetId desc) (.ok, some 0) fun c =>
        match s.channelTab c with
        | .queuing channel => pure (.ok, some channel.usedMsgs)
        | .sampling _ => lift (.error .badAccess))

-----------------------------------------------------------------------------------------
-- What they return is what the operations return

section
variable {cfg : Config} {s : State} {port : Nat} {α : Type}

theorem result_ifChecked {space : AddressSpace} {param size : XmU32} {flags : PFlags} {refused : α}
    {accepted : Accessing α}
    : (ifChecked space param size flags refused accepted).result
      = Guest.ifChecked space param size flags refused accepted.result := by
  unfold ifChecked Guest.ifChecked
  simp only [result_bind, result_lift]
  congr 1
  funext checked
  split <;> rfl

theorem result_onOwnPort {caller : XmU32} {type : PortType} {refused : α} {act : Accessing α}
    {act' : Except Stop α} (same : port < cfg.noCommPorts → act.result = act')
    : (onOwnPort cfg s caller port type refused act).result
      = Objects.onOwnPort cfg s caller port type refused act' := by
  unfold onOwnPort Objects.onOwnPort
  by_cases configured : port < cfg.noCommPorts
  · simp only [portEntry, commPort, result_bind, result_access, if_pos configured,
      Nat.not_le.mpr configured, if_false, ok_bind, ← same configured]
    split <;> [rfl; skip]
    split <;> [rfl; skip]
    simp only [result_bind, result_access, ok_bind]
    split <;> rfl
  · simp only [portEntry, result_bind, result_access, if_neg configured,
      Nat.not_lt.mp configured, if_true]
    rfl

theorem result_withChannel {unlinked : α} {act : Nat → Accessing α} {act' : Nat → Except Stop α}
    (configured : port < cfg.noCommPorts) (same : ∀ c, (act c).result = act' c)
    : (withChannel cfg port unlinked act).result = Objects.withChannel cfg port unlinked act' := by
  unfold withChannel Objects.withChannel
  simp only [commPort, result_bind, result_access, if_pos configured, ok_bind]
  cases (cfg.xmcCommPorts port).channelId with
  | none => rfl
  | some c =>
      dsimp only
      split
      · exact same c
      · rfl

theorem result_onChannel {space : AddressSpace} {direction : Direction} {msgPtr msgSize : XmU32}
    {msgFlags : PFlags} {act : Nat → Accessing (Reply × State)}
    {act' : Nat → Except Stop (Reply × State)} (configured : port < cfg.noCommPorts)
    (same : ∀ c, (act c).result = act' c)
    : (onChannel cfg space port direction msgPtr msgSize msgFlags s act).result
      = Objects.onChannel cfg space port direction msgPtr msgSize msgFlags s act' := by
  unfold onChannel Objects.onChannel
  simp only [result_bind, commPort, result_access, if_pos configured, ok_bind]
  split <;> [rfl; skip]
  split <;> [rfl; skip]
  apply result_withChannel configured
  intro c
  split
  · rfl
  · rw [result_ifChecked, same]

end

theorem result_readSamplingPort (cfg : Config) (space : AddressSpace)
    (caller vCpu desc msgPtr msgSize flagsPtr : XmU32) (now : Int) (s : State)
    : (readSamplingPort cfg space caller vCpu desc msgPtr msgSize flagsPtr now s).result
      = Objects.readSamplingPort cfg space caller vCpu desc msgPtr msgSize flagsPtr now s := by
  unfold readSamplingPort Objects.readSamplingPort
  split
  · rfl
  · rw [result_ifChecked, result_onOwnPort]
    intro configured
    apply result_onChannel configured
    intro c
    simp only [portEntry, result_bind, result_access, if_pos configured, ok_bind, result_lift]

theorem result_writeSamplingPort (cfg : Config) (space : AddressSpace)
    (caller desc msgPtr msgSize : XmU32) (now : Int) (s : State)
    : (writeSamplingPort cfg space caller desc msgPtr msgSize now s).result
      = Objects.writeSamplingPort cfg space caller desc msgPtr msgSize now s := by
  unfold writeSamplingPort Objects.writeSamplingPort
  split
  · rfl
  · apply result_onOwnPort
    intro configured
    exact result_onChannel configured fun _ => rfl

theorem result_getSPortStatus (cfg : Config) (caller desc : XmU32) (now : Int) (s : State)
    : (getSPortStatus cfg caller desc now s).result
      = Objects.getSPortStatus cfg caller desc now s := by
  unfold getSPortStatus Objects.getSPortStatus
  split
  · rfl
  · apply result_onOwnPort
    intro configured
    apply result_withChannel configured
    intro c
    cases s.channelTab c <;> cases cfg.xmcCommChannelTab c <;> rfl

theorem result_sendQueuingPort (cfg : Config) (space : AddressSpace)
    (caller desc msgPtr msgSize : XmU32) (s : State)
    : (sendQueuingPort cfg space caller desc msgPtr msgSize s).result
      = Objects.sendQueuingPort cfg space caller desc msgPtr msgSize s := by
  unfold sendQueuingPort Objects.sendQueuingPort
  split
  · rfl
  · apply result_onOwnPort
    intro configured
    exact result_onChannel configured fun _ => rfl

theorem result_receiveQueuingPort (cfg : Config) (space : AddressSpace)
    (caller desc msgPtr msgSize : XmU32) (s : State)
    : (receiveQueuingPort cfg space caller desc msgPtr msgSize s).result
      = Objects.receiveQueuingPort cfg space caller desc msgPtr msgSize s := by
  unfold receiveQueuingPort Objects.receiveQueuingPort
  split
  · rfl
  · apply result_onOwnPort
    intro configured
    exact result_onChannel configured fun _ => rfl

-----------------------------------------------------------------------------------------
-- Accesses in range

section
variable {cfg : Config} {s : State} {port : Nat} {α : Type}

theorem inRange_portEntry
    : (portEntry cfg s port).Within (PortAccess.InRange cfg) ↔ port < cfg.noCommPorts :=
  within_access

theorem inRange_commPort
    : (commPort cfg port).Within (PortAccess.InRange cfg) ↔ port < cfg.noCommPorts :=
  within_access

/-- The first check of the port reads its entry, whatever its number is. -/
theorem inRange_onOwnPort {caller : XmU32} {type : PortType} {refused : α} {act : Accessing α}
    (inner : port < cfg.noCommPorts → act.Within (PortAccess.InRange cfg))
    : (onOwnPort cfg s caller port type refused act).Within (PortAccess.InRange cfg)
      ↔ port < cfg.noCommPorts := by
  unfold onOwnPort
  rw [within_bind, inRange_portEntry, and_iff_left_iff_imp]
  intro configured entry _
  split <;> [exact within_pure _; skip]
  split <;> [exact within_pure _; skip]
  rw [within_bind, inRange_commPort]
  refine ⟨configured, fun _ _ => ?_⟩
  split
  · exact within_pure _
  · exact inner configured

theorem inRange_withChannel {unlinked : α} {act : Nat → Accessing α}
    (configured : port < cfg.noCommPorts) (inner : ∀ c, (act c).Within (PortAccess.InRange cfg))
    : (withChannel cfg port unlinked act).Within (PortAccess.InRange cfg) := by
  unfold withChannel
  rw [within_bind, inRange_commPort]
  refine ⟨configured, fun _ _ => ?_⟩
  split
  · exact within_pure _
  · split
    · exact inner _
    · exact within_lift _

theorem inRange_ifChecked {space : AddressSpace} {param size : XmU32} {flags : PFlags}
    {refused : α} {accepted : Accessing α}
    : (ifChecked space param size flags refused accepted).Within (PortAccess.InRange cfg)
      ↔ (Accepts space param size flags → accepted.Within (PortAccess.InRange cfg)) := by
  unfold ifChecked
  rw [within_bind]
  simp only [within_lift, true_and, result_lift]
  constructor
  · rintro inner ⟨checked, check, passed⟩
    have inner := inner checked check
    rwa [if_neg passed] at inner
  · intro inner checked check
    split
    · exact within_pure _
    · next passed => exact inner ⟨checked, check, passed⟩

theorem inRange_onChannel {space : AddressSpace} {direction : Direction} {msgPtr msgSize : XmU32}
    {msgFlags : PFlags} {act : Nat → Accessing (Reply × State)}
    (configured : port < cfg.noCommPorts)
    (inner : ∀ c, (act c).Within (PortAccess.InRange cfg))
    : (onChannel cfg space port direction msgPtr msgSize msgFlags s act).Within
      (PortAccess.InRange cfg) := by
  unfold onChannel
  rw [within_bind, inRange_commPort]
  refine ⟨configured, fun _ _ => ?_⟩
  split <;> [exact within_pure _; skip]
  split <;> [exact within_pure _; skip]
  apply inRange_withChannel configured
  intro c
  split
  · exact within_pure _
  · exact inRange_ifChecked.mpr fun _ => inner c

end

end Traced

/-- An operation on an open port, with its descriptor and other arguments. -/
inductive PortOp
  | readSamplingPort (msgPtr msgSize flags : XmU32)
  | writeSamplingPort (msgPtr msgSize : XmU32)
  | getSPortStatus
  | sendQueuingPort (msgPtr msgSize : XmU32)
  | receiveQueuingPort (msgPtr msgSize : XmU32)
  | getQPortStatus

/-- The accesses that an operation makes to the port tables. -/
def PortOp.accesses (cfg : Config) (space : AddressSpace) (caller vCpu desc : XmU32) (now : Int)
    (s : State) : PortOp → List PortAccess
  | .readSamplingPort msgPtr msgSize flags =>
      (Traced.readSamplingPort cfg space caller vCpu desc msgPtr msgSize flags now s).accesses
  | .writeSamplingPort msgPtr msgSize =>
      (Traced.writeSamplingPort cfg space caller desc msgPtr msgSize now s).accesses
  | .getSPortStatus => (Traced.getSPortStatus cfg caller desc now s).accesses
  | .sendQueuingPort msgPtr msgSize =>
      (Traced.sendQueuingPort cfg space caller desc msgPtr msgSize s).accesses
  | .receiveQueuingPort msgPtr msgSize =>
      (Traced.receiveQueuingPort cfg space caller desc msgPtr msgSize s).accesses
  | .getQPortStatus => (Traced.getQPortStatus cfg caller desc s).accesses

/-- The operation comes to the port tables. -/
def PortOp.Reaches (space : AddressSpace) (caller desc : XmU32) : PortOp → Prop
  | .readSamplingPort _ _ flags =>
      objDescGetPartitionId desc = caller ∧ Accepts space flags 4 flagsFlags
  | _ => objDescGetPartitionId desc = caller

/-- No operation compares the identifier in the descriptor with the number of ports. -/
theorem port_accesses_inRange_iff (cfg : Config) (space : AddressSpace) (caller vCpu desc : XmU32)
    (now : Int) (s : State) (op : PortOp)
    : (∀ access ∈ op.accesses cfg space caller vCpu desc now s, access.InRange cfg)
      ↔ (op.Reaches space caller desc → objDescGetId desc < cfg.noCommPorts) := by
  have permitted {α : Type} {refused : α} {act : Accessing α} (reaches : Prop)
      (inner : act.Within (PortAccess.InRange cfg)
        ↔ (reaches → objDescGetId desc < cfg.noCommPorts))
      : (if objDescGetPartitionId desc ≠ caller then pure refused else act).Within
          (PortAccess.InRange cfg)
        ↔ (objDescGetPartitionId desc = caller ∧ reaches →
          objDescGetId desc < cfg.noCommPorts) := by
    split
    · next foreign =>
        refine ⟨fun _ reached => absurd reached.1 foreign, fun _ => within_pure _⟩
    · next own =>
        rw [inner, not_not.mp own]
        simp
  have always {α : Type} {refused : α} {act : Accessing α}
      (inner : act.Within (PortAccess.InRange cfg) ↔ objDescGetId desc < cfg.noCommPorts)
      : (if objDescGetPartitionId desc ≠ caller then pure refused else act).Within
          (PortAccess.InRange cfg)
        ↔ (objDescGetPartitionId desc = caller → objDescGetId desc < cfg.noCommPorts) := by
    refine (permitted True ?_).trans ?_
    · simpa using inner
    · simp
  cases op with
  | readSamplingPort msgPtr msgSize flags =>
      apply permitted
      rw [Traced.inRange_ifChecked, Traced.inRange_onOwnPort]
      intro configured
      apply Traced.inRange_onChannel configured
      intro c
      rw [within_bind, Traced.inRange_portEntry]
      exact ⟨configured, fun _ _ => within_lift _⟩
  | writeSamplingPort msgPtr msgSize
  | sendQueuingPort msgPtr msgSize
  | receiveQueuingPort msgPtr msgSize =>
      apply always
      apply Traced.inRange_onOwnPort
      intro configured
      exact Traced.inRange_onChannel configured fun _ => within_lift _
  | getSPortStatus =>
      apply always
      apply Traced.inRange_onOwnPort
      intro configured
      apply Traced.inRange_withChannel configured
      intro c
      split
      · exact within_pure _
      · exact within_lift _
  | getQPortStatus =>
      apply always
      apply Traced.inRange_onOwnPort
      intro configured
      apply Traced.inRange_withChannel configured
      intro c
      split
      · exact within_pure _
      · exact within_lift _

/-- A partition asks for the status of port 1023 where there are two. -/
theorem unknown_port_accessed
    : PortOp.getQPortStatus.accesses twoPorts (asksFor 65).space 0 0 0x3ff 0 closedPorts
        = [.portTab 1023]
      ∧ ¬ (PortAccess.portTab 1023).InRange twoPorts :=
  ⟨rfl, by simp [PortAccess.InRange, PortAccess.index, twoPorts]⟩

end XtratuM.Objects
