import XtratuM.Guest.Access
import XtratuM.Kernel.DynList
import XtratuM.Kernel.KThread

/-! Inter-partition ports: the configuration tables, the run-time tables of ports and
channels, and the operations of sampling and queuing ports.
-/

namespace XtratuM.Objects

open XtratuM.Guest

-----------------------------------------------------------------------------------------
-- Configuration

def CONFIG_ID_STRING_LENGTH : Nat := 16
def XM_INFINITE_TIME : XmU32 := 0xFFFFFFFF
def XM_COMM_MSG_VALID : XmU32 := 1
def XM_COMM_CONSUMED_MSG : XmU32 := 1 <<< 1
def XM_COMM_NEW_MSG : XmU32 := 2 <<< 1

inductive Direction
  | source
  | destination
  deriving DecidableEq, Repr

/-- `XM_SOURCE_PORT` and `XM_DESTINATION_PORT`, the only directions a port is created with. -/
def Direction.ofCode (code : XmU32) : Option Direction :=
  if code = 2 then some .source else if code = 1 then some .destination else none

inductive PortType
  | sampling
  | queuing
  deriving DecidableEq, Repr

/-- `struct xmcCommPort`, with the bytes of the string table from `nameOffset` on. -/
structure XmcCommPort where
  name : Nat → BitVec 8
  channelId : Option Nat
  direction : Direction
  type : PortType

/-- `struct xmcCommChannel`. -/
inductive XmcCommChannel
  | sampling (maxLength : Nat) (validPeriod : XmU32) (noReceivers : Nat)
  | queuing (maxLength maxNoMsgs : Nat)

/-- The fields of `struct xmcPartition` the ports need. -/
structure XmcPartition where
  commPortsOffset : Nat
  noPorts : Nat
  noVCpus : Nat
  noPhysicalMemoryAreas : Nat

structure Config where
  noCommPorts : Nat
  xmcCommPorts : Nat → XmcCommPort
  noCommChannels : Nat
  xmcCommChannelTab : Nat → XmcCommChannel
  partition : XmU32 → XmcPartition

/-- The identifiers of a partition's vCPUs. -/
def Config.vCpus (cfg : Config) (partitionId : XmU32) : List XmU32 :=
  (List.range (cfg.partition partitionId).noVCpus).map (BitVec.ofNat 32)

-----------------------------------------------------------------------------------------
-- Run-time tables

/-- The bits of `struct port`'s `flags`. -/
structure PortFlags where
  opened : Bool
  newMsg : Bool
  consumedMsg : Bool
  deriving DecidableEq, Repr

structure Port where
  flags : PortFlags
  partitionId : XmU32
  deriving DecidableEq, Repr

/-- The sampling side of `union channel`. Partitions are named by their identifier. -/
structure SamplingChannel where
  buffer : Nat → BitVec 8
  length : Nat
  timestamp : Int
  receiverTab : Nat → Option XmU32
  receiverPortTab : Nat → Nat
  noReceivers : Nat
  sender : Option XmU32
  senderPort : Nat

/-- The two lists of a queuing channel. -/
inductive QueueList
  | freeMsgs
  | recvMsgs
  deriving DecidableEq, Repr

/-- The queuing side of `union channel`; messages are indices of `msgPool`. -/
structure QueuingChannel where
  lists : Lists QueueList Nat
  buffer : Nat → Nat → BitVec 8
  length : Nat → Nat
  usedMsgs : Nat
  receiver : Option XmU32
  receiverPort : Nat
  sender : Option XmU32
  senderPort : Nat

inductive Channel
  | sampling (channel : SamplingChannel)
  | queuing (channel : QueuingChannel)

/-- What follows the header of a vCPU's control table: its size in ports and its words. -/
structure Pct where
  noCommPorts : XmU32
  words : Nat → XmU32

structure State where
  portTab : Nat → Port
  channelTab : Nat → Channel
  kThreadTab : KThreadTab
  pct : XmU32 → XmU32 → Pct

def State.setPort (s : State) (port : Nat) (value : Port) : State :=
  { s with portTab := Function.update s.portTab port value }

def State.setChannel (s : State) (c : Nat) (value : Channel) : State :=
  { s with channelTab := Function.update s.channelTab c value }

def SamplingChannel.zero : SamplingChannel where
  buffer := fun _ => 0
  length := 0
  timestamp := 0
  receiverTab := fun _ => none
  receiverPortTab := fun _ => 0
  noReceivers := 0
  sender := none
  senderPort := 0

/-- Fills `freeMsgs` with the messages from index `i` on, as `SetupComm` does. -/
def fillPool : Nat → Nat → Lists QueueList Nat → Except Stop (Lists QueueList Nat)
  | 0, _, lists => .ok lists
  | left + 1, i, lists => do
      let lists ← dynListInsertHead lists .freeMsgs i
      fillPool left (i + 1) lists

/-- A zeroed pool with both lists initialised. -/
def emptyLists : Lists QueueList Nat :=
  dynListInit (dynListInit
    { node := fun _ => { list := none, prev := none, next := none }
      list := fun _ => { head := none, noElem := 0 } } .freeMsgs) .recvMsgs

/-- The channel `SetupComm` makes of a configured one. -/
def setupChannel : XmcCommChannel → Except Stop Channel
  | .sampling _ _ _ => .ok (.sampling .zero)
  | .queuing _ maxNoMsgs => do
      let lists ← fillPool maxNoMsgs 0 emptyLists
      pure (.queuing
        { lists, buffer := fun _ _ => 0, length := fun _ => 0, usedMsgs := 0
          receiver := none, receiverPort := 0, sender := none, senderPort := 0 })

/-- `SetupComm` has run on a zeroed port table: no port is open, and every channel of the
configuration is set up.
-/
structure SetupComm (cfg : Config) (s : State) : Prop where
  ports : ∀ port, s.portTab port =
    { flags := { opened := false, newMsg := false, consumedMsg := false }, partitionId := 0 }
  channels : ∀ c, c < cfg.noCommChannels →
    setupChannel (cfg.xmcCommChannelTab c) = .ok (s.channelTab c)

-----------------------------------------------------------------------------------------
-- Control tables of the partitions

/-- The word of the port bitmap, counted from the end of the header: the code takes the
number of memory areas of the running partition, whoever's table it addresses.
-/
def commPortBitmap (cfg : Config) (caller : XmU32) : Nat :=
  8 * (cfg.partition caller).noPhysicalMemoryAreas

/-- `xmSetBit` and `xmClearBit`, by the change they make to the word. -/
def Pct.changeBit (base : Nat) (bp : XmU32) (change : XmU32 → XmU32 → XmU32) (pct : Pct)
    : Pct :=
  if pct.noCommPorts ≤ bp then
    pct
  else
    let word := base + bp.toNat / 32
    { pct with
      words :=
        Function.update pct.words word (change (pct.words word) ((1 : XmU32) <<< (bp &&& 31))) }

def xmSetBit (base : Nat) (bp : XmU32) : Pct → Pct :=
  Pct.changeBit base bp fun word mask => word ||| mask

def xmClearBit (base : Nat) (bp : XmU32) : Pct → Pct :=
  Pct.changeBit base bp fun word mask => word &&& ~~~mask

/-- Applies a change to the control tables of some vCPUs of a partition. -/
def State.changePcts (s : State) (partitionId : XmU32) (vCpus : List XmU32)
    (change : Pct → Pct) : State :=
  { s with
    pct := fun p v => if p = partitionId ∧ v ∈ vCpus then change (s.pct p v) else s.pct p v }

/-- An assertion on the control tables of some vCPUs of a partition. -/
def assertPcts (s : State) (partitionId : XmU32) (vCpus : List XmU32) (holds : Pct → Bool)
    : Except Stop Unit :=
  assert (vCpus.all (fun v => holds (s.pct partitionId v)) = true)

/-- `SetPartitionExtIrqPending`. -/
def setPartitionExtIrqPending (partitionId : XmU32) (irq : Nat)
    : List XmU32 → KThreadTab → Except Stop KThreadTab
  | [], tab => .ok tab
  | v :: rest, tab =>
      match tab partitionId v with
      | none => .error .badAccess
      | some k =>
          setPartitionExtIrqPending partitionId irq rest
            (tab.set partitionId v (setExtIrqPending k irq))

/-- Raises a virtual interrupt in every vCPU of a partition. -/
def State.raise (s : State) (cfg : Config) (partitionId : XmU32) (irq : Nat)
    : Except Stop State := do
  let kThreadTab ← setPartitionExtIrqPending partitionId irq (cfg.vCpus partitionId) s.kThreadTab
  pure { s with kThreadTab }

-----------------------------------------------------------------------------------------
-- Opening ports

/-- `OBJDESC_GET_ID`. -/
def objDescGetId (desc : XmU32) : Nat := (desc &&& 0x3ff).toNat

/-- `OBJDESC_GET_PARTITIONID`. -/
def objDescGetPartitionId (desc : XmU32) : XmU32 := desc >>> 10 &&& 0x3ff

/-- `strncmp` answers 0. -/
def strncmpEq : Nat → (Nat → BitVec 8) → (Nat → BitVec 8) → Bool
  | 0, _, _ => true
  | n + 1, a, b =>
      if a 0 ≠ b 0 then
        false
      else if a 0 = 0 then
        true
      else
        strncmpEq n (fun i => a (i + 1)) (fun i => b (i + 1))

/-- The bytes from a guest address on. -/
def bytesFrom (space : AddressSpace) (addr : XmU32) (i : Nat) : BitVec 8 :=
  space.byte (addr + BitVec.ofNat 32 i)

/-- The loop that looks a name up, from `port` on: it ends at the first port of that name,
or just past the last one.
-/
def lookupPort (cfg : Config) (name : Nat → BitVec 8) : Nat → Nat → Nat
  | 0, port => port
  | left + 1, port =>
      if strncmpEq CONFIG_ID_STRING_LENGTH name (cfg.xmcCommPorts port).name then
        port
      else
        lookupPort cfg name left (port + 1)

/-- A port name is a non-null pointer that is only read. -/
def nameFlags : PFlags where
  rw := false
  notNull := true

/-- `portTab[port]` once opened by `caller`; `COMM_PORT_EMPTY` is no bit at all. -/
def State.openPort (s : State) (port : Nat) (caller : XmU32) : State :=
  s.setPort port
    { flags := { (s.portTab port).flags with opened := true }, partitionId := caller }

/-- The endpoint `CreateSamplingPort` registers in the channel of a port. -/
def registerSampling (cfg : Config) (caller : XmU32) (direction : Direction)
    (port c noReceivers : Nat) (s : State) : Except Stop State :=
  match s.channelTab c with
  | .queuing _ => .error .badAccess
  | .sampling channel =>
      let relative := port - (cfg.partition caller).commPortsOffset
      match direction with
      | .destination => do
          assert (channel.noReceivers < noReceivers)
          pure (s.setChannel c (.sampling
            { channel with
              receiverTab := Function.update channel.receiverTab channel.noReceivers caller
              receiverPortTab :=
                Function.update channel.receiverPortTab channel.noReceivers relative
              noReceivers := channel.noReceivers + 1 }))
      | .source =>
          .ok (s.setChannel c
            (.sampling { channel with sender := some caller, senderPort := relative }))

/-- What both create operations check of the port they looked up. -/
def onClosedPort (cfg : Config) (port : Nat) (type : PortType) (direction : Direction)
    (s : State) (act : Except Stop (Int × State)) : Except Stop (Int × State) :=
  if cfg.noCommPorts ≤ port then
    .ok (XmRet.invalidParam.code, s)
  else if (cfg.xmcCommPorts port).type ≠ type then
    .ok (XmRet.invalidConfig.code, s)
  else if direction ≠ (cfg.xmcCommPorts port).direction then
    .ok (XmRet.invalidConfig.code, s)
  else if (s.portTab port).flags.opened = true then
    .ok (XmRet.noAction.code, s)
  else
    act

/-- The part of `CreateSamplingPort` after the port was looked up. A port linked to a
channel of another type is not something the configuration compiler emits.
-/
def openSamplingPort (cfg : Config) (caller : XmU32) (port : Nat) (maxMsgSize : XmU32)
    (direction : Direction) (validPeriod : Int) (s : State) : Except Stop (Int × State) :=
  onClosedPort cfg port .sampling direction s
    (match (cfg.xmcCommPorts port).channelId with
    | none => .ok (port, s.openPort port caller)
    | some c => do
        assert (c < cfg.noCommChannels)
        match cfg.xmcCommChannelTab c with
        | .queuing _ _ => .error .badAccess
        | .sampling maxLength period noReceivers =>
            if maxLength ≠ maxMsgSize.toNat then
              pure (XmRet.invalidConfig.code, s)
            else if (period.toNat : Int) ≠ validPeriod then
              pure (XmRet.invalidConfig.code, s)
            else do
              let s ← registerSampling cfg caller direction port c noReceivers s
              pure (port, s.openPort port caller))

/-- The endpoint `CreateQueuingPort` registers in the channel of a port. -/
def registerQueuing (cfg : Config) (caller : XmU32) (direction : Direction) (port c : Nat)
    (s : State) : Except Stop State :=
  match s.channelTab c with
  | .sampling _ => .error .badAccess
  | .queuing channel =>
      let relative := port - (cfg.partition caller).commPortsOffset
      match direction with
      | .destination =>
          .ok (s.setChannel c
            (.queuing { channel with receiver := some caller, receiverPort := relative }))
      | .source =>
          .ok (s.setChannel c
            (.queuing { channel with sender := some caller, senderPort := relative }))

/-- The part of `CreateQueuingPort` after the port was looked up. The endpoint is
registered before the limits of the channel are compared.
-/
def openQueuingPort (cfg : Config) (caller : XmU32) (port : Nat)
    (maxNoMsgs maxMsgSize : XmU32) (direction : Direction) (s : State)
    : Except Stop (Int × State) :=
  onClosedPort cfg port .queuing direction s
    (match (cfg.xmcCommPorts port).channelId with
    | none => .ok (port, s.openPort port caller)
    | some c => do
        assert (c < cfg.noCommChannels)
        let s ← registerQueuing cfg caller direction port c s
        match cfg.xmcCommChannelTab c with
        | .sampling _ _ _ => .error .badAccess
        | .queuing maxLength noMsgs =>
            if noMsgs ≠ maxNoMsgs.toNat then
              pure (XmRet.invalidConfig.code, s)
            else if maxLength ≠ maxMsgSize.toNat then
              pure (XmRet.invalidConfig.code, s)
            else
              pure (port, s.openPort port caller))

/-- What both create operations do up to the lookup: the part after it is `opened`. -/
def createPort (cfg : Config) (space : AddressSpace) (caller desc portName direction : XmU32)
    (s : State) (opened : Nat → Direction → Except Stop (Int × State))
    : Except Stop (Int × State) :=
  if objDescGetPartitionId desc ≠ caller then
    .ok (XmRet.permError.code, s)
  else
    ifChecked space portName 16 nameFlags (XmRet.invalidParam.code, s) do
      match Direction.ofCode direction with
      | none => pure (XmRet.invalidParam.code, s)
      | some direction =>
          let partition := cfg.partition caller
          opened
            (lookupPort cfg (bytesFrom space portName) partition.noPorts
              partition.commPortsOffset)
            direction

/-- `CreateSamplingPort`. -/
def createSamplingPort (cfg : Config) (space : AddressSpace)
    (caller desc portName maxMsgSize direction : XmU32) (validPeriod : Int) (s : State)
    : Except Stop (Int × State) :=
  createPort cfg space caller desc portName direction s fun port direction =>
    openSamplingPort cfg caller port maxMsgSize direction validPeriod s

/-- `CreateQueuingPort`. -/
def createQueuingPort (cfg : Config) (space : AddressSpace)
    (caller desc portName maxNoMsgs maxMsgSize direction : XmU32) (s : State)
    : Except Stop (Int × State) :=
  createPort cfg space caller desc portName direction s fun port direction =>
    openQueuingPort cfg caller port maxNoMsgs maxMsgSize direction s

/-- `ResetPartPorts`: the ports of a partition are closed and keep everything else. -/
def resetPartPorts (cfg : Config) (partitionId : XmU32) (s : State) : State :=
  let partition := cfg.partition partitionId
  { s with
    portTab := fun port =>
      if partition.commPortsOffset ≤ port
          ∧ port < partition.noPorts + partition.commPortsOffset then
        { s.portTab port with flags := { (s.portTab port).flags with opened := false } }
      else
        s.portTab port }

end XtratuM.Objects
