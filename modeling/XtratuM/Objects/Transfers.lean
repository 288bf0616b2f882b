import XtratuM.Library.Reachability
import XtratuM.Objects.CommPorts

/-! Using open ports: the transfers of sampling and queuing ports, their status, and the
steps that the calls of all partitions make together.
-/

namespace XtratuM.Objects

open XtratuM.Guest

/-- What an operation gives back: its return value, the bytes it copied to the guest's
message and the value it stored through the guest's `flags`.
-/
structure Reply where
  ret : Int
  data : List (BitVec 8)
  flags : Option XmU32
  deriving DecidableEq

def Reply.code (ret : XmRet) : Reply where
  ret := ret.code
  data := []
  flags := none

/-- The checks every operation on a port makes before it acts: the port must exist, belong
to the caller, be open and be of the right type.
-/
def onOwnPort {α : Type} (cfg : Config) (s : State) (caller : XmU32) (port : Nat)
    (type : PortType) (refused : α) (act : Except Stop α) : Except Stop α :=
  if cfg.noCommPorts ≤ port then
    .error .badAccess
  else if (s.portTab port).partitionId ≠ caller then
    .ok refused
  else if (s.portTab port).flags.opened = false then
    .ok refused
  else if (cfg.xmcCommPorts port).type ≠ type then
    .ok refused
  else
    act

/-- `s.maxLength` or `q.maxLength` of a configured channel. -/
def XmcCommChannel.maxLength : XmcCommChannel → Nat
  | .sampling maxLength _ _ => maxLength
  | .queuing maxLength _ => maxLength

/-- Goes to the channel of a port, if it has one. -/
def withChannel {α : Type} (cfg : Config) (port : Nat) (unlinked : α)
    (act : Nat → Except Stop α) : Except Stop α :=
  match (cfg.xmcCommPorts port).channelId with
  | none => .ok unlinked
  | some c => if c < cfg.noCommChannels then act c else .error .badAccess

/-- The checks a message transfer makes next: the direction, a size that is not zero, and
the channel with its limit on the size, before the guest's buffer is checked. Without a
channel the transfer succeeds at once.
-/
def onChannel (cfg : Config) (space : AddressSpace) (port : Nat) (direction : Direction)
    (msgPtr msgSize : XmU32) (msgFlags : PFlags) (s : State)
    (act : Nat → Except Stop (Reply × State)) : Except Stop (Reply × State) :=
  if (cfg.xmcCommPorts port).direction ≠ direction then
    .ok (.code .invalidParam, s)
  else if msgSize = 0 then
    .ok (.code .invalidConfig, s)
  else
    withChannel cfg port ({ ret := 0, data := [], flags := none }, s) fun c =>
      if (cfg.xmcCommChannelTab c).maxLength < msgSize.toNat then
        .ok (.code .invalidConfig, s)
      else
        ifChecked space msgPtr msgSize msgFlags (.code .invalidParam, s) (act c)

def sentFlags : PFlags where
  rw := false
  notNull := true

def receivedFlags : PFlags where
  rw := true
  notNull := true

def flagsFlags : PFlags where
  rw := true
  notNull := false

/-- `memcpy` into a kernel buffer from guest memory. -/
def copyIn (buffer : Nat → BitVec 8) (space : AddressSpace) (msgPtr : XmU32) (size : Nat)
    : Nat → BitVec 8 :=
  fun i => if i < size then bytesFrom space msgPtr i else buffer i

/-- The bytes a `memcpy` to guest memory hands out. -/
def copyOut (buffer : Nat → BitVec 8) (size : Nat) : List (BitVec 8) :=
  (List.range size).map buffer

-----------------------------------------------------------------------------------------
-- Sampling ports

/-- `XM_COMM_MSG_VALID` is reported while the message is younger than its period. -/
def msgValid (period : XmU32) (timestamp now : Int) : Bool :=
  period ≠ XM_INFINITE_TIME && timestamp + period.toNat > now

/-- The flags of a port whose channel was written. -/
def PortFlags.written (flags : PortFlags) : PortFlags :=
  { flags with newMsg := true, consumedMsg := false }

/-- The flags of a port that was read. -/
def PortFlags.read (flags : PortFlags) : PortFlags :=
  { flags with newMsg := false, consumedMsg := true }

def State.setFlags (s : State) (port : Nat) (flags : PortFlags) : State :=
  s.setPort port { s.portTab port with flags }

/-- A reader tells the sender of the channel that its message was taken. -/
def notifySender (cfg : Config) (caller : XmU32) (channel : SamplingChannel) (s : State)
    : Except Stop State :=
  match channel.sender with
  | none => .ok s
  | some sender =>
      (s.changePcts sender (cfg.vCpus sender)
        (xmClearBit (commPortBitmap cfg caller) (BitVec.ofNat 32 channel.senderPort))).raise
        cfg sender XM_VT_EXT_SAMPLING_PORT

/-- The locked part of `ReadSamplingPort`. -/
def readSampling (cfg : Config) (caller vCpu : XmU32) (port c : Nat)
    (msgSize flagsPtr : XmU32) (now : Int) (s : State) : Except Stop (Reply × State) :=
  match s.channelTab c, cfg.xmcCommChannelTab c with
  | .sampling channel, .sampling _ period _ => do
      let retSize := min msgSize.toNat channel.length
      let read := s.setFlags port (s.portTab port).flags.read
      let relative := BitVec.ofNat 32 port - BitVec.ofNat 32 (cfg.partition caller).commPortsOffset
      assertPcts read caller [vCpu] fun pct => relative < pct.noCommPorts
      let s ← notifySender cfg caller channel
        (read.changePcts caller [vCpu] (xmClearBit (commPortBitmap cfg caller) relative))
      let valid := retSize ≠ 0 && msgValid period channel.timestamp now
      pure
        ({ ret := retSize
           data := copyOut channel.buffer retSize
           flags :=
             if flagsPtr = 0 then none else some (if valid then XM_COMM_MSG_VALID else 0) },
          s)
  | _, _ => .error .badAccess

/-- `ReadSamplingPort`. -/
def readSamplingPort (cfg : Config) (space : AddressSpace)
    (caller vCpu desc msgPtr msgSize flagsPtr : XmU32) (now : Int) (s : State)
    : Except Stop (Reply × State) :=
  if objDescGetPartitionId desc ≠ caller then
    .ok (.code .permError, s)
  else
    ifChecked space flagsPtr 4 flagsFlags (.code .invalidParam, s)
      (onOwnPort cfg s caller (objDescGetId desc) .sampling (.code .invalidParam, s)
        (onChannel cfg space (objDescGetId desc) .destination msgPtr msgSize receivedFlags s
          fun c =>
            readSampling cfg caller vCpu (objDescGetId desc) c msgSize flagsPtr now s))

/-- The vCPUs of one registered receiver. The port is looked up in the global table by the
number it has in its partition.
-/
def deliverTo (cfg : Config) (caller receiver : XmU32) (receiverPort : Nat)
    : List XmU32 → State → Except Stop State
  | [], s => .ok s
  | v :: rest, s => do
      assertPcts s receiver [v] fun pct => (receiverPort : Int) < pct.noCommPorts.toInt
      let marked := s.changePcts receiver [v]
        (xmSetBit (commPortBitmap cfg caller) (BitVec.ofNat 32 receiverPort))
      deliverTo cfg caller receiver receiverPort rest
        (marked.setFlags receiverPort (marked.portTab receiverPort).flags.written)

/-- One entry of the receiver table. -/
def deliver (cfg : Config) (caller : XmU32) (channel : SamplingChannel) (e : Nat) (s : State)
    : Except Stop State :=
  match channel.receiverTab e with
  | none => .ok s
  | some receiver => do
      let s ← deliverTo cfg caller receiver (channel.receiverPortTab e) (cfg.vCpus receiver) s
      s.raise cfg receiver XM_VT_EXT_SAMPLING_PORT

def deliverAll (cfg : Config) (caller : XmU32) (channel : SamplingChannel)
    : List Nat → State → Except Stop State
  | [], s => .ok s
  | e :: rest, s => do
      let s ← deliver cfg caller channel e s
      deliverAll cfg caller channel rest s

/-- The locked part of `WriteSamplingPort`. -/
def writeSampling (cfg : Config) (space : AddressSpace) (caller : XmU32) (port c : Nat)
    (msgPtr msgSize : XmU32) (now : Int) (s : State) : Except Stop (Reply × State) :=
  match s.channelTab c with
  | .queuing _ => .error .badAccess
  | .sampling channel => do
      assert (channel.sender = some caller)
      let marked := s.changePcts caller (cfg.vCpus caller)
        (xmSetBit (commPortBitmap cfg caller) (BitVec.ofNat 32 port))
      let s ← deliverAll cfg caller channel (List.range channel.noReceivers) marked
      pure
        (.code .ok,
          s.setChannel c (.sampling
            { channel with
              buffer := copyIn channel.buffer space msgPtr msgSize.toNat
              length := msgSize.toNat
              timestamp := now }))

/-- `WriteSamplingPort`. -/
def writeSamplingPort (cfg : Config) (space : AddressSpace)
    (caller desc msgPtr msgSize : XmU32) (now : Int) (s : State)
    : Except Stop (Reply × State) :=
  if objDescGetPartitionId desc ≠ caller then
    .ok (.code .permError, s)
  else
    onOwnPort cfg s caller (objDescGetId desc) .sampling (.code .invalidParam, s)
      (onChannel cfg space (objDescGetId desc) .source msgPtr msgSize sentFlags s fun c =>
        writeSampling cfg space caller (objDescGetId desc) c msgPtr msgSize now s)

/-- `xmSamplingPortStatus_t`. -/
structure SamplingPortStatus where
  timestamp : Int
  lastMsgSize : Nat
  flags : XmU32
  deriving DecidableEq

/-- The state of the port as `GetSPortStatus` reports it; `XM_COMM_EMPTY_PORT` is 0. -/
def PortFlags.status (flags : PortFlags) : XmU32 :=
  if flags.newMsg then XM_COMM_NEW_MSG
  else if flags.consumedMsg then XM_COMM_CONSUMED_MSG
  else 0

/-- `GetSPortStatus`. -/
def getSPortStatus (cfg : Config) (caller desc : XmU32) (now : Int) (s : State)
    : Except Stop (XmRet × Option SamplingPortStatus) :=
  if objDescGetPartitionId desc ≠ caller then
    .ok (.permError, none)
  else
    onOwnPort cfg s caller (objDescGetId desc) .sampling (.invalidParam, none)
      (withChannel cfg (objDescGetId desc)
        (.ok, some { timestamp := 0, lastMsgSize := 0, flags := 0 })
        fun c =>
          match s.channelTab c, cfg.xmcCommChannelTab c with
          | .sampling channel, .sampling _ period _ =>
              let valid := channel.timestamp ≠ 0 && msgValid period channel.timestamp now
              .ok
                (.ok, some
                  { timestamp := channel.timestamp
                    lastMsgSize := channel.length
                    flags :=
                      (s.portTab (objDescGetId desc)).flags.status
                        ||| (if valid then XM_COMM_MSG_VALID else 0) })
          | _, _ => .error .badAccess)

-----------------------------------------------------------------------------------------
-- Queuing ports

/-- Takes a message from the pool, fills it and queues it. -/
def QueuingChannel.enqueue (channel : QueuingChannel) (space : AddressSpace)
    (msgPtr : XmU32) (size : Nat) : Except Stop QueuingChannel := do
  let taken ← dynListRemoveTail channel.lists .freeMsgs
  match taken.1 with
  | none => .error .systemPanic
  | some msg => do
      let lists ← dynListInsertHead taken.2 .recvMsgs msg
      pure
        { channel with
          lists
          buffer :=
            Function.update channel.buffer msg (copyIn (channel.buffer msg) space msgPtr size)
          length := Function.update channel.length msg size
          usedMsgs := channel.usedMsgs + 1 }

/-- Takes the oldest message off the queue, hands out at most `size` bytes of it and gives
it back to the pool.
-/
def QueuingChannel.dequeue (channel : QueuingChannel) (size : Nat)
    : Except Stop (List (BitVec 8) × QueuingChannel) := do
  let taken ← dynListRemoveTail channel.lists .recvMsgs
  match taken.1 with
  | none => .error .systemPanic
  | some msg => do
      let lists ← dynListInsertHead taken.2 .freeMsgs msg
      pure
        (copyOut (channel.buffer msg) (min size (channel.length msg)),
          { channel with lists, usedMsgs := channel.usedMsgs - 1 })

/-- A sender tells the receiver of the channel that a message is queued. -/
def notifyReceiver (cfg : Config) (caller : XmU32) (channel : QueuingChannel) (s : State)
    : Except Stop State :=
  match channel.receiver with
  | none => .ok s
  | some receiver => do
      assertPcts s receiver (cfg.vCpus receiver) fun pct =>
        (channel.receiverPort : Int) < pct.noCommPorts.toInt
      (s.changePcts receiver (cfg.vCpus receiver)
        (xmSetBit (commPortBitmap cfg caller) (BitVec.ofNat 32 channel.receiverPort))).raise
        cfg receiver XM_VT_EXT_QUEUING_PORT

/-- The locked part of `SendQueuingPort`. -/
def sendQueuing (cfg : Config) (space : AddressSpace) (caller : XmU32) (c : Nat)
    (msgPtr msgSize : XmU32) (s : State) : Except Stop (Reply × State) :=
  match s.channelTab c, cfg.xmcCommChannelTab c with
  | .queuing channel, .queuing _ maxNoMsgs =>
      if channel.usedMsgs < maxNoMsgs then do
        let queued ← channel.enqueue space msgPtr msgSize.toNat
        let s ← notifyReceiver cfg caller channel (s.setChannel c (.queuing queued))
        assertPcts s caller (cfg.vCpus caller) fun _ => channel.sender = some caller
        pure
          (.code .ok,
            s.changePcts caller (cfg.vCpus caller)
              (xmSetBit (commPortBitmap cfg caller) (BitVec.ofNat 32 channel.senderPort)))
      else
        .ok (.code .opNotAllowed, s)
  | _, _ => .error .badAccess

/-- `SendQueuingPort`. -/
def sendQueuingPort (cfg : Config) (space : AddressSpace) (caller desc msgPtr msgSize : XmU32)
    (s : State) : Except Stop (Reply × State) :=
  if objDescGetPartitionId desc ≠ caller then
    .ok (.code .permError, s)
  else
    onOwnPort cfg s caller (objDescGetId desc) .queuing (.code .invalidParam, s)
      (onChannel cfg space (objDescGetId desc) .source msgPtr msgSize sentFlags s fun c =>
        sendQueuing cfg space caller c msgPtr msgSize s)

def raiseSender (cfg : Config) (channel : QueuingChannel) (s : State) : Except Stop State :=
  match channel.sender with
  | none => .ok s
  | some sender => s.raise cfg sender XM_VT_EXT_QUEUING_PORT

/-- Clears the bits of a channel that was emptied. In the receiver's tables it is the bit
numbered by the offset of its ports, whichever port was read.
-/
def clearBits (cfg : Config) (caller : XmU32) (port : Nat) (channel : QueuingChannel)
    (s : State) : Except Stop State := do
  let offset := BitVec.ofNat 32 (cfg.partition caller).commPortsOffset
  assertPcts s caller (cfg.vCpus caller) fun pct =>
    BitVec.ofNat 32 port - offset < pct.noCommPorts
  let cleared := s.changePcts caller (cfg.vCpus caller)
    (xmClearBit (commPortBitmap cfg caller) offset)
  match channel.sender with
  | none => pure cleared
  | some sender => do
      assertPcts cleared sender (cfg.vCpus sender) fun pct =>
        (channel.senderPort : Int) < pct.noCommPorts.toInt
      pure (cleared.changePcts sender (cfg.vCpus sender)
        (xmClearBit (commPortBitmap cfg caller) (BitVec.ofNat 32 channel.senderPort)))

def clearEmptied (cfg : Config) (caller : XmU32) (port usedMsgs : Nat)
    (channel : QueuingChannel) (s : State) : Except Stop State :=
  if usedMsgs = 0 then clearBits cfg caller port channel s else .ok s

/-- The locked part of `ReceiveQueuingPort`. -/
def receiveQueuing (cfg : Config) (caller : XmU32) (port c : Nat) (msgSize : XmU32)
    (s : State) : Except Stop (Reply × State) :=
  match s.channelTab c, cfg.xmcCommChannelTab c with
  | .queuing channel, .queuing _ _ =>
      if 0 < channel.usedMsgs then do
        let taken ← channel.dequeue msgSize.toNat
        let s ← raiseSender cfg channel (s.setChannel c (.queuing taken.2))
        let s ← clearEmptied cfg caller port taken.2.usedMsgs channel s
        pure ({ ret := taken.1.length, data := taken.1, flags := none }, s)
      else
        .ok (.code .opNotAllowed, s)
  | _, _ => .error .badAccess

/-- `ReceiveQueuingPort`. -/
def receiveQueuingPort (cfg : Config) (space : AddressSpace)
    (caller desc msgPtr msgSize : XmU32) (s : State) : Except Stop (Reply × State) :=
  if objDescGetPartitionId desc ≠ caller then
    .ok (.code .permError, s)
  else
    onOwnPort cfg s caller (objDescGetId desc) .queuing (.code .invalidParam, s)
      (onChannel cfg space (objDescGetId desc) .destination msgPtr msgSize receivedFlags s
        fun c => receiveQueuing cfg caller (objDescGetId desc) c msgSize s)

-----------------------------------------------------------------------------------------
-- Runs

/-- A hypercall on a port, with its arguments. -/
inductive Op
  | createSamplingPort (desc portName maxMsgSize direction : XmU32) (validPeriod : Int)
  | createQueuingPort (desc portName maxNoMsgs maxMsgSize direction : XmU32)
  | readSamplingPort (desc msgPtr msgSize flags : XmU32)
  | writeSamplingPort (desc msgPtr msgSize : XmU32)
  | sendQueuingPort (desc msgPtr msgSize : XmU32)
  | receiveQueuingPort (desc msgPtr msgSize : XmU32)

/-- A hypercall with the vCPU that makes it, the memory it sees and the system clock. -/
structure Call where
  caller : XmU32
  vCpu : XmU32
  space : AddressSpace
  now : Int
  op : Op

/-- The reply of a create operation is its return value alone. -/
def created (result : Except Stop (Int × State)) : Except Stop (Reply × State) :=
  result.map fun returned => ({ ret := returned.1, data := [], flags := none }, returned.2)

def Call.run (cfg : Config) (call : Call) (s : State) : Except Stop (Reply × State) :=
  match call.op with
  | .createSamplingPort desc portName maxMsgSize direction validPeriod =>
      created (createSamplingPort cfg call.space call.caller desc portName maxMsgSize direction
        validPeriod s)
  | .createQueuingPort desc portName maxNoMsgs maxMsgSize direction =>
      created (createQueuingPort cfg call.space call.caller desc portName maxNoMsgs maxMsgSize
        direction s)
  | .readSamplingPort desc msgPtr msgSize flags =>
      readSamplingPort cfg call.space call.caller call.vCpu desc msgPtr msgSize flags call.now s
  | .writeSamplingPort desc msgPtr msgSize =>
      writeSamplingPort cfg call.space call.caller desc msgPtr msgSize call.now s
  | .sendQueuingPort desc msgPtr msgSize =>
      sendQueuingPort cfg call.space call.caller desc msgPtr msgSize s
  | .receiveQueuingPort desc msgPtr msgSize =>
      receiveQueuingPort cfg call.space call.caller desc msgPtr msgSize s

/-- What happens to the ports: a call with its reply, the reset of a partition, or anything
else in the system, which only reaches the kthreads and the control tables. `CreatePartition`
allocates these in the memory of the hypervisor, and they are mapped into the partitions.
-/
inductive Event
  | call (call : Call) (reply : Reply)
  | reset (partitionId : XmU32)
  | elsewhere

inductive Next (cfg : Config) : State → Event → State → Prop
  | call {s s' : State} {call : Call} {reply : Reply} (returned : call.run cfg s = .ok (reply, s'))
    : Next cfg s (.call call reply) s'
  | reset {s : State} {partitionId : XmU32}
    : Next cfg s (.reset partitionId) (resetPartPorts cfg partitionId s)
  | elsewhere {s : State} {kThreadTab : KThreadTab} {pct : XmU32 → XmU32 → Pct}
    : Next cfg s .elsewhere { s with kThreadTab, pct }

/-- Some calls one after the other. -/
def runCalls (cfg : Config) : List Call → State → Except Stop (List Reply × State)
  | [], s => .ok ([], s)
  | call :: rest, s => do
      let first ← call.run cfg s
      let others ← runCalls cfg rest first.2
      pure (first.1 :: others.1, others.2)

/-- Calls that return make a run, by induction on the calls. -/
theorem runCalls_reach {cfg : Config} {calls : List Call} {s s' : State}
    {replies : List Reply} (returned : runCalls cfg calls s = .ok (replies, s'))
    : Reachability.Reach (Next cfg) s (List.zipWith Event.call calls replies).reverse s' := by
  induction calls generalizing s replies with
  | nil =>
      cases returned
      exact .start
  | cons call rest ih =>
      obtain ⟨⟨reply, t⟩, first, returned⟩ := bind_eq_ok.mp returned
      obtain ⟨⟨others, u⟩, later, returned⟩ := bind_eq_ok.mp returned
      cases returned
      rw [List.zipWith_cons_cons, List.reverse_cons]
      exact (Reachability.Reach.step .start (Next.call first)).trans (ih later)

end XtratuM.Objects
