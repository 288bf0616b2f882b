import XtratuM.Guest.CheckedRanges
import XtratuM.Objects.PortEffects

/-! The operations on ports again, with the checks they make and every guest address that they
dereference.
-/

namespace XtratuM.Objects

open Guest
open GuardedUses
open Tracked

namespace Checking

-----------------------------------------------------------------------------------------
-- Messages

def onOwnPort {α : Type} (cfg : Config) (s : State) (caller : XmU32) (port : Nat)
    (type : PortType) (refused : α) (act : Dereferencing α) : Dereferencing α :=
  if cfg.noCommPorts ≤ port then
    lift (.error .badAccess)
  else if (s.portTab port).partitionId ≠ caller then
    pure refused
  else if (s.portTab port).flags.opened = false then
    pure refused
  else if (cfg.xmcCommPorts port).type ≠ type then
    pure refused
  else
    act

def withChannel {α : Type} (cfg : Config) (port : Nat) (unlinked : α)
    (act : Nat → Dereferencing α) : Dereferencing α :=
  match (cfg.xmcCommPorts port).channelId with
  | none => pure unlinked
  | some c => if c < cfg.noCommChannels then act c else lift (.error .badAccess)

def onChannel (cfg : Config) (space : AddressSpace) (port : Nat) (direction : Direction)
    (msgPtr msgSize : XmU32) (msgFlags : PFlags) (s : State)
    (act : Nat → Dereferencing (Reply × State)) : Dereferencing (Reply × State) :=
  if (cfg.xmcCommPorts port).direction ≠ direction then
    pure (.code .invalidParam, s)
  else if msgSize = 0 then
    pure (.code .invalidConfig, s)
  else
    withChannel cfg port ({ ret := 0, data := [], flags := none }, s) fun c =>
      if (cfg.xmcCommChannelTab c).maxLength < msgSize.toNat then
        pure (.code .invalidConfig, s)
      else
        whenChecked space msgPtr msgSize msgFlags (.code .invalidParam, s) (act c)

/-- `retSize` of `ReadSamplingPort`. -/
def readBytes (s : State) (c : Nat) (msgSize : XmU32) : Nat :=
  match s.channelTab c with
  | .sampling channel => min msgSize.toNat channel.length
  | .queuing _ => 0

/-- `ReadSamplingPort`. -/
def readSamplingPort (cfg : Config) (space : AddressSpace)
    (caller vCpu desc msgPtr msgSize flagsPtr : XmU32) (now : Int) (s : State)
    : Dereferencing (Reply × State) :=
  if objDescGetPartitionId desc ≠ caller then
    pure (.code .permError, s)
  else
    whenChecked space flagsPtr 4 flagsFlags (.code .invalidParam, s)
      (onOwnPort cfg s caller (objDescGetId desc) .sampling (.code .invalidParam, s)
        (onChannel cfg space (objDescGetId desc) .destination msgPtr msgSize receivedFlags s
          fun c => do
            dereference msgPtr (readBytes s c msgSize)
            let result ← lift (readSampling cfg caller vCpu (objDescGetId desc) c msgSize
              flagsPtr now s)
            dereference flagsPtr (if flagsPtr = 0 then 0 else 4)
            pure result))

/-- `WriteSamplingPort`. -/
def writeSamplingPort (cfg : Config) (space : AddressSpace)
    (caller desc msgPtr msgSize : XmU32) (now : Int) (s : State)
    : Dereferencing (Reply × State) :=
  if objDescGetPartitionId desc ≠ caller then
    pure (.code .permError, s)
  else
    onOwnPort cfg s caller (objDescGetId desc) .sampling (.code .invalidParam, s)
      (onChannel cfg space (objDescGetId desc) .source msgPtr msgSize sentFlags s fun c => do
        dereference msgPtr msgSize.toNat
        lift (writeSampling cfg space caller (objDescGetId desc) c msgPtr msgSize now s))

/-- The bytes `SendQueuingPort` copies, none into a full channel. -/
def sentBytes (cfg : Config) (s : State) (c : Nat) (msgSize : XmU32) : Nat :=
  match s.channelTab c, cfg.xmcCommChannelTab c with
  | .queuing channel, .queuing _ maxNoMsgs =>
      if channel.usedMsgs < maxNoMsgs then msgSize.toNat else 0
  | _, _ => 0

/-- `SendQueuingPort`. -/
def sendQueuingPort (cfg : Config) (space : AddressSpace) (caller desc msgPtr msgSize : XmU32)
    (s : State) : Dereferencing (Reply × State) :=
  if objDescGetPartitionId desc ≠ caller then
    pure (.code .permError, s)
  else
    onOwnPort cfg s caller (objDescGetId desc) .queuing (.code .invalidParam, s)
      (onChannel cfg space (objDescGetId desc) .source msgPtr msgSize sentFlags s fun c => do
        dereference msgPtr (sentBytes cfg s c msgSize)
        lift (sendQueuing cfg space caller c msgPtr msgSize s))

/-- `retSize` of `ReceiveQueuingPort`, for the message that `DynListRemoveTail` takes. -/
def receivedBytes (s : State) (c : Nat) (msgSize : XmU32) : Nat :=
  match s.channelTab c with
  | .sampling _ => 0
  | .queuing channel =>
      match dynListRemoveTail channel.lists .recvMsgs with
      | .ok (some msg, _) =>
          if 0 < channel.usedMsgs then min msgSize.toNat (channel.length msg) else 0
      | _ => 0

/-- `ReceiveQueuingPort`. -/
def receiveQueuingPort (cfg : Config) (space : AddressSpace)
    (caller desc msgPtr msgSize : XmU32) (s : State) : Dereferencing (Reply × State) :=
  if objDescGetPartitionId desc ≠ caller then
    pure (.code .permError, s)
  else
    onOwnPort cfg s caller (objDescGetId desc) .queuing (.code .invalidParam, s)
      (onChannel cfg space (objDescGetId desc) .destination msgPtr msgSize receivedFlags s
        fun c => do
          dereference msgPtr (receivedBytes s c msgSize)
          lift (receiveQueuing cfg caller (objDescGetId desc) c msgSize s))

-----------------------------------------------------------------------------------------
-- Names

/-- The bytes that `strncmp` reads of its first string. -/
def strncmpReads : Nat → (Nat → BitVec 8) → (Nat → BitVec 8) → Nat
  | 0, _, _ => 0
  | n + 1, a, b =>
      if a 0 ≠ b 0 then
        1
      else if a 0 = 0 then
        1
      else
        strncmpReads n (fun i => a (i + 1)) (fun i => b (i + 1)) + 1

/-- `strcmp` answers 0. -/
def strcmpEq : Nat → (Nat → BitVec 8) → (Nat → BitVec 8) → Except Stop Bool
  | 0, _, _ => .error .diverges
  | fuel + 1, a, b =>
      if a 0 ≠ b 0 then
        .ok false
      else if a 0 = 0 then
        .ok true
      else
        strcmpEq fuel (fun i => a (i + 1)) (fun i => b (i + 1))

/-- The bytes of an address space; a comparison that goes on for longer does so for ever. -/
def strcmpFuel : Nat := 2 ^ 32

/-- A port name compared by `strncmp`. -/
def comparesStart (cfg : Config) (space : AddressSpace) (portName : XmU32) (port : Nat)
    : Dereferencing Bool := do
  dereference portName
    (strncmpReads CONFIG_ID_STRING_LENGTH (bytesFrom space portName) (cfg.xmcCommPorts port).name)
  pure (strncmpEq CONFIG_ID_STRING_LENGTH (bytesFrom space portName) (cfg.xmcCommPorts port).name)

/-- A port name compared by `strcmp`. -/
def comparesWhole (cfg : Config) (space : AddressSpace) (portName : XmU32) (port : Nat)
    : Dereferencing Bool := do
  dereference portName
    (strncmpReads strcmpFuel (bytesFrom space portName) (cfg.xmcCommPorts port).name)
  lift (strcmpEq strcmpFuel (bytesFrom space portName) (cfg.xmcCommPorts port).name)

/-- The loop that looks a name up, from `port` on. -/
def lookupName (compare : Nat → Dereferencing Bool) : Nat → Nat → Dereferencing Nat
  | 0, port => pure port
  | left + 1, port => do
      let same ← compare port
      if same then pure port else lookupName compare left (port + 1)

-----------------------------------------------------------------------------------------
-- Control operations

def XM_COMM_CREATE_PORT : XmU32 := 0x0
def XM_COMM_GET_PORT_STATUS : XmU32 := 0x1
def XM_COMM_GET_PORT_INFO : XmU32 := 0x2

/-- What a control operation stores in its argument block. -/
inductive PortReport
  | samplingStatus (status : SamplingPortStatus)
  | samplingInfo (validPeriod : XmU32) (maxMsgSize : Nat) (direction : XmU32)
  | queuingStatus (noMsgs : Nat)
  | queuingInfo (maxNoMsgs maxMsgSize : Nat) (direction : XmU32)

structure CtrlReply where
  ret : Int
  stored : Option PortReport

def CtrlReply.code (ret : XmRet) : CtrlReply where
  ret := ret.code
  stored := none

/-- An argument block is a non-null pointer that is read and written. -/
def argsFlags : PFlags where
  rw := true
  notNull := true

/-- `XM_SOURCE_PORT` and `XM_DESTINATION_PORT`. -/
def directionCode : Direction → XmU32
  | .source => 2
  | .destination => 1

def createPort (cfg : Config) (space : AddressSpace) (caller desc portName direction : XmU32)
    (s : State) (opened : Nat → Direction → Except Stop (Int × State))
    : Dereferencing (Int × State) :=
  if objDescGetPartitionId desc ≠ caller then
    pure (XmRet.permError.code, s)
  else
    whenChecked space portName 16 nameFlags (XmRet.invalidParam.code, s)
      (match Direction.ofCode direction with
      | none => pure (XmRet.invalidParam.code, s)
      | some direction => do
          let port ← lookupName (comparesStart cfg space portName)
            (cfg.partition caller).noPorts (cfg.partition caller).commPortsOffset
          lift (opened port direction))

/-- `CreateSamplingPort`. -/
def createSamplingPort (cfg : Config) (space : AddressSpace)
    (caller desc portName maxMsgSize direction : XmU32) (validPeriod : Int) (s : State)
    : Dereferencing (Int × State) :=
  createPort cfg space caller desc portName direction s fun port direction =>
    openSamplingPort cfg caller port maxMsgSize direction validPeriod s

/-- `CreateQueuingPort`. -/
def createQueuingPort (cfg : Config) (space : AddressSpace)
    (caller desc portName maxNoMsgs maxMsgSize direction : XmU32) (s : State)
    : Dereferencing (Int × State) :=
  createPort cfg space caller desc portName direction s fun port direction =>
    openQueuingPort cfg caller port maxNoMsgs maxMsgSize direction s

/-- What `GetSPortInfo` stores of a port. -/
def samplingInfo (cfg : Config) (port : Nat) : Except Stop PortReport :=
  match (cfg.xmcCommPorts port).channelId with
  | none => .ok (.samplingInfo XM_INFINITE_TIME 0 0)
  | some c =>
      if cfg.noCommChannels ≤ c then
        .error .badAccess
      else
        match cfg.xmcCommChannelTab c with
        | .sampling maxLength validPeriod _ =>
            .ok (.samplingInfo validPeriod maxLength
              (directionCode (cfg.xmcCommPorts port).direction))
        | .queuing _ _ => .error .badAccess

/-- What `GetQPortInfo` stores of a port. -/
def queuingInfo (cfg : Config) (port : Nat) : Except Stop PortReport :=
  match (cfg.xmcCommPorts port).channelId with
  | none => .ok (.queuingInfo 0 0 0)
  | some c =>
      if cfg.noCommChannels ≤ c then
        .error .badAccess
      else
        match cfg.xmcCommChannelTab c with
        | .queuing maxLength maxNoMsgs =>
            .ok (.queuingInfo maxNoMsgs maxLength
              (directionCode (cfg.xmcCommPorts port).direction))
        | .sampling _ _ _ => .error .badAccess

/-- What `GetSPortInfo` and `GetQPortInfo` share; they store `len` bytes behind the name. -/
def getPortInfo (cfg : Config) (space : AddressSpace) (caller desc args : XmU32)
    (type : PortType) (len : Nat) (info : Nat → Except Stop PortReport)
    : Dereferencing CtrlReply :=
  if objDescGetPartitionId desc ≠ caller then
    pure (.code .permError)
  else do
    dereference args 4
    whenChecked space (space.word args) 16 nameFlags (.code .invalidParam) do
      let port ← lookupName (comparesWhole cfg space (space.word args))
        (cfg.partition caller).noPorts (cfg.partition caller).commPortsOffset
      if cfg.noCommPorts ≤ port then
        pure (.code .invalidParam)
      else if (cfg.xmcCommPorts port).type ≠ type then
        pure (.code .invalidParam)
      else do
        let report ← lift (info port)
        dereference (args + 4) len
        pure { ret := XmRet.ok.code, stored := some report }

/-- `GetSPortInfo`. -/
def getSPortInfo (cfg : Config) (space : AddressSpace) (caller desc args : XmU32)
    : Dereferencing CtrlReply :=
  getPortInfo cfg space caller desc args .sampling 16 (samplingInfo cfg)

/-- `GetQPortInfo`. -/
def getQPortInfo (cfg : Config) (space : AddressSpace) (caller desc args : XmU32)
    : Dereferencing CtrlReply :=
  getPortInfo cfg space caller desc args .queuing 12 (queuingInfo cfg)

/-- `GetSPortStatus`. -/
def getSPortStatus (cfg : Config) (caller desc args : XmU32) (now : Int) (s : State)
    : Dereferencing CtrlReply := do
  let reply ← lift (Objects.getSPortStatus cfg caller desc now s)
  dereference args (if reply.2.isSome then 16 else 0)
  pure { ret := reply.1.code, stored := reply.2.map .samplingStatus }

/-- `GetQPortStatus`; without a channel it clears a status of a sampling port. -/
def getQPortStatus (cfg : Config) (caller desc args : XmU32) (s : State)
    : Dereferencing CtrlReply :=
  if objDescGetPartitionId desc ≠ caller then
    pure (.code .permError)
  else
    onOwnPort cfg s caller (objDescGetId desc) .queuing (.code .invalidParam)
      (match (cfg.xmcCommPorts (objDescGetId desc)).channelId with
      | none => do
          dereference args 16
          pure { ret := XmRet.ok.code, stored := some (.queuingStatus 0) }
      | some c =>
          if cfg.noCommChannels ≤ c then
            lift (.error .badAccess)
          else
            match s.channelTab c with
            | .sampling _ => lift (.error .badAccess)
            | .queuing channel => do
                dereference args 4
                pure { ret := XmRet.ok.code, stored := some (.queuingStatus channel.usedMsgs) })

/-- What `CtrlSamplingPort` and `CtrlQueuingPort` share; their argument block has `size` bytes and
begins with the name.
-/
def ctrlPort (space : AddressSpace) (cmd args size : XmU32) (s : State)
    (create : Dereferencing (Int × State)) (status info : Dereferencing CtrlReply)
    : Dereferencing (CtrlReply × State) :=
  whenChecked space args size argsFlags (.code .invalidParam, s)
    (if cmd = XM_COMM_CREATE_PORT then do
      dereference args 4
      if space.word args = 0 then
        pure (.code .invalidParam, s)
      else
        whenChecked space (space.word args) 16 nameFlags (.code .invalidParam, s) do
          let created ← create
          pure ({ ret := created.1, stored := none }, created.2)
    else if cmd = XM_COMM_GET_PORT_STATUS then do
      let reply ← status
      pure (reply, s)
    else if cmd = XM_COMM_GET_PORT_INFO then do
      let reply ← info
      pure (reply, s)
    else
      pure (.code .invalidParam, s))

/-- `sizeof(union samplingPortCmd)` and `sizeof(union queuingPortCmd)`. -/
def sizeofSamplingPortCmd : XmU32 := 20
def sizeofQueuingPortCmd : XmU32 := 24

/-- `CtrlSamplingPort`. -/
def ctrlSamplingPort (cfg : Config) (space : AddressSpace) (caller desc cmd args : XmU32)
    (now : Int) (s : State) : Dereferencing (CtrlReply × State) :=
  ctrlPort space cmd args sizeofSamplingPortCmd s
    (do
      dereference args 20
      createSamplingPort cfg space caller desc (space.word args) (space.word (args + 4))
        (space.word (args + 8)) (space.word (args + 16) ++ space.word (args + 12)).toInt s)
    (getSPortStatus cfg caller desc args now s)
    (getSPortInfo cfg space caller desc args)

/-- `CtrlQueuingPort`. -/
def ctrlQueuingPort (cfg : Config) (space : AddressSpace) (caller desc cmd args : XmU32)
    (s : State) : Dereferencing (CtrlReply × State) :=
  ctrlPort space cmd args sizeofQueuingPortCmd s
    (do
      dereference args 16
      createQueuingPort cfg space caller desc (space.word args) (space.word (args + 4))
        (space.word (args + 8)) (space.word (args + 12)) s)
    (getQPortStatus cfg caller desc args s)
    (getQPortInfo cfg space caller desc args)

-----------------------------------------------------------------------------------------
-- What they return is what the operations return

section Results

variable {cfg : Config} {s : State} {port : Nat} {α : Type}

theorem result_dereference_bind {addr : XmU32} {len : Nat} {rest : Unit → Dereferencing α}
    : (dereference addr len >>= rest).result = (rest ()).result := by
  rw [dereference, result_bind, result_uses, ok_bind]

theorem result_onOwnPort {caller : XmU32} {type : PortType} {refused : α}
    {act : Dereferencing α}
    : (onOwnPort cfg s caller port type refused act).result
      = Objects.onOwnPort cfg s caller port type refused act.result := by
  unfold onOwnPort Objects.onOwnPort
  split <;> [rfl; skip]
  split <;> [rfl; skip]
  split <;> [rfl; skip]
  split <;> rfl

theorem result_onChannel {space : AddressSpace} {direction : Direction}
    {msgPtr msgSize : XmU32} {msgFlags : PFlags} {act : Nat → Dereferencing (Reply × State)}
    {act' : Nat → Except Stop (Reply × State)} (same : ∀ c, (act c).result = act' c)
    : (onChannel cfg space port direction msgPtr msgSize msgFlags s act).result
      = Objects.onChannel cfg space port direction msgPtr msgSize msgFlags s act' := by
  unfold onChannel Objects.onChannel withChannel Objects.withChannel
  split <;> [rfl; skip]
  split <;> [rfl; skip]
  cases (cfg.xmcCommPorts port).channelId with
  | none => rfl
  | some c =>
      dsimp only
      split <;> [skip; rfl]
      split <;> [rfl; skip]
      rw [result_whenChecked, same]

theorem result_readSamplingPort (space : AddressSpace)
    (caller vCpu desc msgPtr msgSize flagsPtr : XmU32) (now : Int)
    : (readSamplingPort cfg space caller vCpu desc msgPtr msgSize flagsPtr now s).result
      = Objects.readSamplingPort cfg space caller vCpu desc msgPtr msgSize flagsPtr now s := by
  unfold readSamplingPort Objects.readSamplingPort
  split <;> [rfl; skip]
  rw [result_whenChecked, result_onOwnPort]
  congr 2
  apply result_onChannel
  intro c
  rw [result_dereference_bind, result_bind, result_lift]
  cases readSampling cfg caller vCpu (objDescGetId desc) c msgSize flagsPtr now s with
  | error stop => rfl
  | ok result => rw [ok_bind, result_dereference_bind, result_pure]

theorem result_writeSamplingPort (space : AddressSpace) (caller desc msgPtr msgSize : XmU32)
    (now : Int)
    : (writeSamplingPort cfg space caller desc msgPtr msgSize now s).result
      = Objects.writeSamplingPort cfg space caller desc msgPtr msgSize now s := by
  unfold writeSamplingPort Objects.writeSamplingPort
  split <;> [rfl; skip]
  rw [result_onOwnPort]
  congr 1
  apply result_onChannel
  intro c
  rw [result_dereference_bind, result_lift]

theorem result_sendQueuingPort (space : AddressSpace) (caller desc msgPtr msgSize : XmU32)
    : (sendQueuingPort cfg space caller desc msgPtr msgSize s).result
      = Objects.sendQueuingPort cfg space caller desc msgPtr msgSize s := by
  unfold sendQueuingPort Objects.sendQueuingPort
  split <;> [rfl; skip]
  rw [result_onOwnPort]
  congr 1
  apply result_onChannel
  intro c
  rw [result_dereference_bind, result_lift]

theorem result_receiveQueuingPort (space : AddressSpace) (caller desc msgPtr msgSize : XmU32)
    : (receiveQueuingPort cfg space caller desc msgPtr msgSize s).result
      = Objects.receiveQueuingPort cfg space caller desc msgPtr msgSize s := by
  unfold receiveQueuingPort Objects.receiveQueuingPort
  split <;> [rfl; skip]
  rw [result_onOwnPort]
  congr 1
  apply result_onChannel
  intro c
  rw [result_dereference_bind, result_lift]

/-- The lookup finds the port of the name, by induction on the ports left. -/
theorem result_lookupName (space : AddressSpace) (portName : XmU32) (left port : Nat)
    : (lookupName (comparesStart cfg space portName) left port).result
      = .ok (lookupPort cfg (bytesFrom space portName) left port) := by
  induction left generalizing port with
  | zero => rfl
  | succ left ih =>
      unfold lookupName lookupPort comparesStart
      rw [result_bind, result_dereference_bind, result_pure, ok_bind]
      split
      · rfl
      · exact ih (port + 1)

theorem result_createPort (space : AddressSpace) (caller desc portName direction : XmU32)
    (opened : Nat → Direction → Except Stop (Int × State))
    : (createPort cfg space caller desc portName direction s opened).result
      = Objects.createPort cfg space caller desc portName direction s opened := by
  unfold createPort Objects.createPort
  split <;> [rfl; skip]
  rw [result_whenChecked]
  congr 1
  cases Direction.ofCode direction with
  | none => rfl
  | some direction =>
      dsimp only
      rw [result_bind, result_lookupName, ok_bind, result_lift]

end Results

-----------------------------------------------------------------------------------------
-- Messages in checked ranges

section Messages

variable {cfg : Config} {s : State} {caller desc msgPtr msgSize : XmU32} {α : Type}
  {held : Set CheckedRange} {port : Nat} {type : PortType} {direction : Direction}

theorem checksAfter_onOwnPort {refused : α} {act : Dereferencing α}
    : ChecksAfter held (onOwnPort cfg s caller port type refused act)
      ↔ (OwnPort cfg s caller port type → ChecksAfter held act) := by
  unfold onOwnPort
  split
  · next unknown =>
      refine iff_of_true (after_lift _) fun own => ?_
      exact absurd own.configured (Nat.not_lt.mpr unknown)
  · next configured =>
      split
      · next foreign => exact iff_of_true (after_pure _) fun own => absurd own.owner foreign
      · next owner =>
          split
          · next closed =>
              refine iff_of_true (after_pure _) fun own => ?_
              rw [own.opened] at closed
              cases closed
          · next opened =>
              split
              · next other => exact iff_of_true (after_pure _) fun own => absurd own.type_eq other
              · next type_eq =>
                  have own : OwnPort cfg s caller port type :=
                    { configured := Nat.lt_of_not_le configured
                      owner := not_not.mp owner
                      opened := Bool.not_eq_false _ |>.mp opened
                      type_eq := not_not.mp type_eq }
                  exact ⟨fun after _ => after, fun after => after own⟩

/-- A transfer on a port comes to the check of its message. -/
structure Transfers (cfg : Config) (port : Nat) (direction : Direction) (msgSize : XmU32) : Prop
    where
  direction_eq : (cfg.xmcCommPorts port).direction = direction
  nonempty : msgSize ≠ 0
  fits : ∃ c, (cfg.xmcCommPorts port).channelId = some c ∧ c < cfg.noCommChannels
    ∧ msgSize.toNat ≤ (cfg.xmcCommChannelTab c).maxLength

theorem checksAfter_onChannel {space : AddressSpace} {msgFlags : PFlags}
    {act : Nat → Dereferencing (Reply × State)}
    (inner : ∀ c probed, ¬ Wraps msgPtr msgSize →
      ChecksAfter (insert { param := msgPtr, size := msgSize, probed } held) (act c))
    : ChecksAfter held (onChannel cfg space port direction msgPtr msgSize msgFlags s act)
      ↔ (Transfers cfg port direction msgSize → ¬ Slips msgPtr msgSize) := by
  unfold onChannel withChannel
  split
  · next other =>
      exact iff_of_true (after_pure _) fun transfers => absurd transfers.direction_eq other
  · next direction_eq =>
      split
      · next empty =>
          exact iff_of_true (after_pure _) fun transfers => absurd empty transfers.nonempty
      · next nonempty =>
          cases linked : (cfg.xmcCommPorts port).channelId with
          | none =>
              refine iff_of_true (after_pure _) fun transfers => ?_
              obtain ⟨c, link, -⟩ := transfers.fits
              rw [linked] at link
              cases link
          | some c =>
              have only {d : Nat} (link : (cfg.xmcCommPorts port).channelId = some d) : d = c :=
                Option.some.inj (link.symm.trans linked)
              dsimp only
              split
              · next inside =>
                  split
                  · next long =>
                      refine iff_of_true (after_pure _) fun transfers => ?_
                      obtain ⟨d, link, -, fits⟩ := transfers.fits
                      rw [only link] at fits
                      omega
                  · next fits =>
                      have transfers : Transfers cfg port direction msgSize :=
                        { direction_eq := not_not.mp direction_eq
                          nonempty
                          fits := ⟨c, linked, inside, Nat.le_of_not_lt fits⟩ }
                      rw [checksAfter_whenChecked_of (inner c)]
                      exact ⟨fun noSlip _ => noSlip, fun noSlip => noSlip transfers⟩
              · next outside =>
                  refine iff_of_true (after_lift _) fun transfers => ?_
                  obtain ⟨d, link, inside, -⟩ := transfers.fits
                  rw [only link] at inside
                  exact absurd inside outside

theorem checksAfter_permitted {refused : α} {act : Dereferencing α}
    : ChecksAfter held (if objDescGetPartitionId desc ≠ caller then pure refused else act)
      ↔ (objDescGetPartitionId desc = caller → ChecksAfter held act) := by
  split
  · next foreign => exact iff_of_true (after_pure _) fun own => absurd own foreign
  · next own => exact ⟨fun after _ => after, fun after => after (not_not.mp own)⟩

/-- A transfer comes to the check of its message. -/
structure ReachesMessage (cfg : Config) (s : State) (caller desc : XmU32) (type : PortType)
    (direction : Direction) (msgSize : XmU32) : Prop where
  permitted : objDescGetPartitionId desc = caller
  own : OwnPort cfg s caller (objDescGetId desc) type
  transfers : Transfers cfg (objDescGetId desc) direction msgSize

theorem reachesMessage_iff {conclusion : Prop}
    : (ReachesMessage cfg s caller desc type direction msgSize → conclusion)
      ↔ (objDescGetPartitionId desc = caller → OwnPort cfg s caller (objDescGetId desc) type →
        Transfers cfg (objDescGetId desc) direction msgSize → conclusion) :=
  ⟨fun reached permitted own transfers => reached { permitted, own, transfers },
    fun reached message => reached message.permitted message.own message.transfers⟩

theorem readBytes_le (s : State) (c : Nat) (msgSize : XmU32)
    : readBytes s c msgSize ≤ msgSize.toNat := by
  unfold readBytes
  split
  · exact Nat.min_le_left _ _
  · exact Nat.zero_le _

theorem sentBytes_le (cfg : Config) (s : State) (c : Nat) (msgSize : XmU32)
    : sentBytes cfg s c msgSize ≤ msgSize.toNat := by
  unfold sentBytes
  split
  · split
    · exact Nat.le_refl _
    · exact Nat.zero_le _
  · exact Nat.zero_le _

theorem receivedBytes_le (s : State) (c : Nat) (msgSize : XmU32)
    : receivedBytes s c msgSize ≤ msgSize.toNat := by
  unfold receivedBytes
  split
  · exact Nat.zero_le _
  · split
    · split
      · exact Nat.min_le_left _ _
      · exact Nat.zero_le _
    · exact Nat.zero_le _

theorem readSamplingPort_checks (space : AddressSpace) (vCpu flagsPtr : XmU32) (now : Int)
    : ChecksAfter ∅ (readSamplingPort cfg space caller vCpu desc msgPtr msgSize flagsPtr now s)
      ↔ (Accepts space flagsPtr 4 flagsFlags →
        ReachesMessage cfg s caller desc .sampling .destination msgSize →
        ¬ Slips msgPtr msgSize) := by
  unfold readSamplingPort
  rw [checksAfter_permitted]
  have inner (probed : List XmU32) (fits : ¬ Wraps flagsPtr 4)
      : ChecksAfter (insert { param := flagsPtr, size := 4, probed } ∅)
          (onOwnPort cfg s caller (objDescGetId desc) .sampling (.code .invalidParam, s)
            (onChannel cfg space (objDescGetId desc) .destination msgPtr msgSize receivedFlags s
              fun c => do
                dereference msgPtr (readBytes s c msgSize)
                let result ← lift (readSampling cfg caller vCpu (objDescGetId desc) c msgSize
                  flagsPtr now s)
                dereference flagsPtr (if flagsPtr = 0 then 0 else 4)
                pure result))
        ↔ (OwnPort cfg s caller (objDescGetId desc) .sampling →
          Transfers cfg (objDescGetId desc) .destination msgSize → ¬ Slips msgPtr msgSize) := by
    rw [checksAfter_onOwnPort]
    refine forall_congr' fun _ => checksAfter_onChannel ?_
    intro c probed' fits'
    refine (checksAfter_dereference_bind ?_).mpr ?_
    · exact passed_insert.covers_start fits' (readBytes_le s c msgSize)
    · refine after_lift_bind.mpr fun result _ => (checksAfter_dereference_bind ?_).mpr ?_
      · refine (passed_insert.later _).covers_start fits ?_
        split
        · exact Nat.zero_le _
        · exact Nat.le_refl _
      · exact after_pure _
  rw [checksAfter_whenChecked_small (by decide) fun probed _ fits => inner probed fits]
  rw [reachesMessage_iff]
  exact ⟨fun checks accepts permitted => checks permitted accepts,
    fun checks permitted accepts => checks accepts permitted⟩

/-- A transfer that touches no more than its message. -/
theorem message_checks {space : AddressSpace} {msgFlags : PFlags} {refused : Reply × State}
    {len : Nat → Nat} {act : Nat → Except Stop (Reply × State)}
    (within : ∀ c, len c ≤ msgSize.toNat)
    : ChecksAfter ∅ (if objDescGetPartitionId desc ≠ caller then pure refused
        else
          onOwnPort cfg s caller (objDescGetId desc) type (.code .invalidParam, s)
            (onChannel cfg space (objDescGetId desc) direction msgPtr msgSize msgFlags s fun c => do
              dereference msgPtr (len c)
              lift (act c)))
      ↔ (ReachesMessage cfg s caller desc type direction msgSize → ¬ Slips msgPtr msgSize) := by
  rw [checksAfter_permitted, reachesMessage_iff]
  refine forall_congr' fun _ => checksAfter_onOwnPort.trans (forall_congr' fun _ => ?_)
  refine checksAfter_onChannel ?_
  intro c probed fits
  refine (checksAfter_dereference_bind ?_).mpr (after_lift _)
  exact passed_insert.covers_start fits (within c)

theorem writeSamplingPort_checks (space : AddressSpace) (now : Int)
    : ChecksAfter ∅ (writeSamplingPort cfg space caller desc msgPtr msgSize now s)
      ↔ (ReachesMessage cfg s caller desc .sampling .source msgSize → ¬ Slips msgPtr msgSize) :=
  message_checks fun _ => Nat.le_refl _

theorem sendQueuingPort_checks (space : AddressSpace)
    : ChecksAfter ∅ (sendQueuingPort cfg space caller desc msgPtr msgSize s)
      ↔ (ReachesMessage cfg s caller desc .queuing .source msgSize → ¬ Slips msgPtr msgSize) :=
  message_checks fun c => sentBytes_le cfg s c msgSize

theorem receiveQueuingPort_checks (space : AddressSpace)
    : ChecksAfter ∅ (receiveQueuingPort cfg space caller desc msgPtr msgSize s)
      ↔ (ReachesMessage cfg s caller desc .queuing .destination msgSize →
        ¬ Slips msgPtr msgSize) :=
  message_checks fun c => receivedBytes_le s c msgSize

end Messages

-----------------------------------------------------------------------------------------
-- Names in checked ranges

section Names

variable {cfg : Config} {space : AddressSpace} {s : State} {caller desc args portName : XmU32}
  {held : Set CheckedRange} {compare : Nat → Dereferencing Bool} {left port : Nat}

theorem strncmpReads_le (n : Nat) (a b : Nat → BitVec 8) : strncmpReads n a b ≤ n := by
  induction n generalizing a b with
  | zero => exact Nat.le_refl 0
  | succ n ih =>
      unfold strncmpReads
      split
      · exact Nat.succ_pos n
      · split
        · exact Nat.succ_pos n
        · exact Nat.succ_le_succ (ih _ _)

/-- The ports whose names are compared, first to last. -/
def comparedPorts (same : Nat → Except Stop Bool) : Nat → Nat → List Nat
  | 0, _ => []
  | left + 1, port =>
      port :: match same port with
        | .ok false => comparedPorts same left (port + 1)
        | _ => []

theorem unguarded_lookupName (unguarded : ∀ port, Unguarded (compare port)) (left port : Nat)
    : Unguarded (lookupName compare left port) := by
  induction left generalizing port with
  | zero => exact within_pure port
  | succ left ih =>
      refine within_bind.mpr ⟨unguarded port, fun same _ => ?_⟩
      split
      · exact within_pure port
      · exact ih (port + 1)

/-- Witness: induction on the ports left; the loop goes on while names are different. -/
theorem checksAfter_lookupName (unguarded : ∀ port, Unguarded (compare port))
    : ChecksAfter held (lookupName compare left port)
      ↔ ∀ q ∈ comparedPorts (fun q => (compare q).result) left port,
        ChecksAfter held (compare q) := by
  induction left generalizing port with
  | zero => exact iff_of_true (after_pure port) fun _ member => by cases member
  | succ left ih =>
      unfold lookupName comparedPorts
      rw [List.forall_mem_cons]
      refine (after_bind_unguarded (unguarded port)).trans (and_congr_right fun _ => ?_)
      cases (compare port).result with
      | error stop => simp
      | ok same =>
          cases same with
          | true => simp [after_pure]
          | false => simp [ih]

theorem checksAfter_lookupName_bind {α : Type} {rest : Nat → Dereferencing α}
    (unguarded : ∀ port, Unguarded (compare port)) (after : ∀ port, ChecksAfter held (rest port))
    : ChecksAfter held (lookupName compare left port >>= rest)
      ↔ ChecksAfter held (lookupName compare left port) :=
  (after_bind_unguarded (unguarded_lookupName unguarded left port)).trans
    (and_iff_left fun port _ => after port)

theorem unguarded_comparesStart (portName : XmU32) (port : Nat)
    : Unguarded (comparesStart cfg space portName port) :=
  within_bind.mpr ⟨unguarded_uses _, fun _ _ => within_pure _⟩

theorem unguarded_comparesWhole (portName : XmU32) (port : Nat)
    : Unguarded (comparesWhole cfg space portName port) :=
  within_bind.mpr ⟨unguarded_uses _, fun _ _ => within_lift _⟩

theorem result_comparesWhole (portName : XmU32) (port : Nat)
    : (comparesWhole cfg space portName port).result
      = strcmpEq strcmpFuel (bytesFrom space portName) (cfg.xmcCommPorts port).name := by
  rw [comparesWhole, result_dereference_bind, result_lift]

/-- A name of which no more than its checked bytes are compared. -/
theorem comparesStart_checks (passed : Passed held portName 16) (fits : ¬ Wraps portName 16)
    (port : Nat) : ChecksAfter held (comparesStart cfg space portName port) := by
  refine (checksAfter_dereference_bind ?_).mpr (after_pure _)
  exact passed.covers_start fits (strncmpReads_le _ _ _)

theorem createPort_checks (direction : XmU32)
    (opened : Nat → Direction → Except Stop (Int × State))
    : ChecksAfter held (createPort cfg space caller desc portName direction s opened) := by
  unfold createPort
  refine checksAfter_permitted.mpr fun _ => ?_
  refine checksAfter_whenChecked_small_of (by decide) ?_
  intro probed fits
  split
  · exact after_pure _
  · refine (checksAfter_lookupName_bind (unguarded_comparesStart portName) ?_).mpr ?_
    · exact fun _ => after_lift _
    · refine (checksAfter_lookupName ?_).mpr ?_
      · exact unguarded_comparesStart portName
      · exact fun port _ => comparesStart_checks passed_insert fits port

/-- `strcmp` reads only bytes of the checked name or of the argument block. -/
def ComparesInside (cfg : Config) (space : AddressSpace) (caller portName args size : XmU32)
    : Prop :=
  ∀ port ∈ comparedPorts
      (fun port => strcmpEq strcmpFuel (bytesFrom space portName) (cfg.xmcCommPorts port).name)
      (cfg.partition caller).noPorts (cfg.partition caller).commPortsOffset,
    ∀ addr ∈ bytesAt portName
        (strncmpReads strcmpFuel (bytesFrom space portName) (cfg.xmcCommPorts port).name),
      InRange portName 16 addr ∨ InRange args size addr

theorem comparesWhole_checks {size : XmU32} {probed probed' : List XmU32} {port : Nat}
    : ChecksAfter
        (insert { param := portName, size := 16, probed := probed' }
          (insert { param := args, size, probed } ∅))
        (comparesWhole cfg space portName port)
      ↔ ∀ addr ∈ bytesAt portName
          (strncmpReads strcmpFuel (bytesFrom space portName) (cfg.xmcCommPorts port).name),
        InRange portName 16 addr ∨ InRange args size addr := by
  refine after_uses_bind.trans ((and_iff_left (after_lift _)).trans ?_)
  refine forall₂_congr fun addr _ => ?_
  refine coveredBy_insert.trans (or_congr_right ?_)
  exact coveredBy_insert.trans (or_iff_left (not_coveredBy_empty addr))

theorem getPortInfo_checks {size : XmU32} {probed : List XmU32} (fits : ¬ Wraps args size)
    {type : PortType} {len : Nat} (inside : 4 + len ≤ size.toNat)
    {info : Nat → Except Stop PortReport}
    : ChecksAfter (insert { param := args, size, probed } ∅)
        (getPortInfo cfg space caller desc args type len info)
      ↔ (objDescGetPartitionId desc = caller →
        Accepts space (space.word args) 16 nameFlags →
        ComparesInside cfg space caller (space.word args) args size) := by
  unfold getPortInfo
  rw [checksAfter_permitted]
  refine forall_congr' fun _ => ?_
  refine (checksAfter_dereference_bind ?_).trans ?_
  · exact passed_insert.covers_start fits (by omega)
  · refine checksAfter_whenChecked_small (by decide) ?_
    intro probed' _ _
    refine (checksAfter_lookupName_bind (unguarded_comparesWhole _) ?_).trans ?_
    · intro port
      split
      · exact after_pure _
      · split
        · exact after_pure _
        · refine after_lift_bind.mpr fun report _ => ?_
          refine (checksAfter_dereference_bind ?_).mpr (after_pure _)
          exact (passed_insert.later _).covers fits 4 inside
    · rw [checksAfter_lookupName (unguarded_comparesWhole _)]
      simp only [result_comparesWhole, comparesWhole_checks]
      exact Iff.rfl

theorem getSPortStatus_checks {now : Int} {size : XmU32} (passed : Passed held args size)
    (fits : ¬ Wraps args size) (inside : 16 ≤ size.toNat)
    : ChecksAfter held (getSPortStatus cfg caller desc args now s) := by
  refine after_lift_bind.mpr fun reply _ => ?_
  refine (checksAfter_dereference_bind ?_).mpr (after_pure _)
  refine passed.covers_start fits ?_
  split
  · exact inside
  · exact Nat.zero_le _

theorem getQPortStatus_checks {size : XmU32} (passed : Passed held args size)
    (fits : ¬ Wraps args size) (inside : 16 ≤ size.toNat)
    : ChecksAfter held (getQPortStatus cfg caller desc args s) := by
  refine checksAfter_permitted.mpr fun _ => checksAfter_onOwnPort.mpr fun _ => ?_
  split
  · refine (checksAfter_dereference_bind ?_).mpr (after_pure _)
    exact passed.covers_start fits inside
  · split
    · exact after_lift _
    · split
      · exact after_lift _
      · refine (checksAfter_dereference_bind ?_).mpr (after_pure _)
        exact passed.covers_start fits (by omega)

theorem ctrlPort_checks {cmd size : XmU32} (large : 4 ≤ size.toNat) (small : size.toNat ≤ 4096)
    {create : Dereferencing (Int × State)} {status info : Dereferencing CtrlReply} {holds : Prop}
    (creates : ∀ held, Passed held args size → ¬ Wraps args size → ChecksAfter held create)
    (reports : ∀ held, Passed held args size → ¬ Wraps args size → ChecksAfter held status)
    (informs : ∀ probed, ¬ Wraps args size →
      (ChecksAfter (insert { param := args, size, probed } ∅) info ↔ holds))
    : ChecksAfter ∅ (ctrlPort space cmd args size s create status info)
      ↔ (Accepts space args size argsFlags → cmd = XM_COMM_GET_PORT_INFO → holds) := by
  refine checksAfter_whenChecked_small small ?_
  intro probed _ fits
  split
  · next isCreate =>
      have other : cmd ≠ XM_COMM_GET_PORT_INFO := by
        rw [isCreate]
        decide
      refine iff_of_true ?_ fun asked => absurd asked other
      refine (checksAfter_dereference_bind (passed_insert.covers_start fits large)).mpr ?_
      split
      · exact after_pure _
      · refine checksAfter_whenChecked_small_of (by decide) fun probed' _ => ?_
        refine after_bind.mpr ⟨creates _ (passed_insert.later _) fits, fun created _ => ?_⟩
        exact after_pure _
  · split
    · next isStatus =>
        have other : cmd ≠ XM_COMM_GET_PORT_INFO := by
          rw [isStatus]
          decide
        refine iff_of_true ?_ fun asked => absurd asked other
        exact after_bind.mpr ⟨reports _ passed_insert fits, fun reply _ => after_pure _⟩
    · split
      · next asked =>
          have informed := informs probed fits
          refine after_bind.trans ((and_iff_left fun reply _ => after_pure _).trans ?_)
          exact informed.trans ⟨fun holds _ => holds, fun holds => holds asked⟩
      · next other => exact iff_of_true (after_pure _) fun asked => absurd asked other

theorem ctrlSamplingPort_checks (cmd : XmU32) (now : Int)
    : ChecksAfter ∅ (ctrlSamplingPort cfg space caller desc cmd args now s)
      ↔ (Accepts space args sizeofSamplingPortCmd argsFlags → cmd = XM_COMM_GET_PORT_INFO →
        objDescGetPartitionId desc = caller → Accepts space (space.word args) 16 nameFlags →
        ComparesInside cfg space caller (space.word args) args sizeofSamplingPortCmd) := by
  refine ctrlPort_checks (by decide) (by decide) ?_ ?_ ?_
  · intro held passed fits
    refine (checksAfter_dereference_bind ?_).mpr (createPort_checks _ _)
    exact passed.covers_start fits (by decide)
  · exact fun held passed fits => getSPortStatus_checks passed fits (by decide)
  · exact fun probed fits => getPortInfo_checks fits (by decide)

theorem ctrlQueuingPort_checks (cmd : XmU32)
    : ChecksAfter ∅ (ctrlQueuingPort cfg space caller desc cmd args s)
      ↔ (Accepts space args sizeofQueuingPortCmd argsFlags → cmd = XM_COMM_GET_PORT_INFO →
        objDescGetPartitionId desc = caller → Accepts space (space.word args) 16 nameFlags →
        ComparesInside cfg space caller (space.word args) args sizeofQueuingPortCmd) := by
  refine ctrlPort_checks (by decide) (by decide) ?_ ?_ ?_
  · intro held passed fits
    refine (checksAfter_dereference_bind ?_).mpr (createPort_checks _ _)
    exact passed.covers_start fits (by decide)
  · exact fun held passed fits => getQPortStatus_checks passed fits (by decide)
  · exact fun probed fits => getPortInfo_checks fits (by decide)

end Names

end Checking

end XtratuM.Objects
