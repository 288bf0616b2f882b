import XtratuM.Objects.Transfers

/-! What each operation on ports can do to the tables of ports and channels: one inversion
lemma an operation, from which the invariants over runs are read off.
-/

namespace XtratuM.Objects

open XtratuM.Guest

-----------------------------------------------------------------------------------------
-- Operations that only notify

/-- Neither a port nor a channel changed. -/
structure SameTables (s s' : State) : Prop where
  portTab : s'.portTab = s.portTab
  channelTab : s'.channelTab = s.channelTab

theorem SameTables.refl (s : State) : SameTables s s :=
  ⟨rfl, rfl⟩

theorem SameTables.trans {s t u : State} (first : SameTables s t) (second : SameTables t u)
    : SameTables s u where
  portTab := second.portTab.trans first.portTab
  channelTab := second.channelTab.trans first.channelTab

theorem changePcts_same (s : State) (partitionId : XmU32) (vCpus : List XmU32)
    (change : Pct → Pct)
    : SameTables s (s.changePcts partitionId vCpus change) :=
  ⟨rfl, rfl⟩

theorem raise_same {s s' : State} {cfg : Config} {partitionId : XmU32} {irq : Nat}
    (returned : s.raise cfg partitionId irq = .ok s')
    : SameTables s s' := by
  obtain ⟨kThreadTab, -, returned⟩ := bind_eq_ok.mp returned
  cases returned
  exact ⟨rfl, rfl⟩

theorem notifySender_same {cfg : Config} {caller : XmU32} {channel : SamplingChannel}
    {s s' : State} (returned : notifySender cfg caller channel s = .ok s')
    : SameTables s s' := by
  unfold notifySender at returned
  split at returned
  · cases returned
    exact .refl s
  · exact (changePcts_same s _ _ _).trans (raise_same returned)

theorem notifyReceiver_same {cfg : Config} {caller : XmU32} {channel : QueuingChannel}
    {s s' : State} (returned : notifyReceiver cfg caller channel s = .ok s')
    : SameTables s s' := by
  unfold notifyReceiver at returned
  split at returned
  · cases returned
    exact .refl s
  · obtain ⟨-, -, returned⟩ := bind_eq_ok.mp returned
    exact (changePcts_same s _ _ _).trans (raise_same returned)

theorem raiseSender_same {cfg : Config} {channel : QueuingChannel} {s s' : State}
    (returned : raiseSender cfg channel s = .ok s')
    : SameTables s s' := by
  unfold raiseSender at returned
  split at returned
  · cases returned
    exact .refl s
  · exact raise_same returned

theorem clearEmptied_same {cfg : Config} {caller : XmU32} {port usedMsgs : Nat}
    {channel : QueuingChannel} {s s' : State}
    (returned : clearEmptied cfg caller port usedMsgs channel s = .ok s')
    : SameTables s s' := by
  unfold clearEmptied at returned
  split at returned
  · obtain ⟨-, -, returned⟩ := bind_eq_ok.mp returned
    split at returned
    · cases returned
      exact changePcts_same s _ _ _
    · obtain ⟨-, -, returned⟩ := bind_eq_ok.mp returned
      cases returned
      exact (changePcts_same s _ _ _).trans (changePcts_same _ _ _ _)
  · cases returned
    exact .refl s

-----------------------------------------------------------------------------------------
-- The checks before a transfer

/-- What the checks of an operation on a port leave: the caller's open port of a type. -/
structure OwnPort (cfg : Config) (s : State) (caller : XmU32) (port : Nat) (type : PortType)
    : Prop where
  configured : port < cfg.noCommPorts
  owner : (s.portTab port).partitionId = caller
  opened : (s.portTab port).flags.opened = true
  type_eq : (cfg.xmcCommPorts port).type = type

theorem onOwnPort_cases {α : Type} {cfg : Config} {s : State} {caller : XmU32} {port : Nat}
    {type : PortType} {refused result : α} {act : Except Stop α}
    (returned : onOwnPort cfg s caller port type refused act = .ok result)
    : result = refused ∨ (OwnPort cfg s caller port type ∧ act = .ok result) := by
  unfold onOwnPort at returned
  split at returned
  · cases returned
  · next configured =>
      split at returned
      · cases returned
        exact Or.inl rfl
      · next owner =>
          split at returned
          · cases returned
            exact Or.inl rfl
          · next opened =>
              split at returned
              · cases returned
                exact Or.inl rfl
              · next type =>
                  right
                  refine ⟨?_, returned⟩
                  exact
                    { configured := by omega
                      owner := by simpa using owner
                      opened := by simpa using opened
                      type_eq := by simpa using type }

theorem onOwnPort_own {α : Type} {cfg : Config} {s : State} {caller : XmU32} {port : Nat}
    {type : PortType} {refused : α} {act : Except Stop α}
    (own : OwnPort cfg s caller port type)
    : onOwnPort cfg s caller port type refused act = act := by
  have configured : ¬ cfg.noCommPorts ≤ port := by
    have := own.configured
    omega
  simp [onOwnPort, configured, own.owner, own.opened, own.type_eq]

theorem withChannel_cases {α : Type} {cfg : Config} {port : Nat} {unlinked result : α}
    {act : Nat → Except Stop α} (returned : withChannel cfg port unlinked act = .ok result)
    : ((cfg.xmcCommPorts port).channelId = none ∧ result = unlinked)
      ∨ ∃ c, (cfg.xmcCommPorts port).channelId = some c ∧ c < cfg.noCommChannels
        ∧ act c = .ok result := by
  unfold withChannel at returned
  split at returned
  · next none =>
      cases returned
      exact Or.inl ⟨none, rfl⟩
  · next c linked =>
      split at returned
      · next inside => exact Or.inr ⟨c, linked, inside, returned⟩
      · cases returned

/-- A transfer's arguments suit its port and the channel behind it. -/
structure Suited (cfg : Config) (space : AddressSpace) (port : Nat) (direction : Direction)
    (msgPtr msgSize : XmU32) (msgFlags : PFlags) (c : Nat) : Prop where
  direction_eq : (cfg.xmcCommPorts port).direction = direction
  size : msgSize ≠ 0
  linked : (cfg.xmcCommPorts port).channelId = some c
  inside : c < cfg.noCommChannels
  fits : msgSize.toNat ≤ (cfg.xmcCommChannelTab c).maxLength
  checked : Accepts space msgPtr msgSize msgFlags

/-- A refused transfer changes nothing. -/
structure Refused (s : State) (reply : Reply) (s' : State) : Prop where
  state : s' = s
  negative : reply.ret < 0

theorem Refused.code {s : State} {ret : XmRet} (negative : ret.code < 0)
    : Refused s (.code ret) s :=
  ⟨rfl, negative⟩

/-- How a transfer ends: refused, or through the caller's own port, which has no channel or
acts on the one it has.
-/
inductive Transfer (cfg : Config) (space : AddressSpace) (caller : XmU32) (port : Nat)
    (type : PortType) (direction : Direction) (msgPtr msgSize : XmU32) (msgFlags : PFlags)
    (s : State) (act : Nat → Except Stop (Reply × State)) (reply : Reply) (s' : State) : Prop
  | refused (refused : Refused s reply s')
  | unlinked (own : OwnPort cfg s caller port type)
      (unlinked : (cfg.xmcCommPorts port).channelId = none) (same : s' = s)
  | acted (c : Nat) (own : OwnPort cfg s caller port type)
      (suited : Suited cfg space port direction msgPtr msgSize msgFlags c)
      (returned : act c = .ok (reply, s'))

/-- A transfer that did not act on a channel left everything as it was. -/
theorem Transfer.same_or_acted {cfg : Config} {space : AddressSpace} {caller : XmU32}
    {port : Nat} {type : PortType} {direction : Direction} {msgPtr msgSize : XmU32}
    {msgFlags : PFlags} {s s' : State} {act : Nat → Except Stop (Reply × State)}
    {reply : Reply}
    (transfer : Transfer cfg space caller port type direction msgPtr msgSize msgFlags s act
      reply s')
    : s' = s ∨ ∃ c, OwnPort cfg s caller port type
        ∧ Suited cfg space port direction msgPtr msgSize msgFlags c
        ∧ act c = .ok (reply, s') := by
  cases transfer with
  | refused refused => exact Or.inl refused.state
  | unlinked _ _ same => exact Or.inl same
  | acted c own suited returned => exact Or.inr ⟨c, own, suited, returned⟩

theorem onChannel_cases {cfg : Config} {space : AddressSpace} {caller : XmU32} {port : Nat}
    {type : PortType} {direction : Direction} {msgPtr msgSize : XmU32} {msgFlags : PFlags}
    {s s' : State} {act : Nat → Except Stop (Reply × State)} {reply : Reply}
    (own : OwnPort cfg s caller port type)
    (returned : onChannel cfg space port direction msgPtr msgSize msgFlags s act
      = .ok (reply, s'))
    : Transfer cfg space caller port type direction msgPtr msgSize msgFlags s act reply s' := by
  unfold onChannel at returned
  split at returned
  · cases returned
    exact .refused (.code (by decide))
  · next direction_eq =>
      split at returned
      · cases returned
        exact .refused (.code (by decide))
      · next size =>
          rcases withChannel_cases returned with ⟨unlinked, same⟩ | ⟨c, linked, inside, returned⟩
          · cases same
            exact .unlinked own unlinked rfl
          · split at returned
            · cases returned
              exact .refused (.code (by decide))
            · next fits =>
                rcases ifChecked_cases returned with ⟨-, same⟩ | ⟨checked, acted⟩
                · cases same
                  exact .refused (.code (by decide))
                · refine .acted c own ?_ acted
                  exact
                    { direction_eq := by simpa using direction_eq
                      size := size
                      linked := linked
                      inside := inside
                      fits := by omega
                      checked := checked }

theorem transfer_cases {cfg : Config} {space : AddressSpace} {caller : XmU32}
    {port : Nat} {type : PortType} {direction : Direction} {msgPtr msgSize : XmU32}
    {msgFlags : PFlags} {s s' : State} {act : Nat → Except Stop (Reply × State)}
    {reply : Reply}
    (returned : onOwnPort cfg s caller port type (.code .invalidParam, s)
        (onChannel cfg space port direction msgPtr msgSize msgFlags s act)
      = .ok (reply, s'))
    : Transfer cfg space caller port type direction msgPtr msgSize msgFlags s act reply s' := by
  rcases onOwnPort_cases returned with same | ⟨own, returned⟩
  · cases same
    exact .refused (.code (by decide))
  · exact onChannel_cases own returned

/-- A call on a port of channel `c` that passes every check up to the channel. -/
structure ValidTransfer (cfg : Config) (s : State) (call : Call) (desc : XmU32)
    (type : PortType) (direction : Direction) (msgPtr msgSize : XmU32) (msgFlags : PFlags)
    (c : Nat) : Prop where
  permitted : objDescGetPartitionId desc = call.caller
  own : OwnPort cfg s call.caller (objDescGetId desc) type
  suited : Suited cfg call.space (objDescGetId desc) direction msgPtr msgSize msgFlags c

theorem onChannel_suited {cfg : Config} {space : AddressSpace} {port : Nat}
    {direction : Direction} {msgPtr msgSize : XmU32} {msgFlags : PFlags} {s : State} {c : Nat}
    {act : Nat → Except Stop (Reply × State)}
    (suited : Suited cfg space port direction msgPtr msgSize msgFlags c)
    : onChannel cfg space port direction msgPtr msgSize msgFlags s act = act c := by
  have fits : ¬ (cfg.xmcCommChannelTab c).maxLength < msgSize.toNat := by
    have := suited.fits
    omega
  have size : ¬ msgSize = 0#32 := suited.size
  simp [onChannel, withChannel, suited.direction_eq, size, suited.linked, suited.inside, fits,
    ifChecked_accepted suited.checked]

theorem readSamplingPort_cases {cfg : Config} {space : AddressSpace}
    {caller vCpu desc msgPtr msgSize flagsPtr : XmU32} {now : Int} {s s' : State}
    {reply : Reply}
    (returned : readSamplingPort cfg space caller vCpu desc msgPtr msgSize flagsPtr now s
      = .ok (reply, s'))
    : Transfer cfg space caller (objDescGetId desc) .sampling .destination msgPtr msgSize
      receivedFlags s
      (fun c => readSampling cfg caller vCpu (objDescGetId desc) c msgSize flagsPtr now s)
      reply s' := by
  unfold readSamplingPort at returned
  split at returned
  · cases returned
    exact .refused (.code (by decide))
  · rcases ifChecked_cases returned with ⟨-, same⟩ | ⟨-, returned⟩
    · cases same
      exact .refused (.code (by decide))
    · exact transfer_cases returned

theorem writeSamplingPort_cases {cfg : Config} {space : AddressSpace}
    {caller desc msgPtr msgSize : XmU32} {now : Int} {s s' : State} {reply : Reply}
    (returned : writeSamplingPort cfg space caller desc msgPtr msgSize now s
      = .ok (reply, s'))
    : Transfer cfg space caller (objDescGetId desc) .sampling .source msgPtr msgSize
      sentFlags s
      (fun c => writeSampling cfg space caller (objDescGetId desc) c msgPtr msgSize now s)
      reply s' := by
  unfold writeSamplingPort at returned
  split at returned
  · cases returned
    exact .refused (.code (by decide))
  · exact transfer_cases returned

/-- A write that succeeds was made with the caller's own descriptor. -/
theorem writeSamplingPort_permitted {cfg : Config} {space : AddressSpace}
    {caller desc msgPtr msgSize : XmU32} {now : Int} {s s' : State} {reply : Reply}
    (returned : writeSamplingPort cfg space caller desc msgPtr msgSize now s
      = .ok (reply, s'))
    (success : 0 ≤ reply.ret)
    : objDescGetPartitionId desc = caller := by
  unfold writeSamplingPort at returned
  split at returned
  · cases returned
    exact absurd success (by decide)
  · next permitted => simpa using permitted

theorem sendQueuingPort_cases {cfg : Config} {space : AddressSpace}
    {caller desc msgPtr msgSize : XmU32} {s s' : State} {reply : Reply}
    (returned : sendQueuingPort cfg space caller desc msgPtr msgSize s = .ok (reply, s'))
    : Transfer cfg space caller (objDescGetId desc) .queuing .source msgPtr msgSize
      sentFlags s (fun c => sendQueuing cfg space caller c msgPtr msgSize s) reply s' := by
  unfold sendQueuingPort at returned
  split at returned
  · cases returned
    exact .refused (.code (by decide))
  · exact transfer_cases returned

theorem receiveQueuingPort_cases {cfg : Config} {space : AddressSpace}
    {caller desc msgPtr msgSize : XmU32} {s s' : State} {reply : Reply}
    (returned : receiveQueuingPort cfg space caller desc msgPtr msgSize s = .ok (reply, s'))
    : Transfer cfg space caller (objDescGetId desc) .queuing .destination msgPtr msgSize
      receivedFlags s (fun c => receiveQueuing cfg caller (objDescGetId desc) c msgSize s)
      reply s' := by
  unfold receiveQueuingPort at returned
  split at returned
  · cases returned
    exact .refused (.code (by decide))
  · exact transfer_cases returned

-----------------------------------------------------------------------------------------
-- Transfers on sampling channels

/-- Every bit of a port but its message flags is kept. -/
structure SamePort (port port' : Port) : Prop where
  opened : port'.flags.opened = port.flags.opened
  partitionId : port'.partitionId = port.partitionId

theorem setFlags_same {s : State} {port : Nat} {flags : PortFlags}
    (opened : flags.opened = (s.portTab port).flags.opened) (q : Nat)
    : SamePort (s.portTab q) ((s.setFlags port flags).portTab q) := by
  by_cases same : q = port
  · subst same
    exact
      { opened := by simp [State.setFlags, State.setPort, opened]
        partitionId := by simp [State.setFlags, State.setPort] }
  · constructor <;> simp [State.setFlags, State.setPort, same]

structure ReadSampling (cfg : Config) (port c : Nat) (s : State) (reply : Reply) (s' : State)
    : Prop where
  sampling : ∃ channel, s.channelTab c = .sampling channel
  succeeds : 0 ≤ reply.ret
  tables : SameTables (s.setFlags port (s.portTab port).flags.read) s'

theorem readSampling_effect {cfg : Config} {caller vCpu : XmU32} {port c : Nat}
    {msgSize flagsPtr : XmU32} {now : Int} {s s' : State} {reply : Reply}
    (returned : readSampling cfg caller vCpu port c msgSize flagsPtr now s = .ok (reply, s'))
    : ReadSampling cfg port c s reply s' := by
  unfold readSampling at returned
  split at returned
  · next channel _ _ _ sampling _ =>
      obtain ⟨-, -, returned⟩ := bind_eq_ok.mp returned
      obtain ⟨notified, notify, returned⟩ := bind_eq_ok.mp returned
      cases returned
      refine { sampling := ⟨channel, sampling⟩, succeeds := by simp, tables := ?_ }
      exact (changePcts_same _ _ _ _).trans (notifySender_same notify)
  · cases returned

/-- Entry `e` of the receiver table leads to port `q` of the global table. -/
def Marks (cfg : Config) (channel : SamplingChannel) (e q : Nat) : Prop :=
  ∃ receiver, channel.receiverTab e = some receiver ∧ channel.receiverPortTab e = q
    ∧ cfg.vCpus receiver ≠ []

def Port.written (port : Port) : Port :=
  { port with flags := port.flags.written }

/-- The ports that some entries lead to are marked written, and nothing else is. -/
structure Delivered (marked : Nat → Prop) (s s' : State) : Prop where
  channelTab : s'.channelTab = s.channelTab
  written : ∀ q, marked q → s'.portTab q = (s.portTab q).written
  kept : ∀ q, ¬ marked q → s'.portTab q = s.portTab q

theorem Delivered.same {marked : Nat → Prop} {s s' s'' : State}
    (first : Delivered marked s s') (second : SameTables s' s'')
    : Delivered marked s s'' where
  channelTab := second.channelTab.trans first.channelTab
  written q mark := by rw [second.portTab, first.written q mark]
  kept q mark := by rw [second.portTab, first.kept q mark]

theorem SameTables.delivered {marked : Nat → Prop} {s s' s'' : State}
    (first : SameTables s s') (second : Delivered marked s' s'')
    : Delivered marked s s'' where
  channelTab := second.channelTab.trans first.channelTab
  written q mark := by rw [← first.portTab, second.written q mark]
  kept q mark := by rw [← first.portTab, second.kept q mark]

theorem Delivered.trans {first second : Nat → Prop} {s s' s'' : State}
    (left : Delivered first s s') (right : Delivered second s' s'')
    : Delivered (fun q => first q ∨ second q) s s'' where
  channelTab := right.channelTab.trans left.channelTab
  written q mark := by
    by_cases now : second q
    · rw [right.written q now]
      by_cases earlier : first q
      · rw [left.written q earlier]
        rfl
      · rw [left.kept q earlier]
    · rw [right.kept q now, left.written q (mark.resolve_right now)]
  kept q mark := by
    rw [right.kept q fun now => mark (Or.inr now), left.kept q fun now => mark (Or.inl now)]

theorem Delivered.congr {first second : Nat → Prop} {s s' : State}
    (delivered : Delivered first s s') (same : ∀ q, first q ↔ second q)
    : Delivered second s s' where
  channelTab := delivered.channelTab
  written q mark := delivered.written q ((same q).mpr mark)
  kept q mark := delivered.kept q fun now => mark ((same q).mp now)

theorem Delivered.none (s : State) : Delivered (fun _ => False) s s where
  channelTab := rfl
  written _ mark := mark.elim
  kept _ _ := rfl

/-- Marking one port. -/
theorem setFlags_delivered (s : State) (port : Nat)
    : Delivered (fun q => port = q) s (s.setFlags port (s.portTab port).flags.written) where
  channelTab := rfl
  written q mark := by
    subst mark
    simp [State.setFlags, State.setPort, Port.written]
  kept q mark := by simp [State.setFlags, State.setPort, Ne.symm mark]

theorem deliverTo_delivered {cfg : Config} {caller receiver : XmU32} {receiverPort : Nat}
    {vCpus : List XmU32} {s s' : State}
    (returned : deliverTo cfg caller receiver receiverPort vCpus s = .ok s')
    : Delivered (fun q => receiverPort = q ∧ vCpus ≠ []) s s' := by
  induction vCpus generalizing s with
  | nil =>
      cases returned
      exact (Delivered.none _).congr fun q => by simp
  | cons v rest ih =>
      obtain ⟨-, -, returned⟩ := bind_eq_ok.mp returned
      have marked := changePcts_same s receiver [v]
        (xmSetBit (commPortBitmap cfg caller) (BitVec.ofNat 32 receiverPort))
      have here := marked.delivered (setFlags_delivered _ receiverPort)
      refine (here.trans (ih returned)).congr ?_
      intro q
      constructor
      · intro mark
        rcases mark with here | ⟨here, -⟩
        · exact ⟨here, by simp⟩
        · exact ⟨here, by simp⟩
      · intro mark
        exact Or.inl mark.1

theorem deliver_delivered {cfg : Config} {caller : XmU32} {channel : SamplingChannel}
    {e : Nat} {s s' : State} (returned : deliver cfg caller channel e s = .ok s')
    : Delivered (Marks cfg channel e) s s' := by
  unfold deliver at returned
  split at returned
  · next empty =>
      cases returned
      exact (Delivered.none s).congr fun q => by simp [Marks, empty]
  · next receiver registered =>
      obtain ⟨reached, delivered, returned⟩ := bind_eq_ok.mp returned
      have marked := (deliverTo_delivered delivered).same (raise_same returned)
      exact marked.congr fun q => by simp [Marks, registered]

theorem deliverAll_delivered {cfg : Config} {caller : XmU32} {channel : SamplingChannel}
    {es : List Nat} {s s' : State} (returned : deliverAll cfg caller channel es s = .ok s')
    : Delivered (fun q => ∃ e ∈ es, Marks cfg channel e q) s s' := by
  induction es generalizing s with
  | nil =>
      cases returned
      exact (Delivered.none _).congr fun q => by simp
  | cons e rest ih =>
      obtain ⟨reached, delivered, returned⟩ := bind_eq_ok.mp returned
      exact ((deliver_delivered delivered).trans (ih returned)).congr fun q => by simp

/-- A write that was not refused: the channel holds the message and the ports its receiver
table leads to are marked.
-/
structure WriteSampling (cfg : Config) (space : AddressSpace) (caller : XmU32) (c : Nat)
    (msgPtr msgSize : XmU32) (now : Int) (s : State) (reply : Reply) (s' : State)
    (channel : SamplingChannel) : Prop where
  sampling : s.channelTab c = .sampling channel
  reply_eq : reply = .code .ok
  written : ∀ q, (∃ e < channel.noReceivers, Marks cfg channel e q) →
    s'.portTab q = (s.portTab q).written
  kept : ∀ q, ¬ (∃ e < channel.noReceivers, Marks cfg channel e q) →
    s'.portTab q = s.portTab q
  channelTab : s'.channelTab = Function.update s.channelTab c
    (.sampling
      { channel with
        buffer := copyIn channel.buffer space msgPtr msgSize.toNat
        length := msgSize.toNat
        timestamp := now })

theorem writeSampling_effect {cfg : Config} {space : AddressSpace} {caller : XmU32}
    {port c : Nat} {msgPtr msgSize : XmU32} {now : Int} {s s' : State} {reply : Reply}
    (returned : writeSampling cfg space caller port c msgPtr msgSize now s = .ok (reply, s'))
    : ∃ channel, WriteSampling cfg space caller c msgPtr msgSize now s reply s' channel := by
  unfold writeSampling at returned
  split at returned
  · cases returned
  · next channel sampling =>
      obtain ⟨-, -, returned⟩ := bind_eq_ok.mp returned
      obtain ⟨reached, deliver, returned⟩ := bind_eq_ok.mp returned
      cases returned
      have delivered := deliverAll_delivered deliver
      refine ⟨channel, ?_⟩
      exact
        { sampling := sampling
          reply_eq := rfl
          written := fun q mark => delivered.written q (by simpa using mark)
          kept := fun q mark => delivered.kept q (by simpa using mark)
          channelTab := by
            simp only [State.setChannel, delivered.channelTab]
            rfl }

-----------------------------------------------------------------------------------------
-- Transfers on queuing channels

/-- A send leaves the ports alone; it queues the message, or is refused because the channel
holds as many as it may.
-/
inductive SendQueuing (maxNoMsgs : Nat) (space : AddressSpace) (c : Nat)
    (msgPtr msgSize : XmU32) (channel : QueuingChannel) (s : State)
    : Reply → State → Prop
  | full (full : maxNoMsgs ≤ channel.usedMsgs)
    : SendQueuing maxNoMsgs space c msgPtr msgSize channel s (.code .opNotAllowed) s
  | queued {s' : State} (queued : QueuingChannel) (room : channel.usedMsgs < maxNoMsgs)
      (enqueued : channel.enqueue space msgPtr msgSize.toNat = .ok queued)
      (tables : SameTables (s.setChannel c (.queuing queued)) s')
    : SendQueuing maxNoMsgs space c msgPtr msgSize channel s (.code .ok) s'

theorem sendQueuing_effect {cfg : Config} {space : AddressSpace} {caller : XmU32} {c : Nat}
    {msgPtr msgSize : XmU32} {s s' : State} {reply : Reply}
    (returned : sendQueuing cfg space caller c msgPtr msgSize s = .ok (reply, s'))
    : ∃ channel maxLength maxNoMsgs, s.channelTab c = .queuing channel
      ∧ cfg.xmcCommChannelTab c = .queuing maxLength maxNoMsgs
      ∧ SendQueuing maxNoMsgs space c msgPtr msgSize channel s reply s' := by
  unfold sendQueuing at returned
  split at returned
  · next channel maxLength maxNoMsgs queuing configured =>
      refine ⟨channel, maxLength, maxNoMsgs, queuing, configured, ?_⟩
      split at returned
      · next room =>
          obtain ⟨queued, enqueued, returned⟩ := bind_eq_ok.mp returned
          obtain ⟨notified, notify, returned⟩ := bind_eq_ok.mp returned
          obtain ⟨-, -, returned⟩ := bind_eq_ok.mp returned
          cases returned
          refine .queued queued room enqueued ?_
          exact (notifyReceiver_same notify).trans (changePcts_same _ _ _ _)
      · next full =>
          cases returned
          exact .full (by omega)
  · cases returned

inductive ReceiveQueuing (c : Nat) (msgSize : XmU32) (channel : QueuingChannel) (s : State)
    : Reply → State → Prop
  | empty (empty : channel.usedMsgs = 0)
    : ReceiveQueuing c msgSize channel s (.code .opNotAllowed) s
  | taken {s' : State} {data : List (BitVec 8)} (left : QueuingChannel)
      (used : 0 < channel.usedMsgs) (dequeued : channel.dequeue msgSize.toNat = .ok (data, left))
      (tables : SameTables (s.setChannel c (.queuing left)) s')
    : ReceiveQueuing c msgSize channel s { ret := data.length, data, flags := none } s'

theorem receiveQueuing_effect {cfg : Config} {caller : XmU32} {port c : Nat}
    {msgSize : XmU32} {s s' : State} {reply : Reply}
    (returned : receiveQueuing cfg caller port c msgSize s = .ok (reply, s'))
    : ∃ channel, s.channelTab c = .queuing channel
      ∧ ReceiveQueuing c msgSize channel s reply s' := by
  unfold receiveQueuing at returned
  split at returned
  · next channel _ _ queuing _ =>
      refine ⟨channel, queuing, ?_⟩
      split at returned
      · next used =>
          obtain ⟨⟨data, left⟩, dequeued, returned⟩ := bind_eq_ok.mp returned
          obtain ⟨raised, raise, returned⟩ := bind_eq_ok.mp returned
          obtain ⟨cleared, clear, returned⟩ := bind_eq_ok.mp returned
          cases returned
          exact .taken left used dequeued
            ((raiseSender_same raise).trans (clearEmptied_same clear))
      · next empty =>
          cases returned
          exact .empty (by omega)
  · cases returned

-----------------------------------------------------------------------------------------
-- Creating ports

/-- What a create operation requires of the port it opens, and of the limits of the channel
behind it.
-/
structure Openable (cfg : Config) (s : State) (port : Nat) (type : PortType)
    (direction : Direction) (limits : XmcCommChannel → Prop) : Prop where
  configured : port < cfg.noCommPorts
  type_eq : (cfg.xmcCommPorts port).type = type
  direction_eq : direction = (cfg.xmcCommPorts port).direction
  closed : (s.portTab port).flags.opened = false
  linked : ∀ c, (cfg.xmcCommPorts port).channelId = some c → limits (cfg.xmcCommChannelTab c)

def SamplingLimits (maxMsgSize : XmU32) (validPeriod : Int) (channel : XmcCommChannel) : Prop :=
  ∃ period noReceivers, channel = .sampling maxMsgSize.toNat period noReceivers
    ∧ (period.toNat : Int) = validPeriod

def QueuingLimits (maxNoMsgs maxMsgSize : XmU32) (channel : XmcCommChannel) : Prop :=
  channel = .queuing maxMsgSize.toNat maxNoMsgs.toNat

/-- The endpoint of a port without a channel is registered nowhere. -/
def Registered (cfg : Config) (port : Nat) (s t : State) (register : Nat → Prop) : Prop :=
  ((cfg.xmcCommPorts port).channelId = none ∧ t = s)
    ∨ ∃ c, (cfg.xmcCommPorts port).channelId = some c ∧ c < cfg.noCommChannels ∧ register c

/-- How a create operation ends for the port it looked up; a refusal may come after some
change.
-/
inductive Creation (s : State) (caller : XmU32) (port : Nat) (openable : Prop)
    (changed registered : State → Prop) : Int → State → Prop
  | refused {ret : Int} {s' : State} (unfit : ¬ openable) (negative : ret < 0)
      (kept : s' = s ∨ changed s')
    : Creation s caller port openable changed registered ret s'
  | opened {t : State} (fit : openable) (endpoint : registered t)
    : Creation s caller port openable changed registered port (t.openPort port caller)

/-- The endpoint `CreateSamplingPort` registers, with the size of the receiver table. -/
def SamplingRegistered (cfg : Config) (caller : XmU32) (port : Nat) (direction : Direction)
    (s t : State) : Prop :=
  Registered cfg port s t fun c =>
    ∃ maxLength period noReceivers,
      cfg.xmcCommChannelTab c = .sampling maxLength period noReceivers
      ∧ registerSampling cfg caller direction port c noReceivers s = .ok t

def QueuingRegistered (cfg : Config) (caller : XmU32) (port : Nat) (direction : Direction)
    (s t : State) : Prop :=
  Registered cfg port s t fun c => registerQueuing cfg caller direction port c s = .ok t

/-- Up to the channel, a create operation refuses exactly the ports that are not openable
whatever the channel's limits are.
-/
theorem onClosedPort_result {cfg : Config} {port : Nat} {type : PortType}
    {direction : Direction} {s : State} {act result : Except Stop (Int × State)}
    (ends : onClosedPort cfg port type direction s act = result)
    : (∃ ret, result = .ok (ret, s) ∧ ret < 0
        ∧ ∀ limits, ¬ Openable cfg s port type direction limits)
      ∨ (act = result
        ∧ ∀ limits : XmcCommChannel → Prop,
          (∀ c, (cfg.xmcCommPorts port).channelId = some c → limits (cfg.xmcCommChannelTab c))
          → Openable cfg s port type direction limits) := by
  unfold onClosedPort at ends
  split at ends
  · next outside =>
      refine Or.inl ⟨_, ends.symm, by decide, fun limits fit => ?_⟩
      exact absurd fit.configured (by omega)
  · next configured =>
      split at ends
      · next type =>
          exact Or.inl ⟨_, ends.symm, by decide, fun limits fit => type fit.type_eq⟩
      · next type =>
          split at ends
          · next other =>
              exact Or.inl ⟨_, ends.symm, by decide, fun limits fit => other fit.direction_eq⟩
          · next same =>
              split at ends
              · next opened =>
                  refine Or.inl ⟨_, ends.symm, by decide, fun limits fit => ?_⟩
                  rw [fit.closed] at opened
                  cases opened
              · next closed =>
                  refine Or.inr ⟨ends, fun limits linked => ?_⟩
                  exact
                    { configured := by omega
                      type_eq := by simpa using type
                      direction_eq := by simpa using same
                      closed := by simpa using closed
                      linked := linked }

theorem onClosedPort_cases {cfg : Config} {port : Nat} {type : PortType}
    {direction : Direction} {s s' : State} {ret : Int} {act : Except Stop (Int × State)}
    (returned : onClosedPort cfg port type direction s act = .ok (ret, s'))
    : (s' = s ∧ ret < 0 ∧ ∀ limits, ¬ Openable cfg s port type direction limits)
      ∨ (act = .ok (ret, s')
        ∧ ∀ limits : XmcCommChannel → Prop,
          (∀ c, (cfg.xmcCommPorts port).channelId = some c → limits (cfg.xmcCommChannelTab c))
          → Openable cfg s port type direction limits) := by
  rcases onClosedPort_result returned with ⟨ret', same, negative, unfit⟩ | passed
  · cases same
    exact Or.inl ⟨rfl, negative, unfit⟩
  · exact Or.inr passed

theorem openSamplingPort_cases {cfg : Config} {caller : XmU32} {port : Nat}
    {maxMsgSize : XmU32} {direction : Direction} {validPeriod : Int} {s s' : State} {ret : Int}
    (returned : openSamplingPort cfg caller port maxMsgSize direction validPeriod s
      = .ok (ret, s'))
    : Creation s caller port
      (Openable cfg s port .sampling direction (SamplingLimits maxMsgSize validPeriod))
      (fun _ => False) (SamplingRegistered cfg caller port direction s) ret s' := by
  rcases onClosedPort_cases returned with ⟨rfl, negative, unfit⟩ | ⟨returned, fit⟩
  · exact .refused (unfit _) negative (Or.inl rfl)
  · split at returned
    · next unlinked =>
        cases returned
        exact .opened (fit _ (by simp [unlinked])) (Or.inl ⟨unlinked, rfl⟩)
    · next c linked =>
        obtain ⟨_, inside, returned⟩ := bind_eq_ok.mp returned
        split at returned
        · cases returned
        · next maxLength period noReceivers channel =>
            split at returned
            · next size =>
                cases returned
                refine .refused (fun fit => ?_) (by decide) (Or.inl rfl)
                obtain ⟨_, _, same, -⟩ := fit.linked c linked
                rw [channel] at same
                cases same
                exact size rfl
            · next size =>
                split at returned
                · next other =>
                    cases returned
                    refine .refused (fun fit => ?_) (by decide) (Or.inl rfl)
                    obtain ⟨_, _, same, same_period⟩ := fit.linked c linked
                    rw [channel] at same
                    cases same
                    exact other same_period
                · next same =>
                    obtain ⟨t, register, returned⟩ := bind_eq_ok.mp returned
                    cases returned
                    refine .opened (fit _ ?_) (Or.inr ?_)
                    · intro c' linked'
                      cases linked.symm.trans linked'
                      rw [channel]
                      exact ⟨period, noReceivers, by simp_all, by simpa using same⟩
                    · exact ⟨c, linked, assert_ok.mp inside, maxLength, period, noReceivers,
                        channel, register⟩

theorem openQueuingPort_cases {cfg : Config} {caller : XmU32} {port : Nat}
    {maxNoMsgs maxMsgSize : XmU32} {direction : Direction} {s s' : State} {ret : Int}
    (returned : openQueuingPort cfg caller port maxNoMsgs maxMsgSize direction s
      = .ok (ret, s'))
    : Creation s caller port
      (Openable cfg s port .queuing direction (QueuingLimits maxNoMsgs maxMsgSize))
      (QueuingRegistered cfg caller port direction s)
      (QueuingRegistered cfg caller port direction s) ret s' := by
  rcases onClosedPort_cases returned with ⟨rfl, negative, unfit⟩ | ⟨returned, fit⟩
  · exact .refused (unfit _) negative (Or.inl rfl)
  · split at returned
    · next unlinked =>
        cases returned
        exact .opened (fit _ (by simp [unlinked])) (Or.inl ⟨unlinked, rfl⟩)
    · next c linked =>
        obtain ⟨_, inside, returned⟩ := bind_eq_ok.mp returned
        obtain ⟨t, register, returned⟩ := bind_eq_ok.mp returned
        have endpoint : QueuingRegistered cfg caller port direction s t :=
          Or.inr ⟨c, linked, assert_ok.mp inside, register⟩
        split at returned
        · cases returned
        · next maxLength noMsgs channel =>
            split at returned
            · next count =>
                cases returned
                refine .refused (fun fit => ?_) (by decide) (Or.inr endpoint)
                have same := fit.linked c linked
                rw [channel] at same
                cases same
                exact count rfl
            · next count =>
                split at returned
                · next size =>
                    cases returned
                    refine .refused (fun fit => ?_) (by decide) (Or.inr endpoint)
                    have same := fit.linked c linked
                    rw [channel] at same
                    cases same
                    exact size rfl
                · next size =>
                    cases returned
                    refine .opened (fit _ ?_) endpoint
                    intro c' linked'
                    cases linked.symm.trans linked'
                    rw [channel]
                    simp_all [QueuingLimits]

/-- A create operation stops before the lookup, or ends as its second part does. -/
theorem createPort_cases {cfg : Config} {space : AddressSpace}
    {caller desc portName direction : XmU32} {s s' : State} {ret : Int}
    {opened : Nat → Direction → Except Stop (Int × State)}
    (returned : createPort cfg space caller desc portName direction s opened = .ok (ret, s'))
    : (s' = s ∧ ret < 0
        ∧ ¬ (objDescGetPartitionId desc = caller ∧ Accepts space portName 16 nameFlags
          ∧ (Direction.ofCode direction).isSome))
      ∨ ∃ side, objDescGetPartitionId desc = caller ∧ Accepts space portName 16 nameFlags
        ∧ Direction.ofCode direction = some side
        ∧ opened (lookupPort cfg (bytesFrom space portName) (cfg.partition caller).noPorts
          (cfg.partition caller).commPortsOffset) side = .ok (ret, s') := by
  unfold createPort at returned
  split at returned
  · next other =>
      cases returned
      exact Or.inl ⟨rfl, by decide, fun passed => other passed.1⟩
  · next permitted =>
      rcases ifChecked_cases returned with ⟨unreadable, same⟩ | ⟨readable, returned⟩
      · cases same
        exact Or.inl ⟨rfl, by decide, fun passed => unreadable passed.2.1⟩
      · split at returned
        · next invalid =>
            cases returned
            exact Or.inl ⟨rfl, by decide, fun passed => by simp [invalid] at passed⟩
        · next side valid =>
            exact Or.inr ⟨side, by simpa using permitted, readable, valid, returned⟩

/-- The endpoint a create operation registers in the channel of a port. -/
def EndpointRegistered (cfg : Config) (type : PortType) (caller : XmU32) (port : Nat)
    (direction : Direction) (s t : State) : Prop :=
  match type with
  | .sampling => SamplingRegistered cfg caller port direction s t
  | .queuing => QueuingRegistered cfg caller port direction s t

/-- The channel with one more receiver. -/
def SamplingChannel.addReceiver (channel : SamplingChannel) (receiver : XmU32)
    (receiverPort : Nat) : SamplingChannel :=
  { channel with
    receiverTab := Function.update channel.receiverTab channel.noReceivers receiver
    receiverPortTab := Function.update channel.receiverPortTab channel.noReceivers receiverPort
    noReceivers := channel.noReceivers + 1 }

theorem registerSampling_effect {cfg : Config} {caller : XmU32} {direction : Direction}
    {port c noReceivers : Nat} {s t : State}
    (returned : registerSampling cfg caller direction port c noReceivers s = .ok t)
    : ∃ channel channel', s.channelTab c = .sampling channel
      ∧ t = s.setChannel c (.sampling channel')
      ∧ channel' =
        match direction with
        | .destination =>
            channel.addReceiver caller (port - (cfg.partition caller).commPortsOffset)
        | .source =>
            { channel with
              sender := some caller
              senderPort := port - (cfg.partition caller).commPortsOffset } := by
  unfold registerSampling at returned
  split at returned
  · cases returned
  · next channel sampling =>
      refine ⟨channel, _, sampling, ?_, rfl⟩
      cases direction with
      | source =>
          cases returned
          rfl
      | destination =>
          obtain ⟨-, -, returned⟩ := bind_eq_ok.mp returned
          cases returned
          rfl

/-- Two channels whose queues are the same; who is registered at their ends may differ. -/
structure SameQueue (channel channel' : QueuingChannel) : Prop where
  lists : channel'.lists = channel.lists
  buffer : channel'.buffer = channel.buffer
  length : channel'.length = channel.length
  usedMsgs : channel'.usedMsgs = channel.usedMsgs

theorem registerQueuing_effect {cfg : Config} {caller : XmU32} {direction : Direction}
    {port c : Nat} {s t : State}
    (returned : registerQueuing cfg caller direction port c s = .ok t)
    : ∃ channel channel', s.channelTab c = .queuing channel
      ∧ t = s.setChannel c (.queuing channel') ∧ SameQueue channel channel' := by
  unfold registerQueuing at returned
  split at returned
  · cases returned
  · next channel queuing =>
      cases direction with
      | source =>
          cases returned
          exact ⟨channel, _, queuing, rfl, ⟨rfl, rfl, rfl, rfl⟩⟩
      | destination =>
          cases returned
          exact ⟨channel, _, queuing, rfl, ⟨rfl, rfl, rfl, rfl⟩⟩

theorem QueuingRegistered.endpoint {cfg : Config} {caller : XmU32} {port : Nat}
    {direction : Direction} {s t : State}
    (registered : QueuingRegistered cfg caller port direction s t)
    : EndpointRegistered cfg .queuing caller port direction s t :=
  registered

theorem EndpointRegistered.portTab {cfg : Config} {type : PortType} {caller : XmU32}
    {port : Nat} {direction : Direction} {s t : State}
    (registered : EndpointRegistered cfg type caller port direction s t)
    : t.portTab = s.portTab := by
  cases type with
  | sampling =>
      rcases registered with ⟨-, rfl⟩ | ⟨c, -, -, _, _, _, -, register⟩
      · rfl
      · obtain ⟨_, _, -, rfl, -⟩ := registerSampling_effect register
        rfl
  | queuing =>
      rcases registered with ⟨-, rfl⟩ | ⟨c, -, -, register⟩
      · rfl
      · obtain ⟨_, _, -, rfl, -⟩ := registerQueuing_effect register
        rfl

-----------------------------------------------------------------------------------------
-- Calls

/-- What the two create operations have in common. -/
structure CreateArgs where
  desc : XmU32
  portName : XmU32
  direction : XmU32
  type : PortType
  limits : XmcCommChannel → Prop

def Op.create? : Op → Option CreateArgs
  | .createSamplingPort desc portName maxMsgSize direction validPeriod =>
      some { desc, portName, direction, type := .sampling
             limits := SamplingLimits maxMsgSize validPeriod }
  | .createQueuingPort desc portName maxNoMsgs maxMsgSize direction =>
      some { desc, portName, direction, type := .queuing
             limits := QueuingLimits maxNoMsgs maxMsgSize }
  | _ => none

/-- The port a create call looks up. -/
def Call.found (cfg : Config) (call : Call) (args : CreateArgs) : Nat :=
  lookupPort cfg (bytesFrom call.space args.portName) (cfg.partition call.caller).noPorts
    (cfg.partition call.caller).commPortsOffset

/-- The checks of a create call, for the port it is about to open. -/
structure Permits (cfg : Config) (s : State) (call : Call) (args : CreateArgs) (port : Nat)
    (side : Direction) : Prop where
  permitted : objDescGetPartitionId args.desc = call.caller
  readable : Accepts call.space args.portName 16 nameFlags
  direction_eq : Direction.ofCode args.direction = some side
  openable : Openable cfg s port args.type side args.limits

/-- How a create call ends: refused, when the port it found is not one to open, or with
that port open.
-/
inductive CreateEffect (cfg : Config) (s : State) (call : Call) (args : CreateArgs)
    : Int → State → Prop
  | refused {ret : Int} {s' : State}
    (unfit : ∀ side, ¬ Permits cfg s call args (call.found cfg args) side)
    (negative : ret < 0)
    (kept : s' = s ∨ ∃ side,
      QueuingRegistered cfg call.caller (call.found cfg args) side s s')
    : CreateEffect cfg s call args ret s'
  | opened {t : State} (side : Direction)
    (fit : Permits cfg s call args (call.found cfg args) side)
    (endpoint :
      EndpointRegistered cfg args.type call.caller (call.found cfg args) side s t)
    : CreateEffect cfg s call args (call.found cfg args)
      (t.openPort (call.found cfg args) call.caller)

/-- Both create operations, from what they do once the port is looked up. -/
theorem createEffect_of {cfg : Config} {s s' : State} {call : Call} {args : CreateArgs}
    {ret : Int} {opened : Nat → Direction → Except Stop (Int × State)}
    {changed : Nat → Direction → State → Prop}
    (second : ∀ port side ret s', opened port side = .ok (ret, s') →
      Creation s call.caller port (Openable cfg s port args.type side args.limits)
        (changed port side) (EndpointRegistered cfg args.type call.caller port side s) ret s')
    (endpoint : ∀ port side s', changed port side s' →
      QueuingRegistered cfg call.caller port side s s')
    (returned : createPort cfg call.space call.caller args.desc args.portName args.direction s
      opened = .ok (ret, s'))
    : CreateEffect cfg s call args ret s' := by
  rcases createPort_cases returned with ⟨rfl, negative, stopped⟩ | ⟨side, permitted, readable,
    direction_eq, returned⟩
  · refine .refused ?_ negative (Or.inl rfl)
    intro side fit
    exact stopped ⟨fit.permitted, fit.readable, by simp [fit.direction_eq]⟩
  · cases second _ _ _ _ returned with
    | refused unfit negative kept =>
        refine .refused ?_ negative (kept.imp_right fun change => ⟨side, endpoint _ _ _ change⟩)
        intro side' fit
        cases direction_eq.symm.trans fit.direction_eq
        exact unfit fit.openable
    | opened fit endpoint =>
        exact .opened side ⟨permitted, readable, direction_eq, fit⟩ endpoint

theorem run_create {cfg : Config} {s s' : State} {call : Call} {args : CreateArgs}
    {reply : Reply} (creates : call.op.create? = some args)
    (returned : call.run cfg s = .ok (reply, s'))
    : CreateEffect cfg s call args reply.ret s' := by
  obtain ⟨caller, vCpu, space, now, op⟩ := call
  cases op with
  | createSamplingPort desc portName maxMsgSize direction validPeriod =>
      cases creates
      obtain ⟨⟨ret, t⟩, opened, same⟩ := map_eq_ok.mp returned
      cases same
      exact createEffect_of (fun _ _ _ _ => openSamplingPort_cases)
        (fun _ _ _ => False.elim) opened
  | createQueuingPort desc portName maxNoMsgs maxMsgSize direction =>
      cases creates
      obtain ⟨⟨ret, t⟩, opened, same⟩ := map_eq_ok.mp returned
      cases same
      exact createEffect_of (fun _ _ _ _ => openQueuingPort_cases)
        (fun _ _ _ registered => registered) opened
  | _ => cases creates

/-- A transfer opens no port, closes none and hands none over. -/
theorem run_transfer {cfg : Config} {s s' : State} {call : Call} {reply : Reply}
    (transfers : call.op.create? = none) (returned : call.run cfg s = .ok (reply, s')) (q : Nat)
    : SamePort (s.portTab q) (s'.portTab q) := by
  obtain ⟨caller, vCpu, space, now, op⟩ := call
  cases op with
  | createSamplingPort | createQueuingPort => cases transfers
  | readSamplingPort desc msgPtr msgSize flags =>
      rcases (readSamplingPort_cases returned).same_or_acted with rfl | ⟨c, -, -, returned⟩
      · exact ⟨rfl, rfl⟩
      · rw [(readSampling_effect returned).tables.portTab]
        exact setFlags_same (by rfl) q
  | writeSamplingPort desc msgPtr msgSize =>
      rcases (writeSamplingPort_cases returned).same_or_acted with rfl | ⟨c, -, -, returned⟩
      · exact ⟨rfl, rfl⟩
      · obtain ⟨channel, effect⟩ := writeSampling_effect returned
        by_cases mark : ∃ e < channel.noReceivers, Marks cfg channel e q
        · rw [effect.written q mark]
          exact ⟨rfl, rfl⟩
        · rw [effect.kept q mark]
          exact ⟨rfl, rfl⟩
  | sendQueuingPort desc msgPtr msgSize =>
      rcases (sendQueuingPort_cases returned).same_or_acted with rfl | ⟨c, -, -, returned⟩
      · exact ⟨rfl, rfl⟩
      · obtain ⟨channel, _, _, -, -, effect⟩ := sendQueuing_effect returned
        cases effect with
        | full => exact ⟨rfl, rfl⟩
        | queued queued _ _ tables =>
            rw [tables.portTab]
            exact ⟨rfl, rfl⟩
  | receiveQueuingPort desc msgPtr msgSize =>
      rcases (receiveQueuingPort_cases returned).same_or_acted with rfl | ⟨c, -, -, returned⟩
      · exact ⟨rfl, rfl⟩
      · obtain ⟨channel, -, effect⟩ := receiveQueuing_effect returned
        cases effect with
        | empty => exact ⟨rfl, rfl⟩
        | taken left _ _ tables =>
            rw [tables.portTab]
            exact ⟨rfl, rfl⟩

end XtratuM.Objects
