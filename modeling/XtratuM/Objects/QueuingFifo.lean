import XtratuM.Library.BoundedFifo
import XtratuM.Objects.InternalErrors

/-! A queuing channel refines a bounded queue: in every run of the system the channel does
what the queue does, and its history of sends and receives is the queue's.
-/

namespace XtratuM.Objects

open Reachability
open XtratuM.Guest

-----------------------------------------------------------------------------------------
-- The history of a channel

/-- The message a send accepted for channel `c`. -/
def sentBy (cfg : Config) (c : Nat) : Event → Option (List (BitVec 8))
  | .call call reply =>
      match call.op with
      | .sendQueuingPort desc msgPtr msgSize =>
          if (cfg.xmcCommPorts (objDescGetId desc)).channelId = some c ∧ 0 ≤ reply.ret then
            some (copyOut (bytesFrom call.space msgPtr) msgSize.toNat)
          else
            none
      | _ => none
  | _ => none

/-- A receive that took a message, with the size asked for. -/
structure Receipt where
  msgSize : Nat
  reply : Reply

def receivedBy (cfg : Config) (c : Nat) : Event → Option Receipt
  | .call call reply =>
      match call.op with
      | .receiveQueuingPort desc _ msgSize =>
          if (cfg.xmcCommPorts (objDescGetId desc)).channelId = some c ∧ 0 ≤ reply.ret then
            some { msgSize := msgSize.toNat, reply }
          else
            none
      | _ => none
  | _ => none

/-- The messages a channel accepted, oldest first. -/
def sent (cfg : Config) (c : Nat) (past : List Event) : List (List (BitVec 8)) :=
  (past.filterMap (sentBy cfg c)).reverse

def received (cfg : Config) (c : Nat) (past : List Event) : List Receipt :=
  (past.filterMap (receivedBy cfg c)).reverse

/-- A receive hands out the first bytes of a message and returns their number. -/
structure HandsOut (receipt : Receipt) (message : List (BitVec 8)) : Prop where
  data : receipt.reply.data = message.take receipt.msgSize
  ret : receipt.reply.ret = (message.take receipt.msgSize).length

/-- An event and what it means for the queue behind channel `c`. -/
structure Meaning (cfg : Config) (c : Nat) (event : Event)
    (action : BoundedFifo.Action (List (BitVec 8))) : Prop where
  sent : sentBy cfg c event = action.accepted?
  received : Option.Rel HandsOut (receivedBy cfg c event) action.handedOut?

/-- Matching histories accepted the same messages. -/
theorem accepted_eq_sent {cfg : Config} {c : Nat} {past : List Event}
    {actions : List (BoundedFifo.Action (List (BitVec 8)))}
    (meanings : List.Forall₂ (Meaning cfg c) past actions)
    : BoundedFifo.accepted actions = sent cfg c past := by
  unfold BoundedFifo.accepted sent
  congr 1
  induction meanings with
  | nil => rfl
  | cons meaning _ ih => simp only [List.filterMap_cons, meaning.sent, ih]

/-- The receives of matching histories handed out the same messages, one by one. -/
theorem handedOut_received {cfg : Config} {c : Nat} {past : List Event}
    {actions : List (BoundedFifo.Action (List (BitVec 8)))}
    (meanings : List.Forall₂ (Meaning cfg c) past actions)
    : List.Forall₂ HandsOut (received cfg c past) (BoundedFifo.handedOut actions) := by
  unfold BoundedFifo.handedOut received
  refine List.rel_reverse ?_
  induction meanings with
  | nil => exact .nil
  | @cons event action _ _ meaning _ ih =>
      have here := meaning.received
      simp only [List.filterMap_cons]
      cases taken : receivedBy cfg c event with
      | none =>
          rw [taken] at here
          cases given : action.handedOut? with
          | none => exact ih
          | some message =>
              rw [given] at here
              cases here
      | some receipt =>
          rw [taken] at here
          cases given : action.handedOut? with
          | none =>
              rw [given] at here
              cases here
          | some message =>
              rw [given] at here
              cases here with
              | some handed => exact .cons handed ih

-----------------------------------------------------------------------------------------
-- One step

/-- Registering an endpoint leaves every queue alone. -/
theorem EndpointRegistered.represents {cfg : Config} {type : PortType} {caller : XmU32}
    {port : Nat} {direction : Direction} {s t : State}
    (registered : EndpointRegistered cfg type caller port direction s t) {n c : Nat}
    {queue : List (List (BitVec 8))} (represents : Represents n c s queue)
    : Represents n c t queue := by
  cases type with
  | sampling =>
      rcases registered with ⟨-, rfl⟩ | ⟨c', -, -, _, _, _, -, register⟩
      · exact represents
      · obtain ⟨channel, channel', sampling, rfl, -⟩ := registerSampling_effect register
        refine represents.congr ?_
        by_cases here : c = c'
        · obtain ⟨_, _, _, queuing, -⟩ := represents
          rw [here, sampling] at queuing
          cases queuing
        · simp [State.setChannel, here]
  | queuing =>
      rcases registered with ⟨-, rfl⟩ | ⟨c', -, -, register⟩
      · exact represents
      · obtain ⟨channel, channel', queuing, rfl, same⟩ := registerQueuing_effect register
        by_cases here : c = c'
        · obtain ⟨_, free, recv, queuing', pool, rfl⟩ := represents
          rw [here, queuing] at queuing'
          cases queuing'
          refine ⟨channel', free, recv, ?_, pool.congr same, (same.queue recv).symm⟩
          simp [State.setChannel, here]
        · refine represents.congr ?_
          simp [State.setChannel, here]

/-- An event that is neither a send nor a receive on channel `c`. -/
theorem Meaning.skip {cfg : Config} {c : Nat} {event : Event}
    (sends : sentBy cfg c event = none) (receives : receivedBy cfg c event = none)
    : Meaning cfg c event .skip where
  sent := sends
  received := by
    rw [receives]
    exact .none

theorem CreateEffect.represents {cfg : Config} {s s' : State} {call : Call}
    {args : CreateArgs} {ret : Int} (effect : CreateEffect cfg s call args ret s') {n c : Nat}
    {queue : List (List (BitVec 8))} (represents : Represents n c s queue)
    : Represents n c s' queue := by
  cases effect with
  | refused unfit negative kept =>
      rcases kept with rfl | ⟨side, registered⟩
      · exact represents
      · exact registered.endpoint.represents represents
  | opened side fit endpoint => exact (endpoint.represents represents).congr rfl

theorem Pool.queue_length {n : Nat} {channel : QueuingChannel} {free recv : List Nat}
    (pool : Pool n channel free recv)
    : (channel.queue recv).length = channel.usedMsgs := by
  rw [pool.count]
  simp [QueuingChannel.queue]

/-- A transfer on another channel, or on none, is no concern of the queue. -/
theorem Represents.other {n c c' : Nat} {s s' : State} {queue : List (List (BitVec 8))}
    (represents : Represents n c s queue) (other : c ≠ c') {channel : Channel}
    (tables : SameTables (s.setChannel c' channel) s')
    : Represents n c s' queue := by
  refine represents.congr ?_
  rw [tables.channelTab]
  simp [State.setChannel, other]

section Follow

variable {cfg : Config} {n c maxLength : Nat} {s s' : State} {queue : List (List (BitVec 8))}
  {call : Call} {reply : Reply}

/-- The queue takes a step that an event means. -/
def Follows (cfg : Config) (n c : Nat) (queue : List (List (BitVec 8))) (event : Event)
    (s' : State) : Prop :=
  ∃ action queue', Meaning cfg c event action ∧ BoundedFifo.Step n queue action queue'
    ∧ Represents n c s' queue'

theorem follows_skip {event : Event} (represents : Represents n c s' queue)
    (sends : sentBy cfg c event = none) (receives : receivedBy cfg c event = none)
    : Follows cfg n c queue event s' :=
  ⟨.skip, queue, .skip sends receives, .skip, represents⟩

theorem send_follows {desc msgPtr msgSize : XmU32}
    (configured : cfg.xmcCommChannelTab c = .queuing maxLength n)
    (represents : Represents n c s queue)
    (sends : call.op = .sendQueuingPort desc msgPtr msgSize)
    (returned : sendQueuingPort cfg call.space call.caller desc msgPtr msgSize s
      = .ok (reply, s'))
    : Follows cfg n c queue (.call call reply) s' := by
  have receives : receivedBy cfg c (.call call reply) = none := by simp [receivedBy, sends]
  cases sendQueuingPort_cases returned with
  | refused refused =>
      rw [refused.state]
      refine follows_skip represents ?_ receives
      simp [sentBy, sends, refused.negative]
  | unlinked own unlinked same =>
      rw [same]
      refine follows_skip represents ?_ receives
      simp [sentBy, sends, unlinked]
  | acted c' own suited returned =>
      obtain ⟨channel, _, maxNoMsgs, queuing, configured', effect⟩ := sendQueuing_effect returned
      by_cases here : c' = c
      · subst here
        obtain ⟨_, free, recv, queuing', pool, rfl⟩ := represents
        cases queuing.symm.trans queuing'
        cases configured.symm.trans configured'
        cases effect with
        | full full =>
            refine ⟨.refuse, _, ?_, .refuse ?_, ⟨channel, free, recv, queuing, pool, rfl⟩⟩
            · exact
                { sent := by
                    simp [sentBy, sends, Reply.code, XmRet.code, BoundedFifo.Action.accepted?]
                  received := by rw [receives]; exact .none }
            · have total := pool.total
              have count := pool.count
              rw [pool.queue_length]
              omega
        | queued queued room enqueued tables =>
            obtain ⟨_, free', msg, enqueued', pool', grows⟩ :=
              pool.enqueue room call.space msgPtr msgSize.toNat
            cases enqueued.symm.trans enqueued'
            refine ⟨.accept (copyOut (bytesFrom call.space msgPtr) msgSize.toNat), _, ?_,
              .accept ?_, queued, free', msg :: recv, ?_, pool', grows.symm⟩
            · exact
                { sent := by
                    simp [sentBy, sends, suited.linked, Reply.code, XmRet.code,
                      BoundedFifo.Action.accepted?]
                  received := by rw [receives]; exact .none }
            · rw [pool.queue_length]
              exact room
            · rw [tables.channelTab]
              simp [State.setChannel]
      · refine follows_skip ?_ ?_ receives
        · cases effect with
          | full => exact represents
          | queued queued room enqueued tables =>
              exact represents.other (fun same => here same.symm) tables
        · simp [sentBy, sends, suited.linked, here]

theorem receive_follows {desc msgPtr msgSize : XmU32} (represents : Represents n c s queue)
    (op : call.op = .receiveQueuingPort desc msgPtr msgSize)
    (returned : receiveQueuingPort cfg call.space call.caller desc msgPtr msgSize s
      = .ok (reply, s'))
    : Follows cfg n c queue (.call call reply) s' := by
  have sends : sentBy cfg c (.call call reply) = none := by simp [sentBy, op]
  cases receiveQueuingPort_cases returned with
  | refused refused =>
      rw [refused.state]
      refine follows_skip represents sends ?_
      simp [receivedBy, op, refused.negative]
  | unlinked own unlinked same =>
      rw [same]
      refine follows_skip represents sends ?_
      simp [receivedBy, op, unlinked]
  | acted c' own suited returned =>
      obtain ⟨channel, queuing, effect⟩ := receiveQueuing_effect returned
      by_cases here : c' = c
      · subst here
        obtain ⟨_, free, recv, queuing', pool, rfl⟩ := represents
        cases queuing.symm.trans queuing'
        cases effect with
        | empty empty =>
            have none : channel.queue recv = [] := by
              rw [← List.length_eq_zero_iff, pool.queue_length]
              exact empty
            refine ⟨.starve, [], ?_, by rw [none]; exact .starve,
              ⟨channel, free, recv, queuing, pool, none.symm⟩⟩
            exact
              { sent := sends
                received := by
                  simp only [receivedBy, op, suited.linked, Reply.code, XmRet.code,
                    BoundedFifo.Action.handedOut?]
                  exact .none }
        | @taken _ data left used dequeued tables =>
            obtain ⟨oldest, left', recv', msg, dequeued', pool', shrinks⟩ :=
              pool.dequeue used msgSize.toNat
            cases dequeued.symm.trans dequeued'
            refine ⟨.handOut oldest, left.queue recv', ?_, by rw [shrinks]; exact .handOut,
              left, msg :: free, recv', ?_, pool', rfl⟩
            · exact
                { sent := sends
                  received := by
                    simp only [receivedBy, op, suited.linked, true_and, Int.natCast_nonneg,
                      if_true, BoundedFifo.Action.handedOut?]
                    exact .some ⟨rfl, rfl⟩ }
            · rw [tables.channelTab]
              simp [State.setChannel]
      · refine follows_skip ?_ sends ?_
        · cases effect with
          | empty => exact represents
          | taken left used dequeued tables =>
              exact represents.other (fun same => here same.symm) tables
        · simp [receivedBy, op, suited.linked, here]

/-- Whatever a step does, the queue behind channel `c` follows it. -/
theorem Next.follows {event : Event}
    (configured : cfg.xmcCommChannelTab c = .queuing maxLength n)
    (represents : Represents n c s queue) (next : Next cfg s event s')
    : Follows cfg n c queue event s' := by
  cases next with
  | reset => exact follows_skip (represents.congr rfl) rfl rfl
  | elsewhere => exact follows_skip (represents.congr rfl) rfl rfl
  | @call _ call reply returned =>
      cases creates : call.op.create? with
      | some args =>
          refine follows_skip ((run_create creates returned).represents represents) ?_ ?_
          · cases op : call.op <;> simp_all [sentBy, Op.create?]
          · cases op : call.op <;> simp_all [receivedBy, Op.create?]
      | none =>
          cases op : call.op with
          | createSamplingPort | createQueuingPort => simp [op, Op.create?] at creates
          | sendQueuingPort desc msgPtr msgSize =>
              refine send_follows configured represents op ?_
              simpa [Call.run, op] using returned
          | receiveQueuingPort desc msgPtr msgSize =>
              refine receive_follows represents op ?_
              simpa [Call.run, op] using returned
          | readSamplingPort desc msgPtr msgSize flags =>
              refine follows_skip ?_ (by simp [sentBy, op]) (by simp [receivedBy, op])
              simp only [Call.run, op] at returned
              rcases (readSamplingPort_cases returned).same_or_acted
                with rfl | ⟨c', -, -, returned⟩
              · exact represents
              · exact represents.congr
                  (congrFun (readSampling_effect returned).tables.channelTab c)
          | writeSamplingPort desc msgPtr msgSize =>
              refine follows_skip ?_ (by simp [sentBy, op]) (by simp [receivedBy, op])
              simp only [Call.run, op] at returned
              rcases (writeSamplingPort_cases returned).same_or_acted
                with rfl | ⟨c', -, -, returned⟩
              · exact represents
              · obtain ⟨channel, effect⟩ := writeSampling_effect returned
                refine represents.congr ?_
                rw [effect.channelTab]
                by_cases here : c = c'
                · obtain ⟨_, _, _, queuing, -⟩ := represents
                  rw [here, effect.sampling] at queuing
                  cases queuing
                · simp [here]

end Follow

-----------------------------------------------------------------------------------------
-- Refusals

/-- A valid send is refused exactly when the queue is full, and succeeds otherwise. -/
theorem send_refused_iff {cfg : Config} {s s' : State} {call : Call} {reply : Reply}
    {desc msgPtr msgSize : XmU32} {c maxLength n : Nat} {queue : List (List (BitVec 8))}
    (configured : cfg.xmcCommChannelTab c = .queuing maxLength n)
    (represents : Represents n c s queue)
    (op : call.op = .sendQueuingPort desc msgPtr msgSize)
    (valid : ValidTransfer cfg s call desc .queuing .source msgPtr msgSize sentFlags c)
    (returned : call.run cfg s = .ok (reply, s'))
    : (reply.ret = XmRet.opNotAllowed.code ↔ queue.length = n)
      ∧ (reply.ret = XmRet.ok.code ↔ queue.length < n) := by
  have acted : sendQueuing cfg call.space call.caller c msgPtr msgSize s = .ok (reply, s') := by
    rw [← returned]
    simp [Call.run, op, sendQueuingPort, valid.permitted, onOwnPort_own valid.own,
      onChannel_suited valid.suited]
  obtain ⟨channel, _, _, queuing, configured', effect⟩ := sendQueuing_effect acted
  obtain ⟨_, free, recv, queuing', pool, rfl⟩ := represents
  cases queuing.symm.trans queuing'
  cases configured.symm.trans configured'
  have total := pool.total
  have count := pool.count
  rw [pool.queue_length]
  cases effect with
  | full full =>
      have all : channel.usedMsgs = n := by omega
      simp [Reply.code, XmRet.code, all]
  | queued queued room enqueued tables =>
      have some : channel.usedMsgs ≠ n := by omega
      simp [Reply.code, XmRet.code, room, some]

/-- A valid receive is refused exactly when the queue is empty, and succeeds otherwise. -/
theorem receive_refused_iff {cfg : Config} {s s' : State} {call : Call} {reply : Reply}
    {desc msgPtr msgSize : XmU32} {c n : Nat} {queue : List (List (BitVec 8))}
    (represents : Represents n c s queue)
    (op : call.op = .receiveQueuingPort desc msgPtr msgSize)
    (valid : ValidTransfer cfg s call desc .queuing .destination msgPtr msgSize receivedFlags c)
    (returned : call.run cfg s = .ok (reply, s'))
    : (reply.ret = XmRet.opNotAllowed.code ↔ queue = [])
      ∧ (0 ≤ reply.ret ↔ queue ≠ []) := by
  have acted : receiveQueuing cfg call.caller (objDescGetId desc) c msgSize s
      = .ok (reply, s') := by
    rw [← returned]
    simp [Call.run, op, receiveQueuingPort, valid.permitted, onOwnPort_own valid.own,
      onChannel_suited valid.suited]
  obtain ⟨channel, queuing, effect⟩ := receiveQueuing_effect acted
  obtain ⟨_, free, recv, queuing', pool, rfl⟩ := represents
  cases queuing.symm.trans queuing'
  rw [ne_eq, ← List.length_eq_zero_iff, pool.queue_length]
  cases effect with
  | empty empty => simp [Reply.code, XmRet.code, empty]
  | taken left used dequeued tables =>
      simp only [XmRet.code]
      omega

-----------------------------------------------------------------------------------------
-- Runs

theorem SetupComm.represents {cfg : Config} {s : State} (setup : SetupComm cfg s)
    {c maxLength n : Nat} (inside : c < cfg.noCommChannels)
    (configured : cfg.xmcCommChannelTab c = .queuing maxLength n)
    : Represents n c s [] := by
  obtain ⟨channel, free, built, pool⟩ := setupChannel_queuing maxLength n
  have stored := setup.channels c inside
  rw [configured, built] at stored
  exact ⟨channel, free, [], (Except.ok.inj stored).symm, pool, rfl⟩

/-- Every run of the system is a run of the bounded queue. -/
theorem refines_fifo {cfg : Config} {start s : State} {past : List Event}
    (setup : SetupComm cfg start) {c maxLength n : Nat} (inside : c < cfg.noCommChannels)
    (configured : cfg.xmcCommChannelTab c = .queuing maxLength n)
    (run : Reach (Next cfg) start past s)
    : ∃ actions queue, List.Forall₂ (Meaning cfg c) past actions
      ∧ Reach (BoundedFifo.Step n) [] actions queue ∧ Represents n c s queue :=
  run.simulates (setup.represents inside configured) fun _ _ _ _ represents next =>
    next.follows configured represents

/-- What a loss-free queue of at most `n` messages is, at the end of a run. -/
structure LossFree (cfg : Config) (c n : Nat) (past : List Event) (s : State)
    (channel : QueuingChannel) (free recv : List Nat) : Prop where
  stored : s.channelTab c = .queuing channel
  pool : Pool n channel free recv
  /-- The receives handed out the first accepted messages, in order, each once. -/
  inOrder : List.Forall₂ HandsOut (received cfg c past)
    ((sent cfg c past).take (received cfg c past).length)
  /-- The other accepted messages are queued. -/
  queued : channel.queue recv = (sent cfg c past).drop (received cfg c past).length
  full : ∀ call desc msgPtr msgSize reply s',
    call.op = .sendQueuingPort desc msgPtr msgSize →
    ValidTransfer cfg s call desc .queuing .source msgPtr msgSize sentFlags c →
    call.run cfg s = .ok (reply, s') →
    (reply.ret = XmRet.opNotAllowed.code ↔ recv.length = n)
      ∧ (reply.ret = XmRet.ok.code ↔ recv.length < n)
  empty : ∀ call desc msgPtr msgSize reply s',
    call.op = .receiveQueuingPort desc msgPtr msgSize →
    ValidTransfer cfg s call desc .queuing .destination msgPtr msgSize receivedFlags c →
    call.run cfg s = .ok (reply, s') →
    (reply.ret = XmRet.opNotAllowed.code ↔ recv = []) ∧ (0 ≤ reply.ret ↔ recv ≠ [])
  panicFree : ∀ call : Call, call.run cfg s ≠ .error .systemPanic

/-- After every run a queuing channel is a loss-free queue of the size configured. -/
theorem queuing_channel_loss_free {cfg : Config} {start s : State} {past : List Event}
    (setup : SetupComm cfg start) {c maxLength n : Nat} (inside : c < cfg.noCommChannels)
    (configured : cfg.xmcCommChannelTab c = .queuing maxLength n)
    (run : Reach (Next cfg) start past s)
    : ∃ channel free recv, LossFree cfg c n past s channel free recv := by
  obtain ⟨actions, queue, meanings, fifo, represents⟩ :=
    refines_fifo setup inside configured run
  have conserved := BoundedFifo.conservation fifo
  have handed := handedOut_received meanings
  have count := handed.length_eq
  rw [accepted_eq_sent meanings] at conserved
  have all : AllRepresent cfg s := by
    intro c' maxLength' n' inside' configured'
    obtain ⟨_, queue', -, -, represents'⟩ := refines_fifo setup inside' configured' run
    exact ⟨queue', represents'⟩
  have represents' := represents
  obtain ⟨channel, free, recv, stored, pool, rfl⟩ := represents'
  have length : (channel.queue recv).length = recv.length := by
    rw [pool.queue_length, pool.count]
  have nil : channel.queue recv = [] ↔ recv = [] := by
    rw [← List.length_eq_zero_iff, length, List.length_eq_zero_iff]
  refine ⟨channel, free, recv, ?_⟩
  exact
    { stored := stored
      pool := pool
      inOrder := by
        rw [conserved, count, List.take_left]
        exact handed
      queued := by rw [conserved, count, List.drop_left]
      full := by
        intro call desc msgPtr msgSize reply s' op valid returned
        rw [← length]
        exact send_refused_iff configured represents op valid returned
      empty := by
        intro call desc msgPtr msgSize reply s' op valid returned
        rw [ne_eq, ← nil]
        exact receive_refused_iff represents op valid returned
      panicFree := Call.run_noPanic all }

/-- One partition that sends to itself through a channel of one message of four bytes. -/
def selfChannel : Config where
  noCommPorts := 2
  xmcCommPorts port :=
    { name := fun i => if i = 0 then BitVec.ofNat 8 (65 + port) else 0
      channelId := some 0
      direction := if port = 0 then .source else .destination
      type := .queuing }
  noCommChannels := 1
  xmcCommChannelTab _ := .queuing 4 1
  partition _ :=
    { commPortsOffset := 0
      noPorts := 2
      noVCpus := 1
      noPhysicalMemoryAreas := 1 }

/-- A call of partition 0, with "A" at 0x1000, "B" at 0x2000 and a message at 0x3000. -/
def selfCall (op : Op) : Call where
  caller := 0
  vCpu := 0
  space :=
    { byte := fun addr =>
        if addr = 0x1000 then 65 else if addr = 0x2000 then 66
        else if addr = 0x3000 then 7 else if addr = 0x3001 then 8 else 0
      readable := fun _ => true
      writable := fun _ => true }
  now := 0
  op := op

/-- Both ports are created, two bytes are sent and the first of them is asked for. -/
def selfCalls : List Call :=
  [selfCall (.createQueuingPort 0 0x1000 1 4 2), selfCall (.createQueuingPort 0 0x2000 1 4 1),
    selfCall (.sendQueuingPort 0 0x3000 2), selfCall (.receiveQueuingPort 1 0x4000 1)]

def selfReplies : List Reply :=
  [{ ret := 0, data := [], flags := none }, { ret := 1, data := [], flags := none },
    { ret := 0, data := [], flags := none }, { ret := 1, data := [7], flags := none }]

theorem queuing_channel_loss_free_selfChannel
    : ∃ s channel free recv,
      Reach (Next selfChannel) (setupState selfChannel)
        (List.zipWith Event.call selfCalls selfReplies).reverse s
      ∧ LossFree selfChannel 0 1 (List.zipWith Event.call selfCalls selfReplies).reverse s
        channel free recv
      ∧ sent selfChannel 0 (List.zipWith Event.call selfCalls selfReplies).reverse = [[7, 8]] := by
  have replies : (runCalls selfChannel selfCalls (setupState selfChannel)).map Prod.fst
      = .ok selfReplies := by decide
  obtain ⟨s, returned⟩ := map_fst_eq_ok.mp replies
  have run := runCalls_reach returned
  obtain ⟨channel, free, recv, lossFree⟩ := queuing_channel_loss_free
    (setupState_setup selfChannel) (by decide : 0 < selfChannel.noCommChannels) rfl run
  exact ⟨s, channel, free, recv, run, lossFree, by decide⟩

end XtratuM.Objects
