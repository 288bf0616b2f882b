import XtratuM.Objects.PortBits
import XtratuM.Objects.QueuingFifo
import XtratuM.Objects.SamplingStatus

/-! The port bitmaps against the messages that wait: as long as the partitions of a channel
have control tables of one layout and the calls number their own bits, a destination port's
bit is set exactly while its channel holds a message that was not taken through it.
-/

namespace XtratuM.Objects

open XtratuM.Guest
open Reachability

-----------------------------------------------------------------------------------------
-- Calls

/-- The port a message is transferred through. -/
def Op.transferPort? : Op → Option Nat
  | .readSamplingPort desc _ _ _ => some (objDescGetId desc)
  | .writeSamplingPort desc _ _ => some (objDescGetId desc)
  | .sendQueuingPort desc _ _ => some (objDescGetId desc)
  | .receiveQueuingPort desc _ _ => some (objDescGetId desc)
  | _ => none

def PortType.irq : PortType → Nat
  | .sampling => XM_VT_EXT_SAMPLING_PORT
  | .queuing => XM_VT_EXT_QUEUING_PORT

/-- A successful transfer through port `g`, which is linked to channel `c`. -/
def Acts (cfg : Config) (event : Event) (call : Call) (g c : Nat) : Prop :=
  ∃ reply, event = .call call reply ∧ 0 ≤ reply.ret ∧ call.op.transferPort? = some g
    ∧ (cfg.xmcCommPorts g).channelId = some c

/-- The bit that a call changes for its own port is the one that stands for it. -/
def NumbersOwnBit (cfg : Config) (s : State) (call : Call) (g c : Nat) : Prop :=
  match call.op with
  | .readSamplingPort _ _ _ _ => ReadElsewhere cfg s call.vCpu g
  | .writeSamplingPort _ _ _ => WritesOwnNumber cfg s call.caller g
  | .receiveQueuingPort _ _ _ => ClearsOwnNumber cfg s call.caller g c
  | _ => True

/-- A step in which a transfer that acts on a channel is made by a vCPU of its caller, finds
all bitmaps of the channel where the caller has its own, and numbers its own bit.
-/
def Aligned (cfg : Config) (s : State) (event : Event) : Prop :=
  ∀ call g c, Acts cfg event call g c → call.vCpu ∈ cfg.vCpus call.caller
    ∧ SameLayout cfg s call.caller c ∧ NumbersOwnBit cfg s call g c

/-- What a transfer may change in the control tables: nothing, unless it acts on a channel. -/
inductive Framed (cfg : Config) (s : State) (event : Event) (s' : State) : Prop
  | untouched (pct : s'.pct = s.pct) (threads : s'.kThreadTab = s.kThreadTab)
  | confined (call : Call) (g c : Nat) (acts : Acts cfg event call g c)
      (confined : Confined cfg s c (cfg.xmcCommPorts g).type.irq s')

/-- The channel holds a message that was not taken through the port: something is queued, or
was written after the last read.
-/
def Filled (cfg : Config) (past : List Event) (s : State) (p c : Nat) : Prop :=
  match cfg.xmcCommChannelTab c with
  | .sampling _ _ _ => Since (fun event _ => WritesChannel cfg c event) (ReadsPort p) past
  | .queuing _ _ => ∃ channel, s.channelTab c = .queuing channel ∧ 0 < channel.usedMsgs

/-- The bits of the destination ports tell which of them have a message to take. -/
def BitsFollow (cfg : Config) (past : List Event) (s : State) : Prop :=
  ∀ p c i, p < cfg.noCommPorts → EndOf cfg .destination p c → PortBit cfg s p i →
    (s.bit i = true ↔ Filled cfg past s p c)

section Events

variable {cfg : Config} {event : Event} {call : Call} {reply : Reply} {g c : Nat}

theorem acts_call
    : (∃ made, Acts cfg (.call call reply) made g c)
      ↔ 0 ≤ reply.ret ∧ call.op.transferPort? = some g
        ∧ (cfg.xmcCommPorts g).channelId = some c := by
  constructor
  · intro ⟨made, _, same, acts⟩
    cases same
    exact acts
  · intro acts
    exact ⟨call, reply, rfl, acts⟩

theorem Acts.unique {made made' : Call} {g' c' : Nat} (acts : Acts cfg event made g c)
    (acts' : Acts cfg event made' g' c')
    : g = g' ∧ c = c' := by
  obtain ⟨_, rfl, -, port, linked⟩ := acts
  obtain ⟨_, same, -, port', linked'⟩ := acts'
  cases same
  cases port.symm.trans port'
  cases linked.symm.trans linked'
  exact ⟨rfl, rfl⟩

theorem WritesChannel.acts (writes : WritesChannel cfg c event)
    : ∃ made g, Acts cfg event made g c := by
  obtain ⟨made, reply, desc, _, _, rfl, op, linked, success⟩ := writes
  exact ⟨made, objDescGetId desc, reply, rfl, success, by rw [op]; rfl, linked⟩

theorem ReadsPort.acts (reads : ReadsPort g event)
    (linked : (cfg.xmcCommPorts g).channelId = some c)
    : ∃ made, Acts cfg event made g c := by
  obtain ⟨made, reply, desc, _, _, _, rfl, op, rfl, success⟩ := reads
  exact ⟨made, reply, rfl, success, by rw [op]; rfl, linked⟩

end Events

section Steps

variable {cfg : Config} {past : List Event} {s s' : State} {event : Event}

/-- A step that acts on no channel. -/
theorem BitsFollow.idle (follow : BitsFollow cfg past s)
    (idle : ∀ call g c, ¬ Acts cfg event call g c)
    : BitsFollow cfg (event :: past) s := by
  intro p c i configured endOf bit
  rw [follow p c i configured endOf bit]
  have writes : ¬ WritesChannel cfg c event := by
    intro hit
    obtain ⟨call, g, acts⟩ := hit.acts
    exact idle call g c acts
  have reads : ¬ ReadsPort p event := by
    intro hit
    obtain ⟨call, acts⟩ := hit.acts endOf.linked
    exact idle call p c acts
  unfold Filled
  cases cfg.xmcCommChannelTab c with
  | sampling => simp only [since_cons, writes, reads, not_false_eq_true, true_and, false_or]
  | queuing => rfl

/-- A step that acts on channel `c`: what is left to show is about its own destinations. -/
theorem BitsFollow.acted (follow : BitsFollow cfg past s) (created : PortsCreated cfg s)
    {call : Call} {g c irq : Nat} (acts : Acts cfg event call g c)
    (confined : Confined cfg s c irq s')
    (owners : ∀ p, (s'.portTab p).partitionId = (s.portTab p).partitionId)
    (channels : ∀ q, q ≠ c → s'.channelTab q = s.channelTab q)
    (here : ∀ p i, p < cfg.noCommPorts → EndOf cfg .destination p c → PortBit cfg s p i →
      (s'.bit i = true ↔ Filled cfg (event :: past) s' p c))
    : BitsFollow cfg (event :: past) s' := by
  intro p q i configured endOf bit
  have bit := (PortBit.congr (owners p)).mp bit
  by_cases same : q = c
  · subst same
    exact here p i configured endOf bit
  · rw [confined.other created configured endOf.linked same bit,
      follow p q i configured endOf bit]
    have writes : ¬ WritesChannel cfg q event := by
      intro hit
      obtain ⟨call', g', acts'⟩ := hit.acts
      exact same (acts'.unique acts).2
    have reads : ¬ ReadsPort p event := by
      intro hit
      obtain ⟨call', acts'⟩ := hit.acts endOf.linked
      exact same (acts'.unique acts).2
    unfold Filled
    cases cfg.xmcCommChannelTab q with
    | sampling => simp only [since_cons, writes, reads, not_false_eq_true, true_and, false_or]
    | queuing => rw [channels q same]

end Steps

section Runs

variable {cfg : Config} {past : List Event} {s s' : State} {call : Call} {reply : Reply}

theorem Transfer.idle_or_acted {space : AddressSpace} {caller : XmU32} {g : Nat}
    {type : PortType} {direction : Direction} {msgPtr msgSize : XmU32} {msgFlags : PFlags}
    {act : Nat → Except Stop (Reply × State)} (port : call.op.transferPort? = some g)
    (transfer : Transfer cfg space caller g type direction msgPtr msgSize msgFlags s act reply s')
    : (s' = s ∧ ∀ made g c, ¬ Acts cfg (.call call reply) made g c)
      ∨ ∃ c, OwnPort cfg s caller g type
        ∧ Suited cfg space g direction msgPtr msgSize msgFlags c ∧ act c = .ok (reply, s') := by
  cases transfer with
  | refused refused =>
      refine Or.inl ⟨refused.state, fun made g' c acts => ?_⟩
      have := (acts_call.mp ⟨made, acts⟩).1
      have := refused.negative
      omega
  | unlinked own unlinked same =>
      refine Or.inl ⟨same, fun made g' c acts => ?_⟩
      obtain ⟨-, port', linked⟩ := acts_call.mp ⟨made, acts⟩
      cases port.symm.trans port'
      rw [unlinked] at linked
      cases linked
  | acted c own suited returned => exact Or.inr ⟨c, own, suited, returned⟩

/-- A step that changed nothing because it was refused. -/
theorem BitsFollow.refused (follow : BitsFollow cfg past s) (negative : reply.ret < 0)
    : BitsFollow cfg (.call call reply :: past) s
      ∧ Framed cfg s (.call call reply) s := by
  refine ⟨follow.idle fun made g c acts => ?_, .untouched rfl rfl⟩
  have := (acts_call.mp ⟨made, acts⟩).1
  omega

/-- Sampling channels are configured as such. -/
theorem AllRepresent.sampling (all : AllRepresent cfg s) {c : Nat}
    (inside : c < cfg.noCommChannels) {channel : SamplingChannel}
    (sampling : s.channelTab c = .sampling channel)
    : ∃ maxLength period noReceivers,
      cfg.xmcCommChannelTab c = .sampling maxLength period noReceivers := by
  cases configured : cfg.xmcCommChannelTab c with
  | sampling maxLength period noReceivers => exact ⟨_, _, _, rfl⟩
  | queuing maxLength n =>
      obtain ⟨_, _, _, _, queuing, -⟩ := all c maxLength n inside configured
      cases sampling.symm.trans queuing

theorem send_follow (compiled : Compiled cfg) (endpoints : Endpoints cfg s)
    (created : PortsCreated cfg s) (follow : BitsFollow cfg past s)
    (aligned : Aligned cfg s (.call call reply)) {desc msgPtr msgSize : XmU32}
    (op : call.op = .sendQueuingPort desc msgPtr msgSize)
    (returned : sendQueuingPort cfg call.space call.caller desc msgPtr msgSize s
      = .ok (reply, s'))
    : BitsFollow cfg (.call call reply :: past) s' ∧ Framed cfg s (.call call reply) s' := by
  have port : call.op.transferPort? = some (objDescGetId desc) := by rw [op]; rfl
  rcases (sendQueuingPort_cases returned).idle_or_acted port with ⟨rfl, idle⟩ | ⟨c, own,
    suited, acted⟩
  · exact ⟨follow.idle idle, .untouched rfl rfl⟩
  · obtain ⟨channel, _, _, queuing, configured, effect⟩ := sendQueuing_effect acted
    cases effect with
    | full => exact follow.refused (by decide)
    | queued queued _ enqueued tables =>
        have acts : Acts cfg (.call call (.code .ok)) call (objDescGetId desc) c :=
          ⟨_, rfl, by decide, port, suited.linked⟩
        obtain ⟨-, layout, -⟩ := aligned _ _ _ acts
        obtain ⟨confined, set⟩ := send_bits compiled endpoints created layout suited.inside
          acted (by decide)
        constructor
        · refine follow.acted created acts confined ?_ ?_ ?_
          · intro p
            rw [tables.portTab]
            rfl
          · intro q other
            rw [tables.channelTab]
            simp [State.setChannel, other]
          · intro p i inside endOf bit
            have stored : s'.channelTab c = .queuing queued := by
              rw [tables.channelTab]
              simp [State.setChannel]
            have count := enqueue_count enqueued
            simp only [set p i inside endOf bit, Filled, configured, stored, true_iff]
            exact ⟨queued, rfl, by omega⟩
        · refine .confined call _ c acts ?_
          rw [own.type_eq]
          exact confined

theorem receive_follow (compiled : Compiled cfg) (endpoints : Endpoints cfg s)
    (created : PortsCreated cfg s) (follow : BitsFollow cfg past s)
    (aligned : Aligned cfg s (.call call reply)) {desc msgPtr msgSize : XmU32}
    (op : call.op = .receiveQueuingPort desc msgPtr msgSize)
    (returned : receiveQueuingPort cfg call.space call.caller desc msgPtr msgSize s
      = .ok (reply, s'))
    : BitsFollow cfg (.call call reply :: past) s' ∧ Framed cfg s (.call call reply) s' := by
  have port : call.op.transferPort? = some (objDescGetId desc) := by rw [op]; rfl
  rcases (receiveQueuingPort_cases returned).idle_or_acted port with ⟨rfl, idle⟩ | ⟨c, own,
    suited, acted⟩
  · exact ⟨follow.idle idle, .untouched rfl rfl⟩
  · obtain ⟨channel, queuing, effect⟩ := receiveQueuing_effect acted
    cases effect with
    | empty => exact follow.refused (by decide)
    | @taken _ data left _ dequeued tables =>
        have success : 0 ≤ (data.length : Int) := by omega
        have acts : Acts cfg (.call call { ret := data.length, data, flags := none }) call
            (objDescGetId desc) c :=
          ⟨_, rfl, success, port, suited.linked⟩
        obtain ⟨-, layout, number⟩ := aligned _ _ _ acts
        rw [NumbersOwnBit, op] at number
        obtain ⟨confined, used, last, more⟩ := receive_bits compiled endpoints created layout
          own suited.linked suited.inside number acted success queuing
        obtain ⟨maxLength, noMsgs, configured⟩ : ∃ maxLength noMsgs,
            cfg.xmcCommChannelTab c = .queuing maxLength noMsgs := by
          cases configured : cfg.xmcCommChannelTab c with
          | queuing maxLength noMsgs => exact ⟨_, _, rfl⟩
          | sampling => simp [receiveQueuing, queuing, configured] at acted
        constructor
        · refine follow.acted created acts confined ?_ ?_ ?_
          · intro p
            rw [tables.portTab]
            rfl
          · intro q other
            rw [tables.channelTab]
            simp [State.setChannel, other]
          · intro p i inside endOf bit
            have stored : s'.channelTab c = .queuing left := by
              rw [tables.channelTab]
              simp [State.setChannel]
            have count := dequeue_count dequeued
            have only : p = objDescGetId desc :=
              compiled.single c p _ (by rw [configured]; rfl) endOf
                ⟨suited.direction_eq, suited.linked⟩
            subst only
            have before := follow _ c i inside endOf bit
            simp only [Filled, configured, stored, queuing, Channel.queuing.injEq,
              exists_eq_left'] at before ⊢
            by_cases emptied : channel.usedMsgs = 1
            · simp only [last emptied i bit, count, emptied]
              simp
            · rw [more emptied i, before, count]
              omega
        · refine .confined call _ c acts ?_
          rw [own.type_eq]
          exact confined

theorem write_follow (compiled : Compiled cfg) (endpoints : Endpoints cfg s)
    (created : PortsCreated cfg s) (follow : BitsFollow cfg past s)
    (aligned : Aligned cfg s (.call call reply)) {desc msgPtr msgSize : XmU32}
    (op : call.op = .writeSamplingPort desc msgPtr msgSize) (all : AllRepresent cfg s)
    (returned : writeSamplingPort cfg call.space call.caller desc msgPtr msgSize call.now s
      = .ok (reply, s'))
    : BitsFollow cfg (.call call reply :: past) s' ∧ Framed cfg s (.call call reply) s' := by
  have port : call.op.transferPort? = some (objDescGetId desc) := by rw [op]; rfl
  have transfers : call.op.create? = none := by rw [op]; rfl
  have owners := run_transfer transfers
    (show call.run cfg s = .ok (reply, s') by simpa only [Call.run, op] using returned)
  rcases (writeSamplingPort_cases returned).idle_or_acted port with ⟨rfl, idle⟩ | ⟨c, own,
    suited, acted⟩
  · exact ⟨follow.idle idle, .untouched rfl rfl⟩
  · obtain ⟨channel, effect⟩ := writeSampling_effect acted
    have success : 0 ≤ reply.ret := by rw [effect.reply_eq]; decide
    have acts : Acts cfg (.call call reply) call (objDescGetId desc) c :=
      ⟨_, rfl, success, port, suited.linked⟩
    obtain ⟨-, layout, number⟩ := aligned _ _ _ acts
    rw [NumbersOwnBit, op] at number
    obtain ⟨confined, set⟩ := write_bits compiled endpoints created layout own suited.linked
      suited.inside number acted
    obtain ⟨_, _, _, configured⟩ := all.sampling suited.inside effect.sampling
    constructor
    · refine follow.acted created acts confined (fun p => (owners p).partitionId) ?_ ?_
      · intro q other
        rw [effect.channelTab]
        simp [other]
      · intro p i inside endOf bit
        have writes : WritesChannel cfg c (.call call reply) :=
          writesChannel_call.mpr ⟨_, _, _, op, suited.linked, success⟩
        simp only [set p i inside endOf bit, Filled, configured, since_cons, writes, true_or]
    · refine .confined call _ c acts ?_
      rw [own.type_eq]
      exact confined

theorem read_follow (compiled : Compiled cfg) (endpoints : Endpoints cfg s)
    (created : PortsCreated cfg s) (follow : BitsFollow cfg past s)
    (aligned : Aligned cfg s (.call call reply)) {desc msgPtr msgSize flagsPtr : XmU32}
    (op : call.op = .readSamplingPort desc msgPtr msgSize flagsPtr) (all : AllRepresent cfg s)
    (returned : readSamplingPort cfg call.space call.caller call.vCpu desc msgPtr msgSize
      flagsPtr call.now s = .ok (reply, s'))
    : BitsFollow cfg (.call call reply :: past) s' ∧ Framed cfg s (.call call reply) s' := by
  have port : call.op.transferPort? = some (objDescGetId desc) := by rw [op]; rfl
  have transfers : call.op.create? = none := by rw [op]; rfl
  have owners := run_transfer transfers
    (show call.run cfg s = .ok (reply, s') by simpa only [Call.run, op] using returned)
  rcases (readSamplingPort_cases returned).idle_or_acted port with ⟨rfl, idle⟩ | ⟨c, own,
    suited, acted⟩
  · exact ⟨follow.idle idle, .untouched rfl rfl⟩
  · have effect := readSampling_effect acted
    obtain ⟨channel, sampling⟩ := effect.sampling
    have acts : Acts cfg (.call call reply) call (objDescGetId desc) c :=
      ⟨_, rfl, effect.succeeds, port, suited.linked⟩
    obtain ⟨vCpu, layout, number⟩ := aligned _ _ _ acts
    rw [NumbersOwnBit, op] at number
    obtain ⟨confined, cleared, others⟩ := read_bits compiled endpoints created layout own
      ⟨suited.direction_eq, suited.linked⟩ suited.inside vCpu number acted
    obtain ⟨_, _, _, configured⟩ := all.sampling suited.inside sampling
    have reads (p : Nat) : ReadsPort p (.call call reply) ↔ p = objDescGetId desc := by
      rw [readsPort_call]
      constructor
      · rintro ⟨_, _, _, _, op', same, _⟩
        rw [op] at op'
        cases op'
        exact same.symm
      · intro same
        exact ⟨_, _, _, _, op, same.symm, effect.succeeds⟩
    have writes : ¬ WritesChannel cfg c (.call call reply) :=
      reads_not_writes ((reads _).mpr rfl)
    constructor
    · refine follow.acted created acts confined (fun p => (owners p).partitionId) ?_ ?_
      · intro q _
        rw [effect.tables.channelTab]
        rfl
      · intro p i inside endOf bit
        have before := follow p c i inside endOf bit
        simp only [Filled, configured, since_cons, writes, false_or, reads] at before ⊢
        by_cases here : p = objDescGetId desc
        · subst here
          simp [cleared i bit]
        · rw [others p i inside endOf here bit, before]
          simp [here]
    · refine .confined call _ c acts ?_
      rw [own.type_eq]
      exact confined

end Runs

-----------------------------------------------------------------------------------------
-- Runs

/-- A call that creates a port. -/
def Event.Creates (event : Event) : Prop :=
  ∃ made reply args, event = .call made reply ∧ made.op.create? = some args

/-- A call that transfers a message. -/
def Event.Transfers (event : Event) : Prop :=
  ∃ made reply, event = .call made reply ∧ made.op.create? = none

/-- The channel of a port holds a message not yet consumed through that port: more messages
were sent than received, or a write came after the last read.
-/
def Pending (cfg : Config) (past : List Event) (p c : Nat) : Prop :=
  match cfg.xmcCommChannelTab c with
  | .sampling _ _ _ => Since (fun event _ => WritesChannel cfg c event) (ReadsPort p) past
  | .queuing _ _ => (received cfg c past).length < (sent cfg c past).length

/-- In the table of every vCPU, the bit of a destination port is set exactly while its
channel holds a message for it.
-/
def Mirrors (cfg : Config) (past : List Event) (s : State) : Prop :=
  ∀ p c i, p < cfg.noCommPorts → EndOf cfg .destination p c → PortBit cfg s p i →
    (s.bit i = true ↔ Pending cfg past p c)

section Runs

variable {cfg : Config} {start s s' : State} {past created : List Event} {event : Event}

theorem allRepresent (setup : SetupComm cfg start) (run : Reach (Next cfg) start past s)
    : AllRepresent cfg s := by
  intro c maxLength n inside configured
  obtain ⟨_, queue, -, -, represents⟩ := refines_fifo setup inside configured run
  exact ⟨queue, represents⟩

/-- A queuing channel counts the messages that were sent and not received. -/
theorem queuing_count (setup : SetupComm cfg start) {c maxLength n : Nat}
    (inside : c < cfg.noCommChannels)
    (configured : cfg.xmcCommChannelTab c = .queuing maxLength n)
    (run : Reach (Next cfg) start past s)
    : ∃ channel, s.channelTab c = .queuing channel
      ∧ (received cfg c past).length + channel.usedMsgs = (sent cfg c past).length := by
  obtain ⟨actions, queue, meanings, fifo, channel, free, recv, queuing, pool, rfl⟩ :=
    refines_fifo setup inside configured run
  have conserved := congrArg List.length (BoundedFifo.conservation fifo)
  have handed := (handedOut_received meanings).length_eq
  rw [accepted_eq_sent meanings, List.length_append, ← handed, pool.queue_length] at conserved
  exact ⟨channel, queuing, conserved.symm⟩

/-- Nothing is sent or received while ports are being created. -/
theorem creates_quiet (cfg : Config) (past : List Event)
    (creates : ∀ event ∈ created, event.Creates) (c : Nat)
    : sent cfg c (past ++ created) = sent cfg c past
      ∧ received cfg c (past ++ created) = received cfg c past := by
  have none : created.filterMap (sentBy cfg c) = []
      ∧ created.filterMap (receivedBy cfg c) = [] := by
    constructor <;>
      · rw [List.filterMap_eq_nil_iff]
        intro event member
        obtain ⟨made, reply, args, rfl, creates⟩ := creates event member
        cases op : made.op <;> simp_all [sentBy, receivedBy, Op.create?]
  simp [sent, received, List.filterMap_append, none]

/-- What is kept while messages are transferred. -/
structure Tracking (cfg : Config) (past : List Event) (s : State) : Prop where
  endpoints : Endpoints cfg s
  listed : ReceiversListed cfg s
  created : PortsCreated cfg s
  follow : BitsFollow cfg past s

theorem Tracking.step (compiled : Compiled cfg) (all : AllRepresent cfg s)
    (tracking : Tracking cfg past s) (transfers : event.Transfers)
    (aligned : Aligned cfg s event) (next : Next cfg s event s')
    : Tracking cfg (event :: past) s' ∧ Framed cfg s event s' := by
  obtain ⟨made, reply, rfl, transfers⟩ := transfers
  obtain ⟨endpoints, listed, created, follow⟩ := tracking
  cases next with
  | call returned =>
      have ports := run_transfer transfers returned
      have created' : PortsCreated cfg s' := by
        intro g configured
        obtain ⟨opened, owner⟩ := created g configured
        rw [Opened, (ports g).opened, (ports g).partitionId]
        exact ⟨opened, owner⟩
      have endpoints' := run_endpoints compiled.single endpoints listed returned
      have listed' := (Next.call returned).receiversListed
        (fun partitionId same => by cases same) listed
      have moved : BitsFollow cfg (.call made reply :: past) s'
          ∧ Framed cfg s (.call made reply) s' := by
        cases op : made.op with
        | createSamplingPort | createQueuingPort => simp [op, Op.create?] at transfers
        | sendQueuingPort =>
            simp only [Call.run, op] at returned
            exact send_follow compiled endpoints created follow aligned op returned
        | receiveQueuingPort =>
            simp only [Call.run, op] at returned
            exact receive_follow compiled endpoints created follow aligned op returned
        | writeSamplingPort =>
            simp only [Call.run, op] at returned
            exact write_follow compiled endpoints created follow aligned op all returned
        | readSamplingPort =>
            simp only [Call.run, op] at returned
            exact read_follow compiled endpoints created follow aligned op all returned
      exact ⟨⟨endpoints', listed', created', moved.1⟩, moved.2⟩

/-- What the create calls leave. -/
theorem creation_tracking (compiled : Compiled cfg) (setup : SetupComm cfg start)
    (tables : SetupPct cfg start)
    (creation : Reach (guarded (fun _ event => event.Creates) (Next cfg)) start created s)
    (ports : PortsCreated cfg s)
    : Tracking cfg [] s ∧ ∀ event ∈ created, event.Creates := by
  obtain ⟨endpoints, listed, pct, creates⟩ := creation.preserves
    (P := fun past s => Endpoints cfg s ∧ ReceiversListed cfg s ∧ s.pct = start.pct
      ∧ ∀ event ∈ past, event.Creates)
    ⟨setup.endpoints, setup.truthful.listed, rfl, by simp⟩
    (by
      intro past s event s' before taken
      obtain ⟨endpoints, listed, pct, creates⟩ := before
      obtain ⟨here, next⟩ := taken
      refine ⟨?_, ?_, ?_, ?_⟩
      · obtain ⟨made, reply, args, rfl, -⟩ := here
        cases next with
        | call returned => exact run_endpoints compiled.single endpoints listed returned
      · refine next.receiversListed (fun partitionId same => ?_) listed
        obtain ⟨made, reply, args, rfl, -⟩ := here
        cases same
      · obtain ⟨made, reply, args, rfl, op⟩ := here
        cases next with
        | call returned => exact (run_createEnd op returned).pct.trans pct
      · intro other member
        rcases List.mem_cons.mp member with rfl | earlier
        · exact here
        · exact creates other earlier)
  refine ⟨⟨endpoints, listed, ports, ?_⟩, creates⟩
  intro p c i configured endOf bit
  obtain ⟨opened, own⟩ := ports p configured
  have clear : s.bit i = false := by
    have below : 32 * ((p - (cfg.partition (s.portTab p).partitionId).commPortsOffset) / 32)
        < (cfg.partition (s.portTab p).partitionId).noPorts := by
      have := own.1
      have := own.2
      omega
    have zero := tables _ _ bit.vCpu _ below
    simp [State.bit, pct, bit.partition_eq, bit.bitAt.word_eq, zero]
  have empty : ¬ Filled cfg [] s p c := by
    unfold Filled
    cases configured' : cfg.xmcCommChannelTab c with
    | sampling => exact not_since_nil
    | queuing maxLength n =>
        obtain ⟨inside, -⟩ := endpoints.listed p c endOf opened
        obtain ⟨channel, queuing, count⟩ :=
          queuing_count setup inside configured' creation.unguarded
        obtain ⟨sends, receives⟩ := creates_quiet cfg [] creates c
        rw [List.nil_append] at sends receives
        rw [sends, receives] at count
        have none : channel.usedMsgs = 0 := by simpa [sent, received] using count
        simp [queuing, none]
  simp [clear, empty]

end Runs

/-- A queuing channel whose destination is one of the ports of two partitions. -/
def mailbox (destination : Nat) : Config where
  noCommPorts := 2
  xmcCommPorts port :=
    { name := fun i => if i = 0 then BitVec.ofNat 8 (65 + port) else 0
      channelId := some 0
      direction := if port = destination then .destination else .source
      type := .queuing }
  noCommChannels := 1
  xmcCommChannelTab _ := .queuing 4 1
  partition p :=
    { commPortsOffset := p.toNat
      noPorts := 1
      noVCpus := 1
      noPhysicalMemoryAreas := 1 }

/-- After `SetupComm`, with a guest that is ready in every partition. -/
def mailboxState (destination : Nat) : State :=
  { setupState (mailbox destination) with
    kThreadTab := fun _ _ =>
      some
        { flags := KTHREAD_READY_F
          g := some
            { opMode := .normal
              partCtrlTab :=
                { flags := KTHREAD_READY_F
                  extIrqsPend := 0
                  schedInfo := { noSlot := 0, id := 0, slotDuration := 0 } } } } }

theorem mailbox_compiled (destination : Nat) : Compiled (mailbox destination) where
  single c g g' _ endOf end' := by
    have here := endOf.direction_eq
    have there := end'.direction_eq
    simp only [mailbox] at here there
    split at here
    · split at there
      · omega
      · cases there
    · cases here
  counted := by simp [mailbox]

theorem mailbox_setup (destination : Nat)
    : SetupComm (mailbox destination) (mailboxState destination) := by
  have setup := setupState_setup (mailbox destination)
  exact ⟨setup.ports, setup.channels⟩

theorem mailbox_tables (destination : Nat)
    : SetupPct (mailbox destination) (mailboxState destination) := by
  intro p v _ e _
  rfl

/-- The two partitions create their ports, one of them the destination. -/
def mailboxCreates (direction other : XmU32) : List Call :=
  [namedCall 0 (.createQueuingPort 0 0x1000 1 4 direction),
    namedCall 1 (.createQueuingPort 0x400 0x2000 1 4 other)]

/-- The ports, with the first bit of a partition's bitmap and the interrupts pending there. -/
structure MailboxView where
  ports : List Port
  bit : Bool
  extIrqsPend : Option XmU32
  deriving DecidableEq

def mailboxView (receiver : XmU32) (s : State) : MailboxView where
  ports := [s.portTab 0, s.portTab 1]
  bit := s.bit ⟨receiver, 0, 8, 0⟩
  extIrqsPend := (s.kThreadTab receiver 0).bind fun k => k.g.map fun g => g.partCtrlTab.extIrqsPend

/-- The ports are created and then the transfers are made, with a look at what each leaves. -/
def mailboxRun (destination : Nat) (receiver : XmU32) (creates transfers : List Call)
    : Except Stop ((List Reply × MailboxView × List Reply × MailboxView) × State × State) := do
  let first ← runCalls (mailbox destination) creates (mailboxState destination)
  let second ← runCalls (mailbox destination) transfers first.2
  pure
    ((first.1, mailboxView receiver first.2, second.1, mailboxView receiver second.2),
      first.2, second.2)

theorem mailboxRun_ok {destination : Nat} {receiver : XmU32} {creates transfers : List Call}
    {replies replies' : List Reply} {view view' : MailboxView}
    (answer : (mailboxRun destination receiver creates transfers).map Prod.fst
      = .ok (replies, view, replies', view'))
    : ∃ ready s, runCalls (mailbox destination) creates (mailboxState destination)
        = .ok (replies, ready)
      ∧ mailboxView receiver ready = view
      ∧ runCalls (mailbox destination) transfers ready = .ok (replies', s)
      ∧ mailboxView receiver s = view' := by
  obtain ⟨⟨ready, s⟩, answer⟩ := map_fst_eq_ok.mp answer
  obtain ⟨⟨first, ready'⟩, creating, answer⟩ := bind_eq_ok.mp answer
  obtain ⟨⟨second, s'⟩, moving, answer⟩ := bind_eq_ok.mp answer
  cases answer
  exact ⟨ready', s', creating, rfl, moving, rfl⟩

def mailboxReplies : List Reply :=
  [{ ret := 0, data := [], flags := none }, { ret := 1, data := [], flags := none }]

def mailboxPorts : List Port :=
  [{ flags := { opened := true, newMsg := false, consumedMsg := false }, partitionId := 0 },
    { flags := { opened := true, newMsg := false, consumedMsg := false }, partitionId := 1 }]

theorem mailbox_created {destination : Nat} {receiver : XmU32} {s : State}
    (ports : (mailboxView receiver s).ports = mailboxPorts)
    : PortsCreated (mailbox destination) s := by
  simp only [mailboxView, mailboxPorts, List.cons.injEq, and_true] at ports
  obtain ⟨first, second⟩ := ports
  intro g inside
  have either : g = 0 ∨ g = 1 := by
    simp only [mailbox] at inside
    omega
  rcases either with rfl | rfl
  · simp [Opened, Owns, mailbox, first]
  · simp [Opened, Owns, mailbox, second]

theorem mailbox_creation {destination : Nat} {direction other : XmU32} {ready : State}
    (returned : runCalls (mailbox destination) (mailboxCreates direction other)
      (mailboxState destination) = .ok (mailboxReplies, ready))
    : Reach (guarded (fun _ event => event.Creates) (Next (mailbox destination)))
      (mailboxState destination)
      (List.zipWith Event.call (mailboxCreates direction other) mailboxReplies).reverse ready := by
  refine (runCalls_reach returned).guard ?_
  intro event member _
  simp only [mailboxCreates, mailboxReplies, List.zipWith_cons_cons, List.zipWith_nil_right,
    List.reverse_cons, List.reverse_nil, List.nil_append, List.singleton_append, List.mem_cons,
    List.not_mem_nil, or_false] at member
  rcases member with rfl | rfl
  · exact ⟨_, _, _, rfl, rfl⟩
  · exact ⟨_, _, _, rfl, rfl⟩

/-- Partition 1 sends a message to partition 0, whose ports start at 0. -/
def mailboxSend : Call :=
  namedCall 1 (.sendQueuingPort 0x401 0x3000 2)

theorem mailboxSend_aligned (s : State)
    : Aligned (mailbox 0) s (.call mailboxSend (.code .ok)) := by
  intro made g c acts
  obtain ⟨_, same, -⟩ := acts
  cases same
  exact ⟨by decide, fun _ _ _ => rfl, trivial⟩

/-- A message is sent to partition 1, whose ports start at 1, and received. -/
def mailboxMoves : List Call :=
  [namedCall 0 (.sendQueuingPort 0 0x3000 2), namedCall 1 (.receiveQueuingPort 0x401 0x3000 2)]

def mailboxMoved : List Reply :=
  [.code .ok, { ret := 2, data := [0, 0], flags := none }]

end XtratuM.Objects
