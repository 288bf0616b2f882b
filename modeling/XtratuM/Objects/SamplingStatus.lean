import XtratuM.Objects.MessagePool
import XtratuM.Objects.ReceiverTables

/-! What the status of a sampling port says about the history of its channel. A write marks
its receivers in the global port table by the numbers they have in their own partitions, so
it is right only for receivers whose partition starts at port 0.
-/

namespace XtratuM.Objects

open Reachability
open XtratuM.Guest

-----------------------------------------------------------------------------------------
-- Histories

/-- A successful write through a port of channel `c`. -/
def WritesChannel (cfg : Config) (c : Nat) (event : Event) : Prop :=
  ∃ call reply desc msgPtr msgSize, event = .call call reply
    ∧ call.op = .writeSamplingPort desc msgPtr msgSize
    ∧ (cfg.xmcCommPorts (objDescGetId desc)).channelId = some c ∧ 0 ≤ reply.ret

/-- A successful read through port `p`. -/
def ReadsPort (p : Nat) (event : Event) : Prop :=
  ∃ call reply desc msgPtr msgSize flags, event = .call call reply
    ∧ call.op = .readSamplingPort desc msgPtr msgSize flags
    ∧ objDescGetId desc = p ∧ 0 ≤ reply.ret

/-- A create call that returned port `p`. -/
def CreatesPort (p : Nat) (event : Event) : Prop :=
  ∃ call reply args, event = .call call reply ∧ call.op.create? = some args
    ∧ reply.ret = p

/-- A write to channel `c` happened after port `p` was created and after the last read
through it.
-/
def Unread (cfg : Config) (p c : Nat) : List Event → Prop :=
  Since (fun event older => WritesChannel cfg c event ∧ ∃ e ∈ older, CreatesPort p e)
    (ReadsPort p)

/-- The last read through port `p` came after the last write to channel `c`. -/
def Consumed (cfg : Config) (p c : Nat) : List Event → Prop :=
  Since (fun event _ => ReadsPort p event) (WritesChannel cfg c)

/-- A write the channel accepts only has receivers in partitions whose ports start at 0 and
that have a vCPU.
-/
def DeliversHome (cfg : Config) (s : State) (event : Event) : Prop :=
  ∀ call reply desc msgPtr msgSize c channel, event = .call call reply →
    call.op = .writeSamplingPort desc msgPtr msgSize →
    ValidTransfer cfg s call desc .sampling .source msgPtr msgSize sentFlags c →
    s.channelTab c = .sampling channel →
    ∀ e < channel.noReceivers, ∀ receiver, channel.receiverTab e = some receiver →
      (cfg.partition receiver).commPortsOffset = 0 ∧ 0 < (cfg.partition receiver).noVCpus

-----------------------------------------------------------------------------------------
-- Flags

/-- What a step other than a create call or a reset does to the flags of the ports. -/
structure FlagEffect (cfg : Config) (s : State) (event : Event) (s' : State) : Prop where
  written : ∀ p c, DestinationOf cfg p c → Opened s p → WritesChannel cfg c event →
    (s'.portTab p).flags = (s.portTab p).flags.written
  read : ∀ p c, DestinationOf cfg p c → ReadsPort p event →
    (s'.portTab p).flags = (s.portTab p).flags.read
  kept : ∀ p, ¬ ReadsPort p event →
    (∀ c, DestinationOf cfg p c → Opened s p → ¬ WritesChannel cfg c event) →
    (s'.portTab p).flags = (s.portTab p).flags

/-- A step that is no successful transfer on a sampling channel. -/
theorem FlagEffect.quiet {cfg : Config} {s s' : State} {event : Event}
    (same : s'.portTab = s.portTab) (writes : ∀ c, ¬ WritesChannel cfg c event)
    (reads : ∀ p c, DestinationOf cfg p c → ¬ ReadsPort p event)
    : FlagEffect cfg s event s' where
  written p c _ _ hit := absurd hit (writes c)
  read p c destination hit := absurd hit (reads p c destination)
  kept p _ _ := by rw [same]

section Labels

variable {cfg : Config} {call : Call} {reply : Reply}

theorem writesChannel_call {c : Nat}
    : WritesChannel cfg c (.call call reply) ↔ ∃ desc msgPtr msgSize,
      call.op = .writeSamplingPort desc msgPtr msgSize
        ∧ (cfg.xmcCommPorts (objDescGetId desc)).channelId = some c ∧ 0 ≤ reply.ret := by
  constructor
  · rintro ⟨_, _, desc, msgPtr, msgSize, same, hit⟩
    cases same
    exact ⟨desc, msgPtr, msgSize, hit⟩
  · rintro ⟨desc, msgPtr, msgSize, hit⟩
    exact ⟨call, reply, desc, msgPtr, msgSize, rfl, hit⟩

theorem readsPort_call {p : Nat}
    : ReadsPort p (.call call reply) ↔ ∃ desc msgPtr msgSize flags,
      call.op = .readSamplingPort desc msgPtr msgSize flags
        ∧ objDescGetId desc = p ∧ 0 ≤ reply.ret := by
  constructor
  · rintro ⟨_, _, desc, msgPtr, msgSize, flags, same, hit⟩
    cases same
    exact ⟨desc, msgPtr, msgSize, flags, hit⟩
  · rintro ⟨desc, msgPtr, msgSize, flags, hit⟩
    exact ⟨call, reply, desc, msgPtr, msgSize, flags, rfl, hit⟩

end Labels

theorem read_flags {cfg : Config} {s s' : State} {call : Call} {reply : Reply}
    {desc msgPtr msgSize flagsPtr : XmU32}
    (op : call.op = .readSamplingPort desc msgPtr msgSize flagsPtr)
    (returned : readSamplingPort cfg call.space call.caller call.vCpu desc msgPtr msgSize
      flagsPtr call.now s = .ok (reply, s'))
    : FlagEffect cfg s (.call call reply) s' := by
  have writes : ∀ c, ¬ WritesChannel cfg c (.call call reply) := by
    intro c hit
    obtain ⟨_, _, _, op', -⟩ := writesChannel_call.mp hit
    rw [op] at op'
    cases op'
  have port (p : Nat) (hit : ReadsPort p (.call call reply))
      : objDescGetId desc = p ∧ 0 ≤ reply.ret := by
    obtain ⟨_, _, _, _, op', here⟩ := readsPort_call.mp hit
    rw [op] at op'
    cases op'
    exact here
  cases readSamplingPort_cases returned with
  | refused refused =>
      refine .quiet (by rw [refused.state]) writes ?_
      intro p c _ hit
      have := (port p hit).2
      have := refused.negative
      omega
  | unlinked own unlinked same =>
      refine .quiet (by rw [same]) writes ?_
      intro p c destination hit
      rw [(port p hit).1, destination.linked] at unlinked
      cases unlinked
  | acted c own suited acted =>
      have effect := readSampling_effect acted
      refine
        { written := fun p c _ _ hit => absurd hit (writes c)
          read := ?_
          kept := ?_ }
      · intro p c _ hit
        rw [effect.tables.portTab, (port p hit).1]
        simp [State.setFlags, State.setPort]
      · intro p quiet _
        have other : p ≠ objDescGetId desc := by
          rintro rfl
          exact quiet (readsPort_call.mpr ⟨_, _, _, _, op, rfl, effect.succeeds⟩)
        rw [effect.tables.portTab]
        simp [State.setFlags, State.setPort, other]

theorem write_flags {cfg : Config} {s s' : State} {call : Call} {reply : Reply}
    {desc msgPtr msgSize : XmU32} (listed : ReceiversListed cfg s)
    (op : call.op = .writeSamplingPort desc msgPtr msgSize)
    (home : DeliversHome cfg s (.call call reply))
    (returned : writeSamplingPort cfg call.space call.caller desc msgPtr msgSize call.now s
      = .ok (reply, s'))
    : FlagEffect cfg s (.call call reply) s' := by
  have reads : ∀ p, ¬ ReadsPort p (.call call reply) := by
    intro p hit
    obtain ⟨_, _, _, _, op', -⟩ := readsPort_call.mp hit
    rw [op] at op'
    cases op'
  have channel_eq (c : Nat) (hit : WritesChannel cfg c (.call call reply))
      : (cfg.xmcCommPorts (objDescGetId desc)).channelId = some c ∧ 0 ≤ reply.ret := by
    obtain ⟨_, _, _, op', here⟩ := writesChannel_call.mp hit
    rw [op] at op'
    cases op'
    exact here
  cases writeSamplingPort_cases returned with
  | refused refused =>
      refine .quiet (by rw [refused.state]) ?_ fun p _ _ => reads p
      intro c hit
      have := (channel_eq c hit).2
      have := refused.negative
      omega
  | unlinked own unlinked same =>
      refine .quiet (by rw [same]) ?_ fun p _ _ => reads p
      intro c hit
      rw [(channel_eq c hit).1] at unlinked
      cases unlinked
  | acted c own suited acted =>
      obtain ⟨channel, effect⟩ := writeSampling_effect acted
      have success : 0 ≤ reply.ret := by
        rw [effect.reply_eq]
        decide
      have hit : WritesChannel cfg c (.call call reply) :=
        writesChannel_call.mpr ⟨_, _, _, op, suited.linked, success⟩
      have permitted : objDescGetPartitionId desc = call.caller :=
        writeSamplingPort_permitted returned success
      have homes := home call reply desc msgPtr msgSize c channel rfl op
        ⟨permitted, own, suited⟩ effect.sampling
      have found : (s.channelTab c).receivers? = some
          { noReceivers := channel.noReceivers
            receiverTab := channel.receiverTab
            receiverPortTab := channel.receiverPortTab } := by
        rw [effect.sampling]
        rfl
      -- with every receiver at home, an entry marks the port it leads to
      have marks (e : Nat) (inside : e < channel.noReceivers) (p : Nat)
          (leads : Receivers.Leads cfg
            { noReceivers := channel.noReceivers
              receiverTab := channel.receiverTab
              receiverPortTab := channel.receiverPortTab } e p)
          : Marks cfg channel e p := by
        obtain ⟨receiver, registered, number⟩ := leads
        obtain ⟨offset, vCpus⟩ := homes e inside receiver registered
        refine ⟨receiver, registered, by simpa [offset] using number, ?_⟩
        simp only [Config.vCpus, ne_eq, List.map_eq_nil_iff, List.range_eq_nil]
        omega
      refine { written := ?_, read := fun p _ _ hit => absurd hit (reads p), kept := ?_ }
      · intro p c' destination opened hit'
        cases suited.linked.symm.trans (channel_eq c' hit').1
        obtain ⟨-, -, receivers, found', e, inside, leads⟩ := listed.listed p c destination opened
        cases found.symm.trans found'
        rw [effect.written p ⟨e, inside, marks e inside p leads⟩]
        rfl
      · intro p _ quiet
        have unmarked : ¬ ∃ e < channel.noReceivers, Marks cfg channel e p := by
          rintro ⟨e, inside, receiver, registered, number, -⟩
          obtain ⟨q, ⟨receiver', registered', number'⟩, destination, opened⟩ :=
            listed.entries c _ suited.inside found e inside
          cases registered.symm.trans registered'
          have same : p = q := by
            rw [← number, ← number', (homes e inside receiver registered).1]
            simp
          exact quiet c (same ▸ destination) (same ▸ opened) hit
        rw [effect.kept p unmarked]

/-- Steps other than create calls and resets treat the flags as their labels say. -/
theorem Next.flags {cfg : Config} {s s' : State} {event : Event} (next : Next cfg s event s')
    (listed : ReceiversListed cfg s) (home : DeliversHome cfg s event)
    (noReset : NoReset event)
    (noCreate : ∀ call reply, event = .call call reply → call.op.create? = none)
    : FlagEffect cfg s event s' := by
  cases next with
  | @reset partitionId => exact absurd rfl (noReset partitionId)
  | elsewhere =>
      refine .quiet rfl ?_ ?_
      · rintro c ⟨_, _, _, _, _, same, -⟩
        cases same
      · rintro p c _ ⟨_, _, _, _, _, _, same, -⟩
        cases same
  | @call _ call reply returned =>
      have transfers := noCreate call reply rfl
      have quiet (same : s'.portTab = s.portTab)
          (writes : ∀ desc msgPtr msgSize, call.op ≠ .writeSamplingPort desc msgPtr msgSize)
          (reads : ∀ desc msgPtr msgSize flags,
            call.op ≠ .readSamplingPort desc msgPtr msgSize flags)
          : FlagEffect cfg s (.call call reply) s' := by
        refine .quiet same ?_ ?_
        · intro c hit
          obtain ⟨_, _, _, op, -⟩ := writesChannel_call.mp hit
          exact writes _ _ _ op
        · intro p c _ hit
          obtain ⟨_, _, _, _, op, -⟩ := readsPort_call.mp hit
          exact reads _ _ _ _ op
      cases op : call.op with
      | createSamplingPort | createQueuingPort => simp [op, Op.create?] at transfers
      | readSamplingPort desc msgPtr msgSize flags =>
          exact read_flags op (by simpa [Call.run, op] using returned)
      | writeSamplingPort desc msgPtr msgSize =>
          exact write_flags listed op home (by simpa [Call.run, op] using returned)
      | sendQueuingPort desc msgPtr msgSize =>
          simp only [Call.run, op] at returned
          refine quiet ?_ (by simp [op]) (by simp [op])
          rcases (sendQueuingPort_cases returned).same_or_acted with rfl | ⟨c, -, -, returned⟩
          · rfl
          · obtain ⟨channel, _, _, -, -, effect⟩ := sendQueuing_effect returned
            cases effect with
            | full => rfl
            | queued queued _ _ tables => rw [tables.portTab]; rfl
      | receiveQueuingPort desc msgPtr msgSize =>
          simp only [Call.run, op] at returned
          refine quiet ?_ (by simp [op]) (by simp [op])
          rcases (receiveQueuingPort_cases returned).same_or_acted with rfl | ⟨c, -, -, returned⟩
          · rfl
          · obtain ⟨channel, -, effect⟩ := receiveQueuing_effect returned
            cases effect with
            | empty => rfl
            | taken left _ _ tables => rw [tables.portTab]; rfl

-----------------------------------------------------------------------------------------
-- Runs

/-- The tables and the history agree: which ports are open, and what their flags say. -/
structure Truthful (cfg : Config) (past : List Event) (s : State) : Prop where
  listed : ReceiversListed cfg s
  created : ∀ p, Opened s p ↔ ∃ e ∈ past, CreatesPort p e
  readers : ∀ p, (∃ e ∈ past, ReadsPort p e) → Opened s p
  closed : ∀ p, ¬ Opened s p →
    (s.portTab p).flags.newMsg = false ∧ (s.portTab p).flags.consumedMsg = false
  status : ∀ p c, DestinationOf cfg p c → Opened s p →
    ((s.portTab p).flags.newMsg = true ↔ Unread cfg p c past)
      ∧ ((s.portTab p).flags.consumedMsg = true ↔ Consumed cfg p c past)

theorem SetupComm.truthful {cfg : Config} {s : State} (setup : SetupComm cfg s)
    : Truthful cfg [] s where
  listed :=
    { configured := fun p opened => by simp [Opened, setup.ports p] at opened
      listed := fun p c _ opened => by simp [Opened, setup.ports p] at opened
      entries := fun c receivers channel found e inside => by
        rw [setupChannel_receivers (setup.channels c channel) found] at inside
        omega }
  created p := by simp [Opened, setup.ports p]
  readers p := by simp
  closed p _ := by simp [setup.ports p]
  status p c _ opened := by simp [Opened, setup.ports p] at opened

theorem Unread.created {cfg : Config} {p c : Nat} {past : List Event}
    (unread : Unread cfg p c past)
    : ∃ e ∈ past, CreatesPort p e := by
  obtain ⟨newer, event, older, rfl, ⟨-, e, member, creates⟩, -⟩ := unread
  exact ⟨e, List.mem_append_right _ (List.mem_cons_of_mem _ member), creates⟩

theorem Consumed.reader {cfg : Config} {p c : Nat} {past : List Event}
    (consumed : Consumed cfg p c past)
    : ∃ e ∈ past, ReadsPort p e := by
  obtain ⟨newer, event, older, rfl, reads, -⟩ := consumed
  exact ⟨event, List.mem_append_right _ List.mem_cons_self, reads⟩

/-- An event that neither writes the channel nor reads the port changes neither history. -/
theorem quiet_histories {cfg : Config} {p c : Nat} {event : Event} {past : List Event}
    (writes : ¬ WritesChannel cfg c event) (reads : ¬ ReadsPort p event)
    : (Unread cfg p c (event :: past) ↔ Unread cfg p c past)
      ∧ (Consumed cfg p c (event :: past) ↔ Consumed cfg p c past) := by
  unfold Unread Consumed
  rw [since_cons, since_cons]
  simp [writes, reads]

theorem create_quiet (cfg : Config) {call : Call} (reply : Reply) {args : CreateArgs}
    (creates : call.op.create? = some args)
    : (∀ c, ¬ WritesChannel cfg c (.call call reply)) ∧ ∀ p, ¬ ReadsPort p (.call call reply) := by
  constructor
  · intro c hit
    obtain ⟨_, _, _, op, -⟩ := writesChannel_call.mp hit
    simp [op, Op.create?] at creates
  · intro p hit
    obtain ⟨_, _, _, _, op, -⟩ := readsPort_call.mp hit
    simp [op, Op.create?] at creates

theorem createsPort_call {call : Call} (reply : Reply) {args : CreateArgs}
    (creates : call.op.create? = some args) (p : Nat)
    : CreatesPort p (.call call reply) ↔ reply.ret = p := by
  constructor
  · rintro ⟨_, _, _, same, -, ret⟩
    cases same
    exact ret
  · intro ret
    exact ⟨call, reply, args, rfl, creates, ret⟩

/-- A create call opens a port with an empty history, or none. -/
theorem Truthful.create {cfg : Config} {past : List Event} {s s' : State} {call : Call}
    {reply : Reply} {args : CreateArgs} (truthful : Truthful cfg past s)
    (creates : call.op.create? = some args)
    (effect : CreateEffect cfg s call args reply.ret s')
    : Truthful cfg (.call call reply :: past) s' := by
  obtain ⟨writes, reads⟩ := create_quiet cfg reply creates
  have listed := effect.receiversListed truthful.listed
  have creator := createsPort_call reply creates
  generalize reply.ret = ret at effect creator
  cases effect with
  | refused unfit negative kept =>
      have ports : s'.portTab = s.portTab := by
        rcases kept with rfl | ⟨side, registered⟩
        · rfl
        · exact registered.endpoint.portTab
      have opened (p : Nat) : Opened s' p ↔ Opened s p := by rw [Opened, ports, Opened]
      refine
        { listed := listed, created := ?_, readers := ?_, closed := ?_, status := ?_ }
      · intro p
        have failed : ¬ ret = (p : Int) := by omega
        simp [opened, truthful.created p, creator, failed]
      · intro p
        simpa [opened, reads p] using truthful.readers p
      · intro p
        rw [opened, ports]
        exact truthful.closed p
      · intro p c destination isOpen
        rw [(quiet_histories (writes c) (reads p)).1, (quiet_histories (writes c) (reads p)).2,
          ports]
        exact truthful.status p c destination ((opened p).mp isOpen)
  | @opened t side fit endpoint =>
      have opened := openPort_opened (call.found cfg args) call.caller endpoint.portTab
      have tab := openPort_portTab (call.found cfg args) call.caller endpoint.portTab
      have closed : ¬ Opened s (call.found cfg args) := by
        simp [Opened, fit.openable.closed]
      refine
        { listed := listed, created := ?_, readers := ?_, closed := ?_, status := ?_ }
      · intro p
        rw [opened p]
        simp only [List.mem_cons, exists_eq_or_imp, creator, Int.natCast_inj,
          ← truthful.created p]
        exact or_congr_left eq_comm
      · intro p hit
        refine (opened p).mpr (Or.inr (truthful.readers p ?_))
        simpa [reads p] using hit
      · intro p isClosed
        rw [opened p, not_or] at isClosed
        rw [tab p, if_neg isClosed.1]
        exact truthful.closed p isClosed.2
      · intro p c destination isOpen
        rw [(quiet_histories (writes c) (reads p)).1, (quiet_histories (writes c) (reads p)).2,
          tab p]
        by_cases new : p = call.found cfg args
        · subst new
          obtain ⟨noMsg, noRead⟩ := truthful.closed _ closed
          simp only [if_pos, noMsg, noRead, Bool.false_eq_true, false_iff]
          exact ⟨fun unread => closed ((truthful.created _).mpr unread.created),
            fun consumed => closed (truthful.readers _ consumed.reader)⟩
        · rw [if_neg new]
          exact truthful.status p c destination (((opened p).mp isOpen).resolve_left new)

/-- A successful read was made through an open port. -/
theorem Next.reads_opened {cfg : Config} {s s' : State} {event : Event} {p : Nat}
    (next : Next cfg s event s') (reads : ReadsPort p event)
    : Opened s p := by
  obtain ⟨call, reply, desc, msgPtr, msgSize, flags, rfl, op, rfl, success⟩ := reads
  cases next with
  | call returned =>
      simp only [Call.run, op] at returned
      cases readSamplingPort_cases returned with
      | refused refused =>
          have := refused.negative
          omega
      | unlinked own _ _ => exact own.opened
      | acted _ own _ _ => exact own.opened

/-- A step that opens no port: the flags follow the histories. -/
theorem Truthful.step {cfg : Config} {past : List Event} {s s' : State} {event : Event}
    (truthful : Truthful cfg past s) (listed : ReceiversListed cfg s')
    (flags : FlagEffect cfg s event s') (opened : ∀ p, Opened s' p ↔ Opened s p)
    (noCreate : ∀ p, ¬ CreatesPort p event) (reads : ∀ p, ReadsPort p event → Opened s p)
    (apart : ∀ p c, ReadsPort p event → ¬ WritesChannel cfg c event)
    : Truthful cfg (event :: past) s' := by
  refine { listed := listed, created := ?_, readers := ?_, closed := ?_, status := ?_ }
  · intro p
    simp [opened p, truthful.created p, noCreate p]
  · intro p hit
    rw [opened p]
    obtain ⟨e, member, hit⟩ := hit
    rcases List.mem_cons.mp member with rfl | earlier
    · exact reads p hit
    · exact truthful.readers p ⟨e, earlier, hit⟩
  · intro p isClosed
    rw [opened p] at isClosed
    rw [flags.kept p (fun hit => isClosed (reads p hit))
      fun c _ isOpen => absurd isOpen isClosed]
    exact truthful.closed p isClosed
  · intro p c destination isOpen
    rw [opened p] at isOpen
    have before := truthful.status p c destination isOpen
    have created := (truthful.created p).mp isOpen
    unfold Unread Consumed at before ⊢
    rw [since_cons, since_cons]
    by_cases hit : WritesChannel cfg c event
    · have quiet : ¬ ReadsPort p event := fun read => apart p c read hit
      rw [flags.written p c destination isOpen hit]
      refine ⟨?_, by simp [PortFlags.written, hit, quiet]⟩
      simp only [PortFlags.written, true_iff]
      exact Or.inl ⟨hit, created⟩
    · by_cases read : ReadsPort p event
      · rw [flags.read p c destination read]
        simp [PortFlags.read, hit, read]
      · have kept : (s'.portTab p).flags = (s.portTab p).flags := by
          refine flags.kept p read ?_
          intro c' destination' _
          cases destination.linked.symm.trans destination'.linked
          exact hit
        rw [kept]
        simpa [hit, read] using before

/-- An event of the runs in which the status of a port tells what its channel holds: it is not
the reset of a partition, and a write delivers home.
-/
def Deliverable (cfg : Config) (s : State) (event : Event) : Prop :=
  NoReset event ∧ DeliversHome cfg s event

theorem Truthful.next {cfg : Config} {past : List Event} {s s' : State} {event : Event}
    (truthful : Truthful cfg past s) (deliverable : Deliverable cfg s event)
    (next : Next cfg s event s')
    : Truthful cfg (event :: past) s' := by
  obtain ⟨noReset, home⟩ := deliverable
  have listed := next.receiversListed noReset truthful.listed
  have reads : ∀ p, ReadsPort p event → Opened s p := fun p hit => next.reads_opened hit
  have apart : ∀ p c, ReadsPort p event → ¬ WritesChannel cfg c event := by
    rintro p c ⟨call, reply, _, _, _, _, rfl, op, -⟩ hit
    obtain ⟨_, _, _, op', -⟩ := writesChannel_call.mp hit
    rw [op] at op'
    cases op'
  have flags := fun noCreate => next.flags truthful.listed home noReset noCreate
  cases next with
  | @reset partitionId => exact absurd rfl (noReset partitionId)
  | elsewhere =>
      refine truthful.step listed (flags ?_) (fun _ => Iff.rfl) ?_ reads apart
      · intro call reply same
        cases same
      · rintro p ⟨_, _, _, same, -⟩
        cases same
  | @call _ call reply returned =>
      cases creates : call.op.create? with
      | some args => exact truthful.create creates (run_create creates returned)
      | none =>
          refine truthful.step listed (flags ?_) ?_ ?_ reads apart
          · intro call' reply' same
            cases same
            exact creates
          · intro p
            rw [Opened, (run_transfer creates returned p).opened, Opened]
          · rintro p ⟨_, _, args, same, creates', -⟩
            cases same
            rw [creates] at creates'
            cases creates'

/-- The bits `GetSPortStatus` reports are the flags of the port. -/
theorem status_bits (flags : PortFlags) (valid : Bool)
    (apart : ¬ (flags.newMsg = true ∧ flags.consumedMsg = true))
    : ((flags.status ||| (if valid then XM_COMM_MSG_VALID else 0)) &&& XM_COMM_NEW_MSG ≠ 0
        ↔ flags.newMsg = true)
      ∧ ((flags.status ||| (if valid then XM_COMM_MSG_VALID else 0))
          &&& XM_COMM_CONSUMED_MSG ≠ 0
        ↔ flags.consumedMsg = true) := by
  obtain ⟨opened, newMsg, consumedMsg⟩ := flags
  cases newMsg <;> cases consumedMsg <;> cases valid <;>
    simp_all [PortFlags.status, XM_COMM_MSG_VALID, XM_COMM_NEW_MSG, XM_COMM_CONSUMED_MSG]

theorem reads_not_writes {cfg : Config} {p c : Nat} {event : Event}
    (reads : ReadsPort p event)
    : ¬ WritesChannel cfg c event := by
  obtain ⟨call, reply, _, _, _, _, rfl, op, -⟩ := reads
  intro hit
  obtain ⟨_, _, _, op', -⟩ := writesChannel_call.mp hit
  rw [op] at op'
  cases op'

/-- No history leaves a message unread and consumed, by induction on the history. -/
theorem unread_not_consumed {cfg : Config} {p c : Nat} {past : List Event}
    (unread : Unread cfg p c past)
    : ¬ Consumed cfg p c past := by
  induction past with
  | nil =>
      obtain ⟨newer, _, older, split, -⟩ := unread
      simp at split
  | cons event past ih =>
      intro consumed
      unfold Unread at unread
      unfold Consumed at consumed
      rw [since_cons] at unread consumed
      rcases unread with ⟨writes, -⟩ | ⟨quiet, unread⟩
      · rcases consumed with reads | ⟨none, -⟩
        · exact reads_not_writes reads writes
        · exact none writes
      · rcases consumed with reads | ⟨-, consumed⟩
        · exact quiet reads
        · exact ih unread consumed

/-- `GetSPortStatus` answers the owner of an open port that receives from a channel. -/
theorem ReceiversListed.status {cfg : Config} {s : State} (listed : ReceiversListed cfg s)
    {p c : Nat} (destination : DestinationOf cfg p c) (opened : Opened s p) {desc : XmU32}
    (id : objDescGetId desc = p)
    (owner : objDescGetPartitionId desc = (s.portTab p).partitionId) (now : Int)
    : ∃ status valid, getSPortStatus cfg (s.portTab p).partitionId desc now s
        = .ok (.ok, some status)
      ∧ status.flags = (s.portTab p).flags.status
        ||| (if valid = true then XM_COMM_MSG_VALID else 0) := by
  obtain ⟨inside, ⟨maxLength, period, n, configured⟩, receivers, found, -⟩ :=
    listed.listed p c destination opened
  have own : OwnPort cfg s (s.portTab p).partitionId p .sampling :=
    { configured := listed.configured p opened
      owner := rfl
      opened := opened
      type_eq := destination.type_eq }
  cases stored : s.channelTab c with
  | queuing channel =>
      rw [stored] at found
      cases found
  | sampling channel =>
      let valid := channel.timestamp ≠ 0 && msgValid period channel.timestamp now
      refine
        ⟨{ timestamp := channel.timestamp
           lastMsgSize := channel.length
           flags := (s.portTab p).flags.status ||| (if valid then XM_COMM_MSG_VALID else 0) },
          valid, ?_, rfl⟩
      simp only [getSPortStatus, owner, ne_eq, not_true_eq_false, if_false, id,
        onOwnPort_own own, withChannel, destination.linked, inside, if_true, stored, configured]
      rfl

/-- The port a call reads or writes a message through. -/
def Event.samplingPort? : Event → Option Nat
  | .call made _ =>
      match made.op with
      | .readSamplingPort desc _ _ _ => some (objDescGetId desc)
      | .writeSamplingPort desc _ _ => some (objDescGetId desc)
      | _ => none
  | _ => none

/-- A read or a write leaves the flags of the ports of other channels alone. -/
theorem Truthful.other_channels {cfg : Config} {past : List Event} {s s' : State}
    {event : Event} (truthful : Truthful cfg past s) (deliverable : Deliverable cfg s event)
    (next : Next cfg s event s') {p q : Nat} (transfer : event.samplingPort? = some p)
    (other : (cfg.xmcCommPorts q).channelId ≠ (cfg.xmcCommPorts p).channelId)
    : (s'.portTab q).flags = (s.portTab q).flags := by
  have flags : FlagEffect cfg s event s' := by
    refine next.flags truthful.listed deliverable.2 deliverable.1 ?_
    rintro call reply rfl
    cases op : call.op <;> simp_all [Event.samplingPort?, Op.create?]
  refine flags.kept q ?_ ?_
  · rintro ⟨call, reply, _, _, _, _, rfl, op, rfl, -⟩
    simp only [Event.samplingPort?, op, Option.some.injEq] at transfer
    exact other (by rw [transfer])
  · rintro c destination _ ⟨call, reply, _, _, _, rfl, op, linked, -⟩
    simp only [Event.samplingPort?, op, Option.some.injEq] at transfer
    rw [transfer] at linked
    exact other (destination.linked.trans linked.symm)

/-- As long as no partition is reset and every write delivers home, the status of a sampling
port tells whether its channel holds an unread message, and transfers leave the flags of
other channels' ports alone.
-/
theorem sampling_status_truthful {cfg : Config} {start s : State} {past : List Event}
    (setup : SetupComm cfg start)
    (run : Reach (guarded (Deliverable cfg) (Next cfg)) start past s)
    : (∀ p c desc now, DestinationOf cfg p c → Opened s p → objDescGetId desc = p →
        objDescGetPartitionId desc = (s.portTab p).partitionId →
        ∃ status, getSPortStatus cfg (s.portTab p).partitionId desc now s
            = .ok (.ok, some status)
          ∧ (status.flags &&& XM_COMM_NEW_MSG ≠ 0 ↔ Unread cfg p c past)
          ∧ (status.flags &&& XM_COMM_CONSUMED_MSG ≠ 0 ↔ Consumed cfg p c past))
      ∧ ∀ event s', Deliverable cfg s event → Next cfg s event s' →
        ∀ p q, event.samplingPort? = some p →
          (cfg.xmcCommPorts q).channelId ≠ (cfg.xmcCommPorts p).channelId →
          (s'.portTab q).flags = (s.portTab q).flags := by
  have truthful : Truthful cfg past s :=
    run.preserves (P := Truthful cfg) setup.truthful fun _ _ _ _ before taken =>
      before.next taken.1 taken.2
  constructor
  · intro p c desc now destination opened id owner
    obtain ⟨status, valid, answer, bits⟩ :=
      truthful.listed.status destination opened id owner now
    obtain ⟨unread, consumed⟩ := truthful.status p c destination opened
    have apart : ¬ ((s.portTab p).flags.newMsg = true
        ∧ (s.portTab p).flags.consumedMsg = true) := by
      rw [unread, consumed]
      exact fun both => unread_not_consumed both.1 both.2
    obtain ⟨newMsg, consumedMsg⟩ := status_bits (s.portTab p).flags valid apart
    refine ⟨status, answer, ?_, ?_⟩
    · rw [bits, newMsg, unread]
    · rw [bits, consumedMsg, consumed]
  · intro event s' deliverable next p q transfer other
    exact truthful.other_channels deliverable next transfer other

/-- A channel from port 0 to port 1, whoever owns them. -/
def oneReceiver (commPortsOffset : XmU32 → Nat) (noPorts : Nat) : Config where
  noCommPorts := 2
  xmcCommPorts port :=
    { name := fun i => if i = 0 then BitVec.ofNat 8 (65 + port) else 0
      channelId := some 0
      direction := if port = 0 then .source else .destination
      type := .sampling }
  noCommChannels := 1
  xmcCommChannelTab _ := .sampling 4 XM_INFINITE_TIME 1
  partition p :=
    { commPortsOffset := commPortsOffset p
      noPorts := noPorts
      noVCpus := 1
      noPhysicalMemoryAreas := 1 }

/-- Partition 0 creates the source, `receiver` the destination, and two bytes are written. -/
def writeCalls (receiver desc : XmU32) : List Call :=
  [namedCall 0 (.createSamplingPort 0 0x1000 4 2 0xFFFFFFFF),
    namedCall receiver (.createSamplingPort desc 0x2000 4 1 0xFFFFFFFF),
    namedCall 0 (.writeSamplingPort 0 0x3000 2)]

def writeReplies : List Reply :=
  [{ ret := 0, data := [], flags := none }, { ret := 1, data := [], flags := none },
    { ret := 0, data := [], flags := none }]

/-- The history of the three calls, newest first. -/
def writeHistory (receiver desc : XmU32) : List Event :=
  (List.zipWith Event.call (writeCalls receiver desc) writeReplies).reverse

theorem writeHistory_unread (offset : XmU32 → Nat) (noPorts : Nat) (receiver desc : XmU32)
    : Unread (oneReceiver offset noPorts) 1 0 (writeHistory receiver desc) := by
  refine ⟨[], _, _, rfl, ⟨?_, ?_⟩, by simp⟩
  · exact ⟨_, _, _, _, _, rfl, rfl, rfl, by decide⟩
  · exact ⟨_, List.mem_cons_self, _, _, _, rfl, rfl, rfl⟩

/-- The replies to the three calls, and then port 1 and its status. -/
def statusAfter (cfg : Config) (receiver desc status : XmU32)
    : Except Stop ((List Reply × Port × XmRet × Option SamplingPortStatus) × State) := do
  let returned ← runCalls cfg (writeCalls receiver desc) (setupState cfg)
  let reported ← getSPortStatus cfg receiver status 5 returned.2
  pure ((returned.1, returned.2.portTab 1, reported), returned.2)

theorem statusAfter_ok {cfg : Config} {receiver desc status : XmU32} {replies : List Reply}
    {port : Port} {reported : XmRet × Option SamplingPortStatus}
    (answer : (statusAfter cfg receiver desc status).map Prod.fst
      = .ok (replies, port, reported))
    : ∃ s, runCalls cfg (writeCalls receiver desc) (setupState cfg) = .ok (replies, s)
      ∧ s.portTab 1 = port
      ∧ getSPortStatus cfg receiver status 5 s = .ok reported := by
  obtain ⟨s, answer⟩ := map_fst_eq_ok.mp answer
  obtain ⟨⟨replies', s'⟩, returned, answer⟩ := bind_eq_ok.mp answer
  obtain ⟨reported', report, answer⟩ := bind_eq_ok.mp answer
  cases answer
  exact ⟨_, returned, rfl, report⟩

theorem sampling_status_truthful_oneReceiver
    : ∃ s, Reach (guarded (Deliverable (oneReceiver (fun _ => 0) 2))
          (Next (oneReceiver (fun _ => 0) 2)))
          (setupState (oneReceiver (fun _ => 0) 2)) (writeHistory 0 0) s
      ∧ ∃ status, getSPortStatus (oneReceiver (fun _ => 0) 2) 0 1 5 s = .ok (.ok, some status)
        ∧ status.flags &&& XM_COMM_NEW_MSG ≠ 0 := by
  have answer : (statusAfter (oneReceiver (fun _ => 0) 2) 0 0 1).map Prod.fst
      = .ok (writeReplies,
        { flags := { opened := true, newMsg := true, consumedMsg := false }
          partitionId := 0 },
        .ok, some { timestamp := 5, lastMsgSize := 2, flags := 4 }) := by decide
  obtain ⟨s, returned, port, -⟩ := statusAfter_ok answer
  have deliverable : ∀ event ∈ writeHistory 0 0, ∀ t,
      Deliverable (oneReceiver (fun _ => 0) 2) t event := by
    intro event member t
    constructor
    · rintro p rfl
      simp [writeHistory, writeCalls, writeReplies] at member
    · exact fun _ _ _ _ _ _ _ _ _ _ _ _ _ _ _ => ⟨rfl, Nat.one_pos⟩
  have run := (runCalls_reach returned).guard deliverable
  obtain ⟨truthful, -⟩ := sampling_status_truthful (setupState_setup _) run
  obtain ⟨status, report, unread, -⟩ := truthful 1 0 1 5 ⟨rfl, rfl, rfl⟩
    (by rw [Opened, port]) (by decide) (by rw [port]; decide)
  refine ⟨s, run, status, ?_, unread.mpr (writeHistory_unread _ _ _ _)⟩
  rwa [port] at report

/-- With one port each, the receiver of partition 1 has an unread message and its status
says that the port is empty: the write marked port 0.
-/
theorem unread_message_unreported
    : ∃ s, Reach (Next (oneReceiver BitVec.toNat 1)) (setupState (oneReceiver BitVec.toNat 1))
        (writeHistory 1 0x400) s
      ∧ DestinationOf (oneReceiver BitVec.toNat 1) 1 0 ∧ Opened s 1
      ∧ Unread (oneReceiver BitVec.toNat 1) 1 0 (writeHistory 1 0x400)
      ∧ getSPortStatus (oneReceiver BitVec.toNat 1) 1 0x401 5 s
        = .ok (.ok, some { timestamp := 5, lastMsgSize := 2, flags := 0 }) := by
  have answer : (statusAfter (oneReceiver BitVec.toNat 1) 1 0x400 0x401).map Prod.fst
      = .ok (writeReplies,
        { flags := { opened := true, newMsg := false, consumedMsg := false }
          partitionId := 1 },
        .ok, some { timestamp := 5, lastMsgSize := 2, flags := 0 }) := by decide
  obtain ⟨s, returned, port, report⟩ := statusAfter_ok answer
  refine ⟨s, runCalls_reach returned, ⟨rfl, rfl, rfl⟩, ?_, writeHistory_unread _ _ _ _, report⟩
  rw [Opened, port]

end XtratuM.Objects
