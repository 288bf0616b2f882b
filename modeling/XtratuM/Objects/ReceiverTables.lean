import XtratuM.Objects.PortOwnership

/-! The receiver tables of the sampling channels list the open ports that receive from them,
by the number each has in its partition.
-/

namespace XtratuM.Objects

open XtratuM.Guest

-----------------------------------------------------------------------------------------
-- Registered receivers

/-- A sampling port that receives from channel `c`. -/
structure DestinationOf (cfg : Config) (p c : Nat) : Prop where
  type_eq : (cfg.xmcCommPorts p).type = .sampling
  direction_eq : (cfg.xmcCommPorts p).direction = .destination
  linked : (cfg.xmcCommPorts p).channelId = some c

/-- The receivers registered in a sampling channel. -/
structure Receivers where
  noReceivers : Nat
  receiverTab : Nat → Option XmU32
  receiverPortTab : Nat → Nat

def Channel.receivers? : Channel → Option Receivers
  | .sampling channel =>
      some
        { noReceivers := channel.noReceivers
          receiverTab := channel.receiverTab
          receiverPortTab := channel.receiverPortTab }
  | .queuing _ => none

def Opened (s : State) (p : Nat) : Prop :=
  (s.portTab p).flags.opened = true

/-- Entry `e` is of the port `p`, by its number in the receiver's partition. -/
def Receivers.Leads (cfg : Config) (receivers : Receivers) (e p : Nat) : Prop :=
  ∃ receiver, receivers.receiverTab e = some receiver
    ∧ receivers.receiverPortTab e + (cfg.partition receiver).commPortsOffset = p

/-- Nobody is registered in a channel that was just set up. -/
theorem setupChannel_receivers {configured : XmcCommChannel} {channel : Channel}
    {receivers : Receivers} (setup : setupChannel configured = .ok channel)
    (found : channel.receivers? = some receivers)
    : receivers.noReceivers = 0 := by
  cases configured with
  | sampling =>
      cases setup
      cases found
      rfl
  | queuing =>
      obtain ⟨lists, -, built⟩ := bind_eq_ok.mp setup
      cases built
      cases found

/-- The receiver tables list exactly the open ports that receive from the channels. -/
structure ReceiversListed (cfg : Config) (s : State) : Prop where
  configured : ∀ p, Opened s p → p < cfg.noCommPorts
  listed : ∀ p c, DestinationOf cfg p c → Opened s p →
    c < cfg.noCommChannels
      ∧ (∃ maxLength period noReceivers,
        cfg.xmcCommChannelTab c = .sampling maxLength period noReceivers)
      ∧ ∃ receivers, (s.channelTab c).receivers? = some receivers
        ∧ ∃ e < receivers.noReceivers, receivers.Leads cfg e p
  entries : ∀ c receivers, c < cfg.noCommChannels →
    (s.channelTab c).receivers? = some receivers → ∀ e < receivers.noReceivers,
      ∃ p, receivers.Leads cfg e p ∧ DestinationOf cfg p c ∧ Opened s p

theorem ReceiversListed.congr {cfg : Config} {s s' : State} (listed : ReceiversListed cfg s)
    (ports : ∀ p, Opened s' p ↔ Opened s p)
    (channels : ∀ c, (s'.channelTab c).receivers? = (s.channelTab c).receivers?)
    : ReceiversListed cfg s' where
  configured p opened := listed.configured p ((ports p).mp opened)
  listed p c destination opened := by
    rw [channels c]
    exact listed.listed p c destination ((ports p).mp opened)
  entries c receivers channel found e inside := by
    rw [channels c] at found
    obtain ⟨p, leads, destination, opened⟩ := listed.entries c receivers channel found e inside
    exact ⟨p, leads, destination, (ports p).mpr opened⟩

-----------------------------------------------------------------------------------------
-- Transfers

/-- A channel without what it carries: who is registered at its ends. -/
def Channel.ends : Channel → Channel
  | .sampling channel =>
      .sampling { channel with buffer := fun _ => 0, length := 0, timestamp := 0 }
  | .queuing channel =>
      .queuing
        { channel with
          lists := emptyLists, buffer := fun _ _ => 0, length := fun _ => 0, usedMsgs := 0 }

theorem Channel.ends_receivers (channel : Channel)
    : channel.ends.receivers? = channel.receivers? := by
  cases channel <;> rfl

/-- Overwriting a channel by one with the same ends. -/
theorem setChannel_ends {s : State} {c : Nat} {value : Channel}
    (same : value.ends = (s.channelTab c).ends) (q : Nat)
    : ((s.setChannel c value).channelTab q).ends = (s.channelTab q).ends := by
  by_cases here : q = c
  · subst here
    simpa [State.setChannel] using same
  · simp [State.setChannel, here]

/-- Overwriting a channel by one with the same receivers. -/
theorem setChannel_receivers {s : State} {c : Nat} {value : Channel}
    (same : value.receivers? = (s.channelTab c).receivers?) (q : Nat)
    : ((s.setChannel c value).channelTab q).receivers? = (s.channelTab q).receivers? := by
  by_cases here : q = c
  · subst here
    simpa [State.setChannel] using same
  · simp [State.setChannel, here]

theorem enqueue_ends {channel queued : QueuingChannel} {space : AddressSpace} {msgPtr : XmU32}
    {size : Nat} (enqueued : channel.enqueue space msgPtr size = .ok queued)
    : (Channel.queuing queued).ends = (Channel.queuing channel).ends := by
  obtain ⟨taken, -, enqueued⟩ := bind_eq_ok.mp enqueued
  split at enqueued
  · cases enqueued
  · obtain ⟨lists, -, enqueued⟩ := bind_eq_ok.mp enqueued
    cases enqueued
    rfl

theorem dequeue_ends {channel left : QueuingChannel} {size : Nat} {data : List (BitVec 8)}
    (dequeued : channel.dequeue size = .ok (data, left))
    : (Channel.queuing left).ends = (Channel.queuing channel).ends := by
  obtain ⟨taken, -, dequeued⟩ := bind_eq_ok.mp dequeued
  split at dequeued
  · cases dequeued
  · obtain ⟨lists, -, dequeued⟩ := bind_eq_ok.mp dequeued
    cases dequeued
    rfl

/-- Transfers register nobody. -/
theorem run_ends {cfg : Config} {s s' : State} {call : Call} {reply : Reply}
    (transfers : call.op.create? = none) (returned : call.run cfg s = .ok (reply, s')) (q : Nat)
    : (s'.channelTab q).ends = (s.channelTab q).ends := by
  obtain ⟨caller, vCpu, space, now, op⟩ := call
  cases op with
  | createSamplingPort | createQueuingPort => cases transfers
  | readSamplingPort desc msgPtr msgSize flags =>
      rcases (readSamplingPort_cases returned).same_or_acted with rfl | ⟨c, -, -, returned⟩
      · rfl
      · rw [(readSampling_effect returned).tables.channelTab]
        rfl
  | writeSamplingPort desc msgPtr msgSize =>
      rcases (writeSamplingPort_cases returned).same_or_acted with rfl | ⟨c, -, -, returned⟩
      · rfl
      · obtain ⟨channel, effect⟩ := writeSampling_effect returned
        rw [effect.channelTab]
        refine setChannel_ends ?_ q
        rw [effect.sampling]
        rfl
  | sendQueuingPort desc msgPtr msgSize =>
      rcases (sendQueuingPort_cases returned).same_or_acted with rfl | ⟨c, -, -, returned⟩
      · rfl
      · obtain ⟨channel, _, _, queuing, -, effect⟩ := sendQueuing_effect returned
        cases effect with
        | full => rfl
        | queued queued _ enqueued tables =>
            rw [tables.channelTab]
            refine setChannel_ends ?_ q
            rw [queuing, enqueue_ends enqueued]
  | receiveQueuingPort desc msgPtr msgSize =>
      rcases (receiveQueuingPort_cases returned).same_or_acted with rfl | ⟨c, -, -, returned⟩
      · rfl
      · obtain ⟨channel, queuing, effect⟩ := receiveQueuing_effect returned
        cases effect with
        | empty => rfl
        | taken left _ dequeued tables =>
            rw [tables.channelTab]
            refine setChannel_ends ?_ q
            rw [queuing, dequeue_ends dequeued]

theorem run_receivers {cfg : Config} {s s' : State} {call : Call} {reply : Reply}
    (transfers : call.op.create? = none) (returned : call.run cfg s = .ok (reply, s')) (q : Nat)
    : (s'.channelTab q).receivers? = (s.channelTab q).receivers? := by
  have same := congrArg Channel.receivers? (run_ends transfers returned q)
  simpa only [Channel.ends_receivers] using same

-----------------------------------------------------------------------------------------
-- Create calls

theorem QueuingRegistered.receivers {cfg : Config} {caller : XmU32} {port : Nat}
    {direction : Direction} {s t : State}
    (registered : QueuingRegistered cfg caller port direction s t) (q : Nat)
    : (t.channelTab q).receivers? = (s.channelTab q).receivers? := by
  rcases registered with ⟨-, rfl⟩ | ⟨c, -, -, register⟩
  · rfl
  · obtain ⟨channel, channel', queuing, rfl, -⟩ := registerQueuing_effect register
    refine setChannel_receivers ?_ q
    rw [queuing]
    rfl

/-- The receivers of a channel with one more. -/
def Receivers.add (receivers : Receivers) (receiver : XmU32) (receiverPort : Nat)
    : Receivers where
  noReceivers := receivers.noReceivers + 1
  receiverTab := Function.update receivers.receiverTab receivers.noReceivers receiver
  receiverPortTab :=
    Function.update receivers.receiverPortTab receivers.noReceivers receiverPort

theorem Receivers.add_leads_old {cfg : Config} {receivers : Receivers} {receiver : XmU32}
    {receiverPort e p : Nat} (old : e < receivers.noReceivers)
    : (receivers.add receiver receiverPort).Leads cfg e p ↔ receivers.Leads cfg e p := by
  have other : e ≠ receivers.noReceivers := by omega
  simp [Receivers.Leads, Receivers.add, other]

theorem Receivers.add_leads_new {cfg : Config} {receivers : Receivers} {receiver : XmU32}
    {receiverPort p : Nat}
    : (receivers.add receiver receiverPort).Leads cfg receivers.noReceivers p
      ↔ receiverPort + (cfg.partition receiver).commPortsOffset = p := by
  simp [Receivers.Leads, Receivers.add]

/-- Registering the endpoint of a sampling port adds a receiver for a destination that has a
channel, and nothing otherwise.
-/
theorem SamplingRegistered.receivers {cfg : Config} {caller : XmU32} {port : Nat}
    {direction : Direction} {s t : State}
    (registered : SamplingRegistered cfg caller port direction s t)
    : ((∀ q, (t.channelTab q).receivers? = (s.channelTab q).receivers?)
        ∧ (direction = .destination → (cfg.xmcCommPorts port).channelId = none))
      ∨ ∃ c receivers, direction = .destination
        ∧ (cfg.xmcCommPorts port).channelId = some c ∧ c < cfg.noCommChannels
        ∧ (∃ maxLength period noReceivers,
          cfg.xmcCommChannelTab c = .sampling maxLength period noReceivers)
        ∧ (s.channelTab c).receivers? = some receivers
        ∧ ∀ q, (t.channelTab q).receivers?
          = if q = c then
              some (receivers.add caller (port - (cfg.partition caller).commPortsOffset))
            else (s.channelTab q).receivers? := by
  rcases registered with ⟨unlinked, rfl⟩ | ⟨c, linked, inside, maxLength, period, noReceivers,
    configured, register⟩
  · exact Or.inl ⟨fun _ => rfl, fun _ => unlinked⟩
  · obtain ⟨channel, channel', sampling, rfl, stored⟩ := registerSampling_effect register
    cases direction with
    | source =>
        refine Or.inl ⟨fun q => ?_, fun destination => by cases destination⟩
        refine setChannel_receivers ?_ q
        rw [sampling, stored]
        rfl
    | destination =>
        refine Or.inr ⟨c, _, rfl, linked, inside, ⟨maxLength, period, noReceivers, configured⟩,
          by rw [sampling]; rfl, ?_⟩
        intro q
        by_cases here : q = c
        · subst here
          simp only [State.setChannel, Function.update_self, stored, if_true]
          rfl
        · simp [State.setChannel, here]

/-- Opening a port adds it to the open ones. -/
theorem openPort_opened {s t : State} (port : Nat) (caller : XmU32)
    (same : t.portTab = s.portTab) (p : Nat)
    : Opened (t.openPort port caller) p ↔ p = port ∨ Opened s p := by
  by_cases here : p = port
  · subst here
    simp [Opened, State.openPort, State.setPort]
  · simp [Opened, State.openPort, State.setPort, here, same]

theorem found_above (cfg : Config) (call : Call) (args : CreateArgs)
    : (cfg.partition call.caller).commPortsOffset ≤ call.found cfg args := by
  rcases lookupPort_cases cfg (bytesFrom call.space args.portName)
      (cfg.partition call.caller).noPorts (cfg.partition call.caller).commPortsOffset
    with ⟨above, -, -⟩ | ⟨past, -⟩
  · exact above
  · simp only [Call.found, past]
    omega

/-- Opening a port that receives from no channel. -/
theorem ReceiversListed.open_other {cfg : Config} {s t : State} {port : Nat} {caller : XmU32}
    (listed : ReceiversListed cfg s) (ports : t.portTab = s.portTab)
    (inside : port < cfg.noCommPorts) (foreign : ∀ c, ¬ DestinationOf cfg port c)
    (channels : ∀ q, (t.channelTab q).receivers? = (s.channelTab q).receivers?)
    : ReceiversListed cfg (t.openPort port caller) := by
  have opened := openPort_opened port caller ports
  refine { configured := ?_, listed := ?_, entries := ?_ }
  · intro p here
    rcases (opened p).mp here with rfl | before
    · exact inside
    · exact listed.configured p before
  · intro p c destination here
    rcases (opened p).mp here with rfl | before
    · exact absurd destination (foreign c)
    · simpa only [State.openPort, State.setPort, channels c]
        using listed.listed p c destination before
  · intro c receivers channel found e below
    simp only [State.openPort, State.setPort, channels c] at found
    obtain ⟨p, leads, destination, before⟩ := listed.entries c receivers channel found e below
    exact ⟨p, leads, destination, (opened p).mpr (Or.inr before)⟩

/-- Opening a port that receives from a channel, with its entry added to the channel. -/
theorem ReceiversListed.open_destination {cfg : Config} {s t : State} {port c : Nat}
    {caller : XmU32} {receivers : Receivers} (listed : ReceiversListed cfg s)
    (ports : t.portTab = s.portTab) (inside : port < cfg.noCommPorts)
    (above : (cfg.partition caller).commPortsOffset ≤ port)
    (destination : DestinationOf cfg port c) (channel : c < cfg.noCommChannels)
    (sampling : ∃ maxLength period noReceivers,
      cfg.xmcCommChannelTab c = .sampling maxLength period noReceivers)
    (found : (s.channelTab c).receivers? = some receivers)
    (channels : ∀ q, (t.channelTab q).receivers?
      = if q = c then
          some (receivers.add caller (port - (cfg.partition caller).commPortsOffset))
        else (s.channelTab q).receivers?)
    : ReceiversListed cfg (t.openPort port caller) := by
  have opened := openPort_opened port caller ports
  have here : (receivers.add caller (port - (cfg.partition caller).commPortsOffset)).Leads cfg
      receivers.noReceivers port :=
    Receivers.add_leads_new.mpr (by omega)
  refine { configured := ?_, listed := ?_, entries := ?_ }
  · intro p isOpen
    rcases (opened p).mp isOpen with rfl | before
    · exact inside
    · exact listed.configured p before
  · intro p c' destination' isOpen
    simp only [State.openPort, State.setPort, channels c']
    rcases (opened p).mp isOpen with rfl | before
    · cases destination.linked.symm.trans destination'.linked
      refine ⟨channel, sampling, _, if_pos rfl, receivers.noReceivers, ?_, here⟩
      simp [Receivers.add]
    · obtain ⟨channel', sampling', receivers', found', e, below, leads⟩ :=
        listed.listed p c' destination' before
      refine ⟨channel', sampling', ?_⟩
      by_cases same : c' = c
      · subst same
        cases found.symm.trans found'
        refine ⟨_, if_pos rfl, e, ?_, (Receivers.add_leads_old below).mpr leads⟩
        simp only [Receivers.add]
        omega
      · exact ⟨receivers', by rw [if_neg same]; exact found', e, below, leads⟩
  · intro c' receivers' channel' found' e below
    simp only [State.openPort, State.setPort, channels c'] at found'
    by_cases same : c' = c
    · subst same
      rw [if_pos rfl] at found'
      cases found'
      by_cases new : e = receivers.noReceivers
      · subst new
        exact ⟨port, here, destination, (opened port).mpr (Or.inl rfl)⟩
      · have old : e < receivers.noReceivers := by
          simp only [Receivers.add] at below
          omega
        obtain ⟨p, leads, destination', before⟩ :=
          listed.entries c' receivers channel found e old
        exact ⟨p, (Receivers.add_leads_old old).mpr leads, destination',
          (opened p).mpr (Or.inr before)⟩
    · rw [if_neg same] at found'
      obtain ⟨p, leads, destination', before⟩ :=
        listed.entries c' receivers' channel' found' e below
      exact ⟨p, leads, destination', (opened p).mpr (Or.inr before)⟩

/-- A create call keeps the receiver tables and the open ports in step. -/
theorem CreateEffect.receiversListed {cfg : Config} {s s' : State} {call : Call}
    {args : CreateArgs} {ret : Int} (effect : CreateEffect cfg s call args ret s')
    (listed : ReceiversListed cfg s)
    : ReceiversListed cfg s' := by
  cases effect with
  | refused unfit negative kept =>
      rcases kept with rfl | ⟨side, registered⟩
      · exact listed
      · refine listed.congr (fun p => ?_) registered.receivers
        rw [Opened, registered.endpoint.portTab, Opened]
  | @opened t side fit endpoint =>
      have ports := endpoint.portTab
      have inside := fit.openable.configured
      cases type : args.type with
      | queuing =>
          rw [type] at endpoint
          refine listed.open_other ports inside ?_ (QueuingRegistered.receivers endpoint)
          intro c destination
          have other := fit.openable.type_eq
          simp [type, destination.type_eq] at other
      | sampling =>
          rw [type] at endpoint
          rcases SamplingRegistered.receivers endpoint with ⟨channels, unlinked⟩ | ⟨c, receivers,
            side_eq, linked, channel, sampling, found, channels⟩
          · refine listed.open_other ports inside ?_ channels
            intro c destination
            have side_eq := fit.openable.direction_eq
            rw [destination.direction_eq] at side_eq
            have none := unlinked side_eq
            simp [destination.linked] at none
          · have destination : DestinationOf cfg (call.found cfg args) c :=
              { type_eq := by rw [fit.openable.type_eq, type]
                direction_eq := by rw [← fit.openable.direction_eq, side_eq]
                linked := linked }
            exact listed.open_destination ports inside (found_above cfg call args) destination
              channel sampling found channels

/-- Everything but the reset of a partition, which closes ports that stay registered. -/
def NoReset (event : Event) : Prop :=
  ∀ partitionId, event ≠ .reset partitionId

theorem Next.receiversListed {cfg : Config} {s s' : State} {event : Event}
    (next : Next cfg s event s') (noReset : NoReset event) (listed : ReceiversListed cfg s)
    : ReceiversListed cfg s' := by
  cases next with
  | @reset partitionId => exact absurd rfl (noReset partitionId)
  | elsewhere => exact listed.congr (fun _ => Iff.rfl) fun _ => rfl
  | @call _ call reply returned =>
      cases creates : call.op.create? with
      | some args => exact (run_create creates returned).receiversListed listed
      | none =>
          refine listed.congr (fun p => ?_) (run_receivers creates returned)
          rw [Opened, (run_transfer creates returned p).opened, Opened]

end XtratuM.Objects
