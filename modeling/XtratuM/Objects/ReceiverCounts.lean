import Mathlib.Data.Finset.Card
import XtratuM.Objects.MessagePool
import XtratuM.Objects.ReceiverTables

/-! The receiver tables have room for every destination port of the configuration, as long
as each is registered once. A reset closes the ports of a partition and leaves them
registered, so opening one of them again is what overfills a table.
-/

namespace XtratuM.Objects

open XtratuM.Guest
open Reachability

-----------------------------------------------------------------------------------------
-- Tables with one entry for a port

instance (cfg : Config) (p c : Nat) : Decidable (DestinationOf cfg p c) :=
  decidable_of_iff
    ((cfg.xmcCommPorts p).type = .sampling ∧ (cfg.xmcCommPorts p).direction = .destination
      ∧ (cfg.xmcCommPorts p).channelId = some c)
    ⟨fun parts => ⟨parts.1, parts.2.1, parts.2.2⟩,
      fun destination => ⟨destination.type_eq, destination.direction_eq, destination.linked⟩⟩

/-- The destination ports linked to a channel. -/
def destinations (cfg : Config) (c : Nat) : Finset Nat :=
  (Finset.range cfg.noCommPorts).filter fun p => DestinationOf cfg p c

/-- `LinkChannels2Ports` links ports to channels of the table, and counts the destinations of
every sampling channel.
-/
structure LinkChannels2Ports (cfg : Config) : Prop where
  inside : ∀ p c, p < cfg.noCommPorts → (cfg.xmcCommPorts p).channelId = some c →
    c < cfg.noCommChannels
  counted : ∀ c maxLength period noReceivers, c < cfg.noCommChannels →
    cfg.xmcCommChannelTab c = .sampling maxLength period noReceivers →
    noReceivers = (destinations cfg c).card

/-- The entries of a table are of destination ports, each of another one. -/
structure Receivers.Distinct (cfg : Config) (c : Nat) (receivers : Receivers) : Prop where
  entries : ∀ e < receivers.noReceivers, ∃ p ∈ destinations cfg c, receivers.Leads cfg e p
  once : ∀ e < receivers.noReceivers, ∀ e' < receivers.noReceivers, ∀ p,
    receivers.Leads cfg e p → receivers.Leads cfg e' p → e = e'

theorem Receivers.Leads.unique {cfg : Config} {receivers : Receivers} {e p q : Nat}
    (leads : receivers.Leads cfg e p) (other : receivers.Leads cfg e q)
    : p = q := by
  obtain ⟨receiver, entry, rfl⟩ := leads
  obtain ⟨receiver', entry', rfl⟩ := other
  cases entry.symm.trans entry'
  rfl

/-- There are no more entries than destination ports: the port of an entry tells the entry. -/
theorem Receivers.Distinct.length_le {cfg : Config} {c : Nat} {receivers : Receivers}
    (distinct : receivers.Distinct cfg c)
    : receivers.noReceivers ≤ (destinations cfg c).card := by
  have port : ∀ e, ∃ p, e < receivers.noReceivers →
      p ∈ destinations cfg c ∧ receivers.Leads cfg e p := by
    intro e
    by_cases inside : e < receivers.noReceivers
    · obtain ⟨p, destination, leads⟩ := distinct.entries e inside
      exact ⟨p, fun _ => ⟨destination, leads⟩⟩
    · exact ⟨0, fun h => absurd h inside⟩
  choose portOf leads using port
  have injective : Set.InjOn portOf (Finset.range receivers.noReceivers) := by
    intro e inside e' inside' same
    have inside := Finset.mem_range.mp inside
    have inside' := Finset.mem_range.mp inside'
    have leads' := (leads e' inside').2
    rw [← same] at leads'
    exact distinct.once e inside e' inside' _ (leads e inside).2 leads'
  have bound := Finset.card_le_card_of_injOn (s := Finset.range receivers.noReceivers) portOf
    (fun e inside => (leads e (Finset.mem_range.mp inside)).1) injective
  simpa using bound

/-- One more entry, for a destination port that had none. -/
theorem Receivers.Distinct.add {cfg : Config} {c port : Nat} {receivers : Receivers}
    {caller : XmU32} (distinct : receivers.Distinct cfg c)
    (destination : port ∈ destinations cfg c)
    (above : (cfg.partition caller).commPortsOffset ≤ port)
    (fresh : ∀ e < receivers.noReceivers, ¬ receivers.Leads cfg e port)
    : (receivers.add caller (port - (cfg.partition caller).commPortsOffset)).Distinct cfg c := by
  let added := receivers.add caller (port - (cfg.partition caller).commPortsOffset)
  have here : added.Leads cfg receivers.noReceivers port := by
    apply Receivers.add_leads_new.mpr
    omega
  have split : ∀ e < added.noReceivers, e < receivers.noReceivers ∨ e = receivers.noReceivers := by
    intro e inside
    have size : added.noReceivers = receivers.noReceivers + 1 := rfl
    omega
  have old : ∀ {e p}, e < receivers.noReceivers →
      (added.Leads cfg e p ↔ receivers.Leads cfg e p) :=
    fun inside => Receivers.add_leads_old inside
  constructor
  · intro e inside
    rcases split e inside with before | rfl
    · obtain ⟨p, member, leads⟩ := distinct.entries e before
      exact ⟨p, member, (old before).mpr leads⟩
    · exact ⟨port, destination, here⟩
  · intro e inside e' inside' p leads leads'
    rcases split e inside with before | rfl
    · rcases split e' inside' with before' | rfl
      · exact distinct.once e before e' before' p ((old before).mp leads) ((old before').mp leads')
      · cases leads'.unique here
        exact absurd ((old before).mp leads) (fresh e before)
    · rcases split e' inside' with before' | rfl
      · cases leads.unique here
        exact absurd ((old before').mp leads') (fresh e' before')
      · rfl

/-- Every channel's table lists its destination ports at most once. -/
def ReceiversDistinct (cfg : Config) (s : State) : Prop :=
  ∀ c receivers, c < cfg.noCommChannels → (s.channelTab c).receivers? = some receivers →
    receivers.Distinct cfg c

theorem ReceiversDistinct.congr {cfg : Config} {s s' : State} (distinct : ReceiversDistinct cfg s)
    (same : ∀ c, (s'.channelTab c).receivers? = (s.channelTab c).receivers?)
    : ReceiversDistinct cfg s' := by
  intro c receivers inside found
  rw [same c] at found
  exact distinct c receivers inside found

-----------------------------------------------------------------------------------------
-- Create calls

/-- The call opens a destination port of sampling channel `c`, which has that receiver table. -/
structure Registers (cfg : Config) (s : State) (call : Call) (args : CreateArgs) (c : Nat)
    (channel : SamplingChannel) : Prop where
  creates : call.op.create? = some args
  type_eq : args.type = .sampling
  fit : Permits cfg s call args (call.found cfg args) .destination
  linked : (cfg.xmcCommPorts (call.found cfg args)).channelId = some c
  sampling : s.channelTab c = .sampling channel

/-- The call opens a destination port that its channel already lists. -/
def RegistersAgain (cfg : Config) (s : State) (call : Call) : Prop :=
  ∃ args c channel receivers, Registers cfg s call args c channel
    ∧ (s.channelTab c).receivers? = some receivers
    ∧ ∃ e < receivers.noReceivers, receivers.Leads cfg e (call.found cfg args)

/-- No call registers a port again. -/
def RegistersOnce (cfg : Config) (s : State) (event : Event) : Prop :=
  ∀ call reply, event = .call call reply → ¬ RegistersAgain cfg s call

theorem Registers.destination {cfg : Config} {s : State} {call : Call} {args : CreateArgs}
    {c : Nat} {channel : SamplingChannel} (registers : Registers cfg s call args c channel)
    : call.found cfg args ∈ destinations cfg c := by
  have openable := registers.fit.openable
  refine Finset.mem_filter.mpr ⟨Finset.mem_range.mpr openable.configured, ?_⟩
  exact
    { type_eq := by rw [openable.type_eq, registers.type_eq]
      direction_eq := openable.direction_eq.symm
      linked := registers.linked }

/-- A registered table is the one before it with the port added. -/
theorem SamplingRegistered.distinct {cfg : Config} {s t : State} {call : Call}
    {args : CreateArgs} {side : Direction} (creates : call.op.create? = some args)
    (type : args.type = .sampling)
    (fit : Permits cfg s call args (call.found cfg args) side)
    (registered : SamplingRegistered cfg call.caller (call.found cfg args) side s t)
    (distinct : ReceiversDistinct cfg s) (fresh : ¬ RegistersAgain cfg s call)
    : ReceiversDistinct cfg t := by
  rcases registered.receivers with ⟨same, -⟩ | ⟨c, receivers, rfl, linked, inside, -, found,
    channels⟩
  · exact distinct.congr same
  · obtain ⟨channel, sampling⟩ : ∃ channel, s.channelTab c = .sampling channel := by
      cases stored : s.channelTab c with
      | sampling channel => exact ⟨channel, rfl⟩
      | queuing channel =>
          rw [stored] at found
          cases found
    have registers : Registers cfg s call args c channel :=
      ⟨creates, type, fit, linked, sampling⟩
    intro q receivers' inside' found'
    rw [channels q] at found'
    by_cases here : q = c
    · subst here
      rw [if_pos rfl] at found'
      cases found'
      refine (distinct q receivers inside found).add registers.destination
        (found_above cfg call args) ?_
      intro e below leads
      exact fresh ⟨args, q, channel, receivers, registers, found, e, below, leads⟩
    · rw [if_neg here] at found'
      exact distinct q receivers' inside' found'

theorem openPort_receivers (s : State) (port : Nat) (caller : XmU32) (q : Nat)
    : ((s.openPort port caller).channelTab q).receivers? = (s.channelTab q).receivers? :=
  rfl

theorem CreateEffect.distinct {cfg : Config} {s s' : State} {call : Call} {args : CreateArgs}
    {ret : Int} (effect : CreateEffect cfg s call args ret s')
    (creates : call.op.create? = some args) (distinct : ReceiversDistinct cfg s)
    (fresh : ¬ RegistersAgain cfg s call)
    : ReceiversDistinct cfg s' := by
  cases effect with
  | refused unfit negative kept =>
      rcases kept with rfl | ⟨side, registered⟩
      · exact distinct
      · exact distinct.congr registered.receivers
  | @opened t side fit endpoint =>
      have registered : ReceiversDistinct cfg t := by
        cases type : args.type with
        | sampling =>
            rw [type] at endpoint
            exact SamplingRegistered.distinct creates type fit endpoint distinct fresh
        | queuing =>
            rw [type] at endpoint
            exact distinct.congr (QueuingRegistered.receivers endpoint)
      exact registered.congr (openPort_receivers t _ _)

theorem Next.distinct {cfg : Config} {s s' : State} {event : Event} (next : Next cfg s event s')
    (fresh : RegistersOnce cfg s event) (distinct : ReceiversDistinct cfg s)
    : ReceiversDistinct cfg s' := by
  cases next with
  | reset => exact distinct.congr fun _ => rfl
  | elsewhere => exact distinct.congr fun _ => rfl
  | @call _ call reply returned =>
      cases creates : call.op.create? with
      | none => exact distinct.congr (run_receivers creates returned)
      | some args =>
          exact (run_create creates returned).distinct creates distinct (fresh call reply rfl)

/-- Nobody is registered at first. -/
theorem SetupComm.noReceivers {cfg : Config} {s : State} (setup : SetupComm cfg s) {c : Nat}
    {receivers : Receivers} (inside : c < cfg.noCommChannels)
    (found : (s.channelTab c).receivers? = some receivers)
    : receivers.noReceivers = 0 :=
  setupChannel_receivers (setup.channels c inside) found

theorem SetupComm.distinct {cfg : Config} {s : State} (setup : SetupComm cfg s)
    : ReceiversDistinct cfg s := by
  intro c receivers inside found
  have empty := setup.noReceivers inside found
  constructor
  · intro e below
    omega
  · intro e below
    omega

theorem SetupComm.registersOnce {cfg : Config} {s : State} (setup : SetupComm cfg s)
    (links : LinkChannels2Ports cfg) (call : Call)
    : ¬ RegistersAgain cfg s call := by
  rintro ⟨args, c, channel, receivers, registers, found, e, below, -⟩
  have inside := links.inside _ c registers.fit.openable.configured registers.linked
  have empty := setup.noReceivers inside found
  omega

-----------------------------------------------------------------------------------------
-- The assertion before the table is written

/-- A sampling port whose creation fails an assertion is an openable destination whose channel
has no room left.
-/
theorem openSamplingPort_assertion {cfg : Config} {caller : XmU32} {port : Nat}
    {maxMsgSize : XmU32} {direction : Direction} {validPeriod : Int} {s : State}
    (links : LinkChannels2Ports cfg)
    (stops : openSamplingPort cfg caller port maxMsgSize direction validPeriod s
      = .error .assertion)
    : direction = .destination
      ∧ Openable cfg s port .sampling direction (SamplingLimits maxMsgSize validPeriod)
      ∧ ∃ c channel maxLength period noReceivers,
        (cfg.xmcCommPorts port).channelId = some c ∧ c < cfg.noCommChannels
        ∧ s.channelTab c = .sampling channel
        ∧ cfg.xmcCommChannelTab c = .sampling maxLength period noReceivers
        ∧ noReceivers ≤ channel.noReceivers := by
  rcases onClosedPort_result stops with ⟨ret, returned, -⟩ | ⟨stops, fit⟩
  · cases returned
  · split at stops
    · cases stops
    · next c linked =>
        have inside : c < cfg.noCommChannels := by
          have anyway := fit (fun _ => True) fun _ _ => trivial
          exact links.inside port c anyway.configured linked
        rw [assert_of inside, ok_bind] at stops
        split at stops
        · cases stops
        · next maxLength period noReceivers configured =>
            split at stops
            · cases stops
            · next size =>
                split at stops
                · cases stops
                · next same =>
                    have openable : Openable cfg s port .sampling direction
                        (SamplingLimits maxMsgSize validPeriod) := by
                      refine fit _ fun c' linked' => ?_
                      cases linked.symm.trans linked'
                      rw [configured]
                      exact ⟨period, noReceivers, by simp_all, by simpa using same⟩
                    rcases bind_eq_error.mp stops with stops | ⟨t, -, stops⟩
                    · unfold registerSampling at stops
                      split at stops
                      · cases stops
                      · next channel sampling =>
                          cases direction with
                          | source => cases stops
                          | destination =>
                              refine ⟨rfl, openable, c, channel, maxLength, period,
                                noReceivers, linked, inside, sampling, configured, ?_⟩
                              by_contra room
                              rw [assert_of (by omega)] at stops
                              cases stops
                    · cases stops

theorem createPort_assertion {cfg : Config} {space : AddressSpace}
    {caller desc portName direction : XmU32} {s : State}
    {opened : Nat → Direction → Except Stop (Int × State)}
    (stops : createPort cfg space caller desc portName direction s opened = .error .assertion)
    : ∃ side, objDescGetPartitionId desc = caller ∧ Accepts space portName 16 nameFlags
        ∧ Direction.ofCode direction = some side
        ∧ opened (lookupPort cfg (bytesFrom space portName) (cfg.partition caller).noPorts
          (cfg.partition caller).commPortsOffset) side = .error .assertion := by
  unfold createPort at stops
  split at stops
  · cases stops
  · next permitted =>
      obtain ⟨readable, stops⟩ := ifChecked_stops stops
      split at stops
      · cases stops
      · next side valid => exact ⟨side, by simpa using permitted, readable, valid, stops⟩

theorem run_assertion {cfg : Config} {s : State} {call : Call} {args : CreateArgs}
    (links : LinkChannels2Ports cfg) (creates : call.op.create? = some args)
    (type : args.type = .sampling) (stops : call.run cfg s = .error .assertion)
    : ∃ c channel maxLength period noReceivers, Registers cfg s call args c channel
      ∧ c < cfg.noCommChannels
      ∧ cfg.xmcCommChannelTab c = .sampling maxLength period noReceivers
      ∧ noReceivers ≤ channel.noReceivers := by
  obtain ⟨caller, vCpu, space, now, op⟩ := call
  cases op with
  | createSamplingPort desc portName maxMsgSize direction validPeriod =>
      cases creates
      obtain ⟨side, permitted, readable, direction_eq, stops⟩ :=
        createPort_assertion (map_eq_error.mp stops)
      obtain ⟨rfl, openable, c, channel, maxLength, period, noReceivers, linked, inside,
        sampling, configured, room⟩ := openSamplingPort_assertion links stops
      refine ⟨c, channel, maxLength, period, noReceivers, ?_, inside, configured, room⟩
      constructor
      · rfl
      · rfl
      · exact ⟨permitted, readable, direction_eq, openable⟩
      · exact linked
      · exact sampling
  | createQueuingPort =>
      cases creates
      cases type
  | _ => cases creates

theorem onClosedPort_openable {cfg : Config} {port : Nat} {type : PortType}
    {direction : Direction} {limits : XmcCommChannel → Prop} {s : State}
    (openable : Openable cfg s port type direction limits) (act : Except Stop (Int × State))
    : onClosedPort cfg port type direction s act = act := by
  have configured : ¬ cfg.noCommPorts ≤ port := by
    have inside := openable.configured
    omega
  simp [onClosedPort, configured, openable.type_eq, openable.direction_eq, openable.closed]

theorem createPort_permitted (cfg : Config) (s : State) {space : AddressSpace}
    {caller desc portName direction : XmU32} {side : Direction}
    (permitted : objDescGetPartitionId desc = caller)
    (readable : Accepts space portName 16 nameFlags)
    (valid : Direction.ofCode direction = some side)
    (opened : Nat → Direction → Except Stop (Int × State))
    : createPort cfg space caller desc portName direction s opened
      = opened (lookupPort cfg (bytesFrom space portName) (cfg.partition caller).noPorts
          (cfg.partition caller).commPortsOffset) side := by
  unfold createPort
  rw [if_neg (by simpa using permitted), ifChecked_accepted readable, valid]

theorem openSamplingPort_returns {cfg : Config} {caller : XmU32} {port c : Nat}
    {maxMsgSize : XmU32} {validPeriod : Int} {s : State} {channel : SamplingChannel}
    (openable : Openable cfg s port .sampling .destination
      (SamplingLimits maxMsgSize validPeriod))
    (linked : (cfg.xmcCommPorts port).channelId = some c) (inside : c < cfg.noCommChannels)
    (sampling : s.channelTab c = .sampling channel)
    (asserted : openSamplingPort cfg caller port maxMsgSize .destination validPeriod s
      ≠ .error .assertion)
    : ∃ ret s', openSamplingPort cfg caller port maxMsgSize .destination validPeriod s
        = .ok (ret, s') := by
  obtain ⟨period, noReceivers, configured, same⟩ := openable.linked c linked
  unfold openSamplingPort at asserted ⊢
  rw [onClosedPort_openable openable] at asserted ⊢
  simp only [linked, configured, assert_of inside, ok_bind, ne_eq, not_true_eq_false, if_false,
    same, registerSampling, sampling] at asserted ⊢
  by_cases room : channel.noReceivers < noReceivers
  · rw [assert_of room]
    exact ⟨_, _, rfl⟩
  · simp [assert, room, bind, Except.bind] at asserted

/-- Nothing but the assertion stands between a call that registers a port and its return. -/
theorem Registers.returns {cfg : Config} {s : State} {call : Call} {args : CreateArgs} {c : Nat}
    {channel : SamplingChannel} (registers : Registers cfg s call args c channel)
    (links : LinkChannels2Ports cfg) (asserted : call.run cfg s ≠ .error .assertion)
    : ∃ reply s', call.run cfg s = .ok (reply, s') := by
  obtain ⟨creates, type, fit, linked, sampling⟩ := registers
  obtain ⟨caller, vCpu, space, now, op⟩ := call
  have inside := links.inside _ c fit.openable.configured linked
  cases op with
  | createSamplingPort desc portName maxMsgSize direction validPeriod =>
      cases creates
      have looked := createPort_permitted cfg s fit.permitted fit.readable fit.direction_eq
        fun port direction => openSamplingPort cfg caller port maxMsgSize direction validPeriod s
      have ends := congrArg created looked
      obtain ⟨ret, s', opened⟩ := openSamplingPort_returns fit.openable linked inside sampling
        fun stops => asserted (ends.trans (map_eq_error.mpr stops))
      exact ⟨_, s', ends.trans (map_eq_ok.mpr ⟨(ret, s'), opened, rfl⟩)⟩
  | createQueuingPort =>
      cases creates
      cases type
  | _ => cases creates

/-- A table that has an entry for each port at most once takes the next port. -/
theorem ReceiversDistinct.room {cfg : Config} {s : State} {call : Call} {args : CreateArgs}
    {c : Nat} {channel : SamplingChannel} {maxLength noReceivers : Nat} {period : XmU32}
    (distinct : ReceiversDistinct cfg s) (links : LinkChannels2Ports cfg)
    (registers : Registers cfg s call args c channel) (inside : c < cfg.noCommChannels)
    (configured : cfg.xmcCommChannelTab c = .sampling maxLength period noReceivers)
    (fresh : ¬ RegistersAgain cfg s call)
    : channel.noReceivers < noReceivers := by
  have found : (s.channelTab c).receivers? = some
      { noReceivers := channel.noReceivers
        receiverTab := channel.receiverTab
        receiverPortTab := channel.receiverPortTab } := by
    rw [registers.sampling]
    rfl
  have added := (distinct c _ inside found).add registers.destination (found_above cfg call args)
    fun e below leads => fresh ⟨args, c, channel, _, registers, found, e, below, leads⟩
  have bound := added.length_le
  rw [← links.counted c maxLength period noReceivers inside configured] at bound
  simp only [Receivers.add] at bound
  omega

-----------------------------------------------------------------------------------------
-- Runs

/-- The receiver tables are within their configured size and name each port at most once. -/
structure ReceiversFit (cfg : Config) (s : State) : Prop where
  bounded : ∀ c receivers maxLength period noReceivers, c < cfg.noCommChannels →
    (s.channelTab c).receivers? = some receivers →
    cfg.xmcCommChannelTab c = .sampling maxLength period noReceivers →
    receivers.noReceivers ≤ noReceivers
  once : ∀ c receivers p, c < cfg.noCommChannels →
    (s.channelTab c).receivers? = some receivers →
    ∀ e < receivers.noReceivers, ∀ e' < receivers.noReceivers,
      receivers.Leads cfg e p → receivers.Leads cfg e' p → e = e'

theorem ReceiversDistinct.fit {cfg : Config} {s : State} (distinct : ReceiversDistinct cfg s)
    (links : LinkChannels2Ports cfg)
    : ReceiversFit cfg s where
  bounded c receivers maxLength period noReceivers inside found configured := by
    rw [links.counted c maxLength period noReceivers inside configured]
    exact (distinct c receivers inside found).length_le
  once c receivers p inside found e below e' below' leads leads' :=
    (distinct c receivers inside found).once e below e' below' p leads leads'

/-- Registering a port again puts it into the table twice, if there is room for it. -/
theorem RegistersAgain.twice {cfg : Config} {s s' : State} {call : Call} {reply : Reply}
    (again : RegistersAgain cfg s call) (returned : call.run cfg s = .ok (reply, s'))
    : ¬ ReceiversFit cfg s' := by
  intro fits
  obtain ⟨args, c, channel, receivers, registers, found, e, below, leads⟩ := again
  have effect := run_create registers.creates returned
  generalize reply.ret = ret at effect
  cases effect with
  | refused unfit => exact unfit _ registers.fit
  | @opened t side fit endpoint =>
      cases registers.fit.direction_eq.symm.trans fit.direction_eq
      rw [registers.type_eq] at endpoint
      rcases SamplingRegistered.receivers endpoint with ⟨-, unlinked⟩ | ⟨c', receivers', -,
        linked, inside, -, found', channels⟩
      · cases registers.linked.symm.trans (unlinked rfl)
      · cases registers.linked.symm.trans linked
        cases found.symm.trans found'
        have after := (openPort_receivers t (call.found cfg args) call.caller c).trans
          ((channels c).trans (if_pos rfl))
        have added : Receivers.Leads cfg
            (receivers.add call.caller
              (call.found cfg args - (cfg.partition call.caller).commPortsOffset))
            receivers.noReceivers (call.found cfg args) :=
          Receivers.add_leads_new.mpr (Nat.sub_add_cancel (found_above cfg call args))
        have same := fits.once c _ _ inside after e (Nat.lt_succ_of_lt below)
          receivers.noReceivers (Nat.lt_succ_self _) ((Receivers.add_leads_old below).mpr leads)
          added
        omega

/-- As long as no port is registered again, the receiver tables stay within their configured
size and name each port at most once; a call that creates a sampling port keeps it so,
without failing the assertion on the size, exactly when it registers no port again.
-/
theorem receivers_fit {cfg : Config} {start s : State} {past : List Event}
    (links : LinkChannels2Ports cfg) (setup : SetupComm cfg start)
    (run : Reach (guarded (RegistersOnce cfg) (Next cfg)) start past s)
    : ReceiversFit cfg s
      ∧ ∀ call args, call.op.create? = some args → args.type = .sampling →
        ((call.run cfg s ≠ .error .assertion
            ∧ ∀ reply s', call.run cfg s = .ok (reply, s') → ReceiversFit cfg s')
          ↔ ¬ RegistersAgain cfg s call) := by
  have distinct : ReceiversDistinct cfg s :=
    run.invariant (P := ReceiversDistinct cfg) setup.distinct fun _ _ _ before taken =>
      taken.2.distinct taken.1 before
  refine ⟨distinct.fit links, ?_⟩
  intro call args creates type
  constructor
  · rintro ⟨asserted, kept⟩ again
    obtain ⟨reply, s', returned⟩ : ∃ reply s', call.run cfg s = .ok (reply, s') := by
      obtain ⟨args', c, channel, receivers, registers, -⟩ := again
      exact registers.returns links asserted
    exact again.twice returned (kept reply s' returned)
  · intro fresh
    constructor
    · intro stops
      obtain ⟨c, channel, maxLength, period, noReceivers, registers, inside, configured, full⟩ :=
        run_assertion links creates type stops
      have room := distinct.room links registers inside configured fresh
      omega
    · intro reply s' returned
      exact ((run_create creates returned).distinct creates distinct fresh).fit links

/-- Two ports of partition 0, "A" and "B", that receive from the one channel. -/
def twoReceivers : Config where
  noCommPorts := 2
  xmcCommPorts port :=
    { name := fun i => if i = 0 then BitVec.ofNat 8 (65 + port) else 0
      channelId := some 0
      direction := .destination
      type := .sampling }
  noCommChannels := 1
  xmcCommChannelTab _ := .sampling 4 XM_INFINITE_TIME 2
  partition _ :=
    { commPortsOffset := 0
      noPorts := 2
      noVCpus := 1
      noPhysicalMemoryAreas := 1 }

theorem twoReceivers_linked : LinkChannels2Ports twoReceivers where
  inside p c _ linked := by
    cases linked
    exact Nat.one_pos
  counted c maxLength period noReceivers inside configured := by
    have first : c = 0 := Nat.lt_one_iff.mp inside
    subst first
    cases configured
    rfl

/-- Opens the receiver whose name stands at that address. -/
def opensReceiver (name : XmU32) : Call :=
  namedCall 0 (.createSamplingPort 0 name 4 1 0xFFFFFFFF)

def openedReply (port : Int) : Reply where
  ret := port
  data := []
  flags := none

theorem receivers_fit_twoReceivers
    : ∃ s, Reach (guarded (RegistersOnce twoReceivers) (Next twoReceivers))
          (setupState twoReceivers) [.call (opensReceiver 0x1000) (openedReply 0)] s
        ∧ ReceiversFit twoReceivers s := by
  have answer : ((opensReceiver 0x1000).run twoReceivers (setupState twoReceivers)).map Prod.fst
      = .ok (openedReply 0) := by decide
  obtain ⟨s, returned⟩ := map_fst_eq_ok.mp answer
  have once : RegistersOnce twoReceivers (setupState twoReceivers)
      (.call (opensReceiver 0x1000) (openedReply 0)) := by
    rintro call reply same
    cases same
    exact (setupState_setup twoReceivers).registersOnce twoReceivers_linked _
  have taken : guarded (RegistersOnce twoReceivers) (Next twoReceivers)
      (setupState twoReceivers) (.call (opensReceiver 0x1000) (openedReply 0)) s :=
    ⟨once, .call returned⟩
  have run := Reach.step .start taken
  obtain ⟨fit, -⟩ := receivers_fit twoReceivers_linked (setupState_setup twoReceivers) run
  exact ⟨s, run, fit⟩

/-- The table of channel 0: its size and what its first two entries are. -/
def State.firstReceivers (s : State) : Option (Nat × List (Option XmU32 × Nat)) :=
  (s.channelTab 0).receivers?.map fun receivers =>
    (receivers.noReceivers,
      [0, 1].map fun e => (receivers.receiverTab e, receivers.receiverPortTab e))

/-- Opens "A", resets the partition and opens "A" again. -/
def reopened : Except Stop (List Reply × State) := do
  let first ← (opensReceiver 0x1000).run twoReceivers (setupState twoReceivers)
  let again ← (opensReceiver 0x1000).run twoReceivers (resetPartPorts twoReceivers 0 first.2)
  pure ([first.1, again.1], again.2)

theorem reopened_run {s : State} (returned : reopened = .ok ([openedReply 0, openedReply 0], s))
    : Reach (Next twoReceivers) (setupState twoReceivers)
        [.call (opensReceiver 0x1000) (openedReply 0), .reset 0,
          .call (opensReceiver 0x1000) (openedReply 0)] s := by
  obtain ⟨⟨reply, t⟩, first, returned⟩ := bind_eq_ok.mp returned
  obtain ⟨⟨reply', s'⟩, again, returned⟩ := bind_eq_ok.mp returned
  cases returned
  exact ((Reach.start.step (.call first)).step .reset).step (.call again)

/-- Opened before and after a reset, port "A" is in the table twice, and "B" finds no room. -/
theorem reset_receiver_registered_twice
    : ∃ s, Reach (Next twoReceivers) (setupState twoReceivers)
          [.call (opensReceiver 0x1000) (openedReply 0), .reset 0,
            .call (opensReceiver 0x1000) (openedReply 0)] s
        ∧ ¬ ReceiversFit twoReceivers s
        ∧ (opensReceiver 0x2000).run twoReceivers s = .error .assertion := by
  have replies : reopened.map Prod.fst = .ok [openedReply 0, openedReply 0] := by decide
  have table : reopened.map (fun returned => returned.2.firstReceivers)
      = .ok (some (2, [(some 0, 0), (some 0, 0)])) := by decide
  have full : (reopened >>= fun returned =>
      (opensReceiver 0x2000).run twoReceivers returned.2).map Prod.fst = .error .assertion := by
    decide
  obtain ⟨s, returned⟩ := map_fst_eq_ok.mp replies
  rw [returned] at table full
  refine ⟨s, reopened_run returned, ?_, map_eq_error.mp full⟩
  intro fit
  obtain ⟨receivers, found, entries⟩ := Option.map_eq_some_iff.mp (Except.ok.inj table)
  simp only [List.map_cons, List.map_nil, Prod.mk.injEq, List.cons.injEq, and_true] at entries
  obtain ⟨size, ⟨first, port⟩, second, port'⟩ := entries
  have same := fit.once 0 receivers 0 (by decide) found 0 (by omega) 1 (by omega)
    ⟨0, first, by rw [port]; rfl⟩ ⟨0, second, by rw [port']; rfl⟩
  omega

end XtratuM.Objects
