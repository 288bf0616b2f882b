import XtratuM.Objects.ReceiverTables

/-! The ends of the channels while ports are being created: whoever is registered at an end
of a channel asked for a port of that channel, and owns it once it is open.
-/

namespace XtratuM.Objects

open XtratuM.Guest
open Reachability

-----------------------------------------------------------------------------------------
-- Registered ends

/-- A partition is registered at an end of the channel, by the number of its port. -/
def Channel.HasEnd : Channel → Direction → XmU32 → Nat → Prop
  | .sampling channel, .source, partitionId, number =>
      channel.sender = some partitionId ∧ channel.senderPort = number
  | .sampling channel, .destination, partitionId, number =>
      ∃ e < channel.noReceivers, channel.receiverTab e = some partitionId
        ∧ channel.receiverPortTab e = number
  | .queuing channel, .source, partitionId, number =>
      channel.sender = some partitionId ∧ channel.senderPort = number
  | .queuing channel, .destination, partitionId, number =>
      channel.receiver = some partitionId ∧ channel.receiverPort = number

theorem Channel.ends_hasEnd (channel : Channel) (side : Direction) (partitionId : XmU32)
    (number : Nat)
    : channel.ends.HasEnd side partitionId number ↔ channel.HasEnd side partitionId number := by
  cases channel <;> cases side <;> rfl

/-- Port `g` is an end of channel `c`. -/
structure EndOf (cfg : Config) (side : Direction) (g c : Nat) : Prop where
  direction_eq : (cfg.xmcCommPorts g).direction = side
  linked : (cfg.xmcCommPorts g).channelId = some c

def XmcCommChannel.type : XmcCommChannel → PortType
  | .sampling _ _ _ => .sampling
  | .queuing _ _ => .queuing

def Channel.type : Channel → PortType
  | .sampling _ => .sampling
  | .queuing _ => .queuing

/-- A queuing channel is described with one destination. -/
def OneDestination (cfg : Config) : Prop :=
  ∀ c g g', (cfg.xmcCommChannelTab c).type = .queuing → EndOf cfg .destination g c →
    EndOf cfg .destination g' c → g = g'

/-- The ends of the channels are ports, of the partitions registered there once they are
open; and every open destination is registered.
-/
structure Endpoints (cfg : Config) (s : State) : Prop where
  registered : ∀ c < cfg.noCommChannels, ∀ side partitionId number,
    (s.channelTab c).HasEnd side partitionId number →
    ∃ g < cfg.noCommPorts, EndOf cfg side g c
      ∧ number + (cfg.partition partitionId).commPortsOffset = g
      ∧ (Opened s g → (s.portTab g).partitionId = partitionId)
  listed : ∀ g c, EndOf cfg .destination g c → Opened s g →
    c < cfg.noCommChannels ∧ ∃ partitionId number,
      (s.channelTab c).HasEnd .destination partitionId number
        ∧ number + (cfg.partition partitionId).commPortsOffset = g

theorem Endpoints.congr {cfg : Config} {s s' : State} (endpoints : Endpoints cfg s)
    (ports : ∀ g, SamePort (s.portTab g) (s'.portTab g))
    (ends : ∀ c, (s'.channelTab c).ends = (s.channelTab c).ends)
    : Endpoints cfg s' := by
  have opened (g : Nat) : Opened s' g ↔ Opened s g := by
    rw [Opened, (ports g).opened, Opened]
  have hasEnd (c : Nat) (side : Direction) (partitionId : XmU32) (number : Nat)
      : (s'.channelTab c).HasEnd side partitionId number
        ↔ (s.channelTab c).HasEnd side partitionId number := by
    rw [← Channel.ends_hasEnd, ends c, Channel.ends_hasEnd]
  constructor
  · intro c inside side partitionId number found
    obtain ⟨g, configured, endOf, place, owner⟩ :=
      endpoints.registered c inside side partitionId number ((hasEnd _ _ _ _).mp found)
    refine ⟨g, configured, endOf, place, fun isOpen => ?_⟩
    rw [(ports g).partitionId]
    exact owner ((opened g).mp isOpen)
  · intro g c endOf isOpen
    simpa only [hasEnd] using endpoints.listed g c endOf ((opened g).mp isOpen)

-----------------------------------------------------------------------------------------
-- Registering an end

/-- One end of channel `c` is registered: a receiver is added to those of a sampling channel,
and any other end replaces the one that was there.
-/
structure Enrolled (type : PortType) (side : Direction) (partitionId : XmU32) (number c : Nat)
    (s t : State) : Prop where
  portTab : t.portTab = s.portTab
  pct : t.pct = s.pct
  others : ∀ q, q ≠ c → t.channelTab q = s.channelTab q
  typed : (s.channelTab c).type = type
  newest : (t.channelTab c).HasEnd side partitionId number
  only : ∀ side' p n, (t.channelTab c).HasEnd side' p n →
    (side' = side ∧ p = partitionId ∧ n = number)
      ∨ (s.channelTab c).HasEnd side' p n
        ∧ (side' = side → side = .destination ∧ type = .sampling)
  kept : ∀ side' p n, (s.channelTab c).HasEnd side' p n →
    (t.channelTab c).HasEnd side' p n ∨ side' = side ∧ (side = .destination → type = .queuing)

theorem registerSampling_enrolled {cfg : Config} {caller : XmU32} {side : Direction}
    {port c noReceivers : Nat} {s t : State}
    (returned : registerSampling cfg caller side port c noReceivers s = .ok t)
    : Enrolled .sampling side caller (port - (cfg.partition caller).commPortsOffset) c s t := by
  obtain ⟨channel, channel', sampling, rfl, stored⟩ := registerSampling_effect returned
  have after : ((s.setChannel c (.sampling channel')).channelTab c) = .sampling channel' := by
    simp [State.setChannel]
  refine
    { portTab := rfl
      pct := rfl
      others := fun q other => by simp [State.setChannel, other]
      typed := by rw [sampling]; rfl
      newest := ?_
      only := ?_
      kept := ?_ }
  · rw [after]
    cases side with
    | source => simp [stored, Channel.HasEnd]
    | destination =>
        refine ⟨channel.noReceivers, ?_⟩
        simp [stored, SamplingChannel.addReceiver]
  · intro side' p n found
    rw [after] at found
    rw [sampling]
    cases side with
    | source =>
        cases side' with
        | source =>
            simp only [stored, Channel.HasEnd, Option.some.injEq] at found
            exact Or.inl ⟨rfl, found.1.symm, found.2.symm⟩
        | destination =>
            rw [stored] at found
            exact Or.inr ⟨found, by simp⟩
    | destination =>
        cases side' with
        | source =>
            rw [stored] at found
            exact Or.inr ⟨found, by simp⟩
        | destination =>
            simp only [stored, Channel.HasEnd, SamplingChannel.addReceiver] at found
            obtain ⟨e, inside, entry, number⟩ := found
            by_cases new : e = channel.noReceivers
            · subst new
              simp only [Function.update_self, Option.some.injEq] at entry number
              exact Or.inl ⟨rfl, entry.symm, number.symm⟩
            · rw [Function.update_of_ne new] at entry number
              exact Or.inr ⟨⟨e, by omega, entry, number⟩, fun _ => ⟨rfl, rfl⟩⟩
  · intro side' p n found
    rw [sampling] at found
    rw [after]
    cases side with
    | source =>
        cases side' with
        | source => exact Or.inr ⟨rfl, by simp⟩
        | destination =>
            rw [stored]
            exact Or.inl found
    | destination =>
        left
        cases side' with
        | source =>
            rw [stored]
            exact found
        | destination =>
            obtain ⟨e, inside, entry, number⟩ := found
            have old : e ≠ channel.noReceivers := by omega
            refine ⟨e, ?_⟩
            simp only [stored, SamplingChannel.addReceiver, Function.update_of_ne old]
            exact ⟨by omega, entry, number⟩

theorem registerQueuing_enrolled {cfg : Config} {caller : XmU32} {side : Direction}
    {port c : Nat} {s t : State}
    (returned : registerQueuing cfg caller side port c s = .ok t)
    : Enrolled .queuing side caller (port - (cfg.partition caller).commPortsOffset) c s t := by
  unfold registerQueuing at returned
  split at returned
  · cases returned
  · next channel queuing =>
      cases side with
      | source =>
          cases returned
          refine
            { portTab := rfl
              pct := rfl
              others := fun q other => by simp [State.setChannel, other]
              typed := by rw [queuing]; rfl
              newest := by simp [State.setChannel, Channel.HasEnd]
              only := ?_
              kept := ?_ }
          · intro side' p n
            cases side' <;> simp [State.setChannel, queuing, Channel.HasEnd, eq_comm]
          · intro side' p n
            cases side' <;> simp [State.setChannel, queuing, Channel.HasEnd]
      | destination =>
          cases returned
          refine
            { portTab := rfl
              pct := rfl
              others := fun q other => by simp [State.setChannel, other]
              typed := by rw [queuing]; rfl
              newest := by simp [State.setChannel, Channel.HasEnd]
              only := ?_
              kept := ?_ }
          · intro side' p n
            cases side' <;> simp [State.setChannel, queuing, Channel.HasEnd, eq_comm]
          · intro side' p n
            cases side' <;> simp [State.setChannel, queuing, Channel.HasEnd]

-----------------------------------------------------------------------------------------
-- Create calls

/-- What a create call needs of a port before it registers its end. -/
def OpenableEnd (cfg : Config) (s : State) (port : Nat) (type : PortType) (side : Direction)
    : Prop :=
  Openable cfg s port type side fun channel => channel.type = type

/-- The end of a port, if it has a channel. -/
def PortEnrolled (cfg : Config) (type : PortType) (caller : XmU32) (port : Nat)
    (side : Direction) (s t : State) : Prop :=
  Registered cfg port s t fun c =>
    Enrolled type side caller (port - (cfg.partition caller).commPortsOffset) c s t

/-- A create call either changes nothing, or registers the end of the port it found and may
open it.
-/
inductive CreateEnd (cfg : Config) (s : State) (caller : XmU32) (type : PortType) (port : Nat)
    : State → Prop
  | nothing
    : CreateEnd cfg s caller type port s
  | closed {t : State} (side : Direction) (fit : OpenableEnd cfg s port type side)
      (enrolled : PortEnrolled cfg type caller port side s t)
    : CreateEnd cfg s caller type port t
  | opened {t : State} (side : Direction) (fit : OpenableEnd cfg s port type side)
      (enrolled : PortEnrolled cfg type caller port side s t)
    : CreateEnd cfg s caller type port (t.openPort port caller)

theorem openSamplingPort_end {cfg : Config} {caller : XmU32} {port : Nat} {maxMsgSize : XmU32}
    {side : Direction} {validPeriod : Int} {s s' : State} {ret : Int}
    (returned : openSamplingPort cfg caller port maxMsgSize side validPeriod s = .ok (ret, s'))
    : CreateEnd cfg s caller .sampling port s' := by
  cases openSamplingPort_cases returned with
  | refused unfit negative kept =>
      rcases kept with rfl | none
      · exact .nothing
      · exact none.elim
  | opened fit endpoint =>
      refine .opened side { fit with linked := ?_ } ?_
      · intro c linked
        obtain ⟨period, noReceivers, configured, -⟩ := fit.linked c linked
        rw [configured]
        rfl
      · refine endpoint.imp_right ?_
        intro ⟨c, linked, inside, _, _, _, _, register⟩
        exact ⟨c, linked, inside, registerSampling_enrolled register⟩

theorem openQueuingPort_end {cfg : Config} {caller : XmU32} {port : Nat}
    {maxNoMsgs maxMsgSize : XmU32} {side : Direction} {s s' : State} {ret : Int}
    (returned : openQueuingPort cfg caller port maxNoMsgs maxMsgSize side s = .ok (ret, s'))
    : CreateEnd cfg s caller .queuing port s' := by
  rcases onClosedPort_cases returned with ⟨rfl, -, -⟩ | ⟨returned, fit⟩
  · exact .nothing
  · split at returned
    · next unlinked =>
        cases returned
        exact .opened side (fit _ (by simp [unlinked])) (Or.inl ⟨unlinked, rfl⟩)
    · next c linked =>
        obtain ⟨_, inside, returned⟩ := bind_eq_ok.mp returned
        obtain ⟨t, register, returned⟩ := bind_eq_ok.mp returned
        have enrolled : PortEnrolled cfg .queuing caller port side s t :=
          Or.inr ⟨c, linked, assert_ok.mp inside, registerQueuing_enrolled register⟩
        split at returned
        · cases returned
        · next maxLength noMsgs configured =>
            have typed : OpenableEnd cfg s port .queuing side := by
              refine fit _ ?_
              intro c' linked'
              cases linked.symm.trans linked'
              rw [configured]
              rfl
            -- the limits are compared after the end is registered
            split at returned
            · cases returned
              exact .closed side typed enrolled
            · split at returned
              · cases returned
                exact .closed side typed enrolled
              · cases returned
                exact .opened side typed enrolled

theorem run_createEnd {cfg : Config} {s s' : State} {call : Call} {args : CreateArgs}
    {reply : Reply} (creates : call.op.create? = some args)
    (returned : call.run cfg s = .ok (reply, s'))
    : CreateEnd cfg s call.caller args.type (call.found cfg args) s' := by
  obtain ⟨caller, vCpu, space, now, op⟩ := call
  cases op with
  | createSamplingPort desc portName maxMsgSize direction validPeriod =>
      cases creates
      obtain ⟨⟨ret, t⟩, opened, same⟩ := map_eq_ok.mp returned
      cases same
      rcases createPort_cases opened with ⟨rfl, -, -⟩ | ⟨side, -, -, -, opened⟩
      · exact .nothing
      · exact openSamplingPort_end opened
  | createQueuingPort desc portName maxNoMsgs maxMsgSize direction =>
      cases creates
      obtain ⟨⟨ret, t⟩, opened, same⟩ := map_eq_ok.mp returned
      cases same
      rcases createPort_cases opened with ⟨rfl, -, -⟩ | ⟨side, -, -, -, opened⟩
      · exact .nothing
      · exact openQueuingPort_end opened
  | _ => cases creates

section CreateEnd

variable {cfg : Config} {s t : State} {caller : XmU32} {type : PortType} {port : Nat}
  {side : Direction}

theorem PortEnrolled.portTab (enrolled : PortEnrolled cfg type caller port side s t)
    : t.portTab = s.portTab := by
  rcases enrolled with ⟨-, rfl⟩ | ⟨c, -, -, enrolled⟩
  · rfl
  · exact enrolled.portTab

/-- Create calls leave the control tables alone. -/
theorem CreateEnd.pct (effect : CreateEnd cfg s caller type port t)
    : t.pct = s.pct := by
  have kept (side : Direction) {t : State} (enrolled : PortEnrolled cfg type caller port side s t)
      : t.pct = s.pct := by
    rcases enrolled with ⟨-, rfl⟩ | ⟨c, -, -, enrolled⟩
    · rfl
    · exact enrolled.pct
  cases effect with
  | nothing => rfl
  | closed side _ enrolled => exact kept side enrolled
  | @opened u side _ enrolled => exact (kept side enrolled : u.pct = s.pct)

/-- The end of a closed port is registered: no open port lost its own end. -/
theorem Endpoints.enroll (single : OneDestination cfg) (endpoints : Endpoints cfg s)
    (above : (cfg.partition caller).commPortsOffset ≤ port)
    (fit : OpenableEnd cfg s port type side)
    (enrolled : PortEnrolled cfg type caller port side s t)
    : Endpoints cfg t := by
  rcases enrolled with ⟨-, rfl⟩ | ⟨c, linked, inside, enrolled⟩
  · exact endpoints
  · have here : EndOf cfg side port c := ⟨fit.direction_eq.symm, linked⟩
    have opened (g : Nat) : Opened t g ↔ Opened s g := by
      rw [Opened, enrolled.portTab, Opened]
    have closed : ¬ Opened s port := by
      rw [Opened, fit.closed]
      simp
    constructor
    · intro q configured side' p n found
      rw [enrolled.portTab]
      simp only [opened]
      by_cases same : q = c
      · subst same
        rcases enrolled.only side' p n found with ⟨rfl, rfl, rfl⟩ | ⟨before, -⟩
        · refine ⟨port, fit.configured, here, by omega, ?_⟩
          exact fun isOpen => absurd isOpen closed
        · exact endpoints.registered q configured side' p n before
      · rw [enrolled.others q same] at found
        exact endpoints.registered q configured side' p n found
    · intro g q endOf isOpen
      rw [opened] at isOpen
      obtain ⟨configured, p, n, found, place⟩ := endpoints.listed g q endOf isOpen
      refine ⟨configured, p, n, ?_, place⟩
      by_cases same : q = c
      · subst same
        rcases enrolled.kept .destination p n found with after | ⟨rfl, queuing⟩
        · exact after
        · -- the only destination of a queuing channel was still closed
          have only := single q g port (by rw [fit.linked q linked, queuing rfl]) endOf here
          rw [only] at isOpen
          exact absurd isOpen closed
      · rw [enrolled.others q same]
        exact found

/-- Whoever is registered for the port whose end was registered last is its caller. -/
theorem PortEnrolled.owner (listed : ReceiversListed cfg s)
    (fit : OpenableEnd cfg s port type side)
    (enrolled : PortEnrolled cfg type caller port side s t) {c number : Nat} {p : XmU32}
    (inside : c < cfg.noCommChannels) (here : EndOf cfg side port c)
    (found : (t.channelTab c).HasEnd side p number)
    (place : number + (cfg.partition p).commPortsOffset = port)
    : p = caller := by
  rcases enrolled with ⟨unlinked, -⟩ | ⟨c', linked, -, enrolled⟩
  · rw [here.linked] at unlinked
    cases unlinked
  · cases here.linked.symm.trans linked
    rcases enrolled.only side p number found with ⟨-, same, -⟩ | ⟨before, added⟩
    · exact same
    · -- an older receiver of a sampling channel has its port open already
      obtain ⟨rfl, rfl⟩ := added rfl
      have typed := enrolled.typed
      cases stored : s.channelTab c with
      | queuing channel =>
          rw [stored] at typed
          cases typed
      | sampling channel =>
          rw [stored] at before
          obtain ⟨e, below, entry, number_eq⟩ := before
          obtain ⟨q, ⟨receiver, entry', place'⟩, -, opened⟩ :=
            listed.entries c _ inside (by rw [stored]; rfl) e below
          cases entry.symm.trans entry'
          have same : q = port := by rw [← place, ← place', ← number_eq]
          rw [same, Opened, fit.closed] at opened
          cases opened

/-- The port whose end was registered is opened. -/
theorem Endpoints.open (endpoints : Endpoints cfg t) (listed : ReceiversListed cfg s)
    (above : (cfg.partition caller).commPortsOffset ≤ port)
    (fit : OpenableEnd cfg s port type side)
    (enrolled : PortEnrolled cfg type caller port side s t)
    : Endpoints cfg (t.openPort port caller) := by
  have ports := openPort_portTab port caller (s := t) rfl
  have opened := openPort_opened port caller (s := t) rfl
  constructor
  · intro c inside side' p n found
    obtain ⟨g, configured, endOf, place, owner⟩ := endpoints.registered c inside side' p n found
    refine ⟨g, configured, endOf, place, fun isOpen => ?_⟩
    rw [ports g]
    by_cases here : g = port
    · subst here
      have same : side' = side := endOf.direction_eq.symm.trans fit.direction_eq.symm
      subst same
      rw [if_pos rfl]
      exact (enrolled.owner listed fit inside endOf found place).symm
    · rw [if_neg here]
      exact owner (((opened g).mp isOpen).resolve_left here)
  · intro g c endOf isOpen
    rcases (opened g).mp isOpen with rfl | before
    · rcases enrolled with ⟨unlinked, -⟩ | ⟨c', linked, inside, enrolled⟩
      · rw [endOf.linked] at unlinked
        cases unlinked
      · cases endOf.linked.symm.trans linked
        have same : side = .destination := fit.direction_eq.trans endOf.direction_eq
        subst same
        exact ⟨inside, caller, _, enrolled.newest, by omega⟩
    · exact endpoints.listed g c endOf before

theorem CreateEnd.endpoints (single : OneDestination cfg)
    (effect : CreateEnd cfg s caller type port t) (endpoints : Endpoints cfg s)
    (listed : ReceiversListed cfg s)
    (above : (cfg.partition caller).commPortsOffset ≤ port)
    : Endpoints cfg t := by
  cases effect with
  | nothing => exact endpoints
  | closed side fit enrolled => exact endpoints.enroll single above fit enrolled
  | opened side fit enrolled =>
      exact (endpoints.enroll single above fit enrolled).open listed above fit enrolled

end CreateEnd

theorem SetupComm.endpoints {cfg : Config} {s : State} (setup : SetupComm cfg s)
    : Endpoints cfg s := by
  constructor
  · intro c inside side p n found
    have built := setup.channels c inside
    cases configured : cfg.xmcCommChannelTab c with
    | sampling =>
        rw [configured] at built
        rw [← Except.ok.inj built] at found
        cases side <;> simp [Channel.HasEnd, SamplingChannel.zero] at found
    | queuing =>
        rw [configured] at built
        obtain ⟨lists, -, built⟩ := bind_eq_ok.mp built
        rw [← Except.ok.inj built] at found
        cases side <;> simp [Channel.HasEnd] at found
  · intro g c _ isOpen
    simp [Opened, setup.ports g] at isOpen

/-- Calls keep the ends of the channels. -/
theorem run_endpoints {cfg : Config} {s s' : State} {call : Call} {reply : Reply}
    (single : OneDestination cfg) (endpoints : Endpoints cfg s) (listed : ReceiversListed cfg s)
    (returned : call.run cfg s = .ok (reply, s'))
    : Endpoints cfg s' := by
  cases creates : call.op.create? with
  | none => exact endpoints.congr (run_transfer creates returned) (run_ends creates returned)
  | some args =>
      exact (run_createEnd creates returned).endpoints single endpoints listed
        (found_above cfg call args)

end XtratuM.Objects
