import XtratuM.Objects.Endpoints
import XtratuM.Objects.MessagePool

/-! What a create call that is refused leaves behind. -/

namespace XtratuM.Objects

open Guest

-----------------------------------------------------------------------------------------
-- Registering an end that is there already

theorem QueuingChannel.register_self {channel : QueuingChannel} {caller : XmU32} {number : Nat}
    (sender : channel.sender = some caller) (senderPort : channel.senderPort = number)
    : { channel with sender := some caller, senderPort := number } = channel := by
  rw [← sender, ← senderPort]

theorem QueuingChannel.register_receiver_self {channel : QueuingChannel} {caller : XmU32}
    {number : Nat} (receiver : channel.receiver = some caller)
    (receiverPort : channel.receiverPort = number)
    : { channel with receiver := some caller, receiverPort := number } = channel := by
  rw [← receiver, ← receiverPort]

/-- Registering an end of a queuing channel changes nothing exactly when it is the one there. -/
theorem registerQueuing_same_iff {cfg : Config} {caller : XmU32} {side : Direction} {port c : Nat}
    {s t : State} (returned : registerQueuing cfg caller side port c s = .ok t)
    : SameTables s t
      ↔ (s.channelTab c).HasEnd side caller (port - (cfg.partition caller).commPortsOffset) := by
  constructor
  · intro same
    rw [← same.channelTab]
    exact (registerQueuing_enrolled returned).newest
  · unfold registerQueuing at returned
    split at returned
    · cases returned
    · next channel queuing =>
        rw [queuing]
        have stored {channel' : QueuingChannel} (self : channel' = channel)
            : SameTables s (s.setChannel c (.queuing channel')) := by
          rw [self, ← queuing]
          exact ⟨rfl, Function.update_eq_self c s.channelTab⟩
        cases side with
        | source =>
            cases returned
            rintro ⟨sender, senderPort⟩
            exact stored (QueuingChannel.register_self sender senderPort)
        | destination =>
            cases returned
            rintro ⟨receiver, receiverPort⟩
            exact stored (QueuingChannel.register_receiver_self receiver receiverPort)

-----------------------------------------------------------------------------------------
-- Refused calls

/-- `CreateQueuingPort` comes as far as channel `c` of the port it found, and the limits it asks for
are not those of the channel.
-/
structure MistakesLimits (cfg : Config) (s : State) (call : Call) (args : CreateArgs)
    (side : Direction) (c : Nat) : Prop where
  queuing : args.type = .queuing
  permitted : objDescGetPartitionId args.desc = call.caller
  readable : Accepts call.space args.portName 16 nameFlags
  direction_eq : Direction.ofCode args.direction = some side
  openable : Openable cfg s (call.found cfg args) args.type side fun _ => True
  linked : (cfg.xmcCommPorts (call.found cfg args)).channelId = some c
  mistaken : ¬ args.limits (cfg.xmcCommChannelTab c)

/-- A refused call writes an end of a channel only where that end is registered already. -/
def WritesNothingNew (cfg : Config) (s : State) (call : Call) (args : CreateArgs) : Prop :=
  ∀ side c, MistakesLimits cfg s call args side c →
    (s.channelTab c).HasEnd side call.caller
      (call.found cfg args - (cfg.partition call.caller).commPortsOffset)

/-- `CreateQueuingPort` compares the limits last, with the end of the port registered. -/
theorem openQueuingPort_refused {cfg : Config} {caller : XmU32} {port : Nat}
    {maxNoMsgs maxMsgSize : XmU32} {side : Direction} {s s' : State} {ret : Int}
    (returned : openQueuingPort cfg caller port maxNoMsgs maxMsgSize side s = .ok (ret, s'))
    (refused : ret < 0)
    : (s' = s ∧ ∀ limits, ¬ Openable cfg s port .queuing side limits)
      ∨ ∃ c, (cfg.xmcCommPorts port).channelId = some c
        ∧ ¬ QueuingLimits maxNoMsgs maxMsgSize (cfg.xmcCommChannelTab c)
        ∧ Openable cfg s port .queuing side (fun _ => True)
        ∧ registerQueuing cfg caller side port c s = .ok s' := by
  rcases onClosedPort_cases returned with ⟨rfl, -, unfit⟩ | ⟨passed, fit⟩
  · exact Or.inl ⟨rfl, unfit⟩
  · right
    cases linked : (cfg.xmcCommPorts port).channelId with
    | none =>
        rw [linked] at passed
        cases passed
        omega
    | some c =>
        simp only [linked] at passed
        obtain ⟨_, -, passed⟩ := bind_eq_ok.mp passed
        obtain ⟨t, register, passed⟩ := bind_eq_ok.mp passed
        have openable := fit (fun _ => True) fun _ _ => trivial
        split at passed
        · cases passed
        · next maxLength noMsgs configured =>
            refine ⟨c, rfl, ?_, openable, ?_⟩
            · rw [configured]
              rintro same
              cases same
              simp only [ne_eq, not_true_eq_false, if_false] at passed
              cases passed
              omega
            · split at passed
              · cases passed
                exact register
              · split at passed
                · cases passed
                  exact register
                · cases passed
                  omega

theorem createSamplingPort_refused {cfg : Config} {space : AddressSpace}
    {caller desc portName maxMsgSize direction : XmU32} {validPeriod : Int} {s s' : State}
    {ret : Int}
    (returned : createSamplingPort cfg space caller desc portName maxMsgSize direction validPeriod
      s = .ok (ret, s'))
    (refused : ret < 0)
    : s' = s := by
  rcases createPort_cases returned with ⟨rfl, -, -⟩ | ⟨side, -, -, -, opened⟩
  · rfl
  · cases openSamplingPort_cases opened with
    | refused _ _ kept => exact kept.resolve_right id
    | opened => omega

/-- A create call that is refused leaves both tables as they were exactly when it writes nothing
new.
-/
theorem refused_create_same_iff {cfg : Config} {s s' : State} {call : Call} {args : CreateArgs}
    {reply : Reply} (creates : call.op.create? = some args)
    (returned : call.run cfg s = .ok (reply, s')) (refused : reply.ret < 0)
    : SameTables s s' ↔ WritesNothingNew cfg s call args := by
  obtain ⟨caller, vCpu, space, now, op⟩ := call
  cases op with
  | createSamplingPort desc portName maxMsgSize direction validPeriod =>
      cases creates
      obtain ⟨⟨ret, t⟩, created, same⟩ := map_eq_ok.mp returned
      cases same
      cases createSamplingPort_refused created refused
      refine ⟨fun _ side c mistakes => ?_, fun _ => .refl _⟩
      cases mistakes.queuing
  | createQueuingPort desc portName maxNoMsgs maxMsgSize direction =>
      cases creates
      obtain ⟨⟨ret, t⟩, created, same⟩ := map_eq_ok.mp returned
      cases same
      rcases createPort_cases created with ⟨rfl, -, stopped⟩ | ⟨side, permitted, readable,
        direction_eq, opened⟩
      · refine ⟨fun _ side c mistakes => ?_, fun _ => .refl _⟩
        refine absurd ⟨mistakes.permitted, mistakes.readable, ?_⟩ stopped
        have valid := mistakes.direction_eq
        simp only at valid
        simp [valid]
      · rcases openQueuingPort_refused opened refused with ⟨rfl, unfit⟩ | ⟨c, linked, mistaken,
          openable, register⟩
        · refine ⟨fun _ side' c mistakes => ?_, fun _ => .refl _⟩
          cases direction_eq.symm.trans mistakes.direction_eq
          exact absurd mistakes.openable (unfit _)
        · rw [registerQueuing_same_iff register]
          constructor
          · intro there side' c' mistakes
            cases direction_eq.symm.trans mistakes.direction_eq
            cases linked.symm.trans mistakes.linked
            exact there
          · intro nothingNew
            exact nothingNew side c
              { queuing := rfl
                permitted := permitted
                readable := readable
                direction_eq := direction_eq
                openable := openable
                linked := linked
                mistaken := mistaken }
  | _ => cases creates

/-- One destination port, of a queuing channel of four messages. -/
def oneQueue : Config where
  noCommPorts := 1
  xmcCommPorts _ :=
    { name := fun i => if i = 0 then 65 else 0
      channelId := some 0
      direction := .destination
      type := .queuing }
  noCommChannels := 1
  xmcCommChannelTab _ := .queuing 16 4
  partition _ :=
    { commPortsOffset := 0
      noPorts := 1
      noVCpus := 1
      noPhysicalMemoryAreas := 1 }

/-- The partition asks for a queue of `maxNoMsgs` messages. -/
def asksQueue (maxNoMsgs direction : XmU32) : Call :=
  namedCall 0 (.createQueuingPort 0 0x1000 maxNoMsgs 16 direction)

/-- A source port is refused and nobody is registered. -/
theorem refused_create_same_oneQueue
    : ∃ reply s', (asksQueue 3 2).run oneQueue (setupState oneQueue) = .ok (reply, s')
      ∧ reply.ret < 0 ∧ SameTables (setupState oneQueue) s' := by
  have refused : ((asksQueue 3 2).run oneQueue (setupState oneQueue)).map (fun r => r.1.ret)
      = .ok XmRet.invalidConfig.code := by decide
  obtain ⟨⟨reply, s'⟩, returned, ret⟩ := map_eq_ok.mp refused
  have negative : reply.ret < 0 := by
    rw [show reply.ret = _ from ret]
    decide
  refine ⟨reply, s', returned, negative, ?_⟩
  refine (refused_create_same_iff rfl returned negative).mpr ?_
  intro side c mistakes
  have source := mistakes.direction_eq
  have destination := mistakes.openable.direction_eq
  cases source
  cases destination

/-- The partition that receives from a queuing channel. -/
def Channel.receiver? : Channel → Option XmU32
  | .sampling _ => none
  | .queuing channel => channel.receiver

/-- A queue of three messages is refused, and the partition has become the receiver. -/
theorem refused_create_registers
    : ∃ reply s', (asksQueue 3 1).run oneQueue (setupState oneQueue) = .ok (reply, s')
      ∧ reply.ret < 0
      ∧ ((setupState oneQueue).channelTab 0).receiver? = none
      ∧ (s'.channelTab 0).receiver? = some 0
      ∧ ¬ SameTables (setupState oneQueue) s' := by
  have refused : ((asksQueue 3 1).run oneQueue (setupState oneQueue)).map
      (fun r => (r.1.ret, (r.2.channelTab 0).receiver?))
      = .ok (XmRet.invalidConfig.code, some 0) := by decide
  obtain ⟨⟨reply, s'⟩, returned, view⟩ := map_eq_ok.mp refused
  obtain ⟨ret, receiver⟩ := Prod.ext_iff.mp view
  have before : ((setupState oneQueue).channelTab 0).receiver? = none := by decide
  refine ⟨reply, s', returned, ?_, before, receiver, ?_⟩
  · rw [show reply.ret = _ from ret]
    decide
  · intro same
    rw [← same.channelTab, show (s'.channelTab 0).receiver? = _ from receiver] at before
    cases before

end XtratuM.Objects
