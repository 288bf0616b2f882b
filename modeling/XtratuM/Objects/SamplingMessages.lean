import XtratuM.Objects.SamplingStatus

/-! The buffer of a sampling channel over whole runs: what a read hands out is the beginning of the
message that was written last.
-/

namespace XtratuM.Objects

open Guest
open Reachability

-----------------------------------------------------------------------------------------
-- Messages of a history

/-- The bytes that a write call takes from its caller. -/
def Call.message (call : Call) (msgPtr msgSize : XmU32) : List (BitVec 8) :=
  copyOut (bytesFrom call.space msgPtr) msgSize.toNat

/-- The message of a successful write through a port of channel `c`. -/
def Event.written? (cfg : Config) (c : Nat) : Event → Option (List (BitVec 8))
  | .call made reply =>
      match made.op with
      | .writeSamplingPort desc msgPtr msgSize =>
          if (cfg.xmcCommPorts (objDescGetId desc)).channelId = some c ∧ 0 ≤ reply.ret then
            some (made.message msgPtr msgSize)
          else
            none
      | _ => none
  | _ => none

/-- The message that was written to channel `c` last; none has no bytes. -/
def lastWritten (cfg : Config) (c : Nat) : List Event → List (BitVec 8)
  | [] => []
  | event :: past => (event.written? cfg c).getD (lastWritten cfg c past)

-----------------------------------------------------------------------------------------
-- Buffers

theorem copyOut_length (buffer : Nat → BitVec 8) (size : Nat)
    : (copyOut buffer size).length = size := by
  simp [copyOut]

/-- The buffer and the length of a sampling channel. -/
structure Contents where
  buffer : Nat → BitVec 8
  length : Nat

def Channel.contents? : Channel → Option Contents
  | .sampling channel => some { buffer := channel.buffer, length := channel.length }
  | .queuing _ => none

def Contents.message (contents : Contents) : List (BitVec 8) :=
  copyOut contents.buffer contents.length

/-- No sampling channel changes its buffer or its length. -/
def SameContents (s s' : State) : Prop :=
  ∀ c, (s'.channelTab c).contents? = (s.channelTab c).contents?

theorem SameContents.refl (s : State) : SameContents s s := fun _ => rfl

theorem SameTables.contents {s s' : State} (same : SameTables s s') : SameContents s s' := by
  intro c
  rw [same.channelTab]

theorem setChannel_contents {s : State} {c : Nat} {channel : Channel}
    (same : channel.contents? = (s.channelTab c).contents?)
    : SameContents s (s.setChannel c channel) := by
  intro q
  by_cases here : q = c
  · subst here
    simpa [State.setChannel] using same
  · simp [State.setChannel, here]

theorem SameContents.trans {s s' s'' : State} (first : SameContents s s')
    (second : SameContents s' s'')
    : SameContents s s'' :=
  fun c => (second c).trans (first c)

-----------------------------------------------------------------------------------------
-- What the calls do

theorem EndpointRegistered.contents {cfg : Config} {type : PortType} {caller : XmU32} {port : Nat}
    {direction : Direction} {s t : State}
    (registered : EndpointRegistered cfg type caller port direction s t)
    : SameContents s t := by
  cases type with
  | sampling =>
      rcases registered with ⟨-, rfl⟩ | ⟨c, -, -, _, _, _, -, register⟩
      · exact .refl _
      · obtain ⟨channel, channel', sampling, rfl, stored⟩ := registerSampling_effect register
        apply setChannel_contents
        rw [sampling, stored]
        cases direction <;> rfl
  | queuing =>
      rcases registered with ⟨-, rfl⟩ | ⟨c, -, -, register⟩
      · exact .refl _
      · obtain ⟨channel, channel', queuing, rfl, -⟩ := registerQueuing_effect register
        apply setChannel_contents
        rw [queuing]
        rfl

theorem CreateEffect.contents {cfg : Config} {s s' : State} {call : Call} {args : CreateArgs}
    {ret : Int} (effect : CreateEffect cfg s call args ret s')
    : SameContents s s' := by
  cases effect with
  | refused _ _ kept =>
      rcases kept with rfl | ⟨side, registered⟩
      · exact .refl _
      · exact registered.endpoint.contents
  | opened side _ endpoint => exact endpoint.contents

/-- What a step does to the channels: a successful write stores its message, and nothing else
touches a buffer.
-/
structure ContentsEffect (cfg : Config) (s : State) (event : Event) (s' : State) : Prop where
  written : ∀ c message, event.written? cfg c = some message →
    ∃ contents, (s'.channelTab c).contents? = some contents ∧ contents.message = message
  kept : ∀ c, event.written? cfg c = none →
    (s'.channelTab c).contents? = (s.channelTab c).contents?

theorem ContentsEffect.quiet {cfg : Config} {s s' : State} {event : Event}
    (same : SameContents s s') (quiet : ∀ c, event.written? cfg c = none)
    : ContentsEffect cfg s event s' where
  written c message hit := by simp [quiet c] at hit
  kept c _ := same c

theorem write_contents {cfg : Config} {s s' : State} {call : Call} {reply : Reply}
    {desc msgPtr msgSize : XmU32} (op : call.op = .writeSamplingPort desc msgPtr msgSize)
    (returned : writeSamplingPort cfg call.space call.caller desc msgPtr msgSize call.now s
      = .ok (reply, s'))
    : ContentsEffect cfg s (.call call reply) s' := by
  have label (c : Nat) : (Event.call call reply).written? cfg c
      = if (cfg.xmcCommPorts (objDescGetId desc)).channelId = some c ∧ 0 ≤ reply.ret then
          some (call.message msgPtr msgSize)
        else none := by
    simp only [Event.written?, op]
  cases writeSamplingPort_cases returned with
  | refused refused =>
      have negative := refused.negative
      rw [refused.state]
      refine .quiet (.refl s) fun c => ?_
      rw [label, if_neg]
      omega
  | unlinked own unlinked same =>
      rw [same]
      refine .quiet (.refl s) fun c => ?_
      rw [label, if_neg]
      simp [unlinked]
  | acted c own suited acted =>
      obtain ⟨channel, effect⟩ := writeSampling_effect acted
      have success : 0 ≤ reply.ret := by
        rw [effect.reply_eq]
        decide
      constructor
      · intro q message hit
        rw [label] at hit
        split at hit
        · next here =>
            cases hit
            cases suited.linked.symm.trans here.1
            rw [effect.channelTab, Function.update_self]
            exact ⟨_, rfl, copyOut_copyIn _ _ _ _⟩
        · cases hit
      · intro q quiet
        have other : q ≠ c := by
          rintro rfl
          rw [label, if_pos ⟨suited.linked, success⟩] at quiet
          cases quiet
        rw [effect.channelTab, Function.update_of_ne other]

/-- One case a call. -/
theorem Next.contents {cfg : Config} {s s' : State} {event : Event} (next : Next cfg s event s')
    : ContentsEffect cfg s event s' := by
  cases next with
  | reset => exact .quiet (fun _ => rfl) fun _ => rfl
  | elsewhere => exact .quiet (fun _ => rfl) fun _ => rfl
  | @call _ call reply returned =>
      cases op : call.op with
      | createSamplingPort | createQueuingPort =>
          have effect := run_create (by rw [op]; rfl) returned
          exact .quiet effect.contents fun c => by simp [Event.written?, op]
      | readSamplingPort desc msgPtr msgSize flags =>
          refine .quiet ?_ fun c => by simp [Event.written?, op]
          simp only [Call.run, op] at returned
          rcases (readSamplingPort_cases returned).same_or_acted with rfl | ⟨c, -, -, acted⟩
          · exact .refl _
          · exact (readSampling_effect acted).tables.contents
      | writeSamplingPort desc msgPtr msgSize =>
          exact write_contents op (by simpa [Call.run, op] using returned)
      | sendQueuingPort desc msgPtr msgSize =>
          refine .quiet ?_ fun c => by simp [Event.written?, op]
          simp only [Call.run, op] at returned
          rcases (sendQueuingPort_cases returned).same_or_acted with rfl | ⟨c, -, -, acted⟩
          · exact .refl _
          · obtain ⟨channel, _, _, queuing, -, effect⟩ := sendQueuing_effect acted
            cases effect with
            | full => exact .refl _
            | queued queued _ _ tables =>
                refine (setChannel_contents ?_).trans tables.contents
                rw [queuing]
                rfl
      | receiveQueuingPort desc msgPtr msgSize =>
          refine .quiet ?_ fun c => by simp [Event.written?, op]
          simp only [Call.run, op] at returned
          rcases (receiveQueuingPort_cases returned).same_or_acted with rfl | ⟨c, -, -, acted⟩
          · exact .refl _
          · obtain ⟨channel, queuing, effect⟩ := receiveQueuing_effect acted
            cases effect with
            | empty => exact .refl _
            | taken left _ _ tables =>
                refine (setChannel_contents ?_).trans tables.contents
                rw [queuing]
                rfl

-----------------------------------------------------------------------------------------
-- Runs

/-- Every sampling channel holds the message that was written to it last. -/
def HoldsLast (cfg : Config) (past : List Event) (s : State) : Prop :=
  ∀ c < cfg.noCommChannels, ∀ contents, (s.channelTab c).contents? = some contents →
    contents.message = lastWritten cfg c past

theorem SetupComm.holdsLast {cfg : Config} {s : State} (setup : SetupComm cfg s)
    : HoldsLast cfg [] s := by
  intro c inside contents found
  have made := setup.channels c inside
  cases configured : cfg.xmcCommChannelTab c with
  | sampling =>
      rw [configured] at made
      cases Except.ok.inj made ▸ found
      rfl
  | queuing maxLength n =>
      obtain ⟨channel, _, setup, -⟩ := setupChannel_queuing maxLength n
      rw [configured, setup] at made
      rw [← Except.ok.inj made] at found
      cases found

theorem HoldsLast.step {cfg : Config} {past : List Event} {s s' : State} {event : Event}
    (holds : HoldsLast cfg past s) (next : Next cfg s event s')
    : HoldsLast cfg (event :: past) s' := by
  intro c inside contents found
  rw [lastWritten]
  cases hit : event.written? cfg c with
  | none =>
      rw [next.contents.kept c hit] at found
      exact holds c inside contents found
  | some message =>
      obtain ⟨contents', found', same⟩ := next.contents.written c message hit
      cases found.symm.trans found'
      exact same

/-- What a successful read of a channel returns. -/
theorem readSamplingPort_message {cfg : Config} {space : AddressSpace}
    {caller vCpu desc msgPtr msgSize flagsPtr : XmU32} {now : Int} {s s' : State} {reply : Reply}
    {c : Nat} (linked : (cfg.xmcCommPorts (objDescGetId desc)).channelId = some c)
    (returned : readSamplingPort cfg space caller vCpu desc msgPtr msgSize flagsPtr now s
      = .ok (reply, s'))
    (success : 0 ≤ reply.ret)
    : c < cfg.noCommChannels ∧ ∃ contents, (s.channelTab c).contents? = some contents
      ∧ reply.data = contents.message.take msgSize.toNat
      ∧ reply.ret = (min msgSize.toNat contents.length : Nat) := by
  cases readSamplingPort_cases returned with
  | refused refused =>
      have negative := refused.negative
      omega
  | unlinked _ unlinked _ =>
      rw [linked] at unlinked
      cases unlinked
  | acted c' own suited acted =>
      cases linked.symm.trans suited.linked
      refine ⟨suited.inside, ?_⟩
      unfold readSampling at acted
      split at acted
      · next channel _ _ _ sampling _ =>
          obtain ⟨-, -, acted⟩ := bind_eq_ok.mp acted
          obtain ⟨notified, -, acted⟩ := bind_eq_ok.mp acted
          cases acted
          refine ⟨_, by rw [sampling]; rfl, ?_, rfl⟩
          exact copyOut_take _ _ _
      · cases acted

/-- A successful read of `msgSize` bytes hands out as many of the message written last, or all it
has; and a refused call leaves every buffer and length alone.
-/
theorem sampling_read_last_written {cfg : Config} {start s s' : State} {past : List Event}
    (setup : SetupComm cfg start) (run : Reach (Next cfg) start past s) {call : Call}
    {reply : Reply} (returned : call.run cfg s = .ok (reply, s'))
    : (∀ desc msgPtr msgSize flags c, call.op = .readSamplingPort desc msgPtr msgSize flags →
        (cfg.xmcCommPorts (objDescGetId desc)).channelId = some c → 0 ≤ reply.ret →
        reply.ret = (min msgSize.toNat (lastWritten cfg c past).length : Nat)
          ∧ reply.data = (lastWritten cfg c past).take msgSize.toNat)
      ∧ (reply.ret < 0 → SameContents s s') := by
  have holds : HoldsLast cfg past s :=
    run.preserves (P := HoldsLast cfg) setup.holdsLast fun _ _ _ _ before taken => before.step taken
  constructor
  · intro desc msgPtr msgSize flags c op linked success
    simp only [Call.run, op] at returned
    obtain ⟨inside, contents, found, data, ret⟩ :=
      readSamplingPort_message linked returned success
    have message := holds c inside contents found
    rw [← message]
    refine ⟨?_, data⟩
    rw [ret, Contents.message, copyOut_length]
  · intro refused c
    refine (Next.call returned).contents.kept c ?_
    unfold Event.written?
    dsimp only
    split
    · rw [if_neg]
      omega
    · rfl

/-- Four bytes are written after the two ports are created, and then two that begin with "A". -/
def rewriteCalls : List Call :=
  [namedCall 0 (.createSamplingPort 0 0x1000 4 2 0xFFFFFFFF),
    namedCall 0 (.createSamplingPort 0 0x2000 4 1 0xFFFFFFFF),
    namedCall 0 (.writeSamplingPort 0 0x3000 4), namedCall 0 (.writeSamplingPort 0 0x1000 2)]

def readCall : Call :=
  namedCall 0 (.readSamplingPort 1 0x3000 3 0)

/-- The replies to the calls, and that to the read after them. -/
def rewriteReplies (cfg : Config) : Except Stop (List Reply × Reply) := do
  let written ← runCalls cfg rewriteCalls (setupState cfg)
  let read ← readCall.run cfg written.2
  pure (written.1, read.1)

theorem sampling_read_last_written_oneReceiver
    : ∃ past s reply s',
      Reach (Next (oneReceiver (fun _ => 0) 2)) (setupState (oneReceiver (fun _ => 0) 2)) past s
      ∧ lastWritten (oneReceiver (fun _ => 0) 2) 0 past = [65, 0]
      ∧ readCall.run (oneReceiver (fun _ => 0) 2) s = .ok (reply, s')
      ∧ reply.ret = 2 ∧ reply.data = [65, 0] := by
  have answer : rewriteReplies (oneReceiver (fun _ => 0) 2)
      = .ok ([{ ret := 0, data := [], flags := none }, { ret := 1, data := [], flags := none },
          { ret := 0, data := [], flags := none }, { ret := 0, data := [], flags := none }],
        { ret := 2, data := [65, 0], flags := none }) := by decide
  obtain ⟨⟨replies, s⟩, returned, answer⟩ := bind_eq_ok.mp answer
  obtain ⟨⟨reply, s'⟩, read, answer⟩ := bind_eq_ok.mp answer
  cases answer
  have run := runCalls_reach returned
  obtain ⟨reads, -⟩ := sampling_read_last_written (setupState_setup _) run read
  obtain ⟨ret, data⟩ := reads 1 0x3000 3 0 0 rfl rfl (by decide)
  exact ⟨_, s, _, s', run, by decide, read, ret, data⟩

end XtratuM.Objects
