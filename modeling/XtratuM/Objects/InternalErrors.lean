import XtratuM.Objects.MessagePool

/-! The `SystemPanic` of `SendQueuingPort` and `ReceiveQueuingPort` for a list that is empty
against the count of messages: no call reaches one while every channel stands for a queue.
-/

namespace XtratuM.Objects

open XtratuM.Guest

-----------------------------------------------------------------------------------------
-- Notifications

theorem setPartitionExtIrqPending_noPanic (partitionId : XmU32) (irq : Nat)
    (vCpus : List XmU32) (tab : KThreadTab)
    : NoPanic (setPartitionExtIrqPending partitionId irq vCpus tab) := by
  induction vCpus generalizing tab with
  | nil => exact noPanic_ok tab
  | cons v rest ih =>
      unfold setPartitionExtIrqPending
      split
      · simp
      · exact ih _

theorem raise_noPanic (s : State) (cfg : Config) (partitionId : XmU32) (irq : Nat)
    : NoPanic (s.raise cfg partitionId irq) :=
  (setPartitionExtIrqPending_noPanic _ _ _ _).bind fun _ _ => noPanic_pure _

theorem assertPcts_noPanic (s : State) (partitionId : XmU32) (vCpus : List XmU32)
    (holds : Pct → Bool)
    : NoPanic (assertPcts s partitionId vCpus holds) :=
  noPanic_assert _

theorem notifySender_noPanic (cfg : Config) (caller : XmU32) (channel : SamplingChannel)
    (s : State)
    : NoPanic (notifySender cfg caller channel s) := by
  unfold notifySender
  split
  · exact noPanic_ok s
  · exact raise_noPanic _ _ _ _

theorem notifyReceiver_noPanic (cfg : Config) (caller : XmU32) (channel : QueuingChannel)
    (s : State)
    : NoPanic (notifyReceiver cfg caller channel s) := by
  unfold notifyReceiver
  split
  · exact noPanic_ok s
  · exact (assertPcts_noPanic _ _ _ _).bind fun _ _ => raise_noPanic _ _ _ _

theorem raiseSender_noPanic (cfg : Config) (channel : QueuingChannel) (s : State)
    : NoPanic (raiseSender cfg channel s) := by
  unfold raiseSender
  split
  · exact noPanic_ok s
  · exact raise_noPanic _ _ _ _

theorem clearEmptied_noPanic (cfg : Config) (caller : XmU32) (port usedMsgs : Nat)
    (channel : QueuingChannel) (s : State)
    : NoPanic (clearEmptied cfg caller port usedMsgs channel s) := by
  unfold clearEmptied
  split
  · refine (assertPcts_noPanic _ _ _ _).bind fun _ _ => ?_
    split
    · exact noPanic_pure _
    · exact (assertPcts_noPanic _ _ _ _).bind fun _ _ => noPanic_pure _
  · exact noPanic_ok s

theorem deliverTo_noPanic (cfg : Config) (caller receiver : XmU32) (receiverPort : Nat)
    (vCpus : List XmU32) (s : State)
    : NoPanic (deliverTo cfg caller receiver receiverPort vCpus s) := by
  induction vCpus generalizing s with
  | nil => exact noPanic_ok s
  | cons v rest ih => exact (assertPcts_noPanic _ _ _ _).bind fun _ _ => ih _

theorem deliver_noPanic (cfg : Config) (caller : XmU32) (channel : SamplingChannel) (e : Nat)
    (s : State)
    : NoPanic (deliver cfg caller channel e s) := by
  unfold deliver
  split
  · exact noPanic_ok s
  · exact (deliverTo_noPanic _ _ _ _ _ _).bind fun _ _ => raise_noPanic _ _ _ _

theorem deliverAll_noPanic (cfg : Config) (caller : XmU32) (channel : SamplingChannel)
    (es : List Nat) (s : State)
    : NoPanic (deliverAll cfg caller channel es s) := by
  induction es generalizing s with
  | nil => exact noPanic_ok s
  | cons e rest ih => exact (deliver_noPanic _ _ _ _ _).bind fun _ _ => ih _

theorem readSampling_noPanic (cfg : Config) (caller vCpu : XmU32) (port c : Nat)
    (msgSize flagsPtr : XmU32) (now : Int) (s : State)
    : NoPanic (readSampling cfg caller vCpu port c msgSize flagsPtr now s) := by
  unfold readSampling
  split
  · refine (assertPcts_noPanic _ _ _ _).bind fun _ _ => ?_
    exact (notifySender_noPanic _ _ _ _).bind fun _ _ => noPanic_pure _
  · simp

theorem writeSampling_noPanic (cfg : Config) (space : AddressSpace) (caller : XmU32)
    (port c : Nat) (msgPtr msgSize : XmU32) (now : Int) (s : State)
    : NoPanic (writeSampling cfg space caller port c msgPtr msgSize now s) := by
  unfold writeSampling
  split
  · simp
  · refine (noPanic_assert _).bind fun _ _ => ?_
    exact (deliverAll_noPanic _ _ _ _ _).bind fun _ _ => noPanic_pure _

-----------------------------------------------------------------------------------------
-- Transfers

/-- Every configured queuing channel stands for some queue. -/
def AllRepresent (cfg : Config) (s : State) : Prop :=
  ∀ c maxLength n, c < cfg.noCommChannels → cfg.xmcCommChannelTab c = .queuing maxLength n →
    ∃ queue, Represents n c s queue

/-- While there is room a message is free, so a send finds one. -/
theorem sendQueuing_noPanic {cfg : Config} {s : State} (all : AllRepresent cfg s)
    (space : AddressSpace) (caller : XmU32) {c : Nat} (inside : c < cfg.noCommChannels)
    (msgPtr msgSize : XmU32)
    : NoPanic (sendQueuing cfg space caller c msgPtr msgSize s) := by
  unfold sendQueuing
  split
  · next channel maxLength n queuing configured =>
      split
      · next room =>
          obtain ⟨_, _, free, recv, queuing', pool, -⟩ := all c maxLength n inside configured
          cases queuing.symm.trans queuing'
          obtain ⟨queued, _, _, enqueued, -⟩ := pool.enqueue room space msgPtr msgSize.toNat
          rw [enqueued, ok_bind]
          refine (notifyReceiver_noPanic _ _ _ _).bind fun _ _ => ?_
          exact (assertPcts_noPanic _ _ _ _).bind fun _ _ => noPanic_pure _
      · exact noPanic_ok _
  · simp

/-- While messages are counted one is queued, so a receive finds it. -/
theorem receiveQueuing_noPanic {cfg : Config} {s : State} (all : AllRepresent cfg s)
    (caller : XmU32) (port : Nat) {c : Nat} (inside : c < cfg.noCommChannels) (msgSize : XmU32)
    : NoPanic (receiveQueuing cfg caller port c msgSize s) := by
  unfold receiveQueuing
  split
  · next channel maxLength n queuing configured =>
      split
      · next used =>
          obtain ⟨_, _, free, recv, queuing', pool, -⟩ := all c maxLength n inside configured
          cases queuing.symm.trans queuing'
          obtain ⟨_, left, _, _, dequeued, -⟩ := pool.dequeue used msgSize.toNat
          rw [dequeued, ok_bind]
          refine (raiseSender_noPanic _ _ _).bind fun _ _ => ?_
          exact (clearEmptied_noPanic _ _ _ _ _ _).bind fun _ _ => noPanic_pure _
      · exact noPanic_ok _
  · simp

theorem onOwnPort_noPanic {α : Type} (cfg : Config) (s : State) (caller : XmU32) (port : Nat)
    (type : PortType) (refused : α) {act : Except Stop α} (safe : NoPanic act)
    : NoPanic (onOwnPort cfg s caller port type refused act) := by
  unfold onOwnPort
  split
  · simp
  · repeat' split
    all_goals first | exact noPanic_ok _ | exact safe

theorem onChannel_noPanic (cfg : Config) (space : AddressSpace) (port : Nat)
    (direction : Direction) (msgPtr msgSize : XmU32) (msgFlags : PFlags) (s : State)
    {act : Nat → Except Stop (Reply × State)}
    (safe : ∀ c, c < cfg.noCommChannels → NoPanic (act c))
    : NoPanic (onChannel cfg space port direction msgPtr msgSize msgFlags s act) := by
  unfold onChannel
  split
  · exact noPanic_ok _
  · split
    · exact noPanic_ok _
    · unfold withChannel
      split
      · exact noPanic_ok _
      · next c _ =>
          split
          · next inside =>
              dsimp only
              split
              · exact noPanic_ok _
              · exact ifChecked_noPanic _ _ _ _ _ (safe c inside)
          · simp

-----------------------------------------------------------------------------------------
-- Creating ports

theorem registerSampling_noPanic (cfg : Config) (caller : XmU32) (direction : Direction)
    (port c noReceivers : Nat) (s : State)
    : NoPanic (registerSampling cfg caller direction port c noReceivers s) := by
  unfold registerSampling
  split
  · simp
  · cases direction with
    | source => exact noPanic_ok _
    | destination => exact (noPanic_assert _).bind fun _ _ => noPanic_pure _

theorem registerQueuing_noPanic (cfg : Config) (caller : XmU32) (direction : Direction)
    (port c : Nat) (s : State)
    : NoPanic (registerQueuing cfg caller direction port c s) := by
  unfold registerQueuing
  split
  · simp
  · cases direction <;> exact noPanic_ok _

theorem onClosedPort_noPanic (cfg : Config) (port : Nat) (type : PortType)
    (direction : Direction) (s : State) {act : Except Stop (Int × State)} (safe : NoPanic act)
    : NoPanic (onClosedPort cfg port type direction s act) := by
  unfold onClosedPort
  repeat' split
  all_goals first | exact noPanic_ok _ | exact safe

theorem createPort_noPanic (cfg : Config) (space : AddressSpace)
    (caller desc portName direction : XmU32) (s : State)
    {opened : Nat → Direction → Except Stop (Int × State)}
    (safe : ∀ port side, NoPanic (opened port side))
    : NoPanic (createPort cfg space caller desc portName direction s opened) := by
  unfold createPort
  split
  · exact noPanic_ok _
  · refine ifChecked_noPanic _ _ _ _ _ ?_
    split
    · exact noPanic_pure _
    · exact safe _ _

theorem openSamplingPort_noPanic (cfg : Config) (caller : XmU32) (port : Nat)
    (maxMsgSize : XmU32) (direction : Direction) (validPeriod : Int) (s : State)
    : NoPanic (openSamplingPort cfg caller port maxMsgSize direction validPeriod s) := by
  refine onClosedPort_noPanic _ _ _ _ _ ?_
  split
  · exact noPanic_ok _
  · refine (noPanic_assert _).bind fun _ _ => ?_
    split
    · simp
    · split
      · exact noPanic_pure _
      · split
        · exact noPanic_pure _
        · exact (registerSampling_noPanic _ _ _ _ _ _ _).bind fun _ _ => noPanic_pure _

theorem openQueuingPort_noPanic (cfg : Config) (caller : XmU32) (port : Nat)
    (maxNoMsgs maxMsgSize : XmU32) (direction : Direction) (s : State)
    : NoPanic (openQueuingPort cfg caller port maxNoMsgs maxMsgSize direction s) := by
  refine onClosedPort_noPanic _ _ _ _ _ ?_
  split
  · exact noPanic_ok _
  · refine (noPanic_assert _).bind fun _ _ => ?_
    refine (registerQueuing_noPanic _ _ _ _ _ _).bind fun _ _ => ?_
    split
    · simp
    · split
      · exact noPanic_pure _
      · split <;> exact noPanic_pure _

-----------------------------------------------------------------------------------------
-- Calls

/-- No call reaches an internal error of a queuing channel. -/
theorem Call.run_noPanic {cfg : Config} {s : State} (all : AllRepresent cfg s) (call : Call)
    : NoPanic (call.run cfg s) := by
  unfold Call.run
  split
  · exact (createPort_noPanic _ _ _ _ _ _ _ fun _ _ => openSamplingPort_noPanic _ _ _ _ _ _ _).map _
  · exact (createPort_noPanic _ _ _ _ _ _ _ fun _ _ => openQueuingPort_noPanic _ _ _ _ _ _ _).map _
  · unfold readSamplingPort
    split
    · exact noPanic_ok _
    · refine ifChecked_noPanic _ _ _ _ _ (onOwnPort_noPanic _ _ _ _ _ _ ?_)
      exact onChannel_noPanic _ _ _ _ _ _ _ _ fun _ _ => readSampling_noPanic _ _ _ _ _ _ _ _ _
  · unfold writeSamplingPort
    split
    · exact noPanic_ok _
    · refine onOwnPort_noPanic _ _ _ _ _ _ (onChannel_noPanic _ _ _ _ _ _ _ _ ?_)
      exact fun _ _ => writeSampling_noPanic _ _ _ _ _ _ _ _ _
  · unfold sendQueuingPort
    split
    · exact noPanic_ok _
    · refine onOwnPort_noPanic _ _ _ _ _ _ (onChannel_noPanic _ _ _ _ _ _ _ _ ?_)
      exact fun c inside => sendQueuing_noPanic all _ _ inside _ _
  · unfold receiveQueuingPort
    split
    · exact noPanic_ok _
    · refine onOwnPort_noPanic _ _ _ _ _ _ (onChannel_noPanic _ _ _ _ _ _ _ _ ?_)
      exact fun c inside => receiveQueuing_noPanic all _ _ inside _

end XtratuM.Objects
