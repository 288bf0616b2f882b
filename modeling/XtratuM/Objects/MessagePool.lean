import Mathlib.Data.List.Perm.Basic
import XtratuM.Objects.PortEffects

/-! The message pool of a queuing channel: two intrusive lists that share it out, and the
queue of messages they stand for.
-/

namespace XtratuM.Objects

open XtratuM.Guest

/-- The bytes of a message of the pool. -/
def QueuingChannel.message (channel : QueuingChannel) (msg : Nat) : List (BitVec 8) :=
  copyOut (channel.buffer msg) (channel.length msg)

/-- The lists hold every message of the pool once, the queued ones newest first, and
`usedMsgs` counts those.
-/
structure Pool (n : Nat) (channel : QueuingChannel) (free recv : List Nat) : Prop where
  freeMsgs : Holds channel.lists .freeMsgs free
  recvMsgs : Holds channel.lists .recvMsgs recv
  shared : (free ++ recv).Perm (List.range n)
  count : channel.usedMsgs = recv.length

/-- The queue a pool stands for, oldest first. -/
def QueuingChannel.queue (channel : QueuingChannel) (recv : List Nat)
    : List (List (BitVec 8)) :=
  recv.reverse.map channel.message

theorem Pool.total {n : Nat} {channel : QueuingChannel} {free recv : List Nat}
    (pool : Pool n channel free recv)
    : free.length + recv.length = n := by
  have total := pool.shared.length_eq
  simpa using total

theorem Pool.nodup {n : Nat} {channel : QueuingChannel} {free recv : List Nat}
    (pool : Pool n channel free recv)
    : (free ++ recv).Nodup :=
  pool.shared.nodup_iff.mpr List.nodup_range

theorem Pool.congr {n : Nat} {channel channel' : QueuingChannel} {free recv : List Nat}
    (pool : Pool n channel free recv) (same : SameQueue channel channel')
    : Pool n channel' free recv where
  freeMsgs := by rw [same.lists]; exact pool.freeMsgs
  recvMsgs := by rw [same.lists]; exact pool.recvMsgs
  shared := pool.shared
  count := by rw [same.usedMsgs]; exact pool.count

theorem SameQueue.queue {channel channel' : QueuingChannel} (same : SameQueue channel channel')
    (recv : List Nat)
    : channel'.queue recv = channel.queue recv := by
  unfold QueuingChannel.queue QueuingChannel.message
  rw [same.buffer, same.length]

-----------------------------------------------------------------------------------------
-- Buffers

theorem copyOut_take (buffer : Nat → BitVec 8) (size length : Nat)
    : copyOut buffer (min size length) = (copyOut buffer length).take size := by
  unfold copyOut
  rw [← List.map_take, List.take_range]

/-- What was copied into a buffer is what its first bytes give out. -/
theorem copyOut_copyIn (buffer : Nat → BitVec 8) (space : AddressSpace) (msgPtr : XmU32)
    (size : Nat)
    : copyOut (copyIn buffer space msgPtr size) size = copyOut (bytesFrom space msgPtr) size := by
  unfold copyOut
  refine List.map_congr_left ?_
  intro i inside
  simp [copyIn, List.mem_range.mp inside]

-----------------------------------------------------------------------------------------
-- Queuing and taking a message

/-- A message leaves the tail of one list and enters the head of the other. -/
theorem move_message {lists : Lists QueueList Nat} {fromList toList : QueueList}
    {front others : List Nat} {msg : Nat} (different : toList ≠ fromList)
    (source : Holds lists fromList (front ++ [msg])) (target : Holds lists toList others)
    (apart : msg ∉ others) (distinct : msg ∉ front)
    : ∃ taken moved, dynListRemoveTail lists fromList = .ok (some msg, taken)
      ∧ dynListInsertHead taken toList msg = .ok moved
      ∧ Holds moved fromList front ∧ Holds moved toList (msg :: others) := by
  obtain ⟨taken, removed, held, unlinked, removing⟩ := dynListRemoveTail_holds source
  have other := removing.others toList others different apart target
  obtain ⟨moved, inserted, grown, inserting⟩ := dynListInsertHead_holds other unlinked
  have kept := inserting.others fromList front different.symm distinct held
  exact ⟨taken, moved, removed, inserted, kept, grown⟩

/-- With room left, queuing takes the last free message, and the queue grows by the bytes
sent.
-/
theorem Pool.enqueue {n : Nat} {channel : QueuingChannel} {free recv : List Nat}
    (pool : Pool n channel free recv) (room : channel.usedMsgs < n) (space : AddressSpace)
    (msgPtr : XmU32) (size : Nat)
    : ∃ queued free' msg, channel.enqueue space msgPtr size = .ok queued
      ∧ Pool n queued free' (msg :: recv)
      ∧ queued.queue (msg :: recv)
        = channel.queue recv ++ [copyOut (bytesFrom space msgPtr) size] := by
  have total := pool.total
  have count := pool.count
  obtain ⟨free', msg, rfl⟩ : ∃ free' msg, free = free' ++ [msg] := by
    have nonempty : free ≠ [] := by
      intro empty
      simp only [empty, List.length_nil] at total
      omega
    exact ⟨free.dropLast, free.getLast nonempty, (List.dropLast_append_getLast nonempty).symm⟩
  have nodup := pool.nodup
  have apart : msg ∉ recv := by
    intro inside
    simp only [List.append_assoc, List.singleton_append] at nodup
    exact (List.nodup_middle.mp nodup).notMem (List.mem_append_right _ inside)
  have distinct : msg ∉ free' := by
    intro inside
    simp only [List.append_assoc, List.singleton_append] at nodup
    exact (List.nodup_middle.mp nodup).notMem (List.mem_append_left _ inside)
  obtain ⟨taken, moved, removed, inserted, kept, grown⟩ :=
    move_message (by decide) pool.freeMsgs pool.recvMsgs apart distinct
  refine ⟨_, free', msg, by simp only [QueuingChannel.enqueue, removed, ok_bind, inserted]; rfl,
    ?_, ?_⟩
  · refine { freeMsgs := kept, recvMsgs := grown, shared := ?_, count := ?_ }
    · have shared := pool.shared
      simp only [List.append_assoc, List.singleton_append] at shared
      exact shared
    · simp [count]
  · unfold QueuingChannel.queue
    rw [List.reverse_cons, List.map_append]
    congr 1
    · refine List.map_congr_left ?_
      intro m inside
      have other : m ≠ msg := by
        intro same
        exact apart (same ▸ List.mem_reverse.mp inside)
      simp [QueuingChannel.message, other]
    · simp [QueuingChannel.message, copyOut_copyIn]

/-- Taking the oldest message hands out its first bytes and gives it back to the pool. -/
theorem Pool.dequeue {n : Nat} {channel : QueuingChannel} {free recv : List Nat}
    (pool : Pool n channel free recv) (used : 0 < channel.usedMsgs) (size : Nat)
    : ∃ oldest left recv' msg, channel.dequeue size = .ok (oldest.take size, left)
      ∧ Pool n left (msg :: free) recv'
      ∧ channel.queue recv = oldest :: left.queue recv' := by
  have count := pool.count
  obtain ⟨recv', msg, rfl⟩ : ∃ recv' msg, recv = recv' ++ [msg] := by
    have nonempty : recv ≠ [] := by
      intro empty
      simp only [empty, List.length_nil] at count
      omega
    exact ⟨recv.dropLast, recv.getLast nonempty, (List.dropLast_append_getLast nonempty).symm⟩
  have nodup := pool.nodup
  have middle : (msg :: (free ++ recv')).Nodup := by
    refine (List.Perm.nodup_iff ?_).mp nodup
    rw [← List.append_assoc]
    exact List.perm_append_singleton _ _
  have apart : msg ∉ free := fun inside => middle.notMem (List.mem_append_left _ inside)
  have distinct : msg ∉ recv' := fun inside => middle.notMem (List.mem_append_right _ inside)
  obtain ⟨taken, moved, removed, inserted, kept, grown⟩ :=
    move_message (by decide) pool.recvMsgs pool.freeMsgs apart distinct
  have dequeued : channel.dequeue size = .ok ((channel.message msg).take size,
      { channel with lists := moved, usedMsgs := channel.usedMsgs - 1 }) := by
    simp only [QueuingChannel.dequeue, removed, ok_bind, inserted]
    rw [copyOut_take]
    rfl
  refine ⟨channel.message msg, _, recv', msg, dequeued, ?_, ?_⟩
  · refine { freeMsgs := grown, recvMsgs := kept, shared := ?_, count := ?_ }
    · refine List.Perm.trans ?_ pool.shared
      rw [← List.append_assoc]
      exact (List.perm_append_singleton msg (free ++ recv')).symm
    · simp [count]
  · simp [QueuingChannel.queue, QueuingChannel.message]

-----------------------------------------------------------------------------------------
-- Setting the pool up

/-- The loop of `SetupComm` adds the messages from index `i` on to the free list. -/
theorem fillPool_holds (left i : Nat) {lists : Lists QueueList Nat} {free : List Nat}
    (held : Holds lists .freeMsgs free) (empty : Holds lists .recvMsgs [])
    (unlinked : ∀ msg, i ≤ msg → Unlinked lists msg)
    : ∃ filled, fillPool left i lists = .ok filled
      ∧ Holds filled .freeMsgs ((List.range' i left).reverse ++ free)
      ∧ Holds filled .recvMsgs [] := by
  induction left generalizing i lists free with
  | zero => exact ⟨lists, rfl, by simpa using held, empty⟩
  | succ left ih =>
      obtain ⟨grown, inserted, held', frame⟩ :=
        dynListInsertHead_holds held (unlinked i (Nat.le_refl i))
      have empty' := frame.others .recvMsgs [] (by decide) (by simp) empty
      obtain ⟨filled, rest, all, none⟩ := ih (i + 1) held' empty' (by
        intro msg above
        exact frame.unlinked msg (by omega) (unlinked msg (by omega)))
      refine ⟨filled, by simp only [fillPool, inserted, ok_bind, rest], ?_, none⟩
      simpa [List.range'_succ] using all

theorem emptyLists_holds (l : QueueList) : Holds emptyLists l [] where
  distinct := List.nodup_nil
  circle := by simp [Ring.Links.Circle]
  head_eq := by cases l <;> rfl
  noElem_eq := by cases l <;> rfl
  owned := by simp

theorem emptyLists_unlinked (msg : Nat) : Unlinked emptyLists msg where
  list := rfl
  prev := rfl
  next := rfl

/-- A queuing channel starts with every message free. -/
theorem setupChannel_queuing (maxLength n : Nat)
    : ∃ channel free, setupChannel (.queuing maxLength n) = .ok (.queuing channel)
      ∧ Pool n channel free [] := by
  obtain ⟨filled, fill, free, recv⟩ :=
    fillPool_holds n 0 (emptyLists_holds .freeMsgs) (emptyLists_holds .recvMsgs)
      (fun msg _ => emptyLists_unlinked msg)
  refine ⟨_, (List.range' 0 n).reverse ++ [], by simp only [setupChannel, fill, ok_bind]; rfl, ?_⟩
  exact
    { freeMsgs := free
      recvMsgs := recv
      shared := by
        simp only [List.append_nil, List.range_eq_range']
        exact List.reverse_perm _
      count := rfl }

/-- The state `SetupComm` leaves when every vCPU exists and has room for two ports. -/
def setupState (cfg : Config) : State where
  portTab _ :=
    { flags := { opened := false, newMsg := false, consumedMsg := false }, partitionId := 0 }
  channelTab c := (setupChannel (cfg.xmcCommChannelTab c)).toOption.getD (.sampling .zero)
  kThreadTab _ _ := some { flags := 0, g := none }
  pct _ _ := { noCommPorts := 2, words := fun _ => 0 }

theorem setupState_setup (cfg : Config) : SetupComm cfg (setupState cfg) where
  ports _ := rfl
  channels c _ := by
    cases configured : cfg.xmcCommChannelTab c with
    | sampling => simp [setupState, configured, setupChannel, Except.toOption]
    | queuing maxLength n =>
        obtain ⟨channel, _, setup, -⟩ := setupChannel_queuing maxLength n
        simp [setupState, configured, setup, Except.toOption]

/-- A call with "A" at 0x1000 and "B" at 0x2000. -/
def namedCall (caller : XmU32) (op : Op) : Call where
  caller := caller
  vCpu := 0
  space :=
    { byte := fun addr => if addr = 0x1000 then 65 else if addr = 0x2000 then 66 else 0
      readable := fun _ => true
      writable := fun _ => true }
  now := 5
  op := op

/-- Channel `c` stands for a queue of at most `n` messages. -/
def Represents (n c : Nat) (s : State) (queue : List (List (BitVec 8))) : Prop :=
  ∃ channel free recv, s.channelTab c = .queuing channel ∧ Pool n channel free recv
    ∧ queue = channel.queue recv

theorem Represents.congr {n c : Nat} {s s' : State} {queue : List (List (BitVec 8))}
    (represents : Represents n c s queue) (same : s'.channelTab c = s.channelTab c)
    : Represents n c s' queue := by
  obtain ⟨channel, free, recv, queuing, pool, rfl⟩ := represents
  exact ⟨channel, free, recv, same.trans queuing, pool, rfl⟩

end XtratuM.Objects
