import XtratuM.Faults.Traps

/-! What `HmRaiseEvent` reads in the logs of the handlers: each event comes out as it was put in,
but for an unexpected interrupt while the processor is idle.
-/

namespace XtratuM.Faults

open XtratuM.Objects (XmHmLog hmEvent kid2PartId kid2VCpuId partitionErrorLog
  HMLOG_OPCODE_EVENT_BIT HMLOG_OPCODE_EVENT_MASK HMLOG_OPCODE_PARTID_BIT HMLOG_OPCODE_PARTID_MASK
  HMLOG_OPCODE_VCPUID_BIT HMLOG_OPCODE_SYS_MASK XM_HM_EV_PARTITION_ERROR)
open XtratuM.Hypercalls (Caller)

/-- A vCPU of the configuration. -/
structure Inside (cfg : Config) (k : Caller) : Prop where
  partitionId : k.partitionId < cfg.calls.noPartitions
  vCpuId : k.vCpuId < cfg.calls.noVCpus k.partitionId

/-- `CheckMaxNoKThreads` leaves at most 255 kthreads, so the identifiers fit their fields. -/
structure Small (cfg : Config) : Prop where
  noPartitions : cfg.calls.noPartitions ≤ 255
  noVCpus : ∀ p, cfg.calls.noVCpus p ≤ 255

theorem getLsbD_of_lt {word : XmU32} {n i : Nat} (below : word.toNat < 2 ^ n) (high : n ≤ i)
    : word.getLsbD i = false := by
  rw [BitVec.getLsbD]
  exact Nat.testBit_lt_two_pow (lt_of_lt_of_le below (Nat.pow_le_pow_right (by decide) high))

theorem Inside.partition_bits {cfg : Config} {k : Caller} (inside : Inside cfg k)
    (small : Small cfg) {i : Nat} (high : 8 ≤ i)
    : k.partitionId.getLsbD i = false := by
  have below := inside.partitionId
  have bound := small.noPartitions
  rw [BitVec.lt_def] at below
  rw [BitVec.le_def] at bound
  have size : (255 : XmU32).toNat = 255 := rfl
  exact getLsbD_of_lt (n := 8) (by omega) high

theorem Inside.partition {cfg : Config} {k : Caller} (inside : Inside cfg k)
    (small : Small cfg)
    : k.partitionId ≠ XM_HYPERVISOR_ID := by
  intro same
  have below := inside.partitionId
  have bound := small.noPartitions
  rw [BitVec.lt_def] at below
  rw [BitVec.le_def] at bound
  have last : k.partitionId.toNat = 255 := by
    rw [same]
    rfl
  have size : (255 : XmU32).toNat = 255 := rfl
  omega

theorem Inside.vCpu_bits {cfg : Config} {k : Caller} (inside : Inside cfg k)
    (small : Small cfg) {i : Nat} (high : 8 ≤ i)
    : k.vCpuId.getLsbD i = false := by
  have below := inside.vCpuId
  have bound := small.noVCpus k.partitionId
  rw [BitVec.lt_def] at below
  rw [BitVec.le_def] at bound
  have size : (255 : XmU32).toNat = 255 := rfl
  exact getLsbD_of_lt (n := 8) (by omega) high

theorem getLsbD_byteMask {i : Nat} (inside : i < 32)
    : (0xff : XmU32).getLsbD i = decide (i < 8) := by
  revert i
  decide

theorem getLsbD_eventMask {i : Nat} (inside : i < 32)
    : HMLOG_OPCODE_EVENT_MASK.getLsbD i = decide (16 ≤ i) := by
  revert i
  decide

/-- `KID2PARTID` and `KID2VCPUID` take a kthread's identifier apart. -/
theorem Inside.kid2PartId {cfg : Config} {k : Caller} (inside : Inside cfg k)
    (small : Small cfg)
    : kid2PartId (kidOf k) = k.partitionId := by
  apply BitVec.eq_of_getLsbD_eq
  intro i low
  unfold Objects.kid2PartId kidOf
  rw [BitVec.getLsbD_and, BitVec.getLsbD_or, BitVec.getLsbD_shiftLeft, BitVec.getLsbD_and,
    getLsbD_byteMask low]
  by_cases field : i < 8
  · simp [field]
  · simp [field, inside.partition_bits small (Nat.not_lt.mp field)]

theorem Inside.kid2VCpuId {cfg : Config} {k : Caller} (inside : Inside cfg k)
    (small : Small cfg)
    : kid2VCpuId (kidOf k) = k.vCpuId := by
  apply BitVec.eq_of_getLsbD_eq
  intro i low
  unfold Objects.kid2VCpuId kidOf
  rw [BitVec.getLsbD_ushiftRight, BitVec.getLsbD_or, BitVec.getLsbD_shiftLeft, BitVec.getLsbD_and]
  by_cases field : i < 8
  · have place : 8 + i < 32 := by omega
    have high : ¬ 8 + i < 8 := by omega
    rw [getLsbD_byteMask place]
    simp [place, high]
  · have clear := inside.vCpu_bits small (Nat.not_lt.mp field)
    have masked : (0xff : XmU32).getLsbD (8 + i) = false := by
      by_cases place : 8 + i < 32
      · rw [getLsbD_byteMask place]
        simp
      · exact BitVec.getLsbD_of_ge _ _ (Nat.not_lt.mp place)
    rw [masked]
    simp [clear]

/-- The bits of the running kthread lie below those of the event. -/
theorem opCodeKid_high {cfg : Config} {current : Option Caller}
    (inside : ∀ k, current = some k → Inside cfg k) (small : Small cfg) {i : Nat} (high : 16 ≤ i)
    : (opCodeKid current).getLsbD i = false := by
  cases current with
  | none => simp [opCodeKid]
  | some k =>
      have isInside := inside k rfl
      have eight : 8 ≤ i := by omega
      have shifted : 8 ≤ i - 8 := by omega
      rw [opCodeKid, isInside.kid2PartId small, isInside.kid2VCpuId small, BitVec.getLsbD_or,
        BitVec.getLsbD_shiftLeft, BitVec.getLsbD_shiftLeft]
      simp [HMLOG_OPCODE_PARTID_BIT, HMLOG_OPCODE_VCPUID_BIT,
        isInside.partition_bits small eight, isInside.vCpu_bits small shifted]

/-- The event that is read is the one that was put in. -/
theorem event_read {cfg : Config} {current : Option Caller}
    (inside : ∀ k, current = some k → Inside cfg k) (small : Small cfg) {event : XmU32}
    (below : event.toNat < 2 ^ 16)
    : ((opCodeKid current ||| event <<< HMLOG_OPCODE_EVENT_BIT) &&& HMLOG_OPCODE_EVENT_MASK)
        >>> HMLOG_OPCODE_EVENT_BIT
      = event := by
  apply BitVec.eq_of_getLsbD_eq
  intro i low
  have bit : HMLOG_OPCODE_EVENT_BIT = 16 := rfl
  rw [bit, BitVec.getLsbD_ushiftRight, BitVec.getLsbD_and, BitVec.getLsbD_or,
    BitVec.getLsbD_shiftLeft]
  by_cases field : i < 16
  · have place : 16 + i < 32 := by omega
    rw [getLsbD_eventMask place, opCodeKid_high inside small (Nat.le_add_right 16 i)]
    simp [place]
  · have clear := getLsbD_of_lt below (Nat.not_lt.mp field)
    simp [clear, BitVec.getLsbD_of_ge HMLOG_OPCODE_EVENT_MASK (16 + i) (by omega)]

theorem partition_read {cfg : Config} {k : Caller} (inside : Inside cfg k) (small : Small cfg)
    (event : XmU32)
    : ((opCodeKid (some k) ||| event <<< HMLOG_OPCODE_EVENT_BIT) &&& HMLOG_OPCODE_PARTID_MASK)
        >>> HMLOG_OPCODE_PARTID_BIT
      = k.partitionId := by
  apply BitVec.eq_of_getLsbD_eq
  intro i low
  have bit : HMLOG_OPCODE_EVENT_BIT = 16 := rfl
  have here : HMLOG_OPCODE_PARTID_BIT = 0 := rfl
  have next : HMLOG_OPCODE_VCPUID_BIT = 8 := rfl
  have mask : HMLOG_OPCODE_PARTID_MASK = 0xff := rfl
  rw [bit, here, mask, BitVec.getLsbD_ushiftRight, BitVec.getLsbD_and, BitVec.getLsbD_or,
    BitVec.getLsbD_shiftLeft, Nat.zero_add, getLsbD_byteMask low, opCodeKid,
    inside.kid2PartId small, BitVec.getLsbD_or, here, next, BitVec.getLsbD_shiftLeft,
    BitVec.getLsbD_shiftLeft]
  by_cases field : i < 8
  · have lower : i < 16 := by omega
    simp [field, lower, low]
  · simp [field, inside.partition_bits small (Nat.not_lt.mp field)]

-----------------------------------------------------------------------------------------
-- The logs

theorem panicLog_event {cfg : Config} {c : Circumstances}
    (inside : ∀ k, c.current = some k → Inside cfg k) (small : Small cfg) (system : XmU32)
    : (hmEvent (panicLog c system)).eventId = XM_HM_EV_INTERNAL_ERROR :=
  event_read inside small (by decide)

theorem panicLog_partition {cfg : Config} {c : Circumstances} {k : Caller}
    (current : c.current = some k) (inside : Inside cfg k) (small : Small cfg) (system : XmU32)
    : (hmEvent (panicLog c system)).partitionId = k.partitionId := by
  simp only [hmEvent, panicLog, current]
  exact partition_read inside small XM_HM_EV_INTERNAL_ERROR

theorem panicLog_system (c : Circumstances)
    : (hmEvent (panicLog c HMLOG_OPCODE_SYS_MASK)).system = true := by
  have marked :
      (HMLOG_OPCODE_SYS_MASK ||| HMLOG_OPCODE_VALID_CPUCTXT_MASK) &&& HMLOG_OPCODE_SYS_MASK
        ≠ 0 := by
    decide
  exact decide_eq_true marked

theorem panicLog_partition_event (c : Circumstances)
    : (hmEvent (panicLog c 0)).system = false := by
  have unmarked :
      ¬ ((0 ||| HMLOG_OPCODE_VALID_CPUCTXT_MASK) &&& HMLOG_OPCODE_SYS_MASK ≠ 0) := by
    decide
  exact decide_eq_false unmarked

theorem trapLog_event {cfg : Config} {c : Circumstances}
    (inside : ∀ k, c.current = some k → Inside cfg k) (small : Small cfg) (system : Bool)
    {event : XmU32} (below : event.toNat < 2 ^ 16)
    : (hmEvent (trapLog c system event)).eventId = event := by
  simp only [hmEvent, trapLog]
  rw [BitVec.or_comm]
  exact event_read inside small below

theorem trapLog_partition {cfg : Config} {c : Circumstances} {k : Caller}
    (current : c.current = some k) (inside : Inside cfg k) (small : Small cfg) (system : Bool)
    (event : XmU32)
    : (hmEvent (trapLog c system event)).partitionId = k.partitionId := by
  simp only [hmEvent, trapLog, current]
  rw [BitVec.or_comm (event <<< HMLOG_OPCODE_EVENT_BIT)]
  exact partition_read inside small event

theorem trapLog_system (c : Circumstances) (system : Bool) (event : XmU32)
    : (hmEvent (trapLog c system event)).system = system := by
  cases system with
  | true => exact panicLog_system c
  | false => exact panicLog_partition_event c

theorem partEventLog_event {cfg : Config} {k : Caller} (inside : Inside cfg k)
    (small : Small cfg) {event : XmU32} (below : event.toNat < 2 ^ 16)
    : (hmEvent (partEventLog event k)).eventId = event := by
  have isInside : ∀ other, some k = some other → Inside cfg other :=
    fun other running => Option.some.inj running ▸ inside
  simp only [hmEvent, partEventLog]
  rw [BitVec.or_comm]
  exact event_read isInside small below

theorem partEventLog_partition {cfg : Config} {k : Caller} (inside : Inside cfg k)
    (small : Small cfg) (event : XmU32)
    : (hmEvent (partEventLog event k)).partitionId = k.partitionId := by
  simp only [hmEvent, partEventLog]
  rw [BitVec.or_comm]
  exact partition_read inside small event

theorem partEventLog_system (event : XmU32) (k : Caller)
    : (hmEvent (partEventLog event k)).system = false := by
  have unmarked : ¬ ((0 : XmU32) &&& HMLOG_OPCODE_SYS_MASK ≠ 0) := by decide
  exact decide_eq_false unmarked

theorem partitionErrorLog_event {cfg : Config} {k : Caller} (inside : Inside cfg k)
    (small : Small cfg) (stack : XmHmLog) (payload : Fin 16 → BitVec 8)
    : (hmEvent (partitionErrorLog (kidOf k) stack payload)).eventId
      = XM_HM_EV_PARTITION_ERROR := by
  have isInside : ∀ other, some k = some other → Inside cfg other :=
    fun other running => Option.some.inj running ▸ inside
  exact event_read isInside small (by decide)

theorem partitionErrorLog_partition {cfg : Config} {k : Caller} (inside : Inside cfg k)
    (small : Small cfg) (stack : XmHmLog) (payload : Fin 16 → BitVec 8)
    : (hmEvent (partitionErrorLog (kidOf k) stack payload)).partitionId = k.partitionId :=
  partition_read inside small XM_HM_EV_PARTITION_ERROR

theorem or_zero_word (word : XmU32) : word ||| 0 = word :=
  BitVec.or_zero

/-- The interrupt's number leaves nothing in the log. -/
theorem irqNr_shifted_out (irqNr : XmU32)
    : (irqNr &&& HMLOG_OPCODE_EVENT_MASK) <<< (HMLOG_OPCODE_EVENT_BIT + 8) = 0 := by
  apply BitVec.eq_of_getLsbD_eq
  intro i low
  have bit : HMLOG_OPCODE_EVENT_BIT + 8 = 24 := rfl
  have place : i - 24 < 32 := by omega
  have masked : ¬ 16 ≤ i - 24 := by omega
  rw [bit, BitVec.getLsbD_shiftLeft, BitVec.getLsbD_and, getLsbD_eventMask place]
  simp [masked]

theorem irqLog_event {cfg : Config} {c : Circumstances} {k : Caller}
    (current : c.current = some k) (inside : Inside cfg k) (small : Small cfg) (irqNr : XmU32)
    : (hmEvent (irqLog c irqNr)).eventId = XM_HM_EV_UNEXPECTED_TRAP := by
  have isInside : ∀ other, some k = some other → Inside cfg other :=
    fun other running => Option.some.inj running ▸ inside
  simp only [hmEvent, irqLog, irqKid, current]
  rw [irqNr_shifted_out, or_zero_word, BitVec.or_comm]
  exact event_read isInside small (by decide)

/-- While the processor is idle the log names an event that does not exist. -/
theorem irqLog_idle {c : Circumstances} (idle : c.current = none) (irqNr : XmU32)
    : (hmEvent (irqLog c irqNr)).eventId = 0xff := by
  simp only [hmEvent, irqLog, irqKid, idle]
  rw [irqNr_shifted_out]
  rfl

theorem irqLog_system (c : Circumstances) (irqNr : XmU32)
    : (hmEvent (irqLog c irqNr)).system = true :=
  panicLog_system c

end XtratuM.Faults
