import XtratuM.Kernel.Base

/-! The configuration parser: the parts of an XML document that the modelled passes read, and
the ways the parser gives a document up.
-/

namespace XtratuM.Parser

/-- The `LineError` and `EPrintF` calls of the modelled passes, with the values they print but
for line numbers.
-/
inductive ParseError
  /-- "incorrect partition id (%d)" -/
  | incorrectPartitionId (partitionId : Nat)
  /-- "incorrect vCpu id (%d)" -/
  | incorrectVCpuId (vCpuId : Nat)
  /-- "vCpu (%d, %d) assigned to CPU %d and %d" -/
  | assignedTwice (partitionId vCpuId : Nat) (cpu : Int) (other : Nat)
  /-- "too many virtual Cpus (%d) allocated to the partition" -/
  | tooManyVCpus (noVCpus : Nat)
  /-- "no more than %d cpus are supported" -/
  | tooManyCpus
  /-- "XtratuM only supports a maximum of %d kthreads, the configuration file defines a total of
  %d kthreads"
  -/
  | tooManyKThreads (noKThreads : Nat)
  /-- "Invalid ipvi id %d" -/
  | invalidIpviId (ipviId : Int)
  /-- "Duplicated ipvi partition destination" -/
  | duplicatedDestination
  /-- "source partition %d doesn't exist" -/
  | noSourcePartition (id : Int)
  /-- "destination partition %d doesn't exist" -/
  | noDestinationPartition (id : Int)
  /-- "memory region start address (0x%x) shall be aligned to 0x%x" -/
  | unalignedRegion (startAddr : XmU32)
  /-- "memory region size (%d) is not multiple of %d" -/
  | regionSize (size : XmU32)
  /-- "memory region [0x%x - 0x%x] overlaps [0x%x - 0x%x]" -/
  | regionsOverlap (s0 e0 s1 e1 : XmU32)
  /-- "memory area start address (0x%x) shall be aligned to 0x%x" -/
  | unalignedArea (startAddr : XmU32)
  /-- "memory area size (%d) is not multiple of %d" -/
  | areaSize (size : XmU32)
  /-- "memory area [0x%x - 0x%x] overlaps a memory area [0x%x - 0x%x] reserved for XM" -/
  | reservedArea (s0 e0 s1 e1 : XmU32)
  /-- "memory area [0x%x - 0x%x] is not covered by any memory region" -/
  | notCovered (s0 e0 : XmU32)
  /-- "memory area [0x%x - 0x%x] overlaps [0x%x - 0x%x]" -/
  | areasOverlap (s0 e0 s1 e1 : XmU32)
  /-- "virtual memory area [0x%x - 0x%x] overlaps [0x%x - 0x%x]" -/
  | virtualAreasOverlap (s0 e0 s1 e1 : XmU32)
  /-- "memory region (0x%x) unsorted" -/
  | unsortedRegion (startAddr : Nat)
  /-- "memory area (0x%x) unsorted" -/
  | unsortedArea (startAddr : Nat)
  /-- "port name \"%s\" duplicated (line %d)" -/
  | duplicatedPortName (name : String)
  /-- "partition name \"%s\" mismatches with the expected one \"%s\"" -/
  | partitionNameMismatch (name expected : String)
  /-- "port \"%s\" not found" -/
  | portNotFound (name : String)
  /-- "channel type mismatches with the type of the port" -/
  | channelType
  /-- "channel direction mismatches with the direction of the port" -/
  | channelDirection
  /-- "io-ports [0x%lx:%d] reserved for XM ([0x%lx:%d])" -/
  | reservedIoPorts (base noPorts reserved offset : XmU32)
  /-- "slot id (%d) shall be consecutive starting at 0" -/
  | slotId (id : Int)
  /-- "Cyclic plan id (%d) shall be consecutive starting at 0" -/
  | cyclicPlanId (id : Int)
  /-- "slot %d ([%lu - %lu] usec) overlaps slot %d ([%lu - %lu] usec)" -/
  | slotsOverlap (slot : Nat) (s0 e0 : XmU32) (before : Int) (s1 e1 : XmU32)
  /-- "last slot ([%lu - %lu] usec) overlaps major frame (%lu usec)" -/
  | majorFrameOverlap (s0 e0 majorFrame : XmU32)
  /-- A use of an entry outside a table of the parser. -/
  | badAccess
  deriving DecidableEq, Repr

/-- Stops at the first element with an error. -/
def checkAll {α : Type} (error : α → Option ParseError) (elements : List α)
    : Except ParseError Unit :=
  match elements.findSome? error with
  | some e => .error e
  | none => .ok ()

theorem checkAll_ok {α : Type} {error : α → Option ParseError} {elements : List α}
    : checkAll error elements = .ok () ↔ ∀ element ∈ elements, error element = none := by
  unfold checkAll
  cases found : elements.findSome? error with
  | none => exact iff_of_true rfl (List.findSome?_eq_none_iff.mp found)
  | some e =>
      refine iff_of_false (by simp) ?_
      intro clean
      rw [List.findSome?_eq_none_iff.mpr clean] at found
      cases found

/-- A property of the accumulator and the elements seen that every step of a loop keeps. -/
theorem foldlM_preserves {ε σ α : Type} {step : σ → α → Except ε σ} {P : List α → σ → Prop}
    (keep : ∀ seen s element s', P seen s → step s element = .ok s' → P (seen ++ [element]) s')
    {seen elements : List α} {s s' : σ} (initial : P seen s)
    (returned : elements.foldlM step s = .ok s')
    : P (seen ++ elements) s' := by
  induction elements generalizing seen s with
  | nil =>
      cases returned
      rw [List.append_nil]
      exact initial
  | cons element rest ih =>
      rw [List.foldlM_cons] at returned
      obtain ⟨next, stepped, returned⟩ := bind_eq_ok.mp returned
      have after := ih (keep seen s element next initial stepped) returned
      rwa [List.append_assoc] at after

/-- A property of the accumulator alone. -/
theorem foldlM_keeps {ε σ α : Type} {step : σ → α → Except ε σ} {P : σ → Prop}
    (keep : ∀ s element s', P s → step s element = .ok s' → P s') {elements : List α} {s s' : σ}
    (initial : P s) (returned : elements.foldlM step s = .ok s')
    : P s' :=
  @foldlM_preserves ε σ α step (fun _ => P) (fun _ s element s' => keep s element s') [] elements
    s s' initial returned

/-- A loop none of whose steps fails returns. -/
theorem foldlM_returns {ε σ α : Type} {step : σ → α → Except ε σ} {elements : List α}
    (returns : ∀ element ∈ elements, ∀ s, ∃ s', step s element = .ok s') (s : σ)
    : ∃ s', elements.foldlM step s = .ok s' := by
  induction elements generalizing s with
  | nil => exact ⟨s, rfl⟩
  | cons element rest ih =>
      obtain ⟨next, stepped⟩ := returns element List.mem_cons_self s
      obtain ⟨last, returned⟩ :=
        ih (fun later member => returns later (List.mem_cons_of_mem _ member)) next
      refine ⟨last, ?_⟩
      rw [List.foldlM_cons, stepped, ok_bind, returned]

end XtratuM.Parser
