import XtratuM.Library.Painting
import XtratuM.Library.Runs
import XtratuM.Parser.Document

/-! The I/O ports of a partition: the map the parser builds of its `Range` elements, the table it
prints, and the map the kernel copies into the task state segment of each vCPU.
-/

namespace XtratuM.Parser
open Painting
open RunLength

/-- A `Range` element, with the numbers its attributes hold as `ToU32` reads them. -/
structure IoRange where
  base : XmU32
  noPorts : XmU32
  deriving DecidableEq, Repr

def IoRange.Contains (range : IoRange) (port : Nat) : Prop :=
  range.base.toNat ≤ port ∧ port < range.base.toNat + range.noPorts.toNat

/-- An entry of the `rsvIoPorts` table, which the build extracts from the `RESERVE_IOPORTS` uses of
the kernel.
-/
structure RsvIoPort where
  base : XmU32
  offset : XmU32
  deriving DecidableEq, Repr

def RsvIoPort.Contains (reserved : RsvIoPort) (port : Nat) : Prop :=
  reserved.base.toNat ≤ port ∧ port < reserved.base.toNat + reserved.offset.toNat

structure RsvIoPorts where
  ports : List RsvIoPort
  nonempty : ∀ reserved ∈ ports, 0 < reserved.offset.toNat
  below : ∀ reserved ∈ ports, reserved.base.toNat + reserved.offset.toNat ≤ 65528

/-- The fields of `struct xmcPartition` and `struct xmcIoPort` that the handlers write. -/
structure IoPortTab where
  noIoPorts : XmU32
  map : Nat → XmU32

-----------------------------------------------------------------------------------------
-- Parsing and printing

/-- The port `d` of `IoPortRange_NH1`. -/
def IoRange.last (range : IoRange) : XmU32 := range.base + range.noPorts - 1

/-- The port `b` of `IoPortRange_NH1`. -/
def RsvIoPort.last (reserved : RsvIoPort) : XmU32 := reserved.base + reserved.offset - 1

def IoRange.reservedError (range : IoRange) (reserved : RsvIoPort) : Option ParseError :=
  if ¬ (range.last < reserved.base ∨ reserved.last ≤ range.base) then
    some (.reservedIoPorts range.base range.noPorts reserved.base reserved.offset)
  else
    none

/-- Clears the bit of `port` in the 2048 words of the map. -/
def grantPort (map : Nat → XmU32) (port : Nat) : Except ParseError (Nat → XmU32) :=
  if port / 32 < 2048 then
    .ok (Function.update map (port / 32) (map (port / 32) &&& ~~~((1 : XmU32) <<< (port % 32))))
  else
    .error .badAccess

/-- The painting loop of `IoPortRange_NH1`, over the `n` ports from `port` on. -/
def grantPorts (map : Nat → XmU32) (port : Nat) : Nat → Except ParseError (Nat → XmU32)
  | 0 => .ok map
  | n + 1 => do
      let map ← grantPort map port
      grantPorts map (port + 1) n

/-- `NoPortsRange_AH` and `IoPortRange_NH1`. -/
def ioPortRange (rsvIoPorts : List RsvIoPort) (tab : IoPortTab) (range : IoRange)
    : Except ParseError IoPortTab := do
  checkAll range.reservedError rsvIoPorts
  let map ← grantPorts tab.map range.base.toNat (range.last.toNat - range.base.toNat)
  pure { noIoPorts := tab.noIoPorts + range.noPorts, map }

/-- `IoPorts_NH0`. -/
def ioPortsNH0 : IoPortTab where
  noIoPorts := 0
  map _ := ~~~ 0

def ioPorts (rsvIoPorts : List RsvIoPort) (ranges : List IoRange) : Except ParseError IoPortTab :=
  ranges.foldlM (ioPortRange rsvIoPorts) ioPortsNH0

/-- The initialisers `GenerateIoPortTab` prints for an entry. -/
def generateIoPortTab (map : Nat → XmU32) : List (Run XmU32) :=
  runs (Function.update map 2047 (map 2047 ||| 0xff000000)) 0 1 2047

/-- The I/O map of a task state segment; `none` when the segment has no map. -/
abbrev TssIoMap := Option (Nat → XmU32)

/-- What `SetupKThreadArch` does with the entry of the partition in `xmcIoPortTab`. -/
def setupTssIoMap (noIoPorts : XmU32) (map : List (Run XmU32)) : TssIoMap :=
  if 0 < noIoPorts.toInt then some (expand (fun _ => 0) map) else none

/-- The I/O map of the vCPUs of a partition with the given ranges. -/
def vCpuIoMap (rsvIoPorts : List RsvIoPort) (ranges : List IoRange)
    : Except ParseError TssIoMap := do
  let tab ← ioPorts rsvIoPorts ranges
  pure (setupTssIoMap tab.noIoPorts (generateIoPortTab tab.map))

-----------------------------------------------------------------------------------------
-- Ports as bits

/-- Bit of a port in the map: a partition may use the ports whose bit is clear. -/
def portBit (map : Nat → XmU32) (port : Nat) : Bool := (map (port / 32)).getLsbD (port % 32)

def TssIoMap.Grants (ioMap : TssIoMap) (port : Nat) : Prop :=
  ∃ map, ioMap = some map ∧ portBit map port = false

/-- The ports whose bits a range clears: its last port is not among them. -/
def IoRange.Paints (range : IoRange) (port : Nat) : Prop :=
  range.base.toNat ≤ port ∧ port < range.last.toNat

theorem grantPort_ok {map map' : Nat → XmU32} {port : Nat}
    : grantPort map port = .ok map'
      ↔ port < 65536 ∧ Function.update map (port / 32)
          (map (port / 32) &&& ~~~((1 : XmU32) <<< (port % 32))) = map' := by
  have bound : port / 32 < 2048 ↔ port < 65536 := by omega
  simp only [grantPort, bound]
  split <;> simp_all

theorem grantPort_painted {map map' : Nat → XmU32} {port : Nat}
    (granted : grantPort map port = .ok map')
    : Painted false (· = port) (portBit map) (portBit map') := by
  obtain ⟨-, rfl⟩ := grantPort_ok.mp granted
  have small : port % 32 < 32 := Nat.mod_lt _ (by decide)
  constructor
  · intro i here
    subst here
    simp only [portBit, Function.update_self, getLsbD_andNot_shiftLeft _ small]
    simp
  · intro i other
    by_cases word : i / 32 = port / 32
    · have bit : port % 32 ≠ i % 32 := by omega
      simp only [portBit, word, Function.update_self, getLsbD_andNot_shiftLeft _ small]
      simp [bit]
    · simp only [portBit, Function.update_of_ne word]

/-- By induction on the ports left to paint. -/
theorem grantPorts_painted {map map' : Nat → XmU32} {port n : Nat}
    (granted : grantPorts map port n = .ok map')
    : Painted false (fun i => port ≤ i ∧ i < port + n) (portBit map) (portBit map') := by
  induction n generalizing map port with
  | zero =>
      cases granted
      exact Painted.nothing (fun i here => by omega) _
  | succ n ih =>
      obtain ⟨next, stepped, granted⟩ := bind_eq_ok.mp granted
      apply ((grantPort_painted stepped).trans (ih granted)).congr
      intro i
      omega

theorem grantPorts_returns (map : Nat → XmU32) (port n : Nat)
    : (∃ map', grantPorts map port n = .ok map') ↔ n = 0 ∨ port + n ≤ 65536 := by
  induction n generalizing map port with
  | zero => exact iff_of_true ⟨map, rfl⟩ (.inl rfl)
  | succ n ih =>
      simp only [grantPorts, bind_eq_ok]
      constructor
      · rintro ⟨map', next, stepped, granted⟩
        have low := (grantPort_ok.mp stepped).1
        have rest := (ih next (port + 1)).mp ⟨map', granted⟩
        omega
      · intro inside
        obtain ⟨map', granted⟩ := (ih _ (port + 1)).mpr (by omega)
        exact ⟨map', _, grantPort_ok.mpr ⟨by omega, rfl⟩, granted⟩

-----------------------------------------------------------------------------------------
-- Ranges

/-- A range accepted by the parser: no reserved range makes its handler stop. -/
def IoRange.Accepted (rsvIoPorts : List RsvIoPort) (range : IoRange) : Prop :=
  ∀ reserved ∈ rsvIoPorts, range.reservedError reserved = none

instance (rsvIoPorts : List RsvIoPort) (range : IoRange)
    : Decidable (range.Accepted rsvIoPorts) :=
  inferInstanceAs (Decidable (∀ reserved ∈ rsvIoPorts, range.reservedError reserved = none))

theorem IoRange.reservedError_none {range : IoRange} {reserved : RsvIoPort}
    : range.reservedError reserved = none
      ↔ range.last < reserved.base ∨ reserved.last ≤ range.base := by
  unfold reservedError
  split
  · rename_i clash
    exact iff_of_false (by simp) clash
  · rename_i clear
    exact iff_of_true rfl (Decidable.not_not.mp clear)

/-- A range writes inside the map when it paints nothing or ends inside it. -/
def IoRange.Inside (range : IoRange) : Prop :=
  range.base.toNat < range.last.toNat → range.last.toNat ≤ 65536

theorem IoRange.inside_iff {range : IoRange}
    : range.Inside ↔ range.last.toNat - range.base.toNat = 0
      ∨ range.base.toNat + (range.last.toNat - range.base.toNat) ≤ 65536 := by
  unfold Inside
  omega

theorem ioPortRange_ok {rsvIoPorts : List RsvIoPort} {tab tab' : IoPortTab} {range : IoRange}
    (returned : ioPortRange rsvIoPorts tab range = .ok tab')
    : range.Inside ∧ tab'.noIoPorts = tab.noIoPorts + range.noPorts
      ∧ Painted false range.Paints (portBit tab.map) (portBit tab'.map) := by
  obtain ⟨-, -, returned⟩ := bind_eq_ok.mp returned
  obtain ⟨map, granted, returned⟩ := bind_eq_ok.mp returned
  cases returned
  refine ⟨IoRange.inside_iff.mpr ((grantPorts_returns _ _ _).mp ⟨map, granted⟩), rfl,
    (grantPorts_painted granted).congr fun i => ?_⟩
  unfold IoRange.Paints
  omega

theorem ioPortRange_returns {rsvIoPorts : List RsvIoPort} {range : IoRange}
    (accepted : range.Accepted rsvIoPorts) (inside : range.Inside) (tab : IoPortTab)
    : ∃ tab', ioPortRange rsvIoPorts tab range = .ok tab' := by
  obtain ⟨map, granted⟩ :=
    (grantPorts_returns tab.map _ _).mpr (IoRange.inside_iff.mp inside)
  rw [ioPortRange, checkAll_ok.mpr accepted, ok_bind]
  exact ⟨_, bind_eq_ok.mpr ⟨map, granted, rfl⟩⟩

/-- The number of ports of a partition, as the handlers add it up. -/
def totalPorts (ranges : List IoRange) : XmU32 :=
  ranges.foldl (fun total range => total + range.noPorts) 0

theorem totalPorts_append (ranges : List IoRange) (range : IoRange)
    : totalPorts (ranges ++ [range]) = totalPorts ranges + range.noPorts := by
  simp [totalPorts]

theorem ioPorts_ok {rsvIoPorts : List RsvIoPort} {ranges : List IoRange} {tab : IoPortTab}
    (returned : ioPorts rsvIoPorts ranges = .ok tab)
    : (∀ range ∈ ranges, range.Inside) ∧ tab.noIoPorts = totalPorts ranges
      ∧ Painted false (fun port => ∃ range ∈ ranges, range.Paints port)
        (portBit ioPortsNH0.map) (portBit tab.map) := by
  have nothing : Painted false (fun port => ∃ range ∈ ([] : List IoRange), range.Paints port)
      (portBit ioPortsNH0.map) (portBit ioPortsNH0.map) :=
    Painted.nothing (fun port here => by simp at here) _
  apply foldlM_preserves (P := fun seen tab =>
    (∀ range ∈ seen, range.Inside) ∧ tab.noIoPorts = totalPorts seen
      ∧ Painted false (fun port => ∃ range ∈ seen, range.Paints port)
        (portBit ioPortsNH0.map) (portBit tab.map))
    ?_ (⟨by simp, rfl, nothing⟩ : (∀ range ∈ ([] : List IoRange), range.Inside) ∧ _) returned
  rintro seen tab range tab' ⟨inside, total, painted⟩ stepped
  obtain ⟨fits, added, more⟩ := ioPortRange_ok stepped
  refine ⟨?_, by rw [added, total, totalPorts_append],
    (painted.trans more).congr fun port => ?_⟩
  · simpa [or_imp, forall_and] using ⟨inside, fits⟩
  · simp only [List.mem_append, List.mem_singleton, or_and_right, exists_or, exists_eq_left]

theorem ioPorts_returns {rsvIoPorts : List RsvIoPort} {ranges : List IoRange}
    (accepted : ∀ range ∈ ranges, range.Accepted rsvIoPorts)
    (inside : ∀ range ∈ ranges, range.Inside)
    : ∃ tab, ioPorts rsvIoPorts ranges = .ok tab :=
  foldlM_returns
    (fun range member => ioPortRange_returns (accepted range member) (inside range member))
    ioPortsNH0

-----------------------------------------------------------------------------------------
-- The map of a vCPU

/-- Expanding the printed initialisers changes no port below the last eight. -/
theorem expand_generateIoPortTab (map : Nat → XmU32) {port : Nat} (low : port < 65528)
    : portBit (expand (fun _ => 0) (generateIoPortTab map)) port = portBit map port := by
  have inside : port / 32 < 2048 := by omega
  unfold portBit generateIoPortTab
  rw [expand_runs_table _ _ 2048 inside]
  by_cases word : port / 32 = 2047
  · have high : port % 32 < 24 := by omega
    have clear : ∀ bit < 24, (0xff000000#32).getLsbD bit = false := by decide
    simp [word, clear _ high]
  · rw [Function.update_of_ne word]

theorem ioPortsNH0_denies {port : Nat} : portBit ioPortsNH0.map port = true := by
  have full : ∀ bit < 32, (~~~ 0 : XmU32).getLsbD bit = true := by decide
  exact full _ (Nat.mod_lt _ (by decide))

/-- A vCPU may use the ports some range paints, unless its partition counts no ports. -/
theorem vCpuIoMap_grants {rsvIoPorts : List RsvIoPort} {ranges : List IoRange}
    {ioMap : TssIoMap} (returned : vCpuIoMap rsvIoPorts ranges = .ok ioMap) {port : Nat}
    (low : port < 65528)
    : ioMap.Grants port
      ↔ 0 < (totalPorts ranges).toInt ∧ ∃ range ∈ ranges, range.Paints port := by
  obtain ⟨tab, parsed, returned⟩ := bind_eq_ok.mp returned
  cases returned
  obtain ⟨-, total, painted⟩ := ioPorts_ok parsed
  unfold TssIoMap.Grants setupTssIoMap
  rw [total]
  split
  · rename_i counted
    simp only [Option.some.injEq, exists_eq_left', expand_generateIoPortTab _ low, counted,
      true_and]
    constructor
    · intro clear
      apply painted.changed
      simp [clear, ioPortsNH0_denies]
    · exact painted.inside port
  · rename_i counted
    simp [counted]

theorem vCpuIoMap_returns {rsvIoPorts : List RsvIoPort} {ranges : List IoRange}
    (accepted : ∀ range ∈ ranges, range.Accepted rsvIoPorts)
    : (∃ ioMap, vCpuIoMap rsvIoPorts ranges = .ok ioMap) ↔ ∀ range ∈ ranges, range.Inside := by
  constructor
  · rintro ⟨ioMap, returned⟩
    obtain ⟨tab, parsed, -⟩ := bind_eq_ok.mp returned
    exact (ioPorts_ok parsed).1
  · intro inside
    obtain ⟨tab, parsed⟩ := ioPorts_returns accepted inside
    exact ⟨_, bind_eq_ok.mpr ⟨tab, parsed, rfl⟩⟩

-----------------------------------------------------------------------------------------
-- The configured ports

/-- When the vCPUs of a partition get the ports of its ranges, and no others. -/
structure PortsFit (rsvIoPorts : List RsvIoPort) (ranges : List IoRange) : Prop where
  inside : ∀ range ∈ ranges, range.Inside
  /-- Each port of a range comes before the last port of some range. -/
  covered : ∀ range ∈ ranges, ∀ port, port < 65528 → range.Contains port →
    ∃ other ∈ ranges, other.Paints port
  /-- No range of two ports or more starts at the last port of a reserved range. -/
  reserved : ∀ range ∈ ranges, range.base.toNat < range.last.toNat →
    ∀ reserved ∈ rsvIoPorts, range.base ≠ reserved.last
  counted : 0 < (totalPorts ranges).toInt
    ∨ ∀ range ∈ ranges, ∀ port, port < 65528 → ¬ range.Contains port

theorem RsvIoPorts.last_toNat (rsvIoPorts : RsvIoPorts) {reserved : RsvIoPort}
    (member : reserved ∈ rsvIoPorts.ports)
    : reserved.last.toNat + 1 = reserved.base.toNat + reserved.offset.toNat := by
  have nonempty := rsvIoPorts.nonempty reserved member
  have below := rsvIoPorts.below reserved member
  have one : (1 : XmU32).toNat = 1 := rfl
  simp only [RsvIoPort.last, BitVec.toNat_sub, BitVec.toNat_add, one]
  omega

/-- What a range inside the map paints are ports of its own. -/
theorem IoRange.Inside.contains {range : IoRange} (inside : range.Inside) {port : Nat}
    (painted : range.Paints port)
    : range.Contains port := by
  have high := inside (Nat.lt_of_le_of_lt painted.1 painted.2)
  have one : (1 : XmU32).toNat = 1 := rfl
  unfold Paints Contains at *
  simp only [IoRange.last, BitVec.toNat_sub, BitVec.toNat_add, one] at painted high
  omega

theorem PortsFit.denies_reserved {rsvIoPorts : RsvIoPorts} {ranges : List IoRange}
    (fit : PortsFit rsvIoPorts.ports ranges)
    (accepted : ∀ range ∈ ranges, range.Accepted rsvIoPorts.ports) {reserved : RsvIoPort}
    (member : reserved ∈ rsvIoPorts.ports) {port : Nat} (contains : reserved.Contains port)
    {range : IoRange} (configured : range ∈ ranges)
    : ¬ range.Paints port := by
  intro painted
  have last := rsvIoPorts.last_toNat member
  have start := fit.reserved range configured (Nat.lt_of_le_of_lt painted.1 painted.2)
    reserved member
  obtain ⟨low, high⟩ := contains
  rcases IoRange.reservedError_none.mp (accepted range configured reserved member)
    with before | after
  · have apart := BitVec.lt_def.mp before
    have bound := painted.2
    omega
  · have apart := BitVec.le_def.mp after
    have bound := painted.1
    apply start
    apply BitVec.eq_of_toNat_eq
    omega

/-- The map covers the ranges of a list exactly, and grants no port of the hypervisor. -/
def TssIoMap.Exact (ioMap : TssIoMap) (rsvIoPorts : List RsvIoPort) (ranges : List IoRange)
    : Prop :=
  (∀ port, port < 65528 → (ioMap.Grants port ↔ ∃ range ∈ ranges, range.Contains port))
    ∧ ∀ reserved ∈ rsvIoPorts, ∀ port, reserved.Contains port → ¬ ioMap.Grants port

theorem RsvIoPorts.contains_low (rsvIoPorts : RsvIoPorts) {reserved : RsvIoPort}
    (member : reserved ∈ rsvIoPorts.ports) {port : Nat} (contains : reserved.Contains port)
    : port < 65528 :=
  Nat.lt_of_lt_of_le contains.2 (rsvIoPorts.below reserved member)

theorem PortsFit.exact {rsvIoPorts : RsvIoPorts} {ranges : List IoRange}
    (fit : PortsFit rsvIoPorts.ports ranges)
    (accepted : ∀ range ∈ ranges, range.Accepted rsvIoPorts.ports) {ioMap : TssIoMap}
    (returned : vCpuIoMap rsvIoPorts.ports ranges = .ok ioMap)
    : ioMap.Exact rsvIoPorts.ports ranges := by
  constructor
  · intro port low
    rw [vCpuIoMap_grants returned low]
    constructor
    · rintro ⟨-, range, member, painted⟩
      exact ⟨range, member, (fit.inside range member).contains painted⟩
    · rintro ⟨range, member, contains⟩
      have counted := fit.counted.resolve_right
        fun none => none range member port low contains
      exact ⟨counted, fit.covered range member port low contains⟩
  · intro reserved member port contains granted
    have low := rsvIoPorts.contains_low member contains
    obtain ⟨-, range, configured, painted⟩ := (vCpuIoMap_grants returned low).mp granted
    exact fit.denies_reserved accepted member contains configured painted

theorem TssIoMap.Exact.fit {rsvIoPorts : RsvIoPorts} {ranges : List IoRange} {ioMap : TssIoMap}
    (returned : vCpuIoMap rsvIoPorts.ports ranges = .ok ioMap)
    (accepted : ∀ range ∈ ranges, range.Accepted rsvIoPorts.ports)
    (isExact : ioMap.Exact rsvIoPorts.ports ranges)
    : PortsFit rsvIoPorts.ports ranges := by
  have inside := (vCpuIoMap_returns accepted).mp ⟨ioMap, returned⟩
  have grants : ∀ range ∈ ranges, ∀ port, port < 65528 → range.Contains port →
      ioMap.Grants port :=
    fun range member port low contains => (isExact.1 port low).mpr ⟨range, member, contains⟩
  refine ⟨inside, ?_, ?_, ?_⟩
  · intro range member port low contains
    exact ((vCpuIoMap_grants returned low).mp (grants range member port low contains)).2
  · intro range member nonempty reserved hypervisor start
    have last := rsvIoPorts.last_toNat hypervisor
    have own : reserved.Contains range.base.toNat := by
      have positive := rsvIoPorts.nonempty reserved hypervisor
      unfold RsvIoPort.Contains
      rw [start]
      omega
    have low := rsvIoPorts.contains_low hypervisor own
    have contains := (inside range member).contains ⟨Nat.le_refl _, nonempty⟩
    exact isExact.2 reserved hypervisor _ own (grants range member _ low contains)
  · by_cases counted : 0 < (totalPorts ranges).toInt
    · exact .inl counted
    · refine .inr fun range member port low contains => counted ?_
      exact ((vCpuIoMap_grants returned low).mp (grants range member port low contains)).1

/-- A partition gets the ports of its accepted ranges exactly when no range relies on its own last
port, and none starts at the last port of a reserved range.
-/
theorem vCpu_gets_configured_ports {rsvIoPorts : RsvIoPorts} {ranges : List IoRange}
    (accepted : ∀ range ∈ ranges, range.Accepted rsvIoPorts.ports)
    : (∃ ioMap, vCpuIoMap rsvIoPorts.ports ranges = .ok ioMap
        ∧ ioMap.Exact rsvIoPorts.ports ranges)
      ↔ PortsFit rsvIoPorts.ports ranges := by
  constructor
  · rintro ⟨ioMap, returned, isExact⟩
    exact isExact.fit returned accepted
  · intro fit
    obtain ⟨ioMap, returned⟩ := (vCpuIoMap_returns accepted).mpr fit.inside
    exact ⟨ioMap, returned, fit.exact accepted returned⟩

/-- The ports the kernel reserves on a PC. -/
def pcIoPorts : RsvIoPorts where
  ports := [⟨0x20, 2⟩, ⟨0x40, 4⟩, ⟨0xa0, 2⟩, ⟨0x3f8, 5⟩]
  nonempty := by decide
  below := by decide

/-- Ports up to the end of the map. -/
def highPorts : IoRange where
  base := 0xfff0
  noPorts := 16

theorem highPorts_fit : PortsFit pcIoPorts.ports [highPorts] where
  inside := by
    intro range member _
    rw [List.mem_singleton.mp member]
    decide
  covered := by
    intro range member port low contains
    rw [List.mem_singleton.mp member] at contains
    have first : highPorts.base.toNat = 65520 := rfl
    have last : highPorts.last.toNat = 65535 := rfl
    refine ⟨highPorts, List.mem_singleton_self _, contains.1, ?_⟩
    omega
  reserved := by
    intro range member _
    rw [List.mem_singleton.mp member]
    decide
  counted := .inl (by decide)

theorem vCpu_gets_configured_ports_highPorts
    : ∃ ioMap, vCpuIoMap pcIoPorts.ports [highPorts] = .ok ioMap
        ∧ ioMap.Exact pcIoPorts.ports [highPorts] :=
  (vCpu_gets_configured_ports (by decide)).mpr highPorts_fit

/-- The keyboard controller's data port, as a range of one port. -/
def keyboardPort : IoRange where
  base := 0x60
  noPorts := 1

/-- A range of one port is accepted, and its port is not granted. -/
theorem single_port_denied
    : (∀ range ∈ [keyboardPort], range.Accepted pcIoPorts.ports)
      ∧ keyboardPort.Contains 0x60
      ∧ ∃ ioMap, vCpuIoMap pcIoPorts.ports [keyboardPort] = .ok ioMap
        ∧ ¬ ioMap.Grants 0x60 := by
  have accepted : ∀ range ∈ [keyboardPort], range.Accepted pcIoPorts.ports := by decide
  refine ⟨accepted, ⟨by decide, by decide⟩, ?_⟩
  obtain ⟨ioMap, returned⟩ := (vCpuIoMap_returns accepted).mpr (by
    intro range member _
    rw [List.mem_singleton.mp member]
    decide)
  refine ⟨ioMap, returned, ?_⟩
  rw [vCpuIoMap_grants returned (by decide)]
  rintro ⟨-, range, member, painted⟩
  rw [List.mem_singleton.mp member] at painted
  have last : keyboardPort.last.toNat = 96 := rfl
  have high := painted.2
  omega

end XtratuM.Parser
