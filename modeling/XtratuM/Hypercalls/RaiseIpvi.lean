import XtratuM.Kernel.KThread
import XtratuM.Parser.Ipvi

/-! `RaiseIpviSys` over the tables the parser emits: which vCPUs it marks. -/

namespace XtratuM.Hypercalls

open XtratuM.Parser

def XM_VT_EXT_IPVI0 : Nat := 24

-----------------------------------------------------------------------------------------
-- The hypercall

/-- The body of the loop over the vCPUs of a destination. -/
def raiseIpvi (noIpvi : Nat) (k : KThread) : Except Stop KThread :=
  if areKThreadFlagsSet k KTHREAD_HALTED_F then
    .ok k
  else
    match k.g with
    | none => .error .badAccess
    | some g => if areExtIrqPendingSet g noIpvi then .ok k else .ok (setExtIrqPending k noIpvi)

/-- A round of that loop. -/
def raiseVCpu (noIpvi : Nat) (partitionId : XmU32) (tab : KThreadTab) (v : Nat)
    : Except Stop KThreadTab :=
  match tab partitionId (BitVec.ofNat 32 v) with
  | none => .error .badAccess
  | some k => (raiseIpvi noIpvi k).map (tab.set partitionId (BitVec.ofNat 32 v))

/-- A round of the loop over the destinations; `partitions` holds `noVCpus` of each. -/
def raiseDst (partitions : List Nat) (noIpvi : Nat) (xmcDstIpvi : List (BitVec 8))
    (dstOffset : Nat) (tab : KThreadTab) (e : Nat) : Except Stop KThreadTab :=
  match xmcDstIpvi[dstOffset + e]? with
  | none => .error .badAccess
  | some id =>
      match partitions[id.toNat]? with
      | none => .error .badAccess
      | some noVCpus => (List.range noVCpus).foldlM (raiseVCpu noIpvi (id.setWidth 32)) tab

/-- `RaiseIpviSys` called by a vCPU of `partitionId`. -/
def raiseIpviSys (partitions : List Nat) (tables : IpviTables) (partitionId noIpvi : Nat)
    (tab : KThreadTab) : Except Stop (XmRet × KThreadTab) :=
  if noIpvi < XM_VT_EXT_IPVI0 ∨ XM_VT_EXT_IPVI0 + CONFIG_XM_MAX_IPVI.toNat ≤ noIpvi then
    .ok (.invalidParam, tab)
  else
    let ipvi := tables.ipviTab partitionId (noIpvi - XM_VT_EXT_IPVI0)
    if ipvi.noDsts = 0 then
      .ok (.noAction, tab)
    else
      ((List.range ipvi.noDsts).foldlM
        (raiseDst partitions noIpvi tables.ipviDstTab ipvi.dstOffset) tab).map fun tab => (.ok, tab)

/-- The interrupt is pending in the control table of the vCPU. -/
def Pending (k : KThread) (irq : Nat) : Prop :=
  ∃ g, k.g = some g ∧ areExtIrqPendingSet g irq = true

/-- Every vCPU of the partitions has been created. -/
def AllCreated (partitions : List Nat) (tab : KThreadTab) : Prop :=
  ∀ p noVCpus, partitions[p]? = some noVCpus → ∀ v < noVCpus,
    ∃ k g, tab (BitVec.ofNat 32 p) (BitVec.ofNat 32 v) = some k ∧ k.g = some g

-----------------------------------------------------------------------------------------
-- A vCPU

/-- What `raiseIpvi` makes of a guest. -/
def raised (noIpvi : Nat) (k : KThread) : KThread :=
  if areKThreadFlagsSet k KTHREAD_HALTED_F then
    k
  else
    match k.g with
    | none => k
    | some g => if areExtIrqPendingSet g noIpvi then k else setExtIrqPending k noIpvi

theorem raiseIpvi_returns {noIpvi : Nat} {k : KThread} {g : Guest} (guest : k.g = some g)
    : raiseIpvi noIpvi k = .ok (raised noIpvi k) := by
  unfold raiseIpvi raised
  rw [guest]
  cases areKThreadFlagsSet k KTHREAD_HALTED_F with
  | true => rfl
  | false => cases pending : areExtIrqPendingSet g noIpvi <;> simp [pending]

theorem areExtIrqPendingSet_eq (g : Guest) {irq : Nat} (inside : irq < 32)
    : areExtIrqPendingSet g irq = g.partCtrlTab.extIrqsPend.getLsbD irq :=
  and_shiftLeft_ne_zero _ inside

theorem setExtIrqPending_pending {k : KThread} {irq other : Nat} (inside : irq < 32)
    (small : other < 32) (running : areKThreadFlagsSet k KTHREAD_HALTED_F = false)
    {g : Guest} (guest : k.g = some g)
    : Pending (setExtIrqPending k irq) other ↔ Pending k other ∨ irq = other := by
  simp only [Pending, setExtIrqPending, running, setKThreadFlags, guest, Bool.false_eq_true,
    if_false, Option.map_some, Option.some.injEq, exists_eq_left', areExtIrqPendingSet_eq _ small,
    getLsbD_or_shiftLeft _ inside, Bool.or_eq_true, decide_eq_true_eq]

/-- A raised interrupt is pending where the vCPU is not halted, and nothing else is. -/
theorem raised_pending {k : KThread} {irq other : Nat} (inside : irq < 32) (small : other < 32)
    {g : Guest} (guest : k.g = some g)
    : Pending (raised irq k) other
      ↔ Pending k other
        ∨ irq = other ∧ areKThreadFlagsSet k KTHREAD_HALTED_F = false := by
  cases halted : areKThreadFlagsSet k KTHREAD_HALTED_F with
  | true => simp [raised, halted]
  | false =>
      cases pending : areExtIrqPendingSet g irq with
      | true =>
          have already : Pending k irq := ⟨g, guest, pending⟩
          simp only [raised, halted, guest, pending, Bool.false_eq_true, if_false, if_true,
            and_true]
          refine ⟨Or.inl, fun marked => marked.elim (fun before => before) ?_⟩
          intro same
          rwa [← same]
      | false =>
          simp only [raised, halted, guest, pending, Bool.false_eq_true, if_false, and_true]
          exact setExtIrqPending_pending inside small halted guest

/-- A halted vCPU stays halted, and no other becomes so. -/
theorem raised_halted (irq : Nat) (k : KThread)
    : areKThreadFlagsSet (raised irq k) KTHREAD_HALTED_F
      = areKThreadFlagsSet k KTHREAD_HALTED_F := by
  unfold raised
  split
  · rfl
  · split
    · rfl
    · split
      · rfl
      · exact setExtIrqPending_halted k irq

theorem raised_guest (irq : Nat) {k : KThread} {g : Guest} (guest : k.g = some g)
    : ∃ g', (raised irq k).g = some g' := by
  unfold raised
  split
  · exact ⟨g, guest⟩
  · rw [guest]
    dsimp only
    split
    · exact ⟨g, guest⟩
    · unfold setExtIrqPending
      split
      · exact ⟨g, guest⟩
      · simp [setKThreadFlags, guest]

/-- Raising an interrupt twice marks no more than raising it once. -/
theorem raised_raised {irq : Nat} (inside : irq < 32) {k : KThread} {g : Guest}
    (guest : k.g = some g)
    : raised irq (raised irq k) = raised irq k := by
  cases halted : areKThreadFlagsSet k KTHREAD_HALTED_F with
  | true => simp [raised, halted]
  | false =>
      have marked : Pending (raised irq k) irq :=
        (raised_pending inside inside guest).mpr (Or.inr ⟨rfl, halted⟩)
      obtain ⟨g', guest', pending⟩ := marked
      have running := (raised_halted irq k).trans halted
      generalize raised irq k = k' at guest' running
      simp [raised, running, guest', pending]

-----------------------------------------------------------------------------------------
-- All destinations

/-- The vCPUs that satisfy `target` have been raised, and the others are as they were. -/
def RaisedAt (irq : Nat) (tab : KThreadTab) (target : XmU32 → XmU32 → Prop) (tab' : KThreadTab)
    : Prop :=
  ∀ p v, (target p v → tab' p v = (tab p v).map (raised irq))
    ∧ (¬ target p v → tab' p v = tab p v)

theorem raisedAt_nowhere (irq : Nat) (tab : KThreadTab) {target : XmU32 → XmU32 → Prop}
    (nowhere : ∀ p v, ¬ target p v)
    : RaisedAt irq tab target tab := by
  intro p v
  exact ⟨fun here => absurd here (nowhere p v), fun _ => rfl⟩

theorem RaisedAt.congr {irq : Nat} {tab tab' : KThreadTab} {target other : XmU32 → XmU32 → Prop}
    (raisedAt : RaisedAt irq tab target tab') (same : ∀ p v, target p v ↔ other p v)
    : RaisedAt irq tab other tab' := by
  intro p v
  rw [← same p v]
  exact raisedAt p v

/-- One more vCPU, which may have been raised before. -/
theorem RaisedAt.raiseVCpu {irq : Nat} (inside : irq < 32) {tab tab' : KThreadTab}
    {target : XmU32 → XmU32 → Prop} (raisedAt : RaisedAt irq tab target tab')
    {p : XmU32} {v : Nat} {k : KThread} {g : Guest}
    (present : tab p (BitVec.ofNat 32 v) = some k) (guest : k.g = some g)
    : ∃ tab'', raiseVCpu irq p tab' v = .ok tab''
      ∧ RaisedAt irq tab (fun q w => target q w ∨ q = p ∧ w = BitVec.ofNat 32 v) tab'' := by
  have current : ∃ k' g', tab' p (BitVec.ofNat 32 v) = some k' ∧ k'.g = some g'
      ∧ raised irq k' = raised irq k := by
    by_cases before : target p (BitVec.ofNat 32 v)
    · obtain ⟨g', guest'⟩ := raised_guest irq guest
      refine ⟨raised irq k, g', ?_, guest', raised_raised inside guest⟩
      rw [(raisedAt _ _).1 before, present, Option.map_some]
    · exact ⟨k, g, by rw [(raisedAt _ _).2 before, present], guest, rfl⟩
  obtain ⟨k', g', present', guest', same⟩ := current
  refine ⟨tab'.set p (BitVec.ofNat 32 v) (raised irq k'), ?_, ?_⟩
  · simp only [Hypercalls.raiseVCpu, present', raiseIpvi_returns guest']
    rfl
  · intro q w
    by_cases here : q = p ∧ w = BitVec.ofNat 32 v
    · obtain ⟨rfl, rfl⟩ := here
      simp [KThreadTab.set, present, same]
    · rw [KThreadTab.set_other here]
      simpa [here] using raisedAt q w

theorem toNat_lt_succ (w : XmU32) (n : Nat)
    : w.toNat < n + 1 ↔ w.toNat < n ∨ w = BitVec.ofNat 32 n := by
  constructor
  · intro below
    by_cases earlier : w.toNat < n
    · exact Or.inl earlier
    · have last : w.toNat = n := by omega
      rw [← last, BitVec.ofNat_toNat, BitVec.setWidth_eq]
      exact Or.inr rfl
  · intro either
    rcases either with earlier | rfl
    · omega
    · rw [BitVec.toNat_ofNat]
      exact Nat.lt_succ_of_le (Nat.mod_le _ _)

/-- The vCPUs of one more partition. -/
theorem RaisedAt.raiseVCpus {irq : Nat} (inside : irq < 32) {tab tab' : KThreadTab}
    {target : XmU32 → XmU32 → Prop} (raisedAt : RaisedAt irq tab target tab') {p : XmU32}
    {noVCpus : Nat}
    (created : ∀ v < noVCpus, ∃ k g, tab p (BitVec.ofNat 32 v) = some k ∧ k.g = some g)
    : ∃ tab'', (List.range noVCpus).foldlM (Hypercalls.raiseVCpu irq p) tab' = .ok tab''
      ∧ RaisedAt irq tab (fun q w => target q w ∨ q = p ∧ w.toNat < noVCpus) tab'' := by
  induction noVCpus with
  | zero =>
      refine ⟨tab', rfl, raisedAt.congr ?_⟩
      intro q w
      simp
  | succ n ih =>
      obtain ⟨before, folded, raisedBefore⟩ := ih fun v below => created v (by omega)
      obtain ⟨k, g, present, guest⟩ := created n (by omega)
      obtain ⟨after, stepped, raisedAfter⟩ := raisedBefore.raiseVCpu inside present guest
      refine ⟨after, ?_, raisedAfter.congr ?_⟩
      · rw [List.range_succ, List.foldlM_append, folded, ok_bind, List.foldlM_cons, stepped]
        rfl
      · intro q w
        rw [toNat_lt_succ]
        tauto

/-- The vCPUs of the partition an entry of the table names. -/
theorem RaisedAt.raiseDst {irq : Nat} (inside : irq < 32) {partitions : List Nat}
    {tab tab' : KThreadTab} {target : XmU32 → XmU32 → Prop}
    (raisedAt : RaisedAt irq tab target tab') (created : AllCreated partitions tab)
    {xmcDstIpvi : List (BitVec 8)} {dstOffset e : Nat} {id : BitVec 8}
    (named : xmcDstIpvi[dstOffset + e]? = some id) {noVCpus : Nat}
    (partition : partitions[id.toNat]? = some noVCpus)
    : ∃ tab'', Hypercalls.raiseDst partitions irq xmcDstIpvi dstOffset tab' e = .ok tab''
      ∧ RaisedAt irq tab
          (fun q w => target q w ∨ q.toNat = id.toNat ∧ w.toNat < noVCpus) tab'' := by
  have widened : id.setWidth 32 = BitVec.ofNat 32 id.toNat := by
    apply BitVec.eq_of_toNat_eq
    simp
  have vCpus := created id.toNat noVCpus partition
  rw [← widened] at vCpus
  obtain ⟨tab'', folded, after⟩ := raisedAt.raiseVCpus inside vCpus
  refine ⟨tab'', ?_, after.congr ?_⟩
  · simp only [Hypercalls.raiseDst, named, partition]
    exact folded
  · intro q w
    have same : q = id.setWidth 32 ↔ q.toNat = id.toNat := by
      have small := id.isLt
      rw [← BitVec.toNat_inj, BitVec.toNat_setWidth, Nat.mod_eq_of_lt (by omega)]
    rw [same]

/-- The vCPUs of all the partitions the entries of an interrupt name. -/
theorem raiseDsts_returns {irq : Nat} (inside : irq < 32) {partitions : List Nat}
    {tab : KThreadTab} (created : AllCreated partitions tab) {xmcDstIpvi : List (BitVec 8)}
    {dstOffset noDsts : Nat} (room : dstOffset + noDsts ≤ xmcDstIpvi.length)
    (exist : ∀ id ∈ (xmcDstIpvi.drop dstOffset).take noDsts, id.toNat < partitions.length)
    : ∃ tab', (List.range noDsts).foldlM (raiseDst partitions irq xmcDstIpvi dstOffset) tab
        = .ok tab'
      ∧ RaisedAt irq tab (fun q w => ∃ id ∈ (xmcDstIpvi.drop dstOffset).take noDsts,
          q.toNat = id.toNat
            ∧ ∃ noVCpus, partitions[q.toNat]? = some noVCpus ∧ w.toNat < noVCpus) tab' := by
  induction noDsts with
  | zero => exact ⟨tab, rfl, raisedAt_nowhere irq tab (by simp)⟩
  | succ e ih =>
      have entry : e < (xmcDstIpvi.drop dstOffset).length := by
        rw [List.length_drop]
        omega
      have snoc := List.take_succ_eq_append_getElem entry
      have member : (xmcDstIpvi.drop dstOffset)[e] ∈ (xmcDstIpvi.drop dstOffset).take (e + 1) := by
        rw [snoc]
        simp
      have below := exist _ member
      obtain ⟨before, folded, raisedBefore⟩ := ih (by omega) fun id earlier => by
        apply exist
        rw [snoc]
        exact List.mem_append_left _ earlier
      have named : xmcDstIpvi[dstOffset + e]? = some (xmcDstIpvi.drop dstOffset)[e] := by
        rw [← List.getElem?_drop, List.getElem?_eq_getElem entry]
      obtain ⟨after, stepped, raisedAfter⟩ := raisedBefore.raiseDst inside created named
        (List.getElem?_eq_getElem below)
      refine ⟨after, ?_, raisedAfter.congr ?_⟩
      · rw [List.range_succ, List.foldlM_append, folded, ok_bind, List.foldlM_cons, stepped]
        rfl
      · intro q w
        simp only [snoc, List.mem_append, List.mem_singleton, or_and_right, exists_or,
          exists_eq_left]
        refine or_congr_right (and_congr_right fun same => ?_)
        rw [same, List.getElem?_eq_getElem below]
        simp

-----------------------------------------------------------------------------------------
-- Exact delivery

/-- Called by `p`, the hypercall for interrupt `i` marks it pending in the vCPUs of its
destinations that are not halted, and marks nothing else.
-/
def RaisesExactly (doc : IpviDescription) (tables : IpviTables) (p i : Nat) : Prop :=
  ∀ tab, AllCreated doc.partitions tab →
    ∃ ret tab', raiseIpviSys doc.partitions tables p (XM_VT_EXT_IPVI0 + i) tab = .ok (ret, tab')
      ∧ ∀ q v k, tab q v = some k →
        ∃ k', tab' q v = some k' ∧ ∀ irq < 32, (Pending k' irq
          ↔ Pending k irq ∨ irq = XM_VT_EXT_IPVI0 + i ∧ doc.Destination p i q.toNat
            ∧ doc.HasVCpu q.toNat v.toNat ∧ areKThreadFlagsSet k KTHREAD_HALTED_F = false)

/-- Elements name entries that exist, the entries name the destinations of each interrupt, and
so does the hypercall.
-/
structure ReachesDestinations (doc : IpviDescription) (srcIpviTab : List SrcIpvi) : Prop where
  ids : ∀ element ∈ doc.ipvis, 0 ≤ element.id ∧ element.id < CONFIG_XM_MAX_IPVI
  tables : ∃ tables, processIpviTab doc.partitions.length srcIpviTab = .ok tables
    ∧ DestinationsExact doc tables
    ∧ ∀ p < doc.partitions.length, ∀ i < CONFIG_XM_MAX_IPVI.toNat, RaisesExactly doc tables p i

/-- The hypercall raises the interrupt in the vCPUs of the partitions its entry names. -/
theorem raiseIpviSys_returns {partitions : List Nat} {tables : IpviTables} {p i : Nat}
    (interrupt : i < CONFIG_XM_MAX_IPVI.toNat) {tab : KThreadTab}
    (created : AllCreated partitions tab)
    (room : (tables.ipviTab p i).dstOffset + (tables.ipviTab p i).noDsts
      ≤ tables.ipviDstTab.length)
    (exist : ∀ id ∈ tables.destinations p i, id.toNat < partitions.length)
    : ∃ ret tab', raiseIpviSys partitions tables p (XM_VT_EXT_IPVI0 + i) tab = .ok (ret, tab')
      ∧ RaisedAt (XM_VT_EXT_IPVI0 + i) tab (fun q w => ∃ id ∈ tables.destinations p i,
          q.toNat = id.toNat
            ∧ ∃ noVCpus, partitions[q.toNat]? = some noVCpus ∧ w.toNat < noVCpus) tab' := by
  have maximum : CONFIG_XM_MAX_IPVI.toNat = 8 := rfl
  have inside : XM_VT_EXT_IPVI0 + i < 32 := by
    unfold XM_VT_EXT_IPVI0
    omega
  have valid : ¬ (XM_VT_EXT_IPVI0 + i < XM_VT_EXT_IPVI0
      ∨ XM_VT_EXT_IPVI0 + CONFIG_XM_MAX_IPVI.toNat ≤ XM_VT_EXT_IPVI0 + i) := by omega
  simp only [raiseIpviSys, if_neg valid, Nat.add_sub_cancel_left]
  by_cases none : (tables.ipviTab p i).noDsts = 0
  · rw [if_pos none]
    refine ⟨.noAction, tab, rfl, raisedAt_nowhere _ tab ?_⟩
    simp [IpviTables.destinations, none]
  · obtain ⟨tab', folded, raisedAt⟩ := raiseDsts_returns inside created room exist
    rw [if_neg none, folded]
    exact ⟨.ok, tab', rfl, raisedAt⟩

theorem raisesExactly_of_exact {doc : IpviDescription} {tables : IpviTables}
    (agree : DestinationsExact doc tables)
    (exist : ∀ p i q, doc.Destination p i q → q < doc.partitions.length)
    {p i : Nat} (partition : p < doc.partitions.length)
    (interrupt : i < CONFIG_XM_MAX_IPVI.toNat)
    : RaisesExactly doc tables p i := by
  intro tab created
  obtain ⟨room, named⟩ := agree p partition i interrupt
  have within : ∀ id ∈ tables.destinations p i, id.toNat < doc.partitions.length := by
    intro id member
    exact exist p i id.toNat ((named id.toNat).mp ⟨id, member, rfl⟩)
  obtain ⟨ret, tab', returned, raisedAt⟩ :=
    raiseIpviSys_returns interrupt created room within
  have target : ∀ q v : XmU32,
      (∃ id ∈ tables.destinations p i, q.toNat = id.toNat
        ∧ ∃ noVCpus, doc.partitions[q.toNat]? = some noVCpus ∧ v.toNat < noVCpus)
      ↔ doc.Destination p i q.toNat ∧ doc.HasVCpu q.toNat v.toNat := by
    intro q v
    rw [← named q.toNat]
    constructor
    · intro ⟨id, member, same, has⟩
      exact ⟨⟨id, member, same.symm⟩, has⟩
    · intro ⟨⟨id, member, same⟩, has⟩
      exact ⟨id, member, same.symm, has⟩
  refine ⟨ret, tab', returned, ?_⟩
  intro q v k present
  obtain ⟨marks, keeps⟩ := raisedAt.congr target q v
  by_cases here : doc.Destination p i q.toNat ∧ doc.HasVCpu q.toNat v.toNat
  · obtain ⟨noVCpus, found, below⟩ := here.2
    obtain ⟨k', g, present', guest⟩ := created q.toNat noVCpus found v.toNat below
    rw [BitVec.ofNat_toNat, BitVec.setWidth_eq, BitVec.ofNat_toNat, BitVec.setWidth_eq,
      present] at present'
    rw [← Option.some.inj present'] at guest
    refine ⟨raised (XM_VT_EXT_IPVI0 + i) k, by rw [marks here, present, Option.map_some], ?_⟩
    intro irq small
    have bound : XM_VT_EXT_IPVI0 + i < 32 := by
      have maximum : CONFIG_XM_MAX_IPVI.toNat = 8 := rfl
      unfold XM_VT_EXT_IPVI0
      omega
    rw [raised_pending bound small guest]
    simp only [here, true_and, eq_comm]
  · refine ⟨k, by rw [keeps here, present], ?_⟩
    intro irq _
    tauto

/-- The interrupts of an accepted document reach their destinations just when no element has
the identifier the check lets through beyond the table, and each interrupt of a partition is
followed by its destinations.
-/
theorem ipvis_reach_destinations {doc : IpviDescription} {srcIpviTab : List SrcIpvi}
    (accepted : acceptIpvis defaultLimits doc = .ok srcIpviTab)
    : ReachesDestinations doc srcIpviTab
      ↔ (∀ element ∈ doc.ipvis, element.id ≠ CONFIG_XM_MAX_IPVI)
        ∧ ∀ p < doc.partitions.length, ∀ i < CONFIG_XM_MAX_IPVI.toNat, doc.Followed p i := by
  obtain ⟨rfl, elements⟩ := acceptIpvis_accepted accepted
  have noPartitions : doc.partitions.length ≤ 255 := acceptIpvis_noPartitions accepted
  have small : ∀ element ∈ doc.ipvis, ∀ id ∈ element.destinationId, 0 ≤ id ∧ id < 256 := by
    intro element member id named
    have bounds := (elements element member).destinationId id named
    omega
  have exist : ∀ p i q, doc.Destination p i q → q < doc.partitions.length := by
    intro p i q ⟨element, member, _, _, named⟩
    have bounds := (elements element member).destinationId q named
    omega
  constructor
  · intro reaches
    obtain ⟨tables, returned, agree, _⟩ := reaches.tables
    refine ⟨?_, (destinationsExact_iff small (processIpviTab_laidOut returned)).mp agree⟩
    intro element member
    exact (reaches.ids element member).2.ne
  · intro ⟨inside, followed⟩
    have ids : ∀ element ∈ doc.ipvis, 0 ≤ element.id ∧ element.id < CONFIG_XM_MAX_IPVI := by
      intro element member
      have bounds := (elements element member).id
      exact ⟨bounds.1, lt_of_le_of_ne bounds.2 (inside element member)⟩
    obtain ⟨tables, returned⟩ := processIpviTab_returns doc.partitions.length ids
    have agree :=
      (destinationsExact_iff small (processIpviTab_laidOut returned)).mpr followed
    refine ⟨ids, tables, returned, agree, ?_⟩
    intro p partition i interrupt
    exact raisesExactly_of_exact agree exist partition interrupt

/-- Partition 0 may raise interrupt 0 for partition 1. -/
def oneIpvi : IpviDescription where
  processors := [.cyclicPlanTable [[⟨0, 0⟩, ⟨1, 0⟩, ⟨2, 0⟩]]]
  partitions := [1, 1, 1]
  ipvis := [⟨0, 0, [1]⟩]

/-- Two elements with the interrupt of partition 0, whose lists the kernel is to join. -/
def twoIpvis : IpviDescription where
  processors := oneIpvi.processors
  partitions := oneIpvi.partitions
  ipvis := [⟨0, 0, [1]⟩, ⟨0, 0, [2]⟩]

theorem ipvis_reach_destinations_oneIpvi
    : ∃ srcIpviTab, acceptIpvis defaultLimits oneIpvi = .ok srcIpviTab
      ∧ ReachesDestinations oneIpvi srcIpviTab := by
  have accepted : acceptIpvis defaultLimits oneIpvi = .ok _ := rfl
  refine ⟨_, accepted, (ipvis_reach_destinations accepted).mpr ⟨by decide, ?_⟩⟩
  intro p _ i _
  exact IpviDescription.followed_of_apart (by decide) p i

/-- The second element moves the start of the region past the destinations of the first: the
entry counts two destinations and the table holds one from there on.
-/
theorem twoIpvis_overrun
    : ∃ srcIpviTab tables, acceptIpvis defaultLimits twoIpvis = .ok srcIpviTab
      ∧ processIpviTab 3 srcIpviTab = .ok tables
      ∧ tables.ipviDstTab = [1, 2]
      ∧ tables.ipviTab 0 0 = { dstOffset := 1, noDsts := 2 }
      ∧ ¬ ReachesDestinations twoIpvis srcIpviTab := by
  have accepted : acceptIpvis defaultLimits twoIpvis = .ok _ := rfl
  have processed : processIpviTab 3 (twoIpvis.ipvis.map Ipvi.entry) = .ok _ := rfl
  refine ⟨_, _, accepted, processed, rfl, rfl, ?_⟩
  intro reaches
  obtain ⟨tables, returned, agree, _⟩ := reaches.tables
  cases processed.symm.trans returned
  have room := (agree 0 (by decide) 0 (by decide)).1
  revert room
  decide

end XtratuM.Hypercalls
