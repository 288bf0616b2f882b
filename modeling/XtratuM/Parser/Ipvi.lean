import XtratuM.Parser.VCpuMap

/-! Inter-partition virtual interrupts: how the parser collects the `Ipvi` elements, and the
table of destinations it makes of them.
-/

namespace XtratuM.Parser

def CONFIG_XM_MAX_IPVI : Int := 8

/-- An `Ipvi` element, with the numbers its attributes hold as `ToU32` reads them. -/
structure Ipvi where
  id : Int
  sourceId : Int
  destinationId : List Int
  deriving DecidableEq, Repr

/-- A document with its `Ipvi` elements. -/
structure IpviDescription extends Description where
  ipvis : List Ipvi

/-- `struct srcIpvi`; `noDsts` is the length of `dst`. -/
structure SrcIpvi where
  id : Int
  ipviId : Int
  dst : List Int
  deriving DecidableEq, Repr

/-- `struct xmcPartIpvi`. -/
structure XmcPartIpvi where
  dstOffset : Nat
  noDsts : Nat
  deriving DecidableEq, Repr

/-- `ipviTab` of every partition, and `ipviDstTab`, whose length is `noIpviDsts`. -/
structure IpviTables where
  ipviTab : Nat → Nat → XmcPartIpvi
  ipviDstTab : List (BitVec 8)

-----------------------------------------------------------------------------------------
-- Elements

/-- `IdIpvi_AH`. -/
def idIpviAH (val : Int) : Except ParseError Int :=
  if val < 0 ∨ CONFIG_XM_MAX_IPVI < val then .error (.invalidIpviId val) else .ok val

/-- `SrcIdIpvi_AH`: the search for an entry with that source never stops at one. -/
def srcIdIpviAH (ipviId val : Int) : SrcIpvi where
  id := val
  ipviId := ipviId
  dst := []

/-- `DstIdIpvi_AH` for one identifier of the list. -/
def dstIdIpviAH (srcIpvi : SrcIpvi) (val : Int) : Except ParseError SrcIpvi :=
  if val ∈ srcIpvi.dst then
    .error .duplicatedDestination
  else
    .ok { srcIpvi with dst := srcIpvi.dst ++ [val] }

/-- The handlers of an `Ipvi` element, in the order of their table. -/
def ipviChannel (srcIpviTab : List SrcIpvi) (element : Ipvi)
    : Except ParseError (List SrcIpvi) := do
  let ipviId ← idIpviAH element.id
  let srcIpvi ← element.destinationId.foldlM dstIdIpviAH (srcIdIpviAH ipviId element.sourceId)
  pure (srcIpviTab ++ [srcIpvi])

/-- The tests `CheckIpviTab` makes of an entry. -/
def srcIpviError (noPartitions : Nat) (src : SrcIpvi) : Option ParseError :=
  if src.id < 0 ∨ (noPartitions : Int) ≤ src.id then
    some (.noSourcePartition src.id)
  else
    src.dst.findSome? fun id =>
      if id < 0 ∨ (noPartitions : Int) ≤ id then some (.noDestinationPartition id) else none

/-- `CheckIpviTab`. -/
def checkIpviTab (noPartitions : Nat) (srcIpviTab : List SrcIpvi) : Except ParseError Unit :=
  checkAll (srcIpviError noPartitions) srcIpviTab

/-- `srcIpviTab` of a document, once every check before `ProcessIpviTab` has passed. -/
def acceptIpvis (limits : Limits) (doc : IpviDescription) : Except ParseError (List SrcIpvi) := do
  let srcIpviTab ← doc.ipvis.foldlM ipviChannel []
  let _ ← systemDescription limits doc.toDescription
  checkIpviTab doc.partitions.length srcIpviTab
  pure srcIpviTab

-----------------------------------------------------------------------------------------
-- Destinations

def IpviTables.setPartIpvi (t : IpviTables) (e i : Nat) (entry : XmcPartIpvi) : IpviTables :=
  { t with ipviTab := fun p j => if p = e ∧ j = i then entry else t.ipviTab p j }

/-- A round of the innermost loop of `ProcessIpviTab`. -/
def addDst (e i : Nat) (t : IpviTables) (id : Int) : IpviTables :=
  { t.setPartIpvi e i { t.ipviTab e i with noDsts := (t.ipviTab e i).noDsts + 1 } with
    ipviDstTab := t.ipviDstTab ++ [BitVec.ofInt 8 id] }

/-- A round of its middle loop, over the entries. -/
def processSrc (e : Nat) (t : IpviTables) (src : SrcIpvi) : Except ParseError IpviTables :=
  if src.id ≠ e then
    .ok t
  else if src.ipviId < 0 ∨ CONFIG_XM_MAX_IPVI ≤ src.ipviId then
    .error .badAccess
  else
    let i := src.ipviId.toNat
    .ok (src.dst.foldl (addDst e i)
      (t.setPartIpvi e i { t.ipviTab e i with dstOffset := t.ipviDstTab.length }))

/-- The `memset` at the start of a round of the outer loop. -/
def IpviTables.clear (t : IpviTables) (e : Nat) : IpviTables :=
  { t with ipviTab := fun p i => if p = e then { dstOffset := 0, noDsts := 0 } else t.ipviTab p i }

def processPartition (srcIpviTab : List SrcIpvi) (t : IpviTables) (e : Nat)
    : Except ParseError IpviTables :=
  srcIpviTab.foldlM (processSrc e) (t.clear e)

/-- `ProcessIpviTab`. -/
def processIpviTab (noPartitions : Nat) (srcIpviTab : List SrcIpvi)
    : Except ParseError IpviTables :=
  (List.range noPartitions).foldlM (processPartition srcIpviTab)
    { ipviTab := fun _ _ => { dstOffset := 0, noDsts := 0 }, ipviDstTab := [] }

/-- `xmcDstIpvi[dstOffset .. dstOffset + noDsts)` of an interrupt of a partition. -/
def IpviTables.destinations (t : IpviTables) (e i : Nat) : List (BitVec 8) :=
  (t.ipviDstTab.drop (t.ipviTab e i).dstOffset).take (t.ipviTab e i).noDsts

-----------------------------------------------------------------------------------------
-- What is emitted

/-- The elements with a source, in the order of the document. -/
def fromSource (p : Nat) (elements : List Ipvi) : List Ipvi :=
  elements.filter fun element => element.sourceId = p

/-- The destinations the elements list, one after the other. -/
def listed (elements : List Ipvi) : List Int :=
  elements.flatMap Ipvi.destinationId

/-- The destinations of an interrupt of a partition. -/
def listedFor (p i : Nat) (elements : List Ipvi) : List Int :=
  listed ((fromSource p elements).filter fun element => element.id = i)

/-- The elements from the last one with that interrupt on. -/
def fromLast (i : Nat) (elements : List Ipvi) : List Ipvi :=
  elements.foldl
    (fun kept element => if element.id = (i : Int) then [element] else kept ++ [element])
    []

/-- The emitted bytes. -/
def bytes (destinations : List Int) : List (BitVec 8) :=
  destinations.map (BitVec.ofInt 8)

/-- What `srcIpviTab` holds of an accepted element. -/
def Ipvi.entry (element : Ipvi) : SrcIpvi where
  id := element.sourceId
  ipviId := element.id
  dst := element.destinationId

theorem fromLast_snoc (i : Nat) (elements : List Ipvi) (element : Ipvi)
    : fromLast i (elements ++ [element])
      = if element.id = i then [element] else fromLast i elements ++ [element] := by
  simp [fromLast]

@[simp] theorem listed_append (elements others : List Ipvi)
    : listed (elements ++ others) = listed elements ++ listed others := by
  simp [listed]

@[simp] theorem listed_singleton (element : Ipvi) : listed [element] = element.destinationId := by
  simp [listed]

@[simp] theorem bytes_append (destinations others : List Int)
    : bytes (destinations ++ others) = bytes destinations ++ bytes others := by
  simp [bytes]

/-- The first destinations of an interrupt change its entry and the table alone. -/
theorem foldl_addDst (e i : Nat) (t : IpviTables) (dst : List Int)
    : dst.foldl (addDst e i) t
      = { t.setPartIpvi e i
            { t.ipviTab e i with noDsts := (t.ipviTab e i).noDsts + dst.length } with
          ipviDstTab := t.ipviDstTab ++ bytes dst } := by
  induction dst generalizing t with
  | nil =>
      have same : (t.setPartIpvi e i (t.ipviTab e i)).ipviTab = t.ipviTab := by
        funext p j
        simp only [IpviTables.setPartIpvi]
        split
        · next here => rw [here.1, here.2]
        · rfl
      simp [bytes, same]
  | cons id rest ih =>
      rw [List.foldl_cons, ih]
      simp only [addDst, IpviTables.setPartIpvi, and_self, if_true, bytes, List.map_cons,
        List.length_cons, List.append_assoc, List.singleton_append, Nat.add_assoc,
        Nat.add_comm 1, IpviTables.mk.injEq, and_true]
      funext p j
      split <;> simp_all

-----------------------------------------------------------------------------------------
-- A partition

/-- What an entry of another partition, or of this one, does to the tables. -/
theorem processSrc_entry {e : Nat} {t t' : IpviTables} {element : Ipvi}
    (returned : processSrc e t element.entry = .ok t')
    : element.sourceId ≠ e ∧ t' = t
      ∨ element.sourceId = e ∧ 0 ≤ element.id ∧ element.id < CONFIG_XM_MAX_IPVI
        ∧ t' =
          { t.setPartIpvi e element.id.toNat
              { dstOffset := t.ipviDstTab.length
                noDsts :=
                  (t.ipviTab e element.id.toNat).noDsts + element.destinationId.length } with
            ipviDstTab := t.ipviDstTab ++ bytes element.destinationId } := by
  by_cases same : element.sourceId = e
  · by_cases inside : element.id < 0 ∨ CONFIG_XM_MAX_IPVI ≤ element.id
    · simp [processSrc, Ipvi.entry, same, inside] at returned
    · simp only [processSrc, Ipvi.entry, ne_eq, same, not_true_eq_false, if_false, inside,
        foldl_addDst, Except.ok.injEq] at returned
      refine Or.inr ⟨same, by omega, by omega, ?_⟩
      rw [← returned]
      simp only [IpviTables.setPartIpvi, and_self, if_true, IpviTables.mk.injEq, and_true]
      funext p j
      split <;> simp_all
  · simp only [processSrc, Ipvi.entry, ne_eq, same, not_false_eq_true, if_true,
      Except.ok.injEq] at returned
    exact Or.inl ⟨same, returned.symm⟩

/-- A loop over the entries has emitted the destinations of those with source `e`. -/
structure Emitted (e : Nat) (before : IpviTables) (seen : List Ipvi) (t : IpviTables)
    : Prop where
  ipviDstTab : t.ipviDstTab = before.ipviDstTab ++ bytes (listed (fromSource e seen))
  others : ∀ p, p ≠ e → t.ipviTab p = before.ipviTab p
  noDsts : ∀ i, (t.ipviTab e i).noDsts = (listedFor e i seen).length
  inside : ∀ i, (t.ipviTab e i).dstOffset ≤ t.ipviDstTab.length
  dstOffset : ∀ i : Nat, (∃ element ∈ fromSource e seen, element.id = i) →
    t.ipviDstTab.drop (t.ipviTab e i).dstOffset = bytes (listed (fromLast i (fromSource e seen)))

theorem fromSource_snoc (e : Nat) (elements : List Ipvi) (element : Ipvi)
    : fromSource e (elements ++ [element])
      = if element.sourceId = e then fromSource e elements ++ [element]
        else fromSource e elements := by
  by_cases same : element.sourceId = e <;> simp [fromSource, same]

theorem listedFor_snoc (e i : Nat) (elements : List Ipvi) (element : Ipvi)
    : listedFor e i (elements ++ [element])
      = if element.sourceId = e ∧ element.id = i then
          listedFor e i elements ++ element.destinationId
        else
          listedFor e i elements := by
  by_cases same : element.sourceId = e
  · by_cases named : element.id = i <;> simp [listedFor, fromSource_snoc, same, named]
  · simp [listedFor, fromSource_snoc, same]

theorem emitted_clear (e : Nat) (before : IpviTables) : Emitted e before [] (before.clear e) := by
  constructor
  · simp [IpviTables.clear, fromSource, listed, bytes]
  · intro p other
    funext i
    simp [IpviTables.clear, other]
  · intro i
    simp [IpviTables.clear, listedFor, fromSource, listed]
  · intro i
    simp [IpviTables.clear]
  · intro i ⟨element, member, _⟩
    cases member

/-- One more entry. -/
theorem processSrc_emitted (e : Nat) (before : IpviTables) (seen : List Ipvi) (t : IpviTables)
    (element : Ipvi) (t' : IpviTables) (emitted : Emitted e before seen t)
    (returned : processSrc e t element.entry = .ok t')
    : Emitted e before (seen ++ [element]) t' := by
  rcases processSrc_entry returned with ⟨other, rfl⟩ | ⟨same, low, high, rfl⟩
  · constructor
    · rw [fromSource_snoc, if_neg other]
      exact emitted.ipviDstTab
    · exact emitted.others
    · intro i
      rw [listedFor_snoc, if_neg (fun both => other both.1)]
      exact emitted.noDsts i
    · exact emitted.inside
    · intro i
      rw [fromSource_snoc, if_neg other]
      exact emitted.dstOffset i
  · have index : ∀ i : Nat, i = element.id.toNat ↔ element.id = i := by
      intro i
      omega
    constructor
    · simp only [fromSource_snoc, if_pos same, listed_append, listed_singleton, bytes_append]
      rw [emitted.ipviDstTab, List.append_assoc]
    · intro p other
      funext i
      simp only [IpviTables.setPartIpvi, other, false_and, if_false]
      rw [emitted.others p other]
    · intro i
      simp only [IpviTables.setPartIpvi, true_and, listedFor_snoc, same, index]
      split
      · next named =>
          rw [List.length_append, ← emitted.noDsts, (index i).mpr named]
      · exact emitted.noDsts i
    · intro i
      simp only [IpviTables.setPartIpvi, true_and, index, List.length_append]
      split
      · exact Nat.le_add_right _ _
      · exact (emitted.inside i).trans (Nat.le_add_right _ _)
    · intro i named
      simp only [IpviTables.setPartIpvi, true_and, index, fromSource_snoc, if_pos same,
        fromLast_snoc] at named ⊢
      split
      · simp
      · next unnamed =>
          have earlier : ∃ element ∈ fromSource e seen, element.id = i := by
            obtain ⟨other, member, named⟩ := named
            rcases List.mem_append.mp member with member | member
            · exact ⟨other, member, named⟩
            · rw [List.mem_singleton.mp member] at named
              exact absurd named unnamed
          rw [List.drop_append_of_le_length (emitted.inside i), emitted.dstOffset i earlier,
            listed_append, listed_singleton, bytes_append]

-----------------------------------------------------------------------------------------
-- All partitions

/-- The destinations of the partitions after `p`, of the first `noPartitions`. -/
def laterEmission (elements : List Ipvi) (noPartitions p : Nat) : List Int :=
  ((List.range noPartitions).drop (p + 1)).flatMap fun q => listed (fromSource q elements)

/-- What is emitted from the last element of `p` with that interrupt on. -/
def emittedFrom (elements : List Ipvi) (noPartitions p i : Nat) : List Int :=
  listed (fromLast i (fromSource p elements)) ++ laterEmission elements noPartitions p

/-- The first partitions have their entries, and their destinations are emitted. -/
structure LaidOut (elements : List Ipvi) (noPartitions : Nat) (t : IpviTables) : Prop where
  noDsts : ∀ p < noPartitions, ∀ i, (t.ipviTab p i).noDsts = (listedFor p i elements).length
  inside : ∀ p < noPartitions, ∀ i, (t.ipviTab p i).dstOffset ≤ t.ipviDstTab.length
  dstOffset : ∀ p < noPartitions, ∀ i : Nat,
    (∃ element ∈ fromSource p elements, element.id = i) →
      t.ipviDstTab.drop (t.ipviTab p i).dstOffset
        = bytes (emittedFrom elements noPartitions p i)

theorem laterEmission_last (elements : List Ipvi) (p : Nat)
    : laterEmission elements (p + 1) p = [] := by
  rw [laterEmission, List.drop_eq_nil_of_le (by simp), List.flatMap_nil]

theorem laterEmission_succ (elements : List Ipvi) {noPartitions p : Nat}
    (earlier : p < noPartitions)
    : laterEmission elements (noPartitions + 1) p
      = laterEmission elements noPartitions p ++ listed (fromSource noPartitions elements) := by
  have length : p + 1 ≤ (List.range noPartitions).length := by
    rw [List.length_range]
    exact earlier
  simp [laterEmission, List.range_succ, List.drop_append_of_le_length length]

/-- One more partition. -/
theorem processPartition_laidOut {elements : List Ipvi} {noPartitions : Nat} {t t' : IpviTables}
    (laidOut : LaidOut elements noPartitions t)
    (returned : processPartition (elements.map Ipvi.entry) t noPartitions = .ok t')
    : LaidOut elements (noPartitions + 1) t' := by
  rw [processPartition, List.foldlM_map] at returned
  have emitted := foldlM_preserves (P := Emitted noPartitions t)
    (processSrc_emitted noPartitions t) (emitted_clear noPartitions t) returned
  rw [List.nil_append] at emitted
  constructor
  · intro p below i
    by_cases last : p = noPartitions
    · rw [last]
      exact emitted.noDsts i
    · rw [emitted.others p last]
      exact laidOut.noDsts p (by omega) i
  · intro p below i
    by_cases last : p = noPartitions
    · rw [last]
      exact emitted.inside i
    · rw [emitted.others p last, emitted.ipviDstTab, List.length_append]
      exact (laidOut.inside p (by omega) i).trans (Nat.le_add_right _ _)
  · intro p below i named
    by_cases last : p = noPartitions
    · subst last
      rw [emitted.dstOffset i named, emittedFrom, laterEmission_last, List.append_nil]
    · have earlier : p < noPartitions := by omega
      rw [emitted.others p last, emitted.ipviDstTab,
        List.drop_append_of_le_length (laidOut.inside p earlier i),
        laidOut.dstOffset p earlier i named, emittedFrom, emittedFrom,
        laterEmission_succ elements earlier]
      simp only [bytes_append, List.append_assoc]

theorem processIpviTab_laidOut {elements : List Ipvi} {noPartitions : Nat} {t : IpviTables}
    (returned : processIpviTab noPartitions (elements.map Ipvi.entry) = .ok t)
    : LaidOut elements noPartitions t := by
  unfold processIpviTab at returned
  induction noPartitions generalizing t with
  | zero => exact ⟨by simp, by simp, by simp⟩
  | succ noPartitions ih =>
      rw [List.range_succ, List.foldlM_append] at returned
      obtain ⟨before, laid, returned⟩ := bind_eq_ok.mp returned
      rw [List.foldlM_cons] at returned
      obtain ⟨after, processed, returned⟩ := bind_eq_ok.mp returned
      cases returned
      exact processPartition_laidOut (ih laid) processed

/-- Entries below the bound are all `ProcessIpviTab` needs. -/
theorem processIpviTab_returns {elements : List Ipvi} (noPartitions : Nat)
    (inside : ∀ element ∈ elements, 0 ≤ element.id ∧ element.id < CONFIG_XM_MAX_IPVI)
    : ∃ t, processIpviTab noPartitions (elements.map Ipvi.entry) = .ok t := by
  apply foldlM_returns
  intro e _ t
  rw [processPartition, List.foldlM_map]
  apply foldlM_returns
  intro element member t
  have bounds := inside element member
  have index : ¬ (element.id < 0 ∨ CONFIG_XM_MAX_IPVI ≤ element.id) := by omega
  by_cases same : element.sourceId = e <;> simp [processSrc, Ipvi.entry, same, index]

-----------------------------------------------------------------------------------------
-- Acceptance

/-- What the checks of an accepted document say of an element. -/
structure AcceptedIpvi (noPartitions : Nat) (element : Ipvi) : Prop where
  id : 0 ≤ element.id ∧ element.id ≤ CONFIG_XM_MAX_IPVI
  sourceId : 0 ≤ element.sourceId ∧ element.sourceId < noPartitions
  destinationId : ∀ id ∈ element.destinationId, 0 ≤ id ∧ id < noPartitions

theorem dstIdIpviAH_entry (ipviId sourceId : Int) (seen : List Int) (srcIpvi : SrcIpvi) (id : Int)
    (srcIpvi' : SrcIpvi) (entry : srcIpvi = { id := sourceId, ipviId, dst := seen })
    (returned : dstIdIpviAH srcIpvi id = .ok srcIpvi')
    : srcIpvi' = { id := sourceId, ipviId, dst := seen ++ [id] } := by
  unfold dstIdIpviAH at returned
  split at returned
  · cases returned
  · cases returned
    rw [entry]

/-- Each element has made an entry of its own. -/
def Entered (seen : List Ipvi) (srcIpviTab : List SrcIpvi) : Prop :=
  srcIpviTab = seen.map Ipvi.entry
    ∧ ∀ element ∈ seen, 0 ≤ element.id ∧ element.id ≤ CONFIG_XM_MAX_IPVI

theorem ipviChannel_entered (seen : List Ipvi) (srcIpviTab : List SrcIpvi) (element : Ipvi)
    (srcIpviTab' : List SrcIpvi) (entered : Entered seen srcIpviTab)
    (returned : ipviChannel srcIpviTab element = .ok srcIpviTab')
    : Entered (seen ++ [element]) srcIpviTab' := by
  unfold ipviChannel at returned
  obtain ⟨ipviId, valid, returned⟩ := bind_eq_ok.mp returned
  obtain ⟨srcIpvi, destinations, returned⟩ := bind_eq_ok.mp returned
  unfold idIpviAH at valid
  split at valid
  · cases valid
  · next bounds =>
      have stored := Except.ok.inj returned
      rw [← Except.ok.inj valid] at destinations
      have entry := foldlM_preserves
        (P := fun seen srcIpvi =>
          srcIpvi = { id := element.sourceId, ipviId := element.id, dst := seen })
        (dstIdIpviAH_entry element.id element.sourceId) rfl destinations
      rw [List.nil_append] at entry
      constructor
      · rw [← stored, entered.1, entry, List.map_append]
        rfl
      · intro other member
        rcases List.mem_append.mp member with earlier | last
        · exact entered.2 other earlier
        · rw [List.mem_singleton.mp last]
          omega

theorem acceptIpvis_accepted {limits : Limits} {doc : IpviDescription} {srcIpviTab : List SrcIpvi}
    (accepted : acceptIpvis limits doc = .ok srcIpviTab)
    : srcIpviTab = doc.ipvis.map Ipvi.entry
      ∧ ∀ element ∈ doc.ipvis, AcceptedIpvi doc.partitions.length element := by
  unfold acceptIpvis at accepted
  obtain ⟨tab, channels, accepted⟩ := bind_eq_ok.mp accepted
  obtain ⟨_, _, accepted⟩ := bind_eq_ok.mp accepted
  obtain ⟨_, checked, accepted⟩ := bind_eq_ok.mp accepted
  cases accepted
  have nothing : Entered [] [] := ⟨rfl, by simp⟩
  have entered := foldlM_preserves (P := Entered) ipviChannel_entered nothing channels
  rw [List.nil_append] at entered
  refine ⟨entered.1, ?_⟩
  intro element member
  have clean : srcIpviError doc.partitions.length element.entry = none := by
    apply checkAll_ok.mp checked
    rw [entered.1]
    exact List.mem_map_of_mem member
  by_cases source : element.sourceId < 0 ∨ (doc.partitions.length : Int) ≤ element.sourceId
  · simp [srcIpviError, Ipvi.entry, source] at clean
  · simp only [srcIpviError, Ipvi.entry, source, if_false, List.findSome?_eq_none_iff,
      ite_eq_right_iff, reduceCtorEq, imp_false, not_or, not_lt, not_le] at clean
    exact ⟨entered.2 element member, by omega, clean⟩

/-- `CheckMaxNoKThreads` bounds the partitions. -/
theorem acceptIpvis_noPartitions {limits : Limits} {doc : IpviDescription}
    {srcIpviTab : List SrcIpvi} (accepted : acceptIpvis limits doc = .ok srcIpviTab)
    : doc.partitions.length ≤ limits.maxNoKThreads := by
  unfold acceptIpvis at accepted
  obtain ⟨_, _, accepted⟩ := bind_eq_ok.mp accepted
  obtain ⟨_, accepted, _⟩ := bind_eq_ok.mp accepted
  unfold systemDescription at accepted
  obtain ⟨_, _, accepted⟩ := bind_eq_ok.mp accepted
  obtain ⟨_, _, accepted⟩ := bind_eq_ok.mp accepted
  obtain ⟨_, kThreads, _⟩ := bind_eq_ok.mp accepted
  simp only [checkMaxNoKThreads] at kThreads
  split at kThreads
  · cases kThreads
  · omega

-----------------------------------------------------------------------------------------
-- The destinations of an interrupt

/-- Partition `p` raises interrupt `i` for partition `q`. -/
def IpviDescription.Destination (doc : IpviDescription) (p i q : Nat) : Prop :=
  ∃ element ∈ doc.ipvis,
    element.sourceId = p ∧ element.id = i ∧ (q : Int) ∈ element.destinationId

/-- The entries of the table are inside it and name the destinations of each interrupt. -/
def DestinationsExact (doc : IpviDescription) (t : IpviTables) : Prop :=
  ∀ p < doc.partitions.length, ∀ i < CONFIG_XM_MAX_IPVI.toNat,
    (t.ipviTab p i).dstOffset + (t.ipviTab p i).noDsts ≤ t.ipviDstTab.length
      ∧ ∀ q : Nat, (∃ id ∈ t.destinations p i, id.toNat = q) ↔ doc.Destination p i q

/-- What follows the start of the last element with a source and an interrupt, as far as all such
elements count, names the partitions they list.
-/
def IpviDescription.Followed (doc : IpviDescription) (p i : Nat) : Prop :=
  (listedFor p i doc.ipvis).length ≤ (emittedFrom doc.ipvis doc.partitions.length p i).length
    ∧ ∀ q : Nat,
      (q : Int) ∈ (emittedFrom doc.ipvis doc.partitions.length p i).take
          (listedFor p i doc.ipvis).length
        ↔ doc.Destination p i q

theorem mem_listedFor {doc : IpviDescription} {p i q : Nat}
    : (q : Int) ∈ listedFor p i doc.ipvis ↔ doc.Destination p i q := by
  simp only [listedFor, listed, fromSource, List.mem_flatMap, List.mem_filter, decide_eq_true_eq,
    IpviDescription.Destination]
  constructor
  · intro ⟨element, ⟨⟨member, source⟩, id⟩, named⟩
    exact ⟨element, member, source, id, named⟩
  · intro ⟨element, member, source, id, named⟩
    exact ⟨element, ⟨⟨member, source⟩, id⟩, named⟩

theorem listedFor_nil {p i : Nat} {elements : List Ipvi}
    (unnamed : ¬ ∃ element ∈ fromSource p elements, element.id = i)
    : listedFor p i elements = [] := by
  simp only [listedFor, listed, List.flatMap_eq_nil_iff, List.mem_filter, decide_eq_true_eq]
  intro element ⟨member, id⟩
  exact absurd ⟨element, member, id⟩ unnamed

/-- What follows the last element belongs to elements of the list. -/
theorem mem_fromLast {i : Nat} {elements : List Ipvi} {element : Ipvi}
    (member : element ∈ fromLast i elements)
    : element ∈ elements := by
  induction elements using List.reverseRecOn with
  | nil => cases member
  | append_singleton elements last ih =>
      rw [fromLast_snoc] at member
      split at member
      · exact List.mem_append_right _ member
      · rcases List.mem_append.mp member with earlier | here
        · exact List.mem_append_left _ (ih earlier)
        · exact List.mem_append_right _ here

theorem mem_emittedFrom {elements : List Ipvi} {noPartitions p i : Nat} {id : Int}
    (member : id ∈ emittedFrom elements noPartitions p i)
    : ∃ element ∈ elements, id ∈ element.destinationId := by
  rcases List.mem_append.mp member with here | later
  · obtain ⟨element, kept, named⟩ := List.mem_flatMap.mp here
    exact ⟨element, (List.mem_filter.mp (mem_fromLast kept)).1, named⟩
  · obtain ⟨_, _, emitted⟩ := List.mem_flatMap.mp later
    obtain ⟨element, kept, named⟩ := List.mem_flatMap.mp emitted
    exact ⟨element, (List.mem_filter.mp kept).1, named⟩

/-- Identifiers that fit a byte are read back as they were emitted. -/
theorem mem_bytes {destinations : List Int} (small : ∀ id ∈ destinations, 0 ≤ id ∧ id < 256)
    (q : Nat)
    : (∃ id ∈ bytes destinations, id.toNat = q) ↔ (q : Int) ∈ destinations := by
  have read : ∀ id ∈ destinations, ((BitVec.ofInt 8 id).toNat : Int) = id := by
    intro id member
    have bounds := small id member
    rw [BitVec.toNat_ofInt]
    omega
  simp only [bytes, List.mem_map]
  constructor
  · intro ⟨_, ⟨id, member, rfl⟩, equal⟩
    rw [← equal, read id member]
    exact member
  · intro member
    exact ⟨_, ⟨q, member, rfl⟩, Int.ofNat.inj (read q member)⟩

/-- The kernel finds the destinations of every interrupt just when what follows the last of its
elements names them.
-/
theorem destinationsExact_iff {doc : IpviDescription} {t : IpviTables}
    (small : ∀ element ∈ doc.ipvis, ∀ id ∈ element.destinationId, 0 ≤ id ∧ id < 256)
    (laidOut : LaidOut doc.ipvis doc.partitions.length t)
    : DestinationsExact doc t
      ↔ ∀ p < doc.partitions.length, ∀ i < CONFIG_XM_MAX_IPVI.toNat, doc.Followed p i := by
  have each : ∀ p < doc.partitions.length, ∀ i : Nat,
      ((t.ipviTab p i).dstOffset + (t.ipviTab p i).noDsts ≤ t.ipviDstTab.length
        ∧ ∀ q : Nat, (∃ id ∈ t.destinations p i, id.toNat = q) ↔ doc.Destination p i q)
      ↔ doc.Followed p i := by
    intro p below i
    have count := laidOut.noDsts p below i
    have inside := laidOut.inside p below i
    by_cases named : ∃ element ∈ fromSource p doc.ipvis, element.id = i
    · have tail := laidOut.dstOffset p below i named
      have room : t.ipviDstTab.length - (t.ipviTab p i).dstOffset
          = (emittedFrom doc.ipvis doc.partitions.length p i).length := by
        rw [← List.length_drop, tail, bytes, List.length_map]
      have region : t.destinations p i
          = bytes ((emittedFrom doc.ipvis doc.partitions.length p i).take
              (listedFor p i doc.ipvis).length) := by
        rw [IpviTables.destinations, tail, count, bytes, bytes, List.map_take]
      have fits : ∀ id ∈ (emittedFrom doc.ipvis doc.partitions.length p i).take
          (listedFor p i doc.ipvis).length, 0 ≤ id ∧ id < 256 := by
        intro id member
        obtain ⟨element, listed, named⟩ := mem_emittedFrom (List.mem_of_mem_take member)
        exact small element listed id named
      rw [region, IpviDescription.Followed]
      apply and_congr
      · omega
      · apply forall_congr'
        intro q
        rw [mem_bytes fits]
    · have nothing := listedFor_nil named
      have region : t.destinations p i = [] := by
        rw [IpviTables.destinations, count, nothing, List.length_nil, List.take_zero]
      rw [nothing, List.length_nil] at count
      simp [region, IpviDescription.Followed, nothing, count, inside]
  constructor
  · intro agree p below i named
    exact (each p below i).mp (agree p below i named)
  · intro followed p below i named
    exact (each p below i).mpr (followed p below i named)

-----------------------------------------------------------------------------------------
-- Elements apart

theorem fromLast_append {i : Nat} {element : Ipvi} (named : element.id = i)
    (before after : List Ipvi) (others : ∀ other ∈ after, other.id ≠ i)
    : fromLast i (before ++ element :: after) = element :: after := by
  induction after using List.reverseRecOn with
  | nil => rw [fromLast_snoc, if_pos named]
  | append_singleton after last ih =>
      have unnamed := others last (by simp)
      rw [← List.cons_append, ← List.append_assoc, fromLast_snoc, if_neg unnamed,
        ih (fun other member => others other (List.mem_append_left _ member))]

/-- No two elements with one source and one interrupt: each finds its own destinations. -/
theorem IpviDescription.followed_of_apart {doc : IpviDescription}
    (apart : doc.ipvis.Pairwise fun element other =>
      ¬ (element.sourceId = other.sourceId ∧ element.id = other.id)) (p i : Nat)
    : doc.Followed p i := by
  unfold IpviDescription.Followed
  by_cases named : ∃ element ∈ fromSource p doc.ipvis, element.id = i
  · obtain ⟨element, member, id⟩ := named
    obtain ⟨before, after, split⟩ := List.append_of_mem member
    have pairs : (fromSource p doc.ipvis).Pairwise fun element other =>
        ¬ (element.sourceId = other.sourceId ∧ element.id = other.id) := apart.filter _
    have source : ∀ other ∈ fromSource p doc.ipvis, other.sourceId = p := by
      intro other kept
      simpa using (List.mem_filter.mp kept).2
    rw [split, List.pairwise_append, List.pairwise_cons] at pairs
    have later : ∀ other ∈ after, other.id ≠ i := by
      intro other kept same
      have together := source other (by rw [split]; simp [kept])
      exact pairs.2.1.1 other kept ⟨by rw [source element member, together], by rw [id, same]⟩
    have earlier : ∀ other ∈ before, other.id ≠ i := by
      intro other kept same
      have together := source other (by rw [split]; simp [kept])
      exact pairs.2.2 other kept element (by simp)
        ⟨by rw [source element member, together], by rw [id, same]⟩
    have only
        : (before ++ element :: after).filter (fun other => other.id = (i : Int))
          = [element] := by
      rw [List.filter_append, List.filter_cons_of_pos (by simpa using id),
        List.filter_eq_nil_iff.mpr (by simpa using earlier),
        List.filter_eq_nil_iff.mpr (by simpa using later), List.nil_append]
    have mine : listedFor p i doc.ipvis = element.destinationId := by
      rw [listedFor, split, only, listed_singleton]
    have start : emittedFrom doc.ipvis doc.partitions.length p i
        = element.destinationId
          ++ (listed after ++ laterEmission doc.ipvis doc.partitions.length p) := by
      rw [emittedFrom, split, fromLast_append id before after later, listed, List.flatMap_cons,
        List.append_assoc, listed]
    rw [start, mine, List.length_append, List.take_left]
    refine ⟨Nat.le_add_right _ _, ?_⟩
    intro q
    rw [← mem_listedFor, mine]
  · have nothing := listedFor_nil named
    rw [nothing, List.length_nil, List.take_zero]
    refine ⟨Nat.zero_le _, ?_⟩
    intro q
    rw [← mem_listedFor, nothing]

end XtratuM.Parser
