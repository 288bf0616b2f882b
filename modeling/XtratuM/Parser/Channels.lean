import Mathlib.Data.Finset.Card
import XtratuM.Objects.ReceiverCounts
import XtratuM.Parser.Document

/-! Channels and ports in the parser: the port tables of the partitions, and the links that the
`Source` and `Destination` elements of the channels make to them by name.
-/

namespace XtratuM.Parser
open XtratuM.Objects

/-- A `Port` element, and its entry of `xmcCommPortTab` but for `channelId`. -/
structure CommPort where
  name : String
  direction : Direction
  type : PortType
  deriving DecidableEq, Repr

/-- A `Partition` element with its `PortTable`. -/
structure PortTable where
  partitionName : String
  ports : List CommPort
  deriving Repr

/-- A `Source` or `Destination` element. -/
structure ChannelEnd where
  partitionId : XmU32
  partitionName : Option String
  portName : String
  direction : Direction
  deriving DecidableEq, Repr

/-- A `SamplingChannel` or `QueuingChannel` element. -/
structure ChannelElement where
  type : PortType
  ends : List ChannelEnd
  deriving Repr

structure PortDescription where
  partitions : List PortTable
  channels : List ChannelElement
  deriving Repr

/-- `struct ipcPort`. -/
structure IpcPort extends ChannelEnd where
  channel : Nat
  deriving DecidableEq, Repr

/-- The fields of `xmcPartitionTab` that name the ports of a partition. -/
structure PartitionPorts where
  name : String
  commPortsOffset : Nat
  noPorts : Nat
  deriving DecidableEq, Repr

structure PortTables where
  xmcPartitionTab : List PartitionPorts
  xmcCommPortTab : List CommPort
  deriving Repr

/-- What `LinkChannels2Ports` writes: `channelId` of every port, with `none` for
`XM_NULL_CHANNEL`, and `s.noReceivers` of every channel.
-/
structure ChannelLinks where
  channelId : Nat → Option Nat
  noReceivers : Nat → Nat

-----------------------------------------------------------------------------------------
-- Elements

/-- `CommPort_NH0` and `CommPort_NH1`, with the test `CheckPortName` makes. -/
def commPort (ports : List CommPort) (port : CommPort) : Except ParseError (List CommPort) :=
  if ports.any fun other => other.name == port.name then
    .error (.duplicatedPortName port.name)
  else
    .ok (ports ++ [port])

/-- `PortTable_NH0` and the ports of the partition. -/
def portTable (t : PortTables) (element : PortTable) : Except ParseError PortTables := do
  let ports ← element.ports.foldlM commPort []
  let partition : PartitionPorts :=
    { name := element.partitionName
      commPortsOffset := t.xmcCommPortTab.length
      noPorts := ports.length }
  pure
    { xmcPartitionTab := t.xmcPartitionTab ++ [partition]
      xmcCommPortTab := t.xmcCommPortTab ++ ports }

def portTables (partitions : List PortTable) : Except ParseError PortTables :=
  partitions.foldlM portTable { xmcPartitionTab := [], xmcCommPortTab := [] }

/-- `ipcPortTab`: each element under the last channel opened before it. -/
def PortDescription.ipcPortTab (doc : PortDescription) : List IpcPort :=
  doc.channels.zipIdx.flatMap fun channel =>
    channel.1.ends.map fun element => { element with channel := channel.2 }

-----------------------------------------------------------------------------------------
-- Links

/-- The loop of `LinkChannels2Ports` over the ports of a partition. -/
def PortTables.lookUpPort (t : PortTables) (partition : PartitionPorts) (portName : String)
    : Option Nat :=
  ((List.range partition.noPorts).map (partition.commPortsOffset + ·)).find? fun j =>
    match t.xmcCommPortTab[j]? with
    | none => false
    | some port => port.name == portName

def ChannelLinks.link (l : ChannelLinks) (j channel : Nat) (receives : Bool) : ChannelLinks where
  channelId := Function.update l.channelId j (some channel)
  noReceivers :=
    if receives then
      Function.update l.noReceivers channel (l.noReceivers channel + 1)
    else
      l.noReceivers

/-- The tests `LinkChannels2Ports` makes of a port once it is linked. -/
def linkError (type : PortType) (ipcPort : IpcPort) (port : CommPort) : Option ParseError :=
  if type ≠ port.type then
    some .channelType
  else if ipcPort.direction ≠ port.direction then
    some .channelDirection
  else
    none

/-- What `LinkChannels2Ports` does at the port it has found. -/
def linkPort (types : List PortType) (t : PortTables) (ipcPort : IpcPort) (l : ChannelLinks)
    (j : Nat) : Except ParseError ChannelLinks :=
  match t.xmcCommPortTab[j]?, types[ipcPort.channel]? with
  | some port, some type =>
      match linkError type ipcPort port with
      | some e => .error e
      | none =>
          .ok (l.link j ipcPort.channel
            (decide (type = .sampling ∧ port.direction = .destination)))
  | _, _ => .error .badAccess

def partitionNameError (partition : PartitionPorts) (ipcPort : IpcPort) : Option ParseError :=
  match ipcPort.partitionName with
  | none => none
  | some name =>
      if name ≠ partition.name then some (.partitionNameMismatch name partition.name) else none

/-- A round of `LinkChannels2Ports`. -/
def linkIpcPort (types : List PortType) (t : PortTables) (l : ChannelLinks) (ipcPort : IpcPort)
    : Except ParseError ChannelLinks :=
  match t.xmcPartitionTab[ipcPort.partitionId.toNat]? with
  | none => .error (.incorrectPartitionId ipcPort.partitionId.toNat)
  | some partition =>
      match partitionNameError partition ipcPort with
      | some e => .error e
      | none =>
          match t.lookUpPort partition ipcPort.portName with
          | none => .error (.portNotFound ipcPort.portName)
          | some j => linkPort types t ipcPort l j

/-- `LinkChannels2Ports`. -/
def linkChannels2Ports (doc : PortDescription) (t : PortTables) : Except ParseError ChannelLinks :=
  doc.ipcPortTab.foldlM (linkIpcPort (doc.channels.map ChannelElement.type) t)
    { channelId := fun _ => none, noReceivers := fun _ => 0 }

-----------------------------------------------------------------------------------------
-- Ports and the elements that name them

/-- The element names entry `j` of the port table. -/
def PortTables.Names (t : PortTables) (ipcPort : IpcPort) (j : Nat) : Prop :=
  ∃ partition port, t.xmcPartitionTab[ipcPort.partitionId.toNat]? = some partition
    ∧ partition.commPortsOffset ≤ j ∧ j < partition.commPortsOffset + partition.noPorts
    ∧ t.xmcCommPortTab[j]? = some port ∧ port.name = ipcPort.portName

/-- The destination ports linked to a channel. -/
def PortTables.destinations (t : PortTables) (l : ChannelLinks) (c : Nat) : Finset Nat :=
  (Finset.range t.xmcCommPortTab.length).filter fun j =>
    (t.xmcCommPortTab[j]?).map CommPort.direction = some .destination ∧ l.channelId j = some c

/-- Each port has the channel, the type and the direction of the one element that names it, and
the receivers of each sampling channel are counted.
-/
structure LinksConsistent (doc : PortDescription) (t : PortTables) (l : ChannelLinks) : Prop where
  once : ∀ (i i' : Nat) (e e' : IpcPort) (j : Nat), doc.ipcPortTab[i]? = some e →
    doc.ipcPortTab[i']? = some e' → t.Names e j → t.Names e' j → i = i'
  counted : ∀ (c : Nat) channel, doc.channels[c]? = some channel → channel.type = .sampling →
    l.noReceivers c = (t.destinations l c).card
  linked : ∀ j c, l.channelId j = some c →
    ∃ channel port e, doc.channels[c]? = some channel ∧ t.xmcCommPortTab[j]? = some port
      ∧ e ∈ doc.ipcPortTab ∧ t.Names e j ∧ e.channel = c
      ∧ channel.type = port.type ∧ e.direction = port.direction

/-- What an element names a port by. -/
def IpcPort.key (ipcPort : IpcPort) : XmU32 × String := (ipcPort.partitionId, ipcPort.portName)

-----------------------------------------------------------------------------------------
-- Port tables

/-- The ports of the partitions lie apart, and those of each have different names. -/
structure PortTables.LaidOut (t : PortTables) : Prop where
  inside : ∀ (p : Nat) partition, t.xmcPartitionTab[p]? = some partition →
    partition.commPortsOffset + partition.noPorts ≤ t.xmcCommPortTab.length
  apart : ∀ (p q : Nat) a b, t.xmcPartitionTab[p]? = some a → t.xmcPartitionTab[q]? = some b →
    p < q → a.commPortsOffset + a.noPorts ≤ b.commPortsOffset

theorem commPorts_laidOut : PortTables.LaidOut { xmcPartitionTab := [], xmcCommPortTab := [] } where
  inside p partition found := by simp at found
  apart p q a b found := by simp at found

theorem portTable_laidOut {t t' : PortTables} {element : PortTable} (laidOut : t.LaidOut)
    (returned : portTable t element = .ok t')
    : t'.LaidOut := by
  obtain ⟨ports, -, returned⟩ := bind_eq_ok.mp returned
  cases returned
  constructor
  · intro p partition found
    simp only [List.length_append]
    rw [List.getElem?_append] at found
    split at found
    · have inside := laidOut.inside p partition found
      omega
    · cases List.mem_singleton.mp (List.mem_of_getElem? found)
      exact Nat.le_refl _
  · intro p q a b first second order
    rw [List.getElem?_append] at first second
    split at second
    · next inside =>
        rw [if_pos (order.trans inside)] at first
        exact laidOut.apart p q a b first second order
    · next last =>
        obtain ⟨beyond, -⟩ := List.getElem?_eq_some_iff.mp second
        cases List.mem_singleton.mp (List.mem_of_getElem? second)
        rw [List.length_singleton] at beyond
        rw [if_pos (by omega)] at first
        exact laidOut.inside p a first

theorem portTables_laidOut {partitions : List PortTable} {t : PortTables}
    (returned : portTables partitions = .ok t)
    : t.LaidOut :=
  foldlM_keeps (P := PortTables.LaidOut) (fun _ _ _ => portTable_laidOut) commPorts_laidOut returned

/-- A port is named by the elements that have its partition and its name. -/
theorem PortTables.LaidOut.names_key {t : PortTables} (laidOut : t.LaidOut) {e e' : IpcPort}
    {j : Nat} (names : t.Names e j) (names' : t.Names e' j)
    : e.key = e'.key := by
  obtain ⟨a, port, partition, low, high, found, name⟩ := names
  obtain ⟨b, port', partition', low', high', found', name'⟩ := names'
  cases found.symm.trans found'
  have same : e.partitionId.toNat = e'.partitionId.toNat := by
    rcases Nat.lt_trichotomy e.partitionId.toNat e'.partitionId.toNat with before | same | after
    · have apart := laidOut.apart _ _ _ _ partition partition' before
      omega
    · exact same
    · have apart := laidOut.apart _ _ _ _ partition' partition after
      omega
  exact Prod.ext (BitVec.eq_of_toNat_eq same) (name.symm.trans name')

theorem PortTables.names_of_key {t : PortTables} {e e' : IpcPort} {j : Nat}
    (names : t.Names e j) (same : e.key = e'.key)
    : t.Names e' j := by
  obtain ⟨partition, port, found, low, high, entry, name⟩ := names
  have id := congrArg Prod.fst same
  have portName := congrArg Prod.snd same
  unfold IpcPort.key at id portName
  dsimp only at id portName
  rw [id] at found
  exact ⟨partition, port, found, low, high, entry, name.trans portName⟩

-----------------------------------------------------------------------------------------
-- Linking

theorem lookUpPort_some {t : PortTables} {partition : PartitionPorts} {portName : String} {j : Nat}
    (found : t.lookUpPort partition portName = some j)
    : partition.commPortsOffset ≤ j ∧ j < partition.commPortsOffset + partition.noPorts
      ∧ ∃ port, t.xmcCommPortTab[j]? = some port ∧ port.name = portName := by
  have member := List.mem_of_find?_eq_some found
  obtain ⟨e, below, rfl⟩ := List.mem_map.mp member
  have inside := List.mem_range.mp below
  refine ⟨by omega, by omega, ?_⟩
  have named := List.find?_some found
  cases entry : t.xmcCommPortTab[partition.commPortsOffset + e]? with
  | none => simp [entry] at named
  | some port => exact ⟨port, rfl, by simpa [entry] using named⟩

theorem linkError_none {type : PortType} {ipcPort : IpcPort} {port : CommPort}
    (clean : linkError type ipcPort port = none)
    : type = port.type ∧ ipcPort.direction = port.direction := by
  unfold linkError at clean
  split at clean
  · cases clean
  · rename_i same
    split at clean
    · cases clean
    · rename_i same'
      exact ⟨Decidable.not_not.mp same, Decidable.not_not.mp same'⟩

/-- A round links a port that the element names, of the type of the channel. -/
theorem linkIpcPort_ok {types : List PortType} {t : PortTables} {l l' : ChannelLinks}
    {ipcPort : IpcPort} (returned : linkIpcPort types t l ipcPort = .ok l')
    : ∃ j port, t.Names ipcPort j ∧ t.xmcCommPortTab[j]? = some port
      ∧ types[ipcPort.channel]? = some port.type ∧ ipcPort.direction = port.direction
      ∧ l' = l.link j ipcPort.channel
          (decide (port.type = .sampling ∧ port.direction = .destination)) := by
  unfold linkIpcPort at returned
  split at returned
  · cases returned
  rename_i partition found
  split at returned
  · cases returned
  split at returned
  · cases returned
  rename_i j looked
  obtain ⟨low, high, port, entry, name⟩ := lookUpPort_some looked
  unfold linkPort at returned
  rw [entry] at returned
  cases typed : types[ipcPort.channel]? with
  | none =>
      rw [typed] at returned
      cases returned
  | some type =>
      rw [typed] at returned
      dsimp only at returned
      split at returned
      · cases returned
      · rename_i clean
        obtain ⟨rfl, direction⟩ := linkError_none clean
        cases returned
        exact
          ⟨j, port, ⟨partition, port, found, low, high, entry, name⟩, entry, rfl, direction, rfl⟩

/-- What the rounds over the elements seen so far have written. -/
structure Linked (types : List PortType) (t : PortTables) (seen : List IpcPort) (l : ChannelLinks)
    : Prop where
  counted : ∀ c : Nat, types[c]? = some .sampling → l.noReceivers c = (t.destinations l c).card
  linked : ∀ j c, l.channelId j = some c →
    ∃ port e, t.xmcCommPortTab[j]? = some port ∧ types[c]? = some port.type ∧ e ∈ seen
      ∧ t.Names e j ∧ e.channel = c ∧ e.direction = port.direction

theorem nothing_linked (types : List PortType) (t : PortTables)
    : Linked types t [] { channelId := fun _ => none, noReceivers := fun _ => 0 } where
  counted c _ := by simp [PortTables.destinations]
  linked j c found := by cases found

theorem mem_destinations {t : PortTables} {l : ChannelLinks} {c j : Nat}
    : j ∈ t.destinations l c
      ↔ ∃ port, t.xmcCommPortTab[j]? = some port ∧ port.direction = .destination
        ∧ l.channelId j = some c := by
  simp only [PortTables.destinations, Finset.mem_filter, Finset.mem_range, Option.map_eq_some_iff]
  constructor
  · rintro ⟨-, ⟨port, entry, direction⟩, linked⟩
    exact ⟨port, entry, direction, linked⟩
  · rintro ⟨port, entry, direction, linked⟩
    exact ⟨(List.getElem?_eq_some_iff.mp entry).1, ⟨port, entry, direction⟩, linked⟩

/-- Linking a port that has no channel yet adds it to the destinations of its channel. -/
theorem destinations_link {t : PortTables} {l : ChannelLinks} {j : Nat} {port : CommPort}
    (fresh : l.channelId j = none) (entry : t.xmcCommPortTab[j]? = some port) (channel c : Nat)
    (receives : Bool)
    : t.destinations (l.link j channel receives) c
      = if c = channel ∧ port.direction = .destination then
          insert j (t.destinations l c)
        else
          t.destinations l c := by
  have unlinked : j ∉ t.destinations l c := by
    intro member
    obtain ⟨-, -, -, linked⟩ := mem_destinations.mp member
    rw [fresh] at linked
    cases linked
  ext k
  by_cases here : k = j
  · subst here
    have after : k ∈ t.destinations (l.link k channel receives) c
        ↔ port.direction = .destination ∧ channel = c := by
      simp [mem_destinations, entry, ChannelLinks.link]
    rw [after]
    split
    · rename_i both
      simp [both]
    · rename_i other
      refine iff_of_false (fun both => other ⟨both.2.symm, both.1⟩) unlinked
  · have same : k ∈ t.destinations (l.link j channel receives) c ↔ k ∈ t.destinations l c := by
      simp [mem_destinations, ChannelLinks.link, Function.update_of_ne here]
    rw [same]
    split
    · simp [here]
    · rfl

/-- No port is linked twice when no two elements name one port. -/
theorem Linked.fresh {types : List PortType} {t : PortTables} (laidOut : t.LaidOut)
    {seen : List IpcPort} {l : ChannelLinks} (linked : Linked types t seen l) {e : IpcPort}
    (apart : ∀ other ∈ seen, other.key ≠ e.key) {j : Nat} (names : t.Names e j)
    : l.channelId j = none := by
  cases before : l.channelId j with
  | none => rfl
  | some c =>
      obtain ⟨port, other, entry, type, member, named, -⟩ := linked.linked j c before
      exact absurd (laidOut.names_key named names) (apart other member)

theorem Linked.step {types : List PortType} {t : PortTables} (laidOut : t.LaidOut)
    {seen : List IpcPort} {l l' : ChannelLinks} (linked : Linked types t seen l) {e : IpcPort}
    (apart : ∀ other ∈ seen, other.key ≠ e.key) (returned : linkIpcPort types t l e = .ok l')
    : Linked types t (seen ++ [e]) l' := by
  obtain ⟨j, port, names, entry, type, direction, rfl⟩ := linkIpcPort_ok returned
  have fresh := linked.fresh laidOut apart names
  constructor
  · intro c sampling
    rw [destinations_link fresh entry]
    have before := linked.counted c sampling
    by_cases here : c = e.channel
    · subst here
      rw [type] at sampling
      have sampling := Option.some.inj sampling
      by_cases receives : port.direction = .destination
      · have unlinked : j ∉ t.destinations l e.channel := by
          intro member
          obtain ⟨-, -, -, already⟩ := mem_destinations.mp member
          rw [fresh] at already
          cases already
        simp only [ChannelLinks.link, sampling, receives, and_self, decide_true, if_true,
          Function.update_self, Finset.card_insert_of_notMem unlinked, before]
      · simp only [ChannelLinks.link, receives, and_false, decide_false, Bool.false_eq_true,
          if_false, before]
    · have same : (l.link j e.channel (decide (port.type = .sampling
          ∧ port.direction = .destination))).noReceivers c = l.noReceivers c := by
        unfold ChannelLinks.link
        dsimp only
        split
        · exact Function.update_of_ne here _ _
        · rfl
      rw [same, before, if_neg fun both => here both.1]
  · intro k c found
    by_cases here : k = j
    · subst here
      simp only [ChannelLinks.link, Function.update_self, Option.some.injEq] at found
      subst found
      exact ⟨port, e, entry, type, by simp, names, rfl, direction⟩
    · simp only [ChannelLinks.link, Function.update_of_ne here] at found
      obtain ⟨other, element, entry, typed, member, rest⟩ := linked.linked k c found
      exact ⟨other, element, entry, typed, List.mem_append_left _ member, rest⟩

/-- By induction on the elements, of which no two have the same key. -/
theorem linked_of_nodup {doc : PortDescription} {t : PortTables} (laidOut : t.LaidOut)
    {l : ChannelLinks} (distinct : (doc.ipcPortTab.map IpcPort.key).Nodup)
    (returned : linkChannels2Ports doc t = .ok l)
    : Linked (doc.channels.map ChannelElement.type) t doc.ipcPortTab l := by
  have step : ∀ seen l e l', ((seen.map IpcPort.key).Nodup →
      Linked (doc.channels.map ChannelElement.type) t seen l) →
      linkIpcPort (doc.channels.map ChannelElement.type) t l e = .ok l' →
      (((seen ++ [e]).map IpcPort.key).Nodup →
        Linked (doc.channels.map ChannelElement.type) t (seen ++ [e]) l') := by
    intro seen l e l' before stepped distinct
    rw [List.map_append, List.nodup_append] at distinct
    apply (before distinct.1).step laidOut ?_ stepped
    intro other member same
    exact distinct.2.2 _ (List.mem_map_of_mem member) _ (List.mem_singleton_self _) same
  have linked := foldlM_preserves (P := fun seen l => (seen.map IpcPort.key).Nodup →
    Linked (doc.channels.map ChannelElement.type) t seen l) step
    (fun _ => nothing_linked _ _) returned
  exact linked distinct

/-- Every element of an accepted configuration names a port. -/
theorem names_of_linked {doc : PortDescription} {t : PortTables} {l : ChannelLinks}
    (returned : linkChannels2Ports doc t = .ok l) {e : IpcPort} (member : e ∈ doc.ipcPortTab)
    : ∃ j, t.Names e j := by
  have step : ∀ seen l e l', (∀ other ∈ seen, ∃ j, t.Names other j) →
      linkIpcPort (doc.channels.map ChannelElement.type) t l e = .ok l' →
      ∀ other ∈ seen ++ [e], ∃ j, t.Names other j := by
    intro seen l e l' before stepped other member
    obtain ⟨j, port, names, -⟩ := linkIpcPort_ok stepped
    rcases List.mem_append.mp member with earlier | last
    · exact before other earlier
    · rw [List.mem_singleton.mp last]
      exact ⟨j, names⟩
  have named := foldlM_preserves (P := fun seen _ => ∀ e ∈ seen, ∃ j, t.Names e j) step
    (fun _ member => absurd member List.not_mem_nil) returned
  exact named e member

-----------------------------------------------------------------------------------------
-- Consistent links

theorem LinksConsistent.of_nodup {doc : PortDescription} {t : PortTables} (laidOut : t.LaidOut)
    {l : ChannelLinks} (returned : linkChannels2Ports doc t = .ok l)
    (distinct : (doc.ipcPortTab.map IpcPort.key).Nodup)
    : LinksConsistent doc t l := by
  have linked := linked_of_nodup laidOut distinct returned
  refine ⟨?_, ?_, ?_⟩
  · intro i i' e e' j found found' names names'
    have same := laidOut.names_key names names'
    have first : (doc.ipcPortTab.map IpcPort.key)[i]? = some e.key := by
      rw [List.getElem?_map, found]
      rfl
    have second : (doc.ipcPortTab.map IpcPort.key)[i']? = some e.key := by
      rw [List.getElem?_map, found', same]
      rfl
    have inside := (List.getElem?_eq_some_iff.mp first).1
    exact (List.getElem?_inj inside distinct).mp (first.trans second.symm)
  · intro c channel found sampling
    apply linked.counted
    rw [List.getElem?_map, found, Option.map_some, sampling]
  · intro j c found
    obtain ⟨port, e, entry, type, member, names, own, direction⟩ := linked.linked j c found
    rw [List.getElem?_map] at type
    obtain ⟨channel, present, same⟩ := Option.map_eq_some_iff.mp type
    exact ⟨channel, port, e, present, entry, member, names, own, same, direction⟩

theorem LinksConsistent.nodup {doc : PortDescription} {t : PortTables} {l : ChannelLinks}
    (returned : linkChannels2Ports doc t = .ok l) (consistent : LinksConsistent doc t l)
    : (doc.ipcPortTab.map IpcPort.key).Nodup := by
  rw [List.nodup_iff_injective_get]
  intro i i' same
  have key : ∀ k : Fin (doc.ipcPortTab.map IpcPort.key).length,
      ∃ e, doc.ipcPortTab[k.val]? = some e
        ∧ e.key = (doc.ipcPortTab.map IpcPort.key).get k := by
    intro k
    have inside : k.val < doc.ipcPortTab.length := by simpa using k.isLt
    exact ⟨doc.ipcPortTab[k.val], List.getElem?_eq_getElem inside, by simp⟩
  obtain ⟨e, found, first⟩ := key i
  obtain ⟨e', found', second⟩ := key i'
  obtain ⟨j, names⟩ := names_of_linked returned (List.mem_of_getElem? found)
  have names' : t.Names e' j := PortTables.names_of_key names (by rw [first, second, same])
  exact Fin.ext (consistent.once _ _ e e' j found found' names names')

/-- The links of an accepted configuration are consistent exactly when no two elements name one
port.
-/
theorem linkChannels2Ports_consistent_iff {doc : PortDescription} {t : PortTables}
    (parsed : portTables doc.partitions = .ok t) {l : ChannelLinks}
    (returned : linkChannels2Ports doc t = .ok l)
    : LinksConsistent doc t l ↔ (doc.ipcPortTab.map IpcPort.key).Nodup :=
  ⟨LinksConsistent.nodup returned,
    LinksConsistent.of_nodup (portTables_laidOut parsed) returned⟩

/-- A partition that writes to the sampling port of another, through the given channels. -/
def sensorAndDisplay (channels : List ChannelElement) : PortDescription where
  partitions :=
    [{ partitionName := "sensor"
       ports :=
        [{ name := "out", direction := .source, type := .sampling },
          { name := "spare", direction := .source, type := .sampling }] },
      { partitionName := "display"
        ports := [{ name := "in", direction := .destination, type := .sampling }] }]
  channels

/-- A channel from a port of the sensor to the port of the display. -/
def toDisplay (portName : String) : ChannelElement where
  type := .sampling
  ends :=
    [{ partitionId := 0, partitionName := some "sensor", portName, direction := .source },
      { partitionId := 1, partitionName := none, portName := "in", direction := .destination }]

theorem linkChannels2Ports_consistent_iff_oneChannel
    : ∃ t l, portTables (sensorAndDisplay [toDisplay "out"]).partitions = .ok t
        ∧ linkChannels2Ports (sensorAndDisplay [toDisplay "out"]) t = .ok l
        ∧ LinksConsistent (sensorAndDisplay [toDisplay "out"]) t l :=
  ⟨_, _, rfl, rfl, (linkChannels2Ports_consistent_iff rfl rfl).mpr (by decide)⟩

/-- Two channels with the same destination are accepted: the first one counts a receiver that no
port is linked to.
-/
theorem shared_destination_miscounted
    : ∃ t l, portTables (sensorAndDisplay [toDisplay "out", toDisplay "spare"]).partitions = .ok t
        ∧ linkChannels2Ports (sensorAndDisplay [toDisplay "out", toDisplay "spare"]) t = .ok l
        ∧ l.channelId 2 = some 1 ∧ l.noReceivers 0 = 1 ∧ t.destinations l 0 = ∅ :=
  ⟨_, _, rfl, rfl, rfl, rfl, by decide⟩

-----------------------------------------------------------------------------------------
-- The tables of the kernel

/-- The ports and channels of a configuration as `GenerateCommPortTab` and
`GenerateCommChannelTab` print them.
-/
structure Generated (doc : PortDescription) (t : PortTables) (l : ChannelLinks) (cfg : Config)
    : Prop where
  noCommPorts : cfg.noCommPorts = t.xmcCommPortTab.length
  noCommChannels : cfg.noCommChannels = doc.channels.length
  port : ∀ (j : Nat) port, t.xmcCommPortTab[j]? = some port →
    (cfg.xmcCommPorts j).channelId = l.channelId j
      ∧ (cfg.xmcCommPorts j).direction = port.direction ∧ (cfg.xmcCommPorts j).type = port.type
  channel : ∀ (c : Nat) channel, doc.channels[c]? = some channel →
    match cfg.xmcCommChannelTab c with
    | .sampling _ _ noReceivers =>
        channel.type = .sampling ∧ noReceivers = l.noReceivers c
    | .queuing _ _ => channel.type = .queuing

/-- Consistent links give the kernel exact receiver tables. -/
theorem LinksConsistent.counts {doc : PortDescription} {t : PortTables} {l : ChannelLinks}
    (consistent : LinksConsistent doc t l) {cfg : Config} (generated : Generated doc t l cfg)
    : LinkChannels2Ports cfg := by
  have entry : ∀ j, j < cfg.noCommPorts → ∃ port, t.xmcCommPortTab[j]? = some port := by
    intro j inside
    rw [generated.noCommPorts] at inside
    exact ⟨_, List.getElem?_eq_getElem inside⟩
  constructor
  · intro p c inside linked
    obtain ⟨port, found⟩ := entry p inside
    rw [(generated.port p port found).1] at linked
    obtain ⟨channel, -, -, present, -⟩ := consistent.linked p c linked
    rw [generated.noCommChannels]
    exact (List.getElem?_eq_some_iff.mp present).1
  · intro c maxLength period noReceivers inside sampling
    rw [generated.noCommChannels] at inside
    have present := List.getElem?_eq_getElem inside
    have shape := generated.channel c _ present
    rw [sampling] at shape
    obtain ⟨type, rfl⟩ := shape
    rw [consistent.counted c _ present type]
    congr 1
    ext j
    rw [mem_destinations, Objects.destinations, Finset.mem_filter, Finset.mem_range]
    constructor
    · rintro ⟨port, found, direction, linked⟩
      obtain ⟨same, direction', type'⟩ := generated.port j port found
      obtain ⟨channel, port', -, present', found', -, -, -, typed, -⟩ :=
        consistent.linked j c linked
      cases present.symm.trans present'
      cases found.symm.trans found'
      rw [generated.noCommPorts]
      refine ⟨(List.getElem?_eq_some_iff.mp found).1, ?_, ?_, ?_⟩
      · rw [type', ← typed, type]
      · rw [direction', direction]
      · rw [same, linked]
    · rintro ⟨below, destination⟩
      obtain ⟨port, found⟩ := entry j below
      obtain ⟨same, direction, -⟩ := generated.port j port found
      exact ⟨port, found, direction ▸ destination.direction_eq, same ▸ destination.linked⟩

end XtratuM.Parser
