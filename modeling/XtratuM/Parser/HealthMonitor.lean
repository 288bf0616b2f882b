import XtratuM.Parser.Document

/-! The health-monitor tables of a configuration: how the parser fills them from the `Event`
elements of the hypervisor and of the partitions, and what it accepts.
-/

namespace XtratuM.Parser

/-- `XM_HM_AC_*`, in the order of their numbers. -/
inductive HmAction
  | ignore
  | shutdown
  | partitionColdReset
  | partitionWarmReset
  | hypervisorColdReset
  | hypervisorWarmReset
  | suspend
  | partitionHalt
  | hypervisorHalt
  | propagate
  | switchToMaintenance
  deriving DecidableEq, Repr

/-- `XM_HM_MAX_EVENTS`: seven generic events and twenty of the processor. -/
abbrev XM_HM_MAX_EVENTS : Nat := 27

abbrev HmEventId := Fin XM_HM_MAX_EVENTS

/-- `struct xmcHmSlot`. -/
structure HmSlot where
  action : HmAction
  log : Bool
  deriving DecidableEq, Repr

/-- A `hmTab`. -/
abbrev HmTab := HmEventId → HmSlot

/-- The `LineError` calls of the health-monitor part, with the values they print. -/
inductive HmError
  /-- "Expected a valid Health Monitor action" -/
  | expectedAction
  /-- "Expected a valid Health Monitor event" -/
  | expectedEvent
  /-- "expected yes|no|true|false" -/
  | expectedYesNo
  /-- "Action \"%s\" on event \"%s\" is not permitted" -/
  | notPermitted (action : HmAction) (event : HmEventId)
  /-- "Although required, a maintenance plan is not defined for CPU \"%d\"" -/
  | noMaintenancePlan (cpu : Nat)
  deriving DecidableEq, Repr

-----------------------------------------------------------------------------------------
-- Names

def HmAction.all : List HmAction :=
  [.ignore, .shutdown, .partitionColdReset, .partitionWarmReset, .hypervisorColdReset,
    .hypervisorWarmReset, .suspend, .partitionHalt, .hypervisorHalt, .propagate,
    .switchToMaintenance]

/-- `hmActions`. -/
def hmActions : HmAction → String
  | .ignore => "XM_HM_AC_IGNORE"
  | .shutdown => "XM_HM_AC_SHUTDOWN"
  | .partitionColdReset => "XM_HM_AC_PARTITION_COLD_RESET"
  | .partitionWarmReset => "XM_HM_AC_PARTITION_WARM_RESET"
  | .hypervisorColdReset => "XM_HM_AC_HYPERVISOR_COLD_RESET"
  | .hypervisorWarmReset => "XM_HM_AC_HYPERVISOR_WARM_RESET"
  | .suspend => "XM_HM_AC_SUSPEND"
  | .partitionHalt => "XM_HM_AC_PARTITION_HALT"
  | .hypervisorHalt => "XM_HM_AC_HYPERVISOR_HALT"
  | .propagate => "XM_HM_AC_PROPAGATE"
  | .switchToMaintenance => "XM_HM_AC_SWITCH_TO_MAINTENANCE"

/-- `hmEvents`, for the x86; no event has the number of the reserved trap 15. -/
def hmEventNames : List (Option String) :=
  [some "XM_HM_EV_INTERNAL_ERROR", some "XM_HM_EV_SYSTEM_ERROR",
    some "XM_HM_EV_PARTITION_ERROR", some "XM_HM_EV_WATCHDOG_TIMER",
    some "XM_HM_EV_FP_ERROR", some "XM_HM_EV_MEM_PROTECTION",
    some "XM_HM_EV_UNEXPECTED_TRAP",
    some "XM_HM_EV_X86_DIVIDE_ERROR", some "XM_HM_EV_X86_DEBUG",
    some "XM_HM_EV_X86_NMI_INTERRUPT", some "XM_HM_EV_X86_BREAKPOINT",
    some "XM_HM_EV_X86_OVERFLOW", some "XM_HM_EV_X86_BOUND_RANGE_EXCEEDED",
    some "XM_HM_EV_X86_INVALID_OPCODE", some "XM_HM_EV_X86_DEVICE_NOT_AVAILABLE",
    some "XM_HM_EV_X86_DOUBLE_FAULT", some "XM_HM_EV_X86_COPROCESSOR_SEGMENT_OVERRUN",
    some "XM_HM_EV_X86_INVALID_TSS", some "XM_HM_EV_X86_SEGMENT_NOT_PRESENT",
    some "XM_HM_EV_X86_STACK_FAULT", some "XM_HM_EV_X86_GENERAL_PROTECTION",
    some "XM_HM_EV_X86_PAGE_FAULT", none,
    some "XM_HM_EV_X86_X87_FPU_ERROR", some "XM_HM_EV_X86_ALIGNMENT_CHECK",
    some "XM_HM_EV_X86_MACHINE_CHECK", some "XM_HM_EV_X86_SIMD_FLOATING_POINT"]

def hmEvents (event : HmEventId) : Option String :=
  hmEventNames.getD event none

/-- `ToHmAction`. -/
def toHmAction (s : String) : Except HmError HmAction :=
  match HmAction.all.find? fun action => s == hmActions action with
  | some action => .ok action
  | none => .error .expectedAction

/-- `ToHmEvent`. -/
def toHmEvent (s : String) : Except HmError HmEventId :=
  match (List.finRange XM_HM_MAX_EVENTS).find? fun event => hmEvents event == some s with
  | some event => .ok event
  | none => .error .expectedEvent

/-- `ToYNTF`. -/
def toYntf (s : String) : Except HmError Bool :=
  if s.toLower = "yes" ∨ s.toLower = "true" then
    .ok true
  else if s.toLower = "no" ∨ s.toLower = "false" then
    .ok false
  else
    .error .expectedYesNo

-----------------------------------------------------------------------------------------
-- Permitted actions

/-- `TOBIT`. -/
def HmAction.toBit : HmAction → XmU32
  | .ignore => 1 <<< 0
  | .shutdown => 1 <<< 1
  | .partitionColdReset => 1 <<< 2
  | .partitionWarmReset => 1 <<< 3
  | .hypervisorColdReset => 1 <<< 4
  | .hypervisorWarmReset => 1 <<< 5
  | .suspend => 1 <<< 6
  | .partitionHalt => 1 <<< 7
  | .hypervisorHalt => 1 <<< 8
  | .propagate => 1 <<< 9
  | .switchToMaintenance => 1 <<< 10

def bitsOf (actions : List HmAction) : XmU32 :=
  actions.foldl (fun bits action => bits ||| action.toBit) 0

/-- The actions a partition may ask for on most events; two rows differ in one of them. -/
def containing : List HmAction :=
  [.shutdown, .partitionColdReset, .partitionWarmReset, .hypervisorColdReset,
    .hypervisorWarmReset, .suspend, .partitionHalt, .hypervisorHalt, .switchToMaintenance]

/-- The row of an event of the processor in `hmPartEventsAndActions`. -/
def partTrapRow : XmU32 := bitsOf (.ignore :: .propagate :: containing)

/-- The row of an event of the processor in `hmHpvEventsAndActions`. -/
def hpvTrapRow : XmU32 :=
  bitsOf [.hypervisorColdReset, .hypervisorWarmReset, .hypervisorHalt, .propagate]

/-- `hmPartEventsAndActions`. -/
def hmPartEventsAndActions (event : HmEventId) : XmU32 :=
  ([bitsOf [.partitionHalt, .hypervisorHalt], bitsOf containing, bitsOf (.ignore :: containing),
    bitsOf (.ignore :: containing), bitsOf containing, bitsOf containing,
    bitsOf (.ignore :: containing)]
    ++ List.replicate 15 partTrapRow ++ [0] ++ List.replicate 4 partTrapRow).getD event 0

/-- `hmHpvEventsAndActions`. -/
def hmHpvEventsAndActions (event : HmEventId) : XmU32 :=
  ([bitsOf [.hypervisorColdReset, .hypervisorWarmReset, .hypervisorHalt],
    bitsOf [.hypervisorHalt], bitsOf [.hypervisorHalt], bitsOf [.hypervisorHalt],
    bitsOf [.hypervisorHalt], bitsOf [.hypervisorHalt],
    bitsOf [.ignore, .shutdown, .partitionColdReset, .partitionWarmReset, .hypervisorColdReset,
      .hypervisorWarmReset, .suspend, .hypervisorHalt, .switchToMaintenance]]
    ++ List.replicate 15 hpvTrapRow ++ [0] ++ List.replicate 4 hpvTrapRow).getD event 0

/-- A slot that no initializer names. -/
def zeroSlot : HmSlot where
  action := .ignore
  log := false

/-- `defaultPartHmTab`: only the generic events are logged. -/
def defaultPartHmTab : HmTab := fun event =>
  (List.replicate 7 (HmSlot.mk .partitionHalt true)
    ++ List.replicate 15 (HmSlot.mk .partitionHalt false) ++ [zeroSlot]
    ++ List.replicate 4 (HmSlot.mk .partitionHalt false)).getD event zeroSlot

/-- `defaultHpvHmTab`. -/
def defaultHpvHmTab : HmTab := fun event =>
  (List.replicate 22 (HmSlot.mk .hypervisorHalt true) ++ [zeroSlot]
    ++ List.replicate 4 (HmSlot.mk .hypervisorHalt true)).getD event zeroSlot

/-- `HmHpvIsActionPermittedOnEvent` and `HmPartIsActionPermittedOnEvent`, by their table. -/
def isActionPermittedOnEvent (eventsAndActions : HmEventId → XmU32) (event : HmEventId)
    (action : HmAction) : Except HmError Unit :=
  if eventsAndActions event &&& action.toBit = 0 then
    .error (.notPermitted action event)
  else
    .ok ()

-----------------------------------------------------------------------------------------
-- Elements

/-- An `Event` element; the schema asks for all three attributes. -/
structure EventElement where
  name : String
  action : String
  log : String
  deriving DecidableEq, Repr

/-- What the handlers keep between elements: the table `hmTabPtr` points at and `hmSlotNo`. -/
structure HmWalk where
  hmTab : HmTab
  hmSlotNo : HmEventId

/-- `NameHMEvent_AH`. -/
def nameHMEventAH (val : String) (w : HmWalk) : Except HmError HmWalk :=
  (toHmEvent val).map fun hmSlotNo => { w with hmSlotNo }

/-- `ActionHMEvent_AH`. -/
def actionHMEventAH (val : String) (w : HmWalk) : Except HmError HmWalk :=
  (toHmAction val).map fun action =>
    { w with hmTab := Function.update w.hmTab w.hmSlotNo { w.hmTab w.hmSlotNo with action } }

/-- `LogHMEvent_AH`. -/
def logHMEventAH (val : String) (w : HmWalk) : Except HmError HmWalk :=
  (toYntf val).map fun log =>
    { w with hmTab := Function.update w.hmTab w.hmSlotNo { w.hmTab w.hmSlotNo with log } }

/-- `EventHealthMonitor_NH0` and `EventHealthMonitor_NH1`; `cPartition` selects the table. -/
def eventHealthMonitorNH (eventsAndActions : HmEventId → XmU32) (w : HmWalk)
    : Except HmError Unit :=
  isActionPermittedOnEvent eventsAndActions w.hmSlotNo (w.hmTab w.hmSlotNo).action

/-- `ProcessXmlTree` at an `Event`: the attributes are handled in the order of `attrList`. -/
def eventHealthMonitor (eventsAndActions : HmEventId → XmU32) (w : HmWalk)
    (event : EventElement) : Except HmError HmWalk := do
  eventHealthMonitorNH eventsAndActions w
  let named ← nameHMEventAH event.name w
  let acting ← actionHMEventAH event.action named
  let logging ← logHMEventAH event.log acting
  eventHealthMonitorNH eventsAndActions logging
  pure logging

/-- `XmHypervisor_NH0` and the events of the hypervisor. -/
def xmHypervisor (events : List EventElement) (hmSlotNo : HmEventId)
    : Except HmError HmWalk :=
  events.foldlM (eventHealthMonitor hmHpvEventsAndActions) { hmTab := defaultHpvHmTab, hmSlotNo }

/-- `Partition_NH0` and the events of the partition, behind those of the others. -/
def partitionElement (before : List HmTab × HmEventId) (events : List EventElement)
    : Except HmError (List HmTab × HmEventId) :=
  (events.foldlM (eventHealthMonitor hmPartEventsAndActions)
    { hmTab := defaultPartHmTab, hmSlotNo := before.2 }).map fun w =>
      (before.1 ++ [w.hmTab], w.hmSlotNo)

/-- The elements read: `XMHypervisor` and `PartitionTable` in the order they have, and
`noSchedCyclicPlans` of each processor.
-/
structure HmDocument where
  hypervisorFirst : Bool
  hpv : List EventElement
  partitions : List (List EventElement)
  cyclicPlans : List Nat
  deriving DecidableEq, Repr

/-- `xmc.hpv.hmTab` and the `hmTab` of each partition. -/
structure HmTables where
  hpv : HmTab
  partitions : List HmTab

def readHmTables (doc : HmDocument) : Except HmError HmTables :=
  if doc.hypervisorFirst then do
    let hpv ← xmHypervisor doc.hpv 0
    let partitions ← doc.partitions.foldlM partitionElement ([], hpv.hmSlotNo)
    pure { hpv := hpv.hmTab, partitions := partitions.1 }
  else do
    let partitions ← doc.partitions.foldlM partitionElement ([], 0)
    let hpv ← xmHypervisor doc.hpv partitions.2
    pure { hpv := hpv.hmTab, partitions := partitions.1 }

/-- Some event of the table switches to maintenance. -/
def HmTab.maintenance (tab : HmTab) : Bool :=
  (List.finRange XM_HM_MAX_EVENTS).any fun event =>
    (tab event).action == .switchToMaintenance

/-- `HmCheckExistMaintenancePlan`. -/
def hmCheckExistMaintenancePlan (tables : HmTables) (cyclicPlans : List Nat)
    : Except HmError Unit :=
  if HmTab.maintenance tables.hpv || tables.partitions.any HmTab.maintenance then
    match cyclicPlans.findIdx? fun noSchedCyclicPlans => decide (noSchedCyclicPlans < 2) with
    | some cpu => .error (.noMaintenancePlan cpu)
    | none => .ok ()
  else
    .ok ()

/-- The health-monitor part of the parser. -/
def readHealthMonitor (doc : HmDocument) : Except HmError HmTables := do
  let tables ← readHmTables doc
  hmCheckExistMaintenancePlan tables doc.cyclicPlans
  pure tables

-----------------------------------------------------------------------------------------
-- What a document configures

/-- The slot an element configures. -/
structure EventElement.Says (element : EventElement) (row : HmEventId × HmSlot) : Prop where
  event : hmEvents row.1 = some element.name
  action : hmActions row.2.action = element.action
  log : toYntf element.log = .ok row.2.log

/-- The bit of the action is set in the row of the event. -/
def Permits (eventsAndActions : HmEventId → XmU32) (event : HmEventId) (action : HmAction)
    : Prop :=
  eventsAndActions event &&& action.toBit ≠ 0

instance (eventsAndActions : HmEventId → XmU32) (event : HmEventId) (action : HmAction)
    : Decidable (Permits eventsAndActions event action) :=
  inferInstanceAs (Decidable (_ ≠ _))

/-- A table in which the later of two rows for an event counts. -/
def configured (tab : HmTab) (rows : List (HmEventId × HmSlot)) : HmTab :=
  rows.foldl (fun tab row => Function.update tab row.1 row.2) tab

/-- The elements of a table say these rows, and the rows are permitted. -/
def Configures (eventsAndActions : HmEventId → XmU32) (elements : List EventElement)
    (rows : List (HmEventId × HmSlot)) : Prop :=
  List.Forall₂
    (fun element row => element.Says row ∧ Permits eventsAndActions row.1 row.2.action)
    elements rows

/-- The tables a document asks for. -/
structure Describes (doc : HmDocument) (tables : HmTables) : Prop where
  hpv : ∃ rows, Configures hmHpvEventsAndActions doc.hpv rows
    ∧ configured defaultHpvHmTab rows = tables.hpv
  partitions : ∃ rows, List.Forall₂ (Configures hmPartEventsAndActions) doc.partitions rows
    ∧ rows.map (configured defaultPartHmTab) = tables.partitions
  maintenance : (HmTab.maintenance tables.hpv || tables.partitions.any HmTab.maintenance) = true →
    ∀ noSchedCyclicPlans ∈ doc.cyclicPlans, 2 ≤ noSchedCyclicPlans

/-- Every event with a name has an action it permits, and the slot without one is zero. -/
structure AllPermitted (eventsAndActions : HmEventId → XmU32) (tab : HmTab) : Prop where
  permitted : ∀ event, hmEvents event ≠ none → Permits eventsAndActions event (tab event).action
  reserved : ∀ event, hmEvents event = none → tab event = zeroSlot

theorem defaultPartHmTab_permitted : AllPermitted hmPartEventsAndActions defaultPartHmTab where
  permitted := by decide +kernel
  reserved := by decide +kernel

theorem defaultHpvHmTab_permitted : AllPermitted hmHpvEventsAndActions defaultHpvHmTab where
  permitted := by decide +kernel
  reserved := by decide +kernel

-----------------------------------------------------------------------------------------
-- Names

theorem hmEvents_injective
    : ∀ event other, hmEvents event ≠ none → hmEvents event = hmEvents other → event = other := by
  decide +kernel

theorem toHmAction_eq {s : String} {action : HmAction}
    : toHmAction s = .ok action ↔ hmActions action = s := by
  unfold toHmAction
  constructor
  · intro returned
    split at returned
    · next found =>
        cases returned
        have hit := List.find?_some found
        exact (beq_iff_eq.mp hit).symm
    · cases returned
  · rintro rfl
    cases action <;> rfl

theorem toHmEvent_eq {s : String} {event : HmEventId}
    : toHmEvent s = .ok event ↔ hmEvents event = some s := by
  unfold toHmEvent
  constructor
  · intro returned
    split at returned
    · next found =>
        cases returned
        have hit := List.find?_some found
        exact beq_iff_eq.mp hit
    · cases returned
  · intro named
    split
    · next other found =>
        have hit := List.find?_some found
        have same : hmEvents other = some s := beq_iff_eq.mp hit
        rw [hmEvents_injective event other (by simp [named]) (named.trans same.symm)]
    · next missed =>
        have differs := List.find?_eq_none.mp missed event (List.mem_finRange event)
        exact absurd (beq_iff_eq.mpr named) differs

-----------------------------------------------------------------------------------------
-- Elements

theorem isActionPermittedOnEvent_eq {eventsAndActions : HmEventId → XmU32} {event : HmEventId}
    {action : HmAction}
    : isActionPermittedOnEvent eventsAndActions event action = .ok ()
      ↔ Permits eventsAndActions event action := by
  unfold isActionPermittedOnEvent Permits
  split <;> simp_all

/-- The walk after a row. -/
def HmWalk.after (w : HmWalk) (row : HmEventId × HmSlot) : HmWalk where
  hmTab := Function.update w.hmTab row.1 row.2
  hmSlotNo := row.1

/-- The table holds what it may, and the slot looked at last has a name. -/
structure HmWalk.Ready (eventsAndActions : HmEventId → XmU32) (w : HmWalk) : Prop where
  all : AllPermitted eventsAndActions w.hmTab
  named : hmEvents w.hmSlotNo ≠ none

theorem HmWalk.Ready.after {eventsAndActions : HmEventId → XmU32} {w : HmWalk}
    {row : HmEventId × HmSlot} (ready : w.Ready eventsAndActions)
    (named : hmEvents row.1 ≠ none) (permitted : Permits eventsAndActions row.1 row.2.action)
    : (w.after row).Ready eventsAndActions where
  all :=
    { permitted := by
        intro event known
        by_cases here : event = row.1
        · subst here
          simpa [HmWalk.after] using permitted
        · simpa [HmWalk.after, here] using ready.all.permitted event known
      reserved := by
        intro event unknown
        have other : event ≠ row.1 := by
          rintro rfl
          exact named unknown
        simpa [HmWalk.after, other] using ready.all.reserved event unknown }
  named := named

/-- The check before the attributes looks at the slot of the element before, maybe in the
table of another partition; it never fails.
-/
theorem HmWalk.Ready.checks {eventsAndActions : HmEventId → XmU32} {w : HmWalk}
    (ready : w.Ready eventsAndActions)
    : eventHealthMonitorNH eventsAndActions w = .ok () :=
  isActionPermittedOnEvent_eq.mpr (ready.all.permitted _ ready.named)

theorem eventHealthMonitor_eq {eventsAndActions : HmEventId → XmU32} {w w' : HmWalk}
    (ready : w.Ready eventsAndActions) (element : EventElement)
    : eventHealthMonitor eventsAndActions w element = .ok w'
      ↔ ∃ row, (element.Says row ∧ Permits eventsAndActions row.1 row.2.action)
        ∧ w.after row = w' := by
  unfold eventHealthMonitor
  rw [ready.checks, ok_bind]
  constructor
  · intro returned
    obtain ⟨named, naming, returned⟩ := bind_eq_ok.mp returned
    obtain ⟨acting, action, returned⟩ := bind_eq_ok.mp returned
    obtain ⟨logging, log, returned⟩ := bind_eq_ok.mp returned
    obtain ⟨_, checked, returned⟩ := bind_eq_ok.mp returned
    cases returned
    obtain ⟨event, name, rfl⟩ := map_eq_ok.mp naming
    obtain ⟨act, acts, rfl⟩ := map_eq_ok.mp action
    obtain ⟨on, logs, rfl⟩ := map_eq_ok.mp log
    refine ⟨(event, ⟨act, on⟩), ⟨?_, ?_⟩, ?_⟩
    · exact ⟨toHmEvent_eq.mp name, toHmAction_eq.mp acts, logs⟩
    · simpa [eventHealthMonitorNH] using isActionPermittedOnEvent_eq.mp checked
    · simp [HmWalk.after]
  · rintro ⟨⟨event, action, log⟩, ⟨said, permitted⟩, rfl⟩
    have name := toHmEvent_eq.mpr said.event
    have acts := toHmAction_eq.mpr said.action
    have checked : isActionPermittedOnEvent eventsAndActions event action = .ok () :=
      isActionPermittedOnEvent_eq.mpr permitted
    simp [nameHMEventAH, actionHMEventAH, logHMEventAH, eventHealthMonitorNH, name, acts,
      said.log, checked, Except.map, HmWalk.after]

/-- A loop whose rounds read a value off each element, as long as the accumulator is in order. -/
theorem foldlM_reads {ε σ α β : Type} {step : σ → α → Except ε σ} {Ready : σ → Prop}
    {R : α → β → Prop} {f : σ → β → σ}
    (reads : ∀ s a s', Ready s → (step s a = .ok s' ↔ ∃ b, R a b ∧ f s b = s'))
    (keeps : ∀ s a b, Ready s → R a b → Ready (f s b)) {elements : List α} {s s' : σ}
    (ready : Ready s)
    : elements.foldlM step s = .ok s'
      ↔ ∃ values, List.Forall₂ R elements values ∧ values.foldl f s = s' := by
  induction elements generalizing s with
  | nil =>
      simp only [List.foldlM_nil, List.forall₂_nil_left_iff, exists_eq_left, List.foldl_nil]
      exact ⟨Except.ok.inj, congrArg _⟩
  | cons element rest ih =>
      rw [List.foldlM_cons, bind_eq_ok]
      constructor
      · rintro ⟨next, stepped, returned⟩
        obtain ⟨value, read, rfl⟩ := (reads s element next ready).mp stepped
        obtain ⟨values, others, rfl⟩ := (ih (keeps s element value ready read)).mp returned
        exact ⟨value :: values, .cons read others, rfl⟩
      · rintro ⟨_, read | ⟨read, others⟩, rfl⟩
        refine ⟨_, (reads s element _ ready).mpr ⟨_, read, rfl⟩, ?_⟩
        exact (ih (keeps s element _ ready read)).mpr ⟨_, others, rfl⟩

theorem element_of_value {α β : Type} {R : α → β → Prop} {elements : List α} {values : List β}
    (read : List.Forall₂ R elements values) {value : β} (member : value ∈ values)
    : ∃ element, R element value := by
  induction read with
  | nil => cases member
  | cons head _ ih =>
      cases member with
      | head => exact ⟨_, head⟩
      | tail _ later => exact ih later

/-- What such a loop ends with is in order. -/
theorem foldl_ready {σ α β : Type} {Ready : σ → Prop} {R : α → β → Prop} {f : σ → β → σ}
    (keeps : ∀ s a b, Ready s → R a b → Ready (f s b)) {elements : List α} {values : List β}
    (read : List.Forall₂ R elements values) {s : σ} (ready : Ready s)
    : Ready (values.foldl f s) := by
  induction read generalizing s with
  | nil => exact ready
  | cons head _ ih => exact ih (keeps s _ _ ready head)

-----------------------------------------------------------------------------------------
-- Tables

theorem foldl_after_hmTab (rows : List (HmEventId × HmSlot)) (w : HmWalk)
    : (rows.foldl HmWalk.after w).hmTab = configured w.hmTab rows := by
  induction rows generalizing w with
  | nil => rfl
  | cons row rest ih => exact ih (w.after row)

theorem hpv_hmTab (rows : List (HmEventId × HmSlot)) (hmSlotNo : HmEventId)
    : (rows.foldl HmWalk.after { hmTab := defaultHpvHmTab, hmSlotNo }).hmTab
      = configured defaultHpvHmTab rows :=
  foldl_after_hmTab rows _

theorem HmWalk.Ready.says {eventsAndActions : HmEventId → XmU32} (w : HmWalk)
    (element : EventElement) (row : HmEventId × HmSlot) (ready : w.Ready eventsAndActions)
    (read : element.Says row ∧ Permits eventsAndActions row.1 row.2.action)
    : (w.after row).Ready eventsAndActions :=
  ready.after (by simp [read.1.event]) read.2

theorem HmWalk.Ready.events {eventsAndActions : HmEventId → XmU32} {w w' : HmWalk}
    (ready : w.Ready eventsAndActions) (elements : List EventElement)
    : elements.foldlM (eventHealthMonitor eventsAndActions) w = .ok w'
      ↔ ∃ rows, Configures eventsAndActions elements rows ∧ rows.foldl HmWalk.after w = w' :=
  foldlM_reads (fun _ element _ ready => eventHealthMonitor_eq ready element)
    HmWalk.Ready.says ready

theorem HmWalk.Ready.configures {eventsAndActions : HmEventId → XmU32} {w : HmWalk}
    (ready : w.Ready eventsAndActions) {elements : List EventElement}
    {rows : List (HmEventId × HmSlot)} (read : Configures eventsAndActions elements rows)
    : (rows.foldl HmWalk.after w).Ready eventsAndActions :=
  foldl_ready HmWalk.Ready.says read ready

theorem hpv_ready {hmSlotNo : HmEventId} (named : hmEvents hmSlotNo ≠ none)
    : HmWalk.Ready hmHpvEventsAndActions { hmTab := defaultHpvHmTab, hmSlotNo } :=
  ⟨defaultHpvHmTab_permitted, named⟩

theorem part_ready {hmSlotNo : HmEventId} (named : hmEvents hmSlotNo ≠ none)
    : HmWalk.Ready hmPartEventsAndActions { hmTab := defaultPartHmTab, hmSlotNo } :=
  ⟨defaultPartHmTab_permitted, named⟩

/-- The tables and the slot after those of another partition. -/
def opened (before : List HmTab × HmEventId) (rows : List (HmEventId × HmSlot))
    : List HmTab × HmEventId :=
  let w := rows.foldl HmWalk.after { hmTab := defaultPartHmTab, hmSlotNo := before.2 }
  (before.1 ++ [w.hmTab], w.hmSlotNo)

theorem foldl_opened_tables (rows : List (List (HmEventId × HmSlot)))
    (before : List HmTab × HmEventId)
    : (rows.foldl opened before).1 = before.1 ++ rows.map (configured defaultPartHmTab) := by
  induction rows generalizing before with
  | nil => exact (List.append_nil _).symm
  | cons first rest ih =>
      rw [List.foldl_cons, ih, List.map_cons, opened, foldl_after_hmTab, List.append_assoc]
      rfl

theorem part_hmTabs (rows : List (List (HmEventId × HmSlot))) (hmSlotNo : HmEventId)
    : (rows.foldl opened ([], hmSlotNo)).1 = rows.map (configured defaultPartHmTab) :=
  foldl_opened_tables rows _

theorem opened_named (before : List HmTab × HmEventId) (events : List EventElement)
    (rows : List (HmEventId × HmSlot)) (named : hmEvents before.2 ≠ none)
    (read : Configures hmPartEventsAndActions events rows)
    : hmEvents (opened before rows).2 ≠ none :=
  ((part_ready named).configures read).named

theorem partitionElement_eq {before after : List HmTab × HmEventId}
    (named : hmEvents before.2 ≠ none) (events : List EventElement)
    : partitionElement before events = .ok after
      ↔ ∃ rows, Configures hmPartEventsAndActions events rows ∧ opened before rows = after := by
  unfold partitionElement
  rw [map_eq_ok]
  constructor
  · rintro ⟨w, returned, rfl⟩
    obtain ⟨rows, read, rfl⟩ := ((part_ready named).events events).mp returned
    exact ⟨rows, read, rfl⟩
  · rintro ⟨rows, read, rfl⟩
    exact ⟨_, ((part_ready named).events events).mpr ⟨rows, read, rfl⟩, rfl⟩

theorem partitionElements_eq {partitions : List (List EventElement)}
    {before after : List HmTab × HmEventId} (named : hmEvents before.2 ≠ none)
    : partitions.foldlM partitionElement before = .ok after
      ↔ ∃ rows, List.Forall₂ (Configures hmPartEventsAndActions) partitions rows
        ∧ rows.foldl opened before = after :=
  @foldlM_reads _ _ _ _ partitionElement (fun before => hmEvents before.2 ≠ none) _ _
    (fun _ events _ named => partitionElement_eq named events) opened_named _ _ _ named

theorem xmHypervisor_eq {hmSlotNo : HmEventId} {w : HmWalk} (named : hmEvents hmSlotNo ≠ none)
    (events : List EventElement)
    : xmHypervisor events hmSlotNo = .ok w
      ↔ ∃ rows, Configures hmHpvEventsAndActions events rows
        ∧ rows.foldl HmWalk.after { hmTab := defaultHpvHmTab, hmSlotNo } = w :=
  (hpv_ready named).events events

/-- The tables of the elements, whichever of the two tables comes first. -/
theorem readHmTables_eq {doc : HmDocument} {tables : HmTables}
    : readHmTables doc = .ok tables
      ↔ (∃ rows, Configures hmHpvEventsAndActions doc.hpv rows
          ∧ configured defaultHpvHmTab rows = tables.hpv)
        ∧ ∃ rows, List.Forall₂ (Configures hmPartEventsAndActions) doc.partitions rows
          ∧ rows.map (configured defaultPartHmTab) = tables.partitions := by
  have first : hmEvents 0 ≠ none := by decide
  unfold readHmTables
  split
  · constructor
    · intro returned
      obtain ⟨w, hypervisor, returned⟩ := bind_eq_ok.mp returned
      obtain ⟨last, partitions, returned⟩ := bind_eq_ok.mp returned
      cases returned
      obtain ⟨hpvRows, hpv, rfl⟩ := (xmHypervisor_eq first _).mp hypervisor
      have named := ((hpv_ready first).configures hpv).named
      obtain ⟨rows, read, rfl⟩ := (partitionElements_eq named).mp partitions
      exact ⟨⟨hpvRows, hpv, (hpv_hmTab _ _).symm⟩, rows, read, (part_hmTabs rows _).symm⟩
    · rintro ⟨⟨hpvRows, hpv, hpvTab⟩, rows, read, partTabs⟩
      have named := ((hpv_ready first).configures hpv).named
      rw [(xmHypervisor_eq first _).mpr ⟨hpvRows, hpv, rfl⟩, ok_bind,
        (partitionElements_eq named).mpr ⟨rows, read, rfl⟩, ok_bind, hpv_hmTab, part_hmTabs,
        hpvTab, partTabs]
      rfl
  · constructor
    · intro returned
      obtain ⟨last, partitions, returned⟩ := bind_eq_ok.mp returned
      obtain ⟨w, hypervisor, returned⟩ := bind_eq_ok.mp returned
      cases returned
      obtain ⟨rows, read, rfl⟩ := (@partitionElements_eq _ ([], 0) _ first).mp partitions
      have named : hmEvents (rows.foldl opened ([], 0)).2 ≠ none :=
        @foldl_ready _ _ _ (fun before => hmEvents before.2 ≠ none) _ _ opened_named _ _ read
          ([], 0) first
      obtain ⟨hpvRows, hpv, rfl⟩ := (xmHypervisor_eq named _).mp hypervisor
      exact ⟨⟨hpvRows, hpv, (hpv_hmTab _ _).symm⟩, rows, read, (part_hmTabs rows _).symm⟩
    · rintro ⟨⟨hpvRows, hpv, hpvTab⟩, rows, read, partTabs⟩
      have named : hmEvents (rows.foldl opened ([], 0)).2 ≠ none :=
        @foldl_ready _ _ _ (fun before => hmEvents before.2 ≠ none) _ _ opened_named _ _ read
          ([], 0) first
      rw [(@partitionElements_eq _ ([], 0) _ first).mpr ⟨rows, read, rfl⟩, ok_bind,
        (xmHypervisor_eq named _).mpr ⟨hpvRows, hpv, rfl⟩, ok_bind, hpv_hmTab, part_hmTabs,
        hpvTab, partTabs]
      rfl

theorem hmCheckExistMaintenancePlan_eq {tables : HmTables} {cyclicPlans : List Nat}
    : hmCheckExistMaintenancePlan tables cyclicPlans = .ok ()
      ↔ ((HmTab.maintenance tables.hpv || tables.partitions.any HmTab.maintenance) = true →
        ∀ noSchedCyclicPlans ∈ cyclicPlans, 2 ≤ noSchedCyclicPlans) := by
  unfold hmCheckExistMaintenancePlan
  split
  · next switches =>
      simp only [switches, forall_const]
      split
      · next cpu found =>
          refine iff_of_false (by simp) ?_
          intro all
          obtain ⟨inside, few, -⟩ := List.findIdx?_eq_some_iff_getElem.mp found
          exact absurd (all _ (List.getElem_mem inside)) (Nat.not_le.mpr (of_decide_eq_true few))
      · next unlisted =>
          refine iff_of_true rfl ?_
          intro n member
          have enough := List.findIdx?_eq_none_iff.mp unlisted n member
          exact Nat.not_lt.mp (of_decide_eq_false enough)
  · next never => simp [never]

theorem readHealthMonitor_describes {doc : HmDocument} {tables : HmTables}
    (returned : readHealthMonitor doc = .ok tables)
    : Describes doc tables := by
  obtain ⟨read, reading, returned⟩ := bind_eq_ok.mp returned
  obtain ⟨_, checked, returned⟩ := bind_eq_ok.mp returned
  cases returned
  obtain ⟨hpv, partitions⟩ := readHmTables_eq.mp reading
  exact ⟨hpv, partitions, hmCheckExistMaintenancePlan_eq.mp checked⟩

theorem Describes.hpv_permitted {doc : HmDocument} {tables : HmTables}
    (describes : Describes doc tables)
    : AllPermitted hmHpvEventsAndActions tables.hpv := by
  obtain ⟨rows, configures, configured⟩ := describes.hpv
  rw [← configured, ← hpv_hmTab rows 0]
  exact ((hpv_ready (by decide)).configures configures).all

theorem Describes.part_permitted {doc : HmDocument} {tables : HmTables}
    (describes : Describes doc tables) {tab : HmTab} (member : tab ∈ tables.partitions)
    : AllPermitted hmPartEventsAndActions tab := by
  obtain ⟨rows, configures, configured⟩ := describes.partitions
  rw [← configured] at member
  obtain ⟨row, inside, rfl⟩ := List.mem_map.mp member
  obtain ⟨elements, read⟩ := element_of_value configures inside
  rw [← foldl_after_hmTab row { hmTab := defaultPartHmTab, hmSlotNo := 0 }]
  exact ((part_ready (by decide)).configures read).all

/-- The parser accepts a document exactly when it describes tables: every element names an
event and an action that the event permits, and a switch to maintenance has a plan to go to on
every processor. The tables are then the defaults with the last row for each event.
-/
theorem readHealthMonitor_iff (doc : HmDocument) (tables : HmTables)
    : readHealthMonitor doc = .ok tables ↔ Describes doc tables := by
  constructor
  · exact readHealthMonitor_describes
  · intro describes
    unfold readHealthMonitor
    rw [readHmTables_eq.mpr ⟨describes.hpv, describes.partitions⟩, ok_bind,
      hmCheckExistMaintenancePlan_eq.mpr describes.maintenance]
    rfl

end XtratuM.Parser
