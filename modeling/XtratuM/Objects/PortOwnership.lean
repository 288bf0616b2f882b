import XtratuM.Objects.PortEffects

/-! Which ports a partition can open. The lookup by name ends just past the partition's own
ports when no name matches, and that index may be another partition's port.
-/

namespace XtratuM.Objects

open Reachability
open XtratuM.Guest

-----------------------------------------------------------------------------------------
-- Looking a name up

/-- Two names agree up to their length or to the end of the first. -/
def SameName (name other : Nat → BitVec 8) : Prop :=
  ∀ i < CONFIG_ID_STRING_LENGTH, (∀ j < i, name j ≠ 0) → name i = other i

/-- `strncmp` answers 0 exactly for equal names, by induction on the length compared. -/
theorem strncmpEq_iff {n : Nat} {name other : Nat → BitVec 8}
    : strncmpEq n name other = true ↔ ∀ i < n, (∀ j < i, name j ≠ 0) → name i = other i := by
  induction n generalizing name other with
  | zero => simp [strncmpEq]
  | succ n ih =>
      unfold strncmpEq
      split
      · next differ =>
          simp only [Bool.false_eq_true, false_iff]
          intro equal
          exact differ (equal 0 (by omega) (by simp))
      · next head =>
          have head : name 0 = other 0 := by simpa using head
          split
          · next ends =>
              simp only [true_iff]
              intro i _ before
              cases i with
              | zero => exact head
              | succ i => exact absurd ends (before 0 (by omega))
          · next continues =>
              rw [ih]
              constructor
              · intro tail i inside before
                cases i with
                | zero => exact head
                | succ i =>
                    refine tail i (by omega) ?_
                    intro j below
                    exact before (j + 1) (by omega)
              · intro equal i inside before
                refine equal (i + 1) (by omega) ?_
                intro j below
                cases j with
                | zero => exact continues
                | succ j => exact before j (by omega)

/-- The lookup finds a port of that name, or there is none and it ends just past the last
port.
-/
theorem lookupPort_cases (cfg : Config) (name : Nat → BitVec 8) (left port : Nat)
    : (port ≤ lookupPort cfg name left port ∧ lookupPort cfg name left port < port + left
        ∧ SameName name (cfg.xmcCommPorts (lookupPort cfg name left port)).name)
      ∨ (lookupPort cfg name left port = port + left
        ∧ ∀ q, port ≤ q → q < port + left → ¬ SameName name (cfg.xmcCommPorts q).name) := by
  induction left generalizing port with
  | zero =>
      refine Or.inr ⟨rfl, ?_⟩
      intro q above below
      omega
  | succ left ih =>
      unfold lookupPort
      split
      · next found => exact Or.inl ⟨by omega, by omega, strncmpEq_iff.mp found⟩
      · next other =>
          rcases ih (port + 1) with ⟨above, below, same⟩ | ⟨past, none⟩
          · exact Or.inl ⟨by omega, by omega, same⟩
          · refine Or.inr ⟨by omega, ?_⟩
            intro q above below
            by_cases first : q = port
            · subst first
              exact fun same => other (strncmpEq_iff.mpr same)
            · exact none q (by omega) (by omega)

-----------------------------------------------------------------------------------------
-- Own ports

/-- The ports the configuration gives to a partition. -/
def Owns (cfg : Config) (partitionId : XmU32) (port : Nat) : Prop :=
  (cfg.partition partitionId).commPortsOffset ≤ port
    ∧ port < (cfg.partition partitionId).commPortsOffset + (cfg.partition partitionId).noPorts

/-- Every open port was opened by the partition it belongs to. -/
def OwnPorts (cfg : Config) (s : State) : Prop :=
  ∀ port, (s.portTab port).flags.opened = true → Owns cfg (s.portTab port).partitionId port

/-- A create call that succeeded returned a configured port of the requested name. -/
def AnswersName (cfg : Config) (event : Event) : Prop :=
  ∀ call reply args, event = .call call reply → call.op.create? = some args → 0 ≤ reply.ret →
    ∃ port < cfg.noCommPorts, reply.ret = port
      ∧ SameName (bytesFrom call.space args.portName) (cfg.xmcCommPorts port).name

/-- The port just past the ones of a partition. -/
def pastLast (cfg : Config) (partitionId : XmU32) : Nat :=
  (cfg.partition partitionId).commPortsOffset + (cfg.partition partitionId).noPorts

theorem pastLast_foreign {cfg : Config} {partitionId : XmU32}
    : ¬ Owns cfg partitionId (pastLast cfg partitionId) := by
  intro own
  exact absurd own.2 (by simp [pastLast])

/-- A create call for a name none of the caller's ports has, when the port just past them
is one the call would open.
-/
structure OpensPast (cfg : Config) (s : State) (call : Call) (args : CreateArgs) : Prop where
  unnamed : ∀ port, Owns cfg call.caller port →
    ¬ SameName (bytesFrom call.space args.portName) (cfg.xmcCommPorts port).name
  fit : ∃ side, Permits cfg s call args (pastLast cfg call.caller) side

/-- The event is no create call that opens the port past the caller's own. -/
def StaysInside (cfg : Config) (s : State) (event : Event) : Prop :=
  ∀ call reply args, event = .call call reply → call.op.create? = some args →
    ¬ OpensPast cfg s call args

theorem found_cases (cfg : Config) (call : Call) (args : CreateArgs)
    : (Owns cfg call.caller (call.found cfg args)
        ∧ SameName (bytesFrom call.space args.portName)
          (cfg.xmcCommPorts (call.found cfg args)).name)
      ∨ (call.found cfg args = pastLast cfg call.caller
        ∧ ∀ port, Owns cfg call.caller port →
          ¬ SameName (bytesFrom call.space args.portName) (cfg.xmcCommPorts port).name) := by
  rcases lookupPort_cases cfg (bytesFrom call.space args.portName)
      (cfg.partition call.caller).noPorts (cfg.partition call.caller).commPortsOffset
    with ⟨above, below, same⟩ | ⟨past, none⟩
  · exact Or.inl ⟨⟨above, below⟩, same⟩
  · exact Or.inr ⟨past, fun port own => none port own.1 own.2⟩

-----------------------------------------------------------------------------------------
-- One step

/-- An operation that opens nothing keeps the ports with their owners. -/
theorem OwnPorts.of_same {cfg : Config} {s s' : State} (own : OwnPorts cfg s)
    (same : ∀ q, (s'.portTab q).flags.opened = true →
      (s.portTab q).flags.opened = true
        ∧ (s'.portTab q).partitionId = (s.portTab q).partitionId)
    : OwnPorts cfg s' := by
  intro q opened
  obtain ⟨before, owner⟩ := same q opened
  rw [owner]
  exact own q before

theorem openPort_portTab {s t : State} (port : Nat) (caller : XmU32)
    (same : t.portTab = s.portTab) (q : Nat)
    : (t.openPort port caller).portTab q
      = if q = port then
          { flags := { (s.portTab port).flags with opened := true }, partitionId := caller }
        else
          s.portTab q := by
  by_cases here : q = port
  · subst here
    simp [State.openPort, State.setPort, same]
  · simp [State.openPort, State.setPort, same, here]

/-- A create call keeps the ports with their owners and answers for the name exactly when it
does not open the port past the caller's own.
-/
theorem CreateEffect.owns_iff {cfg : Config} {s s' : State} {call : Call} {args : CreateArgs}
    {ret : Int} (own : OwnPorts cfg s) (effect : CreateEffect cfg s call args ret s')
    : (OwnPorts cfg s'
        ∧ (0 ≤ ret → ∃ port < cfg.noCommPorts, ret = port
          ∧ SameName (bytesFrom call.space args.portName) (cfg.xmcCommPorts port).name))
      ↔ ¬ OpensPast cfg s call args := by
  cases effect with
  | refused unfit negative kept =>
      have same : s'.portTab = s.portTab := by
        rcases kept with rfl | ⟨side, registered⟩
        · rfl
        · exact registered.endpoint.portTab
      constructor
      · intro _ past
        obtain ⟨side, fit⟩ := past.fit
        rcases found_cases cfg call args with ⟨inside, name⟩ | ⟨found, -⟩
        · exact past.unnamed _ inside name
        · exact unfit side (found ▸ fit)
      · intro _
        refine ⟨own.of_same fun q opened => ?_, fun success => ?_⟩
        · rw [same] at opened ⊢
          exact ⟨opened, rfl⟩
        · omega
  | @opened t side fit endpoint =>
      have tab := openPort_portTab (call.found cfg args) call.caller endpoint.portTab
      rcases found_cases cfg call args with ⟨inside, name⟩ | ⟨found, unnamed⟩
      · constructor
        · intro _ past
          exact past.unnamed _ inside name
        · intro _
          refine ⟨?_, fun _ => ⟨_, fit.openable.configured, rfl, name⟩⟩
          intro q opened
          rw [tab q] at opened ⊢
          split at opened
          · next here =>
              rw [if_pos here, here]
              exact inside
          · next other =>
              rw [if_neg other]
              exact own q opened
      · constructor
        · intro kept
          have foreign := kept.1 (call.found cfg args) (by rw [tab]; simp)
          rw [tab, if_pos rfl, found] at foreign
          exact absurd foreign pastLast_foreign
        · intro inside
          exact absurd ⟨unnamed, side, found ▸ fit⟩ inside

theorem Next.owns_iff {cfg : Config} {s s' : State} {event : Event} (own : OwnPorts cfg s)
    (next : Next cfg s event s')
    : (OwnPorts cfg s' ∧ AnswersName cfg event) ↔ StaysInside cfg s event := by
  cases next with
  | @call _ call reply returned =>
      cases creates : call.op.create? with
      | none =>
          constructor
          · intro _ call' reply' args same creates'
            cases same
            rw [creates] at creates'
            cases creates'
          · intro _
            refine ⟨own.of_same fun q opened => ?_, ?_⟩
            · have same := run_transfer creates returned q
              exact ⟨same.opened ▸ opened, same.partitionId⟩
            · intro call' reply' args same creates'
              cases same
              rw [creates] at creates'
              cases creates'
      | some args =>
          have effect := (run_create creates returned).owns_iff own
          constructor
          · intro kept call' reply' args' same creates'
            cases same
            cases creates.symm.trans creates'
            exact effect.mp ⟨kept.1, kept.2 call reply args rfl creates⟩
          · intro inside
            obtain ⟨own', name⟩ := effect.mpr (inside call reply args rfl creates)
            refine ⟨own', ?_⟩
            intro call' reply' args' same creates'
            cases same
            cases creates.symm.trans creates'
            exact name
  | @reset partitionId =>
      constructor
      · intro _ call reply args same
        cases same
      · intro _
        refine ⟨own.of_same fun q opened => ?_, ?_⟩
        · simp only [resetPartPorts] at opened ⊢
          split at opened
          · cases opened
          · next outside => exact ⟨opened, by rw [if_neg outside]⟩
        · intro call reply args same
          cases same
  | elsewhere =>
      constructor
      · intro _ call reply args same
        cases same
      · intro _
        refine ⟨own, ?_⟩
        intro call reply args same
        cases same

-----------------------------------------------------------------------------------------
-- Runs

theorem SetupComm.ownPorts {cfg : Config} {s : State} (setup : SetupComm cfg s)
    : OwnPorts cfg s := by
  intro port opened
  rw [setup.ports port] at opened
  cases opened

/-- As long as no create call opens the port past its caller's own, every open port belongs
to the partition that opened it and every success returned a port of the requested name;
and that is exactly what a next step needs to keep it so.
-/
theorem create_opens_own_ports {cfg : Config} {start s : State} {past : List Event}
    (setup : SetupComm cfg start)
    (run : Reach (guarded (StaysInside cfg) (Next cfg)) start past s)
    : OwnPorts cfg s ∧ (∀ event ∈ past, AnswersName cfg event)
      ∧ ∀ event s', Next cfg s event s' →
        ((OwnPorts cfg s' ∧ AnswersName cfg event) ↔ StaysInside cfg s event) := by
  have kept := run.preserves
    (P := fun past s => OwnPorts cfg s ∧ ∀ event ∈ past, AnswersName cfg event)
    ⟨setup.ownPorts, by simp⟩
    (by
      intro past s event s' before taken
      obtain ⟨own, name⟩ := (taken.2.owns_iff before.1).mpr taken.1
      refine ⟨own, ?_⟩
      intro event' member
      rcases List.mem_cons.mp member with rfl | earlier
      · exact name
      · exact before.2 event' earlier)
  exact ⟨kept.1, kept.2, fun event s' next => next.owns_iff kept.1⟩

/-- Two partitions with one port each, named "A" and "B" and linked to no channel. -/
def twoPorts : Config where
  noCommPorts := 2
  xmcCommPorts port :=
    { name := fun i => if i = 0 then BitVec.ofNat 8 (65 + port) else 0
      channelId := none
      direction := .source
      type := .sampling }
  noCommChannels := 0
  xmcCommChannelTab _ := .queuing 0 0
  partition p :=
    { commPortsOffset := p.toNat
      noPorts := 1
      noVCpus := 1
      noPhysicalMemoryAreas := 1 }

/-- The tables of `twoPorts` after `SetupComm`. -/
def closedPorts : State where
  portTab _ :=
    { flags := { opened := false, newMsg := false, consumedMsg := false }, partitionId := 0 }
  channelTab _ := .sampling .zero
  kThreadTab _ _ := none
  pct _ _ := { noCommPorts := 1, words := fun _ => 0 }

/-- Partition 0 asks for a source port whose name of one letter stands at 0x1000. -/
def asksFor (letter : BitVec 8) : Call where
  caller := 0
  vCpu := 0
  space :=
    { byte := fun addr => if addr = 0x1000 then letter else 0
      readable := fun _ => true
      writable := fun _ => true }
  now := 0
  op := .createSamplingPort 0 0x1000 0 2 0

theorem twoPorts_setup : SetupComm twoPorts closedPorts where
  ports _ := rfl
  channels c inside := absurd inside (Nat.not_lt_zero c)

/-- The reply of a call and what a port looks like after it. -/
def Call.outcome (cfg : Config) (call : Call) (s : State) (port : Nat)
    : Except Stop (Reply × Port) :=
  (call.run cfg s).map fun returned => (returned.1, returned.2.portTab port)

theorem create_opens_own_ports_twoPorts
    : ∃ s, Reach (guarded (StaysInside twoPorts) (Next twoPorts)) closedPorts
        [.call (asksFor 65) { ret := 0, data := [], flags := none }] s
      ∧ OwnPorts twoPorts s
      ∧ AnswersName twoPorts (.call (asksFor 65) { ret := 0, data := [], flags := none }) := by
  have answer : (asksFor 65).outcome twoPorts closedPorts 0 = .ok
      ({ ret := 0, data := [], flags := none },
        { flags := { opened := true, newMsg := false, consumedMsg := false }
          partitionId := 0 }) := by decide
  obtain ⟨⟨reply, s⟩, returned, same⟩ := map_eq_ok.mp answer
  cases (Prod.ext_iff.mp same).1
  have inside : StaysInside twoPorts closedPorts
      (.call (asksFor 65) { ret := 0, data := [], flags := none }) := by
    intro call reply args event creates past
    cases event
    cases creates
    refine past.unnamed 0 ⟨by decide, by decide⟩ ?_
    exact strncmpEq_iff.mp (by decide)
  have taken : guarded (StaysInside twoPorts) (Next twoPorts) closedPorts
      (.call (asksFor 65) { ret := 0, data := [], flags := none }) s :=
    ⟨inside, .call returned⟩
  have run := Reach.step .start taken
  obtain ⟨own, name, -⟩ := create_opens_own_ports twoPorts_setup run
  exact ⟨s, run, own, name _ (by simp)⟩

/-- Partition 0 asks for a name it has no port of, and gets partition 1's port. -/
theorem foreign_port_opened
    : ∃ s, Reach (Next twoPorts) closedPorts
        [.call (asksFor 67) { ret := 1, data := [], flags := none }] s
      ∧ ¬ OwnPorts twoPorts s
      ∧ ¬ AnswersName twoPorts (.call (asksFor 67) { ret := 1, data := [], flags := none }) := by
  have answer : (asksFor 67).outcome twoPorts closedPorts 1 = .ok
      ({ ret := 1, data := [], flags := none },
        { flags := { opened := true, newMsg := false, consumedMsg := false }
          partitionId := 0 }) := by decide
  obtain ⟨⟨reply, s⟩, returned, same⟩ := map_eq_ok.mp answer
  obtain ⟨rfl, opened⟩ := Prod.ext_iff.mp same
  refine ⟨s, .step .start (Next.call returned), ?_, ?_⟩
  · intro own
    have inside := own 1 (by rw [show s.portTab 1 = _ from opened])
    rw [show s.portTab 1 = _ from opened] at inside
    exact absurd inside.2 (by decide)
  · intro answers
    obtain ⟨port, -, ret, name⟩ := answers _ _ _ rfl rfl (by decide)
    cases (show port = 1 by simpa using ret.symm)
    exact absurd (strncmpEq_iff.mpr name) (by decide)

end XtratuM.Objects
