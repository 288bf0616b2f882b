import XtratuM.Library.Reachability
import XtratuM.Arch.Segments

/-! Which guest-controlled transfers can enter ring 0. Every step of a vCPU is matched with
the exact condition under which it leaves the vCPU protected. A step that gets at the memory of
the hypervisor through an address of the guest's may leave anything.
-/

namespace XtratuM.Arch

open XtratuM.Guest
open Reachability

-----------------------------------------------------------------------------------------
-- Protection

/-- The table index of a selector. -/
def selIndex (selector : XmU32) : Nat := selector.toNat >>> 3

/-- The selector names an entry of the global table whose descriptor is not of level 0. -/
structure Guarded (gdtTab : Nat → X86Desc) (selector : XmU32) : Prop where
  global : selector.getLsbD 2 = false
  inTab : selIndex selector < CONFIG_PARTITION_NO_GDT_ENTRIES + XM_GDT_ENTRIES
  dpl : (gdtTab (selIndex selector)).dpl ≠ 0

/-- The index of a present gate that the guest may have installed. -/
structure UserGate (idtTab : Nat → X86Gate) (entry : Nat) : Prop where
  user : FIRST_USER_IRQ_VECTOR ≤ entry
  inTab : entry < IDT_ENTRIES
  present : (idtTab entry).present = true

/-- No transfer the guest controls enters ring 0: neither the return to the saved context
nor one of its gates.
-/
structure Protected (v : VCpu) : Prop where
  cs : rpl v.ctxt.cs ≠ 0
  ss : rpl v.ctxt.ss ≠ 0
  gates : ∀ entry, UserGate v.kArch.idtTab entry →
    Guarded v.kArch.gdtTab (v.kArch.idtTab entry).segSel

/-- The inner stacks are unset or not of level 0. -/
structure X86Tss.Safe (tss : X86Tss) : Prop where
  ss1 : tss.ss1 = 0 ∨ tss.ss1 &&& 3 ≠ 0
  ss2 : tss.ss2 = 0 ∨ tss.ss2 &&& 3 ≠ 0

/-- Marking a segment as accessed leaves its level. -/
theorem isGdtDescValid_dpl (desc : X86Desc) : (isGdtDescValid desc).desc.dpl = desc.dpl := by
  unfold isGdtDescValid
  split
  · rfl
  · split
    · rfl
    · split
      · split
        · rfl
        · simp only [X86Desc.dpl, BitVec.ushiftRight_or_distrib]
          have marked : (1 <<< 8 : XmU32) >>> 13 = 0#32 := by decide
          rw [marked, BitVec.or_zero]
      · dsimp only
        split <;> rfl

-----------------------------------------------------------------------------------------
-- Guest operands

/-- The operands a hypercall reads through a checked pointer, as functions of memory. -/
def descAt (space : AddressSpace) (addr : XmU32) : X86Desc where
  high := space.word addr
  low := space.word (addr + 4)

def gateAt (space : AddressSpace) (addr : XmU32) : X86Gate where
  high0 := space.word addr
  low0 := space.word (addr + 4)

def descRegAt (space : AddressSpace) (addr : XmU32) : X86DescReg where
  limit := (space.word addr).setWidth 16
  linearBase := space.word (addr + 2)

theorem read_eq {space : AddressSpace} {addr word : XmU32}
    (returned : space.read addr = .ok word)
    : word = space.word addr := by
  unfold AddressSpace.read at returned
  split at returned
  · cases returned
    rfl
  · cases returned

theorem readDesc_eq {space : AddressSpace} {addr : XmU32} {desc : X86Desc}
    (returned : readDesc space addr = .ok desc)
    : desc = descAt space addr := by
  obtain ⟨high, readHigh, returned⟩ := bind_eq_ok.mp returned
  obtain ⟨low, readLow, returned⟩ := bind_eq_ok.mp returned
  cases returned
  rw [descAt, ← read_eq readHigh, ← read_eq readLow]

theorem readGate_eq {space : AddressSpace} {addr : XmU32} {gate : X86Gate}
    (returned : readGate space addr = .ok gate)
    : gate = gateAt space addr := by
  obtain ⟨high0, readHigh, returned⟩ := bind_eq_ok.mp returned
  obtain ⟨low0, readLow, returned⟩ := bind_eq_ok.mp returned
  cases returned
  rw [gateAt, ← read_eq readHigh, ← read_eq readLow]

theorem readDescReg_eq {space : AddressSpace} {addr : XmU32} {reg : X86DescReg}
    (returned : readDescReg space addr = .ok reg)
    : reg = descRegAt space addr := by
  obtain ⟨limit, readLimit, returned⟩ := bind_eq_ok.mp returned
  obtain ⟨linearBase, readBase, returned⟩ := bind_eq_ok.mp returned
  cases returned
  rw [descRegAt, ← read_eq readLimit, ← read_eq readBase]

-----------------------------------------------------------------------------------------
-- Trap frames

/-- The frame a return loads names no level-0 segment. -/
def TrustedFrame (space : AddressSpace) (ctxt : CpuCtxt) : Prop :=
  rpl (space.word (ctxt.sp + 4)) ≠ 0
  ∧ (rpl (space.word (ctxt.sp + 4)) ≠ rpl ctxt.cs → rpl (space.word (ctxt.sp + 16)) ≠ 0)

/-- The stack segment a return leaves is the frame's on another level, else unchanged. -/
theorem frameStack_ss {space : AddressSpace} {ctxt : CpuCtxt} {cs sp ss : XmU32}
    (returned : frameStack space ctxt cs = .ok (sp, ss))
    : ss = if rpl cs ≠ rpl ctxt.cs then space.word (ctxt.sp + 16) else ctxt.ss := by
  unfold frameStack at returned
  split at returned
  · next other =>
      obtain ⟨_, _, returned⟩ := bind_eq_ok.mp returned
      obtain ⟨_, readSs, returned⟩ := bind_eq_ok.mp returned
      cases returned
      rw [if_pos other]
      exact read_eq readSs
  · next same =>
      cases returned
      rw [if_neg same]

/-- A return keeps the vCPU protected exactly when the frame may be trusted: nothing in
`X86IRetSys` looks at the selectors it loads.
-/
theorem x86IRetSys_protected_iff {space : AddressSpace} {v v' : VCpu} (before : Protected v)
    (returned : x86IRetSys space v = .ok v')
    : Protected v' ↔ TrustedFrame space v.ctxt := by
  obtain ⟨cs, readCs, returned⟩ := bind_eq_ok.mp returned
  obtain ⟨⟨sp, ss⟩, stack, returned⟩ := bind_eq_ok.mp returned
  obtain ⟨_, _, returned⟩ := bind_eq_ok.mp returned
  obtain ⟨_, _, returned⟩ := bind_eq_ok.mp returned
  cases returned
  cases read_eq readCs
  have loaded := frameStack_ss stack
  constructor
  · intro after
    refine ⟨after.cs, ?_⟩
    intro other
    rw [if_pos other] at loaded
    exact loaded ▸ after.ss
  · rintro ⟨csTrusted, ssTrusted⟩
    refine { cs := csTrusted, ss := ?_, gates := before.gates }
    by_cases other : rpl (space.word (v.ctxt.sp + 4)) ≠ rpl v.ctxt.cs
    · rw [if_pos other] at loaded
      exact loaded ▸ ssTrusted other
    · rw [if_neg other] at loaded
      exact loaded ▸ before.ss

/-- Zero-extending an inner stack segment keeps its level. -/
theorem rpl_setWidth_ne_zero {selector : BitVec 16} (level : selector &&& 3 ≠ 0)
    : rpl (selector.setWidth 32) ≠ 0 := by
  intro zero
  apply level
  have extended : (selector &&& 3).setWidth 32 = 0 := by
    rw [BitVec.setWidth_and]
    exact zero
  have value := congrArg BitVec.toNat extended
  rw [BitVec.toNat_setWidth_of_le (by decide)] at value
  exact BitVec.eq_of_toNat_eq value

/-- An inner stack in use is not of level 0: an unset one stops the delivery. -/
theorem innerStack_ss {tss : X86Tss} (safe : tss.Safe) {cs : XmU32} {ss : BitVec 16}
    {sp : XmU32} (found : tss.innerStack cs = .ok (ss, sp))
    : ss = 0 ∨ ss &&& 3 ≠ 0 := by
  unfold X86Tss.innerStack at found
  split at found
  · cases found
    exact safe.ss1
  · split at found
    · cases found
      exact safe.ss2
    · cases found

theorem enterStack_ss {space : AddressSpace} {v : VCpu} {cs ss : XmU32} {stack : GuestStack}
    (before : rpl v.ctxt.ss ≠ 0) (safe : v.kArch.tss.Safe)
    (returned : enterStack space v cs = .ok (ss, stack))
    : rpl ss ≠ 0 := by
  unfold enterStack at returned
  split at returned
  · obtain ⟨writable, _, returned⟩ := bind_eq_ok.mp returned
    split at returned
    · cases returned
      exact before
    · cases returned
  · obtain ⟨⟨inner, sp⟩, found, returned⟩ := bind_eq_ok.mp returned
    dsimp only at returned
    split at returned
    · cases returned
    · next set =>
        obtain ⟨writable, _, returned⟩ := bind_eq_ok.mp returned
        split at returned
        · obtain ⟨_, _, returned⟩ := bind_eq_ok.mp returned
          obtain ⟨_, _, returned⟩ := bind_eq_ok.mp returned
          cases returned
          rcases innerStack_ss safe found with unset | level
          · exact absurd (Or.inl unset) set
          · exact rpl_setWidth_ne_zero level
        · cases returned

/-- Delivering a virtual interrupt keeps the vCPU protected, whatever the guest's table and
stack hold.
-/
theorem fixStack_protected {space : AddressSpace} {irqNr : Nat} {vector : XmU32}
    {trap : Bool} {v v' : VCpu} {pushed : List (XmU32 × XmU32)} (before : Protected v)
    (safe : v.kArch.tss.Safe)
    (returned : fixStack space irqNr vector trap v = .ok (v', pushed))
    : Protected v' ∧ v'.kArch = v.kArch := by
  unfold fixStack at returned
  split at returned
  · cases returned
  · obtain ⟨gate, _, returned⟩ := bind_eq_ok.mp returned
    dsimp only at returned
    split at returned
    · cases returned
    · next checked =>
        obtain ⟨⟨ss, stack⟩, entered, returned⟩ := bind_eq_ok.mp returned
        obtain ⟨frame, _, returned⟩ := bind_eq_ok.mp returned
        cases returned
        refine ⟨{ cs := ?_, ss := enterStack_ss before.ss safe entered,
                  gates := before.gates }, rfl⟩
        exact fun level => checked (Or.inr level)

section Pushes

/-- Bytes of guest memory: none of them is the hypervisor's. -/
def BelowXm (addr : XmU32) (size : Nat) : Prop :=
  addr.toNat + size ≤ CONFIG_XM_OFFSET.toNat

/-- The words that a return reads lie below the hypervisor. -/
def FrameBelow (space : AddressSpace) (ctxt : CpuCtxt) : Prop :=
  BelowXm ctxt.sp (if rpl (space.word (ctxt.sp + 4)) ≠ rpl ctxt.cs then 20 else 12)

/-- The stack on which a handler at `cs` finds its frame. -/
def frameTop (v : VCpu) (cs : XmU32) : XmU32 :=
  if rpl v.ctxt.cs = rpl cs then v.ctxt.sp
  else if rpl cs = 1 then v.kArch.tss.sp1
  else v.kArch.tss.sp2

def frameWords (v : VCpu) (irqNr : Nat) (trap : Bool) (cs : XmU32) : Nat :=
  (if rpl v.ctxt.cs = rpl cs then 3 else 5) + if pushesCode irqNr trap then 1 else 0

/-- The word that is pushed `i` words behind the top of a stack. -/
def wordBehind (top : XmU32) (i : Nat) : XmU32 := top - BitVec.ofNat 32 (4 * (i + 1))

/-- The words of the frame lie below the hypervisor. `TestSp` does not see to it: the pages of the
hypervisor can be written, and a range that wraps around is not probed at all.
-/
def StackBelow (space : AddressSpace) (irqNr : Nat) (vector : XmU32) (trap : Bool) (v : VCpu)
    : Prop :=
  let cs := (gateAt space (v.pct.idtr.linearBase + vector * 8)).segSel
  ∀ i < frameWords v irqNr trap cs, BelowXm (wordBehind (frameTop v cs) i) 4

/-- The stack after some words. -/
structure HoldsWords (top : XmU32) (words : Nat) (stack : GuestStack) : Prop where
  sp : stack.sp = top - BitVec.ofNat 32 (4 * words)
  below : (∀ word ∈ stack.pushed, BelowXm word.1 4) ↔ ∀ i < words, BelowXm (wordBehind top i) 4

theorem holdsWords_none (top : XmU32) : HoldsWords top 0 { sp := top, pushed := [] } where
  sp := (BitVec.sub_zero top).symm
  below := by simp

theorem HoldsWords.push {top value : XmU32} {words : Nat} {space : AddressSpace}
    {stack stack' : GuestStack} (holds : HoldsWords top words stack)
    (returned : stack.push space value = .ok stack')
    : HoldsWords top (words + 1) stack' := by
  have sp : stack.sp - 4 = wordBehind top words := by
    have sum : 4 * (words + 1) = 4 * words + 4 := Nat.mul_succ 4 words
    rw [holds.sp, wordBehind, sum, BitVec.ofNat_add]
    exact sub_sub top _ _
  unfold GuestStack.push at returned
  dsimp only at returned
  split at returned
  · cases returned
    refine { sp, below := ?_ }
    simp only [List.forall_mem_cons, holds.below, sp, Nat.forall_lt_succ_right]
    exact and_comm
  · cases returned

theorem enterStack_holds {space : AddressSpace} {v : VCpu} {cs ss : XmU32} {stack : GuestStack}
    (returned : enterStack space v cs = .ok (ss, stack))
    : HoldsWords (frameTop v cs) (if rpl v.ctxt.cs = rpl cs then 0 else 2) stack := by
  unfold enterStack at returned
  split at returned
  · next same =>
      obtain ⟨writable, _, returned⟩ := bind_eq_ok.mp returned
      split at returned
      · cases returned
        rw [if_pos same, frameTop, if_pos same]
        exact holdsWords_none v.ctxt.sp
      · cases returned
  · next other =>
      obtain ⟨⟨inner, sp⟩, found, returned⟩ := bind_eq_ok.mp returned
      have top : frameTop v cs = sp := by
        rw [frameTop, if_neg other]
        unfold X86Tss.innerStack at found
        split at found
        · next one =>
            cases found
            exact if_pos one
        · next notOne =>
            split at found
            · cases found
              exact if_neg notOne
            · cases found
      dsimp only at returned
      split at returned
      · cases returned
      · obtain ⟨writable, _, returned⟩ := bind_eq_ok.mp returned
        split at returned
        · obtain ⟨outer, pushedSs, returned⟩ := bind_eq_ok.mp returned
          obtain ⟨outerSp, pushedSp, returned⟩ := bind_eq_ok.mp returned
          cases returned
          rw [if_neg other, top]
          exact ((holdsWords_none sp).push pushedSs).push pushedSp
        · cases returned

theorem pushFrame_holds {space : AddressSpace} {v : VCpu} {irqNr : Nat} {trap : Bool}
    {top : XmU32} {words : Nat} {stack frame : GuestStack} (holds : HoldsWords top words stack)
    (returned : pushFrame space v irqNr trap stack = .ok frame)
    : HoldsWords top (words + 3 + if pushesCode irqNr trap then 1 else 0) frame := by
  obtain ⟨flags, pushedFlags, returned⟩ := bind_eq_ok.mp returned
  obtain ⟨cs, pushedCs, returned⟩ := bind_eq_ok.mp returned
  obtain ⟨ip, pushedIp, returned⟩ := bind_eq_ok.mp returned
  have three := ((holds.push pushedFlags).push pushedCs).push pushedIp
  split at returned
  · next code =>
      rw [if_pos code]
      exact three.push returned
  · next plain =>
      cases returned
      rw [if_neg plain]
      exact three

/-- A delivery pushes words of guest memory exactly when its frame lies below the hypervisor. -/
theorem fixStack_pushes_iff {space : AddressSpace} {irqNr : Nat} {vector : XmU32}
    {trap : Bool} {v v' : VCpu} {pushed : List (XmU32 × XmU32)}
    (returned : fixStack space irqNr vector trap v = .ok (v', pushed))
    : (∀ word ∈ pushed, BelowXm word.1 4) ↔ StackBelow space irqNr vector trap v := by
  unfold fixStack at returned
  split at returned
  · cases returned
  · obtain ⟨gate, read, returned⟩ := bind_eq_ok.mp returned
    cases readGate_eq read
    dsimp only at returned
    split at returned
    · cases returned
    · obtain ⟨⟨ss, stack⟩, entered, returned⟩ := bind_eq_ok.mp returned
      obtain ⟨frame, framed, returned⟩ := bind_eq_ok.mp returned
      cases returned
      rw [(pushFrame_holds (enterStack_holds entered) framed).below, StackBelow, frameWords]
      split <;> exact Iff.rfl

/-- A delivery through an interrupt gate clears the interrupt flag of the guest. -/
theorem fixStack_leaves {space : AddressSpace} {irqNr : Nat} {vector : XmU32} {trap : Bool}
    {v v' : VCpu} {pushed : List (XmU32 × XmU32)}
    (returned : fixStack space irqNr vector trap v = .ok (v', pushed))
    : v'.pct.iFlags
      = if (gateAt space (v.pct.idtr.linearBase + vector * 8)).low0.getLsbD 8 then v.pct.iFlags
        else v.pct.iFlags &&& ~~~CPU_FLAG_IF := by
  unfold fixStack at returned
  split at returned
  · cases returned
  · obtain ⟨gate, read, returned⟩ := bind_eq_ok.mp returned
    cases readGate_eq read
    dsimp only at returned
    split at returned
    · cases returned
    · obtain ⟨_, _, returned⟩ := bind_eq_ok.mp returned
      obtain ⟨_, _, returned⟩ := bind_eq_ok.mp returned
      cases returned
      rfl

end Pushes

-----------------------------------------------------------------------------------------
-- Tables

/-- The gate an accepted update installs selects a guarded descriptor: `IsGateDescValid`
looks at the level in the selector, not at that of the descriptor.
-/
def TrustedGate (space : AddressSpace) (entry : Int) (desc : XmU32) (v : VCpu) : Prop :=
  Accepts space desc 8 paramFlags →
  (FIRST_USER_IRQ_VECTOR : Int) ≤ entry → entry < IDT_ENTRIES →
  (gateAt space desc).present = true → isGateDescValid (gateAt space desc) = true →
    Guarded v.kArch.gdtTab (gateAt space desc).segSel

theorem x86UpdateIdtSys_protected_iff {space : AddressSpace} {entry : Int} {desc : XmU32}
    {v v' : VCpu} {ret : XmRet} (before : Protected v)
    (returned : x86UpdateIdtSys space entry desc v = .ok (ret, v'))
    : Protected v' ↔ TrustedGate space entry desc v := by
  rcases ifChecked_cases returned with ⟨refused, result⟩ | ⟨accepted, returned⟩
  · cases result
    exact iff_of_true before (fun accepted => absurd accepted refused)
  · split at returned
    · next outside =>
        cases returned
        refine iff_of_true before ?_
        intro _ low high
        omega
    · next inside =>
        obtain ⟨gate, read, returned⟩ := bind_eq_ok.mp returned
        cases readGate_eq read
        split at returned
        · next invalid =>
            cases returned
            refine iff_of_true before ?_
            intro _ _ _ present valid
            simp [present, valid] at invalid
        · next installed =>
            cases returned
            constructor
            · intro after _ low high present _
              have gate := after.gates entry.toNat
                { user := by omega, inTab := by omega
                  present := by simpa only [setEntry_same] using present }
              simpa only [setEntry_same] using gate
            · intro trusted
              refine { cs := before.cs, ss := before.ss, gates := ?_ }
              intro e user
              by_cases same : e = entry.toNat
              · subst same
                have present : (gateAt space desc).present = true := by
                  simpa only [setEntry_same] using user.present
                simp only [setEntry_same]
                refine trusted accepted (by omega) (by omega) present ?_
                simpa [present] using installed
              · have kept : UserGate v.kArch.idtTab e :=
                  { user with
                    present := by simpa only [setEntry_other same] using user.present }
                simpa only [setEntry_other same] using before.gates e kept

/-- An accepted update of a descriptor goes into the table. -/
def EntryInTab (space : AddressSpace) (entry : Int) (gdt : XmU32) : Prop :=
  Accepts space gdt 8 paramFlags →
  entry < CONFIG_PARTITION_NO_GDT_ENTRIES →
  (isGdtDescValid (descAt space gdt)).installs = true →
    gdtSlot entry < CONFIG_PARTITION_NO_GDT_ENTRIES + XM_GDT_ENTRIES

/-- An accepted update of a descriptor keeps the gates through it off level 0. -/
def TrustedDesc (space : AddressSpace) (entry : Int) (gdt : XmU32) (v : VCpu) : Prop :=
  Accepts space gdt 8 paramFlags →
  entry < CONFIG_PARTITION_NO_GDT_ENTRIES →
  (isGdtDescValid (descAt space gdt)).installs = true → (descAt space gdt).dpl = 0 →
    ∀ gate, UserGate v.kArch.idtTab gate →
      selIndex (v.kArch.idtTab gate).segSel ≠ gdtSlot entry

theorem x86UpdateGdtSys_protected_iff {space : AddressSpace} {entry : Int} {gdt : XmU32}
    {v v' : VCpu} {ret : XmRet} (before : Protected v)
    (returned : x86UpdateGdtSys space entry gdt v = .ok (ret, v'))
    : Protected v' ↔ TrustedDesc space entry gdt v := by
  rcases ifChecked_cases returned with ⟨refused, result⟩ | ⟨accepted, returned⟩
  · cases result
    exact iff_of_true before (fun accepted => absurd accepted refused)
  · split at returned
    · next outside =>
        cases returned
        refine iff_of_true before ?_
        intro _ inside
        omega
    · next inside =>
        obtain ⟨desc, read, returned⟩ := bind_eq_ok.mp returned
        cases readDesc_eq read
        dsimp only at returned
        split at returned
        · next installs =>
            cases returned
            constructor
            · intro after _ _ _ level gate user same
              have guarded := after.gates gate user
              apply guarded.dpl
              simp only [same, setEntry_same, isGdtDescValid_dpl, level]
            · intro trusted
              refine { cs := before.cs, ss := before.ss, gates := ?_ }
              intro gate user
              have guarded := before.gates gate user
              refine { guarded with dpl := ?_ }
              by_cases same : selIndex (v.kArch.idtTab gate).segSel = gdtSlot entry
              · simp only [same, setEntry_same, isGdtDescValid_dpl]
                intro level
                exact trusted accepted (by omega) installs level gate user same
              · simp only [setEntry_other same]
                exact guarded.dpl
        · next refused =>
            cases returned
            exact iff_of_true before (fun _ _ installs => absurd installs refused)

/-- What the loop over the guest's table leaves in an entry: the marked descriptor where an
acceptable one was read, the previous one elsewhere. Witness: induction on the entries
left.
-/
theorem loadEntries_kArch {space : AddressSpace} {linearBase : XmU32} {left e : Nat}
    {tabs loaded : GdtTabs} (returned : loadEntries space linearBase left e tabs = .ok loaded)
    (i : Nat)
    : let desc := descAt space (linearBase + BitVec.ofNat 32 (8 * i))
      loaded.kArch i =
        if e ≤ i ∧ i < e + left ∧ (isGdtDescValid desc).installs = true then
          (isGdtDescValid desc).desc
        else
          tabs.kArch i := by
  induction left generalizing e tabs with
  | zero =>
      cases returned
      intro desc
      rw [if_neg]
      rintro ⟨low, high, _⟩
      omega
  | succ left ih =>
      obtain ⟨desc, read, returned⟩ := bind_eq_ok.mp returned
      cases readDesc_eq read
      dsimp only at returned ⊢
      split at returned
      · next installs =>
          rw [ih returned]
          by_cases here : i = e
          · subst here
            rw [if_neg (by omega), if_pos ⟨le_refl _, by omega, installs⟩]
            exact setEntry_same _ _ _
          · simp only [setEntry_other here]
            congr 1
            simp only [eq_iff_iff]
            constructor
            · rintro ⟨low, high, rest⟩
              exact ⟨by omega, by omega, rest⟩
            · rintro ⟨low, high, rest⟩
              exact ⟨by omega, by omega, rest⟩
      · next skipped =>
          rw [ih returned]
          congr 1
          simp only [eq_iff_iff]
          constructor
          · rintro ⟨low, high, rest⟩
            exact ⟨by omega, by omega, rest⟩
          · rintro ⟨low, high, rest⟩
            have later : i ≠ e := by
              rintro rfl
              exact skipped rest
            exact ⟨by omega, by omega, rest⟩

/-- The table of an accepted load, which is read and marked in place, lies below the hypervisor. -/
def TableBelow (space : AddressSpace) (desc : XmU32) : Prop :=
  Accepts space desc 6 paramFlags →
  (descRegAt space desc).noEntries ≤ CONFIG_PARTITION_NO_GDT_ENTRIES →
    ∀ e < (descRegAt space desc).noEntries,
      BelowXm ((descRegAt space desc).linearBase + BitVec.ofNat 32 (8 * e)) 8

/-- Every present gate through the guest's part of the table finds its descriptor again in
an accepted new table, off level 0: the load first clears that part.
-/
def TrustedGdt (space : AddressSpace) (desc : XmU32) (v : VCpu) : Prop :=
  Accepts space desc 6 paramFlags →
  (descRegAt space desc).noEntries ≤ CONFIG_PARTITION_NO_GDT_ENTRIES →
    ∀ gate, UserGate v.kArch.idtTab gate →
      let index := selIndex (v.kArch.idtTab gate).segSel
      let loaded :=
        descAt space ((descRegAt space desc).linearBase + BitVec.ofNat 32 (8 * index))
      index < CONFIG_PARTITION_NO_GDT_ENTRIES →
        index < (descRegAt space desc).noEntries
        ∧ (isGdtDescValid loaded).installs = true
        ∧ loaded.dpl ≠ 0

theorem x86LoadGdtSys_protected_iff {space : AddressSpace} {desc : XmU32} {v v' : VCpu}
    {ret : XmRet} (before : Protected v)
    (returned : x86LoadGdtSys space desc v = .ok (ret, v'))
    : Protected v' ↔ TrustedGdt space desc v := by
  rcases ifChecked_cases returned with ⟨refused, result⟩ | ⟨accepted, returned⟩
  · cases result
    exact iff_of_true before (fun accepted => absurd accepted refused)
  · obtain ⟨gdtr, read, returned⟩ := bind_eq_ok.mp returned
    cases readDescReg_eq read
    split at returned
    · next tooMany =>
        cases returned
        exact iff_of_true before (fun _ fits => absurd fits (by omega))
    · next fits =>
        obtain ⟨tabs, load, returned⟩ := bind_eq_ok.mp returned
        cases returned
        have entries := loadEntries_kArch load
        constructor
        · intro after _ _ gate user
          dsimp only
          intro guest
          have level := (after.gates gate user).dpl
          simp only [entries] at level
          split at level
          · next installed =>
              rw [isGdtDescValid_dpl] at level
              exact ⟨by omega, installed.2.2, level⟩
          · simp only [clearGuestEntries, if_pos guest] at level
            exact absurd (by decide) level
        · intro trusted
          refine { cs := before.cs, ss := before.ss, gates := ?_ }
          intro gate user
          have guarded := before.gates gate user
          refine { guarded with dpl := ?_ }
          simp only [entries]
          split
          · next installed =>
              rw [isGdtDescValid_dpl]
              exact (trusted accepted (by omega) gate user (by omega)).2.2
          · next kept =>
              by_cases guest : selIndex (v.kArch.idtTab gate).segSel
                  < CONFIG_PARTITION_NO_GDT_ENTRIES
              · obtain ⟨inTable, installs, _⟩ := trusted accepted (by omega) gate user guest
                exact absurd ⟨Nat.zero_le _, by omega, installs⟩ kept
              · simp only [clearGuestEntries, if_neg guest]
                exact guarded.dpl

-----------------------------------------------------------------------------------------
-- Runs

/-- What may happen to a vCPU: a hypercall, a return through its frame, the delivery of a
virtual interrupt, a new entry into the kernel, or the guest writing its control table.
-/
inductive Event
  | loadTss32 (space : AddressSpace) (t : XmU32)
  | loadGdt (space : AddressSpace) (desc : XmU32)
  | loadIdtr (space : AddressSpace) (desc : XmU32)
  | updateSsSp (ss sp level : XmU32)
  | updateGdt (space : AddressSpace) (entry : Int) (gdt : XmU32)
  | updateIdt (space : AddressSpace) (entry : Int) (desc : XmU32)
  | iret (space : AddressSpace)
  | deliver (space : AddressSpace) (irqNr : Nat) (vector : XmU32) (trap : Bool)
  | enterKernel (ctxt : CpuCtxt)
  | writePct (pct : PctArch)

def step (v : VCpu) : Event → Except Stop VCpu
  | .loadTss32 space t => (x86LoadTss32Sys space t v).map Prod.snd
  | .loadGdt space desc => (x86LoadGdtSys space desc v).map Prod.snd
  | .loadIdtr space desc => (x86LoadIdtrSys space desc v).map Prod.snd
  | .updateSsSp ss sp level => .ok (x86UpdateSsSpSys ss sp level v).2
  | .updateGdt space entry gdt => (x86UpdateGdtSys space entry gdt v).map Prod.snd
  | .updateIdt space entry desc => (x86UpdateIdtSys space entry desc v).map Prod.snd
  | .iret space => x86IRetSys space v
  | .deliver space irqNr vector trap => (fixStack space irqNr vector trap v).map Prod.fst
  | .enterKernel ctxt => .ok { v with ctxt }
  | .writePct pct => .ok { v with pct }

/-- The processor saves a context of a guest, which it runs outside ring 0 with the stack
segment of its own level.
-/
def Event.Possible : Event → Prop
  | .enterKernel ctxt => rpl ctxt.cs ≠ 0 ∧ rpl ctxt.ss = rpl ctxt.cs
  | _ => True

/-- No address or index of the guest's gets the event at the memory of the hypervisor. -/
def OutsideXm (v : VCpu) : Event → Prop
  | .loadGdt space desc => TableBelow space desc
  | .updateGdt space entry gdt => EntryInTab space entry gdt
  | .iret space => FrameBelow space v.ctxt
  | .deliver space irqNr vector trap => StackBelow space irqNr vector trap v
  | _ => True

/-- A step that can happen. One that gets at the memory of the hypervisor may leave anything: what
it changes there depends on where the hypervisor has its data.
-/
def Next (v : VCpu) (event : Event) (v' : VCpu) : Prop :=
  event.Possible ∧ ∃ after, step v event = .ok after ∧ (OutsideXm v event → v' = after)

/-- The exact condition under which an event is sure to leave a protected vCPU protected. -/
def Trusted (v : VCpu) : Event → Prop
  | .loadGdt space desc => TableBelow space desc ∧ TrustedGdt space desc v
  | .updateGdt space entry gdt => EntryInTab space entry gdt ∧ TrustedDesc space entry gdt v
  | .updateIdt space entry desc => TrustedGate space entry desc v
  | .iret space => FrameBelow space v.ctxt ∧ TrustedFrame space v.ctxt
  | .deliver space irqNr vector trap => StackBelow space irqNr vector trap v
  | _ => True

theorem Trusted.outsideXm {v : VCpu} {event : Event} (trusted : Trusted v event)
    : OutsideXm v event := by
  cases event with
  | loadGdt space desc => exact trusted.1
  | updateGdt space entry gdt => exact trusted.1
  | iret space => exact trusted.1
  | deliver space irqNr vector trap => exact trusted
  | loadTss32 | loadIdtr | updateSsSp | updateIdt | enterKernel | writePct => exact trivial

/-- The hypercalls on tables and trap frames leave the inner stacks alone. -/
theorem x86LoadGdtSys_tss {space : AddressSpace} {desc : XmU32} {v v' : VCpu} {ret : XmRet}
    (returned : x86LoadGdtSys space desc v = .ok (ret, v'))
    : v'.kArch.tss = v.kArch.tss := by
  rcases ifChecked_cases returned with ⟨_, result⟩ | ⟨_, returned⟩
  · cases result
    rfl
  · obtain ⟨gdtr, _, returned⟩ := bind_eq_ok.mp returned
    split at returned
    · cases returned
      rfl
    · obtain ⟨tabs, _, returned⟩ := bind_eq_ok.mp returned
      cases returned
      rfl

theorem x86UpdateGdtSys_tss {space : AddressSpace} {entry : Int} {gdt : XmU32} {v v' : VCpu}
    {ret : XmRet} (returned : x86UpdateGdtSys space entry gdt v = .ok (ret, v'))
    : v'.kArch.tss = v.kArch.tss := by
  rcases ifChecked_cases returned with ⟨_, result⟩ | ⟨_, returned⟩
  · cases result
    rfl
  · split at returned
    · cases returned
      rfl
    · obtain ⟨desc, _, returned⟩ := bind_eq_ok.mp returned
      dsimp only at returned
      split at returned
      · cases returned
        rfl
      · cases returned
        rfl

theorem x86UpdateIdtSys_tss {space : AddressSpace} {entry : Int} {desc : XmU32}
    {v v' : VCpu} {ret : XmRet} (returned : x86UpdateIdtSys space entry desc v = .ok (ret, v'))
    : v'.kArch.tss = v.kArch.tss := by
  rcases ifChecked_cases returned with ⟨_, result⟩ | ⟨_, returned⟩
  · cases result
    rfl
  · split at returned
    · cases returned
      rfl
    · obtain ⟨gate, _, returned⟩ := bind_eq_ok.mp returned
      split at returned
      · cases returned
        rfl
      · cases returned
        rfl

theorem x86IRetSys_kArch {space : AddressSpace} {v v' : VCpu}
    (returned : x86IRetSys space v = .ok v')
    : v'.kArch = v.kArch := by
  obtain ⟨cs, _, returned⟩ := bind_eq_ok.mp returned
  obtain ⟨⟨sp, ss⟩, _, returned⟩ := bind_eq_ok.mp returned
  obtain ⟨flags, _, returned⟩ := bind_eq_ok.mp returned
  obtain ⟨ip, _, returned⟩ := bind_eq_ok.mp returned
  cases returned
  rfl

/-- What the hypercalls on the task state leave alone. -/
structure SameTransfers (v v' : VCpu) : Prop where
  ctxt : v'.ctxt = v.ctxt
  gdtTab : v'.kArch.gdtTab = v.kArch.gdtTab
  idtTab : v'.kArch.idtTab = v.kArch.idtTab

theorem SameTransfers.protected {v v' : VCpu} (same : SameTransfers v v')
    (before : Protected v)
    : Protected v' := by
  refine { cs := ?_, ss := ?_, gates := ?_ }
  · rw [same.ctxt]
    exact before.cs
  · rw [same.ctxt]
    exact before.ss
  · rw [same.gdtTab, same.idtTab]
    exact before.gates

/-- Only stacks off level 0 are loaded into the task state. -/
theorem x86LoadTss32Sys_safe {space : AddressSpace} {t : XmU32} {v v' : VCpu} {ret : XmRet}
    (before : v.kArch.tss.Safe) (returned : x86LoadTss32Sys space t v = .ok (ret, v'))
    : v'.kArch.tss.Safe ∧ SameTransfers v v' := by
  rcases ifChecked_cases returned with ⟨_, result⟩ | ⟨_, returned⟩
  · cases result
    exact ⟨before, rfl, rfl, rfl⟩
  · obtain ⟨ss1, _, returned⟩ := bind_eq_ok.mp returned
    obtain ⟨sp1, _, returned⟩ := bind_eq_ok.mp returned
    obtain ⟨ss2, _, returned⟩ := bind_eq_ok.mp returned
    obtain ⟨sp2, _, returned⟩ := bind_eq_ok.mp returned
    dsimp only at returned
    split at returned
    · cases returned
      exact ⟨before, rfl, rfl, rfl⟩
    · next ss1Level =>
        split at returned
        · cases returned
          exact ⟨before, rfl, rfl, rfl⟩
        · split at returned
          · cases returned
            exact ⟨before, rfl, rfl, rfl⟩
          · next ss2Level =>
              split at returned
              · cases returned
                exact ⟨before, rfl, rfl, rfl⟩
              · cases returned
                refine ⟨{ ss1 := Or.inr ?_, ss2 := Or.inr ?_ }, rfl, rfl, rfl⟩
                · exact fun level => ss1Level (Or.inl level)
                · exact fun level => ss2Level (Or.inl level)

theorem x86LoadIdtrSys_same {space : AddressSpace} {desc : XmU32} {v v' : VCpu} {ret : XmRet}
    (returned : x86LoadIdtrSys space desc v = .ok (ret, v'))
    : v'.kArch.tss = v.kArch.tss ∧ SameTransfers v v' := by
  rcases ifChecked_cases returned with ⟨_, result⟩ | ⟨_, returned⟩
  · cases result
    exact ⟨rfl, rfl, rfl, rfl⟩
  · obtain ⟨idtr, _, returned⟩ := bind_eq_ok.mp returned
    cases returned
    exact ⟨rfl, rfl, rfl, rfl⟩

/-- A selector whose truncation is of level 0 is of level 0. -/
theorem rpl_of_setWidth {selector : XmU32} (level : rpl selector ≠ 0)
    : selector.setWidth 16 &&& 3 ≠ 0 := by
  intro zero
  apply level
  have low : (selector &&& 3).setWidth 16 = 0 := by
    rw [BitVec.setWidth_and]
    exact zero
  have value := congrArg BitVec.toNat low
  have bound : (selector &&& 3).toNat ≤ 3 := by
    rw [BitVec.toNat_and]
    exact Nat.and_le_right
  rw [BitVec.toNat_setWidth, Nat.mod_eq_of_lt (by omega)] at value
  exact BitVec.eq_of_toNat_eq value

theorem x86UpdateSsSpSys_safe {ss sp level : XmU32} {v : VCpu} (before : v.kArch.tss.Safe)
    : (x86UpdateSsSpSys ss sp level v).2.kArch.tss.Safe
      ∧ SameTransfers v (x86UpdateSsSpSys ss sp level v).2 := by
  unfold x86UpdateSsSpSys
  split
  · exact ⟨before, rfl, rfl, rfl⟩
  · next selector =>
      have guest : ss.setWidth 16 &&& 3 ≠ 0 :=
        rpl_of_setWidth (fun zero => selector (Or.inl zero))
      split
      · exact ⟨before, rfl, rfl, rfl⟩
      · split
        · exact ⟨{ ss1 := Or.inr guest, ss2 := before.ss2 }, rfl, rfl, rfl⟩
        · split
          · exact ⟨{ ss1 := before.ss1, ss2 := Or.inr guest }, rfl, rfl, rfl⟩
          · exact ⟨before, rfl, rfl, rfl⟩

/-- One event outside the hypervisor's memory keeps the inner stacks safe and, on a protected vCPU,
protection exactly when it can be trusted.
-/
theorem step_protected_iff {v v' : VCpu} {event : Event} (before : Protected v)
    (safe : v.kArch.tss.Safe) (possible : event.Possible) (outside : OutsideXm v event)
    (taken : step v event = .ok v')
    : v'.kArch.tss.Safe ∧ (Protected v' ↔ Trusted v event) := by
  cases event with
  | loadTss32 space t =>
      obtain ⟨ret, returned⟩ := map_snd_eq_ok.mp taken
      obtain ⟨after, same⟩ := x86LoadTss32Sys_safe safe returned
      exact ⟨after, iff_of_true (same.protected before) trivial⟩
  | loadGdt space desc =>
      obtain ⟨ret, returned⟩ := map_snd_eq_ok.mp taken
      refine ⟨x86LoadGdtSys_tss returned ▸ safe, ?_⟩
      exact (x86LoadGdtSys_protected_iff before returned).trans (and_iff_right outside).symm
  | loadIdtr space desc =>
      obtain ⟨ret, returned⟩ := map_snd_eq_ok.mp taken
      obtain ⟨tss, same⟩ := x86LoadIdtrSys_same returned
      exact ⟨tss ▸ safe, iff_of_true (same.protected before) trivial⟩
  | updateSsSp ss sp level =>
      cases taken
      obtain ⟨after, same⟩ := x86UpdateSsSpSys_safe safe
      exact ⟨after, iff_of_true (same.protected before) trivial⟩
  | updateGdt space entry gdt =>
      obtain ⟨ret, returned⟩ := map_snd_eq_ok.mp taken
      refine ⟨x86UpdateGdtSys_tss returned ▸ safe, ?_⟩
      exact (x86UpdateGdtSys_protected_iff before returned).trans (and_iff_right outside).symm
  | updateIdt space entry desc =>
      obtain ⟨ret, returned⟩ := map_snd_eq_ok.mp taken
      exact ⟨x86UpdateIdtSys_tss returned ▸ safe, x86UpdateIdtSys_protected_iff before returned⟩
  | iret space =>
      refine ⟨x86IRetSys_kArch taken ▸ safe, ?_⟩
      exact (x86IRetSys_protected_iff before taken).trans (and_iff_right outside).symm
  | deliver space irqNr vector trap =>
      obtain ⟨pushed, returned⟩ := map_fst_eq_ok.mp taken
      obtain ⟨after, kArch⟩ := fixStack_protected before safe returned
      exact ⟨kArch ▸ safe, iff_of_true after outside⟩
  | enterKernel ctxt =>
      cases taken
      obtain ⟨cs, ss⟩ := possible
      exact ⟨safe, iff_of_true { cs, ss := ss ▸ cs, gates := before.gates } trivial⟩
  | writePct pct =>
      cases taken
      exact ⟨safe, iff_of_true { before with } trivial⟩

/-- A step that can happen and may be trusted. -/
def TrustedNext (v : VCpu) (event : Event) (v' : VCpu) : Prop :=
  Trusted v event ∧ Next v event v'

theorem TrustedNext.kept {v v' : VCpu} {event : Event} (before : Protected v)
    (safe : v.kArch.tss.Safe) (next : TrustedNext v event v')
    : Protected v' ∧ v'.kArch.tss.Safe := by
  obtain ⟨trusted, possible, after, taken, left⟩ := next
  obtain rfl := left trusted.outsideXm
  obtain ⟨inner, kept⟩ := step_protected_iff before safe possible trusted.outsideXm taken
  exact ⟨kept.mpr trusted, inner⟩

/-- A vCPU about to return to ring 0. -/
theorem ring0_not_protected (v : VCpu) : ¬ Protected { v with ctxt := { v.ctxt with cs := 0 } } :=
  fun kept => kept.cs (by decide : rpl 0 = 0)

/-- Memory that holds some words from an address on, all of it accessible. -/
def wordsFrom (base : XmU32) (words : List XmU32) : AddressSpace where
  byte addr :=
    let offset := (addr - base).toNat
    ((words.getD (offset / 4) 0) >>> (8 * (offset % 4))).setWidth 8
  readable _ := true
  writable _ := true

/-- A vCPU of ring 1 whose guest has installed nothing yet. -/
def bootedVCpu : VCpu where
  kArch :=
    { cr0 := 0x80000001
      gdtTab := fun e =>
        if e = 37 then { high := 0xffff, low := 0x00cf9b00 }
        else if e = 39 then { high := 0xbfff, low := 0x00cfbb00 }
        else { high := 0, low := 0 }
      idtTab := fun _ => { high0 := 0, low0 := 0 }
      tss := { sp1 := 0, ss1 := 0, sp2 := 0, ss2 := 0 } }
  pct :=
    { gdtr := { limit := 0, linearBase := 0 }, idtr := { limit := 0, linearBase := 0 }
      maxIdtVec := 0, cr0 := 0x80000001, iFlags := 0 }
  gdtTab := fun _ => { high := 0, low := 0 }
  ctxt :=
    { eCode := 0, ip := 0x100000, cs := GUEST_CS_SEL, flags := 0x202, sp := 0x2000
      ss := GUEST_DS_SEL }

theorem bootedVCpu_protected : Protected bootedVCpu where
  cs := by decide
  ss := by decide
  gates _ user := absurd user.present (by simp [bootedVCpu, X86Gate.present])

theorem bootedVCpu_safe : bootedVCpu.kArch.tss.Safe where
  ss1 := Or.inl rfl
  ss2 := Or.inl rfl

end XtratuM.Arch
