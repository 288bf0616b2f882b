import XtratuM.Guest.Access

/-! The descriptor tables, task state and trap frames of a vCPU, and the hypercalls through
which its guest changes them.
-/

namespace XtratuM.Arch

open XtratuM.Guest

-----------------------------------------------------------------------------------------
-- Tables

def CONFIG_PARTITION_NO_GDT_ENTRIES : Nat := 32
def XM_GDT_ENTRIES : Nat := 12
def IDT_ENTRIES : Nat := 256
def FIRST_USER_IRQ_VECTOR : Nat := 0x30
def CS_SEL : XmU32 := (5 + 32) <<< 3
def DS_SEL : XmU32 := (6 + 32) <<< 3
def GUEST_CS_SEL : XmU32 := ((7 + 32) <<< 3) + 1
def GUEST_DS_SEL : XmU32 := ((8 + 32) <<< 3) + 1
def CPU_FLAG_IF : XmU32 := 0x200
def CPU_FLAG_IOPL : XmU32 := 0x3000
def CR0_TS : XmU32 := 1 <<< 3

/-- `struct x86Desc` by its two words; the first in memory is called `high`. -/
structure X86Desc where
  high : XmU32
  low : XmU32
  deriving DecidableEq, Repr

/-- `struct x86Gate` by its two words; the first in memory is called `high0`. -/
structure X86Gate where
  high0 : XmU32
  low0 : XmU32
  deriving DecidableEq, Repr

/-- `struct x86DescReg`. -/
structure X86DescReg where
  limit : BitVec 16
  linearBase : XmU32
  deriving DecidableEq, Repr

/-- The inner stacks of `struct x86Tss`. -/
structure X86Tss where
  sp1 : XmU32
  ss1 : BitVec 16
  sp2 : XmU32
  ss2 : BitVec 16
  deriving DecidableEq, Repr

/-- `X86DESC_LOW_P`. -/
def X86Desc.present (desc : X86Desc) : Bool := desc.low.getLsbD 15

/-- `X86DESC_LOW_S`: a code or data segment. -/
def X86Desc.codeData (desc : X86Desc) : Bool := desc.low.getLsbD 12

/-- The privilege level field, `(low >> X86DESC_LOW_DPL_POS) & 0x3`. -/
def X86Desc.dpl (desc : X86Desc) : XmU32 := desc.low >>> 13 &&& 3

/-- `GetDescBase`. -/
def X86Desc.base (desc : X86Desc) : XmU32 :=
  desc.low &&& 0xff000000 ||| (desc.low &&& 0xff) <<< 16 ||| desc.high >>> 16

/-- `GetDescLimit`. -/
def X86Desc.limit (desc : X86Desc) : XmU32 :=
  let raw : XmU32 := desc.low &&& 0xf0000 ||| desc.high &&& 0xffff
  if desc.low.getLsbD 23 then raw <<< 12 + 0xfff else raw

/-- `X86GATE_LOW0_P`. -/
def X86Gate.present (gate : X86Gate) : Bool := gate.low0.getLsbD 15

/-- `segSel`, the selector a gate transfers to. -/
def X86Gate.segSel (gate : X86Gate) : XmU32 := gate.high0 >>> 16

/-- The requested privilege level of a selector. -/
def rpl (selector : XmU32) : XmU32 := selector &&& 3

/-- The classes `IsGdtDescValid` sorts descriptors into. -/
inductive SegType
  | empty
  | codeData
  | tss
  deriving DecidableEq, Repr

/-- The answer of `IsGdtDescValid`: it also marks an accepted code or data segment as
accessed, in place.
-/
structure DescCheck where
  valid : Bool
  type : SegType
  desc : X86Desc
  deriving DecidableEq, Repr

/-- `IsGdtDescValid`. -/
def isGdtDescValid (desc : X86Desc) : DescCheck :=
  if !desc.present then
    { valid := true, type := .codeData, desc }
  else if desc.limit + desc.base > CONFIG_XM_OFFSET then
    { valid := false, type := .empty, desc }
  else if desc.codeData then
    if desc.dpl = 0 then
      { valid := false, type := .codeData, desc }
    else
      { valid := true, type := .codeData, desc := { desc with low := desc.low ||| 1 <<< 8 } }
  else
    let segType := desc.low >>> 8 &&& 0xF
    if segType = 0x9 ∨ segType = 0xb then
      { valid := true, type := .tss, desc }
    else
      { valid := false, type := .empty, desc }

/-- The descriptors `X86LoadGdtSys` and `X86UpdateGdtSys` install. -/
def DescCheck.installs (check : DescCheck) : Bool :=
  check.valid && check.type = .codeData

/-- `IsGateDescValid`: only trap gates, below the kernel, with a nonzero selector RPL. -/
def isGateDescValid (gate : X86Gate) : Bool :=
  if gate.low0 &&& 0x1fe0 = 0xf00 then
    let base := gate.low0 &&& 0xFFFF0000 ||| gate.high0 &&& 0xFFFF
    if base ≥ CONFIG_XM_OFFSET then
      false
    else
      rpl gate.segSel ≠ 0
  else
    false

-----------------------------------------------------------------------------------------
-- State

/-- The fields of `struct kThreadArch` these hypercalls read or write. -/
structure KThreadArch where
  cr0 : XmU32
  gdtTab : Nat → X86Desc
  idtTab : Nat → X86Gate
  tss : X86Tss

/-- The fields of the control table these hypercalls read or write. The guest may write
them at any time.
-/
structure PctArch where
  gdtr : X86DescReg
  idtr : X86DescReg
  maxIdtVec : XmU32
  cr0 : XmU32
  iFlags : XmU32

/-- The processor frame of `cpuCtxt_t`. -/
structure CpuCtxt where
  eCode : XmU32
  ip : XmU32
  cs : XmU32
  flags : XmU32
  sp : XmU32
  ss : XmU32

/-- A running vCPU: its tables, its control table, the processor's own `gdtTab` and the
context saved when it entered the kernel.
-/
structure VCpu where
  kArch : KThreadArch
  pct : PctArch
  gdtTab : Nat → X86Desc
  ctxt : CpuCtxt

/-- Replaces one entry of a table. -/
def setEntry {α : Type} (tab : Nat → α) (entry : Nat) (value : α) : Nat → α :=
  fun e => if e = entry then value else tab e

@[simp] theorem setEntry_same {α : Type} (tab : Nat → α) (entry : Nat) (value : α)
    : setEntry tab entry value entry = value :=
  if_pos rfl

theorem setEntry_other {α : Type} {tab : Nat → α} {entry e : Nat} {value : α}
    (other : e ≠ entry)
    : setEntry tab entry value e = tab e :=
  if_neg other

-----------------------------------------------------------------------------------------
-- Hypercalls

def readDesc (space : AddressSpace) (addr : XmU32) : Except Stop X86Desc := do
  let high ← space.read addr
  let low ← space.read (addr + 4)
  pure { high, low }

def readGate (space : AddressSpace) (addr : XmU32) : Except Stop X86Gate := do
  let high0 ← space.read addr
  let low0 ← space.read (addr + 4)
  pure { high0, low0 }

/-- A packed `struct x86DescReg`: sixteen bits of limit, then the base. -/
def readDescReg (space : AddressSpace) (addr : XmU32) : Except Stop X86DescReg := do
  let limit ← space.read addr
  let linearBase ← space.read (addr + 2)
  pure { limit := limit.setWidth 16, linearBase }

/-- `(limit + 1) / 8`, the number of entries of a descriptor table. -/
def X86DescReg.noEntries (reg : X86DescReg) : Nat := (reg.limit.toNat + 1) / 8

/-- A read-only, non-null parameter, as all these hypercalls ask for. -/
def paramFlags : PFlags where
  rw := false
  notNull := true

/-- `X86LoadTss32Sys`. -/
def x86LoadTss32Sys (space : AddressSpace) (t : XmU32) (v : VCpu)
    : Except Stop (XmRet × VCpu) :=
  ifChecked space t 104 paramFlags (.invalidParam, v) do
    let ss1 := (← space.read (t + 0x10)).setWidth 16
    let sp1 ← space.read (t + 0xC)
    let ss2 := (← space.read (t + 0x18)).setWidth 16
    let sp2 ← space.read (t + 0x14)
    if ss1 &&& 3 = 0 ∨ ss1.toNat >>> 3 ≥ CONFIG_PARTITION_NO_GDT_ENTRIES + XM_GDT_ENTRIES then
      pure (.invalidParam, v)
    else if sp1 ≥ CONFIG_XM_OFFSET then
      pure (.invalidParam, v)
    else if ss2 &&& 3 = 0
        ∨ ss2.toNat >>> 3 ≥ CONFIG_PARTITION_NO_GDT_ENTRIES + XM_GDT_ENTRIES then
      pure (.invalidParam, v)
    else if sp2 ≥ CONFIG_XM_OFFSET then
      pure (.invalidParam, v)
    else
      pure
        (.ok,
          { v with
            kArch := { v.kArch with tss := { sp1, ss1, sp2, ss2 }, cr0 := v.kArch.cr0 ||| CR0_TS }
            pct := { v.pct with cr0 := v.pct.cr0 ||| CR0_TS } })

/-- The two tables `X86LoadGdtSys` fills. -/
structure GdtTabs where
  kArch : Nat → X86Desc
  processor : Nat → X86Desc

/-- The loop of `X86LoadGdtSys` over the guest's table, from entry `e` on. -/
def loadEntries (space : AddressSpace) (linearBase : XmU32)
    : Nat → Nat → GdtTabs → Except Stop GdtTabs
  | 0, _, tabs => .ok tabs
  | left + 1, e, tabs => do
      let desc ← readDesc space (linearBase + BitVec.ofNat 32 (8 * e))
      let check := isGdtDescValid desc
      if check.installs then
        loadEntries space linearBase left (e + 1)
          { kArch := setEntry tabs.kArch e check.desc
            processor := setEntry tabs.processor e check.desc }
      else
        loadEntries space linearBase left (e + 1) tabs

/-- The guest's part of a table zeroed by `memset`. -/
def clearGuestEntries (tab : Nat → X86Desc) : Nat → X86Desc :=
  fun e => if e < CONFIG_PARTITION_NO_GDT_ENTRIES then { high := 0, low := 0 } else tab e

/-- `X86LoadGdtSys`. -/
def x86LoadGdtSys (space : AddressSpace) (desc : XmU32) (v : VCpu)
    : Except Stop (XmRet × VCpu) :=
  ifChecked space desc 6 paramFlags (.invalidParam, v) do
    let gdtr ← readDescReg space desc
    if gdtr.noEntries > CONFIG_PARTITION_NO_GDT_ENTRIES then
      pure (.invalidParam, v)
    else
      let tabs ← loadEntries space gdtr.linearBase gdtr.noEntries 0
        { kArch := clearGuestEntries v.kArch.gdtTab, processor := v.gdtTab }
      pure
        (.ok,
          { v with
            pct := { v.pct with gdtr }
            kArch := { v.kArch with gdtTab := tabs.kArch }
            gdtTab := tabs.processor })

/-- `X86LoadIdtrSys`. -/
def x86LoadIdtrSys (space : AddressSpace) (desc : XmU32) (v : VCpu)
    : Except Stop (XmRet × VCpu) :=
  ifChecked space desc 6 paramFlags (.invalidParam, v) do
    let idtr ← readDescReg space desc
    pure
      (.ok,
        { v with
          pct := { v.pct with idtr, maxIdtVec := BitVec.ofNat 32 idtr.noEntries } })

/-- `X86UpdateSsSpSys`. -/
def x86UpdateSsSpSys (ss sp level : XmU32) (v : VCpu) : XmRet × VCpu :=
  if rpl ss = 0 ∨ ss.toNat >>> 3 ≥ CONFIG_PARTITION_NO_GDT_ENTRIES + XM_GDT_ENTRIES then
    (.invalidParam, v)
  else if sp ≥ CONFIG_XM_OFFSET then
    (.invalidParam, v)
  else if level = 1 then
    let tss := { v.kArch.tss with ss1 := ss.setWidth 16, sp1 := sp }
    (.ok, { v with kArch := { v.kArch with tss } })
  else if level = 2 then
    let tss := { v.kArch.tss with ss2 := ss.setWidth 16, sp2 := sp }
    (.ok, { v with kArch := { v.kArch with tss } })
  else
    (.invalidParam, v)

/-- Where `gdtTab[entry]` lies: addresses are sums of 32 bits, so that a negative entry is one far
behind the start of the table, or comes around to one of its own.
-/
def gdtSlot (entry : Int) : Nat := (entry % 2 ^ 29).toNat

/-- `X86UpdateGdtSys`. The entry is signed and only bounded above; slots behind the table stand for
what lies there.
-/
def x86UpdateGdtSys (space : AddressSpace) (entry : Int) (gdt : XmU32) (v : VCpu)
    : Except Stop (XmRet × VCpu) :=
  ifChecked space gdt 8 paramFlags (.invalidParam, v) do
    if entry ≥ CONFIG_PARTITION_NO_GDT_ENTRIES then
      pure (.invalidParam, v)
    else
      let desc ← readDesc space gdt
      let check := isGdtDescValid desc
      if check.installs then
        let gdtTab := setEntry v.kArch.gdtTab (gdtSlot entry) check.desc
        pure (.ok, { v with kArch := { v.kArch with gdtTab } })
      else
        pure (.invalidParam, v)

/-- `X86UpdateIdtSys`. -/
def x86UpdateIdtSys (space : AddressSpace) (entry : Int) (desc : XmU32) (v : VCpu)
    : Except Stop (XmRet × VCpu) :=
  ifChecked space desc 8 paramFlags (.invalidParam, v) do
    if entry < FIRST_USER_IRQ_VECTOR ∨ entry ≥ IDT_ENTRIES then
      pure (.invalidParam, v)
    else
      let gate ← readGate space desc
      if gate.present && !isGateDescValid gate then
        pure (.invalidParam, v)
      else
        let idtTab := setEntry v.kArch.idtTab entry.toNat gate
        pure (.ok, { v with kArch := { v.kArch with idtTab } })

-----------------------------------------------------------------------------------------
-- Trap frames

/-- The stack a guest frame returns to: on another level the frame names it. -/
def frameStack (space : AddressSpace) (ctxt : CpuCtxt) (cs : XmU32)
    : Except Stop (XmU32 × XmU32) :=
  if rpl cs ≠ rpl ctxt.cs then do
    let sp ← space.read (ctxt.sp + 12)
    let ss ← space.read (ctxt.sp + 16)
    pure (sp, ss)
  else
    .ok (ctxt.sp + 12, ctxt.ss)

/-- `X86IRetSys`: the frame at the top of the guest's stack is loaded as it is. -/
def x86IRetSys (space : AddressSpace) (v : VCpu) : Except Stop VCpu := do
  let cs ← space.read (v.ctxt.sp + 4)
  let (sp, ss) ← frameStack space v.ctxt cs
  let flags ← space.read (v.ctxt.sp + 8)
  let ip ← space.read v.ctxt.sp
  let iFlags := flags &&& CPU_FLAG_IF
  pure
    { v with
      ctxt := { v.ctxt with ip, cs, sp, ss, flags := (flags ||| CPU_FLAG_IF) &&& ~~~CPU_FLAG_IOPL }
      pct := { v.pct with iFlags } }

/-- `TestSp`: the bytes below a guest stack pointer can be written. -/
def testSp (space : AddressSpace) (sp size : XmU32) : Except Stop Bool := do
  let checked ← asmRWCheck space (sp - size) size
  pure (checked.ret ≥ 0)

/-- The stack a frame is pushed on, with the words pushed so far, last first. -/
structure GuestStack where
  sp : XmU32
  pushed : List (XmU32 × XmU32)

/-- `*(--sp) = value`. `TestSp` leaves write protection off: whatever is mapped is written, the
hypervisor's memory too.
-/
def GuestStack.push (space : AddressSpace) (stack : GuestStack) (value : XmU32)
    : Except Stop GuestStack :=
  let sp := stack.sp - 4
  if space.readable sp && space.readable (sp + 3) then
    .ok { sp, pushed := (sp, value) :: stack.pushed }
  else
    .error .badAccess

/-- The inner stack of the level of `cs`; only levels 1 and 2 have one. -/
def X86Tss.innerStack (tss : X86Tss) (cs : XmU32) : Except Stop (BitVec 16 × XmU32) :=
  if rpl cs = 1 then
    .ok (tss.ss1, tss.sp1)
  else if rpl cs = 2 then
    .ok (tss.ss2, tss.sp2)
  else
    .error .partitionPanic

/-- The stack segment and stack a trap to `cs` uses: the interrupted ones on the same
level, otherwise those of the task state, on which the interrupted ones are saved.
-/
def enterStack (space : AddressSpace) (v : VCpu) (cs : XmU32)
    : Except Stop (XmU32 × GuestStack) :=
  if rpl v.ctxt.cs = rpl cs then do
    if ← testSp space v.ctxt.sp 16 then
      pure (v.ctxt.ss, { sp := v.ctxt.sp, pushed := [] })
    else
      .error .partitionPanic
  else do
    let (ss, sp) ← v.kArch.tss.innerStack cs
    if ss = 0 ∨ sp = 0 then
      .error .partitionPanic
    else if ← testSp space sp 24 then
      let outer ← GuestStack.push space { sp, pushed := [] } v.ctxt.ss
      let stack ← outer.push space v.ctxt.sp
      pure (ss.setWidth 32, stack)
    else
      .error .partitionPanic

/-- `ERRCODE_TAB`: the traps that push an error code. -/
def ERRCODE_TAB : XmU32 := 0x27d00

/-- The trap is one that pushes an error code. -/
def pushesCode (irqNr : Nat) (trap : Bool) : Bool :=
  trap && (1 <<< irqNr &&& ERRCODE_TAB) != 0

/-- The words `FixStack` pushes for the handler to return with. -/
def pushFrame (space : AddressSpace) (v : VCpu) (irqNr : Nat) (trap : Bool) (stack : GuestStack)
    : Except Stop GuestStack := do
  let flags ← stack.push space (v.ctxt.flags &&& ~~~CPU_FLAG_IF ||| v.pct.iFlags)
  let cs ← flags.push space v.ctxt.cs
  let ip ← cs.push space v.ctxt.ip
  if pushesCode irqNr trap then ip.push space v.ctxt.eCode else pure ip

/-- `FixStack`: emulates the delivery of `vector` to the guest through its own table. -/
def fixStack (space : AddressSpace) (irqNr : Nat) (vector : XmU32) (trap : Bool) (v : VCpu)
    : Except Stop (VCpu × List (XmU32 × XmU32)) :=
  if vector ≥ v.pct.maxIdtVec then
    .error .partitionPanic
  else do
    let gate ← readGate space (v.pct.idtr.linearBase + vector * 8)
    let cs := gate.segSel
    let ip := gate.low0 >>> 16 <<< 16 ||| gate.high0 &&& 0xffff
    if ip ≥ CONFIG_XM_OFFSET ∨ rpl cs = 0 then
      .error .partitionPanic
    else
      let trapGate := gate.low0.getLsbD 8
      let iFlags := if trapGate then v.pct.iFlags else v.pct.iFlags &&& ~~~CPU_FLAG_IF
      let (ss, stack) ← enterStack space v cs
      let frame ← pushFrame space v irqNr trap stack
      pure
        ({ v with
            ctxt := { v.ctxt with ip, cs, ss, sp := frame.sp }
            pct := { v.pct with iFlags } },
          frame.pushed)

end XtratuM.Arch
