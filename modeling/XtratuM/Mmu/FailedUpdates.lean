import XtratuM.Mmu.EntryInstalls
import XtratuM.Mmu.PageCache

/-! `UpdatePage32Sys` with the cache through which it reaches the page, and what is left of an
update that it refuses.
-/

namespace XtratuM.FailedUpdates

open Mmu PageCache

/-- The descriptors have their two parts apart: the types and counters, and what the cache keeps. -/
structure CachedState where
  mem : State
  cache : VCache (Nat × XmU32)

/-- The descriptor that `PmmFindPage` found. -/
def physPage (page : PageRef) : Nat × XmU32 :=
  (page.region, page.page)

def CachedState.page (s : CachedState) (page : PageRef) : CachedPage :=
  s.cache.page (physPage page)

/-- `UpdatePtd`, with the word to write unless the update is refused. -/
def updatePtd (cfg : MmuConfig) (pagePtd : PageRef) (pAddr val : XmU32) (s : CachedState)
    : Except Stop (Option XmU32 × CachedState) := do
  let mapped ← vCacheMapPage cfg.pgTables pAddr (physPage pagePtd) s.cache
  if !isValidPtdPtr (s.mem.page pagePtd).type pAddr then
    pure (none, { s with cache := mapped.2 })
  else do
    let oldVal := s.mem.word pAddr
    let cache ← vCacheUnlockPage (physPage pagePtd) mapped.2
    let counted ← countPtd cfg val s.mem
    if counted.1 = .ok then do
      let dropped ← dropPtd cfg oldVal counted.2
      pure (if dropped.1 = .ok then some val else none, { mem := dropped.2, cache })
    else
      pure (none, { mem := counted.2, cache })

/-- `UpdatePte`, with the word to write unless the update is refused. -/
def updatePte (cfg : MmuConfig) (vCpuId stack : XmU32) (pagePte : PageRef) (pAddr val : XmU32)
    (s : CachedState) : Except Stop (Option XmU32 × CachedState) := do
  let mapped ← vCacheMapPage cfg.pgTables pAddr (physPage pagePte) s.cache
  let oldVal := s.mem.word pAddr
  let cache ← vCacheUnlockPage (physPage pagePte) mapped.2
  let counted ← countPte cfg vCpuId stack val s.mem
  match counted.1 with
  | none => pure (none, { mem := counted.2, cache })
  | some new => do
      let dropped ← dropPte cfg vCpuId oldVal counted.2
      pure (if dropped.1 = .ok then some new else none, { mem := dropped.2, cache })

/-- `UpdatePPag32HndlTab`. -/
def updatePPag32Hndl (cfg : MmuConfig) (vCpuId stack : XmU32) (page : PageRef)
    (pAddr val : XmU32) (s : CachedState) : Except Stop (Option XmU32 × CachedState) :=
  match (s.mem.page page).type with
  | .ptdL1 => updatePtd cfg page pAddr val s
  | .ptdL2 => updatePte cfg vCpuId stack page pAddr val s
  | _ => .ok (some val, s)

/-- The write of `UpdatePage32Sys`. -/
def writePage (cfg : MmuConfig) (page : PageRef) (pAddr val : XmU32) (s : CachedState)
    : Except Stop CachedState := do
  let mapped ← vCacheMapPage cfg.pgTables pAddr (physPage page) s.cache
  let cache ← vCacheUnlockPage (physPage page) mapped.2
  pure { mem := s.mem.setWord pAddr val, cache }

/-- `UpdatePage32Sys`. -/
def updatePage32Sys (cfg : MmuConfig) (vCpuId stack pAddr val : XmU32) (s : CachedState)
    : Except Stop (XmRet × CachedState) :=
  if pAddr &&& 3 ≠ 0 then
    .ok (.invalidParam, s)
  else do
    let found ← pmmFindPage cfg.tables cfg.partition pAddr
    match found with
    | none => pure (.invalidParam, s)
    | some page => do
        let updated ← updatePPag32Hndl cfg vCpuId stack page pAddr val s
        match updated.1 with
        | none => pure (.invalidParam, updated.2)
        | some new => do
            let s ← writePage cfg page pAddr new updated.2
            pure (.ok, s)

/-- A refused update leaves the words of memory and the types and counters of the pages as they
were, and the page that it was for unlocked or not mapped.
-/
structure NoTrace (cfg : MmuConfig) (pAddr : XmU32) (s s' : CachedState) : Prop where
  byte : s'.mem.byte = s.mem.byte
  pages : s'.mem.physPageTab = s.mem.physPageTab
  unlocked : ∀ page, pAddr &&& 3 = 0 →
    pmmFindPage cfg.tables cfg.partition pAddr = .ok (some page) →
    (s'.page page).mapped = true → (s'.page page).unlocked = true

/-- The page behind the new entry is counted, and that behind the old one is not found. -/
def CountsPtd (cfg : MmuConfig) (val oldVal : XmU32) (s : State) : Prop :=
  (IsPresent val ∧ ∃ page, pmmFindPage cfg.tables cfg.partition (getAddr val) = .ok (some page)
      ∧ isValidPtdEntry (s.page page).type = true)
    ∧ IsPresent oldVal ∧ pmmFindPage cfg.tables cfg.partition (getAddr oldVal) = .ok none

def CountsPte (cfg : MmuConfig) (vCpuId val oldVal : XmU32) : Prop :=
  (IsPresent val ∧ ∃ page, pmmFindPage cfg.tables cfg.partition (getAddr val) = .ok (some page))
    ∧ IsPresent oldVal ∧ findPteTarget cfg vCpuId 0 (getAddr oldVal) = .ok none

/-- The handler of the page's type gives up too early, before it unlocks the page, or too late,
after it has counted a reference.
-/
def HandlerLeavesTrace (cfg : MmuConfig) (vCpuId : XmU32) (page : PageRef) (pAddr val : XmU32)
    (s : CachedState) : Prop :=
  ((s.mem.page page).type = .ptdL1 ∧ isValidPtdPtr (s.mem.page page).type pAddr = false
      ∧ (s.page page).unlocked = false)
    ∨ (isValidPtdPtr (s.mem.page page).type pAddr = true
      ∧ CountsPtd cfg val (s.mem.word pAddr) s.mem)
    ∨ ((s.mem.page page).type = .ptdL2 ∧ CountsPte cfg vCpuId val (s.mem.word pAddr))

def LeavesTrace (cfg : MmuConfig) (vCpuId pAddr val : XmU32) (s : CachedState) : Prop :=
  pAddr &&& 3 = 0
    ∧ ∃ page, pmmFindPage cfg.tables cfg.partition pAddr = .ok (some page)
      ∧ HandlerLeavesTrace cfg vCpuId page pAddr val s

-----------------------------------------------------------------------------------------
-- Without the cache

/-- An update that gets its tables through the cache does to memory what it does where every table
is mapped.
-/
theorem updatePtd_mem {cfg : MmuConfig} {page : PageRef} {pAddr val : XmU32} {s s' : CachedState}
    {word : Option XmU32} (returned : updatePtd cfg page pAddr val s = .ok (word, s'))
    : Mmu.updatePtd cfg page pAddr val s.mem = .ok (word, s'.mem) := by
  obtain ⟨mapped, _, returned⟩ := bind_eq_ok.mp returned
  unfold Mmu.updatePtd
  split at returned
  · next invalid =>
      cases returned
      rw [if_pos invalid]
  · next valid =>
      rw [if_neg valid]
      obtain ⟨cache, _, returned⟩ := bind_eq_ok.mp returned
      obtain ⟨counted, count, returned⟩ := bind_eq_ok.mp returned
      refine bind_eq_ok.mpr ⟨counted, count, ?_⟩
      split at returned
      · next goesOn =>
          obtain ⟨dropped, drop, returned⟩ := bind_eq_ok.mp returned
          cases returned
          rw [if_pos goesOn]
          exact bind_eq_ok.mpr ⟨dropped, drop, rfl⟩
      · next refused =>
          cases returned
          rw [if_neg refused]
          rfl

theorem updatePte_mem {cfg : MmuConfig} {vCpuId stack : XmU32} {page : PageRef}
    {pAddr val : XmU32} {s s' : CachedState} {word : Option XmU32}
    (returned : updatePte cfg vCpuId stack page pAddr val s = .ok (word, s'))
    : Mmu.updatePte cfg vCpuId stack pAddr val s.mem = .ok (word, s'.mem) := by
  obtain ⟨mapped, _, returned⟩ := bind_eq_ok.mp returned
  obtain ⟨cache, _, returned⟩ := bind_eq_ok.mp returned
  obtain ⟨⟨new, counted⟩, count, returned⟩ := bind_eq_ok.mp returned
  refine bind_eq_ok.mpr ⟨(new, counted), count, ?_⟩
  cases new with
  | none =>
      cases returned
      rfl
  | some new =>
      obtain ⟨dropped, drop, returned⟩ := bind_eq_ok.mp returned
      cases returned
      exact bind_eq_ok.mpr ⟨dropped, drop, rfl⟩

theorem updatePPag32Hndl_mem {cfg : MmuConfig} {vCpuId stack : XmU32} {page : PageRef}
    {pAddr val : XmU32} {s s' : CachedState} {word : Option XmU32}
    (returned : updatePPag32Hndl cfg vCpuId stack page pAddr val s = .ok (word, s'))
    : Mmu.updatePPag32Hndl cfg vCpuId stack page pAddr val s.mem = .ok (word, s'.mem) := by
  unfold updatePPag32Hndl at returned
  unfold Mmu.updatePPag32Hndl
  cases type : (s.mem.page page).type with
  | std | ptdL3 =>
      rw [type] at returned
      cases returned
      rfl
  | ptdL1 =>
      rw [type] at returned
      exact updatePtd_mem returned
  | ptdL2 =>
      rw [type] at returned
      exact updatePte_mem returned

/-- A call that gets through the cache does to memory what it does where every page is mapped. -/
theorem updatePage32Sys_mem {cfg : MmuConfig} {vCpuId stack pAddr val : XmU32}
    {s s' : CachedState} {ret : XmRet}
    (returned : updatePage32Sys cfg vCpuId stack pAddr val s = .ok (ret, s'))
    : Mmu.updatePage32Sys cfg vCpuId stack pAddr val s.mem = .ok (ret, s'.mem) := by
  unfold updatePage32Sys at returned
  unfold Mmu.updatePage32Sys
  split at returned
  · next unaligned =>
      cases returned
      rw [if_pos unaligned]
  · next aligned =>
      rw [if_neg aligned]
      obtain ⟨found, search, returned⟩ := bind_eq_ok.mp returned
      refine bind_eq_ok.mpr ⟨found, search, ?_⟩
      cases found with
      | none =>
          cases returned
          rfl
      | some page =>
          obtain ⟨⟨word, updated⟩, update, returned⟩ := bind_eq_ok.mp returned
          refine bind_eq_ok.mpr ⟨(word, updated.mem), updatePPag32Hndl_mem update, ?_⟩
          cases word with
          | none =>
              cases returned
              rfl
          | some word =>
              obtain ⟨_, write, returned⟩ := bind_eq_ok.mp returned
              cases returned
              obtain ⟨_, _, write⟩ := bind_eq_ok.mp write
              obtain ⟨_, _, write⟩ := bind_eq_ok.mp write
              cases write
              rfl

-----------------------------------------------------------------------------------------
-- The page in the cache

section Cache

variable {π : Type} [DecidableEq π]

omit [DecidableEq π] in
theorem vmMapPage_page {pgTables : Nat → XmU32} {pAddr vAddr flags : XmU32} {s s' : VCache π}
    (mapped : vmMapPage pgTables pAddr vAddr flags s = .ok s')
    : s'.page = s.page ∧ vAddr &&& (PAGE_SIZE - 1) = 0 := by
  obtain ⟨_, _, mapped⟩ := bind_eq_ok.mp mapped
  obtain ⟨_, aligned, mapped⟩ := bind_eq_ok.mp mapped
  obtain ⟨_, _, mapped⟩ := bind_eq_ok.mp mapped
  obtain ⟨_, _, mapped⟩ := bind_eq_ok.mp mapped
  cases mapped
  exact ⟨rfl, assert_ok.mp aligned⟩

theorem mapFrame_page {pgTables : Nat → XmU32} {pAddr vAddr : XmU32} {p : π} {s s' : VCache π}
    (mapped : mapFrame pgTables pAddr p s = .ok (vAddr, s'))
    : (s'.page p).mapped = true ∧ (s'.page p).unlocked = (s.page p).unlocked
      ∧ (s.page p).vAddr &&& (PAGE_SIZE - 1) = 0 := by
  obtain ⟨t, mapping, mapped⟩ := bind_eq_ok.mp mapped
  cases mapped
  obtain ⟨same, aligned⟩ := vmMapPage_page mapping
  rw [same]
  simpa [VCache.setMapped, VCache.setPage] using aligned

/-- A page that `VCacheMapPage` returns is mapped, and unlocked only if it was before. -/
theorem vCacheMapPage_page {pgTables : Nat → XmU32} {pAddr vAddr : XmU32} {p : π}
    {s s' : VCache π} (mapped : vCacheMapPage pgTables pAddr p s = .ok (vAddr, s'))
    : (s'.page p).mapped = true ∧ (s'.page p).unlocked = (s.page p).unlocked := by
  unfold vCacheMapPage at mapped
  split at mapped
  · next already =>
      cases mapped
      exact ⟨already, rfl⟩
  · obtain ⟨noFree, _, mapped⟩ := bind_eq_ok.mp mapped
    obtain ⟨given, placed, mapped⟩ := bind_eq_ok.mp mapped
    obtain ⟨isMapped, unlocked, aligned⟩ := mapFrame_page mapped
    refine ⟨isMapped, unlocked.trans ?_⟩
    unfold frameFor at placed
    split at placed
    · obtain ⟨⟨victim, lists⟩, _, placed⟩ := bind_eq_ok.mp placed
      cases victim with
      | none => cases placed
      | some victim =>
          cases placed
          by_cases same : victim = p
          · -- it would be mapped at the address that marks it as unmapped
            subst same
            simp [VCache.setPage] at aligned
            exact absurd aligned (by decide)
          · simp [VCache.setPage, Function.update_of_ne (Ne.symm same)]
    · obtain ⟨⟨addr, allocated⟩, alloc, placed⟩ := bind_eq_ok.mp placed
      cases placed
      have pages : allocated.page = s.page := by
        unfold vmmAlloc at alloc
        split at alloc
        · cases alloc
          rfl
        · obtain ⟨_, _, alloc⟩ := bind_eq_ok.mp alloc
          cases alloc
          rfl
      simp [VCache.setPage, pages]

theorem vCacheUnlockPage_page {p : π} {s s' : VCache π} (unlocked : vCacheUnlockPage p s = .ok s')
    : (s'.page p).unlocked = true := by
  obtain ⟨_, _, unlocked⟩ := bind_eq_ok.mp unlocked
  split at unlocked
  · next already =>
      cases unlocked
      exact already
  · obtain ⟨lists, _, unlocked⟩ := bind_eq_ok.mp unlocked
    cases unlocked
    simp [VCache.setPage]

end Cache

-----------------------------------------------------------------------------------------
-- The counters

theorem pPagIncCounter_ne (page : PageRef) (s : State)
    : (pPagIncCounter page s).physPageTab ≠ s.physPageTab := by
  intro same
  have counter := congrArg (fun tab => (tab page.region page.page).counter) same
  simp [pPagIncCounter, State.setPage, State.page] at counter

/-- The new entry is refused with nothing changed, or the page behind it is counted. -/
theorem countPtd_cases {cfg : MmuConfig} {val : XmU32} {s s' : State} {ret : XmRet}
    (counted : countPtd cfg val s = .ok (ret, s'))
    : (ret = .ok ∧ IsPresent val ∧ ∃ page,
        pmmFindPage cfg.tables cfg.partition (getAddr val) = .ok (some page)
          ∧ isValidPtdEntry (s.page page).type = true ∧ s' = pPagIncCounter page s)
      ∨ (s' = s ∧ ¬ (IsPresent val ∧ ∃ page,
        pmmFindPage cfg.tables cfg.partition (getAddr val) = .ok (some page)
          ∧ isValidPtdEntry (s.page page).type = true)) := by
  unfold countPtd at counted
  split at counted
  · next present =>
      obtain ⟨found, search, counted⟩ := bind_eq_ok.mp counted
      cases found with
      | none =>
          cases counted
          exact Or.inr ⟨rfl, fun ⟨_, _, found, _⟩ => by cases search.symm.trans found⟩
      | some page =>
          dsimp only at counted
          split at counted
          · next valid =>
              cases counted
              exact Or.inl ⟨rfl, present, page, search, valid, rfl⟩
          · next invalid =>
              cases counted
              refine Or.inr ⟨rfl, ?_⟩
              rintro ⟨_, _, found, valid⟩
              cases search.symm.trans found
              exact invalid valid
  · next absent =>
      cases counted
      exact Or.inr ⟨rfl, fun ⟨present, _⟩ => absent present⟩

/-- The old entry is refused, with nothing changed, exactly when its page is not found. -/
theorem dropPtd_cases {cfg : MmuConfig} {oldVal : XmU32} {s s' : State} {ret : XmRet}
    (dropped : dropPtd cfg oldVal s = .ok (ret, s'))
    : (ret ≠ .ok ∧ s' = s ∧ IsPresent oldVal
        ∧ pmmFindPage cfg.tables cfg.partition (getAddr oldVal) = .ok none)
      ∨ (ret = .ok ∧ ¬ (IsPresent oldVal
        ∧ pmmFindPage cfg.tables cfg.partition (getAddr oldVal) = .ok none)) := by
  unfold dropPtd at dropped
  split at dropped
  · next present =>
      obtain ⟨found, search, dropped⟩ := bind_eq_ok.mp dropped
      cases found with
      | none =>
          cases dropped
          exact Or.inl ⟨by decide, rfl, present, search⟩
      | some page =>
          obtain ⟨_, _, dropped⟩ := bind_eq_ok.mp dropped
          cases dropped
          exact Or.inr ⟨rfl, fun ⟨_, missing⟩ => by cases search.symm.trans missing⟩
  · next absent =>
      cases dropped
      exact Or.inr ⟨rfl, fun ⟨present, _⟩ => absent present⟩

theorem findPteTarget_page {cfg : MmuConfig} {vCpuId stack addr : XmU32}
    {target : Option PteTarget} (found : findPteTarget cfg vCpuId stack addr = .ok target)
    : ∃ page, pmmFindPage cfg.tables cfg.partition addr = .ok page
      ∧ target.bind PteTarget.page = page := by
  obtain ⟨page, search, found⟩ := bind_eq_ok.mp found
  refine ⟨page, search, ?_⟩
  cases page with
  | some page =>
      cases found
      rfl
  | none =>
      dsimp only at found
      split at found
      · cases found
        rfl
      · obtain ⟨area, _, found⟩ := bind_eq_ok.mp found
        cases found
        cases area <;> rfl

theorem countPte_cases {cfg : MmuConfig} {vCpuId stack val : XmU32} {s s' : State}
    {new : Option XmU32} (counted : countPte cfg vCpuId stack val s = .ok (new, s'))
    : (new.isSome ∧ IsPresent val ∧ ∃ page,
        pmmFindPage cfg.tables cfg.partition (getAddr val) = .ok (some page)
          ∧ s' = pPagIncCounter page s)
      ∨ (s' = s ∧ ¬ (IsPresent val ∧ ∃ page,
        pmmFindPage cfg.tables cfg.partition (getAddr val) = .ok (some page))) := by
  unfold countPte at counted
  split at counted
  · next present =>
      obtain ⟨found, search, counted⟩ := bind_eq_ok.mp counted
      obtain ⟨page, pageFound, same⟩ := findPteTarget_page search
      have missing (none : page = none) : ¬ (IsPresent val ∧ ∃ page,
          pmmFindPage cfg.tables cfg.partition (getAddr val) = .ok (some page)) := by
        rintro ⟨_, other, found⟩
        rw [none] at pageFound
        cases pageFound.symm.trans found
      cases found with
      | none =>
          cases counted
          exact Or.inr ⟨rfl, missing same.symm⟩
      | some target =>
          have same : target.page = page := same
          dsimp only at counted
          cases isPage : target.page with
          | some other =>
              rw [isPage] at counted same
              cases counted
              exact Or.inl ⟨rfl, present, other, same ▸ pageFound, rfl⟩
          | none =>
              rw [isPage] at counted same
              cases counted
              exact Or.inr ⟨rfl, missing same.symm⟩
  · next absent =>
      cases counted
      exact Or.inr ⟨rfl, fun ⟨present, _⟩ => absent present⟩

theorem dropPte_cases {cfg : MmuConfig} {vCpuId oldVal : XmU32} {s s' : State} {ret : XmRet}
    (dropped : dropPte cfg vCpuId oldVal s = .ok (ret, s'))
    : (ret ≠ .ok ∧ s' = s ∧ IsPresent oldVal
        ∧ findPteTarget cfg vCpuId 0 (getAddr oldVal) = .ok none)
      ∨ (ret = .ok ∧ ¬ (IsPresent oldVal
        ∧ findPteTarget cfg vCpuId 0 (getAddr oldVal) = .ok none)) := by
  unfold dropPte at dropped
  split at dropped
  · next present =>
      obtain ⟨found, search, dropped⟩ := bind_eq_ok.mp dropped
      cases found with
      | none =>
          cases dropped
          exact Or.inl ⟨by decide, rfl, present, search⟩
      | some target =>
          have ends : ret = .ok := by
            dsimp only at dropped
            split at dropped
            · obtain ⟨_, _, dropped⟩ := bind_eq_ok.mp dropped
              cases dropped
              rfl
            · cases dropped
              rfl
          exact Or.inr ⟨ends, fun ⟨_, missing⟩ => by cases search.symm.trans missing⟩
  · next absent =>
      cases dropped
      exact Or.inr ⟨rfl, fun ⟨present, _⟩ => absent present⟩

/-- What a refused update has done to the rest: nothing, or one counter is up. -/
theorem counted_iff {s s' : State} {Counted Missing : Prop}
    (refused : (Counted ∧ ∃ page, s' = pPagIncCounter page s) ∨ (s' = s ∧ ¬ Counted))
    (missing : Counted → Missing)
    : s'.byte = s.byte ∧ (s'.physPageTab = s.physPageTab ↔ ¬ (Counted ∧ Missing)) := by
  rcases refused with ⟨counted, page, rfl⟩ | ⟨rfl, notCounted⟩
  · exact ⟨rfl, iff_of_false (pPagIncCounter_ne page s) (not_not.mpr ⟨counted, missing counted⟩)⟩
  · exact ⟨rfl, iff_of_true rfl fun both => notCounted both.1⟩

-----------------------------------------------------------------------------------------
-- Refused updates

/-- `UpdatePtd` returns before it has unlocked the page. -/
theorem updatePtd_early {cfg : MmuConfig} {page : PageRef} {pAddr val : XmU32} {s s' : CachedState}
    {word : Option XmU32} (invalid : isValidPtdPtr (s.mem.page page).type pAddr = false)
    (returned : updatePtd cfg page pAddr val s = .ok (word, s'))
    : s'.mem = s.mem ∧ (s'.page page).mapped = true
      ∧ (s'.page page).unlocked = (s.page page).unlocked := by
  obtain ⟨mapped, mapping, returned⟩ := bind_eq_ok.mp returned
  rw [invalid] at returned
  cases returned
  exact ⟨rfl, vCacheMapPage_page mapping⟩

theorem updatePtd_refused {cfg : MmuConfig} {page : PageRef} {pAddr val : XmU32}
    {s s' : CachedState} (valid : isValidPtdPtr (s.mem.page page).type pAddr = true)
    (returned : updatePtd cfg page pAddr val s = .ok (none, s'))
    : (s'.page page).unlocked = true ∧ s'.mem.byte = s.mem.byte
      ∧ (s'.mem.physPageTab = s.mem.physPageTab
        ↔ ¬ CountsPtd cfg val (s.mem.word pAddr) s.mem) := by
  obtain ⟨mapped, mapping, returned⟩ := bind_eq_ok.mp returned
  rw [valid] at returned
  obtain ⟨cache, unlock, returned⟩ := bind_eq_ok.mp returned
  obtain ⟨⟨ret, counted⟩, count, returned⟩ := bind_eq_ok.mp returned
  have unlocked := vCacheUnlockPage_page unlock
  have cases' := countPtd_cases count
  dsimp only at returned
  split at returned
  · next goesOn =>
      obtain ⟨⟨dropRet, dropped⟩, drop, ends⟩ := bind_eq_ok.mp returned
      rcases dropPtd_cases drop with ⟨fails, rfl, missing⟩ | ⟨rfl, _⟩
      · dsimp only at ends
        rw [if_neg fails] at ends
        cases ends
        refine ⟨unlocked, counted_iff ?_ fun _ => missing⟩
        rcases cases' with ⟨_, present, found, search, isTable, rfl⟩ | same
        · exact Or.inl ⟨⟨present, found, search, isTable⟩, found, rfl⟩
        · exact Or.inr same
      · cases ends
  · next refused =>
      cases returned
      rcases cases' with ⟨rfl, _⟩ | ⟨rfl, notCounted⟩
      · exact absurd rfl refused
      · exact ⟨unlocked, rfl, iff_of_true rfl fun both => notCounted both.1⟩

theorem updatePte_refused {cfg : MmuConfig} {vCpuId stack : XmU32} {page : PageRef}
    {pAddr val : XmU32} {s s' : CachedState}
    (returned : updatePte cfg vCpuId stack page pAddr val s = .ok (none, s'))
    : (s'.page page).unlocked = true ∧ s'.mem.byte = s.mem.byte
      ∧ (s'.mem.physPageTab = s.mem.physPageTab
        ↔ ¬ CountsPte cfg vCpuId val (s.mem.word pAddr)) := by
  obtain ⟨mapped, mapping, returned⟩ := bind_eq_ok.mp returned
  obtain ⟨cache, unlock, returned⟩ := bind_eq_ok.mp returned
  obtain ⟨⟨new, counted⟩, count, returned⟩ := bind_eq_ok.mp returned
  have unlocked := vCacheUnlockPage_page unlock
  have cases' := countPte_cases count
  cases new with
  | some new =>
      obtain ⟨⟨dropRet, dropped⟩, drop, ends⟩ := bind_eq_ok.mp returned
      rcases dropPte_cases drop with ⟨fails, rfl, missing⟩ | ⟨rfl, _⟩
      · dsimp only at ends
        rw [if_neg fails] at ends
        cases ends
        refine ⟨unlocked, counted_iff ?_ fun _ => missing⟩
        rcases cases' with ⟨_, present, found, search, rfl⟩ | same
        · exact Or.inl ⟨⟨present, found, search⟩, found, rfl⟩
        · exact Or.inr same
      · cases ends
  | none =>
      cases returned
      rcases cases' with ⟨isSome, _⟩ | ⟨rfl, notCounted⟩
      · cases isSome
      · exact ⟨unlocked, rfl, iff_of_true rfl fun both => notCounted both.1⟩

/-- A refusal after which the page is unlocked, told by the counters alone. -/
theorem noTrace_unlocked {cfg : MmuConfig} {pAddr : XmU32} {page : PageRef} {s s' : CachedState}
    (found : pmmFindPage cfg.tables cfg.partition pAddr = .ok (some page))
    (unlocked : (s'.page page).unlocked = true) (byte : s'.mem.byte = s.mem.byte)
    : NoTrace cfg pAddr s s' ↔ s'.mem.physPageTab = s.mem.physPageTab := by
  refine ⟨NoTrace.pages, fun pages => { byte, pages, unlocked := ?_ }⟩
  intro other _ search _
  cases found.symm.trans search
  exact unlocked

theorem updatePPag32Hndl_refused {cfg : MmuConfig} {vCpuId stack : XmU32} {page : PageRef}
    {pAddr val : XmU32} {s s' : CachedState} (aligned : pAddr &&& 3 = 0)
    (found : pmmFindPage cfg.tables cfg.partition pAddr = .ok (some page))
    (returned : updatePPag32Hndl cfg vCpuId stack page pAddr val s = .ok (none, s'))
    : NoTrace cfg pAddr s s' ↔ ¬ HandlerLeavesTrace cfg vCpuId page pAddr val s := by
  unfold updatePPag32Hndl at returned
  unfold HandlerLeavesTrace
  cases type : (s.mem.page page).type with
  | std | ptdL3 =>
      rw [type] at returned
      cases returned
  | ptdL1 =>
      rw [type] at returned
      cases valid : isValidPtdPtr .ptdL1 pAddr with
      | true =>
          obtain ⟨unlocked, byte, pages⟩ := updatePtd_refused (by rw [type, valid]) returned
          rw [noTrace_unlocked found unlocked byte, pages]
          simp
      | false =>
          obtain ⟨mem, isMapped, unlocked⟩ := updatePtd_early (by rw [type, valid]) returned
          have same : NoTrace cfg pAddr s s' ↔ (s.page page).unlocked = true := by
            rw [← unlocked]
            refine ⟨fun noTrace => noTrace.unlocked page aligned found isMapped, ?_⟩
            intro after
            rw [noTrace_unlocked found after (congrArg State.byte mem), mem]
          simp [same]
  | ptdL2 =>
      rw [type] at returned
      obtain ⟨unlocked, byte, pages⟩ := updatePte_refused returned
      rw [noTrace_unlocked found unlocked byte, pages]
      simp [isValidPtdPtr]

theorem leavesTrace_found {cfg : MmuConfig} {vCpuId pAddr val : XmU32} {s : CachedState}
    {page : PageRef} (aligned : pAddr &&& 3 = 0)
    (found : pmmFindPage cfg.tables cfg.partition pAddr = .ok (some page))
    : LeavesTrace cfg vCpuId pAddr val s ↔ HandlerLeavesTrace cfg vCpuId page pAddr val s := by
  refine ⟨?_, fun leaves => ⟨aligned, page, found, leaves⟩⟩
  rintro ⟨_, other, search, leaves⟩
  cases found.symm.trans search
  exact leaves

/-- An update that is refused leaves no trace, unless its handler gives up before it has unlocked
the page or after it has counted a reference.
-/
theorem refused_update_leaves_no_trace {cfg : MmuConfig} {vCpuId stack pAddr val : XmU32}
    {s s' : CachedState}
    (returned : updatePage32Sys cfg vCpuId stack pAddr val s = .ok (.invalidParam, s'))
    : NoTrace cfg pAddr s s' ↔ ¬ LeavesTrace cfg vCpuId pAddr val s := by
  unfold updatePage32Sys at returned
  split at returned
  · next unaligned =>
      cases returned
      refine iff_of_true ?_ fun leaves => unaligned leaves.1
      exact { byte := rfl, pages := rfl, unlocked := fun _ aligned => absurd aligned unaligned }
  · next aligned =>
      have aligned := not_not.mp aligned
      obtain ⟨found, search, returned⟩ := bind_eq_ok.mp returned
      cases found with
      | none =>
          cases returned
          refine iff_of_true ?_ ?_
          · refine { byte := rfl, pages := rfl, unlocked := ?_ }
            intro page _ found
            cases search.symm.trans found
          · rintro ⟨_, page, found, _⟩
            cases search.symm.trans found
      | some page =>
          obtain ⟨⟨word, updated⟩, update, returned⟩ := bind_eq_ok.mp returned
          cases word with
          | some word =>
              obtain ⟨_, _, returned⟩ := bind_eq_ok.mp returned
              cases returned
          | none =>
              cases returned
              rw [leavesTrace_found aligned search]
              exact updatePPag32Hndl_refused aligned search update

-----------------------------------------------------------------------------------------
-- A first level table of one partition

/-- A first level table and a page of its partition. -/
def tableConfig : MmuConfig :=
  { deviceConfig with pgTables := oneFrame.pgTables }

def tableState : CachedState where
  mem :=
    { byte := fun _ => 0
      physPageTab := fun region index =>
        { type := if region = 0 ∧ index = 0 then .ptdL1 else .std, counter := 0 }
      ptdL1 := fun _ => 0x100000 }
  cache := emptyCache oneFrame noTables

/-- The entry is one of the hypervisor's, and the table stays mapped and locked. -/
theorem refused_update_stays_locked
    : ∃ s', updatePage32Sys tableConfig 0 0 0x100FC0 0 tableState = .ok (.invalidParam, s')
      ∧ ¬ NoTrace tableConfig 0x100FC0 tableState s' := by
  refine ⟨_, rfl, ?_⟩
  intro noTrace
  have unlocked := noTrace.unlocked { region := 0, page := 0, flags := 0 } rfl rfl rfl
  cases unlocked

/-- The page behind the new entry is not a second level table. -/
theorem refused_update_leaves_no_trace_entry
    : ∃ s', updatePage32Sys tableConfig 0 0 0x100000 0x101001 tableState
          = .ok (.invalidParam, s')
      ∧ NoTrace tableConfig 0x100000 tableState s' := by
  obtain ⟨s', returned⟩ : ∃ s', updatePage32Sys tableConfig 0 0 0x100000 0x101001 tableState
      = .ok (.invalidParam, s') :=
    ⟨_, rfl⟩
  have found : pmmFindPage tableConfig.tables tableConfig.partition 0x100000
      = .ok (some { region := 0, page := 0, flags := 0 }) := rfl
  refine ⟨s', returned, (refused_update_leaves_no_trace returned).mpr ?_⟩
  rw [leavesTrace_found rfl found]
  rintro (⟨_, valid, _⟩ | ⟨_, ⟨_, page, search, table⟩, _⟩ | ⟨type, _⟩)
  · cases valid
  · cases search
    cases table
  · cases type

end XtratuM.FailedUpdates
