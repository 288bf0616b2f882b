import XtratuM.Mmu.WritableTables

/-! Whether the counter of a page tells how often it is referred to: by the entries of the tables
and by the vCPUs whose page directory it is, over the calls of a partition that change either.
-/

namespace XtratuM.Mmu

open Reachability
open UserPages
open FailedUpdates (CountsPtd CountsPte)

/-- `X86LoadCr3Sys`, without the copy in the control table. -/
def x86LoadCr3Sys (cfg : MmuConfig) (vCpuId val : XmU32) (s : State)
    : Except Stop (XmRet × State) :=
  let oldCr3 := s.ptdL1 vCpuId
  if oldCr3 = val then
    .ok (.ok, s)
  else do
    let oldCr3Page ← pmmFindPage cfg.tables cfg.partition oldCr3
    match oldCr3Page with
    | none => pure (.invalidParam, s)
    | some oldCr3Page => do
        let newCr3Page ← pmmFindPage cfg.tables cfg.partition val
        match newCr3Page with
        | none => pure (.invalidParam, s)
        | some newCr3Page =>
            if (s.page newCr3Page).type ≠ .ptdL1 then
              pure (.invalidParam, s)
            else do
              let s ← pPagDecCounter oldCr3Page s
              let s := pPagIncCounter newCr3Page s
              pure (.ok, { s with ptdL1 := Function.update s.ptdL1 vCpuId val })

/-- The directory that `ResetKThread` gives a vCPU. -/
def resetKThread (cfg : MmuConfig) (vCpuId ptdL1 : XmU32) (s : State) : Except Stop State := do
  let s ← setupPtdL1 cfg ptdL1 s
  pure { s with ptdL1 := Function.update s.ptdL1 vCpuId ptdL1 }

/-- `ResetVCpuSys`; a vCPU that resets itself does not come back from it. -/
def resetVCpuSys (cfg : MmuConfig) (vCpuId ptdL1 : XmU32) (s : State)
    : Except Stop (XmRet × State) :=
  if cfg.noVCpus ≤ vCpuId then
    .ok (.invalidParam, s)
  else do
    let ptdL1Page ← pmmFindPage cfg.tables cfg.partition ptdL1
    match ptdL1Page with
    | none => pure (.invalidParam, s)
    | some ptdL1Page =>
        if (s.page ptdL1Page).type ≠ .ptdL1 then
          pure (.invalidParam, s)
        else do
          let s ← resetKThread cfg vCpuId ptdL1 s
          pure (.ok, s)

/-- The calls of a partition that change its tables, its page types or its directories. -/
inductive DirectoryCall
  | page (call : PageCall)
  | loadCr3 (vCpuId val : XmU32)
  | resetVCpu (vCpuId ptdL1 : XmU32)
  deriving DecidableEq

def DirectoryCall.run (cfg : MmuConfig) : DirectoryCall → State → Except Stop (XmRet × State)
  | .page call => call.run cfg
  | .loadCr3 vCpuId val => x86LoadCr3Sys cfg vCpuId val
  | .resetVCpu vCpuId ptdL1 => resetVCpuSys cfg vCpuId ptdL1

/-- A step of a partition: the caller is one of its vCPUs. -/
def DirectoryNext (cfg : MmuConfig) (s : State) (call : DirectoryCall) (s' : State) : Prop :=
  (match call with
    | .loadCr3 vCpuId _ => vCpuId < cfg.noVCpus
    | _ => True)
    ∧ ∃ ret, call.run cfg s = .ok (ret, s')

/-- The page is at the address. -/
def AtAddress (cfg : MmuConfig) (addr : XmU32) (ref : PageRef) : Prop :=
  ∃ target, cfg.Found addr target ∧ PageRef.SamePage target ref

instance (cfg : MmuConfig) (addr : XmU32) (ref : PageRef) : Decidable (AtAddress cfg addr ref) :=
  match found : pmmFindPage cfg.tables cfg.partition addr with
  | .ok (some target) =>
      decidable_of_iff (PageRef.SamePage target ref) <| by
        simp [AtAddress, MmuConfig.Found, found]
  | .ok none =>
      .isFalse <| by
        rintro ⟨target, search, _⟩
        cases found.symm.trans search
  | .error _ =>
      .isFalse <| by
        rintro ⟨target, search, _⟩
        cases found.symm.trans search

/-- How many vCPUs of the partition have the page as their directory. -/
def directories (cfg : MmuConfig) (s : State) (ref : PageRef) : Nat :=
  ∑ v ∈ Finset.range cfg.noVCpus.toNat, one (AtAddress cfg (s.ptdL1 (BitVec.ofNat 32 v)) ref)

/-- Every counter of a page of the partition is the number of the references to it. -/
def CountersExact (cfg : MmuConfig) (s : State) : Prop :=
  ∀ page ref, cfg.Found page ref →
    (s.page ref).counter.toNat = references cfg tableEntries s ref + directories cfg s ref

/-- The directory of every vCPU is in use, and its type cannot change. -/
def DirectoriesPinned (cfg : MmuConfig) (s : State) : Prop :=
  ∀ v < cfg.noVCpus, ∀ page, cfg.Found (s.ptdL1 v) page → (s.page page).counter ≠ 0
    ∧ ∀ type, ∃ ret, ret ≠ .ok ∧ setPageTypeSys cfg (s.ptdL1 v) type s = .ok (ret, s)

-----------------------------------------------------------------------------------------
-- What keeps the counters exact

/-- The loop over the entries of the page passes over none that is for a page of the partition. -/
def SeesAll (cfg : MmuConfig) (stops : XmU32 → Prop) (s : State) (pAddr : XmU32) (n : Nat)
    : Prop :=
  ∀ e < n, stops (s.entry pAddr e) → ∀ b < n, e ≤ b → ∀ ref,
    ¬ PointsTo cfg (s.entry pAddr b) ref

/-- An update counts in no full counter and is not refused once it has counted. -/
structure UpdateExact (cfg : MmuConfig) (vCpuId pAddr val : XmU32) (page : PageRef) (s : State)
    : Prop where
  accounted : ¬ Leaks cfg vCpuId pAddr val page s
  directory : isValidPtdPtr (s.page page).type pAddr = true → ∀ ref, TablePage cfg s val ref →
    (s.page ref).counter.toNat + 1 < 2 ^ 27
  table : (s.page page).type = .ptdL2 → ∀ ref, PointsTo cfg val ref →
    (s.page ref).counter.toNat + 1 < 2 ^ 27

/-- A change of type goes over all entries of the page, before and after, and no counter gets
full.
-/
structure RetypeExact (cfg : MmuConfig) (pAddr : XmU32) (type : PPagType) (page : PageRef)
    (s : State) : Prop where
  aligned : PageAligned pAddr
  unset : SeesAll cfg (UnfoundPtd cfg) s pAddr (tableEntries (s.page page).type)
  ptdL1 : type = .ptdL1 → SeesAll cfg (UnfoundPtd cfg) s pAddr userPtdEntries
  ptdL2 : type = .ptdL2 → SeesAll cfg (Unfound cfg) s pAddr PTDL2ENTRIES
  room : ∀ ref, (s.page ref).counter.toNat + setCounts cfg s pAddr ref type
    < 2 ^ 27 + unsetDrops cfg s pAddr ref (s.page page).type

/-- What keeps the counters exact. `ResetVCpuSys` installs a directory without counting it: it must
be the one that the vCPU has.
-/
def DirectoryCall.Exact (cfg : MmuConfig) (s : State) : DirectoryCall → Prop
  | .page (.updatePage32 vCpuId _ pAddr val) => ∀ page, pAddr &&& 3 = 0 → cfg.Found pAddr page →
      UpdateExact cfg vCpuId pAddr val page s
  | .page (.setPageType pAddr type) => ∀ new page, pPagTypeOf type = some new →
      Retypes cfg pAddr new page s → RetypeExact cfg pAddr new page s
  | .loadCr3 vCpuId val => s.ptdL1 vCpuId ≠ val → ∀ page, cfg.Found val page →
      (s.page page).type = .ptdL1 →
      (s.page page).counter.toNat + 1 < 2 ^ 27 + one (AtAddress cfg (s.ptdL1 vCpuId) page)
  | .resetVCpu vCpuId ptdL1 => vCpuId < cfg.noVCpus → ∀ page, cfg.Found ptdL1 page →
      (s.page page).type = .ptdL1 → getAddr (s.ptdL1 vCpuId) = getAddr ptdL1

section Steps

variable {cfg : MmuConfig} {s s' : State}

-----------------------------------------------------------------------------------------
-- Directories

/-- The call is not about directories. -/
def SameDirectories (s s' : State) : Prop := s'.ptdL1 = s.ptdL1

theorem pPagDecCounter_directories {ref : PageRef} (returned : pPagDecCounter ref s = .ok s')
    : SameDirectories s s' := by
  unfold pPagDecCounter at returned
  split at returned
  · cases returned
  · cases returned
    rfl

theorem releasePage_directories {isValid : PPagType → Bool} {ref : PageRef}
    (returned : releasePage isValid ref s = .ok s')
    : SameDirectories s s' := by
  obtain ⟨_, _, returned⟩ := bind_eq_ok.mp returned
  obtain ⟨_, _, returned⟩ := bind_eq_ok.mp returned
  exact pPagDecCounter_directories returned

theorem countPtd_directories {val : XmU32} {ret : XmRet}
    (counted : countPtd cfg val s = .ok (ret, s'))
    : SameDirectories s s' := by
  rcases FailedUpdates.countPtd_cases counted with ⟨_, _, _, _, _, rfl⟩ | ⟨rfl, _⟩
  · rfl
  · rfl

theorem countPte_directories {vCpuId stack val : XmU32} {new : Option XmU32}
    (counted : countPte cfg vCpuId stack val s = .ok (new, s'))
    : SameDirectories s s' := by
  rcases FailedUpdates.countPte_cases counted with ⟨_, _, _, _, rfl⟩ | ⟨rfl, _⟩
  · rfl
  · rfl

theorem dropPtd_directories {old : XmU32} {ret : XmRet}
    (dropped : dropPtd cfg old s = .ok (ret, s'))
    : SameDirectories s s' := by
  unfold dropPtd at dropped
  split at dropped
  · obtain ⟨found, _, dropped⟩ := bind_eq_ok.mp dropped
    cases found with
    | none =>
        cases dropped
        rfl
    | some page =>
        obtain ⟨released, release, dropped⟩ := bind_eq_ok.mp dropped
        cases dropped
        exact releasePage_directories release
  · cases dropped
    rfl

theorem dropPte_directories {vCpuId old : XmU32} {ret : XmRet}
    (dropped : dropPte cfg vCpuId old s = .ok (ret, s'))
    : SameDirectories s s' := by
  unfold dropPte at dropped
  split at dropped
  · obtain ⟨found, _, dropped⟩ := bind_eq_ok.mp dropped
    cases found with
    | none =>
        cases dropped
        rfl
    | some target =>
        cases onPage : target.page with
        | none =>
            simp only [onPage] at dropped
            cases dropped
            rfl
        | some page =>
            simp only [onPage] at dropped
            obtain ⟨released, release, dropped⟩ := bind_eq_ok.mp dropped
            cases dropped
            exact releasePage_directories release
  · cases dropped
    rfl

theorem updatePPag32Hndl_directories {vCpuId stack pAddr val : XmU32} {page : PageRef}
    {word : Option XmU32}
    (returned : updatePPag32Hndl cfg vCpuId stack page pAddr val s = .ok (word, s'))
    : SameDirectories s s' := by
  unfold updatePPag32Hndl at returned
  split at returned
  · unfold updatePtd at returned
    split at returned
    · cases returned
      rfl
    · obtain ⟨⟨ret, counted⟩, count, returned⟩ := bind_eq_ok.mp returned
      have same := countPtd_directories count
      dsimp only at returned
      split at returned
      · obtain ⟨⟨_, dropped⟩, drop, ends⟩ := bind_eq_ok.mp returned
        cases ends
        exact (dropPtd_directories drop).trans same
      · cases returned
        exact same
  · obtain ⟨⟨written, counted⟩, count, returned⟩ := bind_eq_ok.mp returned
    have same := countPte_directories count
    cases written with
    | none =>
        cases returned
        exact same
    | some written =>
        obtain ⟨⟨_, dropped⟩, drop, ends⟩ := bind_eq_ok.mp returned
        cases ends
        exact (dropPte_directories drop).trans same
  · cases returned
    rfl

/-- A loop whose rounds are not about directories. -/
theorem forEntries_directories {round : Nat → State → Except Stop (Bool × State)}
    (rounds : ∀ e s done s', round e s = .ok (done, s') → SameDirectories s s')
    {entries : List Nat} {done : Bool} (returned : forEntries round entries s = .ok (done, s'))
    : SameDirectories s s' :=
  forEntries_keeps (R := SameDirectories) (fun _ => rfl)
    (fun _ _ _ first second => Eq.trans second first) rounds returned

theorem unsetPPagTypeHndl_directories {old : PPagType} {pAddr : XmU32}
    (returned : unsetPPagTypeHndl cfg old pAddr s = .ok s')
    : SameDirectories s s' := by
  have round (isValid : PPagType → Bool) (e : Nat) (s : State) (done : Bool) (s' : State)
      (returned : unsetEntry cfg isValid pAddr e s = .ok (done, s'))
      : SameDirectories s s' := by
    obtain ⟨addr, _, returned⟩ := bind_eq_ok.mp returned
    split at returned
    · obtain ⟨found, _, returned⟩ := bind_eq_ok.mp returned
      cases found with
      | none =>
          cases returned
          rfl
      | some page =>
          obtain ⟨released, release, returned⟩ := bind_eq_ok.mp returned
          cases returned
          exact releasePage_directories release
    · cases returned
      rfl
  cases old with
  | ptdL1 =>
      simp only [unsetPPagTypeHndl] at returned
      obtain ⟨done, loop⟩ := map_snd_eq_ok.mp returned
      exact forEntries_directories (round isValidPtdEntry) loop
  | ptdL2 =>
      simp only [unsetPPagTypeHndl] at returned
      obtain ⟨done, loop⟩ := map_snd_eq_ok.mp returned
      exact forEntries_directories (round fun _ => true) loop
  | std | ptdL3 =>
      cases returned
      rfl

theorem setupPtdL1_directories {pAddr : XmU32} (returned : setupPtdL1 cfg pAddr s = .ok s')
    : SameDirectories s s' := by
  obtain ⟨⟨done, cloned⟩, clone, returned⟩ := bind_eq_ok.mp returned
  cases returned
  refine forEntries_directories ?_ clone
  intro e s done s' round
  obtain ⟨addr, _, round⟩ := bind_eq_ok.mp round
  cases round
  rfl

theorem setPtdEntry_directories {pAddr : XmU32} {e : Nat} {done : Bool}
    (returned : setPtdEntry cfg pAddr e s = .ok (done, s'))
    : SameDirectories s s' := by
  obtain ⟨addr, _, returned⟩ := bind_eq_ok.mp returned
  dsimp only at returned
  split at returned
  · obtain ⟨found, _, returned⟩ := bind_eq_ok.mp returned
    cases found with
    | none =>
        cases returned
        rfl
    | some target =>
        dsimp only at returned
        split at returned
        · cases returned
          rfl
        · cases returned
          rfl
  · cases returned
    rfl

theorem setPteEntry_directories {pAddr : XmU32} {e : Nat} {done : Bool}
    (returned : setPteEntry cfg pAddr e s = .ok (done, s'))
    : SameDirectories s s' := by
  obtain ⟨addr, _, returned⟩ := bind_eq_ok.mp returned
  dsimp only at returned
  split at returned
  · obtain ⟨found, _, returned⟩ := bind_eq_ok.mp returned
    cases found with
    | none =>
        cases returned
        rfl
    | some target =>
        cases onPage : target.page with
        | none =>
            simp only [onPage] at returned
            cases returned
            rfl
        | some page =>
            simp only [onPage] at returned
            cases returned
            rfl
  · cases returned
    rfl

theorem setPPagTypeHndl_directories {type : PPagType} {pAddr : XmU32}
    (returned : setPPagTypeHndl cfg type pAddr s = .ok s')
    : SameDirectories s s' := by
  cases type with
  | ptdL1 =>
      simp only [setPPagTypeHndl] at returned
      obtain ⟨⟨done, checked⟩, loop, returned⟩ := bind_eq_ok.mp returned
      have first := forEntries_directories (fun _ _ _ _ => setPtdEntry_directories) loop
      dsimp only at returned
      split at returned
      · exact (setupPtdL1_directories returned).trans first
      · cases returned
        exact first
  | ptdL2 =>
      simp only [setPPagTypeHndl] at returned
      obtain ⟨done, loop⟩ := map_snd_eq_ok.mp returned
      exact forEntries_directories (fun _ _ _ _ => setPteEntry_directories) loop
  | std | ptdL3 =>
      cases returned
      rfl

theorem retypePage_directories {pAddr : XmU32} {type : PPagType} {page : PageRef} {ret : XmRet}
    (returned : retypePage cfg pAddr type page s = .ok (ret, s'))
    : SameDirectories s s' := by
  unfold retypePage at returned
  split at returned
  · cases returned
    rfl
  · split at returned
    · cases returned
      rfl
    · obtain ⟨unset, unsets, returned⟩ := bind_eq_ok.mp returned
      obtain ⟨set, sets, returned⟩ := bind_eq_ok.mp returned
      cases returned
      exact (setPPagTypeHndl_directories sets).trans (unsetPPagTypeHndl_directories unsets)

theorem directories_congr (same : SameDirectories s s') (ref : PageRef)
    : directories cfg s' ref = directories cfg s ref := by
  unfold directories
  rw [same]

/-- A vCPU gets another directory. -/
theorem directories_change {v val : XmU32} (own : v < cfg.noVCpus)
    (changed : s'.ptdL1 = Function.update s.ptdL1 v val) (ref : PageRef)
    : directories cfg s' ref + one (AtAddress cfg (s.ptdL1 v) ref)
      = directories cfg s ref + one (AtAddress cfg val ref) := by
  have inside : v.toNat ∈ Finset.range cfg.noVCpus.toNat :=
    Finset.mem_range.mpr (BitVec.lt_def.mp own)
  have place : BitVec.ofNat 32 v.toNat = v := BitVec.ofNat_toNat _ _
  have change := sum_change
    (f := fun v => one (AtAddress cfg (s.ptdL1 (BitVec.ofNat 32 v)) ref))
    (g := fun v => one (AtAddress cfg (s'.ptdL1 (BitVec.ofNat 32 v)) ref)) inside (by
      intro j member apart
      have small := cfg.noVCpus.isLt
      have low := Finset.mem_range.mp member
      have other : BitVec.ofNat 32 j ≠ v := by
        rintro rfl
        rw [BitVec.toNat_ofNat, Nat.mod_eq_of_lt (Nat.lt_trans low small)] at apart
        exact apart rfl
      rw [changed, Function.update_of_ne other])
  rw [place, changed, Function.update_self] at change
  rw [← changed] at change
  exact change

-----------------------------------------------------------------------------------------
-- Updates

/-- The references to a page when the handler of the page's type lets the word in. -/
theorem admitted_references {vCpuId stack pAddr val new : XmU32} {page : PageRef}
    {updated : State} (word : pAddr &&& 3 = 0) (found : cfg.Found pAddr page)
    (admits : Admits cfg vCpuId stack pAddr val s new (s.page page).type)
    (table : (s.page page).type = .ptdL1 ∨ (s.page page).type = .ptdL2)
    (untouched : Untouched s updated) (ref : PageRef)
    : references cfg tableEntries (updated.setWord pAddr new) ref
        + one (PointsTo cfg (s.word pAddr) ref)
      = references cfg tableEntries s ref + one (PointsTo cfg val ref) := by
  have change : references cfg tableEntries (updated.setWord pAddr new) ref + _
      = references cfg tableEntries s ref + _ :=
    references_write tableEntries_le word found (setWord_untouched untouched pAddr new)
  rcases table with typed | typed
  · rw [typed] at admits change
    obtain ⟨rfl, valid, _⟩ := admits
    have index : entryIndex pAddr < userPtdEntries := by
      simpa only [isValidPtdPtr, decide_true, Bool.true_and, decide_eq_true_eq] using valid
    simpa only [tableEntries, index, true_and] using change
  · rw [typed] at admits change
    have index : entryIndex pAddr < PTDL2ENTRIES := (entryAt_entryIndex word).1
    have points : PointsTo cfg new ref ↔ PointsTo cfg val ref := NewPte.pointsTo admits
    simpa only [tableEntries, index, true_and, points] using change

/-- A word of a page that is no table is no reference. -/
theorem plain_references {pAddr new : XmU32} {page : PageRef} {updated : State}
    (word : pAddr &&& 3 = 0) (found : cfg.Found pAddr page)
    (directory : (s.page page).type ≠ .ptdL1) (table : (s.page page).type ≠ .ptdL2)
    (untouched : Untouched s updated) (ref : PageRef)
    : references cfg tableEntries (updated.setWord pAddr new) ref
      = references cfg tableEntries s ref := by
  have change : references cfg tableEntries (updated.setWord pAddr new) ref + _
      = references cfg tableEntries s ref + _ :=
    references_write tableEntries_le word found (setWord_untouched untouched pAddr new)
  have none : tableEntries (s.page page).type = 0 := by
    cases typed : (s.page page).type with
    | std | ptdL3 => rfl
    | ptdL1 => exact absurd typed directory
    | ptdL2 => exact absurd typed table
  have outside (counts : Prop) [Decidable counts]
      : one (entryIndex pAddr < tableEntries (s.page page).type ∧ counts) = 0 := by
    refine if_neg fun both => ?_
    rw [none] at both
    exact Nat.not_lt_zero _ both.1
  rw [outside, outside] at change
  exact Nat.add_right_cancel change

/-- The page behind the word that a table admits is counted once more. -/
theorem admitted_room {vCpuId stack pAddr val new : XmU32} {page : PageRef} {mid : State}
    (isExact : UpdateExact cfg vCpuId pAddr val page s)
    (admits : Admits cfg vCpuId stack pAddr val s new (s.page page).type)
    (table : (s.page page).type = .ptdL1 ∨ (s.page page).type = .ptdL2)
    (counted : Counted cfg val s mid) (ref : PageRef)
    : (mid.page ref).counter.toNat
      = (s.page ref).counter.toNat + one (PointsTo cfg val ref) := by
  refine counted.toNat ?_
  intro points
  rcases table with typed | typed
  · rw [typed] at admits
    obtain ⟨rfl, valid, target⟩ := admits
    obtain ⟨target, targetFound, targetTyped⟩ := target points.1
    exact isExact.directory (typed ▸ valid) ref (tablePage_of points targetFound targetTyped)
  · exact isExact.table typed ref points

theorem CountersExact.updates {vCpuId stack pAddr val : XmU32} {ret : XmRet}
    (holds : CountersExact cfg s)
    (isExact : ∀ page, pAddr &&& 3 = 0 → cfg.Found pAddr page →
      UpdateExact cfg vCpuId pAddr val page s)
    (returned : updatePage32Sys cfg vCpuId stack pAddr val s = .ok (ret, s'))
    : CountersExact cfg s' := by
  rcases updatePage32Sys_cases returned with
    rfl | ⟨aligned, page, word, updated, found, update, rfl⟩
  · exact holds
  · have isExact := isExact page aligned found
    have counts := updatePPag32Hndl_counts update
    obtain ⟨untouched, admits⟩ := updatePPag32Hndl_admits update
    have same := updatePPag32Hndl_directories update
    intro addr ref refFound
    have before := holds addr ref refFound
    have unchanged : directories cfg updated ref = directories cfg s ref :=
      directories_congr same ref
    cases word with
    | none =>
        change (updated.page ref).counter.toNat = references cfg tableEntries updated ref
          + directories cfg updated ref
        rw [references_untouched tableEntries_le untouched, unchanged]
        rcases counts.refused rfl with kept | ⟨_, leaks⟩
        · rwa [kept ref]
        · exact absurd leaks isExact.accounted
    | some new =>
        change (updated.page ref).counter.toNat
          = references cfg tableEntries (updated.setWord pAddr new) ref
            + directories cfg updated ref
        rw [unchanged]
        have admits := admits new rfl
        by_cases table : (s.page page).type = .ptdL1 ∨ (s.page page).type = .ptdL2
        · obtain ⟨mid, counted, dropped⟩ := counts.table (by simp) table
          have change := admitted_references aligned found admits table untouched ref
          have up := admitted_room isExact admits table counted ref
          have down := dropped ref
          omega
        · obtain ⟨directory, other⟩ := not_or.mp table
          rw [counts.plain directory other ref,
            plain_references aligned found directory other untouched]
          exact before

-----------------------------------------------------------------------------------------
-- Changes of type

theorem SeesAll.reached_eq {stops : XmU32 → Prop} [DecidablePred stops] {pAddr : XmU32} {n : Nat}
    (sees : SeesAll cfg stops s pAddr n) {counts : State → XmU32 → PageRef → Prop}
    [∀ s entry ref, Decidable (counts s entry ref)] {ref : PageRef}
    (counted : ∀ entry, counts s entry ref → PointsTo cfg entry ref)
    : reached stops counts s pAddr ref (List.range n)
      = (List.range n).countP fun e => decide (counts s (s.entry pAddr e) ref) := by
  refine Mmu.reached_eq ?_
  intro e inside stop b low order counts
  exact sees e inside stop b low order ref (counted _ counts)

theorem unsetDrops_exact {pAddr : XmU32} {old : PPagType}
    (sees : SeesAll cfg (UnfoundPtd cfg) s pAddr (tableEntries old)) (ref : PageRef)
    : unsetDrops cfg s pAddr ref old
      = pointing cfg s pAddr ref (List.range (tableEntries old)) := by
  have counted : ∀ entry, AnyPage cfg s entry ref → PointsTo cfg entry ref := fun _ => id
  unfold unsetDrops pointing
  rw [sees.reached_eq counted]
  refine List.countP_congr ?_
  intro e _
  rw [decide_eq_true_eq, decide_eq_true_eq]
  rfl

section Retyping

variable {pAddr : XmU32} {type : PPagType} {page : PageRef} {ret : XmRet}

/-- What `SetPtd` leaves in a page are the entries that it has counted. -/
theorem settledPtd_points {ref : PageRef} {e : Nat} (inside : e < userPtdEntries)
    (sees : SeesAll cfg (UnfoundPtd cfg) s pAddr userPtdEntries)
    (settled : LoopSettles (UnfoundPtd cfg) (SettlesPtd cfg) pAddr (List.range e) e s s')
    : PointsTo cfg (s'.entry pAddr e) ref ↔ TablePage cfg s (s.entry pAddr e) ref := by
  rcases settled with
    ⟨_, ⟨absent, same⟩ | ⟨present, target, found, new⟩⟩ | ⟨⟨b, member, stop⟩, same⟩
  · rw [same]
    exact iff_of_false (not_pointsTo absent ref) fun both => not_pointsTo absent ref both.1
  · have points := pointsTo_found present found ref
    by_cases typed : (s.page target).type = .ptdL2
    · rw [new, if_pos typed]
      exact ⟨fun points => tablePage_of points found typed, And.left⟩
    · rw [new, if_neg typed]
      refine iff_of_false (not_pointsTo (setPtdNotPresent_absent _) ref) ?_
      rintro ⟨pointed, other⟩
      rw [page_congr s (points.mp pointed)] at typed
      exact typed other
  · have early : b ≤ e := by
      rcases List.mem_append.mp member with earlier | last
      · exact Nat.le_of_lt (List.mem_range.mp earlier)
      · exact Nat.le_of_eq (List.mem_singleton.mp last)
    have none := sees b (Nat.lt_of_le_of_lt early inside) stop e inside early ref
    rw [same]
    exact iff_of_false none fun both => none both.1

theorem setCounts_exact (isExact : RetypeExact cfg pAddr type page s)
    (retyped : Retyped cfg pAddr type page s s') (ref : PageRef)
    : setCounts cfg s pAddr ref type
      = pointing cfg s' pAddr ref (List.range (tableEntries type)) := by
  cases type with
  | std | ptdL3 => rfl
  | ptdL1 =>
      simp only [setCounts, tableEntries]
      rw [(isExact.ptdL1 rfl).reached_eq fun _ => And.left]
      refine List.countP_congr ?_
      intro e member
      have inside := List.mem_range.mp member
      rw [decide_eq_true_eq, decide_eq_true_eq]
      exact (settledPtd_points inside (isExact.ptdL1 rfl) (retyped.ptdL1 rfl e inside)).symm
  | ptdL2 =>
      simp only [setCounts, tableEntries]
      rw [(isExact.ptdL2 rfl).reached_eq fun _ => id]
      refine List.countP_congr ?_
      intro e member
      rw [decide_eq_true_eq, decide_eq_true_eq]
      exact (pointsTo_congr
        (installed_samePage (retyped.ptdL2 rfl e (List.mem_range.mp member)))).symm

theorem CountersExact.retypes (holds : CountersExact cfg s) (found : cfg.Found pAddr page)
    (changes : type ≠ (s.page page).type) (unused : (s.page page).counter = 0)
    (isExact : RetypeExact cfg pAddr type page s)
    (returned : retypePage cfg pAddr type page s = .ok (ret, s'))
    : CountersExact cfg s' := by
  intro addr ref refFound
  have retyped := retypePage_retyped isExact.aligned changes unused returned
  obtain ⟨mid, drops, adds⟩ := retypePage_counts changes unused returned ref
  have before := holds addr ref refFound
  have room := isExact.room ref
  have unset := unsetDrops_exact isExact.unset ref
  have set := setCounts_exact isExact retyped ref
  have change : references cfg tableEntries s' ref + _ = references cfg tableEntries s ref + _ :=
    references_retype tableEntries_le isExact.aligned found retyped
  have after : (s'.page ref).counter.toNat = mid.toNat + setCounts cfg s pAddr ref type := by
    unfold Adds at adds
    rw [adds, BitVec.toNat_add, BitVec.toNat_ofNat]
    omega
  rw [directories_congr (retypePage_directories returned)]
  omega

end Retyping

-----------------------------------------------------------------------------------------
-- Directories that are loaded and vCPUs that are reset

theorem atAddress_found {addr : XmU32} {target : PageRef} (found : cfg.Found addr target)
    (ref : PageRef)
    : AtAddress cfg addr ref ↔ PageRef.SamePage target ref := by
  refine ⟨?_, fun same => ⟨target, found, same⟩⟩
  rintro ⟨other, otherFound, same⟩
  rwa [← otherFound.unique found]

theorem atAddress_congr {addr other : XmU32} (same : getAddr addr = getAddr other) (ref : PageRef)
    : AtAddress cfg addr ref ↔ AtAddress cfg other ref := by
  unfold AtAddress MmuConfig.Found
  rw [pmmFindPage_congr same]

/-- `X86LoadCr3Sys` leaves everything as it is or goes from one directory to another. -/
theorem x86LoadCr3Sys_cases {v val : XmU32} {ret : XmRet}
    (returned : x86LoadCr3Sys cfg v val s = .ok (ret, s'))
    : s' = s ∨ ∃ old new mid, s.ptdL1 v ≠ val ∧ cfg.Found (s.ptdL1 v) old ∧ cfg.Found val new
      ∧ (s.page new).type = .ptdL1 ∧ pPagDecCounter old s = .ok mid
      ∧ s' = { pPagIncCounter new mid with ptdL1 := Function.update s.ptdL1 v val } := by
  unfold x86LoadCr3Sys at returned
  dsimp only at returned
  split at returned
  · cases returned
    exact Or.inl rfl
  · next changes =>
      obtain ⟨old, oldSearch, returned⟩ := bind_eq_ok.mp returned
      cases old with
      | none =>
          cases returned
          exact Or.inl rfl
      | some old =>
          obtain ⟨new, newSearch, returned⟩ := bind_eq_ok.mp returned
          cases new with
          | none =>
              cases returned
              exact Or.inl rfl
          | some new =>
              dsimp only at returned
              split at returned
              · cases returned
                exact Or.inl rfl
              · next typed =>
                  obtain ⟨mid, drop, returned⟩ := bind_eq_ok.mp returned
                  cases returned
                  have same : mid.ptdL1 = s.ptdL1 := pPagDecCounter_directories drop
                  refine Or.inr ⟨old, new, mid, changes, oldSearch, newSearch, not_not.mp typed,
                    drop, ?_⟩
                  rw [← same]
                  rfl

theorem CountersExact.loads {v val : XmU32} {ret : XmRet} (holds : CountersExact cfg s)
    (own : v < cfg.noVCpus)
    (room : s.ptdL1 v ≠ val → ∀ page, cfg.Found val page → (s.page page).type = .ptdL1 →
      (s.page page).counter.toNat + 1 < 2 ^ 27 + one (AtAddress cfg (s.ptdL1 v) page))
    (returned : x86LoadCr3Sys cfg v val s = .ok (ret, s'))
    : CountersExact cfg s' := by
  rcases x86LoadCr3Sys_cases returned with
    rfl | ⟨old, new, mid, changes, oldFound, newFound, typed, drop, rfl⟩
  · exact holds
  · intro addr ref refFound
    have before := holds addr ref refFound
    have room := room changes new newFound typed
    rw [one_congr (atAddress_found oldFound new)] at room
    have down := pPagDecCounter_counter drop
    have up := pPagIncCounter_counter (s := mid) new ref
    have untouched := (pPagDecCounter_untouched drop).trans (pPagIncCounter_untouched new mid)
    have entries : references cfg tableEntries
        { pPagIncCounter new mid with ptdL1 := Function.update s.ptdL1 v val } ref
        = references cfg tableEntries s ref :=
      references_untouched tableEntries_le { byte := untouched.byte, types := untouched.types } ref
    have change : directories cfg
        { pPagIncCounter new mid with ptdL1 := Function.update s.ptdL1 v val } ref + _
        = directories cfg s ref + _ :=
      directories_change own rfl ref
    rw [one_congr (atAddress_found oldFound ref),
      one_congr (atAddress_found newFound ref)] at change
    have after : ((pPagIncCounter new mid).page ref).counter.toNat
        = (mid.page ref).counter.toNat + one (PageRef.SamePage new ref) := by
      rw [up, BitVec.toNat_add, BitVec.toNat_ofNat]
      have small := (mid.page ref).counter.isLt
      by_cases same : PageRef.SamePage new ref
      · have full := down new
        rw [page_congr mid same] at full
        rw [one, if_pos same]
        omega
      · rw [one, if_neg same]
        omega
    have down := down ref
    rw [entries]
    change ((pPagIncCounter new mid).page ref).counter.toNat = _
    omega

/-- `ResetVCpuSys` leaves everything as it is or gives the vCPU the directory. -/
theorem resetVCpuSys_cases {v ptdL1 : XmU32} {ret : XmRet}
    (returned : resetVCpuSys cfg v ptdL1 s = .ok (ret, s'))
    : s' = s ∨ ∃ page mid, v < cfg.noVCpus ∧ cfg.Found ptdL1 page ∧ (s.page page).type = .ptdL1
      ∧ setupPtdL1 cfg ptdL1 s = .ok mid
      ∧ s' = { mid with ptdL1 := Function.update s.ptdL1 v ptdL1 } := by
  unfold resetVCpuSys at returned
  split at returned
  · cases returned
    exact Or.inl rfl
  · next own =>
      obtain ⟨page, search, returned⟩ := bind_eq_ok.mp returned
      cases page with
      | none =>
          cases returned
          exact Or.inl rfl
      | some page =>
          dsimp only at returned
          split at returned
          · cases returned
            exact Or.inl rfl
          · next typed =>
              obtain ⟨_, reset, returned⟩ := bind_eq_ok.mp returned
              cases returned
              obtain ⟨mid, setup, reset⟩ := bind_eq_ok.mp reset
              cases reset
              have same : mid.ptdL1 = s.ptdL1 := setupPtdL1_directories setup
              refine Or.inr ⟨page, mid, BitVec.not_le.mp own, search, not_not.mp typed, setup, ?_⟩
              rw [← same]

/-- A loop that no round ends comes to every entry. Witness: induction on the entries. -/
theorem forEntries_visits {round : Nat → State → Except Stop (Bool × State)}
    (goesOn : ∀ e s done s', round e s = .ok (done, s') → done = true) {entries : List Nat}
    {done : Bool} (returned : forEntries round entries s = .ok (done, s'))
    : ∀ e ∈ entries, ∃ t t', round e t = .ok (true, t') := by
  induction entries generalizing s with
  | nil => exact fun _ member => absurd member List.not_mem_nil
  | cons first rest ih =>
      obtain ⟨⟨_, next⟩, now, returned⟩ := bind_eq_ok.mp returned
      cases goesOn _ _ _ _ now
      intro e member
      rcases List.mem_cons.mp member with rfl | later
      · exact ⟨s, next, now⟩
      · exact ih returned e later

/-- The last of the entries fits in the page. -/
theorem setupPtdL1_aligned {pAddr : XmU32} (returned : setupPtdL1 cfg pAddr s = .ok s')
    : PageAligned pAddr := by
  obtain ⟨⟨_, cloned⟩, clone, _⟩ := bind_eq_ok.mp returned
  have goesOn : ∀ e s done s', setupPtdL1Entry cfg pAddr e s = .ok (done, s') → done = true := by
    intro e s done s' round
    obtain ⟨addr, _, round⟩ := bind_eq_ok.mp round
    cases round
    rfl
  have last : 1023 ∈ (List.range PTDL1ENTRIES).drop userPtdEntries := by decide +kernel
  obtain ⟨t, t', round⟩ := forEntries_visits goesOn clone 1023 last
  obtain ⟨addr, inPage, _⟩ := bind_eq_ok.mp round
  unfold entryAddr at inPage
  split at inPage
  · next low =>
      apply and_pageSize_eq_zero.mp
      apply BitVec.eq_of_toNat_eq
      have zero : (0 : XmU32).toNat = 0 := rfl
      omega
  · cases inPage

/-- The entries of the hypervisor are no references. -/
theorem setupPtdL1_references {pAddr : XmU32} {page : PageRef} (found : cfg.Found pAddr page)
    (typed : (s.page page).type = .ptdL1) (returned : setupPtdL1 cfg pAddr s = .ok s')
    (ref : PageRef)
    : references cfg tableEntries s' ref = references cfg tableEntries s ref := by
  have aligned := setupPtdL1_aligned returned
  obtain ⟨types, keeps⟩ := setupPtdL1_keeps returned
  have elsewhere := setupPtdL1_elsewhere aligned returned
  refine Finset.sum_congr rfl ?_
  intro i _
  by_cases here : pageAt i = pAddr
  · rw [here, tableRefs_found found, tableRefs_found found, types page]
    refine pointing_congr ?_
    intro e member
    rw [typed] at member
    exact keeps e (List.mem_range.mp member)
  · exact tableRefs_congr tableEntries_le (fun own _ => types own)
      (elsewhere _ (pageAt_aligned i) here)

theorem CountersExact.resets {v ptdL1 : XmU32} {ret : XmRet} (holds : CountersExact cfg s)
    (same : v < cfg.noVCpus → ∀ page, cfg.Found ptdL1 page → (s.page page).type = .ptdL1 →
      getAddr (s.ptdL1 v) = getAddr ptdL1)
    (returned : resetVCpuSys cfg v ptdL1 s = .ok (ret, s'))
    : CountersExact cfg s' := by
  rcases resetVCpuSys_cases returned with rfl | ⟨page, mid, own, found, typed, setup, rfl⟩
  · exact holds
  · intro addr ref refFound
    have before := holds addr ref refFound
    have same := same own page found typed
    have entries := setupPtdL1_references found typed setup ref
    have counters : (mid.page ref).counter = (s.page ref).counter := setupPtdL1_counters setup ref
    have change : directories cfg { mid with ptdL1 := Function.update s.ptdL1 v ptdL1 } ref + _
        = directories cfg s ref + _ :=
      directories_change own rfl ref
    rw [one_congr (atAddress_congr same ref)] at change
    change (mid.page ref).counter.toNat = references cfg tableEntries mid ref + _
    rw [counters, entries]
    omega

/-- Every kind of call keeps the counters exact when nothing escapes the count. -/
theorem CountersExact.call {call : DirectoryCall} (holds : CountersExact cfg s)
    (isExact : call.Exact cfg s) (taken : DirectoryNext cfg s call s')
    : CountersExact cfg s' := by
  obtain ⟨own, ret, returned⟩ := taken
  cases call with
  | page call =>
      cases call with
      | updatePage32 vCpuId stack pAddr val => exact holds.updates isExact returned
      | setPageType pAddr type =>
          rcases setPageTypeSys_cases returned with ⟨rfl, _⟩ | ⟨new, page, known, retypes, retyped⟩
          · exact holds
          · have isExact := isExact new page known retypes
            obtain ⟨found, changes, unused⟩ := retypes
            exact holds.retypes found changes unused isExact retyped
  | loadCr3 vCpuId val => exact holds.loads own isExact returned
  | resetVCpu vCpuId ptdL1 => exact holds.resets isExact returned

/-- A page that is in use keeps its type. -/
theorem setPageTypeSys_used {addr : XmU32} {page : PageRef} (found : cfg.Found addr page)
    (used : (s.page page).counter ≠ 0) (type : XmU32)
    : ∃ ret, ret ≠ .ok ∧ setPageTypeSys cfg addr type s = .ok (ret, s) := by
  unfold setPageTypeSys
  have search : pmmFindPage cfg.tables cfg.partition addr = .ok (some page) := found
  cases pPagTypeOf type with
  | none => exact ⟨.invalidParam, by decide, rfl⟩
  | some new =>
      simp only [search]
      change ∃ ret, ret ≠ .ok ∧ retypePage cfg addr new page s = .ok (ret, s)
      unfold retypePage
      split
      · exact ⟨.noAction, by decide, rfl⟩
      · exact ⟨.opNotAllowed, by decide, rfl⟩

theorem CountersExact.pinned (holds : CountersExact cfg s) : DirectoriesPinned cfg s := by
  intro v own page found
  have counted : 1 ≤ directories cfg s page := by
    have inside : v.toNat ∈ Finset.range cfg.noVCpus.toNat :=
      Finset.mem_range.mpr (BitVec.lt_def.mp own)
    have summand : one (AtAddress cfg (s.ptdL1 (BitVec.ofNat 32 v.toNat)) page) = 1 := by
      rw [BitVec.ofNat_toNat, BitVec.setWidth_eq]
      exact if_pos ⟨page, found, rfl, rfl⟩
    rw [← summand]
    exact Finset.single_le_sum
      (f := fun v => one (AtAddress cfg (s.ptdL1 (BitVec.ofNat 32 v)) page))
      (fun _ _ => Nat.zero_le _) inside
  have isExact := holds _ page found
  have used : (s.page page).counter ≠ 0 := by
    intro zero
    rw [zero] at isExact
    change 0 = _ at isExact
    omega
  exact ⟨used, setPageTypeSys_used found used⟩

end Steps

/-- Two empty directories; the vCPU is on the first. -/
def twoDirectories : State where
  byte := fun _ => 0
  physPageTab := fun region index =>
    if region = 0 ∧ index = 0 then { type := .ptdL1, counter := 1 }
    else if region = 0 ∧ index = 1 then { type := .ptdL1, counter := 0 }
    else { type := .std, counter := 0 }
  ptdL1 := fun _ => 0x100000

theorem twoDirectories_exact : CountersExact deviceConfig twoDirectories := by
  intro page ref _
  have none : references deviceConfig tableEntries twoDirectories ref = 0 := by
    refine references_of_absent ?_ ref
    intro page _ own _ e _
    change ¬ IsPresent (0#8 ++ 0#8 ++ 0#8 ++ 0#8)
    decide
  have first : deviceConfig.Found 0x100000 { region := 0, page := 0, flags := 0 } := rfl
  have vCpus : directories deviceConfig twoDirectories ref
      = one (PageRef.SamePage { region := 0, page := 0, flags := 0 } ref) := by
    rw [← one_congr (atAddress_found first ref)]
    exact Finset.sum_range_one _
  rw [none, vCpus]
  by_cases zero : PageRef.SamePage { region := 0, page := 0, flags := 0 } ref
  · have page : twoDirectories.page ref = { type := .ptdL1, counter := 1 } :=
      if_pos ⟨zero.1.symm, zero.2.symm⟩
    rw [one, if_pos zero, page]
    rfl
  · have counter : (twoDirectories.page ref).counter = 0 := by
      unfold State.page twoDirectories
      dsimp only
      rw [if_neg fun same => zero ⟨same.1.symm, same.2.symm⟩]
      split
      · rfl
      · rfl
    rw [one, if_neg zero, counter]
    rfl

end XtratuM.Mmu
