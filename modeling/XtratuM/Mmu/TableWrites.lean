import XtratuM.Mmu.FailedUpdates

/-! What the two hypercalls on pages do to the words of memory and to the types of the pages. -/

namespace XtratuM.Mmu

open UserPages
open FailedUpdates (countPtd_cases countPte_cases)

/-- A call of a vCPU. `stack` is what `UpdatePte` finds in place of flags it does not set. -/
inductive PageCall
  | updatePage32 (vCpuId stack pAddr val : XmU32)
  | setPageType (pAddr type : XmU32)
  deriving DecidableEq

def PageCall.run (cfg : MmuConfig) : PageCall → State → Except Stop (XmRet × State)
  | .updatePage32 vCpuId stack pAddr val => updatePage32Sys cfg vCpuId stack pAddr val
  | .setPageType pAddr type => setPageTypeSys cfg pAddr type

/-- A page of the areas of the partition, by its address. -/
structure MmuConfig.PageOf (cfg : MmuConfig) (s : State) (page : XmU32) (type : PPagType)
    : Prop where
  aligned : PageAligned page
  found : ∃ ref, cfg.Found page ref ∧ (s.page ref).type = type

/-- `SetPageTypeSys` goes on to change the type of the page. -/
def Retypes (cfg : MmuConfig) (pAddr : XmU32) (type : PPagType) (page : PageRef) (s : State)
    : Prop :=
  cfg.Found pAddr page ∧ type ≠ (s.page page).type ∧ (s.page page).counter = 0

-----------------------------------------------------------------------------------------
-- Pages and their entries

theorem getAddr_aligned (entry : XmU32) : PageAligned (getAddr entry) := by
  rw [PageAligned, getAddr, and_pageMask]
  exact Nat.mul_mod_left _ _

theorem getAddr_of_aligned {page : XmU32} (aligned : PageAligned page) : getAddr page = page := by
  have pageSize : PAGE_SIZE.toNat = 4096 := rfl
  apply BitVec.eq_of_toNat_eq
  rw [getAddr, and_pageMask]
  rw [PageAligned, pageSize] at aligned
  omega

theorem MmuConfig.Found.getAddr {cfg : MmuConfig} {addr : XmU32} {ref : PageRef}
    (found : cfg.Found addr ref)
    : cfg.Found (getAddr addr) ref := by
  refine (pmmFindPage_congr ?_).trans found
  exact getAddr_of_aligned (getAddr_aligned addr)

/-- The descriptor of a page tells its address. -/
theorem MmuConfig.Found.addr {cfg : MmuConfig} {addr other : XmU32} {ref ref' : PageRef}
    (found : cfg.Found addr ref) (otherFound : cfg.Found other ref')
    (same : PageRef.SamePage ref ref')
    : Mmu.getAddr addr = Mmu.getAddr other := by
  obtain ⟨_, search, denotes⟩ := pmmFindPage_denotes cfg.inside cfg.aligned cfg.located addr
  cases search.symm.trans found
  obtain ⟨_, otherSearch, otherDenotes⟩ :=
    pmmFindPage_denotes cfg.inside cfg.aligned cfg.located other
  cases otherSearch.symm.trans otherFound
  obtain ⟨region, entry, page, _, start⟩ := denotes ref rfl
  obtain ⟨region', entry', page', _, start'⟩ := otherDenotes ref' rfl
  rw [same.1, entry'] at entry
  cases entry
  apply BitVec.eq_of_toNat_eq
  rw [Mmu.getAddr, Mmu.getAddr, ← start, ← start', ← page, ← page', same.2]

theorem MmuConfig.Found.unique {cfg : MmuConfig} {addr : XmU32} {ref ref' : PageRef}
    (found : cfg.Found addr ref) (found' : cfg.Found addr ref')
    : ref = ref' := by
  cases found.symm.trans found'
  rfl

theorem entryAt_toNat {page : XmU32} (aligned : PageAligned page) {e : Nat}
    (inside : e < PTDL2ENTRIES)
    : (entryAt page e).toNat = page.toNat + 4 * e := by
  have pageSize : PAGE_SIZE.toNat = 4096 := rfl
  have entries : PTDL2ENTRIES = 1024 := rfl
  have small := page.isLt
  rw [PageAligned, pageSize] at aligned
  rw [entryAt, BitVec.toNat_add, BitVec.toNat_ofNat]
  omega

/-- The page of an entry. -/
theorem getAddr_entryAt {page : XmU32} (aligned : PageAligned page) {e : Nat}
    (inside : e < PTDL2ENTRIES)
    : getAddr (entryAt page e) = page := by
  have pageSize : PAGE_SIZE.toNat = 4096 := rfl
  have entries : PTDL2ENTRIES = 1024 := rfl
  have place := entryAt_toNat aligned inside
  rw [PageAligned, pageSize] at aligned
  apply BitVec.eq_of_toNat_eq
  rw [getAddr, and_pageMask, place]
  omega

theorem and_three (pAddr : XmU32) : pAddr &&& 3 = 0 ↔ pAddr.toNat % 4 = 0 := by
  have ones : (3 : XmU32).toNat = 2 ^ 2 - 1 := rfl
  rw [← BitVec.toNat_inj, BitVec.toNat_and, ones, Nat.and_two_pow_sub_one_eq_mod]
  rfl

/-- Every word of a page is one of its entries. -/
theorem entryAt_entryIndex {pAddr : XmU32} (aligned : pAddr &&& 3 = 0)
    : entryIndex pAddr < PTDL2ENTRIES ∧ entryAt (getAddr pAddr) (entryIndex pAddr) = pAddr := by
  have entries : PTDL2ENTRIES = 1024 := rfl
  have ones : (1023 : XmU32).toNat = 2 ^ 10 - 1 := rfl
  have index : entryIndex pAddr = pAddr.toNat / 4 % 1024 := by
    rw [entryIndex, BitVec.toNat_and, ones, Nat.and_two_pow_sub_one_eq_mod,
      BitVec.toNat_ushiftRight, Nat.shiftRight_eq_div_pow]
  have inside : entryIndex pAddr < PTDL2ENTRIES := by omega
  refine ⟨inside, ?_⟩
  have place := entryAt_toNat (getAddr_aligned pAddr) inside
  rw [and_three] at aligned
  apply BitVec.eq_of_toNat_eq
  rw [place, getAddr, and_pageMask, index]
  omega

theorem entryAt_inj {page : XmU32} (aligned : PageAligned page) {e e' : Nat}
    (inside : e < PTDL2ENTRIES) (inside' : e' < PTDL2ENTRIES)
    (same : entryAt page e = entryAt page e')
    : e = e' := by
  have place := entryAt_toNat aligned inside
  rw [same, entryAt_toNat aligned inside'] at place
  omega

theorem entryAt_word {page : XmU32} (aligned : PageAligned page) {e : Nat}
    (inside : e < PTDL2ENTRIES)
    : entryAt page e &&& 3 = 0 := by
  have pageSize : PAGE_SIZE.toNat = 4096 := rfl
  have place := entryAt_toNat aligned inside
  rw [PageAligned, pageSize] at aligned
  rw [and_three, place]
  omega

/-- A write of a word changes the entry that it is. -/
theorem setWord_entry (s : State) {pAddr : XmU32} (value : XmU32) {page : XmU32} {e : Nat}
    (word : pAddr &&& 3 = 0) (aligned : PageAligned page) (inside : e < PTDL2ENTRIES)
    : (s.setWord pAddr value).entry page e
      = if entryAt page e = pAddr then value else s.entry page e := by
  split
  · next here =>
      rw [State.entry, here]
      exact setWord_word s pAddr value
  · next elsewhere =>
      have pageSize : PAGE_SIZE.toNat = 4096 := rfl
      have place := entryAt_toNat aligned inside
      rw [PageAligned, pageSize] at aligned
      rw [and_three] at word
      have apart : (entryAt page e).toNat ≠ pAddr.toNat := fun same =>
        elsewhere (BitVec.eq_of_toNat_eq same)
      have small := (entryAt page e).isLt
      have small' := pAddr.isLt
      apply WordMemory.word_setWord_other
      · rw [BitVec.toNat_sub]
        omega
      · rw [BitVec.toNat_sub]
        omega

theorem userPtdEntries_le : userPtdEntries ≤ PTDL2ENTRIES := by decide

theorem MmuConfig.PageOf.congr {cfg : MmuConfig} {s s' : State} {page : XmU32} {type : PPagType}
    (same : SameTypes s s') (isPage : cfg.PageOf s' page type)
    : cfg.PageOf s page type := by
  obtain ⟨ref, found, typed⟩ := isPage.found
  exact { aligned := isPage.aligned, found := ⟨ref, found, (same ref).symm.trans typed⟩ }

/-- The page in which a word of a table lies is that table. -/
theorem MmuConfig.PageOf.entry_type {cfg : MmuConfig} {s : State} {page : XmU32} {type : PPagType}
    (isPage : cfg.PageOf s page type) {e : Nat} (inside : e < PTDL2ENTRIES) {ref : PageRef}
    (found : cfg.Found (entryAt page e) ref)
    : (s.page ref).type = type := by
  obtain ⟨own, ownFound, typed⟩ := isPage.found
  have here := found.getAddr
  rw [getAddr_entryAt isPage.aligned inside] at here
  rwa [here.unique ownFound]

/-- The bits of an entry that tell what it points at. -/
theorem samePage_of_bits {word other : XmU32}
    (bits : ∀ i < 32, i = 0 ∨ 12 ≤ i → word.getLsbD i = other.getLsbD i)
    : (IsPresent word ↔ IsPresent other) ∧ getAddr word = getAddr other := by
  constructor
  · unfold IsPresent
    rw [present_bit.and_ne_zero, present_bit.and_ne_zero, bits 0 (by decide) (Or.inl rfl)]
  · apply BitVec.eq_of_getLsbD_eq
    intro i inside
    rw [getAddr_getLsbD word inside, getAddr_getLsbD other inside]
    by_cases address : 12 ≤ i
    · rw [bits i inside (Or.inr address)]
    · simp [address]

theorem newPte_samePage (target : PteTarget) (type : Option PPagType) (val : XmU32)
    : (IsPresent (newPte target type val) ↔ IsPresent val)
      ∧ getAddr (newPte target type val) = getAddr val := by
  apply samePage_of_bits
  intro i inside kind
  rw [newPte_getLsbD _ _ _ inside (by omega)]
  have writable : i ≠ 1 := by omega
  have uncached : i ≠ 4 := by omega
  simp [writable, uncached]

theorem checkedPte_samePage {target : PteTarget} (inArea : target.isPCtrlTab = false)
    (type : Option PPagType) (val : XmU32)
    : (IsPresent (checkedPte target type val) ↔ IsPresent val)
      ∧ getAddr (checkedPte target type val) = getAddr val := by
  apply samePage_of_bits
  intro i inside kind
  rw [checkedPte_getLsbD inArea _ _ inside]
  have writable : i ≠ 1 := by omega
  have uncached : i ≠ 4 := by omega
  simp [writable, uncached]

theorem setPtdNotPresent_absent (entry : XmU32) : ¬ IsPresent (setPtdNotPresent entry) := by
  unfold IsPresent
  rw [present_bit.and_ne_zero, setPtdNotPresent, present_bit.getLsbD_clear _ (by decide)]
  simp

-----------------------------------------------------------------------------------------
-- Updates

theorem pPagIncCounter_untouched (ref : PageRef) (s : State)
    : Untouched s (pPagIncCounter ref s) where
  byte := rfl
  types := pPagIncCounter_sameTypes ref s

theorem setWord_untouched {s s' : State} (untouched : Untouched s s') (addr value : XmU32)
    : Untouched (s.setWord addr value) (s'.setWord addr value) where
  byte := by
    unfold State.setWord
    rw [untouched.byte]
  types := untouched.types

theorem countPtd_untouched {cfg : MmuConfig} {val : XmU32} {s s' : State} {ret : XmRet}
    (counted : countPtd cfg val s = .ok (ret, s'))
    : Untouched s s' := by
  rcases countPtd_cases counted with ⟨_, _, page, _, _, rfl⟩ | ⟨rfl, _⟩
  · exact pPagIncCounter_untouched page s
  · exact .refl _

theorem dropPtd_untouched {cfg : MmuConfig} {oldVal : XmU32} {s s' : State} {ret : XmRet}
    (dropped : dropPtd cfg oldVal s = .ok (ret, s'))
    : Untouched s s' := by
  unfold dropPtd at dropped
  split at dropped
  · obtain ⟨found, _, dropped⟩ := bind_eq_ok.mp dropped
    cases found with
    | none =>
        cases dropped
        exact .refl _
    | some page =>
        obtain ⟨released, release, dropped⟩ := bind_eq_ok.mp dropped
        cases dropped
        exact releasePage_untouched release
  · cases dropped
    exact .refl _

theorem countPte_untouched {cfg : MmuConfig} {vCpuId stack val : XmU32} {s s' : State}
    {new : Option XmU32} (counted : countPte cfg vCpuId stack val s = .ok (new, s'))
    : Untouched s s' := by
  rcases countPte_cases counted with ⟨_, _, page, _, rfl⟩ | ⟨rfl, _⟩
  · exact pPagIncCounter_untouched page s
  · exact .refl _

theorem dropPte_untouched {cfg : MmuConfig} {vCpuId oldVal : XmU32} {s s' : State} {ret : XmRet}
    (dropped : dropPte cfg vCpuId oldVal s = .ok (ret, s'))
    : Untouched s s' := by
  unfold dropPte at dropped
  split at dropped
  · obtain ⟨found, _, dropped⟩ := bind_eq_ok.mp dropped
    cases found with
    | none =>
        cases dropped
        exact .refl _
    | some target =>
        cases onPage : target.page with
        | none =>
            simp only [onPage] at dropped
            cases dropped
            exact .refl _
        | some page =>
            simp only [onPage] at dropped
            obtain ⟨released, release, dropped⟩ := bind_eq_ok.mp dropped
            cases dropped
            exact releasePage_untouched release
  · cases dropped
    exact .refl _

/-- What `UpdatePtd` lets into a first level table. -/
theorem countPtd_ok {cfg : MmuConfig} {val : XmU32} {s s' : State}
    (counted : countPtd cfg val s = .ok (.ok, s')) (present : IsPresent val)
    : ∃ target, cfg.Found (getAddr val) target ∧ (s.page target).type = .ptdL2 := by
  unfold countPtd at counted
  rw [if_pos present] at counted
  obtain ⟨found, search, counted⟩ := bind_eq_ok.mp counted
  cases found with
  | none => cases counted
  | some target =>
      dsimp only at counted
      split at counted
      · next valid => exact ⟨target, search, by simpa [isValidPtdEntry] using valid⟩
      · cases counted

/-- What `UpdatePte` makes of the word to write. -/
def NewPte (cfg : MmuConfig) (vCpuId stack val : XmU32) (s : State) (new : XmU32) : Prop :=
  (¬ IsPresent val ∧ new = val)
    ∨ (IsPresent val ∧ ∃ target, findPteTarget cfg vCpuId stack (getAddr val) = .ok (some target)
      ∧ new = newPte target (target.type s) val)

theorem countPte_some {cfg : MmuConfig} {vCpuId stack val new : XmU32} {s s' : State}
    (counted : countPte cfg vCpuId stack val s = .ok (some new, s'))
    : NewPte cfg vCpuId stack val s new := by
  unfold countPte at counted
  split at counted
  · next present =>
      obtain ⟨found, search, counted⟩ := bind_eq_ok.mp counted
      cases found with
      | none => cases counted
      | some target =>
          refine Or.inr ⟨present, target, search, ?_⟩
          cases onPage : target.page with
          | none =>
              simp only [onPage] at counted
              cases counted
              rfl
          | some page =>
              simp only [onPage] at counted
              cases counted
              rfl
  · next absent =>
      cases counted
      exact Or.inl ⟨absent, rfl⟩

theorem updatePtd_admits {cfg : MmuConfig} {page : PageRef} {pAddr val : XmU32} {s s' : State}
    {word : Option XmU32} (returned : updatePtd cfg page pAddr val s = .ok (word, s'))
    : Untouched s s'
      ∧ ∀ new, word = some new → new = val ∧ isValidPtdPtr (s.page page).type pAddr = true
        ∧ (IsPresent val →
          ∃ target, cfg.Found (getAddr val) target ∧ (s.page target).type = .ptdL2) := by
  unfold updatePtd at returned
  split at returned
  · cases returned
    exact ⟨.refl _, fun _ same => by cases same⟩
  · next valid =>
      obtain ⟨⟨ret, counted⟩, count, returned⟩ := bind_eq_ok.mp returned
      have untouched := countPtd_untouched count
      dsimp only at returned
      split at returned
      · next accepted =>
          obtain ⟨⟨dropRet, dropped⟩, drop, ends⟩ := bind_eq_ok.mp returned
          cases ends
          refine ⟨untouched.trans (dropPtd_untouched drop), ?_⟩
          intro new same
          cases accepted
          refine ⟨?_, by simpa using valid, countPtd_ok count⟩
          dsimp only at same
          split at same
          · exact (Option.some.inj same).symm
          · cases same
      · cases returned
        exact ⟨untouched, fun _ same => by cases same⟩

theorem updatePte_admits {cfg : MmuConfig} {vCpuId stack pAddr val : XmU32} {s s' : State}
    {word : Option XmU32} (returned : updatePte cfg vCpuId stack pAddr val s = .ok (word, s'))
    : Untouched s s' ∧ ∀ new, word = some new → NewPte cfg vCpuId stack val s new := by
  obtain ⟨⟨written, counted⟩, count, returned⟩ := bind_eq_ok.mp returned
  have untouched := countPte_untouched count
  cases written with
  | none =>
      cases returned
      exact ⟨untouched, fun _ same => by cases same⟩
  | some written =>
      obtain ⟨⟨dropRet, dropped⟩, drop, ends⟩ := bind_eq_ok.mp returned
      cases ends
      refine ⟨untouched.trans (dropPte_untouched drop), ?_⟩
      intro new same
      dsimp only at same
      split at same
      · cases same
        exact countPte_some count
      · cases same

/-- What the handler of a type lets into a page of the type. -/
def Admits (cfg : MmuConfig) (vCpuId stack pAddr val : XmU32) (s : State) (new : XmU32)
    : PPagType → Prop
  | .ptdL1 => new = val ∧ isValidPtdPtr .ptdL1 pAddr = true
      ∧ (IsPresent val →
        ∃ target, cfg.Found (getAddr val) target ∧ (s.page target).type = .ptdL2)
  | .ptdL2 => NewPte cfg vCpuId stack val s new
  | _ => new = val

/-- The handlers of the page types change counters alone, whether they let the word in or not. -/
theorem updatePPag32Hndl_admits {cfg : MmuConfig} {vCpuId stack : XmU32} {page : PageRef}
    {pAddr val : XmU32} {s s' : State} {word : Option XmU32}
    (returned : updatePPag32Hndl cfg vCpuId stack page pAddr val s = .ok (word, s'))
    : Untouched s s'
      ∧ ∀ new, word = some new → Admits cfg vCpuId stack pAddr val s new (s.page page).type := by
  unfold updatePPag32Hndl at returned
  cases type : (s.page page).type with
  | std | ptdL3 =>
      rw [type] at returned
      cases returned
      exact ⟨.refl _, fun _ same => (Option.some.inj same).symm⟩
  | ptdL1 =>
      rw [type] at returned
      have admits := updatePtd_admits returned
      rwa [type] at admits
  | ptdL2 =>
      rw [type] at returned
      exact updatePte_admits returned

/-- The word that the handler of the page's type lets in, if any, is written. -/
theorem updatePage32Sys_cases {cfg : MmuConfig} {vCpuId stack pAddr val : XmU32} {s s' : State}
    {ret : XmRet} (returned : updatePage32Sys cfg vCpuId stack pAddr val s = .ok (ret, s'))
    : s' = s
      ∨ (pAddr &&& 3 = 0 ∧ ∃ page word updated, cfg.Found pAddr page
        ∧ updatePPag32Hndl cfg vCpuId stack page pAddr val s = .ok (word, updated)
        ∧ s' = match word with
          | none => updated
          | some new => updated.setWord pAddr new) := by
  unfold updatePage32Sys at returned
  split at returned
  · cases returned
    exact Or.inl rfl
  · next word =>
      obtain ⟨found, search, returned⟩ := bind_eq_ok.mp returned
      cases found with
      | none =>
          cases returned
          exact Or.inl rfl
      | some page =>
          obtain ⟨⟨new, updated⟩, update, returned⟩ := bind_eq_ok.mp returned
          refine Or.inr ⟨not_not.mp word, page, new, updated, search, update, ?_⟩
          cases new with
          | none =>
              cases returned
              rfl
          | some new =>
              cases returned
              rfl

/-- What an update does to the words and the types: nothing, or it writes what the handler of the
page's type lets in.
-/
theorem updatePage32Sys_writes {cfg : MmuConfig} {vCpuId stack pAddr val : XmU32} {s s' : State}
    {ret : XmRet} (returned : updatePage32Sys cfg vCpuId stack pAddr val s = .ok (ret, s'))
    : Untouched s s'
      ∨ (pAddr &&& 3 = 0 ∧ ∃ page new, cfg.Found pAddr page
        ∧ Admits cfg vCpuId stack pAddr val s new (s.page page).type
        ∧ Untouched (s.setWord pAddr new) s') := by
  rcases updatePage32Sys_cases returned with
    rfl | ⟨aligned, page, word, updated, found, update, rfl⟩
  · exact Or.inl (.refl _)
  · obtain ⟨untouched, admits⟩ := updatePPag32Hndl_admits update
    cases word with
    | none => exact Or.inl untouched
    | some new =>
        exact Or.inr ⟨aligned, page, new, found, admits new rfl,
          setWord_untouched untouched pAddr new⟩

-----------------------------------------------------------------------------------------
-- Pages that become tables

/-- `SetPtd` gives up at the entry: it does not find its page. -/
def UnfoundPtd (cfg : MmuConfig) (entry : XmU32) : Prop :=
  IsPresent entry ∧ pmmFindPage cfg.tables cfg.partition (getAddr entry) = .ok none

/-- What `SetPtd` leaves of an entry that it comes to. -/
def SettlesPtd (cfg : MmuConfig) (s : State) (entry new : XmU32) : Prop :=
  (¬ IsPresent entry ∧ new = entry)
    ∨ (IsPresent entry ∧ ∃ target, cfg.Found (getAddr entry) target
      ∧ new = if (s.page target).type = .ptdL2 then entry else setPtdNotPresent entry)

/-- The words outside the page are the same. -/
def SameElsewhere (page : XmU32) (s s' : State) : Prop :=
  ∀ other, PageAligned other → other ≠ page → ∀ e < PTDL2ENTRIES,
    s'.entry other e = s.entry other e

theorem SameElsewhere.refl (page : XmU32) (s : State) : SameElsewhere page s s :=
  fun _ _ _ _ _ => rfl

theorem SameElsewhere.trans {page : XmU32} {s s' s'' : State}
    (first : SameElsewhere page s s') (second : SameElsewhere page s' s'')
    : SameElsewhere page s s'' := by
  intro other aligned apart e inside
  rw [second other aligned apart e inside, first other aligned apart e inside]

theorem SameElsewhere.of_byte {s s' : State} (page : XmU32) (byte : s'.byte = s.byte)
    : SameElsewhere page s s' := by
  intro other _ _ e _
  rw [State.entry, State.word, byte]
  rfl

theorem setWord_elsewhere (s : State) {page : XmU32} (value : XmU32) (aligned : PageAligned page)
    {e : Nat} (inside : e < PTDL2ENTRIES)
    : SameElsewhere page s (s.setWord (entryAt page e) value) := by
  intro other otherAligned apart e' inside'
  rw [setWord_entry s value (entryAt_word aligned inside) otherAligned inside', if_neg]
  intro same
  have pages := congrArg getAddr same
  rw [getAddr_entryAt otherAligned inside', getAddr_entryAt aligned inside] at pages
  exact apart pages

/-- The entries of a page are those that are mapped with it. -/
theorem entryAddr_inside {page addr : XmU32} {e : Nat} (aligned : PageAligned page)
    (inPage : entryAddr page e = .ok addr)
    : e < PTDL2ENTRIES ∧ addr = entryAt page e := by
  refine ⟨?_, entryAddr_eq_ok inPage⟩
  have entries : PTDL2ENTRIES = 1024 := rfl
  have zero : (0 : XmU32).toNat = 0 := rfl
  unfold entryAddr at inPage
  rw [and_pageSize_eq_zero.mpr aligned, zero] at inPage
  split at inPage
  · next low => omega
  · cases inPage

section Rounds

variable {cfg : MmuConfig} {page : XmU32} {e : Nat} {s s' : State} {done : Bool}

theorem setPtdEntry_settles (inside : e < PTDL2ENTRIES)
    (returned : setPtdEntry cfg page e s = .ok (done, s'))
    : RoundSettles (UnfoundPtd cfg) (SettlesPtd cfg) page e s done s' := by
  obtain ⟨addr, inPage, returned⟩ := bind_eq_ok.mp returned
  cases entryAddr_eq_ok inPage
  dsimp only at returned
  split at returned
  · next present =>
      obtain ⟨found, search, returned⟩ := bind_eq_ok.mp returned
      cases found with
      | none =>
          cases returned
          exact
            { types := .refl s
              others := fun _ _ _ => rfl
              entry := Or.inr ⟨rfl, ⟨present, search⟩, rfl⟩ }
      | some target =>
          have goesOn : ¬ UnfoundPtd cfg (s.entry page e) := by
            rintro ⟨_, missing⟩
            cases missing.symm.trans search
          dsimp only at returned
          split at returned
          · next valid =>
              cases returned
              have typed : (s.page target).type = .ptdL2 := by simpa [isValidPtdEntry] using valid
              exact
                { types := pPagIncCounter_sameTypes target s
                  others := fun _ _ _ => rfl
                  entry := Or.inl
                    ⟨rfl, goesOn, Or.inr ⟨present, target, search, (if_pos typed).symm⟩⟩ }
          · next invalid =>
              cases returned
              have typed : (s.page target).type ≠ .ptdL2 := by simpa [isValidPtdEntry] using invalid
              refine
                { types := setWord_sameTypes s _ _
                  others := fun _ inside' => setWord_entry_other s page _ inside inside'
                  entry := Or.inl ⟨rfl, goesOn, Or.inr ⟨present, target, search, ?_⟩⟩ }
              rw [if_neg typed]
              exact setWord_word s _ _
  · next absent =>
      cases returned
      exact
        { types := .refl s
          others := fun _ _ _ => rfl
          entry := Or.inl ⟨rfl, fun unfound => absent unfound.1, Or.inl ⟨absent, rfl⟩⟩ }

theorem setPtdEntry_elsewhere (aligned : PageAligned page)
    (returned : setPtdEntry cfg page e s = .ok (done, s'))
    : SameElsewhere page s s' := by
  obtain ⟨addr, inPage, returned⟩ := bind_eq_ok.mp returned
  obtain ⟨inside, rfl⟩ := entryAddr_inside aligned inPage
  dsimp only at returned
  split at returned
  · obtain ⟨found, _, returned⟩ := bind_eq_ok.mp returned
    cases found with
    | none =>
        cases returned
        exact .refl page _
    | some target =>
        dsimp only at returned
        split at returned
        · cases returned
          exact .of_byte page rfl
        · cases returned
          exact setWord_elsewhere s _ aligned inside
  · cases returned
    exact .refl page _

theorem setPteEntry_elsewhere (aligned : PageAligned page)
    (returned : setPteEntry cfg page e s = .ok (done, s'))
    : SameElsewhere page s s' := by
  obtain ⟨addr, inPage, returned⟩ := bind_eq_ok.mp returned
  obtain ⟨inside, rfl⟩ := entryAddr_inside aligned inPage
  dsimp only at returned
  split at returned
  · obtain ⟨found, _, returned⟩ := bind_eq_ok.mp returned
    cases found with
    | none =>
        cases returned
        exact .refl page _
    | some target =>
        cases onPage : target.page with
        | none =>
            simp only [onPage] at returned
            cases returned
            exact setWord_elsewhere s _ aligned inside
        | some ref =>
            simp only [onPage] at returned
            cases returned
            exact (SameElsewhere.of_byte page rfl).trans (setWord_elsewhere _ _ aligned inside)
  · cases returned
    exact .refl page _

/-- The entries of the hypervisor go into the table whatever is there. -/
theorem setupPtdL1Entry_settles (inside : e < PTDL2ENTRIES)
    (returned : setupPtdL1Entry cfg page e s = .ok (done, s'))
    : RoundSettles (fun _ => False) (fun _ _ _ => True) page e s done s' := by
  obtain ⟨addr, inPage, returned⟩ := bind_eq_ok.mp returned
  cases entryAddr_eq_ok inPage
  cases returned
  exact
    { types := setWord_sameTypes s _ _
      others := fun _ inside' => setWord_entry_other s page _ inside inside'
      entry := Or.inl ⟨rfl, not_false, trivial⟩ }

theorem setupPtdL1Entry_elsewhere (aligned : PageAligned page)
    (returned : setupPtdL1Entry cfg page e s = .ok (done, s'))
    : SameElsewhere page s s' := by
  obtain ⟨addr, inPage, returned⟩ := bind_eq_ok.mp returned
  obtain ⟨inside, rfl⟩ := entryAddr_inside aligned inPage
  cases returned
  exact setWord_elsewhere s _ aligned inside

/-- A loop over the entries of a page writes nothing elsewhere. -/
theorem forEntries_elsewhere {round : Nat → State → Except Stop (Bool × State)}
    (rounds : ∀ e s done s', round e s = .ok (done, s') → SameElsewhere page s s')
    {entries : List Nat} (returned : forEntries round entries s = .ok (done, s'))
    : SameElsewhere page s s' :=
  forEntries_keeps (SameElsewhere.refl page) (fun _ _ _ => SameElsewhere.trans) rounds returned

end Rounds

theorem SettlesPtd.congr {cfg : MmuConfig} {s s' : State} {entry new : XmU32}
    (types : SameTypes s s') (settles : SettlesPtd cfg s' entry new)
    : SettlesPtd cfg s entry new := by
  rcases settles with absent | ⟨present, target, found, rfl⟩
  · exact Or.inl absent
  · exact Or.inr ⟨present, target, found, by rw [types target]⟩

/-- What a loop made of an entry does not depend on the counters. -/
theorem LoopSettles.congr {stops : XmU32 → Prop} {settles : State → XmU32 → XmU32 → Prop}
    {page : XmU32} {before : List Nat} {e : Nat} {s t t' s' : State}
    (settled : LoopSettles stops settles page before e t t') (untouched : Untouched s t)
    (congr : ∀ entry new, settles t entry new → settles s entry new)
    (after : s'.entry page e = t'.entry page e)
    : LoopSettles stops settles page before e s s' := by
  have entries : ∀ b, t.entry page b = s.entry page b := fun b => untouched.word _
  unfold LoopSettles at settled ⊢
  simp only [entries] at settled
  rw [after]
  exact settled.imp_left fun ⟨found, settles⟩ => ⟨found, congr _ _ settles⟩

/-- `SetupPtdL1` leaves the entries of the partition as they are. -/
theorem setupPtdL1_keeps {cfg : MmuConfig} {page : XmU32} {s s' : State}
    (returned : setupPtdL1 cfg page s = .ok s')
    : SameTypes s s' ∧ ∀ e < userPtdEntries, s'.entry page e = s.entry page e := by
  obtain ⟨⟨_, cloned⟩, clone, returned⟩ := bind_eq_ok.mp returned
  cases returned
  have member_drop : ∀ e ∈ (List.range PTDL1ENTRIES).drop userPtdEntries,
      userPtdEntries ≤ e ∧ e < PTDL2ENTRIES := by
    intro e member
    obtain ⟨i, low, rfl⟩ := List.mem_iff_getElem.mp member
    rw [List.getElem_drop, List.getElem_range]
    rw [List.length_drop, List.length_range] at low
    have entries : PTDL2ENTRIES = PTDL1ENTRIES := rfl
    omega
  obtain ⟨types, others, _⟩ := forEntries_settles
    (fun e member _ _ _ => setupPtdL1Entry_settles (member_drop e member).2)
    (fun _ _ _ _ _ _ => trivial) (fun e member => (member_drop e member).2)
    (List.nodup_range.sublist (List.drop_sublist _ _)) clone
  refine ⟨types, ?_⟩
  intro e small
  refine others e (Nat.lt_of_lt_of_le small userPtdEntries_le) ?_
  intro member
  have := (member_drop e member).1
  omega

theorem setupPtdL1_elsewhere {cfg : MmuConfig} {page : XmU32} {s s' : State}
    (aligned : PageAligned page) (returned : setupPtdL1 cfg page s = .ok s')
    : SameElsewhere page s s' := by
  obtain ⟨⟨_, cloned⟩, clone, returned⟩ := bind_eq_ok.mp returned
  cases returned
  exact forEntries_elsewhere (fun _ _ _ _ => setupPtdL1Entry_elsewhere aligned) clone

/-- `SetPtd` on a page. -/
theorem setPtd_settles {cfg : MmuConfig} {page : XmU32} {s s' : State}
    (returned : setPtd cfg page s = .ok s')
    : SameTypes s s' ∧ ∀ e < userPtdEntries,
        LoopSettles (UnfoundPtd cfg) (SettlesPtd cfg) page (List.range e) e s s' := by
  obtain ⟨⟨done, checked⟩, loop, returned⟩ := bind_eq_ok.mp returned
  have inside : ∀ e ∈ List.range userPtdEntries, e < PTDL2ENTRIES := fun e member =>
    Nat.lt_of_lt_of_le (List.mem_range.mp member) userPtdEntries_le
  obtain ⟨types, _, settles⟩ := forEntries_settles
    (fun e member _ _ _ => setPtdEntry_settles (inside e member))
    (fun _ _ _ _ => SettlesPtd.congr) inside List.nodup_range loop
  have user : ∀ e < userPtdEntries,
      LoopSettles (UnfoundPtd cfg) (SettlesPtd cfg) page (List.range e) e s checked := by
    intro e small
    obtain ⟨after, split⟩ := range_split small
    exact settles _ e after split
  dsimp only at returned
  split at returned
  · obtain ⟨cloneTypes, keeps⟩ := setupPtdL1_keeps returned
    refine ⟨types.trans cloneTypes, ?_⟩
    intro e small
    exact (user e small).congr (.refl s) (fun _ _ => id) (keeps e small)
  · cases returned
    exact ⟨types, user⟩

theorem setPtd_elsewhere {cfg : MmuConfig} {page : XmU32} (aligned : PageAligned page)
    {s s' : State} (returned : setPtd cfg page s = .ok s')
    : SameElsewhere page s s' := by
  obtain ⟨⟨done, checked⟩, loop, returned⟩ := bind_eq_ok.mp returned
  have first := forEntries_elsewhere (fun _ _ _ _ => setPtdEntry_elsewhere aligned) loop
  dsimp only at returned
  split at returned
  · exact first.trans (setupPtdL1_elsewhere aligned returned)
  · cases returned
    exact first

/-- `SetPte` leaves every entry pointing where it did. -/
theorem installed_samePage {cfg : MmuConfig} {pAddr : XmU32} {before : List Nat} {e : Nat}
    {s s' : State} (settled : LoopSettles (Unfound cfg) (Settles cfg) pAddr before e s s')
    : (IsPresent (s'.entry pAddr e) ↔ IsPresent (s.entry pAddr e))
      ∧ getAddr (s'.entry pAddr e) = getAddr (s.entry pAddr e) := by
  rcases settled with ⟨_, ⟨_, same⟩ | ⟨_, target, found, new⟩⟩ | ⟨_, same⟩
  · rw [same]
    exact ⟨Iff.rfl, rfl⟩
  · rw [new]
    exact checkedPte_samePage (MmuConfig.FoundTarget.inArea found) _ _
  · rw [same]
    exact ⟨Iff.rfl, rfl⟩

/-- The entries that `SetPtd` checked, when it found the pages of all that are present. -/
theorem settledPtd_of_found {cfg : MmuConfig} {pAddr : XmU32} {s s' : State}
    (settled : ∀ e < userPtdEntries,
      LoopSettles (UnfoundPtd cfg) (SettlesPtd cfg) pAddr (List.range e) e s s')
    (found : ∀ e < userPtdEntries, IsPresent (s.entry pAddr e) →
      ∃ target, cfg.Found (getAddr (s.entry pAddr e)) target) {e : Nat}
    (inside : e < userPtdEntries)
    : SettlesPtd cfg s (s.entry pAddr e) (s'.entry pAddr e) := by
  rcases settled e inside with ⟨_, settles⟩ | ⟨⟨b, member, present, missing⟩, _⟩
  · exact settles
  · have room : b < userPtdEntries := by
      rcases List.mem_append.mp member with earlier | here
      · exact Nat.lt_trans (List.mem_range.mp earlier) inside
      · rwa [List.mem_singleton.mp here]
    obtain ⟨target, search⟩ := found b room present
    cases missing.symm.trans search

/-- An entry at which `SetPtd` gave up is still there. -/
theorem settledPtd_of_unfound {cfg : MmuConfig} {pAddr : XmU32} {before : List Nat} {e : Nat}
    {s s' : State} (settled : LoopSettles (UnfoundPtd cfg) (SettlesPtd cfg) pAddr before e s s')
    (unfound : UnfoundPtd cfg (s.entry pAddr e))
    : s'.entry pAddr e = s.entry pAddr e := by
  rcases settled with ⟨found, _⟩ | ⟨_, same⟩
  · exact absurd unfound (found e (List.mem_append_right _ List.mem_cons_self))
  · exact same

-----------------------------------------------------------------------------------------
-- Changes of type

/-- A page whose type has changed. -/
structure Retyped (cfg : MmuConfig) (pAddr : XmU32) (type : PPagType) (page : PageRef)
    (s s' : State) : Prop where
  own : (s'.page page).type = type
  others : ∀ ref, ¬ PageRef.SamePage ref page → (s'.page ref).type = (s.page ref).type
  elsewhere : SameElsewhere pAddr s s'
  ptdL1 : type = .ptdL1 → ∀ e < userPtdEntries,
    LoopSettles (UnfoundPtd cfg) (SettlesPtd cfg) pAddr (List.range e) e s s'
  ptdL2 : type = .ptdL2 → ∀ e < PTDL2ENTRIES,
    LoopSettles (Unfound cfg) (Settles cfg) pAddr (List.range e) e s s'

theorem setPPagTypeHndl_types {cfg : MmuConfig} {type : PPagType} {pAddr : XmU32} {s s' : State}
    (returned : setPPagTypeHndl cfg type pAddr s = .ok s')
    : SameTypes s s' := by
  unfold setPPagTypeHndl at returned
  cases type with
  | std | ptdL3 =>
      cases returned
      exact .refl _
  | ptdL1 => exact (setPtd_settles returned).1
  | ptdL2 =>
      obtain ⟨done, loop⟩ := map_snd_eq_ok.mp returned
      exact (forEntries_installs (fun e => List.mem_range.mp) List.nodup_range loop).1

theorem setPPagTypeHndl_elsewhere {cfg : MmuConfig} {type : PPagType} {pAddr : XmU32}
    (aligned : PageAligned pAddr) {s s' : State}
    (returned : setPPagTypeHndl cfg type pAddr s = .ok s')
    : SameElsewhere pAddr s s' := by
  unfold setPPagTypeHndl at returned
  cases type with
  | std | ptdL3 =>
      cases returned
      exact .refl pAddr _
  | ptdL1 => exact setPtd_elsewhere aligned returned
  | ptdL2 =>
      obtain ⟨done, loop⟩ := map_snd_eq_ok.mp returned
      exact forEntries_elsewhere (fun _ _ _ _ => setPteEntry_elsewhere aligned) loop

/-- What `SetPageTypeSys` does to the words and the types. -/
theorem retypePage_retyped {cfg : MmuConfig} {pAddr : XmU32} {type : PPagType} {page : PageRef}
    {s s' : State} {ret : XmRet} (aligned : PageAligned pAddr) (apart : type ≠ (s.page page).type)
    (unused : (s.page page).counter = 0)
    (returned : retypePage cfg pAddr type page s = .ok (ret, s'))
    : Retyped cfg pAddr type page s s' := by
  unfold retypePage at returned
  rw [if_neg apart, if_neg (not_not.mpr unused)] at returned
  obtain ⟨unset, unsets, returned⟩ := bind_eq_ok.mp returned
  obtain ⟨set, sets, returned⟩ := bind_eq_ok.mp returned
  cases returned
  have untouched := unsetPPagTypeHndl_untouched unsets
  have types := untouched.types.trans (setPPagTypeHndl_types sets)
  have elsewhere : SameElsewhere pAddr s set :=
    (SameElsewhere.of_byte pAddr untouched.byte).trans (setPPagTypeHndl_elsewhere aligned sets)
  refine
    { own := ?_
      others := ?_
      elsewhere := elsewhere
      ptdL1 := ?_
      ptdL2 := ?_ }
  · rw [setPage_page, if_pos ⟨rfl, rfl⟩]
  · intro ref other
    rw [setPage_page, if_neg other, types ref]
  · rintro rfl e inside
    have settled : LoopSettles (UnfoundPtd cfg) (SettlesPtd cfg) pAddr (List.range e) e unset set :=
      (setPtd_settles sets).2 e inside
    exact settled.congr untouched (fun _ _ => SettlesPtd.congr untouched.types) rfl
  · rintro rfl e inside
    simp only [setPPagTypeHndl] at sets
    obtain ⟨done, loop⟩ := map_snd_eq_ok.mp sets
    obtain ⟨_, _, installs⟩ := forEntries_installs (fun e => List.mem_range.mp)
      List.nodup_range loop
    obtain ⟨after, split⟩ := range_split inside
    have settled : LoopSettles (Unfound cfg) (Settles cfg) pAddr (List.range e) e unset set :=
      installs _ e after split
    exact settled.congr untouched (fun _ _ => Settles.congr untouched.types) rfl

/-- `SetPageTypeSys` leaves everything as it is or retypes the page. -/
theorem setPageTypeSys_cases {cfg : MmuConfig} {pAddr type : XmU32} {s s' : State} {ret : XmRet}
    (returned : setPageTypeSys cfg pAddr type s = .ok (ret, s'))
    : (s' = s ∧ ∀ new page, pPagTypeOf type = some new → ¬ Retypes cfg pAddr new page s)
      ∨ ∃ new page, pPagTypeOf type = some new ∧ Retypes cfg pAddr new page s
        ∧ retypePage cfg pAddr new page s = .ok (ret, s') := by
  unfold setPageTypeSys at returned
  cases known : pPagTypeOf type with
  | none =>
      simp only [known] at returned
      cases returned
      exact Or.inl ⟨rfl, fun _ _ same => by cases same⟩
  | some new =>
      simp only [known] at returned
      obtain ⟨found, search, returned⟩ := bind_eq_ok.mp returned
      cases found with
      | none =>
          cases returned
          refine Or.inl ⟨rfl, ?_⟩
          rintro _ page _ ⟨found, _⟩
          cases search.symm.trans found
      | some page =>
          dsimp only at returned
          by_cases retypes : new ≠ (s.page page).type ∧ (s.page page).counter = 0
          · exact Or.inr ⟨new, page, rfl, ⟨search, retypes⟩, returned⟩
          · refine Or.inl ⟨?_, ?_⟩
            · unfold retypePage at returned
              split at returned
              · cases returned
                rfl
              · next changes =>
                  rw [if_pos fun unused => retypes ⟨changes, unused⟩] at returned
                  cases returned
                  rfl
            · rintro _ other same ⟨found, changes⟩
              cases same
              cases search.symm.trans found
              exact retypes changes

section Retyped

variable {cfg : MmuConfig} {pAddr : XmU32} {type : PPagType} {page : PageRef} {s s' : State}

theorem MmuConfig.Found.apart {addr : XmU32} {target : PageRef} (found : cfg.Found addr target)
    (own : cfg.Found pAddr page) (aligned : PageAligned pAddr)
    (other : Mmu.getAddr addr ≠ pAddr)
    : ¬ PageRef.SamePage target page := by
  intro same
  have pages := found.addr own same
  rw [getAddr_of_aligned aligned] at pages
  exact other pages

theorem Retyped.pageOf_other (retyped : Retyped cfg pAddr type page s s')
    (own : cfg.Found pAddr page) (aligned : PageAligned pAddr) {other : XmU32}
    (apart : other ≠ pAddr) {kind : PPagType}
    : cfg.PageOf s' other kind ↔ cfg.PageOf s other kind := by
  have same : PageAligned other → ∀ ref, cfg.Found other ref →
      (s'.page ref).type = (s.page ref).type := by
    intro otherAligned ref found
    apply retyped.others
    apply found.apart own aligned
    rwa [getAddr_of_aligned otherAligned]
  constructor
  · rintro ⟨otherAligned, ref, found, typed⟩
    exact ⟨otherAligned, ref, found, (same otherAligned ref found).symm.trans typed⟩
  · rintro ⟨otherAligned, ref, found, typed⟩
    exact ⟨otherAligned, ref, found, (same otherAligned ref found).trans typed⟩

theorem Retyped.pageOf_own (retyped : Retyped cfg pAddr type page s s')
    (own : cfg.Found pAddr page) (aligned : PageAligned pAddr)
    : cfg.PageOf s' pAddr type :=
  { aligned, found := ⟨page, own, retyped.own⟩ }

theorem MmuConfig.PageOf.type_eq {kind other : PPagType} {addr : XmU32}
    (isPage : cfg.PageOf s addr kind) (again : cfg.PageOf s addr other)
    : kind = other := by
  obtain ⟨ref, found, typed⟩ := isPage.found
  obtain ⟨ref', found', typed'⟩ := again.found
  rw [← typed, ← typed', found.unique found']

end Retyped

end XtratuM.Mmu
