import XtratuM.Mmu.TableWrites

/-! What the page tables of a partition show it, over the calls with which it changes them. -/

namespace XtratuM.Mmu

open Reachability
open UserPages

/-- A call of a vCPU of the partition. -/
def PageCall.Own (cfg : MmuConfig) : PageCall → Prop
  | .updatePage32 vCpuId _ _ _ => vCpuId < cfg.noVCpus
  | .setPageType _ _ => True

/-- Memory that the partition may see: in one of its areas, a control table of one of its vCPUs,
or mapped at boot.
-/
def MmuConfig.Reaches (cfg : MmuConfig) (boot : XmU32 → Prop) (addr : XmU32) : Prop :=
  (∃ target, cfg.FoundTarget addr target)
    ∨ (∃ vCpuId < cfg.noVCpus, isPCtrlTabPg cfg vCpuId addr = true)
    ∨ boot addr

/-- An entry for a second level table: no large page, and the page is one of the partition's that
are such tables.
-/
def MmuConfig.IsDirectory (cfg : MmuConfig) (s : State) (entry : XmU32) : Prop :=
  entry &&& _PG_ARCH_PSE = 0
    ∧ ∃ target, cfg.Found (getAddr entry) target ∧ (s.page target).type = .ptdL2

/-- The page tables of the partition show it nothing but its own memory. -/
structure GuestTables (cfg : MmuConfig) (boot : XmU32 → Prop) (s : State) : Prop where
  ptdL2 : ∀ page, cfg.PageOf s page .ptdL2 → ∀ e < PTDL2ENTRIES, IsPresent (s.entry page e) →
    cfg.Reaches boot (getAddr (s.entry page e))
  ptdL1 : ∀ page, cfg.PageOf s page .ptdL1 → ∀ e < userPtdEntries, IsPresent (s.entry page e) →
    cfg.IsDirectory s (s.entry page e)

/-- `UpdatePtd` accepts the entry of a large page: it looks at nothing but the entry's address. -/
def TakesLargePage (cfg : MmuConfig) (pAddr val : XmU32) (s : State) : Prop :=
  pAddr &&& 3 = 0 ∧ IsPresent val ∧ val &&& _PG_ARCH_PSE ≠ 0
    ∧ (∃ page, cfg.Found pAddr page ∧ isValidPtdPtr (s.page page).type pAddr = true)
    ∧ ∃ target, cfg.Found (getAddr val) target ∧ isValidPtdEntry (s.page target).type = true

/-- What the page must be like for the change. `SetPtd` and `SetPte` give up at the first entry
whose page they do not find and the page becomes a table all the same; `SetPtd` keeps the bit for
large pages, and both go by the types as they are before the change. A second level table may go
whose counter is 0 while a first level one points at it.
-/
structure RetypesSoundly (cfg : MmuConfig) (boot : XmU32 → Prop) (pAddr : XmU32)
    (type : PPagType) (page : PageRef) (s : State) : Prop where
  released : (s.page page).type = .ptdL2 → ∀ other, cfg.PageOf s other .ptdL1 →
    ∀ e < userPtdEntries, IsPresent (s.entry other e) → getAddr (s.entry other e) ≠ pAddr
  ptdL1 : type = .ptdL1 → ∀ e < userPtdEntries, IsPresent (s.entry pAddr e) →
    ∃ target, cfg.Found (getAddr (s.entry pAddr e)) target
      ∧ ((s.page target).type = .ptdL2 →
        s.entry pAddr e &&& _PG_ARCH_PSE = 0 ∧ getAddr (s.entry pAddr e) ≠ pAddr)
  ptdL2 : type = .ptdL2 → ∀ e < PTDL2ENTRIES, IsPresent (s.entry pAddr e) →
    cfg.Reaches boot (getAddr (s.entry pAddr e))

/-- What it takes for a call to leave the tables sound. The address of a page that changes its type
must be that of the page: from another on the handlers run into the memory behind the page.
-/
def PageCall.Sound (cfg : MmuConfig) (boot : XmU32 → Prop) (s : State) : PageCall → Prop
  | .updatePage32 _ _ pAddr val => ¬ TakesLargePage cfg pAddr val s
  | .setPageType pAddr type => ∀ new page, pPagTypeOf type = some new →
      Retypes cfg pAddr new page s → PageAligned pAddr ∧ RetypesSoundly cfg boot pAddr new page s

/-- A call that does not ask for the type of an address inside a page. -/
def PageCall.AtPage : PageCall → Prop
  | .updatePage32 _ _ _ _ => True
  | .setPageType pAddr _ => PageAligned pAddr

-----------------------------------------------------------------------------------------
-- Updates

/-- The entry that `UpdatePte` writes points where the word did, into the partition's memory. -/
theorem NewPte.reaches {cfg : MmuConfig} {vCpuId stack val new : XmU32} {s : State}
    (boot : XmU32 → Prop) (own : vCpuId < cfg.noVCpus)
    (written : NewPte cfg vCpuId stack val s new) (present : IsPresent new)
    : cfg.Reaches boot (getAddr new) := by
  rcases written with ⟨absent, rfl⟩ | ⟨_, target, search, rfl⟩
  · exact absurd present absent
  · rw [(newPte_samePage _ _ _).2]
    obtain ⟨page, pageSearch, search⟩ := bind_eq_ok.mp search
    cases page with
    | some page =>
        refine Or.inl ⟨target, ?_⟩
        rw [MmuConfig.FoundTarget, findSetTarget, pageSearch]
        exact search
    | none =>
        dsimp only at search
        split at search
        · next table => exact Or.inr (Or.inl ⟨vCpuId, own, table⟩)
        · refine Or.inl ⟨target, ?_⟩
          rw [MmuConfig.FoundTarget, findSetTarget, pageSearch]
          exact search

theorem MmuConfig.IsDirectory.congr {cfg : MmuConfig} {s s' : State} {entry : XmU32}
    (same : SameTypes s s') (directory : cfg.IsDirectory s entry)
    : cfg.IsDirectory s' entry := by
  obtain ⟨small, target, found, typed⟩ := directory
  exact ⟨small, target, found, (same target).trans typed⟩

theorem GuestTables.untouched {cfg : MmuConfig} {boot : XmU32 → Prop} {s s' : State}
    (untouched : Untouched s s') (sound : GuestTables cfg boot s)
    : GuestTables cfg boot s' := by
  have entries : ∀ page e, s'.entry page e = s.entry page e := fun _ _ => untouched.word _
  constructor
  · intro page table e inside present
    rw [entries] at present ⊢
    exact sound.ptdL2 page (table.congr untouched.types) e inside present
  · intro page table e inside present
    rw [entries] at present ⊢
    exact (sound.ptdL1 page (table.congr untouched.types) e inside present).congr untouched.types

/-- An update leaves the tables sound unless it takes an entry for a large page. -/
theorem GuestTables.updates {cfg : MmuConfig} {boot : XmU32 → Prop} {s s' : State}
    {vCpuId stack pAddr val : XmU32} {ret : XmRet} (sound : GuestTables cfg boot s)
    (own : vCpuId < cfg.noVCpus)
    (returned : updatePage32Sys cfg vCpuId stack pAddr val s = .ok (ret, s'))
    (small : ¬ TakesLargePage cfg pAddr val s)
    : GuestTables cfg boot s' := by
  rcases updatePage32Sys_writes returned with untouched | ⟨word, page, new, found, admits, written⟩
  · exact sound.untouched untouched
  · refine GuestTables.untouched written ?_
    constructor
    · intro table shown e inside present
      have isTable := shown.congr (setWord_sameTypes s pAddr new)
      rw [setWord_entry s new word isTable.aligned inside] at present ⊢
      split at present
      · next here =>
          rw [if_pos here]
          rw [← here] at found
          have typed : (s.page page).type = .ptdL2 := isTable.entry_type inside found
          rw [typed] at admits
          exact NewPte.reaches boot own admits present
      · next elsewhere =>
          rw [if_neg elsewhere]
          exact sound.ptdL2 table isTable e inside present
    · intro table shown e inside present
      have isTable := shown.congr (setWord_sameTypes s pAddr new)
      have room : e < PTDL2ENTRIES := Nat.lt_of_lt_of_le inside userPtdEntries_le
      rw [setWord_entry s new word isTable.aligned room] at present ⊢
      split at present
      · next here =>
          rw [if_pos here]
          have foundHere := found
          rw [← here] at foundHere
          have typed : (s.page page).type = .ptdL1 := isTable.entry_type room foundHere
          rw [typed] at admits
          obtain ⟨rfl, valid, points⟩ := admits
          obtain ⟨target, targetFound, targetTyped⟩ := points present
          refine ⟨?_, target, targetFound, targetTyped⟩
          by_contra large
          refine small
            ⟨word, present, large, ⟨page, found, by rwa [typed]⟩, target, targetFound, ?_⟩
          simp [isValidPtdEntry, targetTyped]
      · next elsewhere =>
          rw [if_neg elsewhere]
          exact sound.ptdL1 table isTable e inside present

/-- The entry is written when the one that it replaces is accounted for. -/
theorem updatePage32Sys_takes {cfg : MmuConfig} {vCpuId stack pAddr val : XmU32} {s s' : State}
    {ret : XmRet} (takes : TakesLargePage cfg pAddr val s)
    (accounted : IsPresent (s.word pAddr) → ∃ target, cfg.Found (getAddr (s.word pAddr)) target)
    (returned : updatePage32Sys cfg vCpuId stack pAddr val s = .ok (ret, s'))
    : Untouched (s.setWord pAddr val) s' := by
  obtain ⟨word, present, _, ⟨page, found, valid⟩, target, targetFound, isTable⟩ := takes
  have typed : (s.page page).type = .ptdL1 := by
    simp only [isValidPtdPtr, Bool.and_eq_true, decide_eq_true_eq] at valid
    exact valid.1
  unfold updatePage32Sys at returned
  rw [if_neg (not_not.mpr word)] at returned
  unfold MmuConfig.Found at found targetFound
  simp only [found, ok_bind, updatePPag32Hndl, typed] at returned
  obtain ⟨⟨new, updated⟩, update, returned⟩ := bind_eq_ok.mp returned
  have untouched := (updatePtd_admits update).1
  unfold updatePtd at update
  rw [valid] at update
  have counts : countPtd cfg val s = .ok (.ok, pPagIncCounter target s) := by
    simp [countPtd, present, targetFound, isTable]
    rfl
  simp only [Bool.not_true, Bool.false_eq_true, if_false, counts, ok_bind, if_true] at update
  obtain ⟨⟨dropRet, dropped⟩, drop, ends⟩ := bind_eq_ok.mp update
  cases ends
  rcases FailedUpdates.dropPtd_cases drop with ⟨_, _, oldPresent, missing⟩ | ⟨rfl, _⟩
  · obtain ⟨old, oldFound⟩ := accounted oldPresent
    cases missing.symm.trans oldFound
  · cases returned
    exact setWord_untouched untouched pAddr val

theorem GuestTables.updates_iff {cfg : MmuConfig} {boot : XmU32 → Prop} {s s' : State}
    {vCpuId stack pAddr val : XmU32} {ret : XmRet} (sound : GuestTables cfg boot s)
    (own : vCpuId < cfg.noVCpus)
    (returned : updatePage32Sys cfg vCpuId stack pAddr val s = .ok (ret, s'))
    : GuestTables cfg boot s' ↔ ¬ TakesLargePage cfg pAddr val s := by
  refine ⟨?_, sound.updates own returned⟩
  intro still takes
  obtain ⟨word, present, large, ⟨page, found, valid⟩, _⟩ := id takes
  obtain ⟨typed, index⟩ : (s.page page).type = .ptdL1 ∧ entryIndex pAddr < userPtdEntries := by
    simpa only [isValidPtdPtr, Bool.and_eq_true, decide_eq_true_eq] using valid
  obtain ⟨_, place⟩ := entryAt_entryIndex word
  have isTable : cfg.PageOf s (getAddr pAddr) .ptdL1 :=
    { aligned := getAddr_aligned pAddr, found := ⟨page, found.getAddr, typed⟩ }
  have accounted : IsPresent (s.word pAddr) →
      ∃ target, cfg.Found (getAddr (s.word pAddr)) target := by
    intro oldPresent
    have entry : s.entry (getAddr pAddr) (entryIndex pAddr) = s.word pAddr := by
      rw [State.entry, place]
    rw [← entry] at oldPresent ⊢
    obtain ⟨_, target, targetFound, _⟩ := sound.ptdL1 _ isTable _ index oldPresent
    exact ⟨target, targetFound⟩
  have written := updatePage32Sys_takes takes accounted returned
  have entry : s'.entry (getAddr pAddr) (entryIndex pAddr) = val := by
    rw [State.entry, place, written.word]
    exact setWord_word s pAddr val
  have isTable' : cfg.PageOf s' (getAddr pAddr) .ptdL1 :=
    { aligned := getAddr_aligned pAddr
      found := ⟨page, found.getAddr, (written.types page).trans typed⟩ }
  have directory := still.ptdL1 _ isTable' _ index
  rw [entry] at directory
  exact large (directory present).1

-----------------------------------------------------------------------------------------
-- Changes of type

section Retyped

variable {cfg : MmuConfig} {boot : XmU32 → Prop} {pAddr : XmU32} {type : PPagType}
  {page : PageRef} {s s' : State}

/-- Sound tables make the change of type sound. -/
theorem Retyped.soundly (retyped : Retyped cfg pAddr type page s s')
    (own : cfg.Found pAddr page) (aligned : PageAligned pAddr)
    (changes : type ≠ (s.page page).type) (still : GuestTables cfg boot s')
    : RetypesSoundly cfg boot pAddr type page s := by
  have table := retyped.pageOf_own own aligned
  refine { released := ?_, ptdL1 := ?_, ptdL2 := ?_ }
  · intro wasTable other isTable e inside present here
    have apart : other ≠ pAddr := by
      rintro rfl
      have kinds := isTable.type_eq { aligned, found := ⟨page, own, wasTable⟩ }
      cases kinds
    have entry := retyped.elsewhere other isTable.aligned apart e
      (Nat.lt_of_lt_of_le inside userPtdEntries_le)
    have directory := still.ptdL1 other ((retyped.pageOf_other own aligned apart).mpr isTable) e
      inside
    rw [entry] at directory
    obtain ⟨_, target, found, typed⟩ := directory present
    rw [here] at found
    rw [found.unique own, retyped.own] at typed
    exact changes (typed.trans wasTable.symm)
  · rintro rfl
    have found : ∀ e < userPtdEntries, IsPresent (s.entry pAddr e) →
        ∃ target, cfg.Found (getAddr (s.entry pAddr e)) target := by
      intro e inside present
      by_contra missing
      obtain ⟨answer, search, _⟩ := pmmFindPage_denotes cfg.inside cfg.aligned cfg.located
        (getAddr (s.entry pAddr e))
      cases answer with
      | some target => exact missing ⟨target, search⟩
      | none =>
          have kept := settledPtd_of_unfound (retyped.ptdL1 rfl e inside) ⟨present, search⟩
          have directory := still.ptdL1 pAddr table e inside
          rw [kept] at directory
          obtain ⟨_, target, found, _⟩ := directory present
          exact missing ⟨target, found⟩
    intro e inside present
    obtain ⟨target, search⟩ := found e inside present
    refine ⟨target, search, ?_⟩
    intro typed
    have kept : s'.entry pAddr e = s.entry pAddr e := by
      rcases settledPtd_of_found (retyped.ptdL1 rfl) found inside with
        ⟨absent, _⟩ | ⟨_, other, otherFound, new⟩
      · exact absurd present absent
      · rwa [otherFound.unique search, if_pos typed] at new
    have directory := still.ptdL1 pAddr table e inside
    rw [kept] at directory
    obtain ⟨small, other, otherFound, otherTyped⟩ := directory present
    refine ⟨small, ?_⟩
    intro here
    rw [here] at otherFound
    rw [otherFound.unique own, retyped.own] at otherTyped
    cases otherTyped
  · rintro rfl e inside present
    obtain ⟨samePresent, sameAddr⟩ := installed_samePage (retyped.ptdL2 rfl e inside)
    rw [← sameAddr]
    exact still.ptdL2 pAddr table e inside (samePresent.mpr present)

/-- A sound change of type leaves sound tables. -/
theorem GuestTables.retyped (sound : GuestTables cfg boot s)
    (retyped : Retyped cfg pAddr type page s s') (own : cfg.Found pAddr page)
    (aligned : PageAligned pAddr) (soundly : RetypesSoundly cfg boot pAddr type page s)
    : GuestTables cfg boot s' := by
  have table := retyped.pageOf_own own aligned
  have target_kept : ∀ {entry : XmU32}, cfg.IsDirectory s entry → getAddr entry ≠ pAddr →
      cfg.IsDirectory s' entry := by
    rintro entry ⟨small, target, found, typed⟩ apart
    refine ⟨small, target, found, ?_⟩
    rwa [retyped.others target (found.apart own aligned _)]
    rwa [getAddr_of_aligned (getAddr_aligned entry)]
  constructor
  · intro other isTable e inside present
    by_cases apart : other = pAddr
    · subst apart
      cases isTable.type_eq table
      obtain ⟨samePresent, sameAddr⟩ := installed_samePage (retyped.ptdL2 rfl e inside)
      rw [sameAddr]
      exact soundly.ptdL2 rfl e inside (samePresent.mp present)
    · rw [retyped.elsewhere other isTable.aligned apart e inside] at present ⊢
      exact sound.ptdL2 other ((retyped.pageOf_other own aligned apart).mp isTable) e inside present
  · intro other isTable e inside present
    by_cases apart : other = pAddr
    · subst apart
      cases isTable.type_eq table
      have found : ∀ e < userPtdEntries, IsPresent (s.entry other e) →
          ∃ target, cfg.Found (getAddr (s.entry other e)) target := by
        intro e inside present
        obtain ⟨target, found, _⟩ := soundly.ptdL1 rfl e inside present
        exact ⟨target, found⟩
      rcases settledPtd_of_found (retyped.ptdL1 rfl) found inside with
        ⟨absent, same⟩ | ⟨wasPresent, target, search, new⟩
      · rw [same] at present
        exact absurd present absent
      · obtain ⟨target', search', keeps⟩ := soundly.ptdL1 rfl e inside wasPresent
        cases search'.unique search
        split at new
        · next typed =>
            obtain ⟨small, elsewhere⟩ := keeps typed
            rw [new]
            exact target_kept ⟨small, target, search, typed⟩ elsewhere
        · rw [new] at present
          exact absurd present (setPtdNotPresent_absent _)
    · have wasTable := (retyped.pageOf_other own aligned apart).mp isTable
      rw [retyped.elsewhere other isTable.aligned apart e
        (Nat.lt_of_lt_of_le inside userPtdEntries_le)] at present ⊢
      have directory := sound.ptdL1 other wasTable e inside present
      refine target_kept directory ?_
      intro here
      obtain ⟨_, target, found, typed⟩ := directory
      rw [here] at found
      rw [found.unique own] at typed
      exact soundly.released typed other wasTable e inside present here

end Retyped

-----------------------------------------------------------------------------------------
-- Calls

variable {cfg : MmuConfig} {boot : XmU32 → Prop} {s s' : State}

/-- A sound call leaves the tables sound. -/
theorem GuestTables.call {call : PageCall} {ret : XmRet} (sound : GuestTables cfg boot s)
    (own : call.Own cfg) (returned : call.run cfg s = .ok (ret, s'))
    (soundCall : call.Sound cfg boot s)
    : GuestTables cfg boot s' := by
  cases call with
  | updatePage32 vCpuId stack pAddr val => exact sound.updates own returned soundCall
  | setPageType pAddr type =>
      rcases setPageTypeSys_cases returned with ⟨rfl, _⟩ | ⟨new, page, known, retypes, retyped⟩
      · exact sound
      · obtain ⟨aligned, soundly⟩ := soundCall new page known retypes
        exact sound.retyped (retypePage_retyped aligned retypes.2.1 retypes.2.2 retyped) retypes.1
          aligned soundly

/-- Tables that are sound after a call tell that it was. -/
theorem GuestTables.soundCall {call : PageCall} {ret : XmRet} (sound : GuestTables cfg boot s)
    (own : call.Own cfg) (atPage : call.AtPage) (returned : call.run cfg s = .ok (ret, s'))
    (still : GuestTables cfg boot s')
    : call.Sound cfg boot s := by
  cases call with
  | updatePage32 vCpuId stack pAddr val => exact (sound.updates_iff own returned).mp still
  | setPageType pAddr type =>
      intro new page known retypes
      refine ⟨atPage, ?_⟩
      rcases setPageTypeSys_cases returned with ⟨_, stays⟩ | ⟨other, ref, same, otherRef, retyped⟩
      · exact absurd retypes (stays new page known)
      · cases known.symm.trans same
        cases retypes.1.unique otherRef.1
        exact (retypePage_retyped atPage retypes.2.1 retypes.2.2 retyped).soundly retypes.1 atPage
          retypes.2.1 still

/-- What a partition does to its pages: a call, or it writes into pages that are no tables. -/
inductive GuestStep
  | call (request : PageCall)
  | write

def GuestNext (cfg : MmuConfig) (s : State) : GuestStep → State → Prop
  | .call request, s' => request.Own cfg ∧ ∃ ret, request.run cfg s = .ok (ret, s')
  | .write, s' => s'.physPageTab = s.physPageTab
      ∧ ∀ page type, cfg.PageOf s page type → type ≠ .std → ∀ e < PTDL2ENTRIES,
        s'.entry page e = s.entry page e

def GuestStep.Sound (cfg : MmuConfig) (boot : XmU32 → Prop) (s : State) : GuestStep → Prop
  | .call request => request.Sound cfg boot s
  | .write => True

/-- The tables are sound in every state that sound calls and the partition's own writes lead to. -/
theorem guestTables_of_run {past : List GuestStep} (initial : GuestTables cfg boot s)
    (run : Reach (guarded (GuestStep.Sound cfg boot) (GuestNext cfg)) s past s')
    : GuestTables cfg boot s' := by
  refine run.invariant initial ?_
  rintro s step s' sound ⟨soundStep, taken⟩
  cases step with
  | call request =>
      obtain ⟨own, ret, returned⟩ := taken
      exact sound.call own returned soundStep
  | write =>
      obtain ⟨pages, kept⟩ := taken
      have types : SameTypes s s' := by
        intro ref
        rw [State.page, pages]
        rfl
      constructor
      · intro page isTable e inside present
        have wasTable := isTable.congr types
        rw [kept page _ wasTable (by decide) e inside] at present ⊢
        exact sound.ptdL2 page wasTable e inside present
      · intro page isTable e inside present
        have wasTable := isTable.congr types
        rw [kept page _ wasTable (by decide) e (Nat.lt_of_lt_of_le inside userPtdEntries_le)]
          at present ⊢
        exact (sound.ptdL1 page wasTable e inside present).congr types

/-- Sound calls leave sound tables, and of the calls that do not address the inside of a page only
they do.
-/
theorem guestTables_kept {call : PageCall} {ret : XmRet} (sound : GuestTables cfg boot s)
    (own : call.Own cfg) (returned : call.run cfg s = .ok (ret, s'))
    : (call.Sound cfg boot s → GuestTables cfg boot s')
      ∧ (call.AtPage → (GuestTables cfg boot s' ↔ call.Sound cfg boot s)) :=
  ⟨sound.call own returned,
    fun atPage => ⟨sound.soundCall own atPage returned, sound.call own returned⟩⟩

/-- The page tables are empty: a first level one and a second level one. -/
def emptyTables : State where
  byte := fun _ => 0
  physPageTab := fun region index =>
    { type := if region = 0 then (if index = 0 then .ptdL1 else .ptdL2) else .std, counter := 0 }
  ptdL1 := fun _ => 0x100000

/-- No page is a table. The first has an entry for the control table, and then a writable one for
memory that is not the partition's.
-/
def plannedTable : State where
  byte := WordMemory.setWord (WordMemory.setWord (fun _ => 0) 0x100000 0x300001) 0x100004 0xFC000003
  physPageTab := fun _ _ => { type := .std, counter := 0 }
  ptdL1 := fun _ => 0

theorem emptyTables_sound : GuestTables deviceConfig (fun _ => False) emptyTables := by
  have absent : ∀ page e, ¬ IsPresent (emptyTables.entry page e) := by
    intro page e
    change ¬ IsPresent (0#8 ++ 0#8 ++ 0#8 ++ 0#8)
    decide
  constructor
  · exact fun page _ e _ present => absurd present (absent page e)
  · exact fun page _ e _ present => absurd present (absent page e)

theorem plannedTable_sound : GuestTables deviceConfig (fun _ => False) plannedTable := by
  constructor
  · rintro page ⟨_, ref, _, typed⟩
    cases typed
  · rintro page ⟨_, ref, _, typed⟩
    cases typed

theorem guestTables_kept_directory
    : ∃ s', (PageCall.updatePage32 0 0 0x100000 0x101001).run deviceConfig emptyTables
        = .ok (.ok, s') ∧ GuestTables deviceConfig (fun _ => False) s' := by
  have runs : ((PageCall.updatePage32 0 0 0x100000 0x101001).run deviceConfig emptyTables).map
      Prod.fst = .ok .ok := by decide +kernel
  obtain ⟨⟨_, s'⟩, returned, rfl⟩ := map_eq_ok.mp runs
  have small : ¬ TakesLargePage deviceConfig 0x100000 0x101001 emptyTables := by
    rintro ⟨_, _, large, _⟩
    exact large (by decide)
  have own : (PageCall.updatePage32 0 0 0x100000 0x101001).Own deviceConfig := by
    change (0 : XmU32) < 1
    decide
  exact ⟨s', returned, (guestTables_kept emptyTables_sound own returned).1 small⟩

/-- A partition maps 4 MB from its own page on with one entry of its first level table, and memory
that is not its own with a second level table that it writes as a page: `SetPte` gives up at the
entry for the control table.
-/
theorem guest_tables_escape
    : (GuestTables deviceConfig (fun _ => False) emptyTables
        ∧ ∃ s', (PageCall.updatePage32 0 0 0x100000 0x101083).run deviceConfig emptyTables
            = .ok (.ok, s')
          ∧ ¬ GuestTables deviceConfig (fun _ => False) s')
      ∧ GuestTables deviceConfig (fun _ => False) plannedTable
        ∧ ∃ s', (PageCall.setPageType 0x100000 2).run deviceConfig plannedTable = .ok (.ok, s')
          ∧ ¬ GuestTables deviceConfig (fun _ => False) s' := by
  refine ⟨⟨emptyTables_sound, ?_⟩, plannedTable_sound, ?_⟩
  · have runs : ((PageCall.updatePage32 0 0 0x100000 0x101083).run deviceConfig emptyTables).map
        (fun r => (r.1, r.2.entry 0x100000 0, (r.2.physPageTab 0 0).type))
        = .ok (.ok, 0x101083, .ptdL1) := by decide +kernel
    obtain ⟨⟨_, s'⟩, returned, after⟩ := map_eq_ok.mp runs
    obtain ⟨rfl, entry, typed⟩ := Prod.mk.inj after |>.imp id Prod.mk.inj
    refine ⟨s', returned, ?_⟩
    intro still
    have table : deviceConfig.PageOf s' 0x100000 .ptdL1 :=
      { aligned := rfl
        found := ⟨{ region := 0, page := 0, flags := 0 }, rfl, typed⟩ }
    have directory := still.ptdL1 0x100000 table 0 (by decide)
    rw [entry] at directory
    exact absurd (directory (by decide)).1 (by decide)
  · have runs : ((PageCall.setPageType 0x100000 2).run deviceConfig plannedTable).map
        (fun r => (r.1, r.2.entry 0x100000 1, (r.2.physPageTab 0 0).type))
        = .ok (.ok, 0xFC000003, .ptdL2) := by decide +kernel
    obtain ⟨⟨_, s'⟩, returned, after⟩ := map_eq_ok.mp runs
    obtain ⟨rfl, entry, typed⟩ := Prod.mk.inj after |>.imp id Prod.mk.inj
    refine ⟨s', returned, ?_⟩
    intro still
    have table : deviceConfig.PageOf s' 0x100000 .ptdL2 :=
      { aligned := rfl
        found := ⟨{ region := 0, page := 0, flags := 0 }, rfl, typed⟩ }
    have reaches := still.ptdL2 0x100000 table 1 (by decide)
    rw [entry] at reaches
    rcases reaches (by decide) with ⟨target, found⟩ | ⟨vCpuId, _, isTable⟩ | atBoot
    · have missing : findSetTarget deviceConfig (getAddr 0xFC000003) = .ok none := by
        decide +kernel
      cases missing.symm.trans found
    · have other : isPCtrlTabPg deviceConfig 0 (getAddr 0xFC000003) = false := by decide
      cases other.symm.trans isTable
    · exact atBoot

end XtratuM.Mmu
