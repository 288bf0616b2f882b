import Mathlib.Algebra.Order.BigOperators.Group.Finset
import XtratuM.Mmu.EntryCounts

/-! That a partition has no writable mapping of its page tables, over the calls with which it
changes them. The checks of the entries alone do not tell: the counters have to keep a page that
is mapped from becoming a table.
-/

namespace XtratuM.Mmu

open BitMasks
open Reachability
open UserPages

/-- The entries that map a page. -/
def mapEntries : EntryKinds
  | .ptdL2 => PTDL2ENTRIES
  | _ => 0

/-- Every present and writable entry of a second level table is for a page whose type is among
these.
-/
def WritableOnly (cfg : MmuConfig) (s : State) (types : PPagType → Prop) : Prop :=
  ∀ page, cfg.PageOf s page .ptdL2 → ∀ e < PTDL2ENTRIES, IsPresent (s.entry page e) →
    s.entry page e &&& _PG_ARCH_RW ≠ 0 → ∀ target, cfg.Found (getAddr (s.entry page e)) target →
    types (s.page target).type

/-- Every mapping is counted, and the pages that are mapped writable have no other type. -/
structure Protected (cfg : MmuConfig) (s : State) : Prop where
  counted : ∀ ref, references cfg mapEntries s ref ≤ (s.page ref).counter.toNat
  writable : WritableOnly cfg s (· = .std)

/-- No table is mapped writable. -/
def TablesReadOnly (cfg : MmuConfig) (s : State) : Prop :=
  WritableOnly cfg s fun type => type ≠ .ptdL1 ∧ type ≠ .ptdL2

/-- The update counts in no full counter, and an entry that it takes out of a first level table had
been counted besides the mappings of the second level table that it points at.
-/
structure UpdateCovered (cfg : MmuConfig) (pAddr val : XmU32) (page : PageRef) (s : State)
    : Prop where
  directory : isValidPtdPtr (s.page page).type pAddr = true → ∀ ref, TablePage cfg s val ref →
    (s.page ref).counter.toNat + 1 < 2 ^ 27
  dropped : isValidPtdPtr (s.page page).type pAddr = true →
    (IsPresent val → ∃ ref, TablePage cfg s val ref) → ∀ ref,
    PointsTo cfg (s.word pAddr) ref → references cfg mapEntries s ref + 1
      ≤ (s.page ref).counter.toNat + one (PointsTo cfg val ref)
  table : (s.page page).type = .ptdL2 → ∀ ref, PointsTo cfg val ref →
    (s.page ref).counter.toNat + 1 < 2 ^ 27

/-- What it takes for a page that changes its type. The entries of a first level table had been
counted and no counter gets full; behind an entry at which `SetPte` gives up none is for a page of
the partition; and a page that becomes a second level table does not map itself writable: `SetPte`
goes by the type that it still has.
-/
structure RetypeCovered (cfg : MmuConfig) (pAddr : XmU32) (type : PPagType) (page : PageRef)
    (s : State) : Prop where
  aligned : PageAligned pAddr
  dropped : (s.page page).type = .ptdL1 → ∀ ref,
    references cfg mapEntries s ref + unsetDrops cfg s pAddr ref .ptdL1
      ≤ (s.page ref).counter.toNat
  room : ∀ ref, (s.page ref).counter.toNat + setCounts cfg s pAddr ref type
    < 2 ^ 27 + unsetDrops cfg s pAddr ref (s.page page).type
  seen : type = .ptdL2 → ∀ e < PTDL2ENTRIES, Unfound cfg (s.entry pAddr e) →
    ∀ b < PTDL2ENTRIES, e ≤ b → ∀ ref, ¬ PointsTo cfg (s.entry pAddr b) ref
  itself : type = .ptdL2 → (s.page page).type = .std → page.flags &&& XM_MEM_AREA_READONLY = 0 →
    ∀ e < PTDL2ENTRIES, IsPresent (s.entry pAddr e) → getAddr (s.entry pAddr e) = pAddr →
    s.entry pAddr e &&& _PG_ARCH_RW = 0

def PageCall.Covered (cfg : MmuConfig) (s : State) : PageCall → Prop
  | .updatePage32 _ _ pAddr val => ∀ page, pAddr &&& 3 = 0 → cfg.Found pAddr page →
      UpdateCovered cfg pAddr val page s
  | .setPageType pAddr type => ∀ new page, pPagTypeOf type = some new →
      Retypes cfg pAddr new page s → RetypeCovered cfg pAddr new page s

def CallNext (cfg : MmuConfig) (s : State) (call : PageCall) (s' : State) : Prop :=
  ∃ ret, call.run cfg s = .ok (ret, s')

section Steps

variable {cfg : MmuConfig} {s s' : State}

theorem mapEntries_le (type : PPagType) : mapEntries type ≤ PTDL2ENTRIES := by
  cases type <;> decide

theorem references_untouched {kinds : EntryKinds} (room : ∀ type, kinds type ≤ PTDL2ENTRIES)
    (untouched : Untouched s s') (ref : PageRef)
    : references cfg kinds s' ref = references cfg kinds s ref := by
  refine Finset.sum_congr rfl ?_
  intro i _
  exact tableRefs_congr room (fun own _ => untouched.types own) fun e _ => untouched.word _

theorem WritableOnly.untouched {types : PPagType → Prop} (writable : WritableOnly cfg s types)
    (untouched : Untouched s s')
    : WritableOnly cfg s' types := by
  have entries : ∀ page e, s'.entry page e = s.entry page e := fun _ _ => untouched.word _
  intro page table e inside present rw target found
  rw [entries] at present rw found
  rw [untouched.types target]
  exact writable page (table.congr untouched.types) e inside present rw target found

theorem pointsTo_congr {entry other : XmU32} {ref : PageRef}
    (same : (IsPresent entry ↔ IsPresent other) ∧ getAddr entry = getAddr other)
    : PointsTo cfg entry ref ↔ PointsTo cfg other ref := by
  rw [PointsTo, PointsTo, same.1, same.2]

theorem NewPte.pointsTo {vCpuId stack val new : XmU32} {ref : PageRef}
    (written : NewPte cfg vCpuId stack val s new)
    : PointsTo cfg new ref ↔ PointsTo cfg val ref := by
  rcases written with ⟨_, rfl⟩ | ⟨_, target, _, rfl⟩
  · exact Iff.rfl
  · exact pointsTo_congr (newPte_samePage _ _ _)

/-- `UpdatePte` writes a writable entry for a page of the partition only if the page is no table. -/
theorem NewPte.writable {vCpuId stack val new : XmU32} {ref : PageRef}
    (written : NewPte cfg vCpuId stack val s new) (present : IsPresent new)
    (rw : new &&& _PG_ARCH_RW ≠ 0) (found : cfg.Found (getAddr new) ref)
    : (s.page ref).type = .std := by
  rcases written with ⟨absent, rfl⟩ | ⟨_, target, search, rfl⟩
  · exact absurd present absent
  · rw [(newPte_samePage _ _ _).2] at found
    obtain ⟨page, pageSearch, same⟩ := FailedUpdates.findPteTarget_page search
    cases pageSearch.symm.trans found
    have onPage : target.page = some ref := same
    have typed : target.type s = some (s.page ref).type := by
      rw [PteTarget.type, onPage]
      rfl
    rw [rw_bit.and_ne_zero, newPte_getLsbD _ _ _ (by decide) (by decide), typed] at rw
    by_contra other
    have readOnly : ReadOnly target (some (s.page ref).type) := Or.inr other
    simp [readOnly] at rw

theorem mapEntries_of_ne {type : PPagType} (other : type ≠ .ptdL2) : mapEntries type = 0 := by
  cases type with
  | ptdL2 => exact absurd rfl other
  | std | ptdL1 | ptdL3 => rfl

theorem Counted.toNat {entry : XmU32} {ref : PageRef} (counted : Counted cfg entry s s')
    (room : PointsTo cfg entry ref → (s.page ref).counter.toNat + 1 < 2 ^ 27)
    : (s'.page ref).counter.toNat
      = (s.page ref).counter.toNat + one (PointsTo cfg entry ref) := by
  have small := (s.page ref).counter.isLt
  rw [counted ref, BitVec.toNat_add, BitVec.toNat_ofNat]
  unfold one
  split
  · next points =>
      have full := room points
      omega
  · omega

/-- The words and types of a page that is written as its type admits. -/
theorem WritableOnly.written {types : PPagType → Prop} {pAddr new : XmU32} {page : PageRef}
    (writable : WritableOnly cfg s types) (word : pAddr &&& 3 = 0) (found : cfg.Found pAddr page)
    (admitted : (s.page page).type = .ptdL2 → IsPresent new → new &&& _PG_ARCH_RW ≠ 0 →
      ∀ target, cfg.Found (getAddr new) target → types (s.page target).type)
    : WritableOnly cfg (s.setWord pAddr new) types := by
  intro table shown e inside present rw target targetFound
  have isTable := shown.congr (setWord_sameTypes s pAddr new)
  rw [setWord_entry s new word isTable.aligned inside] at present rw targetFound
  split at present
  · next here =>
      rw [if_pos here] at rw targetFound
      rw [← here] at found
      exact admitted (isTable.entry_type inside found) present rw target targetFound
  · next elsewhere =>
      rw [if_neg elsewhere] at rw targetFound
      exact writable table isTable e inside present rw target targetFound

theorem tablePage_of {entry : XmU32} {target ref : PageRef} (points : PointsTo cfg entry ref)
    (found : cfg.Found (getAddr entry) target) (typed : (s.page target).type = .ptdL2)
    : TablePage cfg s entry ref := by
  refine ⟨points, ?_⟩
  rwa [← page_congr s ((pointsTo_found points.1 found ref).mp points)]

/-- The counters still cover the mappings when the references of the old entry and of the new one
have been exchanged.
-/
theorem updated_counted {pAddr val new : XmU32} {page : PageRef} {updated : State}
    {vCpuId stack : XmU32} (holds : Protected cfg s) (word : pAddr &&& 3 = 0)
    (found : cfg.Found pAddr page) (covered : UpdateCovered cfg pAddr val page s)
    (admits : Admits cfg vCpuId stack pAddr val s new (s.page page).type)
    (counts : HandlerCounts cfg vCpuId pAddr val page s (some new) updated)
    (untouched : Untouched s updated) (ref : PageRef)
    : references cfg mapEntries (updated.setWord pAddr new) ref
      ≤ (updated.page ref).counter.toNat := by
  have before := holds.counted ref
  have change : references cfg mapEntries (updated.setWord pAddr new) ref + _
      = references cfg mapEntries s ref + _ :=
    references_write mapEntries_le word found (setWord_untouched untouched pAddr new)
  by_cases table : (s.page page).type = .ptdL2
  · obtain ⟨mid, counted, dropped⟩ := counts.table (by simp) (Or.inr table)
    have inside : entryIndex pAddr < PTDL2ENTRIES := (entryAt_entryIndex word).1
    rw [table] at admits change
    have points : PointsTo cfg new ref ↔ PointsTo cfg val ref := NewPte.pointsTo admits
    simp only [mapEntries, inside, true_and, points] at change
    have up := counted.toNat (covered.table table ref)
    have down := dropped ref
    omega
  · have outside (counts : Prop) [Decidable counts]
        : one (entryIndex pAddr < mapEntries (s.page page).type ∧ counts) = 0 := by
      refine if_neg fun both => ?_
      rw [mapEntries_of_ne table] at both
      exact Nat.not_lt_zero _ both.1
    rw [outside, outside, Nat.add_zero, Nat.add_zero] at change
    rw [change]
    by_cases directory : (s.page page).type = .ptdL1
    · rw [directory] at admits
      obtain ⟨rfl, valid, points⟩ := admits
      rw [← directory] at valid
      obtain ⟨mid, counted, dropped⟩ := counts.table (by simp) (Or.inl directory)
      have up : (mid.page ref).counter.toNat
          = (s.page ref).counter.toNat + one (PointsTo cfg new ref) := by
        refine counted.toNat ?_
        intro pointed
        obtain ⟨target, targetFound, typed⟩ := points pointed.1
        exact covered.directory valid ref (tablePage_of pointed targetFound typed)
      have down := dropped ref
      by_cases old : PointsTo cfg (s.word pAddr) ref
      · have room := covered.dropped valid (by
          intro present
          obtain ⟨target, targetFound, typed⟩ := points present
          exact ⟨target, ⟨present, target, targetFound, rfl, rfl⟩, typed⟩) ref old
        rw [one, if_pos old] at down
        omega
      · rw [one, if_neg old] at down
        omega
    · rw [counts.plain directory table ref]
      exact before

/-- A covered update keeps the page tables protected. -/
theorem Protected.updates {vCpuId stack pAddr val : XmU32} {ret : XmRet} (holds : Protected cfg s)
    (covered : ∀ page, pAddr &&& 3 = 0 → cfg.Found pAddr page → UpdateCovered cfg pAddr val page s)
    (returned : updatePage32Sys cfg vCpuId stack pAddr val s = .ok (ret, s'))
    : Protected cfg s' := by
  rcases updatePage32Sys_cases returned with
    rfl | ⟨aligned, page, word, updated, found, update, rfl⟩
  · exact holds
  · have covered := covered page aligned found
    have counts := updatePPag32Hndl_counts update
    obtain ⟨untouched, admits⟩ := updatePPag32Hndl_admits update
    cases word with
    | none =>
        refine { counted := ?_, writable := holds.writable.untouched untouched }
        intro ref
        have before := holds.counted ref
        rw [references_untouched mapEntries_le untouched]
        rcases counts.refused rfl with same | ⟨counted, leaks⟩
        · rwa [same ref]
        · have up : (updated.page ref).counter.toNat
              = (s.page ref).counter.toNat + one (PointsTo cfg val ref) := by
            refine counted.toNat ?_
            intro points
            rcases leaks with ⟨valid, ⟨_, target, targetFound, isTable⟩, _⟩ | ⟨table, _⟩
            · have typed : (s.page target).type = .ptdL2 := by
                simpa [isValidPtdEntry] using isTable
              exact covered.directory valid ref (tablePage_of points targetFound typed)
            · exact covered.table table ref points
          change _ ≤ (updated.page ref).counter.toNat
          omega
    | some new =>
        refine { counted := ?_, writable := ?_ }
        · exact updated_counted holds aligned found covered (admits new rfl) counts untouched
        · refine WritableOnly.untouched ?_ (setWord_untouched untouched pAddr new)
          refine holds.writable.written aligned found ?_
          intro table present rw target targetFound
          have written := admits new rfl
          rw [table] at written
          exact NewPte.writable written present rw targetFound

/-- An entry of a second level table is one of the references to its page. -/
theorem references_pos {page : XmU32} {e : Nat} {ref : PageRef} (table : cfg.PageOf s page .ptdL2)
    (inside : e < PTDL2ENTRIES) (points : PointsTo cfg (s.entry page e) ref)
    : 0 < references cfg mapEntries s ref := by
  obtain ⟨low, place⟩ := pageAt_div table.aligned
  obtain ⟨own, found, typed⟩ := table.found
  have part : tableRefs cfg mapEntries s ref (pageAt (page.toNat / 4096))
      ≤ references cfg mapEntries s ref :=
    Finset.single_le_sum (f := fun i => tableRefs cfg mapEntries s ref (pageAt i))
      (fun _ _ => Nat.zero_le _) (Finset.mem_range.mpr low)
  rw [place, tableRefs_found found, typed] at part
  refine Nat.lt_of_lt_of_le ?_ part
  refine List.countP_pos_iff.mpr ⟨e, List.mem_range.mpr inside, ?_⟩
  exact decide_eq_true points

/-- `SetPte` leaves an entry for a page of the partition writable only if it is no table. -/
theorem Settles.writable {entry new : XmU32} {ref : PageRef} (settles : Settles cfg s entry new)
    (present : IsPresent new) (rw : new &&& _PG_ARCH_RW ≠ 0)
    (found : cfg.Found (getAddr entry) ref)
    : (s.page ref).type = .std ∧ entry &&& _PG_ARCH_RW ≠ 0
      ∧ ref.flags &&& XM_MEM_AREA_READONLY = 0 := by
  rcases settles with ⟨absent, rfl⟩ | ⟨_, target, search, rfl⟩
  · exact absurd present absent
  · have inArea := MmuConfig.FoundTarget.inArea search
    obtain ⟨page, pageSearch, search⟩ := bind_eq_ok.mp search
    cases pageSearch.symm.trans found
    cases search
    rw [rw_bit.and_ne_zero, checkedPte_getLsbD inArea _ _ (by decide)] at rw
    rw [rw_bit.and_ne_zero]
    have kept : ¬ ReadOnly { page := some ref, isPCtrlTab := false, areaFlags := ref.flags }
        (some (s.page ref).type) := by
      intro readOnly
      have typed : PteTarget.type
          { page := some ref, isPCtrlTab := false, areaFlags := ref.flags } s
          = some (s.page ref).type := rfl
      rw [typed] at rw
      simp [readOnly] at rw
    unfold ReadOnly at kept
    rw [not_or, not_not, not_not] at kept
    refine ⟨kept.2, ?_, kept.1⟩
    simp at rw
    exact rw.1

section Retyping

variable {pAddr : XmU32} {type : PPagType} {page : PageRef} {ret : XmRet}

/-- The mappings in a page that becomes a second level table have been counted. -/
theorem pointing_le_setCounts (covered : RetypeCovered cfg pAddr type page s)
    (retyped : Retyped cfg pAddr type page s s') (ref : PageRef)
    : pointing cfg s' pAddr ref (List.range (mapEntries type))
      ≤ setCounts cfg s pAddr ref type := by
  by_cases table : type = .ptdL2
  · subst table
    simp only [setCounts, mapEntries]
    rw [reached_eq fun e inside stop b low order =>
      covered.seen rfl e inside stop b low order ref]
    unfold pointing
    refine List.countP_mono_left ?_
    intro e member points
    rw [decide_eq_true_eq] at points ⊢
    exact (pointsTo_congr (installed_samePage (retyped.ptdL2 rfl e (List.mem_range.mp member)))).mp
      points
  · rw [mapEntries_of_ne table]
    exact Nat.zero_le _

/-- What is taken from a counter was a mapping in the page, or had been counted besides. -/
theorem unsetDrops_covered (covered : RetypeCovered cfg pAddr type page s) (ref : PageRef)
    : unsetDrops cfg s pAddr ref (s.page page).type
        ≤ pointing cfg s pAddr ref (List.range (mapEntries (s.page page).type))
      ∨ references cfg mapEntries s ref + unsetDrops cfg s pAddr ref (s.page page).type
        ≤ (s.page ref).counter.toNat := by
  cases typed : (s.page page).type with
  | ptdL1 => exact Or.inr (covered.dropped typed ref)
  | ptdL2 =>
      simp only [unsetDrops, tableEntries, mapEntries]
      exact Or.inl (reached_le _)
  | std | ptdL3 => exact Or.inl (Nat.le_refl 0)

theorem retyped_counted (holds : Protected cfg s) (found : cfg.Found pAddr page)
    (changes : type ≠ (s.page page).type) (unused : (s.page page).counter = 0)
    (covered : RetypeCovered cfg pAddr type page s)
    (returned : retypePage cfg pAddr type page s = .ok (ret, s')) (ref : PageRef)
    : references cfg mapEntries s' ref ≤ (s'.page ref).counter.toNat := by
  have retyped := retypePage_retyped covered.aligned changes unused returned
  obtain ⟨mid, drops, adds⟩ := retypePage_counts changes unused returned ref
  have room := covered.room ref
  have before := holds.counted ref
  have set := pointing_le_setCounts covered retyped ref
  have change : references cfg mapEntries s' ref + _ = references cfg mapEntries s ref + _ :=
    references_retype mapEntries_le covered.aligned found retyped
  have after : (s'.page ref).counter.toNat = mid.toNat + setCounts cfg s pAddr ref type := by
    unfold Adds at adds
    rw [adds, BitVec.toNat_add, BitVec.toNat_ofNat]
    omega
  rcases unsetDrops_covered covered ref with own | other
  · omega
  · omega

theorem retyped_writable (holds : Protected cfg s) (found : cfg.Found pAddr page)
    (unused : (s.page page).counter = 0) (covered : RetypeCovered cfg pAddr type page s)
    (retyped : Retyped cfg pAddr type page s s')
    : WritableOnly cfg s' (· = .std) := by
  have aligned := covered.aligned
  intro table isTable e inside present rw target targetFound
  by_cases here : table = pAddr
  · subst here
    have becomes : type = .ptdL2 :=
      (retyped.pageOf_own found aligned).type_eq isTable
    have settled := retyped.ptdL2 becomes e inside
    obtain ⟨samePresent, sameAddr⟩ := installed_samePage settled
    rw [sameAddr] at targetFound
    have wasPresent := samePresent.mp present
    rcases settled with ⟨_, settles⟩ | ⟨⟨b, member, unfound⟩, _⟩
    · obtain ⟨typed, wasRw, writable⟩ := settles.writable present rw targetFound
      by_cases itself : PageRef.SamePage target page
      · have own := targetFound.addr found itself
        rw [getAddr_of_aligned (getAddr_aligned _), getAddr_of_aligned aligned] at own
        rw [own] at targetFound
        cases targetFound.unique found
        exact absurd (covered.itself becomes typed writable e inside wasPresent own) wasRw
      · exact (retyped.others target itself).trans typed
    · have early : b ≤ e := by
        rcases List.mem_append.mp member with earlier | last
        · exact Nat.le_of_lt (List.mem_range.mp earlier)
        · exact Nat.le_of_eq (List.mem_singleton.mp last)
      exact absurd ⟨wasPresent, target, targetFound, rfl, rfl⟩
        (covered.seen becomes b (Nat.lt_of_le_of_lt early inside) unfound e inside early target)
  · have wasTable := (retyped.pageOf_other found aligned here).mp isTable
    have entry := retyped.elsewhere table isTable.aligned here e inside
    rw [entry] at present rw targetFound
    have typed := holds.writable table wasTable e inside present rw target targetFound
    by_cases itself : PageRef.SamePage target page
    · have mapped : 0 < references cfg mapEntries s page :=
        references_pos wasTable inside ⟨present, target, targetFound, itself⟩
      have counted := holds.counted page
      rw [unused] at counted
      exact absurd counted (Nat.not_le.mpr mapped)
    · exact (retyped.others target itself).trans typed

end Retyping

/-- Covered calls keep the page tables protected. -/
theorem Protected.call {call : PageCall} (holds : Protected cfg s) (covered : call.Covered cfg s)
    (taken : CallNext cfg s call s')
    : Protected cfg s' := by
  obtain ⟨ret, returned⟩ := taken
  cases call with
  | updatePage32 vCpuId stack pAddr val => exact holds.updates covered returned
  | setPageType pAddr type =>
      rcases setPageTypeSys_cases returned with ⟨rfl, _⟩ | ⟨new, page, known, retypes, retyped⟩
      · exact holds
      · obtain ⟨found, changes, unused⟩ := retypes
        have covered := covered new page known ⟨found, changes, unused⟩
        exact
          { counted := retyped_counted holds found changes unused covered retyped
            writable := retyped_writable holds found unused covered
              (retypePage_retyped covered.aligned changes unused retyped) }

theorem Protected.tablesReadOnly (holds : Protected cfg s) : TablesReadOnly cfg s := by
  intro page table e inside present rw target found
  rw [holds.writable page table e inside present rw target found]
  decide

end Steps

/-- In every state that covered calls lead to no table is mapped writable. -/
theorem tables_stay_readOnly {cfg : MmuConfig} {start s : State} {past : List PageCall}
    (holds : Protected cfg start)
    (run : Reach (guarded (PageCall.Covered cfg) (CallNext cfg)) start past s)
    : TablesReadOnly cfg s :=
  (run.invariant holds fun _ _ _ holds taken => holds.call taken.1 taken.2).tablesReadOnly

-----------------------------------------------------------------------------------------
-- A page that maps itself

theorem protected_of_absent {cfg : MmuConfig} {s : State}
    (absent : ∀ page, cfg.PageOf s page .ptdL2 → ∀ e < PTDL2ENTRIES, ¬ IsPresent (s.entry page e))
    : Protected cfg s := by
  constructor
  · intro ref
    have none : references cfg mapEntries s ref = 0 := by
      refine references_of_absent ?_ ref
      intro page aligned own found e inside
      by_cases table : (s.page own).type = .ptdL2
      · rw [table] at inside
        exact absent page ⟨aligned, own, found, table⟩ e inside
      · rw [mapEntries_of_ne table] at inside
        exact absurd inside (Nat.not_lt_zero e)
    rw [none]
    exact Nat.zero_le _
  · intro page table e inside present
    exact absurd present (absent page table e inside)

/-- No page is a table, and the first has a writable entry for itself. -/
def selfMapped : State where
  byte := WordMemory.setWord (fun _ => 0) 0x100000 0x100003
  physPageTab := fun _ _ => { type := .std, counter := 0 }
  ptdL1 := fun _ => 0

/-- The first page is an empty second level table. -/
def oneTable : State where
  byte := fun _ => 0
  physPageTab := fun region index =>
    { type := if region = 0 ∧ index = 0 then .ptdL2 else .std, counter := 0 }
  ptdL1 := fun _ => 0

theorem selfMapped_protected : Protected deviceConfig selfMapped := by
  refine protected_of_absent ?_
  rintro page ⟨_, ref, _, typed⟩
  cases typed

theorem tables_stay_readOnly_mapped
    : ∃ s', (PageCall.updatePage32 0 0 0x100000 0x101003).run deviceConfig oneTable = .ok (.ok, s')
      ∧ TablesReadOnly deviceConfig s' := by
  have runs : ((PageCall.updatePage32 0 0 0x100000 0x101003).run deviceConfig oneTable).map
      Prod.fst = .ok .ok := by decide +kernel
  obtain ⟨⟨_, s'⟩, returned, rfl⟩ := map_eq_ok.mp runs
  have holds : Protected deviceConfig oneTable := by
    refine protected_of_absent ?_
    intro page _ e _
    change ¬ IsPresent (0#8 ++ 0#8 ++ 0#8 ++ 0#8)
    decide
  have covered : (PageCall.updatePage32 0 0 0x100000 0x101003).Covered deviceConfig oneTable := by
    intro page _ found
    have first : deviceConfig.Found 0x100000 { region := 0, page := 0, flags := 0 } := rfl
    cases found.unique first
    have room : ∀ ref, (oneTable.page ref).counter.toNat + 1 < 2 ^ 27 := by
      intro ref
      change (0 : BitVec 27).toNat + 1 < 2 ^ 27
      decide
    refine { directory := fun _ ref _ => room ref, dropped := ?_, table := fun _ ref _ => room ref }
    intro directory
    cases directory
  exact ⟨s', returned, tables_stay_readOnly holds (.step .start ⟨covered, _, returned⟩)⟩

/-- `SetPte` lets the entry stay writable: the page is still an ordinary one. -/
theorem table_maps_itself_writable
    : Protected deviceConfig selfMapped
      ∧ ∃ s', Reach (CallNext deviceConfig) selfMapped [.setPageType 0x100000 2] s'
        ∧ ¬ TablesReadOnly deviceConfig s' := by
  refine ⟨selfMapped_protected, ?_⟩
  have runs : ((PageCall.setPageType 0x100000 2).run deviceConfig selfMapped).map
      (fun r => (r.1, r.2.entry 0x100000 0, (r.2.physPageTab 0 0).type))
      = .ok (.ok, 0x100003, .ptdL2) := by decide +kernel
  obtain ⟨⟨_, s'⟩, returned, after⟩ := map_eq_ok.mp runs
  obtain ⟨rfl, after⟩ := Prod.mk.inj after
  obtain ⟨entry, typed⟩ := Prod.mk.inj after
  refine ⟨s', .step .start ⟨_, returned⟩, ?_⟩
  intro readOnly
  have first : deviceConfig.Found 0x100000 { region := 0, page := 0, flags := 0 } := rfl
  have table : deviceConfig.PageOf s' 0x100000 .ptdL2 := ⟨rfl, _, first, typed⟩
  have types := readOnly 0x100000 table 0 (by decide)
  rw [entry] at types
  exact (types (by decide) (by decide) _ first).2 typed

end XtratuM.Mmu
