import Mathlib.Algebra.BigOperators.Group.Finset.Basic
import XtratuM.Mmu.TableWrites

/-! How many entries of the tables of a partition point at a page, and what the two hypercalls on
pages do to these numbers and to the counters.
-/

namespace XtratuM.Mmu

open UserPages
open FailedUpdates (CountsPtd CountsPte countPtd_cases dropPtd_cases countPte_cases
  findPteTarget_page)

/-- The entry is for the page. -/
def PointsTo (cfg : MmuConfig) (entry : XmU32) (ref : PageRef) : Prop :=
  IsPresent entry ∧ ∃ target, cfg.Found (getAddr entry) target ∧ PageRef.SamePage target ref

instance (cfg : MmuConfig) (entry : XmU32) (ref : PageRef) : Decidable (PointsTo cfg entry ref) :=
  match found : pmmFindPage cfg.tables cfg.partition (getAddr entry) with
  | .ok (some target) =>
      decidable_of_iff (IsPresent entry ∧ PageRef.SamePage target ref) <| by
        simp [PointsTo, MmuConfig.Found, found]
  | .ok none =>
      .isFalse <| by
        rintro ⟨_, target, search, _⟩
        cases found.symm.trans search
  | .error _ =>
      .isFalse <| by
        rintro ⟨_, target, search, _⟩
        cases found.symm.trans search

/-- What one entry adds to a number, if it counts. -/
def one (counts : Prop) [Decidable counts] : Nat := if counts then 1 else 0

/-- How many of the entries of the page are for `ref`. -/
def pointing (cfg : MmuConfig) (s : State) (page : XmU32) (ref : PageRef) (entries : List Nat)
    : Nat :=
  entries.countP fun e => decide (PointsTo cfg (s.entry page e) ref)

/-- How many entries a page has that are references, by its type. -/
abbrev EntryKinds := PPagType → Nat

/-- The references to `ref` from a page of the partition. -/
def tableRefs (cfg : MmuConfig) (kinds : EntryKinds) (s : State) (ref : PageRef) (page : XmU32)
    : Nat :=
  match pmmFindPage cfg.tables cfg.partition page with
  | .ok (some own) => pointing cfg s page ref (List.range (kinds (s.page own).type))
  | _ => 0

def pageAt (i : Nat) : XmU32 := BitVec.ofNat 32 (PAGE_SIZE.toNat * i)

/-- The references to `ref` from all pages of the partition. -/
def references (cfg : MmuConfig) (kinds : EntryKinds) (s : State) (ref : PageRef) : Nat :=
  ∑ i ∈ Finset.range (2 ^ 20), tableRefs cfg kinds s ref (pageAt i)

-----------------------------------------------------------------------------------------
-- Sums over the pages

/-- Two sums that differ at one place. -/
theorem sum_change {ι : Type} [DecidableEq ι] {places : Finset ι} {f g : ι → Nat} {i : ι}
    (inside : i ∈ places) (elsewhere : ∀ j ∈ places, j ≠ i → g j = f j)
    : ∑ j ∈ places, g j + f i = ∑ j ∈ places, f j + g i := by
  rw [← Finset.add_sum_erase places f inside, ← Finset.add_sum_erase places g inside]
  have rest : ∑ j ∈ places.erase i, g j = ∑ j ∈ places.erase i, f j := by
    refine Finset.sum_congr rfl ?_
    intro j member
    exact elsewhere j (Finset.mem_of_mem_erase member) (Finset.ne_of_mem_erase member)
  rw [rest]
  omega

theorem pageAt_aligned (i : Nat) : PageAligned (pageAt i) := by
  have pageSize : PAGE_SIZE.toNat = 4096 := rfl
  rw [PageAligned, pageAt, BitVec.toNat_ofNat, pageSize]
  omega

theorem pageAt_div {page : XmU32} (aligned : PageAligned page)
    : page.toNat / 4096 < 2 ^ 20 ∧ pageAt (page.toNat / 4096) = page := by
  have pageSize : PAGE_SIZE.toNat = 4096 := rfl
  have small := page.isLt
  rw [PageAligned, pageSize] at aligned
  refine ⟨by omega, ?_⟩
  apply BitVec.eq_of_toNat_eq
  rw [pageAt, BitVec.toNat_ofNat, pageSize]
  omega

theorem pageAt_inj {i j : Nat} (inside : i < 2 ^ 20) (inside' : j < 2 ^ 20)
    (same : pageAt i = pageAt j)
    : i = j := by
  have pageSize : PAGE_SIZE.toNat = 4096 := rfl
  have numbers := congrArg BitVec.toNat same
  rw [pageAt, pageAt, BitVec.toNat_ofNat, BitVec.toNat_ofNat, pageSize] at numbers
  omega

section References

variable {cfg : MmuConfig} {kinds : EntryKinds} {s s' : State} {ref : PageRef}

/-- The references when those from one page alone change. -/
theorem references_change {page : XmU32} (aligned : PageAligned page)
    (elsewhere : ∀ other, PageAligned other → other ≠ page →
      tableRefs cfg kinds s' ref other = tableRefs cfg kinds s ref other)
    : references cfg kinds s' ref + tableRefs cfg kinds s ref page
      = references cfg kinds s ref + tableRefs cfg kinds s' ref page := by
  obtain ⟨inside, place⟩ := pageAt_div aligned
  have change := sum_change (f := fun i => tableRefs cfg kinds s ref (pageAt i))
    (g := fun i => tableRefs cfg kinds s' ref (pageAt i)) (Finset.mem_range.mpr inside) (by
      intro j member apart
      have low := Finset.mem_range.mp member
      refine elsewhere _ (pageAt_aligned j) ?_
      intro same
      exact apart (pageAt_inj low inside (same.trans place.symm)))
  rwa [place] at change

theorem tableRefs_found {page : XmU32} {own : PageRef} (found : cfg.Found page own)
    : tableRefs cfg kinds s ref page
      = pointing cfg s page ref (List.range (kinds (s.page own).type)) := by
  unfold tableRefs
  rw [show pmmFindPage cfg.tables cfg.partition page = .ok (some own) from found]

theorem pointing_congr {page : XmU32} {entries : List Nat}
    (same : ∀ e ∈ entries, s'.entry page e = s.entry page e)
    : pointing cfg s' page ref entries = pointing cfg s page ref entries := by
  unfold pointing
  refine List.countP_congr ?_
  intro e member
  rw [same e member]

/-- The references from a page whose type and words stay. -/
theorem tableRefs_congr {page : XmU32} (room : ∀ type, kinds type ≤ PTDL2ENTRIES)
    (types : ∀ own, cfg.Found page own → (s'.page own).type = (s.page own).type)
    (same : ∀ e < PTDL2ENTRIES, s'.entry page e = s.entry page e)
    : tableRefs cfg kinds s' ref page = tableRefs cfg kinds s ref page := by
  by_cases found : ∃ own, cfg.Found page own
  · obtain ⟨own, found⟩ := found
    rw [tableRefs_found found, tableRefs_found found, types own found]
    refine pointing_congr ?_
    intro e member
    exact same e (Nat.lt_of_lt_of_le (List.mem_range.mp member) (room _))
  · have none : ∀ t : State, tableRefs cfg kinds t ref page = 0 := by
      intro t
      unfold tableRefs
      split
      · next own search => exact absurd ⟨own, search⟩ found
      · rfl
    rw [none, none]

/-- One entry of a page changes. -/
theorem pointing_change {page : XmU32} {n i : Nat}
    (elsewhere : ∀ e < n, e ≠ i → s'.entry page e = s.entry page e)
    : pointing cfg s' page ref (List.range n) + one (i < n ∧ PointsTo cfg (s.entry page i) ref)
      = pointing cfg s page ref (List.range n)
        + one (i < n ∧ PointsTo cfg (s'.entry page i) ref) := by
  have asSum (t : State) : pointing cfg t page ref (List.range n)
      = ∑ e ∈ Finset.range n, one (PointsTo cfg (t.entry page e) ref) := by
    unfold pointing
    clear elsewhere
    induction n with
    | zero => rfl
    | succ n ih =>
        rw [List.range_succ, List.countP_append, ih, Finset.sum_range_succ]
        simp [one]
  by_cases inside : i < n
  · have change := sum_change (f := fun e => one (PointsTo cfg (s.entry page e) ref))
      (g := fun e => one (PointsTo cfg (s'.entry page e) ref)) (Finset.mem_range.mpr inside) (by
        intro e member apart
        rw [elsewhere e (Finset.mem_range.mp member) apart])
    rw [asSum, asSum]
    simpa only [inside, true_and] using change
  · rw [one, if_neg fun both => inside both.1, one, if_neg fun both => inside both.1]
    refine pointing_congr ?_
    intro e member
    have low := List.mem_range.mp member
    exact elsewhere e low (by omega)

/-- A word of a page changes. -/
theorem references_write {pAddr new : XmU32} {page : PageRef}
    (room : ∀ type, kinds type ≤ PTDL2ENTRIES) (word : pAddr &&& 3 = 0)
    (found : cfg.Found pAddr page) (written : Untouched (s.setWord pAddr new) s')
    : references cfg kinds s' ref
        + one (entryIndex pAddr < kinds (s.page page).type ∧ PointsTo cfg (s.word pAddr) ref)
      = references cfg kinds s ref
        + one (entryIndex pAddr < kinds (s.page page).type ∧ PointsTo cfg new ref) := by
  have aligned := getAddr_aligned pAddr
  obtain ⟨index, place⟩ := entryAt_entryIndex word
  have entries : ∀ other, PageAligned other → ∀ e < PTDL2ENTRIES,
      s'.entry other e = if entryAt other e = pAddr then new else s.entry other e := by
    intro other otherAligned e inside
    rw [← setWord_entry s new word otherAligned inside]
    exact written.word _
  have change : references cfg kinds s' ref + tableRefs cfg kinds s ref (getAddr pAddr)
      = references cfg kinds s ref + tableRefs cfg kinds s' ref (getAddr pAddr) := by
    refine references_change aligned ?_
    intro other otherAligned apart
    refine tableRefs_congr room (fun own _ => written.types own) ?_
    intro e inside
    rw [entries other otherAligned e inside, if_neg]
    rintro rfl
    exact apart (getAddr_entryAt otherAligned inside).symm
  have types : (s'.page page).type = (s.page page).type := written.types page
  rw [tableRefs_found found.getAddr, tableRefs_found found.getAddr, types] at change
  have elsewhere : ∀ e < kinds (s.page page).type, e ≠ entryIndex pAddr →
      s'.entry (getAddr pAddr) e = s.entry (getAddr pAddr) e := by
    intro e low apart
    have inside := Nat.lt_of_lt_of_le low (room _)
    rw [entries _ aligned e inside, if_neg]
    intro same
    exact apart (entryAt_inj aligned inside index (same.trans place.symm))
  have own : pointing cfg s' (getAddr pAddr) ref (List.range (kinds (s.page page).type)) + _
      = pointing cfg s (getAddr pAddr) ref (List.range (kinds (s.page page).type)) + _ :=
    pointing_change elsewhere
  have old : s.entry (getAddr pAddr) (entryIndex pAddr) = s.word pAddr := by
    rw [State.entry, place]
  have now : s'.entry (getAddr pAddr) (entryIndex pAddr) = new := by
    rw [entries _ aligned _ index, if_pos place]
  rw [old, now] at own
  omega

/-- A page changes its type, and the words in it. -/
theorem references_retype {pAddr : XmU32} {type : PPagType} {page : PageRef}
    (room : ∀ type, kinds type ≤ PTDL2ENTRIES) (aligned : PageAligned pAddr)
    (found : cfg.Found pAddr page) (retyped : Retyped cfg pAddr type page s s')
    : references cfg kinds s' ref
        + pointing cfg s pAddr ref (List.range (kinds (s.page page).type))
      = references cfg kinds s ref + pointing cfg s' pAddr ref (List.range (kinds type)) := by
  have change : references cfg kinds s' ref + tableRefs cfg kinds s ref pAddr
      = references cfg kinds s ref + tableRefs cfg kinds s' ref pAddr := by
    refine references_change aligned ?_
    intro other otherAligned apart
    refine tableRefs_congr room ?_ (retyped.elsewhere other otherAligned apart)
    intro own ownFound
    refine retyped.others own (ownFound.apart found aligned ?_)
    rwa [getAddr_of_aligned otherAligned]
  rwa [tableRefs_found found, tableRefs_found found, retyped.own] at change

end References

-----------------------------------------------------------------------------------------
-- Counters

def SameCounters (s s' : State) : Prop := ∀ ref, (s'.page ref).counter = (s.page ref).counter

/-- The page behind the entry has been counted, and no other. -/
def Counted (cfg : MmuConfig) (entry : XmU32) (s s' : State) : Prop :=
  ∀ ref, (s'.page ref).counter
    = (s.page ref).counter + BitVec.ofNat 27 (one (PointsTo cfg entry ref))

/-- The page behind the entry is no longer counted. -/
def Dropped (cfg : MmuConfig) (entry : XmU32) (s s' : State) : Prop :=
  ∀ ref, (s'.page ref).counter.toNat + one (PointsTo cfg entry ref) = (s.page ref).counter.toNat

section Counters

variable {cfg : MmuConfig} {s s' : State}

theorem pointsTo_found {entry : XmU32} {target : PageRef} (present : IsPresent entry)
    (found : cfg.Found (getAddr entry) target) (ref : PageRef)
    : PointsTo cfg entry ref ↔ PageRef.SamePage target ref := by
  refine ⟨?_, fun same => ⟨present, target, found, same⟩⟩
  rintro ⟨_, other, otherFound, same⟩
  rwa [← otherFound.unique found]

theorem not_pointsTo {entry : XmU32} (absent : ¬ IsPresent entry) (ref : PageRef)
    : ¬ PointsTo cfg entry ref :=
  fun points => absent points.1

/-- Empty tables refer to nothing. -/
theorem references_of_absent {kinds : EntryKinds} (absent : ∀ page, PageAligned page →
      ∀ own, cfg.Found page own → ∀ e < kinds (s.page own).type, ¬ IsPresent (s.entry page e))
    (ref : PageRef)
    : references cfg kinds s ref = 0 := by
  refine Finset.sum_eq_zero ?_
  intro i _
  unfold tableRefs
  split
  · next own found =>
      refine List.countP_eq_zero.mpr ?_
      intro e member
      rw [decide_eq_true_eq]
      exact not_pointsTo
        (absent (pageAt i) (pageAt_aligned i) own found e (List.mem_range.mp member)) ref
  · rfl

theorem not_pointsTo_unfound {entry : XmU32}
    (missing : pmmFindPage cfg.tables cfg.partition (getAddr entry) = .ok none) (ref : PageRef)
    : ¬ PointsTo cfg entry ref := by
  rintro ⟨_, target, found, _⟩
  cases missing.symm.trans found

theorem samePage_comm {ref other : PageRef}
    : PageRef.SamePage ref other ↔ PageRef.SamePage other ref :=
  ⟨fun same => ⟨same.1.symm, same.2.symm⟩, fun same => ⟨same.1.symm, same.2.symm⟩⟩

theorem page_congr (s : State) {ref other : PageRef} (same : PageRef.SamePage ref other)
    : s.page ref = s.page other := by
  rw [State.page, State.page, same.1, same.2]

theorem counted_none {entry : XmU32} (none : ∀ ref, ¬ PointsTo cfg entry ref)
    : Counted cfg entry s s := by
  intro ref
  rw [one, if_neg (none ref)]
  exact (BitVec.add_zero _).symm

theorem dropped_none {entry : XmU32} (none : ∀ ref, ¬ PointsTo cfg entry ref)
    : Dropped cfg entry s s := by
  intro ref
  rw [one, if_neg (none ref), Nat.add_zero]

theorem pPagIncCounter_counter (target ref : PageRef)
    : ((pPagIncCounter target s).page ref).counter
      = (s.page ref).counter + BitVec.ofNat 27 (one (PageRef.SamePage target ref)) := by
  unfold pPagIncCounter one
  rw [setPage_page]
  by_cases same : PageRef.SamePage ref target
  · rw [if_pos same, if_pos (samePage_comm.mp same), page_congr s same]
    rfl
  · rw [if_neg same, if_neg fun other => same (samePage_comm.mp other)]
    exact (BitVec.add_zero _).symm

theorem pPagDecCounter_counter {target : PageRef} (dropped : pPagDecCounter target s = .ok s')
    (ref : PageRef)
    : (s'.page ref).counter.toNat + one (PageRef.SamePage target ref)
      = (s.page ref).counter.toNat := by
  unfold pPagDecCounter at dropped
  split at dropped
  · cases dropped
  · next positive =>
      cases dropped
      unfold one
      rw [setPage_page]
      by_cases same : PageRef.SamePage ref target
      · rw [if_pos same, if_pos (samePage_comm.mp same), page_congr s same]
        change ((s.page target).counter - 1).toNat + 1 = (s.page target).counter.toNat
        have oneToNat : (1 : BitVec 27).toNat = 1 := rfl
        have zeroToNat : (0 : BitVec 27).toNat = 0 := rfl
        have small := (s.page target).counter.isLt
        rw [← BitVec.toNat_inj, zeroToNat] at positive
        rw [BitVec.toNat_sub, oneToNat]
        omega
      · rw [if_neg same, if_neg fun other => same (samePage_comm.mp other)]
        rfl

theorem one_congr {counts counts' : Prop} [Decidable counts] [Decidable counts']
    (same : counts ↔ counts')
    : one counts = one counts' :=
  if_congr same rfl rfl

theorem pPagIncCounter_counted {entry : XmU32} {target : PageRef} (present : IsPresent entry)
    (found : cfg.Found (getAddr entry) target)
    : Counted cfg entry s (pPagIncCounter target s) := by
  intro ref
  rw [one_congr (pointsTo_found present found ref)]
  exact pPagIncCounter_counter target ref

theorem releasePage_dropped {isValid : PPagType → Bool} {entry : XmU32} {target : PageRef}
    (present : IsPresent entry) (found : cfg.Found (getAddr entry) target)
    (released : releasePage isValid target s = .ok s')
    : Dropped cfg entry s s' := by
  obtain ⟨_, _, released⟩ := bind_eq_ok.mp released
  obtain ⟨_, _, released⟩ := bind_eq_ok.mp released
  intro ref
  rw [one_congr (pointsTo_found present found ref)]
  exact pPagDecCounter_counter released ref

theorem countPtd_counted {val : XmU32} (counted : countPtd cfg val s = .ok (.ok, s'))
    : Counted cfg val s s' := by
  by_cases present : IsPresent val
  · unfold countPtd at counted
    rw [if_pos present] at counted
    obtain ⟨found, search, counted⟩ := bind_eq_ok.mp counted
    cases found with
    | none => cases counted
    | some target =>
        dsimp only at counted
        split at counted
        · cases counted
          exact pPagIncCounter_counted present search
        · cases counted
  · unfold countPtd at counted
    rw [if_neg present] at counted
    cases counted
    exact counted_none (not_pointsTo present)

theorem countPtd_refused {val : XmU32} {ret : XmRet} (refused : ret ≠ .ok)
    (counted : countPtd cfg val s = .ok (ret, s'))
    : s' = s := by
  rcases countPtd_cases counted with ⟨accepted, _⟩ | ⟨same, _⟩
  · exact absurd accepted refused
  · exact same

theorem dropPtd_dropped {old : XmU32} (dropped : dropPtd cfg old s = .ok (.ok, s'))
    : Dropped cfg old s s' := by
  by_cases present : IsPresent old
  · unfold dropPtd at dropped
    rw [if_pos present] at dropped
    obtain ⟨found, search, dropped⟩ := bind_eq_ok.mp dropped
    cases found with
    | none => cases dropped
    | some target =>
        obtain ⟨released, release, dropped⟩ := bind_eq_ok.mp dropped
        cases dropped
        exact releasePage_dropped present search release
  · unfold dropPtd at dropped
    rw [if_neg present] at dropped
    cases dropped
    exact dropped_none (not_pointsTo present)

theorem countPte_counted {vCpuId stack val new : XmU32}
    (counted : countPte cfg vCpuId stack val s = .ok (some new, s'))
    : Counted cfg val s s' := by
  by_cases present : IsPresent val
  · unfold countPte at counted
    rw [if_pos present] at counted
    obtain ⟨found, search, counted⟩ := bind_eq_ok.mp counted
    obtain ⟨page, pageSearch, same⟩ := findPteTarget_page search
    cases found with
    | none => cases counted
    | some target =>
        have same : target.page = page := same
        cases onPage : target.page with
        | none =>
            simp only [onPage] at counted same
            cases counted
            rw [← same] at pageSearch
            exact counted_none (not_pointsTo_unfound pageSearch)
        | some ref =>
            simp only [onPage] at counted same
            cases counted
            rw [← same] at pageSearch
            exact pPagIncCounter_counted present pageSearch
  · unfold countPte at counted
    rw [if_neg present] at counted
    cases counted
    exact counted_none (not_pointsTo present)

theorem countPte_refused {vCpuId stack val : XmU32}
    (counted : countPte cfg vCpuId stack val s = .ok (none, s'))
    : s' = s := by
  rcases countPte_cases counted with ⟨accepted, _⟩ | ⟨same, _⟩
  · cases accepted
  · exact same

theorem dropPte_dropped {vCpuId old : XmU32} (dropped : dropPte cfg vCpuId old s = .ok (.ok, s'))
    : Dropped cfg old s s' := by
  by_cases present : IsPresent old
  · unfold dropPte at dropped
    rw [if_pos present] at dropped
    obtain ⟨found, search, dropped⟩ := bind_eq_ok.mp dropped
    obtain ⟨page, pageSearch, same⟩ := findPteTarget_page search
    cases found with
    | none => cases dropped
    | some target =>
        have same : target.page = page := same
        cases onPage : target.page with
        | none =>
            simp only [onPage] at dropped same
            cases dropped
            rw [← same] at pageSearch
            exact dropped_none (not_pointsTo_unfound pageSearch)
        | some ref =>
            simp only [onPage] at dropped same
            obtain ⟨released, release, dropped⟩ := bind_eq_ok.mp dropped
            cases dropped
            rw [← same] at pageSearch
            exact releasePage_dropped present pageSearch release
  · unfold dropPte at dropped
    rw [if_neg present] at dropped
    cases dropped
    exact dropped_none (not_pointsTo present)

theorem Counted.same {entry : XmU32} (counted : Counted cfg entry s s')
    (none : ∀ ref, ¬ PointsTo cfg entry ref)
    : SameCounters s s' := by
  intro ref
  have counter := counted ref
  rw [one, if_neg (none ref)] at counter
  exact counter.trans (BitVec.add_zero _)

/-- An update that is refused after it has counted the page behind the new entry. -/
def Leaks (cfg : MmuConfig) (vCpuId pAddr val : XmU32) (page : PageRef) (s : State) : Prop :=
  (isValidPtdPtr (s.page page).type pAddr = true ∧ CountsPtd cfg val (s.word pAddr) s)
    ∨ ((s.page page).type = .ptdL2 ∧ CountsPte cfg vCpuId val (s.word pAddr))

/-- What the handlers of the types do to the counters: those of the tables exchange the reference
of the old entry for that of the new one.
-/
structure HandlerCounts (cfg : MmuConfig) (vCpuId pAddr val : XmU32) (page : PageRef) (s : State)
    (word : Option XmU32) (s' : State) : Prop where
  refused : word = none →
    SameCounters s s' ∨ (Counted cfg val s s' ∧ Leaks cfg vCpuId pAddr val page s)
  plain : (s.page page).type ≠ .ptdL1 → (s.page page).type ≠ .ptdL2 → SameCounters s s'
  table : word ≠ none → (s.page page).type = .ptdL1 ∨ (s.page page).type = .ptdL2 →
    ∃ mid, Counted cfg val s mid ∧ Dropped cfg (s.word pAddr) mid s'

theorem updatePtd_counts {page : PageRef} {vCpuId pAddr val : XmU32} {word : Option XmU32}
    (typed : (s.page page).type = .ptdL1)
    (returned : updatePtd cfg page pAddr val s = .ok (word, s'))
    : HandlerCounts cfg vCpuId pAddr val page s word s' := by
  unfold updatePtd at returned
  split at returned
  · cases returned
    exact
      { refused := fun _ => Or.inl fun _ => rfl
        plain := fun _ _ _ => rfl
        table := fun written => absurd rfl written }
  · next valid =>
      have valid : isValidPtdPtr (s.page page).type pAddr = true := by simpa using valid
      obtain ⟨⟨ret, counted⟩, count, returned⟩ := bind_eq_ok.mp returned
      dsimp only at returned
      split at returned
      · next accepted =>
          cases accepted
          obtain ⟨⟨dropRet, dropped⟩, drop, ends⟩ := bind_eq_ok.mp returned
          rcases dropPtd_cases drop with ⟨fails, rfl, oldPresent, missing⟩ | ⟨rfl, _⟩
          · dsimp only at ends
            rw [if_neg fails] at ends
            cases ends
            refine
              { refused := fun _ => ?_
                plain := fun other => absurd typed other
                table := fun written => absurd rfl written }
            rcases countPtd_cases count with ⟨_, present, target, search, isTable, _⟩ | ⟨rfl, _⟩
            · exact Or.inr ⟨countPtd_counted count, Or.inl
                ⟨valid, ⟨present, target, search, isTable⟩, oldPresent, missing⟩⟩
            · exact Or.inl fun _ => rfl
          · cases ends
            exact
              { refused := fun none => by cases none
                plain := fun other => absurd typed other
                table := fun _ _ => ⟨counted, countPtd_counted count, dropPtd_dropped drop⟩ }
      · next refused =>
          cases returned
          obtain rfl := countPtd_refused refused count
          exact
            { refused := fun _ => Or.inl fun _ => rfl
              plain := fun _ _ _ => rfl
              table := fun written => absurd rfl written }

theorem updatePte_counts {page : PageRef} {vCpuId stack pAddr val : XmU32} {word : Option XmU32}
    (typed : (s.page page).type = .ptdL2)
    (returned : updatePte cfg vCpuId stack pAddr val s = .ok (word, s'))
    : HandlerCounts cfg vCpuId pAddr val page s word s' := by
  obtain ⟨⟨written, counted⟩, count, returned⟩ := bind_eq_ok.mp returned
  cases written with
  | none =>
      cases returned
      obtain rfl := countPte_refused count
      exact
        { refused := fun _ => Or.inl fun _ => rfl
          plain := fun _ _ _ => rfl
          table := fun written => absurd rfl written }
  | some written =>
      obtain ⟨⟨dropRet, dropped⟩, drop, ends⟩ := bind_eq_ok.mp returned
      rcases FailedUpdates.dropPte_cases drop with ⟨fails, rfl, oldPresent, missing⟩ | ⟨rfl, _⟩
      · dsimp only at ends
        rw [if_neg fails] at ends
        cases ends
        refine
          { refused := fun _ => ?_
            plain := fun _ other => absurd typed other
            table := fun written => absurd rfl written }
        rcases countPte_cases count with ⟨_, present, target, search, _⟩ | ⟨rfl, _⟩
        · exact Or.inr ⟨countPte_counted count, Or.inr
            ⟨typed, ⟨present, target, search⟩, oldPresent, missing⟩⟩
        · exact Or.inl fun _ => rfl
      · cases ends
        exact
          { refused := fun none => by cases none
            plain := fun _ other => absurd typed other
            table := fun _ _ => ⟨counted, countPte_counted count, dropPte_dropped drop⟩ }

theorem updatePPag32Hndl_counts {page : PageRef} {vCpuId stack pAddr val : XmU32}
    {word : Option XmU32}
    (returned : updatePPag32Hndl cfg vCpuId stack page pAddr val s = .ok (word, s'))
    : HandlerCounts cfg vCpuId pAddr val page s word s' := by
  unfold updatePPag32Hndl at returned
  cases typed : (s.page page).type with
  | std | ptdL3 =>
      rw [typed] at returned
      cases returned
      refine { refused := fun none => ?_, plain := fun _ _ _ => rfl, table := fun _ table => ?_ }
      · cases none
      · rw [typed] at table
        rcases table with table | table <;> cases table
  | ptdL1 =>
      rw [typed] at returned
      exact updatePtd_counts typed returned
  | ptdL2 =>
      rw [typed] at returned
      exact updatePte_counts typed returned

end Counters

-----------------------------------------------------------------------------------------
-- Loops

instance (cfg : MmuConfig) (entry : XmU32) : Decidable (UnfoundPtd cfg entry) :=
  inferInstanceAs (Decidable (_ ∧ _))

instance (cfg : MmuConfig) (entry : XmU32) : Decidable (Unfound cfg entry) :=
  inferInstanceAs (Decidable (_ ∧ _))

section Loops

variable {cfg : MmuConfig} {stops : XmU32 → Prop} [DecidablePred stops]
  {settles : State → XmU32 → XmU32 → Prop} {counts : State → XmU32 → PageRef → Prop}
  [∀ s entry ref, Decidable (counts s entry ref)]

/-- How many entries count for `ref` before the loop gives up. -/
def reached (stops : XmU32 → Prop) [DecidablePred stops]
    (counts : State → XmU32 → PageRef → Prop) [∀ s entry ref, Decidable (counts s entry ref)]
    (s : State) (page : XmU32) (ref : PageRef) : List Nat → Nat
  | [] => 0
  | e :: rest =>
      if stops (s.entry page e) then 0
      else one (counts s (s.entry page e) ref) + reached stops counts s page ref rest

theorem reached_congr {s s' : State} {page : XmU32} {ref : PageRef} {entries : List Nat}
    (same : ∀ e ∈ entries, s'.entry page e = s.entry page e)
    (congr : ∀ entry, counts s' entry ref ↔ counts s entry ref)
    : reached stops counts s' page ref entries = reached stops counts s page ref entries := by
  induction entries with
  | nil => rfl
  | cons first rest ih =>
      have behind := ih fun e member => same e (List.mem_cons_of_mem _ member)
      unfold reached one
      simp only [same first List.mem_cons_self, behind, congr]

/-- What a loop does to a counter, round by round. `R k` is what `k` rounds that count do to one.
Witness: induction on the entries.
-/
theorem forEntries_counts {round : Nat → State → Except Stop (Bool × State)} {page : XmU32}
    {R : Nat → BitVec 27 → BitVec 27 → Prop} (zero : ∀ c, R 0 c c)
    (add : ∀ a b c c' c'', R a c c' → R b c' c'' → R (a + b) c c'') {entries : List Nat}
    (rounds : ∀ e ∈ entries, ∀ s done s', round e s = .ok (done, s') →
      RoundSettles stops settles page e s done s'
        ∧ ∀ ref, R (one (done = true ∧ counts s (s.entry page e) ref)) (s.page ref).counter
          (s'.page ref).counter)
    (congr : ∀ s s' entry ref, SameTypes s s' → (counts s' entry ref ↔ counts s entry ref))
    (inside : ∀ e ∈ entries, e < PTDL2ENTRIES) (once : entries.Nodup) {s s' : State} {done : Bool}
    (returned : forEntries round entries s = .ok (done, s')) (ref : PageRef)
    : R (reached stops counts s page ref entries) (s.page ref).counter (s'.page ref).counter := by
  induction entries generalizing s with
  | nil =>
      cases returned
      exact zero _
  | cons first rest ih =>
      obtain ⟨⟨goesOn, next⟩, round, returned⟩ := bind_eq_ok.mp returned
      obtain ⟨settled, counted⟩ := rounds first List.mem_cons_self s goesOn next round
      have counted := counted ref
      cases goesOn with
      | false =>
          cases returned
          have stop : stops (s.entry page first) := by
            rcases settled.entry with ⟨goes, _⟩ | ⟨_, stop, _⟩
            · cases goes
            · exact stop
          rw [reached, if_pos stop]
          simpa [one] using counted
      | true =>
          have goes : ¬ stops (s.entry page first) := by
            rcases settled.entry with ⟨_, goes, _⟩ | ⟨stopped, _⟩
            · exact goes
            · cases stopped
          have fresh := (List.nodup_cons.mp once).1
          have later : ∀ e ∈ rest, next.entry page e = s.entry page e := by
            intro e member
            exact settled.others e (inside e (List.mem_cons_of_mem _ member))
              fun here => fresh (here ▸ member)
          have behind := ih (fun e member => rounds e (List.mem_cons_of_mem _ member))
            (fun e member => inside e (List.mem_cons_of_mem _ member)) (List.nodup_cons.mp once).2
            returned
          rw [reached_congr later fun entry => congr _ _ entry ref settled.types] at behind
          rw [reached, if_neg goes]
          refine add _ _ _ _ _ ?_ behind
          simpa using counted

end Loops

/-- The entries of a table that are the partition's. -/
def tableEntries : EntryKinds
  | .ptdL1 => userPtdEntries
  | .ptdL2 => PTDL2ENTRIES
  | _ => 0

theorem tableEntries_le (type : PPagType) : tableEntries type ≤ PTDL2ENTRIES := by
  cases type <;> decide

/-- The entries that `UnsetPtd`, `UnsetPte` and `SetPte` count. -/
def AnyPage (cfg : MmuConfig) (_ : State) (entry : XmU32) (ref : PageRef) : Prop :=
  PointsTo cfg entry ref

instance (cfg : MmuConfig) (s : State) (entry : XmU32) (ref : PageRef)
    : Decidable (AnyPage cfg s entry ref) :=
  inferInstanceAs (Decidable (PointsTo _ _ _))

/-- The entries that `SetPtd` counts. -/
def TablePage (cfg : MmuConfig) (s : State) (entry : XmU32) (ref : PageRef) : Prop :=
  PointsTo cfg entry ref ∧ (s.page ref).type = .ptdL2

instance (cfg : MmuConfig) (s : State) (entry : XmU32) (ref : PageRef)
    : Decidable (TablePage cfg s entry ref) :=
  inferInstanceAs (Decidable (_ ∧ _))

/-- What `UnsetPPagTypeHndlTab` takes from the counter of a page. -/
def unsetDrops (cfg : MmuConfig) (s : State) (pAddr : XmU32) (ref : PageRef) (old : PPagType)
    : Nat :=
  reached (UnfoundPtd cfg) (AnyPage cfg) s pAddr ref (List.range (tableEntries old))

/-- What `SetPPagTypeHndlTab` adds to it. -/
def setCounts (cfg : MmuConfig) (s : State) (pAddr : XmU32) (ref : PageRef) : PPagType → Nat
  | .ptdL1 => reached (UnfoundPtd cfg) (TablePage cfg) s pAddr ref (List.range userPtdEntries)
  | .ptdL2 => reached (Unfound cfg) (AnyPage cfg) s pAddr ref (List.range PTDL2ENTRIES)
  | _ => 0

section Handlers

variable {cfg : MmuConfig} {page : XmU32} {e : Nat} {s s' : State} {done : Bool}

theorem tablePage_congr {entry : XmU32} {ref : PageRef} (types : SameTypes s s')
    : TablePage cfg s' entry ref ↔ TablePage cfg s entry ref := by
  rw [TablePage, TablePage, types ref]

theorem one_false {counts : Prop} [Decidable counts] : one (false = true ∧ counts) = 0 := by
  simp [one]

theorem one_true {counts : Prop} [Decidable counts] : one (true = true ∧ counts) = one counts := by
  simp [one]

theorem unsetEntry_rounds {isValid : PPagType → Bool}
    (returned : unsetEntry cfg isValid page e s = .ok (done, s'))
    : RoundSettles (UnfoundPtd cfg) (fun _ entry new => new = entry) page e s done s'
      ∧ ∀ ref, (s'.page ref).counter.toNat
          + one (done = true ∧ AnyPage cfg s (s.entry page e) ref)
        = (s.page ref).counter.toNat := by
  have untouched := unsetEntry_untouched returned
  have same : s'.entry page e = s.entry page e := untouched.word _
  obtain ⟨addr, inPage, returned⟩ := bind_eq_ok.mp returned
  cases entryAddr_eq_ok inPage
  split at returned
  · next present =>
      obtain ⟨found, search, returned⟩ := bind_eq_ok.mp returned
      cases found with
      | none =>
          cases returned
          refine ⟨?_, fun ref => by rw [one_false, Nat.add_zero]⟩
          exact
            { types := .refl _
              others := fun _ _ _ => rfl
              entry := Or.inr ⟨rfl, ⟨present, search⟩, rfl⟩ }
      | some target =>
          obtain ⟨released, release, returned⟩ := bind_eq_ok.mp returned
          cases returned
          refine ⟨?_, fun ref => ?_⟩
          · refine
              { types := untouched.types
                others := fun _ _ _ => untouched.word _
                entry := Or.inl ⟨rfl, ?_, same⟩ }
            rintro ⟨_, missing⟩
            cases missing.symm.trans search
          · rw [one_true]
            exact releasePage_dropped present search release ref
  · next absent =>
      cases returned
      refine ⟨?_, fun ref => ?_⟩
      · exact
          { types := .refl _
            others := fun _ _ _ => rfl
            entry := Or.inl ⟨rfl, fun unfound => absent unfound.1, rfl⟩ }
      · rw [one_true]
        exact dropped_none (not_pointsTo absent) ref

theorem unsetPPagTypeHndl_counts {old : PPagType} {pAddr : XmU32}
    (returned : unsetPPagTypeHndl cfg old pAddr s = .ok s') (ref : PageRef)
    : (s'.page ref).counter.toNat + unsetDrops cfg s pAddr ref old
      = (s.page ref).counter.toNat := by
  have loop (isValid : PPagType → Bool) {entries : List Nat}
      (inside : ∀ e ∈ entries, e < PTDL2ENTRIES) (once : entries.Nodup)
      (returned : (forEntries (unsetEntry cfg isValid pAddr) entries s).map Prod.snd = .ok s')
      : (s'.page ref).counter.toNat + reached (UnfoundPtd cfg) (AnyPage cfg) s pAddr ref entries
        = (s.page ref).counter.toNat := by
    obtain ⟨done, ran⟩ := map_snd_eq_ok.mp returned
    refine forEntries_counts (R := fun k c c' => c'.toNat + k = c.toNat) (fun _ => rfl) ?_
      (fun _ _ _ _ _ => unsetEntry_rounds) (fun _ _ _ _ _ => Iff.rfl) inside once ran ref
    intro a b c c' c'' first second
    omega
  unfold unsetPPagTypeHndl at returned
  cases old with
  | std | ptdL3 =>
      cases returned
      rfl
  | ptdL1 =>
      refine loop isValidPtdEntry ?_ List.nodup_range returned
      exact fun e member => Nat.lt_of_lt_of_le (List.mem_range.mp member) userPtdEntries_le
  | ptdL2 => exact loop (fun _ => true) (fun e => List.mem_range.mp) List.nodup_range returned

/-- What a loop that counts adds. -/
def Adds (k : Nat) (c c' : BitVec 27) : Prop := c' = c + BitVec.ofNat 27 k

theorem adds_zero (c : BitVec 27) : Adds 0 c c := (BitVec.add_zero c).symm

theorem adds_add (a b : Nat) (c c' c'' : BitVec 27) (first : Adds a c c') (second : Adds b c' c'')
    : Adds (a + b) c c'' := by
  unfold Adds at first second ⊢
  rw [second, first, BitVec.add_assoc, ← BitVec.ofNat_add]

theorem setPtdEntry_counts (returned : setPtdEntry cfg page e s = .ok (done, s')) (ref : PageRef)
    : Adds (one (done = true ∧ TablePage cfg s (s.entry page e) ref)) (s.page ref).counter
        (s'.page ref).counter := by
  unfold Adds
  obtain ⟨addr, inPage, returned⟩ := bind_eq_ok.mp returned
  cases entryAddr_eq_ok inPage
  dsimp only at returned
  split at returned
  · next present =>
      obtain ⟨found, search, returned⟩ := bind_eq_ok.mp returned
      cases found with
      | none =>
          cases returned
          rw [one_false]
          exact (BitVec.add_zero _).symm
      | some target =>
          have points : PointsTo cfg (s.entry page e) ref ↔ PageRef.SamePage target ref :=
            pointsTo_found present search ref
          dsimp only at returned
          split at returned
          · next valid =>
              cases returned
              have typed : (s.page target).type = .ptdL2 := by simpa [isValidPtdEntry] using valid
              have counted : ((pPagIncCounter target s).page ref).counter = (s.page ref).counter
                  + BitVec.ofNat 27 (one (PointsTo cfg (s.entry page e) ref)) :=
                pPagIncCounter_counted present search ref
              rw [one_true, counted]
              congr 2
              refine one_congr ?_
              refine ⟨fun points' => ⟨points', ?_⟩, And.left⟩
              rwa [page_congr s (points.mp points')] at typed
          · next invalid =>
              cases returned
              have typed : (s.page target).type ≠ .ptdL2 := by simpa [isValidPtdEntry] using invalid
              rw [one_true, one, if_neg]
              · exact (BitVec.add_zero _).symm
              · rintro ⟨points', other⟩
                rw [page_congr s (points.mp points')] at typed
                exact typed other
  · next absent =>
      cases returned
      have points : ¬ PointsTo cfg (s.entry page e) ref := not_pointsTo absent ref
      rw [one_true, one, if_neg fun both => points both.1]
      exact (BitVec.add_zero _).symm

theorem setPteEntry_counts (returned : setPteEntry cfg page e s = .ok (done, s')) (ref : PageRef)
    : Adds (one (done = true ∧ AnyPage cfg s (s.entry page e) ref)) (s.page ref).counter
        (s'.page ref).counter := by
  unfold Adds
  obtain ⟨addr, inPage, returned⟩ := bind_eq_ok.mp returned
  cases entryAddr_eq_ok inPage
  dsimp only at returned
  split at returned
  · next present =>
      obtain ⟨found, search, returned⟩ := bind_eq_ok.mp returned
      cases found with
      | none =>
          cases returned
          rw [one_false]
          exact (BitVec.add_zero _).symm
      | some target =>
          obtain ⟨page', pageSearch, search⟩ := bind_eq_ok.mp search
          cases onPage : target.page with
          | none =>
              simp only [onPage] at returned
              cases returned
              cases page' with
              | some other =>
                  cases search
                  cases onPage
              | none =>
                  have points : ¬ AnyPage cfg s (s.entry page e) ref :=
                    not_pointsTo_unfound pageSearch ref
                  rw [one_true, one, if_neg points]
                  exact (BitVec.add_zero _).symm
          | some other =>
              simp only [onPage] at returned
              cases returned
              cases page' with
              | some found =>
                  cases search
                  cases onPage
                  rw [one_true]
                  exact pPagIncCounter_counted present pageSearch ref
              | none =>
                  obtain ⟨area, _, search⟩ := bind_eq_ok.mp search
                  obtain ⟨flags, _, rfl⟩ := Option.map_eq_some_iff.mp (Except.ok.inj search)
                  cases onPage
  · next absent =>
      cases returned
      have points : ¬ AnyPage cfg s (s.entry page e) ref := not_pointsTo absent ref
      rw [one_true, one, if_neg points]
      exact (BitVec.add_zero _).symm

theorem setupPtdL1_counters {pAddr : XmU32} (returned : setupPtdL1 cfg pAddr s = .ok s')
    : SameCounters s s' := by
  obtain ⟨⟨done, cloned⟩, clone, returned⟩ := bind_eq_ok.mp returned
  cases returned
  refine forEntries_keeps (R := SameCounters) (fun _ _ => rfl)
    (fun _ _ _ first second ref => (second ref).trans (first ref)) ?_ clone
  intro e t done t' returned ref
  obtain ⟨addr, _, returned⟩ := bind_eq_ok.mp returned
  cases returned
  rfl

theorem setPPagTypeHndl_counts {type : PPagType} {pAddr : XmU32}
    (returned : setPPagTypeHndl cfg type pAddr s = .ok s') (ref : PageRef)
    : Adds (setCounts cfg s pAddr ref type) (s.page ref).counter (s'.page ref).counter := by
  cases type with
  | std | ptdL3 =>
      cases returned
      exact adds_zero _
  | ptdL1 =>
      simp only [setPPagTypeHndl] at returned
      simp only [setCounts]
      obtain ⟨⟨done, checked⟩, loop, returned⟩ := bind_eq_ok.mp returned
      have inside : ∀ e ∈ List.range userPtdEntries, e < PTDL2ENTRIES := fun e member =>
        Nat.lt_of_lt_of_le (List.mem_range.mp member) userPtdEntries_le
      have rounds : ∀ e ∈ List.range userPtdEntries, ∀ s done s',
          setPtdEntry cfg pAddr e s = .ok (done, s') →
          RoundSettles (UnfoundPtd cfg) (SettlesPtd cfg) pAddr e s done s'
            ∧ ∀ ref, Adds (one (done = true ∧ TablePage cfg s (s.entry pAddr e) ref))
              (s.page ref).counter (s'.page ref).counter := by
        intro e member s done s' round
        exact ⟨setPtdEntry_settles (inside e member) round, setPtdEntry_counts round⟩
      have counted := forEntries_counts adds_zero adds_add rounds
        (fun _ _ _ _ => tablePage_congr) inside List.nodup_range loop ref
      dsimp only at returned
      split at returned
      · have cloned := setupPtdL1_counters returned ref
        unfold Adds at counted ⊢
        exact cloned.trans counted
      · cases returned
        exact counted
  | ptdL2 =>
      simp only [setPPagTypeHndl] at returned
      obtain ⟨done, loop⟩ := map_snd_eq_ok.mp returned
      have inside : ∀ e ∈ List.range PTDL2ENTRIES, e < PTDL2ENTRIES := fun e =>
        List.mem_range.mp
      have rounds : ∀ e ∈ List.range PTDL2ENTRIES, ∀ s done s',
          setPteEntry cfg pAddr e s = .ok (done, s') →
          RoundSettles (Unfound cfg) (Settles cfg) pAddr e s done s'
            ∧ ∀ ref, Adds (one (done = true ∧ AnyPage cfg s (s.entry pAddr e) ref))
              (s.page ref).counter (s'.page ref).counter := by
        intro e member s done s' round
        exact ⟨(setPteEntry_sets (inside e member) round).round, setPteEntry_counts round⟩
      simp only [setCounts]
      have counted := forEntries_counts adds_zero adds_add rounds (fun _ _ _ _ _ => Iff.rfl)
        inside List.nodup_range loop ref
      exact counted

/-- What `SetPageTypeSys` does to the counters. -/
theorem retypePage_counts {pAddr : XmU32} {type : PPagType} {page : PageRef} {ret : XmRet}
    (changes : type ≠ (s.page page).type) (unused : (s.page page).counter = 0)
    (returned : retypePage cfg pAddr type page s = .ok (ret, s')) (ref : PageRef)
    : ∃ mid : BitVec 27,
        mid.toNat + unsetDrops cfg s pAddr ref (s.page page).type = (s.page ref).counter.toNat
          ∧ Adds (setCounts cfg s pAddr ref type) mid (s'.page ref).counter := by
  unfold retypePage at returned
  rw [if_neg changes, if_neg (not_not.mpr unused)] at returned
  obtain ⟨unset, unsets, returned⟩ := bind_eq_ok.mp returned
  obtain ⟨set, sets, returned⟩ := bind_eq_ok.mp returned
  cases returned
  have untouched := unsetPPagTypeHndl_untouched unsets
  refine ⟨(unset.page ref).counter, unsetPPagTypeHndl_counts unsets ref, ?_⟩
  have words : ∀ e, unset.entry pAddr e = s.entry pAddr e := fun e => untouched.word _
  have same : setCounts cfg unset pAddr ref type = setCounts cfg s pAddr ref type := by
    cases type with
    | std | ptdL3 => rfl
    | ptdL1 =>
        simp only [setCounts]
        exact reached_congr (fun e _ => words e) fun entry => tablePage_congr untouched.types
    | ptdL2 =>
        simp only [setCounts]
        exact reached_congr (fun e _ => words e) fun entry => Iff.rfl
  have counted := setPPagTypeHndl_counts sets ref
  rw [same] at counted
  have typed : (set.setPage page { set.page page with type }).page ref
      = if PageRef.SamePage ref page then { set.page page with type } else set.page ref :=
    setPage_page set page ref _
  rw [typed]
  split
  · next own => rwa [page_congr set own] at counted
  · exact counted

end Handlers

section Reached

variable {stops : XmU32 → Prop} [DecidablePred stops] {counts : State → XmU32 → PageRef → Prop}
  [∀ s entry ref, Decidable (counts s entry ref)] {s : State} {page : XmU32} {ref : PageRef}

/-- No more entries count than there are. -/
theorem reached_le (entries : List Nat)
    : reached stops counts s page ref entries
      ≤ entries.countP fun e => decide (counts s (s.entry page e) ref) := by
  induction entries with
  | nil => rfl
  | cons e rest ih =>
      rw [reached, List.countP_cons]
      split
      · exact Nat.zero_le _
      · unfold one
        simp only [decide_eq_true_eq]
        omega

/-- All entries count when none does from the one on at which the loop gives up. -/
theorem reached_eq {n : Nat}
    (rest : ∀ e < n, stops (s.entry page e) →
      ∀ b < n, e ≤ b → ¬ counts s (s.entry page b) ref)
    : reached stops counts s page ref (List.range n)
      = (List.range n).countP fun e => decide (counts s (s.entry page e) ref) := by
  have sublists (entries : List Nat) (sorted : entries.Pairwise (· < ·))
      (inside : ∀ e ∈ entries, e < n)
      : reached stops counts s page ref entries
        = entries.countP fun e => decide (counts s (s.entry page e) ref) := by
    induction entries with
    | nil => rfl
    | cons e later ih =>
        have low := inside e List.mem_cons_self
        rw [reached]
        split
        · next stop =>
            symm
            rw [List.countP_eq_zero]
            intro b member
            rw [decide_eq_true_eq]
            refine rest e low stop b (inside b member) ?_
            rcases List.mem_cons.mp member with rfl | member
            · exact Nat.le_refl b
            · exact Nat.le_of_lt (List.rel_of_pairwise_cons sorted member)
        · rw [List.countP_cons, ih (List.pairwise_cons.mp sorted).2
            (fun b member => inside b (List.mem_cons_of_mem _ member))]
          unfold one
          simp only [decide_eq_true_eq]
          omega
  exact sublists _ List.pairwise_lt_range fun e => List.mem_range.mp

end Reached

end XtratuM.Mmu
