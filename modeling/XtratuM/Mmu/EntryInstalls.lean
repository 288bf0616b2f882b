import XtratuM.Library.BitMasks
import XtratuM.Mmu.PageUpdates

/-! The two ways in which an entry gets into a second level table: with the page that becomes one,
and by an update of one that there is.
-/

namespace XtratuM.Mmu

open BitMasks
open UserPages

/-- Entry `e` of the table at `page`. -/
def entryAt (page : XmU32) (e : Nat) : XmU32 := page + BitVec.ofNat 32 (4 * e)

def State.entry (s : State) (page : XmU32) (e : Nat) : XmU32 := s.word (entryAt page e)

/-- The two words grant the same rights on the same page. -/
structure SameRights (word other : XmU32) : Prop where
  present : word &&& _PG_ARCH_PRESENT = other &&& _PG_ARCH_PRESENT
  user : word &&& _PG_ARCH_USER = other &&& _PG_ARCH_USER
  writable : word &&& _PG_ARCH_RW = other &&& _PG_ARCH_RW
  cacheable : word &&& _PG_ARCH_PCD = other &&& _PG_ARCH_PCD
  address : getAddr word = getAddr other

/-- `SetPte` gives up at the entry: there is no memory of the partition at its address. -/
def Unfound (cfg : MmuConfig) (entry : XmU32) : Prop :=
  IsPresent entry ∧ findSetTarget cfg (getAddr entry) = .ok none

/-- What `SetPte` leaves of an entry that it comes to. -/
def Settles (cfg : MmuConfig) (s : State) (entry new : XmU32) : Prop :=
  (¬ IsPresent entry ∧ new = entry)
    ∨ (IsPresent entry ∧ ∃ target, findSetTarget cfg (getAddr entry) = .ok (some target)
      ∧ new = checkedPte target (target.type s) entry)

-----------------------------------------------------------------------------------------
-- Words and types

@[simp] theorem pPagIncCounter_word (ref : PageRef) (s : State) (addr : XmU32)
    : (pPagIncCounter ref s).word addr = s.word addr :=
  rfl

@[simp] theorem setPage_word (s : State) (ref : PageRef) (page : PhysPage) (addr : XmU32)
    : (s.setPage ref page).word addr = s.word addr :=
  rfl

@[simp] theorem setWord_page (s : State) (addr value : XmU32) (ref : PageRef)
    : (s.setWord addr value).page ref = s.page ref :=
  rfl

@[simp] theorem setWord_word (s : State) (addr value : XmU32)
    : (s.setWord addr value).word addr = value :=
  WordMemory.word_setWord s.byte addr value

/-- The two names are of one page. -/
def PageRef.SamePage (ref other : PageRef) : Prop :=
  ref.region = other.region ∧ ref.page = other.page

instance (ref other : PageRef) : Decidable (PageRef.SamePage ref other) :=
  inferInstanceAs (Decidable (_ ∧ _))

theorem setPage_page (s : State) (ref other : PageRef) (page : PhysPage)
    : (s.setPage ref page).page other
      = if PageRef.SamePage other ref then page else s.page other :=
  rfl

/-- No page changes its type. -/
def SameTypes (s s' : State) : Prop := ∀ ref, (s'.page ref).type = (s.page ref).type

theorem SameTypes.refl (s : State) : SameTypes s s := fun _ => rfl

theorem SameTypes.trans {s s' s'' : State} (first : SameTypes s s') (second : SameTypes s' s'')
    : SameTypes s s'' :=
  fun ref => (second ref).trans (first ref)

theorem setWord_sameTypes (s : State) (addr value : XmU32) : SameTypes s (s.setWord addr value) :=
  fun _ => rfl

/-- A page whose counter alone changes. -/
theorem setPage_sameTypes {s : State} {ref : PageRef} {page : PhysPage}
    (type : page.type = (s.page ref).type)
    : SameTypes s (s.setPage ref page) := by
  intro other
  rw [setPage_page]
  split
  · next same =>
      rw [type]
      simp only [State.page, same.1, same.2]
  · rfl

theorem pPagIncCounter_sameTypes (ref : PageRef) (s : State)
    : SameTypes s (pPagIncCounter ref s) :=
  setPage_sameTypes rfl

theorem SameTypes.target {s s' : State} (same : SameTypes s s') (target : PteTarget)
    : target.type s' = target.type s := by
  unfold PteTarget.type
  cases target.page with
  | none => rfl
  | some page => exact congrArg some (same page)

/-- The words are those of the other state and the types too. -/
structure Untouched (s s' : State) : Prop where
  byte : s'.byte = s.byte
  types : SameTypes s s'

theorem Untouched.refl (s : State) : Untouched s s where
  byte := rfl
  types := .refl s

theorem Untouched.trans {s s' s'' : State} (first : Untouched s s') (second : Untouched s' s'')
    : Untouched s s'' where
  byte := second.byte.trans first.byte
  types := first.types.trans second.types

theorem Untouched.word {s s' : State} (untouched : Untouched s s') (addr : XmU32)
    : s'.word addr = s.word addr := by
  rw [State.word, untouched.byte]
  rfl

theorem pPagDecCounter_untouched {ref : PageRef} {s s' : State}
    (returned : pPagDecCounter ref s = .ok s')
    : Untouched s s' := by
  unfold pPagDecCounter at returned
  split at returned
  · cases returned
  · cases returned
    exact { byte := rfl, types := setPage_sameTypes rfl }

theorem releasePage_untouched {isValid : PPagType → Bool} {ref : PageRef} {s s' : State}
    (returned : releasePage isValid ref s = .ok s')
    : Untouched s s' := by
  obtain ⟨_, _, returned⟩ := bind_eq_ok.mp returned
  obtain ⟨_, _, returned⟩ := bind_eq_ok.mp returned
  exact pPagDecCounter_untouched returned

-----------------------------------------------------------------------------------------
-- Loops

/-- What every round keeps, the loop keeps. Witness: induction on the entries. -/
theorem forEntries_keeps {round : Nat → State → Except Stop (Bool × State)}
    {R : State → State → Prop} (refl : ∀ s, R s s) (trans : ∀ s s' s'', R s s' → R s' s'' → R s s'')
    (keep : ∀ e s done s', round e s = .ok (done, s') → R s s')
    {entries : List Nat} {s s' : State} {done : Bool}
    (returned : forEntries round entries s = .ok (done, s'))
    : R s s' := by
  induction entries generalizing s with
  | nil =>
      cases returned
      exact refl _
  | cons e rest ih =>
      obtain ⟨⟨goesOn, next⟩, first, returned⟩ := bind_eq_ok.mp returned
      have kept := keep e s goesOn next first
      cases goesOn with
      | true => exact trans _ _ _ kept (ih returned)
      | false =>
          cases returned
          exact kept

theorem unsetEntry_untouched {cfg : MmuConfig} {isValid : PPagType → Bool} {pAddr : XmU32}
    {e : Nat} {s s' : State} {done : Bool}
    (returned : unsetEntry cfg isValid pAddr e s = .ok (done, s'))
    : Untouched s s' := by
  obtain ⟨addr, _, returned⟩ := bind_eq_ok.mp returned
  split at returned
  · obtain ⟨found, _, returned⟩ := bind_eq_ok.mp returned
    cases found with
    | none =>
        cases returned
        exact .refl s
    | some page =>
        obtain ⟨released, release, returned⟩ := bind_eq_ok.mp returned
        cases returned
        exact releasePage_untouched release
  · cases returned
    exact .refl s

/-- What a page was is given up without a write. -/
theorem unsetPPagTypeHndl_untouched {cfg : MmuConfig} {old : PPagType} {pAddr : XmU32}
    {s s' : State} (returned : unsetPPagTypeHndl cfg old pAddr s = .ok s')
    : Untouched s s' := by
  have loop (isValid : PPagType → Bool) (entries : List Nat)
      (returned : (forEntries (unsetEntry cfg isValid pAddr) entries s).map Prod.snd = .ok s')
      : Untouched s s' := by
    obtain ⟨done, ran⟩ := map_snd_eq_ok.mp returned
    exact forEntries_keeps Untouched.refl (fun _ _ _ => Untouched.trans)
      (fun _ _ _ _ => unsetEntry_untouched) ran
  unfold unsetPPagTypeHndl at returned
  cases old with
  | ptdL1 => exact loop isValidPtdEntry (List.range userPtdEntries) returned
  | ptdL2 => exact loop (fun _ => true) (List.range PTDL2ENTRIES) returned
  | std | ptdL3 =>
      cases returned
      exact .refl s

-----------------------------------------------------------------------------------------
-- Entries of a page

theorem entryAddr_eq_ok {page addr : XmU32} {e : Nat} (inPage : entryAddr page e = .ok addr)
    : addr = entryAt page e := by
  unfold entryAddr at inPage
  split at inPage
  · exact (Except.ok.inj inPage).symm
  · cases inPage

/-- The entries of a table share no byte. -/
theorem setWord_entry_other (s : State) (page value : XmU32) {e e' : Nat}
    (inside : e < PTDL2ENTRIES) (inside' : e' < PTDL2ENTRIES) (apart : e' ≠ e)
    : (s.setWord (entryAt page e) value).entry page e' = s.entry page e' := by
  have distance {i j : Nat} (small : i < 1024) (small' : j < 1024) (different : i ≠ j)
      : 4 ≤ (entryAt page i - entryAt page j).toNat := by
    rw [entryAt, entryAt, add_sub_add_left_eq_sub, BitVec.toNat_sub, BitVec.toNat_ofNat,
      BitVec.toNat_ofNat]
    omega
  exact WordMemory.word_setWord_other (distance inside' inside apart)
    (distance inside inside' apart.symm)

/-- A round that looks at its own entry alone: it settles it, or it gives up. -/
structure RoundSettles (stops : XmU32 → Prop) (settles : State → XmU32 → XmU32 → Prop)
    (page : XmU32) (e : Nat) (s : State) (done : Bool) (s' : State) : Prop where
  types : SameTypes s s'
  others : ∀ e' < PTDL2ENTRIES, e' ≠ e → s'.entry page e' = s.entry page e'
  entry : (done = true ∧ ¬ stops (s.entry page e)
      ∧ settles s (s.entry page e) (s'.entry page e))
    ∨ (done = false ∧ stops (s.entry page e) ∧ s'.entry page e = s.entry page e)

/-- What a loop of such rounds makes of entry `e` when those at `before` came first: it settles it,
unless one of them or the entry itself made it give up.
-/
def LoopSettles (stops : XmU32 → Prop) (settles : State → XmU32 → XmU32 → Prop) (page : XmU32)
    (before : List Nat) (e : Nat) (s s' : State) : Prop :=
  ((∀ b ∈ before ++ [e], ¬ stops (s.entry page b))
      ∧ settles s (s.entry page e) (s'.entry page e))
    ∨ ((∃ b ∈ before ++ [e], stops (s.entry page b)) ∧ s'.entry page e = s.entry page e)

/-- Witness: induction on the entries. -/
theorem forEntries_settles {round : Nat → State → Except Stop (Bool × State)}
    {stops : XmU32 → Prop} {settles : State → XmU32 → XmU32 → Prop} {page : XmU32}
    {entries : List Nat} (rounds : ∀ e ∈ entries, ∀ s done s', round e s = .ok (done, s') →
      RoundSettles stops settles page e s done s')
    (congr : ∀ s s' entry new, SameTypes s s' → settles s' entry new → settles s entry new)
    (inside : ∀ e ∈ entries, e < PTDL2ENTRIES) (once : entries.Nodup) {s s' : State} {done : Bool}
    (returned : forEntries round entries s = .ok (done, s'))
    : SameTypes s s'
      ∧ (∀ e, e < PTDL2ENTRIES → e ∉ entries → s'.entry page e = s.entry page e)
      ∧ ∀ before e after, entries = before ++ e :: after →
        LoopSettles stops settles page before e s s' := by
  induction entries generalizing s with
  | nil =>
      cases returned
      refine ⟨.refl _, fun _ _ _ => rfl, ?_⟩
      intro before e after split
      simp at split
  | cons first rest ih =>
      obtain ⟨⟨goesOn, next⟩, round, returned⟩ := bind_eq_ok.mp returned
      have room := inside first List.mem_cons_self
      have sets := rounds first List.mem_cons_self s goesOn next round
      have fresh := (List.nodup_cons.mp once).1
      have kept := sets.others
      cases goesOn with
      | false =>
          cases returned
          obtain ⟨stop, same⟩ : stops (s.entry page first)
              ∧ next.entry page first = s.entry page first := by
            rcases sets.entry with ⟨goes, _⟩ | ⟨_, stopped⟩
            · cases goes
            · exact stopped
          refine ⟨sets.types, ?_, ?_⟩
          · intro e small outside
            exact kept e small fun here => outside (here ▸ List.mem_cons_self)
          · intro before e after split
            cases before with
            | nil =>
                cases split
                exact Or.inr ⟨⟨_, List.mem_cons_self, stop⟩, same⟩
            | cons b before =>
                cases split
                refine Or.inr ⟨⟨_, List.mem_cons_self, stop⟩, ?_⟩
                have member : e ∈ before ++ e :: after :=
                  List.mem_append_right _ List.mem_cons_self
                exact kept e (inside e (List.mem_cons_of_mem _ member))
                  fun here => fresh (here ▸ member)
      | true =>
          obtain ⟨types, outside, inner⟩ := ih
            (fun e member => rounds e (List.mem_cons_of_mem _ member))
            (fun e member => inside e (List.mem_cons_of_mem _ member))
            (List.nodup_cons.mp once).2 returned
          obtain ⟨goes, settled⟩ : ¬ stops (s.entry page first)
              ∧ settles s (s.entry page first) (next.entry page first) := by
            rcases sets.entry with ⟨_, settled⟩ | ⟨stops, _⟩
            · exact settled
            · cases stops
          refine ⟨sets.types.trans types, ?_, ?_⟩
          · intro e small other
            rw [List.mem_cons, not_or] at other
            rw [outside e small other.2, kept e small other.1]
          · intro before e after split
            cases before with
            | nil =>
                cases split
                have same := outside first room fresh
                refine Or.inl ⟨?_, by rwa [same]⟩
                simpa using goes
            | cons b before =>
                cases split
                have early : ∀ b ∈ before ++ [e], next.entry page b = s.entry page b := by
                  intro b member
                  have later : b ∈ before ++ e :: after := by
                    rcases List.mem_append.mp member with earlier | here
                    · exact List.mem_append_left _ earlier
                    · rw [List.mem_singleton.mp here]
                      exact List.mem_append_right _ List.mem_cons_self
                  exact kept b (inside b (List.mem_cons_of_mem _ later))
                    fun here => fresh (here ▸ later)
                have own := early e (List.mem_append_right _ List.mem_cons_self)
                rcases inner before e after rfl with ⟨found, later⟩ | ⟨⟨b, member, stop⟩, same⟩
                · refine Or.inl ⟨?_, ?_⟩
                  · intro b member
                    rcases List.mem_cons.mp member with rfl | member
                    · exact goes
                    · rw [← early b member]
                      exact found b member
                  · rw [← own]
                    exact congr _ _ _ _ sets.types later
                · refine Or.inr ⟨⟨b, List.mem_cons_of_mem _ member, ?_⟩, same.trans own⟩
                  rwa [← early b member]

/-- A round of `SetPte` on a page: it settles its entry, or it finds nothing there and gives up. -/
structure SetsPte (cfg : MmuConfig) (page : XmU32) (e : Nat) (s : State) (done : Bool)
    (s' : State) : Prop where
  types : SameTypes s s'
  others : ∀ e' < PTDL2ENTRIES, e' ≠ e → s'.entry page e' = s.entry page e'
  entry : (done = true ∧ Settles cfg s (s.entry page e) (s'.entry page e))
    ∨ (done = false ∧ Unfound cfg (s.entry page e) ∧ s'.entry page e = s.entry page e)

theorem setPteEntry_sets {cfg : MmuConfig} {page : XmU32} {e : Nat} (inside : e < PTDL2ENTRIES)
    {s s' : State} {done : Bool} (returned : setPteEntry cfg page e s = .ok (done, s'))
    : SetsPte cfg page e s done s' := by
  obtain ⟨addr, inPage, returned⟩ := bind_eq_ok.mp returned
  cases entryAddr_eq_ok inPage
  dsimp only at returned
  split at returned
  · next present =>
      obtain ⟨found, search, returned⟩ := bind_eq_ok.mp returned
      cases found with
      | none =>
          cases returned
          exact
            { types := .refl s
              others := fun _ _ _ => rfl
              entry := Or.inr ⟨rfl, ⟨present, search⟩, rfl⟩ }
      | some target =>
          cases onPage : target.page with
          | none =>
              simp only [onPage] at returned
              cases returned
              exact
                { types := setWord_sameTypes s _ _
                  others := fun _ inside' => setWord_entry_other s page _ inside inside'
                  entry := Or.inl
                    ⟨rfl, Or.inr ⟨present, target, search, setWord_word s _ _⟩⟩ }
          | some ref =>
              simp only [onPage] at returned
              cases returned
              exact
                { types := (pPagIncCounter_sameTypes ref s).trans (setWord_sameTypes _ _ _)
                  others := fun _ inside' => setWord_entry_other _ page _ inside inside'
                  entry := Or.inl
                    ⟨rfl, Or.inr ⟨present, target, search, setWord_word _ _ _⟩⟩ }
  · next absent =>
      cases returned
      exact
        { types := .refl s
          others := fun _ _ _ => rfl
          entry := Or.inl ⟨rfl, Or.inl ⟨absent, rfl⟩⟩ }

theorem Settles.congr {cfg : MmuConfig} {s s' : State} {entry new : XmU32}
    (types : SameTypes s s') (settles : Settles cfg s' entry new)
    : Settles cfg s entry new := by
  rcases settles with absent | ⟨present, target, search, rfl⟩
  · exact Or.inl absent
  · exact Or.inr ⟨present, target, search, by rw [types.target]⟩

theorem Settles.found {cfg : MmuConfig} {s : State} {entry new : XmU32}
    (settles : Settles cfg s entry new)
    : ¬ Unfound cfg entry := by
  rintro ⟨present, missing⟩
  rcases settles with ⟨absent, _⟩ | ⟨_, target, search, _⟩
  · exact absent present
  · cases missing.symm.trans search

theorem SetsPte.round {cfg : MmuConfig} {page : XmU32} {e : Nat} {s s' : State} {done : Bool}
    (sets : SetsPte cfg page e s done s')
    : RoundSettles (Unfound cfg) (Settles cfg) page e s done s' where
  types := sets.types
  others := sets.others
  entry := sets.entry.imp_left fun ⟨goes, settles⟩ => ⟨goes, settles.found, settles⟩

theorem forEntries_installs {cfg : MmuConfig} {page : XmU32} {entries : List Nat}
    (inside : ∀ e ∈ entries, e < PTDL2ENTRIES) (once : entries.Nodup) {s s' : State} {done : Bool}
    (returned : forEntries (setPteEntry cfg page) entries s = .ok (done, s'))
    : SameTypes s s'
      ∧ (∀ e, e < PTDL2ENTRIES → e ∉ entries → s'.entry page e = s.entry page e)
      ∧ ∀ before e after, entries = before ++ e :: after →
        LoopSettles (Unfound cfg) (Settles cfg) page before e s s' := by
  have rounds : ∀ e ∈ entries, ∀ s done s', setPteEntry cfg page e s = .ok (done, s') →
      RoundSettles (Unfound cfg) (Settles cfg) page e s done s' := by
    intro e member s done s' round
    exact (setPteEntry_sets (inside e member) round).round
  exact forEntries_settles rounds (fun _ _ _ _ => Settles.congr) inside once returned

-----------------------------------------------------------------------------------------
-- Bits of entries

theorem present_bit : IsBit _PG_ARCH_PRESENT 0 := ⟨by decide, by decide⟩
theorem rw_bit : IsBit _PG_ARCH_RW 1 := ⟨by decide, by decide⟩
theorem user_bit : IsBit _PG_ARCH_USER 2 := ⟨by decide, by decide⟩
theorem pcd_bit : IsBit _PG_ARCH_PCD 4 := ⟨by decide, by decide⟩
theorem attrPresent_bit : IsBit _PG_ATTR_PRESENT 16 := ⟨by decide, by decide⟩
theorem attrUser_bit : IsBit _PG_ATTR_USER 17 := ⟨by decide, by decide⟩
theorem attrRw_bit : IsBit _PG_ATTR_RW 18 := ⟨by decide, by decide⟩
theorem attrCached_bit : IsBit _PG_ATTR_CACHED 19 := ⟨by decide, by decide⟩

theorem pageOffset_getLsbD (i : Nat) : (PAGE_SIZE - 1 : XmU32).getLsbD i = decide (i < 12) := by
  by_cases inside : i < 32
  · have bits : ∀ i : Fin 32, (PAGE_SIZE - 1 : XmU32).getLsbD i = decide (i.val < 12) := by decide
    exact bits ⟨i, inside⟩
  · simp only [BitVec.getLsbD_of_ge _ _ (Nat.le_of_not_lt inside)]
    simp; omega

theorem pageMask_getLsbD {i : Nat} (inside : i < 32) : PAGE_MASK.getLsbD i = decide (12 ≤ i) := by
  rw [PAGE_MASK, BitVec.getLsbD_not, pageOffset_getLsbD]
  simp [inside]
  grind

theorem getAddr_getLsbD (entry : XmU32) {i : Nat} (inside : i < 32)
    : (getAddr entry).getLsbD i = (entry.getLsbD i && decide (12 ≤ i)) := by
  rw [getAddr, BitVec.getLsbD_and, pageMask_getLsbD inside]

theorem vmArchAttr2Attr_getLsbD (val : XmU32) {i : Nat} (inside : i < 32)
    : (vmArchAttr2Attr val).getLsbD i =
      (decide (i = 16) && val.getLsbD 0 || decide (i = 17) && val.getLsbD 2
        || decide (i = 18) && val.getLsbD 1 || decide (i = 19) && !val.getLsbD 4
        || decide (i < 12 ∧ i ≠ 0 ∧ i ≠ 1 ∧ i ≠ 2 ∧ i ≠ 4) && val.getLsbD i) := by
  have uncached : val &&& (PAGE_SIZE - 1) &&& _PG_ARCH_PCD = 0 ↔ ¬ val.getLsbD 4 = true := by
    rw [← not_ne_iff, pcd_bit.and_ne_zero, BitVec.getLsbD_and, pageOffset_getLsbD]
    simp
  simp only [vmArchAttr2Attr, present_bit.and_ne_zero, user_bit.and_ne_zero, rw_bit.and_ne_zero,
    uncached, BitVec.getLsbD_or, getLsbD_ite, BitVec.getLsbD_and, BitVec.getLsbD_not,
    pageOffset_getLsbD, present_bit.getLsbD, user_bit.getLsbD, rw_bit.getLsbD, pcd_bit.getLsbD,
    attrPresent_bit.getLsbD, attrUser_bit.getLsbD, attrRw_bit.getLsbD, attrCached_bit.getLsbD]
  interval_cases i <;> simp

theorem vmAttr2ArchAttr_getLsbD (attr : XmU32) {i : Nat} (inside : i < 32)
    : (vmAttr2ArchAttr attr).getLsbD i =
      (decide (i = 0) && attr.getLsbD 16 || decide (i = 2) && attr.getLsbD 17
        || decide (i = 1) && attr.getLsbD 18 || decide (i = 4) && !attr.getLsbD 19
        || decide (i < 16) && attr.getLsbD i) := by
  have uncached : attr &&& _PG_ATTR_CACHED = 0 ↔ ¬ attr.getLsbD 19 = true := by
    rw [← not_ne_iff, attrCached_bit.and_ne_zero]
  have low : ∀ i : Fin 32, (0xffff : XmU32).getLsbD i = decide (i.val < 16) := by decide
  have low := low ⟨i, inside⟩
  simp only [vmAttr2ArchAttr, attrPresent_bit.and_ne_zero, attrUser_bit.and_ne_zero,
    attrRw_bit.and_ne_zero, uncached, BitVec.getLsbD_or, getLsbD_ite, BitVec.getLsbD_and, low,
    present_bit.getLsbD, user_bit.getLsbD, rw_bit.getLsbD, pcd_bit.getLsbD]
  interval_cases i <;> simp

/-- What an entry for the target has to be read-only for. -/
def ReadOnly (target : PteTarget) (type : Option PPagType) : Prop :=
  target.areaFlags &&& XM_MEM_AREA_READONLY ≠ 0
    ∨ (match type with
      | some type => type ≠ .std
      | none => target.isPCtrlTab = true)

instance (target : PteTarget) (type : Option PPagType) : Decidable (ReadOnly target type) :=
  match type with
  | some _ => inferInstanceAs (Decidable (_ ∨ _ ≠ _))
  | none => inferInstanceAs (Decidable (_ ∨ _ = _))

def Uncacheable (target : PteTarget) : Prop :=
  target.areaFlags &&& XM_MEM_AREA_UNCACHEABLE ≠ 0

instance (target : PteTarget) : Decidable (Uncacheable target) :=
  inferInstanceAs (Decidable (_ ≠ _))

/-- What `SetPte` finds is in the areas of the partition. -/
theorem checkedPte_getLsbD {target : PteTarget} (inArea : target.isPCtrlTab = false)
    (type : Option PPagType) (val : XmU32) {i : Nat} (inside : i < 32)
    : (checkedPte target type val).getLsbD i
      = (val.getLsbD i && !(decide (i = 1) && decide (ReadOnly target type))
        && !(decide (i = 4) && decide (Uncacheable target))) := by
  cases type <;>
    simp only [checkedPte, setPteROnly, setPteUncached, ReadOnly, Uncacheable, getLsbD_ite,
      rw_bit.getLsbD_clear _ inside, pcd_bit.getLsbD_clear _ inside] <;>
    grind

/-- The attributes that `UpdatePte` leaves. -/
def checkedAttr (target : PteTarget) (type : Option PPagType) (attr : XmU32) : XmU32 :=
  let attr :=
    if target.areaFlags &&& XM_MEM_AREA_READONLY ≠ 0 then attr &&& ~~~_PG_ATTR_RW else attr
  let attr :=
    if target.areaFlags &&& XM_MEM_AREA_UNCACHEABLE ≠ 0 then
      attr &&& ~~~_PG_ATTR_CACHED
    else attr
  match type with
  | some type => if type ≠ .std then attr &&& ~~~_PG_ATTR_RW else attr
  | none => if target.isPCtrlTab then attr &&& ~~~_PG_ATTR_RW else attr

theorem checkedAttr_getLsbD (target : PteTarget) (type : Option PPagType) (attr : XmU32) {i : Nat}
    (inside : i < 32)
    : (checkedAttr target type attr).getLsbD i
      = (attr.getLsbD i && !(decide (i = 18) && decide (ReadOnly target type))
        && !(decide (i = 19) && decide (Uncacheable target))) := by
  cases type <;>
    simp only [checkedAttr, ReadOnly, Uncacheable, getLsbD_ite, attrRw_bit.getLsbD_clear _ inside,
      attrCached_bit.getLsbD_clear _ inside] <;>
    grind

theorem newPte_getLsbD (target : PteTarget) (type : Option PPagType) (val : XmU32) {i : Nat}
    (inside : i < 32) (kind : i = 0 ∨ i = 1 ∨ i = 2 ∨ i = 4 ∨ 12 ≤ i)
    : (newPte target type val).getLsbD i
      = ((val.getLsbD i && !(decide (i = 1) && decide (ReadOnly target type)))
        || (decide (i = 4) && decide (Uncacheable target))) := by
  have split : newPte target type val
      = (val &&& PAGE_MASK) ||| vmAttr2ArchAttr (checkedAttr target type (vmArchAttr2Attr val)) :=
    rfl
  rw [split, BitVec.getLsbD_or, BitVec.getLsbD_and, pageMask_getLsbD inside,
    vmAttr2ArchAttr_getLsbD _ inside,
    checkedAttr_getLsbD _ _ _ inside, checkedAttr_getLsbD _ _ _ (by decide),
    checkedAttr_getLsbD _ _ _ (by decide), checkedAttr_getLsbD _ _ _ (by decide),
    checkedAttr_getLsbD _ _ _ (by decide), vmArchAttr2Attr_getLsbD _ inside,
    vmArchAttr2Attr_getLsbD _ (by decide), vmArchAttr2Attr_getLsbD _ (by decide),
    vmArchAttr2Attr_getLsbD _ (by decide), vmArchAttr2Attr_getLsbD _ (by decide)]
  grind

theorem sameRights_iff {word other : XmU32}
    : SameRights word other
      ↔ ∀ i < 32, i = 0 ∨ i = 1 ∨ i = 2 ∨ i = 4 ∨ 12 ≤ i → word.getLsbD i = other.getLsbD i := by
  constructor
  · intro same i inside kind
    rcases kind with rfl | rfl | rfl | rfl | address
    · exact (present_bit.and_eq word other).mp same.present
    · exact (rw_bit.and_eq word other).mp same.writable
    · exact (user_bit.and_eq word other).mp same.user
    · exact (pcd_bit.and_eq word other).mp same.cacheable
    · have both := congrArg (BitVec.getLsbD · i) same.address
      simpa [getAddr_getLsbD _ inside, address] using both
  · intro same
    exact
      { present := (present_bit.and_eq word other).mpr (same 0 (by decide) (by decide))
        user := (user_bit.and_eq word other).mpr (same 2 (by decide) (by decide))
        writable := (rw_bit.and_eq word other).mpr (same 1 (by decide) (by decide))
        cacheable := (pcd_bit.and_eq word other).mpr (same 4 (by decide) (by decide))
        address := by
          apply BitVec.eq_of_getLsbD_eq
          intro i inside
          rw [getAddr_getLsbD word inside, getAddr_getLsbD other inside]
          by_cases address : 12 ≤ i
          · rw [same i inside (by omega)]
          · simp [address] }

/-- When the entries that both ways check get the same rights: `SetPte` clears the bit that disables
the cache and `UpdatePte` sets it.
-/
theorem checked_sameRights {target : PteTarget} (inArea : target.isPCtrlTab = false)
    (type : Option PPagType) (target' : PteTarget) (type' : Option PPagType) (val : XmU32)
    : SameRights (checkedPte target type val) (newPte target' type' val)
      ↔ (if val &&& _PG_ARCH_PCD ≠ 0 then ¬ Uncacheable target else ¬ Uncacheable target')
        ∧ (val &&& _PG_ARCH_RW ≠ 0 → (ReadOnly target type ↔ ReadOnly target' type')) := by
  simp only [sameRights_iff, rw_bit.and_ne_zero, pcd_bit.and_ne_zero]
  constructor
  · intro same
    have writable := same 1 (by decide) (by decide)
    have cacheable := same 4 (by decide) (by decide)
    rw [checkedPte_getLsbD inArea _ _ (by decide), newPte_getLsbD _ _ _ (by decide) (by decide)]
      at writable cacheable
    grind
  · rintro ⟨cacheable, writable⟩ i inside kind
    rw [checkedPte_getLsbD inArea _ _ inside, newPte_getLsbD _ _ _ inside kind]
    grind

/-- An entry that is left unchecked has the rights of a checked one exactly when it has nothing to
lose.
-/
theorem unchecked_sameRights (target : PteTarget) (type : Option PPagType) (val : XmU32)
    : SameRights val (newPte target type val)
      ↔ (Uncacheable target → val &&& _PG_ARCH_PCD ≠ 0)
        ∧ (val &&& _PG_ARCH_RW ≠ 0 → ¬ ReadOnly target type) := by
  rw [sameRights_iff, rw_bit.and_ne_zero, pcd_bit.and_ne_zero]
  constructor
  · intro same
    have writable := same 1 (by decide) (by decide)
    have cacheable := same 4 (by decide) (by decide)
    rw [newPte_getLsbD _ _ _ (by decide) (by decide)] at writable cacheable
    grind
  · rintro ⟨cacheable, writable⟩ i inside kind
    rw [newPte_getLsbD _ _ _ inside kind]
    grind

-----------------------------------------------------------------------------------------
-- The two hypercalls

/-- `PmmFindPage` finds a page of the partition at the address. -/
def MmuConfig.Found (cfg : MmuConfig) (addr : XmU32) (ref : PageRef) : Prop :=
  pmmFindPage cfg.tables cfg.partition addr = .ok (some ref)

/-- There is memory of the partition at the address. -/
def MmuConfig.FoundTarget (cfg : MmuConfig) (addr : XmU32) (target : PteTarget) : Prop :=
  findSetTarget cfg addr = .ok (some target)

/-- What `UpdatePte` takes that memory for: it looks for a control table before it looks for an
area without page descriptors.
-/
def updateTarget (cfg : MmuConfig) (vCpuId stack addr : XmU32) (target : PteTarget) : PteTarget :=
  if target.page = none ∧ isPCtrlTabPg cfg vCpuId addr then
    { page := none, isPCtrlTab := true, areaFlags := stack }
  else target

theorem MmuConfig.FoundTarget.inArea {cfg : MmuConfig} {addr : XmU32} {target : PteTarget}
    (found : cfg.FoundTarget addr target)
    : target.isPCtrlTab = false := by
  obtain ⟨page, _, found⟩ := bind_eq_ok.mp found
  cases page with
  | some page =>
      cases found
      rfl
  | none =>
      obtain ⟨area, _, found⟩ := bind_eq_ok.mp found
      obtain ⟨flags, _, rfl⟩ := Option.map_eq_some_iff.mp (Except.ok.inj found)
      rfl

theorem MmuConfig.FoundTarget.update {cfg : MmuConfig} {addr : XmU32} {target : PteTarget}
    (found : cfg.FoundTarget addr target) (vCpuId stack : XmU32)
    : findPteTarget cfg vCpuId stack addr
      = .ok (some (updateTarget cfg vCpuId stack addr target)) := by
  obtain ⟨page, search, found⟩ := bind_eq_ok.mp found
  cases page with
  | some page =>
      cases found
      simp [findPteTarget, search, updateTarget]
      rfl
  | none =>
      obtain ⟨area, areaSearch, found⟩ := bind_eq_ok.mp found
      obtain ⟨flags, rfl, rfl⟩ := Option.map_eq_some_iff.mp (Except.ok.inj found)
      by_cases table : isPCtrlTabPg cfg vCpuId addr = true
      · simp [findPteTarget, search, updateTarget, table]
        rfl
      · simp [findPteTarget, search, updateTarget, table, areaSearch]

theorem range_split {e n : Nat} (inside : e < n)
    : ∃ after, List.range n = List.range e ++ e :: after := by
  induction n with
  | zero => omega
  | succ n ih =>
      rw [List.range_succ]
      by_cases last : e = n
      · exact ⟨[], by rw [last]⟩
      · obtain ⟨after, split⟩ := ih (by omega)
        exact ⟨after ++ [n], by rw [split, List.append_assoc, List.cons_append]⟩

/-- What `SetPageTypeSys` makes of the entries of a page that becomes a second level table. -/
theorem setPageTypeSys_ptdL2 {cfg : MmuConfig} {page : XmU32} {s s' : State}
    (returned : setPageTypeSys cfg page 2 s = .ok (.ok, s'))
    : ∀ e < PTDL2ENTRIES,
      LoopSettles (Unfound cfg) (Settles cfg) page (List.range e) e s s' := by
  have type : pPagTypeOf 2 = some .ptdL2 := rfl
  simp only [setPageTypeSys, type] at returned
  obtain ⟨found, search, returned⟩ := bind_eq_ok.mp returned
  cases found with
  | none => cases returned
  | some ref =>
      simp only [retypePage] at returned
      split at returned
      · cases returned
      · split at returned
        · cases returned
        · obtain ⟨unset, unsets, returned⟩ := bind_eq_ok.mp returned
          obtain ⟨set, sets, returned⟩ := bind_eq_ok.mp returned
          cases returned
          have untouched := unsetPPagTypeHndl_untouched unsets
          simp only [setPPagTypeHndl] at sets
          obtain ⟨done, loop⟩ := map_snd_eq_ok.mp sets
          obtain ⟨_, _, installs⟩ := forEntries_installs (fun e => List.mem_range.mp)
            List.nodup_range loop
          intro e inside
          obtain ⟨after, split⟩ := range_split inside
          have before : ∀ b, unset.entry page b = s.entry page b := fun b => untouched.word _
          have installed := installs _ e after split
          unfold LoopSettles at installed ⊢
          simp only [before] at installed
          rcases installed with ⟨found, settles⟩ | unfound
          · exact Or.inl ⟨found, settles.congr untouched.types⟩
          · exact Or.inr unfound

/-- The word that `UpdatePage32Sys` stores for a present entry in a second level table. -/
theorem updatePage32Sys_stores {cfg : MmuConfig} {vCpuId stack pAddr val : XmU32} {t t' : State}
    {ref : PageRef} {target : PteTarget} (found : cfg.Found pAddr ref)
    (table : (t.page ref).type = .ptdL2) (present : IsPresent val)
    (points : findPteTarget cfg vCpuId stack (getAddr val) = .ok (some target))
    (returned : updatePage32Sys cfg vCpuId stack pAddr val t = .ok (.ok, t'))
    : t'.word pAddr = newPte target (target.type t) val := by
  unfold MmuConfig.Found at found
  unfold updatePage32Sys at returned
  split at returned
  · cases returned
  · simp only [found, ok_bind, updatePPag32Hndl, table] at returned
    obtain ⟨⟨new, updated⟩, update, returned⟩ := bind_eq_ok.mp returned
    cases new with
    | none => cases returned
    | some new =>
        cases returned
        rw [setWord_word]
        obtain ⟨counts, counted⟩ : ∃ counts, countPte cfg vCpuId stack val t
            = .ok (some (newPte target (target.type t) val), counts) := by
          simp only [countPte, if_pos present, points, ok_bind]
          cases target.page with
          | some page => exact ⟨_, rfl⟩
          | none => exact ⟨_, rfl⟩
        simp only [updatePte, counted, ok_bind] at update
        obtain ⟨dropped, _, update⟩ := bind_eq_ok.mp update
        have words := congrArg Prod.fst (Except.ok.inj update)
        simp only at words
        split at words
        · exact (Option.some.inj words).symm
        · cases words

/-- The loop of `SetPte` over the page does not come to entry `e`. -/
def GivesUpBefore (cfg : MmuConfig) (s : State) (page : XmU32) (e : Nat) : Prop :=
  ∃ b < e, Unfound cfg (s.entry page b)

/-- What it takes for both ways to grant the same rights to the target of entry `e` of the page,
which an update in the state `t` takes for `target'`. An entry that `SetPte` comes to must not be
for an uncacheable area, where its macro goes the other way, and, if it is writable, both must see
a target that is read-only or both one that is not: a page that becomes a table and points at
itself still has its old type for `SetPte`. An entry that `SetPte` does not come to must have
nothing to lose.
-/
def InstallsAlike (cfg : MmuConfig) (s : State) (page : XmU32) (e : Nat) (target : PteTarget)
    (t : State) (target' : PteTarget) : Prop :=
  let val := s.entry page e
  let writable := val &&& _PG_ARCH_RW ≠ 0
  (GivesUpBefore cfg s page e →
    (Uncacheable target' → val &&& _PG_ARCH_PCD ≠ 0)
      ∧ (writable → ¬ ReadOnly target' (target'.type t)))
    ∧ (¬ GivesUpBefore cfg s page e →
      (if val &&& _PG_ARCH_PCD ≠ 0 then ¬ Uncacheable target else ¬ Uncacheable target')
        ∧ (writable → (ReadOnly target (target.type s) ↔ ReadOnly target' (target'.type t))))

theorem installs_agree {cfg : MmuConfig} {page : XmU32} {s s' : State}
    (retyped : setPageTypeSys cfg page 2 s = .ok (.ok, s')) {e : Nat}
    (inside : e < PTDL2ENTRIES) (present : IsPresent (s.entry page e)) {target : PteTarget}
    (points : cfg.FoundTarget (getAddr (s.entry page e)) target) {t t' : State}
    {pAddr vCpuId stack : XmU32} {table : PageRef} (inTable : cfg.Found pAddr table)
    (isTable : (t.page table).type = .ptdL2)
    (updated : updatePage32Sys cfg vCpuId stack pAddr (s.entry page e) t = .ok (.ok, t'))
    : SameRights (s'.entry page e) (t'.word pAddr)
      ↔ InstallsAlike cfg s page e target t
          (updateTarget cfg vCpuId stack (getAddr (s.entry page e)) target) := by
  have installs := setPageTypeSys_ptdL2 retyped e inside
  rw [updatePage32Sys_stores inTable isTable present (points.update vCpuId stack) updated]
  generalize updateTarget cfg vCpuId stack (getAddr (s.entry page e)) target = target'
  have target_found : ¬ Unfound cfg (s.entry page e) := by
    rintro ⟨_, missing⟩
    cases missing.symm.trans points
  have givesUp : (∃ b ∈ List.range e ++ [e], Unfound cfg (s.entry page b))
      ↔ GivesUpBefore cfg s page e := by
    simp only [List.mem_append, List.mem_range, List.mem_singleton]
    constructor
    · rintro ⟨b, earlier | rfl, unfound⟩
      · exact ⟨b, earlier, unfound⟩
      · exact absurd unfound target_found
    · rintro ⟨b, earlier, unfound⟩
      exact ⟨b, Or.inl earlier, unfound⟩
  rcases installs with ⟨all, settles⟩ | ⟨stopped, same⟩
  · have goesOn : ¬ GivesUpBefore cfg s page e := by
      rw [← givesUp]
      rintro ⟨b, member, unfound⟩
      exact all b member unfound
    rcases settles with ⟨absent, _⟩ | ⟨_, target'', search, new⟩
    · exact absurd present absent
    · cases Except.ok.inj (search.symm.trans points)
      rw [new, checked_sameRights points.inArea]
      simp only [InstallsAlike, goesOn, false_imp_iff, not_false_iff, true_imp_iff, true_and]
  · have stops := givesUp.mp stopped
    rw [same, unchecked_sameRights]
    simp only [InstallsAlike, stops, true_imp_iff, not_true, false_imp_iff, and_true]

-----------------------------------------------------------------------------------------
-- A partition with an uncacheable page

/-- An area that is a region in whole. -/
theorem located_whole {tables : MemoryTables} {memArea : XmcMemoryArea} {region : XmcMemoryRegion}
    (entry : tables.xmcMemRegTab[memArea.memoryRegionOffset]? = some region)
    (start : region.startAddr = memArea.startAddr) (size : region.size = memArea.size)
    (aligned : PageAligned memArea.startAddr ∧ PageAligned memArea.size)
    (fits : memArea.startAddr.toNat + memArea.size.toNat ≤ 2 ^ 32)
    (nonempty : 0 < memArea.size.toNat)
    : Located tables memArea region where
  entry := entry
  pages := by
    intro pAddr page low high
    have pageSize : PAGE_SIZE.toNat = 4096 := rfl
    have one : (1 : XmU32).toNat = 1 := rfl
    simp only [PageAligned, XmcMemoryArea.last, XmcMemoryRegion.Denotes, XmcMemoryRegion.pageOf,
      BitVec.le_def, BitVec.toNat_sub, BitVec.toNat_add, BitVec.toNat_ushiftRight, PAGE_SHIFT,
      Nat.shiftRight_eq_div_pow, pageSize, one, start, size] at aligned page low high ⊢
    omega

/-- Two areas, each a region: two pages, and one that is not to be cached. -/
def deviceTables : MemoryTables where
  xmcMemRegTab :=
    [{ startAddr := 0x100000, size := 0x2000, flags := XMC_REG_FLAG_PGTAB },
      { startAddr := 0x200000, size := 0x1000, flags := XMC_REG_FLAG_PGTAB }]
  xmcPhysMemAreaTab :=
    [{ startAddr := 0x100000, mappedAt := 0, size := 0x2000, flags := 0, memoryRegionOffset := 0 },
      { startAddr := 0x200000
        mappedAt := 0x2000
        size := 0x1000
        flags := XM_MEM_AREA_UNCACHEABLE
        memoryRegionOffset := 1 }]

def deviceConfig : MmuConfig where
  tables := deviceTables
  partition := { physicalMemoryAreasOffset := 0, noPhysicalMemoryAreas := 2 }
  noVCpus := 1
  partCtrlTab := fun _ => (0x300000, 0x1000)
  pgTables := fun _ => 0
  inside := Nat.le_refl 2
  aligned := by
    intro memArea member
    simp only [deviceTables, List.mem_cons, List.not_mem_nil, or_false] at member
    rcases member with rfl | rfl <;> exact ⟨rfl, rfl⟩
  located := by
    intro memArea member
    simp only [deviceTables, List.mem_cons, List.not_mem_nil, or_false] at member
    rcases member with rfl | rfl
    · exact ⟨_, located_whole rfl rfl rfl ⟨rfl, rfl⟩ (by decide) (by decide)⟩
    · exact ⟨_, located_whole rfl rfl rfl ⟨rfl, rfl⟩ (by decide) (by decide)⟩

/-- The second page is a second level table. The first contains an entry for the page that is not
to be cached, and a writable one for the table.
-/
def deviceState : State where
  byte := WordMemory.setWord (WordMemory.setWord (fun _ => 0) 0x100000 0x200001) 0x100004 0x101003
  physPageTab := fun region index =>
    { type := if region = 0 ∧ index = 1 then .ptdL2 else .std, counter := 0 }
  ptdL1 := fun _ => 0

/-- The first page becomes a table and its entry for the page that is not to be cached stays
cacheable, where the update sets the bit that disables the cache.
-/
theorem uncacheable_entry_cached
    : (setPageTypeSys deviceConfig 0x100000 2 deviceState).map
        (fun r => (r.1, r.2.entry 0x100000 0)) = .ok (.ok, 0x200001)
      ∧ (updatePage32Sys deviceConfig 0 0 0x101000 (deviceState.entry 0x100000 0) deviceState).map
        (fun r => (r.1, r.2.word 0x101000)) = .ok (.ok, 0x200011)
      ∧ ¬ SameRights 0x200001 0x200011 := by
  refine ⟨by decide +kernel, by decide +kernel, ?_⟩
  intro same
  exact absurd same.cacheable (by decide)

/-- Both ways make the entry for the table read-only. -/
theorem installs_agree_device
    : ∃ s' t', setPageTypeSys deviceConfig 0x100000 2 deviceState = .ok (.ok, s')
      ∧ updatePage32Sys deviceConfig 0 0 0x101000 (deviceState.entry 0x100000 1) deviceState
        = .ok (.ok, t')
      ∧ SameRights (s'.entry 0x100000 1) (t'.word 0x101000) := by
  have retypes : (setPageTypeSys deviceConfig 0x100000 2 deviceState).map Prod.fst
      = .ok .ok := by decide +kernel
  have updates : (updatePage32Sys deviceConfig 0 0 0x101000 (deviceState.entry 0x100000 1)
      deviceState).map Prod.fst = .ok .ok := by decide +kernel
  obtain ⟨⟨_, s'⟩, retyped, rfl⟩ := map_eq_ok.mp retypes
  obtain ⟨⟨_, t'⟩, updated, rfl⟩ := map_eq_ok.mp updates
  have points : findSetTarget deviceConfig (getAddr (deviceState.entry 0x100000 1)) = .ok (some
      { page := some { region := 0, page := 1, flags := 0 }
        isPCtrlTab := false
        areaFlags := 0 }) := by decide +kernel
  have goesOn : ¬ GivesUpBefore deviceConfig deviceState 0x100000 1 := by
    rintro ⟨b, earlier, _, missing⟩
    obtain rfl : b = 0 := by omega
    have found : findSetTarget deviceConfig (getAddr (deviceState.entry 0x100000 0))
        ≠ .ok none := by
      decide +kernel
    exact found missing
  have table : pmmFindPage deviceConfig.tables deviceConfig.partition 0x101000
      = .ok (some { region := 0, page := 1, flags := 0 }) := by decide +kernel
  refine ⟨s', t', retyped, updated, ?_⟩
  refine (installs_agree retyped (by decide) (by decide +kernel) points table rfl updated).mpr ?_
  exact ⟨fun givesUp => absurd givesUp goesOn, fun _ => by decide +kernel⟩

end XtratuM.Mmu
