import XtratuM.Boot.Lzss

/-! Decompression of a byte string that may end early, with the bytes it takes counted up to the
read that stops it.
-/

namespace XtratuM.Boot

def COMPRESS_READ_ERROR : Int := -4

/-- The byte string behind a `Read` callback, which hands out what is left of it and no more. -/
structure Offered where
  bytes : Nat → XmU8
  available : Nat

/-- The bytes after the first `n`. -/
def Offered.drop (offered : Offered) (n : Nat) : Offered :=
  { bytes := fun i => offered.bytes (n + i)
    available := offered.available - n }

/-- `ReadByte`; the variables alone stand for -1. -/
def Offered.readByte (offered : Offered) (inSize : Nat) (s : Lzss) : Except Lzss (XmU8 × Lzss) :=
  if s.readCnt ≥ inSize then
    .error s
  else if s.readCnt ≥ offered.available then
    .error s
  else
    .ok (offered.bytes s.readCnt, { s with readCnt := s.readCnt + 1 })

/-- The flags for the next unit, eight units a byte. -/
def Offered.nextFlags (offered : Offered) (inSize : Nat) (s : Lzss) : Except Lzss Lzss :=
  let flags := s.flags / 2
  if flags &&& 256 = 0 then
    (offered.readByte inSize s).map fun (c, s) => { s with flags := c.toNat ||| 0xff00 }
  else
    .ok { s with flags }

/-- A unit that is one byte. -/
def Offered.literal (offered : Offered) (inSize outSize : Nat) (s : Lzss) : Except Lzss Lzss :=
  (offered.readByte inSize s).map fun (c, s) => writeByte outSize c s

/-- A unit that is a position in `textBuf` and a length. -/
def Offered.copyMatch (offered : Offered) (inSize outSize : Nat) (s : Lzss) : Except Lzss Lzss := do
  let (i, s) ← offered.readByte inSize s
  let (j, s) ← offered.readByte inSize s
  let position := i.toNat ||| (j.toNat &&& 0xf0) * 16
  let length := (j.toNat &&& 0x0f) + THRESHOLD
  pure ((List.range (length + 1)).foldl
    (fun s k => writeByte outSize (s.textBuf ((position + k) % N)) s) s)

/-- A round of the loop of `LZSSUncompress`; an error is its `break`. -/
def Offered.lzssUnit (offered : Offered) (inSize outSize : Nat) (s : Lzss) : Except Lzss Lzss := do
  let s ← offered.nextFlags inSize s
  if s.flags &&& 1 ≠ 0 then
    offered.literal inSize outSize s
  else
    offered.copyMatch inSize outSize s

def Offered.lzssLoop (offered : Offered) (inSize outSize : Nat) : Nat → Lzss → Except Stop Lzss
  | 0, _ => .error .diverges
  | fuel + 1, s =>
      match offered.lzssUnit inSize outSize s with
      | .error s => .ok s
      | .ok s => offered.lzssLoop inSize outSize fuel s

/-- `LZSSUncompress`. -/
def Offered.lzssUncompress (offered : Offered) (inSize outSize : Nat) (textBuf : Nat → XmU8)
    : Except Stop Lzss :=
  offered.lzssLoop inSize outSize (inSize + 1) (lzssStart textBuf)

/-- What `Uncompress` leaves, with the number of bytes it has been handed. -/
structure Decompressed where
  result : Int
  read : Nat
  written : List XmU8
  textBuf : Nat → XmU8

/-- `Uncompress`. -/
def Offered.uncompress (offered : Offered) (_inSize outSize : XmU32) (textBuf : Nat → XmU8)
    : Except Stop Decompressed :=
  let magic := wordAt offered.bytes 0
  let size := wordAt offered.bytes 4
  let lzSize := wordAt offered.bytes 8
  if offered.available < 12 then
    .ok { result := COMPRESS_READ_ERROR, read := offered.available, written := [], textBuf }
  else if magic ≠ COMPRESS_MAGIC then
    .ok { result := COMPRESS_BAD_MAGIC, read := 12, written := [], textBuf }
  else if outSize < size then
    .ok { result := COMPRESS_BUFFER_OVERRUN, read := 12, written := [], textBuf }
  else
    ((offered.drop 12).lzssUncompress lzSize.toNat outSize.toNat textBuf).map fun s =>
      { result := if size.toNat = s.written.length then size.toInt else -1
        read := 12 + s.readCnt
        written := s.written
        textBuf := s.textBuf }

-----------------------------------------------------------------------------------------
-- The read that stops the loop

/-- The most that `ReadByte` takes. -/
def Offered.limit (offered : Offered) (inSize : Nat) : Nat :=
  min inSize offered.available

/-- Bytes may have been read, none has been written. -/
structure Untouched (limit : Nat) (start s : Lzss) : Prop where
  bound : s.readCnt ≤ limit
  written : s.written = start.written
  textBuf : s.textBuf = start.textBuf

/-- A computation goes on as the one over as many bytes as may be read does, or it stops when all
of them have been.
-/
inductive Follows {α : Type} (limit : Nat) (start : Lzss) (kept : α → Prop)
    : Except Lzss α → Option α → Prop
  | goes {a} (keeps : kept a) : Follows limit start kept (.ok a) (some a)
  | stops {s} (all : s.readCnt = limit) (untouched : Untouched limit start s)
    : Follows limit start kept (.error s) none

theorem Follows.bind {α β : Type} {limit : Nat} {start : Lzss} {kept : α → Prop} {next : β → Prop}
    {x : Except Lzss α} {y : Option α} (first : Follows limit start kept x y)
    {f : α → Except Lzss β} {g : α → Option β}
    (goesOn : ∀ a, kept a → Follows limit start next (f a) (g a))
    : Follows limit start next (x >>= f) (y >>= g) := by
  cases first with
  | goes keeps => exact goesOn _ keeps
  | stops all untouched => exact .stops all untouched

theorem Follows.map {α β : Type} {limit : Nat} {start : Lzss} {kept : α → Prop} {next : β → Prop}
    {x : Except Lzss α} {y : Option α} (first : Follows limit start kept x y) {f : α → β}
    (keeps : ∀ a, kept a → next (f a))
    : Follows limit start next (x.map f) (y.map f) := by
  cases first with
  | goes kept => exact .goes (keeps _ kept)
  | stops all untouched => exact .stops all untouched

section Loop

variable {offered : Offered} {inSize outSize : Nat} {start s : Lzss}
  (untouched : Untouched (offered.limit inSize) start s)

include untouched

theorem readByte_follows
    : Follows (offered.limit inSize) start
        (fun p => Untouched (offered.limit inSize) start p.2)
        (offered.readByte inSize s) (readByte offered.bytes (offered.limit inSize) s) := by
  have bound := untouched.bound
  unfold Offered.readByte readByte
  unfold Offered.limit at bound ⊢
  by_cases all : s.readCnt ≥ inSize
  · have same : s.readCnt = min inSize offered.available := by omega
    rw [if_pos all, if_pos same.ge]
    exact .stops same untouched
  · by_cases ended : s.readCnt ≥ offered.available
    · have same : s.readCnt = min inSize offered.available := by omega
      rw [if_neg all, if_pos ended, if_pos same.ge]
      exact .stops same untouched
    · have more : ¬ s.readCnt ≥ min inSize offered.available := by omega
      rw [if_neg all, if_neg ended, if_neg more]
      exact .goes ⟨by dsimp only; omega, untouched.written, untouched.textBuf⟩

theorem nextFlags_follows
    : Follows (offered.limit inSize) start (Untouched (offered.limit inSize) start)
        (offered.nextFlags inSize s) (nextFlags offered.bytes (offered.limit inSize) s) := by
  unfold Offered.nextFlags nextFlags
  dsimp only
  split
  · apply (readByte_follows untouched).map
    intro p kept
    exact ⟨kept.bound, kept.written, kept.textBuf⟩
  · exact .goes ⟨untouched.bound, untouched.written, untouched.textBuf⟩

theorem literal_follows
    : Follows (offered.limit inSize) start (fun _ => True)
        (offered.literal inSize outSize s)
        (literal offered.bytes (offered.limit inSize) outSize s) :=
  (readByte_follows untouched).map fun _ _ => trivial

theorem copyMatch_follows
    : Follows (offered.limit inSize) start (fun _ => True)
        (offered.copyMatch inSize outSize s)
        (copyMatch offered.bytes (offered.limit inSize) outSize s) := by
  apply (readByte_follows untouched).bind
  intro p first
  apply (readByte_follows first).bind
  intro q _
  exact .goes trivial

theorem lzssUnit_follows
    : Follows (offered.limit inSize) start (fun _ => True)
        (offered.lzssUnit inSize outSize s)
        (lzssUnit offered.bytes (offered.limit inSize) outSize s) := by
  apply (nextFlags_follows untouched).bind
  intro t kept
  split
  · exact literal_follows kept
  · exact copyMatch_follows kept

end Loop

/-- The variables as the loop leaves them. -/
structure Ended (limit outSize : Nat) (plain s : Lzss) : Prop where
  all : s.readCnt = limit
  within : s.written.length ≤ outSize
  written : s.written = plain.written
  textBuf : s.textBuf = plain.textBuf

/-- The loop ends when it has taken all it may, with what the loop over that many bytes writes. -/
theorem Offered.lzssLoop_ends {offered : Offered} {inSize outSize fuel : Nat} {s : Lzss}
    (bound : s.readCnt ≤ offered.limit inSize) (enough : offered.limit inSize < s.readCnt + fuel)
    (within : s.written.length ≤ outSize)
    : ∃ s' plain, offered.lzssLoop inSize outSize fuel s = .ok s'
      ∧ Boot.lzssLoop offered.bytes (offered.limit inSize) outSize fuel s = .ok plain
      ∧ Ended (offered.limit inSize) outSize plain s' := by
  induction fuel generalizing s with
  | zero => omega
  | succ fuel ih =>
      have follows := @lzssUnit_follows offered inSize outSize s s (Untouched.mk bound rfl rfl)
      unfold Offered.lzssLoop Boot.lzssLoop
      generalize offered.lzssUnit inSize outSize s = next at follows
      cases unit : Boot.lzssUnit offered.bytes (offered.limit inSize) outSize s with
      | none =>
          rw [unit] at follows
          cases follows with
          | stops all untouched =>
              refine ⟨_, s, rfl, rfl, all, ?_, untouched.written, untouched.textBuf⟩
              rw [untouched.written]
              exact within
      | some t =>
          rw [unit] at follows
          cases follows with
          | goes _ =>
              have advances := lzssUnit_advances unit
              have read := advances.read
              exact ih advances.bound (by omega) (advances.written within)

theorem Offered.lzssUncompress_ends (offered : Offered) (inSize outSize : Nat)
    (textBuf : Nat → XmU8)
    : ∃ s, offered.lzssUncompress inSize outSize textBuf = .ok s
      ∧ s.readCnt = offered.limit inSize ∧ s.written.length ≤ outSize := by
  have limit : offered.limit inSize ≤ inSize := Nat.min_le_left _ _
  obtain ⟨s, _, returned, _, ended⟩ := @lzssLoop_ends offered inSize outSize (inSize + 1)
    (lzssStart textBuf) (Nat.zero_le _) (by change _ < 0 + _; omega) (Nat.zero_le _)
  exact ⟨s, returned, ended.all, ended.within⟩

/-- Where no byte is missing, what is left behind is what `uncompress` says. -/
theorem Offered.uncompress_forgets {offered : Offered} (inSize outSize : XmU32)
    (textBuf : Nat → XmU8)
    (enough : 12 + (wordAt offered.bytes 8).toNat ≤ offered.available)
    : (offered.uncompress inSize outSize textBuf).map (fun done =>
        ({ result := done.result, written := done.written, textBuf := done.textBuf }
          : Uncompressed))
      = Boot.uncompress offered.bytes outSize textBuf := by
  have header : ¬ offered.available < 12 := by omega
  unfold Offered.uncompress Boot.uncompress
  dsimp only
  rw [if_neg header]
  split
  · rfl
  · split
    · rfl
    · have limit : (offered.drop 12).limit (wordAt offered.bytes 8).toNat
          = (wordAt offered.bytes 8).toNat := by
        refine Nat.min_eq_left ?_
        change _ ≤ offered.available - 12
        omega
      obtain ⟨s, plain, returned, plainly, ended⟩ := @lzssLoop_ends (offered.drop 12)
        (wordAt offered.bytes 8).toNat outSize.toNat ((wordAt offered.bytes 8).toNat + 1)
        (lzssStart textBuf) (Nat.zero_le _) (by rw [limit]; change _ < 0 + _; omega)
        (Nat.zero_le _)
      rw [limit] at plainly
      have whole : Boot.lzssUncompress (fun i => offered.bytes (12 + i))
          (wordAt offered.bytes 8).toNat outSize.toNat textBuf = .ok plain := plainly
      rw [lzssUncompress, returned, whole]
      simp only [Except.map, ended.written, ended.textBuf]

-----------------------------------------------------------------------------------------
-- The sizes

/-- Decompression stays inside its buffers: it takes no more bytes than its input has and writes no
more than its output has room for, and a result that is not negative means that the size given in
the header has been written.
-/
structure StaysInside (offered : Offered) (inSize outSize : XmU32) (done : Decompressed)
    : Prop where
  read : done.read ≤ inSize.toNat
  written : done.written.length ≤ outSize.toNat
  complete : 0 ≤ done.result → done.written.length = (wordAt offered.bytes 4).toNat

/-- The header is inside the input, and so is the size it gives for the rest where it is used: at
most as many bytes are taken as there are.
-/
structure SizesInside (offered : Offered) (inSize outSize : XmU32) : Prop where
  header : min 12 offered.available ≤ inSize.toNat
  rest : 12 ≤ offered.available → wordAt offered.bytes 0 = COMPRESS_MAGIC →
    wordAt offered.bytes 4 ≤ outSize →
    12 + min (wordAt offered.bytes 8).toNat (offered.available - 12) ≤ inSize.toNat

/-- A header that is refused has been read and no more. -/
theorem staysInside_refused {offered : Offered} {inSize outSize : XmU32} {done : Decompressed}
    (read : done.read = min 12 offered.available) (negative : done.result < 0)
    (nothing : done.written = [])
    (refused : 12 ≤ offered.available → wordAt offered.bytes 0 = COMPRESS_MAGIC →
      ¬ wordAt offered.bytes 4 ≤ outSize)
    : StaysInside offered inSize outSize done ↔ SizesInside offered inSize outSize := by
  constructor
  · intro inside
    refine { header := read ▸ inside.read, rest := ?_ }
    intro whole magic room
    exact absurd room (refused whole magic)
  · intro sizes
    refine { read := read ▸ sizes.header, written := ?_, complete := ?_ }
    · rw [nothing]
      exact Nat.zero_le _
    · intro nonneg
      exact absurd nonneg (Int.not_le.mpr negative)

/-- `Uncompress` returns, and it stays inside its buffers when the sizes of the header do. -/
theorem uncompress_staysInside_iff (offered : Offered) (inSize outSize : XmU32)
    (textBuf : Nat → XmU8)
    : ∃ done, offered.uncompress inSize outSize textBuf = .ok done
      ∧ (StaysInside offered inSize outSize done ↔ SizesInside offered inSize outSize) := by
  unfold Offered.uncompress
  dsimp only
  by_cases short : offered.available < 12
  · rw [if_pos short]
    refine ⟨_, rfl, staysInside_refused ?_ (by decide : COMPRESS_READ_ERROR < 0) rfl ?_⟩
    · exact (Nat.min_eq_right short.le).symm
    · intro whole
      omega
  · have header : min 12 offered.available = 12 := by omega
    rw [if_neg short]
    by_cases bad : wordAt offered.bytes 0 ≠ COMPRESS_MAGIC
    · rw [if_pos bad]
      refine ⟨_, rfl, staysInside_refused header.symm (by decide : COMPRESS_BAD_MAGIC < 0) rfl ?_⟩
      exact fun _ magic => absurd magic bad
    · rw [if_neg bad]
      by_cases overrun : outSize < wordAt offered.bytes 4
      · rw [if_pos overrun]
        refine ⟨_, rfl,
          staysInside_refused header.symm (by decide : COMPRESS_BUFFER_OVERRUN < 0) rfl ?_⟩
        exact fun _ _ room => BitVec.not_le.mpr overrun room
      · rw [if_neg overrun]
        obtain ⟨s, returned, all, within⟩ := (offered.drop 12).lzssUncompress_ends
          (wordAt offered.bytes 8).toNat outSize.toNat textBuf
        rw [returned]
        refine ⟨_, rfl, ?_⟩
        have taken : 12 + s.readCnt
            = 12 + min (wordAt offered.bytes 8).toNat (offered.available - 12) :=
          congrArg (12 + ·) all
        constructor
        · intro inside
          have read : 12 + s.readCnt ≤ inSize.toNat := inside.read
          refine { header := by omega, rest := ?_ }
          intro _ _ _
          omega
        · intro sizes
          have rest := sizes.rest (by omega) (not_not.mp bad) (BitVec.not_lt.mp overrun)
          refine { read := ?_, written := within, complete := ?_ }
          · dsimp only
            omega
          · intro nonneg
            dsimp only at nonneg ⊢
            split at nonneg
            · next same => exact same.symm
            · cases nonneg

/-- A header that gives 1 as the size and 2 as the compressed size, flags for a literal, and the
literal.
-/
def oneByte : Offered :=
  { bytes := fun i =>
      [0x23, 0x14, 0x75, 0x64, 1, 0, 0, 0, 2, 0, 0, 0, 1, 65].getD i 0
    available := 14 }

/-- Whoever calls gives 13 as the size of the input. -/
theorem input_size_ignored
    : ∃ done, oneByte.uncompress 13 1 (fun _ => 0) = .ok done
      ∧ done.result = 1 ∧ done.written = [65] ∧ done.read = 14
      ∧ ¬ StaysInside oneByte 13 1 done := by
  refine ⟨_, rfl, rfl, rfl, rfl, ?_⟩
  intro inside
  have read : 14 ≤ 13 := inside.read
  revert read
  decide

end XtratuM.Boot
