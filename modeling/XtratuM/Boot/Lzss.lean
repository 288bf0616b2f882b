import XtratuM.Kernel.Base

/-! Decompression of an image segment. A read callback hands out the bytes from an address on, a
write callback takes the bytes that have been written so far.
-/

namespace XtratuM.Boot

abbrev XmU8 := BitVec 8

def N : Nat := 4096
def F : Nat := 18
def THRESHOLD : Nat := 2

/-- The variables of `LZSSUncompress`, with `textBuf` and the bytes written, `writeCnt` of them. -/
structure Lzss where
  textBuf : Nat → XmU8
  r : Nat
  flags : Nat
  readCnt : Nat
  written : List XmU8

/-- `ReadByte`; `none` stands for -1. -/
def readByte (data : Nat → XmU8) (inSize : Nat) (s : Lzss) : Option (XmU8 × Lzss) :=
  if s.readCnt ≥ inSize then
    none
  else
    some (data s.readCnt, { s with readCnt := s.readCnt + 1 })

/-- `WriteByte`, and the copy of the byte in `textBuf`. -/
def writeByte (outSize : Nat) (c : XmU8) (s : Lzss) : Lzss :=
  { s with
    written := if s.written.length ≥ outSize then s.written else s.written ++ [c]
    textBuf := Function.update s.textBuf s.r c
    r := (s.r + 1) % N }

/-- The flags for the next unit, eight units a byte. -/
def nextFlags (data : Nat → XmU8) (inSize : Nat) (s : Lzss) : Option Lzss :=
  let flags := s.flags / 2
  if flags &&& 256 = 0 then
    (readByte data inSize s).map fun (c, s) => { s with flags := c.toNat ||| 0xff00 }
  else
    some { s with flags }

/-- A unit that is one byte. -/
def literal (data : Nat → XmU8) (inSize outSize : Nat) (s : Lzss) : Option Lzss :=
  (readByte data inSize s).map fun (c, s) => writeByte outSize c s

/-- A unit that is a position in `textBuf` and a length. -/
def copyMatch (data : Nat → XmU8) (inSize outSize : Nat) (s : Lzss) : Option Lzss := do
  let (i, s) ← readByte data inSize s
  let (j, s) ← readByte data inSize s
  let position := i.toNat ||| (j.toNat &&& 0xf0) * 16
  let length := (j.toNat &&& 0x0f) + THRESHOLD
  pure ((List.range (length + 1)).foldl
    (fun s k => writeByte outSize (s.textBuf ((position + k) % N)) s) s)

/-- A round of the loop of `LZSSUncompress`; `none` is its `break`. -/
def lzssUnit (data : Nat → XmU8) (inSize outSize : Nat) (s : Lzss) : Option Lzss := do
  let s ← nextFlags data inSize s
  if s.flags &&& 1 ≠ 0 then
    literal data inSize outSize s
  else
    copyMatch data inSize outSize s

def lzssLoop (data : Nat → XmU8) (inSize outSize : Nat) : Nat → Lzss → Except Stop Lzss
  | 0, _ => .error .diverges
  | fuel + 1, s =>
      match lzssUnit data inSize outSize s with
      | none => .ok s
      | some s => lzssLoop data inSize outSize fuel s

/-- The variables before the first round: spaces, but for the last `F` bytes of `textBuf`. -/
def lzssStart (textBuf : Nat → XmU8) : Lzss :=
  { textBuf := fun i => if i < N - F then 32 else textBuf i
    r := N - F
    flags := 0
    readCnt := 0
    written := [] }

/-- `LZSSUncompress`. -/
def lzssUncompress (data : Nat → XmU8) (inSize outSize : Nat) (textBuf : Nat → XmU8)
    : Except Stop Lzss :=
  lzssLoop data inSize outSize (inSize + 1) (lzssStart textBuf)

def COMPRESS_MAGIC : XmU32 := 0x64751423

def COMPRESS_BAD_MAGIC : Int := -1
def COMPRESS_BUFFER_OVERRUN : Int := -2

/-- The word at an offset, least significant byte first. -/
def wordAt (data : Nat → XmU8) (offset : Nat) : XmU32 :=
  data (offset + 3) ++ data (offset + 2) ++ data (offset + 1) ++ data offset

/-- What `Uncompress` leaves: its result, the bytes written and `textBuf`. -/
structure Uncompressed where
  result : Int
  written : List XmU8
  textBuf : Nat → XmU8

/-- `Uncompress`. -/
def uncompress (data : Nat → XmU8) (outSize : XmU32) (textBuf : Nat → XmU8)
    : Except Stop Uncompressed :=
  let magic := wordAt data 0
  let size := wordAt data 4
  let lzSize := wordAt data 8
  if magic ≠ COMPRESS_MAGIC then
    .ok { result := COMPRESS_BAD_MAGIC, written := [], textBuf }
  else if outSize < size then
    .ok { result := COMPRESS_BUFFER_OVERRUN, written := [], textBuf }
  else
    (lzssUncompress (fun i => data (12 + i)) lzSize.toNat outSize.toNat textBuf).map fun s =>
      { result := if size.toNat = s.written.length then size.toInt else -1
        written := s.written
        textBuf := s.textBuf }

-----------------------------------------------------------------------------------------
-- Termination and the size of the output

/-- The input read and the output written, as a unit leaves them: some byte has been read, and
the output still fits.
-/
structure Advances (inSize outSize : Nat) (s s' : Lzss) : Prop where
  read : s.readCnt < s'.readCnt
  bound : s'.readCnt ≤ inSize
  written : s.written.length ≤ outSize → s'.written.length ≤ outSize

theorem readByte_advances {data : Nat → XmU8} {inSize : Nat} {s s' : Lzss} {c : XmU8}
    (returned : readByte data inSize s = some (c, s')) (outSize : Nat)
    : Advances inSize outSize s s' := by
  unfold readByte at returned
  split at returned
  · cases returned
  · next more =>
      cases returned
      exact ⟨Nat.lt_succ_self _, Nat.lt_of_not_le more, id⟩

theorem Advances.trans {inSize outSize : Nat} {s t u : Lzss} (first : Advances inSize outSize s t)
    (second : Advances inSize outSize t u)
    : Advances inSize outSize s u :=
  ⟨first.read.trans second.read, second.bound, fun within => second.written (first.written within)⟩

theorem writeByte_written {outSize : Nat} (c : XmU8) {s : Lzss}
    (within : s.written.length ≤ outSize)
    : (writeByte outSize c s).written.length ≤ outSize := by
  unfold writeByte
  dsimp only
  split
  · exact within
  · next more =>
      rw [List.length_append, List.length_singleton]
      omega

/-- Writing bytes after the last one read. -/
theorem Advances.writeByte {inSize outSize : Nat} {s t : Lzss} (reads : Advances inSize outSize s t)
    (c : XmU8)
    : Advances inSize outSize s (writeByte outSize c t) :=
  ⟨reads.read, reads.bound, fun within => writeByte_written c (reads.written within)⟩

theorem Advances.writeBytes {inSize outSize : Nat} {s t : Lzss}
    (reads : Advances inSize outSize s t) (position : Nat) (ks : List Nat)
    : Advances inSize outSize s
        (ks.foldl (fun t k => Boot.writeByte outSize (t.textBuf ((position + k) % N)) t) t) := by
  induction ks generalizing t with
  | nil => exact reads
  | cons k ks ih => exact ih (reads.writeByte _)

theorem literal_advances {data : Nat → XmU8} {inSize outSize : Nat} {s s' : Lzss}
    (returned : literal data inSize outSize s = some s')
    : Advances inSize outSize s s' := by
  obtain ⟨⟨c, t⟩, read, rfl⟩ := Option.map_eq_some_iff.mp returned
  exact (readByte_advances read outSize).writeByte c

theorem copyMatch_advances {data : Nat → XmU8} {inSize outSize : Nat} {s s' : Lzss}
    (returned : copyMatch data inSize outSize s = some s')
    : Advances inSize outSize s s' := by
  obtain ⟨⟨i, t⟩, first, returned⟩ := Option.bind_eq_some_iff.mp returned
  obtain ⟨⟨j, u⟩, second, returned⟩ := Option.bind_eq_some_iff.mp returned
  cases returned
  exact ((readByte_advances first outSize).trans (readByte_advances second outSize)).writeBytes _ _

theorem lzssUnit_advances {data : Nat → XmU8} {inSize outSize : Nat} {s s' : Lzss}
    (returned : lzssUnit data inSize outSize s = some s')
    : Advances inSize outSize s s' := by
  obtain ⟨t, flags, returned⟩ := Option.bind_eq_some_iff.mp returned
  have unit : Advances inSize outSize t s' := by
    split at returned
    · exact literal_advances returned
    · exact copyMatch_advances returned
  unfold nextFlags at flags
  dsimp only at flags
  split at flags
  · obtain ⟨⟨c, u⟩, read, rfl⟩ := Option.map_eq_some_iff.mp flags
    have first := readByte_advances read outSize
    exact ⟨first.read.trans unit.read, unit.bound,
      fun within => unit.written (first.written within)⟩
  · cases flags
    exact ⟨unit.read, unit.bound, unit.written⟩

/-- The loop ends when the input has been read, with no more output than asked for. -/
theorem lzssLoop_returns {data : Nat → XmU8} {inSize outSize fuel : Nat} {s : Lzss}
    (bound : s.readCnt ≤ inSize) (enough : inSize < s.readCnt + fuel)
    (within : s.written.length ≤ outSize)
    : ∃ s', lzssLoop data inSize outSize fuel s = .ok s' ∧ s'.written.length ≤ outSize := by
  induction fuel generalizing s with
  | zero => omega
  | succ fuel ih =>
      unfold lzssLoop
      cases unit : lzssUnit data inSize outSize s with
      | none => exact ⟨s, rfl, within⟩
      | some t =>
          have advances := lzssUnit_advances unit
          have read := advances.read
          exact ih advances.bound (by omega) (advances.written within)

/-- `Uncompress` returns and writes no more bytes than there is room for. -/
theorem uncompress_returns (data : Nat → XmU8) (outSize : XmU32) (textBuf : Nat → XmU8)
    : ∃ done, uncompress data outSize textBuf = .ok done
      ∧ done.written.length ≤ outSize.toNat := by
  unfold uncompress
  dsimp only
  split
  · exact ⟨_, rfl, Nat.zero_le _⟩
  · split
    · exact ⟨_, rfl, Nat.zero_le _⟩
    · obtain ⟨s, returned, within⟩ := @lzssLoop_returns (fun i => data (12 + i))
        (wordAt data 8).toNat outSize.toNat ((wordAt data 8).toNat + 1) (lzssStart textBuf)
        (Nat.zero_le _) (Nat.lt_succ_of_le (Nat.le_add_left _ _)) (Nat.zero_le _)
      rw [lzssUncompress, returned]
      exact ⟨_, rfl, within⟩

end XtratuM.Boot
