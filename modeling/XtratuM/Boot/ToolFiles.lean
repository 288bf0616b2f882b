import XtratuM.Boot.Lzss
import XtratuM.Library.ByteFiles

/-! The files the packing tools read and write, as programs of 32 bits see them: offsets in files
are signed (`off_t`), and no file is longer than the last of them. The words of the target and of
the host have the same byte order.
-/

namespace XtratuM.Boot

open ByteFiles

/-- The largest `off_t`, and the length that no file exceeds. -/
def OFF_MAX : Nat := 2 ^ 31 - 1

/-- An open file, and where the next bytes are read or written. -/
structure Fd where
  content : List XmU8
  pos : Nat

/-- `lseek(fd, offset, SEEK_SET)`, which refuses a negative offset; the tools do not look. -/
def Fd.lseek (fd : Fd) (offset : XmU32) : Fd :=
  if offset.msb then fd else { fd with pos := offset.toNat }

/-- `lseek(fd, 0, SEEK_END)`, with the position returned. -/
def Fd.lseekEnd (fd : Fd) : XmU32 × Fd :=
  (BitVec.ofNat 32 fd.content.length, { fd with pos := fd.content.length })

/-- `write`; `none` where not all can be written. -/
def Fd.write (fd : Fd) (bytes : List XmU8) : Option Fd :=
  if fd.pos + bytes.length ≤ OFF_MAX then
    some { content := writeAt 0 fd.content fd.pos bytes, pos := fd.pos + bytes.length }
  else
    none

/-- `DO_WRITE`, which ends a tool with a message where not all can be written. -/
def Fd.doWrite {ε : Type} (fd : Fd) (failed : ε) (bytes : List XmU8) : Except ε Fd :=
  match fd.write bytes with
  | none => .error failed
  | some fd => .ok fd

/-- Filling a file with padding to whole words; with its size. -/
def Fd.fillWords {ε : Type} (fd : Fd) (failed : ε) : Except ε (XmU32 × Fd) :=
  let (fileSize, fd) := fd.lseekEnd
  if fileSize &&& 3 ≠ 0 then
    (fd.doWrite failed (List.replicate (4 - (fileSize &&& 3).toNat) 0)).map Fd.lseekEnd
  else
    .ok (fileSize, fd)

/-- `read`, with the bytes there are. -/
def Fd.read (fd : Fd) (n : XmU32) : List XmU8 × Fd :=
  let bytes := readAt fd.content fd.pos n.toNat
  (bytes, { fd with pos := fd.pos + bytes.length })

/-- `ALIGNTO`. -/
def alignTo (x s : XmU32) : XmU32 := ((~~~x + 1) &&& (s - 1)) + x

def XM_DIGEST_BYTES : Nat := 16

/-- `lseek` and `read`. -/
def Fd.readFrom (fd : Fd) (offset n : XmU32) : List XmU8 × Fd := (fd.lseek offset).read n

/-- What `DigestFinal` gives, a function of the bytes `DigestUpdate` has been called with. -/
abbrev Digest := List XmU8 → Vector XmU8 XM_DIGEST_BYTES

-----------------------------------------------------------------------------------------
-- Words and structures

/-- A word, least significant byte first. -/
def wordBytes (w : XmU32) : List XmU8 :=
  [w.extractLsb' 0 8, w.extractLsb' 8 8, w.extractLsb' 16 8, w.extractLsb' 24 8]

def wordCodec : Codec XmU32 XmU8 where
  size := 4
  encode := wordBytes
  decode bytes := wordAt (fun i => bytes.getD i 0) 0
  length_encode _ := rfl
  decode_encode w := by
    change w.extractLsb' 24 8 ++ w.extractLsb' 16 8 ++ w.extractLsb' 8 8 ++ w.extractLsb' 0 8 = w
    apply BitVec.eq_of_getLsbD_eq
    intro i inside
    simp only [BitVec.getLsbD_append, BitVec.getLsbD_extractLsb']
    grind

variable {α : Type}

/-- The layout of a packed structure of `n` words. -/
def structCodec (n : Nat) (words : α → List XmU32) (ofWords : List XmU32 → α)
    (count : ∀ a, (words a).length = n) (inverse : ∀ a, ofWords (words a) = a)
    : Codec α XmU8 where
  size := 4 * n
  encode a := wordCodec.encodeTable (words a)
  decode bytes := ofWords (wordCodec.decodeTable n bytes)
  length_encode a := by
    rw [wordCodec.length_encodeTable, count]
    rfl
  decode_encode a := by
    rw [← count a, wordCodec.decodeTable_encodeTable, inverse]

-----------------------------------------------------------------------------------------
-- Seeking, writing and reading

@[simp] theorem Fd.lseek_content (fd : Fd) (offset : XmU32)
    : (fd.lseek offset).content = fd.content := by
  unfold Fd.lseek
  split <;> rfl

theorem Fd.lseek_pos (fd : Fd) {offset : XmU32} (below : offset.toNat ≤ OFF_MAX)
    : (fd.lseek offset).pos = offset.toNat := by
  have positive : offset.msb = false := by
    rw [BitVec.msb_eq_decide, decide_eq_false_iff_not]
    unfold OFF_MAX at below
    omega
  rw [Fd.lseek, positive]
  rfl

theorem Fd.write_eq_some {fd fd' : Fd} {bytes : List XmU8}
    : fd.write bytes = some fd' ↔ fd.pos + bytes.length ≤ OFF_MAX
      ∧ fd' = { content := writeAt 0 fd.content fd.pos bytes, pos := fd.pos + bytes.length } := by
  unfold Fd.write
  split
  · next room => simp [room, eq_comm]
  · next full => simp [full]

@[simp] theorem Fd.readFrom_content (fd : Fd) (offset n : XmU32)
    : (fd.readFrom offset n).2.content = fd.content :=
  fd.lseek_content offset

theorem Fd.readFrom_bytes (fd : Fd) {offset : XmU32} (below : offset.toNat ≤ OFF_MAX) (n : XmU32)
    : (fd.readFrom offset n).1 = readAt fd.content offset.toNat n.toNat := by
  unfold Fd.readFrom Fd.read
  dsimp only
  rw [fd.lseek_content, fd.lseek_pos below]

theorem Fd.readFrom_start (fd : Fd) (n : XmU32)
    : (fd.readFrom 0 n).1 = fd.content.take n.toNat :=
  @Fd.readFrom_bytes fd 0 (Nat.zero_le OFF_MAX) n

variable {ε : Type} {failed : ε}

theorem doWrite_ok {fd fd' : Fd} {bytes : List XmU8}
    (written : fd.doWrite failed bytes = .ok fd')
    : fd.pos + bytes.length ≤ OFF_MAX
      ∧ fd' = { content := writeAt 0 fd.content fd.pos bytes, pos := fd.pos + bytes.length } := by
  unfold Fd.doWrite at written
  split at written
  · cases written
  · next fd₁ some =>
      cases written
      exact Fd.write_eq_some.mp some

/-- A write at an offset that is not refused. -/
theorem doWrite_lseek {fd fd' : Fd} {offset : XmU32} {bytes : List XmU8}
    (written : (fd.lseek offset).doWrite failed bytes = .ok fd') (below : offset.toNat ≤ OFF_MAX)
    : offset.toNat + bytes.length ≤ OFF_MAX
      ∧ fd'.content = writeAt 0 fd.content offset.toNat bytes := by
  obtain ⟨room, rfl⟩ := doWrite_ok written
  rw [fd.lseek_pos below] at room ⊢
  rw [fd.lseek_content]
  exact ⟨room, rfl⟩

/-- A write at the start of a file. -/
theorem doWrite_start {fd fd' : Fd} {bytes : List XmU8}
    (written : (fd.lseek 0).doWrite failed bytes = .ok fd')
    : fd'.content = bytes ++ fd.content.drop bytes.length := by
  rw [(doWrite_lseek written (Nat.zero_le OFF_MAX)).2]
  exact writeAt_zero 0 fd.content bytes

theorem doWrite_length {fd fd' : Fd} {bytes : List XmU8}
    (written : fd.doWrite failed bytes = .ok fd')
    (short : fd.content.length ≤ OFF_MAX)
    : fd'.content.length ≤ OFF_MAX := by
  obtain ⟨room, rfl⟩ := doWrite_ok written
  exact length_writeAt_le 0 short room

theorem toNat_ofNat_of_le {n : Nat} (small : n ≤ OFF_MAX) : (BitVec.ofNat 32 n).toNat = n := by
  have limit : OFF_MAX < 2 ^ 31 := by decide
  rw [BitVec.toNat_ofNat]
  omega

/-- The bytes that fill a file of a length to whole words. -/
def padding (length : Nat) : Nat := (4 - length % 4) % 4

theorem fillWords_ok {fd fd' : Fd} {fileSize : XmU32}
    (returned : fd.fillWords failed = .ok (fileSize, fd')) (short : fd.content.length ≤ OFF_MAX)
    : fd'.content = fd.content ++ List.replicate (padding fd.content.length) 0
      ∧ fd'.content.length ≤ OFF_MAX ∧ fileSize.toNat = fd'.content.length := by
  have limit : OFF_MAX < 2 ^ 31 := by decide
  have size : (BitVec.ofNat 32 fd.content.length).toNat = fd.content.length := by
    rw [BitVec.toNat_ofNat]
    omega
  have low : (BitVec.ofNat 32 fd.content.length &&& 3).toNat = fd.content.length % 4 := by
    rw [BitVec.toNat_and, size]
    exact Nat.and_two_pow_sub_one_eq_mod _ 2
  unfold Fd.fillWords Fd.lseekEnd at returned
  dsimp only at returned
  split at returned
  · next odd =>
      have part : fd.content.length % 4 ≠ 0 := by
        rw [← low]
        intro none
        exact odd (BitVec.eq_of_toNat_eq none)
      obtain ⟨fd₁, wrote, ended⟩ := map_eq_ok.mp returned
      obtain ⟨room, rfl⟩ := doWrite_ok wrote
      rw [low, show 4 - fd.content.length % 4 = padding fd.content.length by
        unfold padding
        omega] at room ended
      cases ended
      dsimp only at room ⊢
      rw [writeAt_length]
      rw [← List.length_append] at room
      refine ⟨rfl, room, ?_⟩
      rw [BitVec.toNat_ofNat]
      omega
  · next whole =>
      have part : fd.content.length % 4 = 0 := by
        rw [← low, not_not.mp whole]
        rfl
      cases returned
      refine ⟨?_, short, size⟩
      simp [padding, part]

-----------------------------------------------------------------------------------------
-- Alignment

/-- The next multiple of `s`. -/
def alignUp (n s : Nat) : Nat := (n + (s - 1)) / s * s

theorem le_alignUp {s : Nat} (positive : 0 < s) (n : Nat) : n ≤ alignUp n s := by
  have rounded := Nat.div_add_mod (n + (s - 1)) s
  have remainder := Nat.mod_lt (n + (s - 1)) positive
  rw [Nat.mul_comm] at rounded
  unfold alignUp
  omega

theorem alignUp_mod (n s : Nat) : alignUp n s % s = 0 := Nat.mul_mod_left _ _

theorem eq_alignUp {n m s : Nat} (above : n ≤ m) (near : m < n + s) (multiple : m % s = 0)
    : m = alignUp n s := by
  obtain ⟨quotient, rfl⟩ := Nat.dvd_of_mod_eq_zero multiple
  have positive : 0 < s := by omega
  have divided : (n + (s - 1)) / s = quotient := by
    apply Nat.div_eq_of_lt_le
    · rw [Nat.mul_comm]
      omega
    · rw [Nat.succ_mul, Nat.mul_comm]
      omega
  rw [alignUp, divided, Nat.mul_comm]

theorem alignUp_lt {s : Nat} (positive : 0 < s) (n : Nat) : alignUp n s < n + s := by
  have rounded := Nat.div_mul_le_self (n + (s - 1)) s
  unfold alignUp
  omega

/-- `ALIGNTO` to a power of two. -/
theorem alignTo_toNat (x : XmU32) {s : XmU32} {k : Nat} (power : s.toNat = 2 ^ k)
    : (alignTo x s).toNat = alignUp x.toNat s.toNat % 2 ^ 32 := by
  have positive : 0 < s.toNat := by
    rw [power]
    exact Nat.two_pow_pos k
  have divides : s.toNat ∣ 2 ^ 32 := by
    have bound := s.isLt
    rw [power] at bound ⊢
    exact Nat.pow_dvd_pow 2 ((Nat.pow_lt_pow_iff_right (by omega)).mp bound).le
  have mask : ((~~~x + 1) &&& (s - 1)).toNat = (2 ^ 32 - x.toNat) % s.toNat := by
    have less : (s - 1).toNat = 2 ^ k - 1 := by
      rw [BitVec.toNat_sub_of_le (by rw [BitVec.le_def]; exact positive), power]
      rfl
    have negated : (~~~x + 1).toNat = (2 ^ 32 - x.toNat) % 2 ^ 32 := by
      have bound := x.isLt
      rw [BitVec.toNat_add, BitVec.toNat_not]
      change (2 ^ 32 - 1 - x.toNat + 1) % 2 ^ 32 = _
      congr 1
      omega
    rw [BitVec.toNat_and, less, Nat.and_two_pow_sub_one_eq_mod, negated, ← power,
      Nat.mod_mod_of_dvd _ divides]
  have rounded : (2 ^ 32 - x.toNat) % s.toNat + x.toNat = alignUp x.toNat s.toNat := by
    apply eq_alignUp (by omega)
    · have remainder := Nat.mod_lt (2 ^ 32 - x.toNat) positive
      omega
    · have bound := x.isLt
      rw [Nat.mod_add_mod, Nat.sub_add_cancel (by omega)]
      exact Nat.mod_eq_zero_of_dvd divides
  rw [alignTo, BitVec.toNat_add, mask, rounded]

theorem alignTo_eight {x : XmU32} (below : x.toNat < 2 ^ 32 - 7)
    : (alignTo x 8).toNat = alignUp x.toNat 8 := by
  have above : alignUp x.toNat 8 < x.toNat + 8 := alignUp_lt (by decide) _
  have multiple := alignUp_mod x.toNat 8
  have power : (8 : XmU32).toNat = 2 ^ 3 := rfl
  rw [alignTo_toNat x power]
  change alignUp x.toNat 8 % 2 ^ 32 = alignUp x.toNat 8
  omega

/-- The sum of an offset and a length that fit. -/
theorem toNat_add_ofNat {x : XmU32} {n : Nat} (fits : x.toNat + n < 2 ^ 32)
    : (x + BitVec.ofNat 32 n).toNat = x.toNat + n := by
  rw [BitVec.toNat_add, BitVec.toNat_ofNat]
  omega

end XtratuM.Boot
