import XtratuM.Boot.SealedFiles
import XtratuM.Library.BlockHash

/-! The digests of files: MD5, over the bytes that several calls of `DigestUpdate` are given. The
target and the host have their words' least significant bytes first.
-/

namespace XtratuM.Boot

open BlockHash
open ByteFiles

-----------------------------------------------------------------------------------------
-- `MD5Transform`

/-- `buf` of `struct digestCtx`, and the registers of `MD5Transform`. -/
structure Md5Regs where
  a : XmU32
  b : XmU32
  c : XmU32
  d : XmU32
  deriving DecidableEq

def F1 (x y z : XmU32) : XmU32 := z ^^^ (x &&& (y ^^^ z))
def F2 (x y z : XmU32) : XmU32 := F1 z x y
def F3 (x y z : XmU32) : XmU32 := x ^^^ y ^^^ z
def F4 (x y z : XmU32) : XmU32 := y ^^^ (x ||| ~~~z)

/-- `MD5STEP`, for the new value of `w`. -/
def md5Step (f : XmU32 → XmU32 → XmU32 → XmU32) (w x y z data : XmU32) (s : Nat) : XmU32 :=
  let w := w + (f x y z + data)
  let w := w <<< s ||| w >>> (32 - s)
  w + x

section Steps

variable (r : Md5Regs) (f : XmU32 → XmU32 → XmU32 → XmU32) (data : XmU32) (s : Nat)

def Md5Regs.stepA : Md5Regs := { r with a := md5Step f r.a r.b r.c r.d data s }
def Md5Regs.stepD : Md5Regs := { r with d := md5Step f r.d r.a r.b r.c data s }
def Md5Regs.stepC : Md5Regs := { r with c := md5Step f r.c r.d r.a r.b data s }
def Md5Regs.stepB : Md5Regs := { r with b := md5Step f r.b r.c r.d r.a data s }

end Steps

/-- The steps of `MD5Transform`, for the words of a block. -/
def md5Steps (word : Nat → XmU32) (buf : Md5Regs) : Md5Regs :=
  buf
    |>.stepA F1 (word 0 + 0xd76aa478) 7
    |>.stepD F1 (word 1 + 0xe8c7b756) 12
    |>.stepC F1 (word 2 + 0x242070db) 17
    |>.stepB F1 (word 3 + 0xc1bdceee) 22
    |>.stepA F1 (word 4 + 0xf57c0faf) 7
    |>.stepD F1 (word 5 + 0x4787c62a) 12
    |>.stepC F1 (word 6 + 0xa8304613) 17
    |>.stepB F1 (word 7 + 0xfd469501) 22
    |>.stepA F1 (word 8 + 0x698098d8) 7
    |>.stepD F1 (word 9 + 0x8b44f7af) 12
    |>.stepC F1 (word 10 + 0xffff5bb1) 17
    |>.stepB F1 (word 11 + 0x895cd7be) 22
    |>.stepA F1 (word 12 + 0x6b901122) 7
    |>.stepD F1 (word 13 + 0xfd987193) 12
    |>.stepC F1 (word 14 + 0xa679438e) 17
    |>.stepB F1 (word 15 + 0x49b40821) 22
    |>.stepA F2 (word 1 + 0xf61e2562) 5
    |>.stepD F2 (word 6 + 0xc040b340) 9
    |>.stepC F2 (word 11 + 0x265e5a51) 14
    |>.stepB F2 (word 0 + 0xe9b6c7aa) 20
    |>.stepA F2 (word 5 + 0xd62f105d) 5
    |>.stepD F2 (word 10 + 0x02441453) 9
    |>.stepC F2 (word 15 + 0xd8a1e681) 14
    |>.stepB F2 (word 4 + 0xe7d3fbc8) 20
    |>.stepA F2 (word 9 + 0x21e1cde6) 5
    |>.stepD F2 (word 14 + 0xc33707d6) 9
    |>.stepC F2 (word 3 + 0xf4d50d87) 14
    |>.stepB F2 (word 8 + 0x455a14ed) 20
    |>.stepA F2 (word 13 + 0xa9e3e905) 5
    |>.stepD F2 (word 2 + 0xfcefa3f8) 9
    |>.stepC F2 (word 7 + 0x676f02d9) 14
    |>.stepB F2 (word 12 + 0x8d2a4c8a) 20
    |>.stepA F3 (word 5 + 0xfffa3942) 4
    |>.stepD F3 (word 8 + 0x8771f681) 11
    |>.stepC F3 (word 11 + 0x6d9d6122) 16
    |>.stepB F3 (word 14 + 0xfde5380c) 23
    |>.stepA F3 (word 1 + 0xa4beea44) 4
    |>.stepD F3 (word 4 + 0x4bdecfa9) 11
    |>.stepC F3 (word 7 + 0xf6bb4b60) 16
    |>.stepB F3 (word 10 + 0xbebfbc70) 23
    |>.stepA F3 (word 13 + 0x289b7ec6) 4
    |>.stepD F3 (word 0 + 0xeaa127fa) 11
    |>.stepC F3 (word 3 + 0xd4ef3085) 16
    |>.stepB F3 (word 6 + 0x04881d05) 23
    |>.stepA F3 (word 9 + 0xd9d4d039) 4
    |>.stepD F3 (word 12 + 0xe6db99e5) 11
    |>.stepC F3 (word 15 + 0x1fa27cf8) 16
    |>.stepB F3 (word 2 + 0xc4ac5665) 23
    |>.stepA F4 (word 0 + 0xf4292244) 6
    |>.stepD F4 (word 7 + 0x432aff97) 10
    |>.stepC F4 (word 14 + 0xab9423a7) 15
    |>.stepB F4 (word 5 + 0xfc93a039) 21
    |>.stepA F4 (word 12 + 0x655b59c3) 6
    |>.stepD F4 (word 3 + 0x8f0ccc92) 10
    |>.stepC F4 (word 10 + 0xffeff47d) 15
    |>.stepB F4 (word 1 + 0x85845dd1) 21
    |>.stepA F4 (word 8 + 0x6fa87e4f) 6
    |>.stepD F4 (word 15 + 0xfe2ce6e0) 10
    |>.stepC F4 (word 6 + 0xa3014314) 15
    |>.stepB F4 (word 13 + 0x4e0811a1) 21
    |>.stepA F4 (word 4 + 0xf7537e82) 6
    |>.stepD F4 (word 11 + 0xbd3af235) 10
    |>.stepC F4 (word 2 + 0x2ad7d2bb) 15
    |>.stepB F4 (word 9 + 0xeb86d391) 21

/-- Adding the registers to `buf`. -/
def Md5Regs.plus (buf regs : Md5Regs) : Md5Regs where
  a := buf.a + regs.a
  b := buf.b + regs.b
  c := buf.c + regs.c
  d := buf.d + regs.d

def md5Transform (buf : Md5Regs) (word : Nat → XmU32) : Md5Regs := buf.plus (md5Steps word buf)

-----------------------------------------------------------------------------------------
-- The algorithm

/-- The functions of the four rounds. -/
def roundFunction (round : Nat) (x y z : XmU32) : XmU32 :=
  match round with
  | 0 => x &&& y ||| ~~~x &&& z
  | 1 => x &&& z ||| y &&& ~~~z
  | 2 => x ^^^ y ^^^ z
  | _ => y ^^^ (x ||| ~~~z)

/-- The word of a block that a step takes. -/
def roundWord (i : Nat) : Nat :=
  match i / 16 with
  | 0 => i % 16
  | 1 => (5 * i + 1) % 16
  | 2 => (3 * i + 5) % 16
  | _ => 7 * i % 16

/-- How far a step rotates. -/
def roundShift (i : Nat) : Nat :=
  ([[7, 12, 17, 22], [5, 9, 14, 20], [4, 11, 16, 23], [6, 10, 15, 21]].getD (i / 16) []).getD
    (i % 4) 0

def md5Constants : List XmU32 :=
  [0xd76aa478, 0xe8c7b756, 0x242070db, 0xc1bdceee,
    0xf57c0faf, 0x4787c62a, 0xa8304613, 0xfd469501,
    0x698098d8, 0x8b44f7af, 0xffff5bb1, 0x895cd7be,
    0x6b901122, 0xfd987193, 0xa679438e, 0x49b40821,
    0xf61e2562, 0xc040b340, 0x265e5a51, 0xe9b6c7aa,
    0xd62f105d, 0x02441453, 0xd8a1e681, 0xe7d3fbc8,
    0x21e1cde6, 0xc33707d6, 0xf4d50d87, 0x455a14ed,
    0xa9e3e905, 0xfcefa3f8, 0x676f02d9, 0x8d2a4c8a,
    0xfffa3942, 0x8771f681, 0x6d9d6122, 0xfde5380c,
    0xa4beea44, 0x4bdecfa9, 0xf6bb4b60, 0xbebfbc70,
    0x289b7ec6, 0xeaa127fa, 0xd4ef3085, 0x04881d05,
    0xd9d4d039, 0xe6db99e5, 0x1fa27cf8, 0xc4ac5665,
    0xf4292244, 0x432aff97, 0xab9423a7, 0xfc93a039,
    0x655b59c3, 0x8f0ccc92, 0xffeff47d, 0x85845dd1,
    0x6fa87e4f, 0xfe2ce6e0, 0xa3014314, 0x4e0811a1,
    0xf7537e82, 0xbd3af235, 0x2ad7d2bb, 0xeb86d391]

/-- A step, after which each register is where the next step looks for it. -/
def Md5Regs.rotate (r : Md5Regs) (f : XmU32 → XmU32 → XmU32 → XmU32) (data : XmU32) (s : Nat)
    : Md5Regs where
  a := r.d
  b := md5Step f r.a r.b r.c r.d data s
  c := r.b
  d := r.c

/-- Step `i`. -/
def md5Round (word : Nat → XmU32) (r : Md5Regs) (i : Nat) : Md5Regs :=
  r.rotate (roundFunction (i / 16)) (word (roundWord i) + md5Constants.getD i 0) (roundShift i)

/-- MD5 of a block. -/
def md5Block (buf : Md5Regs) (word : Nat → XmU32) : Md5Regs :=
  buf.plus ((List.range 64).foldl (md5Round word) buf)

-----------------------------------------------------------------------------------------
-- The steps as the algorithm has them

theorem F1_eq : F1 = roundFunction 0 := by
  funext x y z
  apply BitVec.eq_of_getLsbD_eq
  intro i inside
  simp only [F1, roundFunction, BitVec.getLsbD_xor, BitVec.getLsbD_and, BitVec.getLsbD_or,
    BitVec.getLsbD_not, inside, decide_true, Bool.true_and]
  cases x.getLsbD i <;> cases y.getLsbD i <;> cases z.getLsbD i <;> rfl

theorem F2_eq : F2 = roundFunction 1 := by
  funext x y z
  apply BitVec.eq_of_getLsbD_eq
  intro i inside
  simp only [F2, F1, roundFunction, BitVec.getLsbD_xor, BitVec.getLsbD_and, BitVec.getLsbD_or,
    BitVec.getLsbD_not, inside, decide_true, Bool.true_and]
  cases x.getLsbD i <;> cases y.getLsbD i <;> cases z.getLsbD i <;> rfl

theorem F3_eq : F3 = roundFunction 2 := rfl

theorem F4_eq : F4 = roundFunction 3 := rfl

/-- After four steps each register is where it was. -/
theorem Md5Regs.rotate_four (r : Md5Regs) (f : XmU32 → XmU32 → XmU32 → XmU32)
    (data₀ data₁ data₂ data₃ : XmU32) (s₀ s₁ s₂ s₃ : Nat)
    : (((r.stepA f data₀ s₀).stepD f data₁ s₁).stepC f data₂ s₂).stepB f data₃ s₃
      = (((r.rotate f data₀ s₀).rotate f data₁ s₁).rotate f data₂ s₂).rotate f data₃ s₃ :=
  rfl

theorem md5Steps_eq (word : Nat → XmU32) (buf : Md5Regs)
    : md5Steps word buf = (List.range 64).foldl (md5Round word) buf := by
  unfold md5Steps
  simp only [Md5Regs.rotate_four, F1_eq, F2_eq, F3_eq, F4_eq]
  rfl

theorem md5Transform_eq (buf : Md5Regs) (word : Nat → XmU32)
    : md5Transform buf word = md5Block buf word := by
  rw [md5Transform, md5Steps_eq]
  rfl

-----------------------------------------------------------------------------------------
-- `struct digestCtx`

/-- The words of a block, least significant bytes first. -/
def wordsOf (block : List XmU8) (i : Nat) : XmU32 := wordAt (fun k => block.getD k 0) (4 * i)

structure DigestCtx where
  input : List XmU8
  buf : Md5Regs
  bits : XmU32 × XmU32

/-- A word of four bytes, put back where it was taken from. -/
def byteReverseWord (b₀ b₁ b₂ b₃ : XmU8) : List XmU8 :=
  wordBytes ((b₃.setWidth 32 <<< 8 ||| b₂.setWidth 32) <<< 16
    ||| (b₁.setWidth 32 <<< 8 ||| b₀.setWidth 32))

/-- `byteReverse`, for so many words. -/
def byteReverse : Nat → List XmU8 → List XmU8
  | longs + 1, b₀ :: b₁ :: b₂ :: b₃ :: rest =>
      byteReverseWord b₀ b₁ b₂ b₃ ++ byteReverse longs rest
  | _, bytes => bytes

/-- `byteReverse(ctx->in, 16)` and `MD5Transform(ctx->buf, ctx->in)`. -/
def DigestCtx.transform (ctx : DigestCtx) : DigestCtx :=
  let input := byteReverse 16 ctx.input
  { ctx with input, buf := md5Transform ctx.buf (wordsOf input) }

/-- `memmove` into `ctx->in`. -/
def DigestCtx.move (ctx : DigestCtx) (offset : Nat) (bytes : List XmU8) : DigestCtx :=
  { ctx with input := writeAt 0 ctx.input offset bytes }

/-- `DigestInit`. -/
def digestInit (ctx : DigestCtx) : DigestCtx where
  input := ctx.input
  buf := { a := 0x67452301, b := 0xefcdab89, c := 0x98badcfe, d := 0x10325476 }
  bits := (0, 0)

/-- The bytes of a buffer whose length is a `xm_u32_t`. -/
abbrev Chunk : Type := { bytes : List XmU8 // bytes.length < 2 ^ 32 }

/-- The count of bits after so many bytes more. -/
def countBits (bits : XmU32 × XmU32) (len : XmU32) : XmU32 × XmU32 :=
  let low := bits.1 + len <<< 3
  let high := if low < bits.1 then bits.2 + 1 else bits.2
  (low, high + len >>> 29)

/-- The whole blocks and the rest. -/
def digestBlocks (ctx : DigestCtx) (bytes : List XmU8) : DigestCtx :=
  if 64 ≤ bytes.length then
    digestBlocks (ctx.move 0 (bytes.take 64)).transform (bytes.drop 64)
  else
    ctx.move 0 bytes
termination_by bytes.length
decreasing_by
  rw [List.length_drop]
  omega

/-- `DigestUpdate`. -/
def digestUpdate (ctx : DigestCtx) (buf : Chunk) : DigestCtx :=
  let t := (ctx.bits.1 >>> 3 &&& 0x3f).toNat
  let ctx := { ctx with bits := countBits ctx.bits (BitVec.ofNat 32 buf.val.length) }
  if t ≠ 0 then
    if buf.val.length < 64 - t then
      ctx.move t buf.val
    else
      digestBlocks (ctx.move t (buf.val.take (64 - t))).transform (buf.val.drop (64 - t))
  else
    digestBlocks ctx buf.val

/-- The padding of `DigestFinal` up to the count of bits. -/
def padInput (ctx : DigestCtx) : DigestCtx :=
  let count := (ctx.bits.1 >>> 3 &&& 0x3f).toNat
  let ctx := ctx.move count [0x80]
  let left := 64 - 1 - count
  if left < 8 then
    (ctx.move (count + 1) (List.replicate left 0)).transform.move 0 (List.replicate 56 0)
  else
    ctx.move (count + 1) (List.replicate (left - 8) 0)

def Md5Regs.bytes (r : Md5Regs) : List XmU8 :=
  wordBytes r.a ++ wordBytes r.b ++ wordBytes r.c ++ wordBytes r.d

/-- `DigestFinal`, which clears the context. -/
def digestFinal (ctx : DigestCtx) : Vector XmU8 XM_DIGEST_BYTES × DigestCtx :=
  let ctx := padInput ctx
  let ctx := { ctx with input := byteReverse 14 ctx.input }
  let ctx := (ctx.move 56 (wordBytes ctx.bits.1)).move 60 (wordBytes ctx.bits.2)
  let buf := md5Transform ctx.buf (wordsOf ctx.input)
  let digest := byteReverse 4 buf.bytes
  (vectorAt XM_DIGEST_BYTES digest 0,
    { input := List.replicate 64 0, buf := ⟨0, 0, 0, 0⟩, bits := (0, 0) })

-----------------------------------------------------------------------------------------
-- MD5 of a message

def md5Compression : Compression Md5Regs XmU8 where
  size := 64
  positive := by decide
  compress buf block := md5Block buf (wordsOf block)

/-- The first bit after a message, zeros up to the last eight bytes of a block, and the count of the
message's bits in these.
-/
def md5Padding (length : Nat) : List XmU8 :=
  0x80 :: List.replicate ((119 - length % 64) % 64) 0
    ++ wordBytes (BitVec.ofNat 32 (8 * length)) ++ wordBytes (BitVec.ofNat 32 (8 * length / 2 ^ 32))

/-- The registers before the first block. -/
def md5Start : Md5Regs := ⟨0x67452301, 0xefcdab89, 0x98badcfe, 0x10325476⟩

/-- MD5. -/
def md5 : Digest := fun message =>
  vectorAt XM_DIGEST_BYTES
    (md5Compression.absorb md5Start (message ++ md5Padding message.length)).bytes 0

-----------------------------------------------------------------------------------------
-- Words and bytes

theorem wordBytes_append (b₀ b₁ b₂ b₃ : XmU8)
    : wordBytes (b₃ ++ b₂ ++ b₁ ++ b₀) = [b₀, b₁, b₂, b₃] := by
  unfold wordBytes
  simp only [List.cons.injEq, and_true]
  refine ⟨?_, ?_, ?_, ?_⟩
  all_goals
    apply BitVec.eq_of_getLsbD_eq
    intro i inside
    simp only [BitVec.getLsbD_append, BitVec.getLsbD_extractLsb']
    grind

/-- The order of the bytes is that of the target, so nothing moves. -/
theorem byteReverseWord_eq (b₀ b₁ b₂ b₃ : XmU8)
    : byteReverseWord b₀ b₁ b₂ b₃ = [b₀, b₁, b₂, b₃] := by
  have word : (b₃.setWidth 32 <<< 8 ||| b₂.setWidth 32) <<< 16
      ||| (b₁.setWidth 32 <<< 8 ||| b₀.setWidth 32) = b₃ ++ b₂ ++ b₁ ++ b₀ := by
    apply BitVec.eq_of_getLsbD_eq
    intro i inside
    simp only [BitVec.getLsbD_append, BitVec.getLsbD_or, BitVec.getLsbD_shiftLeft,
      BitVec.getLsbD_setWidth]
    grind
  rw [byteReverseWord, word, wordBytes_append]

theorem byteReverse_eq (longs : Nat) (bytes : List XmU8) : byteReverse longs bytes = bytes := by
  induction longs, bytes using byteReverse.induct with
  | case1 longs b₀ b₁ b₂ b₃ rest ih =>
      rw [byteReverse, byteReverseWord_eq, ih]
      rfl
  | case2 longs bytes short =>
      unfold byteReverse
      split
      · exact absurd rfl (short _ _ _ _ _ _ rfl)
      · rfl

theorem DigestCtx.transform_eq (ctx : DigestCtx)
    : ctx.transform = { ctx with buf := md5Compression.compress ctx.buf ctx.input } := by
  unfold DigestCtx.transform
  simp only [byteReverse_eq, md5Transform_eq]
  rfl

-----------------------------------------------------------------------------------------
-- Counts

/-- The bits that are counted of so many bytes. -/
def bitsOf (length : Nat) : XmU32 × XmU32 :=
  (BitVec.ofNat 32 (8 * length), BitVec.ofNat 32 (8 * length / 2 ^ 32))

/-- The carry from the low word to the high one. -/
theorem countBits_eq (length : Nat) {more : Nat} (word : more < 2 ^ 32)
    : countBits (bitsOf length) (BitVec.ofNat 32 more) = bitsOf (length + more) := by
  have low : (bitsOf length).1 + BitVec.ofNat 32 more <<< 3 = (bitsOf (length + more)).1 := by
    apply BitVec.eq_of_toNat_eq
    simp only [bitsOf, BitVec.toNat_add, BitVec.toNat_ofNat, BitVec.toNat_shiftLeft,
      Nat.shiftLeft_eq]
    omega
  have carry : (bitsOf (length + more)).1 < (bitsOf length).1
      ↔ 2 ^ 32 ≤ 8 * length % 2 ^ 32 + 8 * more % 2 ^ 32 := by
    rw [BitVec.lt_def]
    simp only [bitsOf, BitVec.toNat_ofNat]
    omega
  have one : (1 : XmU32).toNat = 1 := rfl
  unfold countBits
  dsimp only
  rw [low]
  refine Prod.ext rfl (BitVec.eq_of_toNat_eq ?_)
  split
  · next overflows =>
      have overflows := carry.mp overflows
      simp only [bitsOf, BitVec.toNat_add, BitVec.toNat_ofNat, BitVec.toNat_ushiftRight,
        Nat.shiftRight_eq_div_pow]
      omega
  · next fits =>
      have fits := mt carry.mpr fits
      simp only [bitsOf, BitVec.toNat_add, BitVec.toNat_ofNat, BitVec.toNat_ushiftRight,
        Nat.shiftRight_eq_div_pow]
      omega

/-- The bytes of a message beyond its whole blocks. -/
theorem countOf_bitsOf (length : Nat)
    : ((bitsOf length).1 >>> 3 &&& 0x3f).toNat = length % 64 := by
  have mask : (0x3f : XmU32).toNat = 2 ^ 6 - 1 := rfl
  rw [BitVec.toNat_and, mask, Nat.and_two_pow_sub_one_eq_mod, BitVec.toNat_ushiftRight,
    Nat.shiftRight_eq_div_pow]
  simp only [bitsOf, BitVec.toNat_ofNat]
  omega

-----------------------------------------------------------------------------------------
-- Updates

/-- A context that has been given a message. -/
structure Fed (ctx : DigestCtx) (message : List XmU8) : Prop where
  buffered : Buffered md5Compression md5Start message ctx.buf ctx.input
  bits : ctx.bits = bitsOf message.length

section Updates

variable {ctx : DigestCtx} {message bytes : List XmU8}

/-- Bytes that the buffer has room for. -/
theorem move_inside (whole : ctx.input.length = 64) {offset : Nat}
    (inside : offset + bytes.length ≤ 64)
    : (ctx.move offset bytes).input.length = 64
      ∧ (ctx.move offset bytes).input.take (offset + bytes.length)
        = ctx.input.take offset ++ bytes := by
  unfold DigestCtx.move
  dsimp only
  by_cases none : bytes = []
  · rw [none, writeAt_nil, List.append_nil]
    exact ⟨whole, rfl⟩
  · have start : (ctx.input.take offset ++ bytes).length = offset + bytes.length := by
      rw [List.length_append, List.length_take]
      omega
    have written : writeAt 0 ctx.input offset bytes
        = ctx.input.take offset ++ bytes ++ ctx.input.drop (offset + bytes.length) := by
      have room : offset - ctx.input.length = 0 := by omega
      rw [writeAt_of_ne_nil 0 ctx.input offset none, room]
      simp
    refine ⟨?_, ?_⟩
    · rw [length_writeAt 0 ctx.input offset none, whole]
      omega
    · rw [written, List.take_left' start]

/-- Bytes that fill the buffer up. -/
theorem move_fills (whole : ctx.input.length = 64) {offset : Nat}
    (fills : offset + bytes.length = 64)
    : (ctx.move offset bytes).input = ctx.input.take offset ++ bytes := by
  obtain ⟨length, front⟩ := move_inside whole (Nat.le_of_eq fills)
  rwa [List.take_of_length_le (by omega)] at front

/-- Witness: induction on the blocks. -/
theorem digestBlocks_spec (ctx : DigestCtx) (bytes : List XmU8) (whole : ctx.input.length = 64)
    : (digestBlocks ctx bytes).buf = md5Compression.absorb ctx.buf bytes
      ∧ (digestBlocks ctx bytes).input.length = 64
      ∧ (digestBlocks ctx bytes).input.take (bytes.length % 64) = md5Compression.rest bytes
      ∧ (digestBlocks ctx bytes).bits = ctx.bits := by
  have size : md5Compression.size = 64 := rfl
  induction ctx, bytes using digestBlocks.induct with
  | case1 ctx bytes long ih =>
      have first : (bytes.take 64).length = 64 := List.length_take_of_le long
      have moved : (ctx.move 0 (bytes.take 64)).input = bytes.take 64 := by
        have fills := move_fills whole (show 0 + (bytes.take 64).length = 64 by rw [first])
        rwa [List.take_zero, List.nil_append] at fills
      have transformed : (ctx.move 0 (bytes.take 64)).transform
          = { ctx with
              input := bytes.take 64
              buf := md5Compression.compress ctx.buf (bytes.take 64) } := by
        rw [DigestCtx.transform_eq, moved]
        rfl
      have parts : bytes.take 64 ++ bytes.drop 64 = bytes := List.take_append_drop 64 bytes
      have rest := Compression.rest_block (first.trans size.symm) (bytes.drop 64)
      have absorbed := Compression.absorb_block ctx.buf (first.trans size.symm) (bytes.drop 64)
      rw [parts] at rest absorbed
      have ends : bytes.length % 64 = (bytes.drop 64).length % 64 := by
        rw [List.length_drop]
        omega
      rw [digestBlocks, if_pos long, ends, rest, absorbed]
      rw [transformed] at ih ⊢
      exact ih first
  | case2 ctx bytes short =>
      have short := Nat.lt_of_not_le short
      have inside : 0 + bytes.length ≤ 64 := by omega
      obtain ⟨length, front⟩ := move_inside whole inside
      rw [digestBlocks, if_neg (Nat.not_le_of_lt short), Nat.mod_eq_of_lt short,
        Compression.absorb_short ctx.buf (size ▸ short),
        Compression.rest_short (size ▸ short)]
      rw [Nat.zero_add, List.take_zero, List.nil_append] at front
      exact ⟨rfl, length, front, rfl⟩

theorem digestUpdate_fed (fed : Fed ctx message) (buf : Chunk)
    : Fed (digestUpdate ctx buf) (message ++ buf.val) := by
  have size : md5Compression.size = 64 := rfl
  obtain ⟨bytes, word⟩ := buf
  have whole : ctx.input.length = 64 := fed.buffered.length
  have rest : (md5Compression.rest message).length = message.length % 64 :=
    md5Compression.length_rest message
  have front : ctx.input.take (message.length % 64) = md5Compression.rest message :=
    fed.buffered.front
  have counted : countBits ctx.bits (BitVec.ofNat 32 bytes.length)
      = bitsOf (message ++ bytes).length := by
    rw [fed.bits, countBits_eq _ word, List.length_append]
  have fedBy {ctx' : DigestCtx}
      (state : ctx'.buf = md5Compression.absorb ctx.buf (md5Compression.rest message ++ bytes))
      (length : ctx'.input.length = 64)
      (front : ctx'.input.take ((md5Compression.rest message ++ bytes).length % 64)
        = md5Compression.rest (md5Compression.rest message ++ bytes))
      (bits : ctx'.bits = bitsOf (message ++ bytes).length)
      : Fed ctx' (message ++ bytes) :=
    { buffered := fed.buffered.append state length front, bits }
  unfold digestUpdate
  dsimp only
  rw [counted, fed.bits, countOf_bitsOf]
  split
  · next some =>
      split
      · next short =>
          have total : (md5Compression.rest message ++ bytes).length
              = message.length % 64 + bytes.length := by
            rw [List.length_append, rest]
          have room : (md5Compression.rest message ++ bytes).length < 64 := by omega
          have inside : message.length % 64 + bytes.length ≤ 64 := by omega
          obtain ⟨length, moved⟩ := move_inside whole inside
          have alone : md5Compression.rest (md5Compression.rest message ++ bytes)
              = md5Compression.rest message ++ bytes :=
            Compression.rest_short room
          refine fedBy (Compression.absorb_short ctx.buf room).symm length ?_ rfl
          rw [Nat.mod_eq_of_lt room, alone, total, ← front]
          exact moved
      · next long =>
          have filled : message.length % 64 + (bytes.take (64 - message.length % 64)).length
              = 64 := by
            rw [List.length_take]
            omega
          have moved := move_fills whole filled
          have parts : md5Compression.rest message ++ bytes
              = (md5Compression.rest message ++ bytes.take (64 - message.length % 64))
                ++ bytes.drop (64 - message.length % 64) := by
            rw [List.append_assoc, List.take_append_drop]
          have block : (md5Compression.rest message
              ++ bytes.take (64 - message.length % 64)).length = md5Compression.size := by
            rw [List.length_append, rest, filled, size]
          rw [parts] at fedBy
          rw [Compression.absorb_block ctx.buf block, Compression.rest_block block,
            List.length_append, block, size, Nat.add_mod_left] at fedBy
          rw [front] at moved
          rw [DigestCtx.transform_eq]
          obtain ⟨buf, length, front, bits⟩ := digestBlocks_spec
            { input :=
                (ctx.move (message.length % 64) (bytes.take (64 - message.length % 64))).input
              buf := md5Compression.compress ctx.buf
                (ctx.move (message.length % 64) (bytes.take (64 - message.length % 64))).input
              bits := bitsOf (message ++ bytes).length }
            (bytes.drop (64 - message.length % 64)) (moved ▸ block)
          refine fedBy ?_ length front bits
          rw [← moved]
          exact buf
  · next none =>
      have aligned : message.length % 64 = 0 := Decidable.not_not.mp none
      have nothing : md5Compression.rest message = [] := by
        rw [← front, aligned, List.take_zero]
      rw [nothing, List.nil_append] at fedBy
      obtain ⟨buf, length, front, bits⟩ := digestBlocks_spec
        { ctx with bits := bitsOf (message ++ bytes).length } bytes whole
      exact fedBy buf length front bits

end Updates

-----------------------------------------------------------------------------------------
-- The end

section Final

variable {ctx : DigestCtx} {message : List XmU8}

/-- What is left of a message, as the buffer holds it, makes up these blocks with any count. -/
structure LastBlocks (ctx padded : DigestCtx) (left : List XmU8) : Prop where
  length : padded.input.length = 64
  bits : padded.bits = ctx.bits
  absorbed : ∀ count : List XmU8, count.length = 8 →
    md5Compression.absorb ctx.buf (left ++ count)
      = md5Compression.compress padded.buf (padded.input.take 56 ++ count)

/-- A block and a count are all that is taken in. -/
theorem absorb_lastBlock (buf : Md5Regs) {front count : List XmU8} (length : front.length = 56)
    (size : count.length = 8)
    : md5Compression.absorb buf (front ++ count)
      = md5Compression.compress buf (front ++ count) := by
  have whole : (front ++ count).length = md5Compression.size := by
    rw [List.length_append, length, size]
    rfl
  have nothing : ([] : List XmU8).length < md5Compression.size := by decide
  have absorbed := Compression.absorb_block buf whole []
  rw [List.append_nil, Compression.absorb_short _ nothing] at absorbed
  exact absorbed

/-- There is room for the count: zeros up to it. -/
theorem lastBlocks_one {front : List XmU8} {zeros : Nat} (whole : ctx.input.length = 64)
    (held : ctx.input.take front.length = front) (fills : front.length + zeros = 56)
    : LastBlocks ctx (ctx.move front.length (List.replicate zeros 0))
        (front ++ List.replicate zeros 0) := by
  have length : (List.replicate zeros (0 : XmU8)).length = zeros := List.length_replicate
  obtain ⟨length', moved⟩ := move_inside whole
    (show front.length + (List.replicate zeros (0 : XmU8)).length ≤ 64 by omega)
  rw [held, length, fills] at moved
  refine { length := length', bits := rfl, absorbed := ?_ }
  intro count size
  rw [moved]
  refine absorb_lastBlock ctx.buf ?_ size
  rw [List.length_append, length, fills]

/-- There is none: the buffer is filled up with zeros, and the next block begins with zeros. -/
theorem lastBlocks_two {front : List XmU8} {zeros : Nat} (whole : ctx.input.length = 64)
    (held : ctx.input.take front.length = front) (fills : front.length + zeros = 64)
    : LastBlocks ctx
        ((ctx.move front.length (List.replicate zeros 0)).transform.move 0 (List.replicate 56 0))
        (front ++ List.replicate (zeros + 56) 0) := by
  have length : (List.replicate zeros (0 : XmU8)).length = zeros := List.length_replicate
  have moved := move_fills whole
    (show front.length + (List.replicate zeros (0 : XmU8)).length = 64 by omega)
  rw [held] at moved
  have block : (front ++ List.replicate zeros (0 : XmU8)).length = md5Compression.size := by
    rw [List.length_append, length]
    exact fills
  have again : (ctx.move front.length (List.replicate zeros 0)).transform.input.length = 64 := by
    rw [DigestCtx.transform_eq]
    exact (congrArg List.length moved).trans block
  obtain ⟨length', moved'⟩ := move_inside again
    (show 0 + (List.replicate 56 (0 : XmU8)).length ≤ 64 by rw [List.length_replicate]; decide)
  rw [List.length_replicate, Nat.zero_add, List.take_zero, List.nil_append] at moved'
  refine { length := length', bits := rfl, absorbed := ?_ }
  intro count size
  rw [moved', List.replicate_add, ← List.append_assoc, List.append_assoc,
    Compression.absorb_block _ block, absorb_lastBlock _ List.length_replicate size,
    DigestCtx.transform_eq]
  exact congrArg
    (fun block => md5Compression.compress (md5Compression.compress ctx.buf block) _) moved.symm

/-- The padding of `DigestFinal` is that of MD5. -/
theorem padInput_lastBlocks (fed : Fed ctx message)
    : LastBlocks ctx (padInput ctx)
        (md5Compression.rest message
          ++ 0x80 :: List.replicate ((119 - message.length % 64) % 64) 0) := by
  have whole : ctx.input.length = 64 := fed.buffered.length
  have below : message.length % 64 < 64 := Nat.mod_lt _ (by decide)
  have frontLength : (md5Compression.rest message ++ [0x80]).length
      = message.length % 64 + 1 := by
    rw [List.length_append, md5Compression.length_rest]
    rfl
  obtain ⟨length, held⟩ := move_inside whole
    (show message.length % 64 + [(0x80 : XmU8)].length ≤ 64 from below)
  have held : (ctx.move (message.length % 64) [0x80]).input.take
      (md5Compression.rest message ++ [0x80]).length = md5Compression.rest message ++ [0x80] := by
    rw [frontLength]
    exact held.trans (congrArg (· ++ [0x80]) fed.buffered.front)
  unfold padInput
  dsimp only
  rw [fed.bits, countOf_bitsOf, List.append_cons, ← frontLength]
  split
  · next few =>
      have zeros : (119 - message.length % 64) % 64 = 64 - 1 - message.length % 64 + 56 := by
        omega
      have fills : (md5Compression.rest message ++ [0x80]).length
          + (64 - 1 - message.length % 64) = 64 := by
        omega
      obtain ⟨length', bits, absorbed⟩ := lastBlocks_two length held fills
      rw [zeros]
      exact { length := length', bits, absorbed }
  · next many =>
      have zeros : (119 - message.length % 64) % 64 = 64 - 1 - message.length % 64 - 8 := by
        omega
      have fills : (md5Compression.rest message ++ [0x80]).length
          + (64 - 1 - message.length % 64 - 8) = 56 := by
        omega
      obtain ⟨length', bits, absorbed⟩ := lastBlocks_one length held fills
      rw [zeros]
      exact { length := length', bits, absorbed }

/-- A context that has been given a message gives its digest. -/
theorem digestFinal_fed (fed : Fed ctx message) : (digestFinal ctx).1 = md5 message := by
  have padded := padInput_lastBlocks fed
  obtain ⟨length, first⟩ := move_inside padded.length
    (show 56 + (wordBytes (padInput ctx).bits.1).length ≤ 64 from Nat.le_of_ble_eq_true rfl)
  have last := move_fills length
    (show 60 + (wordBytes (padInput ctx).bits.2).length = 64 from rfl)
  have bits : (padInput ctx).bits = bitsOf message.length := padded.bits.trans fed.bits
  have input : (((padInput ctx).move 56 (wordBytes (padInput ctx).bits.1)).move 60
      (wordBytes (padInput ctx).bits.2)).input
        = (padInput ctx).input.take 56
          ++ (wordBytes (bitsOf message.length).1 ++ wordBytes (bitsOf message.length).2) := by
    rw [last, ← bits, ← List.append_assoc]
    exact congrArg (· ++ _) first
  have absorbed := padded.absorbed
    (wordBytes (bitsOf message.length).1 ++ wordBytes (bitsOf message.length).2) rfl
  have state : md5Compression.absorb md5Start (message ++ md5Padding message.length)
      = md5Compression.compress (padInput ctx).buf
          (((padInput ctx).move 56 (wordBytes (padInput ctx).bits.1)).move 60
            (wordBytes (padInput ctx).bits.2)).input := by
    rw [input, ← absorbed, Compression.absorb_append, ← fed.buffered.state]
    unfold md5Padding bitsOf
    simp only [List.append_assoc]
  unfold digestFinal md5
  dsimp only
  rw [state]
  simp only [byteReverse_eq, md5Transform_eq]
  rfl

/-- Witness: induction on the updates, the last one first. -/
theorem digestUpdates_fed (stale : Vector XmU8 64) (buf : Md5Regs) (bits : XmU32 × XmU32)
    (chunks : List Chunk)
    : Fed (chunks.foldl digestUpdate (digestInit ⟨stale.toList, buf, bits⟩))
        (chunks.flatMap Subtype.val) := by
  induction chunks using List.reverseRecOn with
  | nil =>
      exact
        { buffered := Buffered.empty md5Compression md5Start stale.length_toList
          bits := rfl }
  | append_singleton chunks chunk ih =>
      rw [List.foldl_append, List.flatMap_append, List.flatMap_singleton]
      exact digestUpdate_fed ih chunk

/-- A file's digest in three parts, with zeros for the digest in it. -/
theorem digestAround_md5 (stale : Vector XmU8 64) (buf : Md5Regs) (bits : XmU32 × XmU32)
    (front back : Chunk)
    : (digestFinal ([front, ⟨noDigest.toList, by decide⟩, back].foldl digestUpdate
        (digestInit ⟨stale.toList, buf, bits⟩))).1
      = digestAround md5 front.val back.val := by
  rw [digestFinal_fed (digestUpdates_fed stale buf bits _)]
  unfold digestAround
  congr 1
  simp only [List.flatMap_cons, List.flatMap_nil, List.append_nil, List.append_assoc]

/-- However a message is split into updates, the buffer holds them and the padding of `DigestFinal`,
and the digest is MD5 of the message.
-/
theorem digest_eq_md5 (stale : Vector XmU8 64) (buf : Md5Regs) (bits : XmU32 × XmU32)
    (chunks : List Chunk)
    : let ctx := chunks.foldl digestUpdate (digestInit ⟨stale.toList, buf, bits⟩)
      ctx.input.length = 64 ∧ (padInput ctx).input.length = 64
        ∧ (digestFinal ctx).1 = md5 (chunks.flatMap Subtype.val) := by
  have fed := digestUpdates_fed stale buf bits chunks
  exact ⟨fed.buffered.length, (padInput_lastBlocks fed).length, digestFinal_fed fed⟩

end Final

end XtratuM.Boot
