import Mathlib.Data.Vector.Basic
import XtratuM.Boot.ToolFiles

/-! Files with a header in front that has the digest of the whole file, taken with zeros for the
digest. Containers and partition images are such files; what is in front of the digest is as long
in both.
-/

namespace XtratuM.Boot

open ByteFiles

def XM_SET_VERSION (ver subver rev : XmU32) : XmU32 :=
  (ver &&& 0xff) <<< 16 ||| (subver &&& 0xff) <<< 8 ||| (rev &&& 0xff)

def XM_GET_VERSION (v : XmU32) : XmU32 := (v >>> 16) &&& 0xff
def XM_GET_SUBVERSION (v : XmU32) : XmU32 := (v >>> 8) &&& 0xff

/-- The offset of the digest in a header, and of what follows it. -/
def DIGEST_OFFSET : Nat := 12
def AFTER_DIGEST : Nat := 28

def noDigest : Vector XmU8 XM_DIGEST_BYTES := Vector.replicate _ 0

/-- The bytes of an array in a structure, from an offset on. -/
def vectorAt (n : Nat) (bytes : List XmU8) (offset : Nat) : Vector XmU8 n :=
  Vector.ofFn fun i => bytes.getD (offset + i) 0

theorem vectorAt_append {n offset : Nat} {before after : List XmU8} {v : Vector XmU8 n}
    (start : before.length = offset)
    : vectorAt n (before ++ v.toList ++ after) offset = v := by
  apply Vector.ext
  intro i inside
  have listed : i < v.toList.length := by simpa using inside
  simp [vectorAt, List.getD, ← start, List.getElem?_append_right,
    List.getElem?_append_left listed, inside]

/-- A kind of header: its bytes before the digest and after it, and how the digest is set. -/
structure HdrFormat (H : Type) where
  codec : Codec H XmU8
  digest : H → Vector XmU8 XM_DIGEST_BYTES
  setDigest : H → Vector XmU8 XM_DIGEST_BYTES → H
  front : H → List XmU8
  back : H → List XmU8
  encode_eq : ∀ hdr, codec.encode hdr = front hdr ++ (digest hdr).toList ++ back hdr
  length_front : ∀ hdr, (front hdr).length = DIGEST_OFFSET
  digest_setDigest : ∀ hdr sum, digest (setDigest hdr sum) = sum
  front_setDigest : ∀ hdr sum, front (setDigest hdr sum) = front hdr
  back_setDigest : ∀ hdr sum, back (setDigest hdr sum) = back hdr

variable {H ε : Type} {format : HdrFormat H} {failed unread : ε} {digest : Digest}

/-- The header is written twice: without the digest of the file, and with it. -/
def HdrFormat.writeHdr (format : HdrFormat H) (failed unread : ε) (digest : Digest) (fd : Fd)
    (hdr : H) (fileSize : XmU32) : Except ε (H × Fd) := do
  let fd ← (fd.lseek 0).doWrite failed (format.codec.encode hdr)
  let (img, fd) := fd.readFrom 0 fileSize
  if img.length ≠ fileSize.toNat then
    throw unread
  else
    let sealed := format.setDigest hdr (digest img)
    let fd ← (fd.lseek 0).doWrite failed (format.codec.encode sealed)
    pure (sealed, fd)

/-- The digest of a file whose bytes are given up to its digest and after it. -/
def digestAround (digest : Digest) (front back : List XmU8) : Vector XmU8 XM_DIGEST_BYTES :=
  digest (front ++ noDigest.toList ++ back)

/-- A file with zeros for its digest. -/
def withoutDigest (file : List XmU8) : List XmU8 :=
  writeAt 0 file DIGEST_OFFSET noDigest.toList

/-- A file with its header in front, whose digest is that of the file without it. -/
structure Sealed (format : HdrFormat H) (digest : Digest) (file : List XmU8) (hdr : H)
    (rest : List XmU8) : Prop where
  content : file = format.codec.encode hdr ++ rest
  digest
    : format.digest hdr = digestAround digest (format.front hdr) (format.back hdr ++ rest)

-----------------------------------------------------------------------------------------
-- Writing

/-- The header takes the place of the first bytes. -/
theorem writeHdr_content {fd fd' : Fd} {hdr hdr' : H} {fileSize : XmU32}
    (returned : format.writeHdr failed unread digest fd hdr fileSize = .ok (hdr', fd'))
    : fd'.content = format.codec.encode hdr' ++ fd.content.drop format.codec.size := by
  obtain ⟨fd₁, first, returned⟩ := bind_eq_ok.mp returned
  dsimp only at returned
  split at returned
  · cases returned
  · obtain ⟨fd₂, second, returned⟩ := bind_eq_ok.mp returned
    cases returned
    have hdrLength := format.codec.length_encode
    have content₁ := doWrite_start first
    have content₂ := doWrite_start second
    rw [fd₁.readFrom_content, content₁, hdrLength, hdrLength, List.drop_left' (hdrLength _)]
      at content₂
    exact content₂

theorem writeHdr_sealed {fd fd' : Fd} {hdr hdr' : H} {fileSize : XmU32}
    (returned : format.writeHdr failed unread digest fd hdr fileSize = .ok (hdr', fd'))
    (zeros : format.digest hdr = noDigest) (size : fileSize.toNat = fd.content.length)
    (long : format.codec.size ≤ fd.content.length)
    : Sealed format digest fd'.content hdr' (fd.content.drop format.codec.size) := by
  have content := writeHdr_content returned
  obtain ⟨fd₁, first, returned⟩ := bind_eq_ok.mp returned
  have hdrLength := format.codec.length_encode
  have content₁ := doWrite_start first
  rw [hdrLength] at content₁
  have image : (fd₁.readFrom 0 fileSize).1 = fd₁.content := by
    rw [fd₁.readFrom_start, content₁, size]
    apply List.take_of_length_le
    rw [List.length_append, hdrLength, List.length_drop]
    omega
  dsimp only at returned
  rw [image] at returned
  split at returned
  · cases returned
  · obtain ⟨fd₂, second, returned⟩ := bind_eq_ok.mp returned
    cases returned
    refine ⟨content, ?_⟩
    rw [format.digest_setDigest, format.front_setDigest, format.back_setDigest, content₁,
      format.encode_eq, zeros, List.append_assoc _ (format.back hdr)]
    rfl

/-- The header that is left is the one written, with a digest. -/
theorem writeHdr_hdr {fd fd' : Fd} {hdr hdr' : H} {fileSize : XmU32}
    (returned : format.writeHdr failed unread digest fd hdr fileSize = .ok (hdr', fd'))
    : ∃ sum, hdr' = format.setDigest hdr sum := by
  obtain ⟨fd₁, first, returned⟩ := bind_eq_ok.mp returned
  dsimp only at returned
  split at returned
  · cases returned
  · obtain ⟨fd₂, second, returned⟩ := bind_eq_ok.mp returned
    cases returned
    exact ⟨_, rfl⟩

theorem writeHdr_length {fd fd' : Fd} {hdr hdr' : H} {fileSize : XmU32}
    (returned : format.writeHdr failed unread digest fd hdr fileSize = .ok (hdr', fd'))
    (short : fd.content.length ≤ OFF_MAX)
    : fd'.content.length ≤ OFF_MAX := by
  obtain ⟨fd₁, first, returned⟩ := bind_eq_ok.mp returned
  have short₁ : fd₁.content.length ≤ OFF_MAX := doWrite_length first (by rwa [fd.lseek_content])
  dsimp only at returned
  split at returned
  · cases returned
  · obtain ⟨fd₂, second, returned⟩ := bind_eq_ok.mp returned
    cases returned
    refine doWrite_length second ?_
    rwa [Fd.lseek_content, fd₁.readFrom_content]

-----------------------------------------------------------------------------------------
-- What is left in place

/-- The header takes the place of the bytes there. -/
theorem Sealed.keeps {file content : List XmU8} {hdr : H}
    (sealed : Sealed format digest file hdr (content.drop format.codec.size)) {position : Nat}
    {bytes : List XmU8} (after : format.codec.size ≤ position)
    (holds : HasBytes content position bytes)
    : HasBytes file position bytes := by
  have size := format.codec.length_encode hdr
  have replaced := holds.replaceFront (size.le.trans after)
  rw [size] at replaced
  rw [sealed.content]
  exact replaced

theorem Sealed.length {file content : List XmU8} {hdr : H}
    (sealed : Sealed format digest file hdr (content.drop format.codec.size))
    (long : format.codec.size ≤ content.length)
    : file.length = content.length := by
  rw [sealed.content, List.length_append, format.codec.length_encode, List.length_drop]
  exact Nat.add_sub_cancel' long

theorem Sealed.drop {file content : List XmU8} {hdr : H}
    (sealed : Sealed format digest file hdr (content.drop format.codec.size)) {n : Nat}
    (after : format.codec.size ≤ n)
    : file.drop n = content.drop n := by
  have size := format.codec.length_encode hdr
  rw [sealed.content, List.drop_append, List.drop_of_length_le (size.le.trans after),
    List.nil_append, List.drop_drop, size, Nat.add_sub_cancel' after]

-----------------------------------------------------------------------------------------
-- Reading

theorem Sealed.hdr_eq {file rest : List XmU8} {hdr : H}
    (sealed : Sealed format digest file hdr rest)
    : format.codec.decode (file.take format.codec.size) = hdr := by
  rw [sealed.content, List.take_left' (format.codec.length_encode hdr),
    format.codec.decode_encode]

theorem Sealed.long {file rest : List XmU8} {hdr : H}
    (sealed : Sealed format digest file hdr rest)
    : format.codec.size ≤ file.length := by
  rw [sealed.content, List.length_append, format.codec.length_encode]
  exact Nat.le_add_right _ _

/-- The header and the rest, around the digest. -/
theorem Sealed.parts {file rest : List XmU8} {hdr : H}
    (sealed : Sealed format digest file hdr rest)
    : file.take DIGEST_OFFSET = format.front hdr
      ∧ file.drop AFTER_DIGEST = format.back hdr ++ rest := by
  have split : file = format.front hdr ++ (format.digest hdr).toList
      ++ (format.back hdr ++ rest) := by
    rw [sealed.content, format.encode_eq, List.append_assoc]
  have both : (format.front hdr ++ (format.digest hdr).toList).length = AFTER_DIGEST := by
    rw [List.length_append, format.length_front, Vector.length_toList]
    rfl
  constructor
  · rw [split, List.append_assoc, List.take_left' (format.length_front hdr)]
  · rw [split, List.drop_left' both]

/-- The digest of a header is that of the file around it. -/
theorem Sealed.digest_eq {file rest : List XmU8} {hdr : H}
    (sealed : Sealed format digest file hdr rest)
    : digestAround digest (file.take DIGEST_OFFSET) (file.drop AFTER_DIGEST)
      = format.digest hdr := by
  rw [sealed.parts.1, sealed.parts.2, sealed.digest]

theorem Sealed.withoutDigest {file rest : List XmU8} {hdr : H}
    (sealed : Sealed format digest file hdr rest)
    : digest (Boot.withoutDigest file) = format.digest hdr := by
  have front : (file.take DIGEST_OFFSET).length = DIGEST_OFFSET := by
    rw [sealed.parts.1, format.length_front]
  have long : DIGEST_OFFSET ≤ file.length := by
    rw [← front, List.length_take]
    exact Nat.min_le_right _ _
  have some : noDigest.toList ≠ [] := List.cons_ne_nil _ _
  rw [← sealed.digest_eq, digestAround, Boot.withoutDigest, writeAt_of_ne_nil 0 file _ some,
    Nat.sub_eq_zero_of_le long, List.replicate_zero, List.append_nil]
  rfl

end XtratuM.Boot
