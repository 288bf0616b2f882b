import XtratuM.Boot.ImageCompression

/-! What `LZSSCompress` makes of bytes of which nothing repeats: every unit is a byte. Reading them
back shows that what is assumed of it can be met.
-/

namespace XtratuM.Boot

-----------------------------------------------------------------------------------------
-- The units

/-- The flags of a group whose first `units` units are bytes. -/
def literalFlags (units : Nat) : XmU8 := BitVec.ofNat 8 (2 ^ units - 1)

/-- Bytes of which nothing repeats, with so many units left under the last flags. -/
def literals : Nat → List XmU8 → List XmU8
  | _, [] => []
  | 0, byte :: bytes => literalFlags (min 8 (bytes.length + 1)) :: byte :: literals 7 bytes
  | left + 1, byte :: bytes => byte :: literals left bytes

/-- `LZSSCompress` on bytes of which nothing repeats. -/
def literalCompress : LzssCompress := fun _ bytes outSize => (literals 0 bytes).take outSize

theorem length_literals (left : Nat) (bytes : List XmU8) (few : left ≤ 7)
    : (literals left bytes).length ≤ bytes.length + (bytes.length + 7 - left) / 8 := by
  fun_induction literals left bytes with
  | case1 => exact Nat.zero_le _
  | case2 byte bytes ih =>
      have later := ih (Nat.le_refl _)
      simp only [List.length_cons]
      omega
  | case3 left byte bytes ih =>
      have later := ih (by omega)
      simp only [List.length_cons]
      omega

/-- The flags before a unit, when so many are left under them and so many bytes are to come. -/
def FlagsLeft : Nat → Nat → Nat → Prop
  | 0, _, flags => flags / 2 &&& 256 = 0
  | left + 1, n, flags =>
      flags = ((literalFlags (7 - left + min (left + 1) n)).toNat ||| 0xff00) / 2 ^ (6 - left)

theorem literalFlags_bits
    : ∀ units ≤ 8, ∀ t ≤ 7, ((literalFlags units).toNat ||| 0xff00) / 2 ^ t &&& 256 ≠ 0
      ∧ (t < units → ((literalFlags units).toNat ||| 0xff00) / 2 ^ t &&& 1 ≠ 0) := by
  decide

theorem literalFlags_last
    : ∀ units ≤ 8, ((literalFlags units).toNat ||| 0xff00) / 2 ^ 7 / 2 &&& 256 = 0 := by
  decide

theorem flagsLeft_first (n : Nat)
    : ((literalFlags (min 8 (n + 1))).toNat ||| 0xff00) &&& 1 ≠ 0
      ∧ FlagsLeft 7 n ((literalFlags (min 8 (n + 1))).toNat ||| 0xff00) := by
  have bits := literalFlags_bits (min 8 (n + 1)) (Nat.min_le_left _ _) 0 (Nat.zero_le _)
  have units : 7 - 6 + min (6 + 1) n = min 8 (n + 1) := by omega
  rw [Nat.pow_zero, Nat.div_one] at bits
  refine ⟨bits.2 (by omega), ?_⟩
  change _ = ((literalFlags (7 - 6 + min (6 + 1) n)).toNat ||| 0xff00) / 2 ^ (6 - 6)
  rw [units, Nat.sub_self, Nat.pow_zero, Nat.div_one]

theorem flagsLeft_next {left n flags : Nat} (few : left ≤ 6)
    (before : FlagsLeft (left + 1) (n + 1) flags)
    : flags / 2 &&& 256 ≠ 0 ∧ flags / 2 &&& 1 ≠ 0 ∧ FlagsLeft left n (flags / 2) := by
  have half : flags / 2 = ((literalFlags (7 - left + min (left + 1) (n + 1))).toNat ||| 0xff00)
      / 2 ^ (7 - left) := by
    rw [before, Nat.div_div_eq_div_mul, ← Nat.pow_succ]
    congr 2
    omega
  have bits := literalFlags_bits (7 - left + min (left + 1) (n + 1)) (by omega) (7 - left)
    (by omega)
  rw [half]
  refine ⟨bits.1, bits.2 (by omega), ?_⟩
  cases left with
  | zero => exact literalFlags_last _ (by omega)
  | succ left =>
      have units : 7 - (left + 1) + min (left + 1 + 1) (n + 1) = 7 - left + min (left + 1) n := by
        omega
      have shift : 7 - (left + 1) = 6 - left := by omega
      unfold FlagsLeft
      rw [units, shift]

-----------------------------------------------------------------------------------------
-- Reading them back

theorem readByte_ends {data : Nat → XmU8} {inSize : Nat} {s : Lzss} (ending : inSize ≤ s.readCnt)
    : readByte data inSize s = none :=
  if_pos ending

theorem readByte_reads {data : Nat → XmU8} {inSize : Nat} {s : Lzss} (more : s.readCnt < inSize)
    {byte : XmU8} (here : some (data s.readCnt) = some byte)
    : readByte data inSize s = some (byte, { s with readCnt := s.readCnt + 1 }) := by
  unfold readByte
  rw [if_neg (Nat.not_le_of_lt more), Option.some.inj here]

/-- Where the input ends there is no further unit. -/
theorem lzssUnit_ends {data : Nat → XmU8} {inSize outSize : Nat} {s : Lzss}
    (ending : inSize ≤ s.readCnt)
    : lzssUnit data inSize outSize s = none := by
  unfold lzssUnit nextFlags
  dsimp only
  split
  · rw [readByte_ends ending]
    rfl
  · change (if s.flags / 2 &&& 1 ≠ 0 then
        literal data inSize outSize { s with flags := s.flags / 2 }
      else copyMatch data inSize outSize { s with flags := s.flags / 2 }) = none
    have none : readByte data inSize { s with flags := s.flags / 2 } = none := readByte_ends ending
    split
    · rw [literal, none]
      rfl
    · rw [copyMatch, none]
      rfl

theorem lzssUnit_literal {data : Nat → XmU8} {inSize outSize : Nat} {s t : Lzss}
    (flags : nextFlags data inSize s = some t) (set : t.flags &&& 1 ≠ 0)
    (more : t.readCnt < inSize) {byte : XmU8} (here : some (data t.readCnt) = some byte)
    : lzssUnit data inSize outSize s
      = some (writeByte outSize byte { t with readCnt := t.readCnt + 1 }) := by
  unfold lzssUnit
  rw [flags]
  change (if t.flags &&& 1 ≠ 0 then literal data inSize outSize t
    else copyMatch data inSize outSize t) = _
  rw [if_pos set, literal, readByte_reads more here]
  rfl

theorem writeByte_room {outSize : Nat} (c : XmU8) {s : Lzss} (room : s.written.length < outSize)
    : (writeByte outSize c s).written = s.written ++ [c] :=
  if_neg (Nat.not_le_of_lt room)

/-- A byte with so many units left under the flags, and what has been read for it. -/
structure LiteralRead (left n read : Nat) (byte : XmU8) (s t : Lzss) : Prop where
  readCnt : t.readCnt = s.readCnt + read
  written : t.written = s.written ++ [byte]
  flags : FlagsLeft left n t.flags

theorem lzssUnit_first {data : Nat → XmU8} {inSize outSize n : Nat} {byte : XmU8} {s : Lzss}
    (flags : FlagsLeft 0 (n + 1) s.flags) (more : s.readCnt + 1 < inSize)
    (room : s.written.length < outSize)
    (flagByte : some (data s.readCnt) = some (literalFlags (min 8 (n + 1))))
    (here : some (data (s.readCnt + 1)) = some byte)
    : ∃ t, lzssUnit data inSize outSize s = some t ∧ LiteralRead 7 n 2 byte s t := by
  have next : nextFlags data inSize s = some
      { s with
        readCnt := s.readCnt + 1
        flags := (literalFlags (min 8 (n + 1))).toNat ||| 0xff00 } := by
    have read := readByte_reads (show s.readCnt < inSize by omega) flagByte
    have none : s.flags / 2 &&& 256 = 0 := flags
    unfold nextFlags
    dsimp only
    rw [if_pos none, read]
    rfl
  have first := flagsLeft_first n
  exact ⟨_, lzssUnit_literal next first.1 more here, rfl, writeByte_room byte room, first.2⟩

theorem lzssUnit_next {data : Nat → XmU8} {inSize outSize left n : Nat} {byte : XmU8} {s : Lzss}
    (few : left ≤ 6) (flags : FlagsLeft (left + 1) (n + 1) s.flags) (more : s.readCnt < inSize)
    (room : s.written.length < outSize) (here : some (data s.readCnt) = some byte)
    : ∃ t, lzssUnit data inSize outSize s = some t ∧ LiteralRead left n 1 byte s t := by
  obtain ⟨some, set, left⟩ := flagsLeft_next few flags
  have next : nextFlags data inSize s = Option.some { s with flags := s.flags / 2 } := if_neg some
  exact ⟨_, lzssUnit_literal next set more here, rfl, writeByte_room byte room, left⟩

theorem LiteralRead.rest {data : Nat → XmU8} {left n read : Nat} {byte : XmU8} {s t : Lzss}
    (reads : LiteralRead left n read byte s t) (front : List XmU8) {later : List XmU8}
    (begins : BeginsWith (fun i => data (s.readCnt + i)) (front ++ later))
    (length : front.length = read)
    : BeginsWith (fun i => data (t.readCnt + i)) later := by
  have behind := (beginsWith_append.mp begins).2
  rw [length] at behind
  rw [reads.readCnt]
  simpa only [Nat.add_assoc] using behind

theorem LiteralRead.loop {data : Nat → XmU8} {inSize outSize fuel left n read : Nat} {byte : XmU8}
    {bytes : List XmU8} {s t : Lzss} (reads : LiteralRead left n read byte s t)
    (unit : lzssUnit data inSize outSize s = some t)
    (later : ∃ s', lzssLoop data inSize outSize fuel t = .ok s' ∧ s'.written = t.written ++ bytes)
    : ∃ s', lzssLoop data inSize outSize (fuel + 1) s = .ok s'
      ∧ s'.written = s.written ++ byte :: bytes := by
  obtain ⟨s', returned, written⟩ := later
  refine ⟨s', ?_, ?_⟩
  · rw [lzssLoop, unit]
    exact returned
  · rw [written, reads.written, List.append_assoc]
    rfl

/-- What is left of the literals is read to the end. -/
theorem lzssLoop_literals {data : Nat → XmU8} {inSize outSize left fuel : Nat}
    {bytes : List XmU8} {s : Lzss} (few : left ≤ 7)
    (rest : BeginsWith (fun i => data (s.readCnt + i)) (literals left bytes))
    (ending : s.readCnt + (literals left bytes).length = inSize)
    (room : s.written.length + bytes.length ≤ outSize)
    (flags : FlagsLeft left bytes.length s.flags)
    (enough : (literals left bytes).length < fuel)
    : ∃ s', lzssLoop data inSize outSize fuel s = .ok s' ∧ s'.written = s.written ++ bytes := by
  obtain ⟨fuel, rfl⟩ := Nat.exists_eq_add_one_of_ne_zero (Nat.ne_zero_of_lt enough)
  fun_induction literals left bytes generalizing s fuel with
  | case1 left =>
      refine ⟨s, ?_, (List.append_nil _).symm⟩
      rw [lzssLoop, lzssUnit_ends (Nat.le_of_eq ending.symm)]
  | case2 byte bytes ih =>
      rw [List.length_cons, List.length_cons] at ending enough
      rw [List.length_cons] at room flags
      obtain ⟨t, unit, reads⟩ := @lzssUnit_first data inSize outSize bytes.length byte s flags
        (by omega) (by omega) (rest 0 (Nat.zero_lt_succ _))
        (rest 1 (Nat.succ_lt_succ (Nat.zero_lt_succ _)))
      have readCnt := reads.readCnt
      have written : t.written.length = s.written.length + 1 := by
        rw [reads.written, List.length_append, List.length_singleton]
      obtain ⟨fuel, rfl⟩ := Nat.exists_eq_add_one_of_ne_zero (show fuel ≠ 0 by omega)
      exact reads.loop unit (ih (Nat.le_refl _) (reads.rest [_, byte] rest rfl) (by omega)
        (by omega) reads.flags fuel (by omega))
  | case3 left byte bytes ih =>
      rw [List.length_cons] at ending enough room flags
      obtain ⟨t, unit, reads⟩ := @lzssUnit_next data inSize outSize left bytes.length byte s
        (by omega) flags (by omega) (by omega) (rest 0 (Nat.zero_lt_succ _))
      have readCnt := reads.readCnt
      have written : t.written.length = s.written.length + 1 := by
        rw [reads.written, List.length_append, List.length_singleton]
      obtain ⟨fuel, rfl⟩ := Nat.exists_eq_add_one_of_ne_zero (show fuel ≠ 0 by omega)
      exact reads.loop unit (ih (by omega) (reads.rest [byte] rest rfl) (by omega)
        (by omega) reads.flags fuel (by omega))

theorem literalCompress_inverts : LzssInverts literalCompress := by
  constructor
  · intro e bytes outSize
    exact List.length_take_le _ _
  · intro e bytes outSize data textBuf _ room begins
    have length := length_literals 0 bytes (Nat.zero_le _)
    have whole : literalCompress e bytes outSize = literals 0 bytes :=
      List.take_of_length_le (by omega)
    rw [whole] at begins ⊢
    have rest : BeginsWith (fun i => data ((lzssStart textBuf).readCnt + i))
        (literals 0 bytes) := by
      simpa [lzssStart] using begins
    have flags : FlagsLeft 0 bytes.length (lzssStart textBuf).flags :=
      show 0 / 2 &&& 256 = 0 from rfl
    obtain ⟨s', returned, written⟩ := @lzssLoop_literals data (literals 0 bytes).length
      bytes.length 0 ((literals 0 bytes).length + 1) bytes (lzssStart textBuf) (Nat.zero_le _)
      rest (Nat.zero_add _) (Nat.le_of_eq (Nat.zero_add _)) flags (Nat.lt_succ_self _)
    exact ⟨s', returned, written⟩

end XtratuM.Boot
