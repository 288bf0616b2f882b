import Mathlib.Data.List.Basic

/-! Files as sequences of bytes that are written and read at positions, and tables of records of
one size in them. A write beyond the end fills the gap.
-/

namespace ByteFiles

variable {α β : Type*}

/-- Bytes written at a position. Writing nothing changes nothing, wherever it is. -/
def writeAt (filler : β) (content : List β) (position : Nat) : List β → List β
  | [] => content
  | byte :: bytes =>
      content.take position ++ List.replicate (position - content.length) filler
        ++ byte :: bytes ++ content.drop (position + (bytes.length + 1))

def readAt (content : List β) (position n : Nat) : List β :=
  (content.drop position).take n

/-- The file has the bytes at the position. -/
def HasBytes (content : List β) (position : Nat) (bytes : List β) : Prop :=
  ∀ i < bytes.length, content[position + i]? = bytes[i]?

@[simp] theorem hasBytes_nil (content : List β) (position : Nat)
    : HasBytes content position [] := by
  intro i inside
  cases inside

theorem hasBytes_iff_readAt {content : List β} {position : Nat} {bytes : List β}
    : HasBytes content position bytes ↔ readAt content position bytes.length = bytes := by
  unfold HasBytes readAt
  constructor
  · intro holds
    apply List.ext_getElem?
    intro i
    rw [List.getElem?_take, List.getElem?_drop]
    split
    · next inside => exact holds i inside
    · next outside => rw [List.getElem?_eq_none (Nat.le_of_not_lt outside)]
  · intro read i inside
    have same := congrArg (fun bytes => bytes[i]?) read
    simpa [List.getElem?_take, inside, List.getElem?_drop] using same

theorem HasBytes.length_le {content : List β} {position : Nat} {bytes : List β}
    (holds : HasBytes content position bytes) (some : bytes ≠ [])
    : position + bytes.length ≤ content.length := by
  have last := holds (bytes.length - 1) (by
    have := List.length_pos_iff.mpr some
    omega)
  have positive := List.length_pos_iff.mpr some
  by_contra short
  rw [List.getElem?_eq_none (by omega), eq_comm, List.getElem?_eq_none_iff] at last
  omega

-----------------------------------------------------------------------------------------
-- Writes

theorem writeAt_nil (filler : β) (content : List β) (position : Nat)
    : writeAt filler content position [] = content :=
  rfl

theorem writeAt_of_ne_nil (filler : β) (content : List β) (position : Nat) {bytes : List β}
    (some : bytes ≠ [])
    : writeAt filler content position bytes
      = content.take position ++ List.replicate (position - content.length) filler
        ++ bytes ++ content.drop (position + bytes.length) := by
  cases bytes with
  | nil => exact absurd rfl some
  | cons byte bytes => simp [writeAt]

theorem length_writeAt (filler : β) (content : List β) (position : Nat) {bytes : List β}
    (some : bytes ≠ [])
    : (writeAt filler content position bytes).length
      = max content.length (position + bytes.length) := by
  rw [writeAt_of_ne_nil filler content position some]
  simp only [List.length_append, List.length_take, List.length_replicate, List.length_drop]
  omega

theorem length_le_writeAt (filler : β) (content : List β) (position : Nat) (bytes : List β)
    : content.length ≤ (writeAt filler content position bytes).length := by
  by_cases empty : bytes = []
  · simp [empty, writeAt_nil]
  · rw [length_writeAt filler content position empty]
    exact Nat.le_max_left _ _

/-- A file ends where it did, or where the write ends. -/
theorem length_writeAt_le (filler : β) {content : List β} {position n : Nat} {bytes : List β}
    (before : content.length ≤ n) (within : position + bytes.length ≤ n)
    : (writeAt filler content position bytes).length ≤ n := by
  by_cases empty : bytes = []
  · rw [empty, writeAt_nil]
    exact before
  · rw [length_writeAt filler content position empty]
    exact Nat.max_le.mpr ⟨before, within⟩

theorem getElem?_writeAt_inside (filler : β) (content : List β) (position : Nat) (bytes : List β)
    {i : Nat} (inside : i < bytes.length)
    : (writeAt filler content position bytes)[position + i]? = bytes[i]? := by
  have some : bytes ≠ [] := List.ne_nil_of_length_pos (by omega)
  have start : (content.take position
      ++ List.replicate (position - content.length) filler).length = position := by
    simp only [List.length_append, List.length_take, List.length_replicate]
    omega
  rw [writeAt_of_ne_nil filler content position some, List.append_assoc _ bytes,
    List.getElem?_append_right (by omega), start, Nat.add_sub_cancel_left,
    List.getElem?_append_left inside]

theorem getElem?_writeAt_before (filler : β) {content : List β} (position : Nat) (bytes : List β)
    {i : Nat} (before : i < position) (inside : i < content.length)
    : (writeAt filler content position bytes)[i]? = content[i]? := by
  by_cases empty : bytes = []
  · rw [empty, writeAt_nil]
  · rw [writeAt_of_ne_nil filler content position empty, List.append_assoc, List.append_assoc,
      List.getElem?_append_left (by simp; omega), List.getElem?_take_of_lt before]

/-- What follows the bytes written stays. -/
theorem getElem?_writeAt_after (filler : β) (content : List β) {position : Nat} {bytes : List β}
    {i : Nat} (after : position + bytes.length ≤ i)
    : (writeAt filler content position bytes)[i]? = content[i]? := by
  by_cases empty : bytes = []
  · rw [empty, writeAt_nil]
  · have start : (content.take position
        ++ List.replicate (position - content.length) filler ++ bytes).length
          = position + bytes.length := by
      simp only [List.length_append, List.length_take, List.length_replicate]
      omega
    rw [writeAt_of_ne_nil filler content position empty,
      List.getElem?_append_right (by omega), start, List.getElem?_drop]
    congr 1
    omega

/-- A write at the start replaces as many bytes as it writes. -/
theorem writeAt_zero (filler : β) (content : List β) (bytes : List β)
    : writeAt filler content 0 bytes = bytes ++ content.drop bytes.length := by
  cases bytes with
  | nil => simp [writeAt]
  | cons byte bytes => simp [writeAt]

theorem writeAt_length (filler : β) (content bytes : List β)
    : writeAt filler content content.length bytes = content ++ bytes := by
  cases bytes with
  | nil => simp [writeAt]
  | cons byte bytes => simp [writeAt]

theorem hasBytes_writeAt (filler : β) (content : List β) (position : Nat) (bytes : List β)
    : HasBytes (writeAt filler content position bytes) position bytes :=
  fun _ inside => getElem?_writeAt_inside filler content position bytes inside

/-- Bytes apart from those written stay where they are. -/
theorem HasBytes.writeAt {content : List β} {position : Nat} {bytes : List β}
    (holds : HasBytes content position bytes) (filler : β) {other : Nat} {written : List β}
    (apart : position + bytes.length ≤ other ∨ other + written.length ≤ position)
    : HasBytes (writeAt filler content other written) position bytes := by
  intro i inside
  rcases apart with before | after
  · have within := holds.length_le (List.ne_nil_of_length_pos (by omega))
    rw [getElem?_writeAt_before filler other written (by omega) (by omega)]
    exact holds i inside
  · rw [getElem?_writeAt_after filler content (by omega)]
    exact holds i inside

theorem HasBytes.append {content : List β} {position : Nat} {bytes : List β}
    (holds : HasBytes content position bytes) (more : List β)
    : HasBytes (content ++ more) position bytes := by
  intro i inside
  have within := holds.length_le (List.ne_nil_of_length_pos (by omega))
  rw [List.getElem?_append_left (by omega)]
  exact holds i inside

/-- What comes after the front of a file stays when the front is replaced. -/
theorem HasBytes.replaceFront {content : List β} {position : Nat} {bytes : List β}
    (holds : HasBytes content position bytes) {front : List β} (after : front.length ≤ position)
    : HasBytes (front ++ content.drop front.length) position bytes := by
  intro i inside
  rw [List.getElem?_append_right (by omega), List.getElem?_drop,
    show front.length + (position + i - front.length) = position + i by omega]
  exact holds i inside

-----------------------------------------------------------------------------------------
-- Records

/-- A record of a fixed size, as it is laid out in a file. -/
structure Codec (α β : Type*) where
  size : Nat
  encode : α → List β
  decode : List β → α
  length_encode : ∀ a, (encode a).length = size
  decode_encode : ∀ a, decode (encode a) = a

/-- A table of records, one after the other. -/
def Codec.encodeTable (codec : Codec α β) (table : List α) : List β :=
  table.flatMap codec.encode

def Codec.decodeTable (codec : Codec α β) : Nat → List β → List α
  | 0, _ => []
  | n + 1, bytes =>
      codec.decode (bytes.take codec.size) :: codec.decodeTable n (bytes.drop codec.size)

@[simp] theorem Codec.length_encodeTable (codec : Codec α β) (table : List α)
    : (codec.encodeTable table).length = codec.size * table.length := by
  induction table with
  | nil => rfl
  | cons a table ih =>
      have steps : codec.encodeTable (a :: table) = codec.encode a ++ codec.encodeTable table :=
        List.flatMap_cons
      rw [steps, List.length_append, codec.length_encode, ih, List.length_cons, Nat.mul_succ,
        Nat.add_comm]

/-- A table is read back, whatever follows it. -/
theorem Codec.decodeTable_encodeTable_append (codec : Codec α β) (table : List α) (rest : List β)
    : codec.decodeTable table.length (codec.encodeTable table ++ rest) = table := by
  induction table with
  | nil => rfl
  | cons a table ih =>
      have steps : codec.encodeTable (a :: table) = codec.encode a ++ codec.encodeTable table :=
        List.flatMap_cons
      have size := codec.length_encode a
      rw [List.length_cons, Codec.decodeTable, steps, List.append_assoc, List.take_left' size,
        List.drop_left' size, codec.decode_encode, ih]

theorem Codec.decodeTable_encodeTable (codec : Codec α β) (table : List α)
    : codec.decodeTable table.length (codec.encodeTable table) = table := by
  simpa using codec.decodeTable_encodeTable_append table []

end ByteFiles
