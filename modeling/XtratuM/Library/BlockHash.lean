import Mathlib.Data.List.Basic

/-! Functions of messages that take in whole blocks one after the other, and what is left of a
message when its whole blocks are gone.
-/

namespace BlockHash

/-- How a state takes in a block. -/
structure Compression (σ β : Type) where
  size : Nat
  positive : 0 < size
  compress : σ → List β → σ

variable {σ β : Type}

/-- Takes in the whole blocks of a message. -/
def Compression.absorb (c : Compression σ β) (s : σ) (message : List β) : σ :=
  if c.size ≤ message.length then
    c.absorb (c.compress s (message.take c.size)) (message.drop c.size)
  else
    s
termination_by message.length
decreasing_by
  have positive := c.positive
  rw [List.length_drop]
  omega

/-- What comes after the whole blocks. -/
def Compression.rest (c : Compression σ β) (message : List β) : List β :=
  message.drop (message.length / c.size * c.size)

theorem Compression.length_rest (c : Compression σ β) (message : List β)
    : (c.rest message).length = message.length % c.size := by
  rw [Compression.rest, List.length_drop, Nat.mul_comm]
  have parts := Nat.div_add_mod message.length c.size
  omega

-----------------------------------------------------------------------------------------
-- Short messages and blocks

variable {c : Compression σ β}

theorem Compression.absorb_short (s : σ) {message : List β} (short : message.length < c.size)
    : c.absorb s message = s := by
  rw [Compression.absorb, if_neg (Nat.not_le_of_lt short)]

theorem Compression.rest_short {message : List β} (short : message.length < c.size)
    : c.rest message = message := by
  rw [Compression.rest, Nat.div_eq_of_lt short, Nat.zero_mul, List.drop_zero]

theorem Compression.absorb_block (s : σ) {block : List β} (whole : block.length = c.size)
    (message : List β) : c.absorb s (block ++ message) = c.absorb (c.compress s block) message := by
  have long : c.size ≤ (block ++ message).length := by
    rw [List.length_append]
    omega
  rw [Compression.absorb, if_pos long, List.take_left' whole, List.drop_left' whole]

theorem Compression.rest_block {block : List β} (whole : block.length = c.size)
    (message : List β) : c.rest (block ++ message) = c.rest message := by
  have blocks : (block ++ message).length / c.size * c.size
      = block.length + message.length / c.size * c.size := by
    rw [List.length_append, whole, Nat.add_comm, Nat.add_div_right _ c.positive, Nat.succ_mul,
      Nat.add_comm]
  rw [Compression.rest, blocks, List.drop_length_add_append]
  rfl

/-- A message is short, or a block and another message. -/
theorem Compression.message_cases (c : Compression σ β) (message : List β)
    : message.length < c.size
      ∨ ∃ block later, block.length = c.size ∧ message = block ++ later
        ∧ later.length < message.length := by
  rcases Nat.lt_or_ge message.length c.size with short | long
  · exact Or.inl short
  · refine Or.inr ⟨message.take c.size, message.drop c.size, ?_, ?_, ?_⟩
    · exact List.length_take_of_le long
    · exact (List.take_append_drop _ _).symm
    · have positive := c.positive
      rw [List.length_drop]
      omega

-----------------------------------------------------------------------------------------
-- Messages in parts

/-- What is left of a message is all that matters for what comes later, by induction on its length.
-/
theorem Compression.absorb_append (s : σ) (message later : List β)
    : c.absorb s (message ++ later) = c.absorb (c.absorb s message) (c.rest message ++ later) := by
  induction size : message.length using Nat.strongRecOn generalizing s message with
  | ind size ih =>
      rcases c.message_cases message with short | ⟨block, others, whole, rfl, shorter⟩
      · rw [absorb_short s short, rest_short short]
      · rw [List.append_assoc, absorb_block s whole, absorb_block s whole, rest_block whole]
        exact ih _ (size ▸ shorter) _ others rfl

theorem Compression.rest_append (message later : List β)
    : c.rest (message ++ later) = c.rest (c.rest message ++ later) := by
  induction size : message.length using Nat.strongRecOn generalizing message with
  | ind size ih =>
      rcases c.message_cases message with short | ⟨block, others, whole, rfl, shorter⟩
      · rw [rest_short short]
      · rw [List.append_assoc, rest_block whole, rest_block whole]
        exact ih _ (size ▸ shorter) others rfl

-----------------------------------------------------------------------------------------
-- Buffers

/-- A state and a buffer after a message: the state has taken in the whole blocks, and the rest is
in front of the buffer, which holds a block.
-/
structure Buffered (c : Compression σ β) (start : σ) (message : List β) (s : σ) (buffer : List β)
    : Prop where
  state : s = c.absorb start message
  length : buffer.length = c.size
  front : buffer.take (message.length % c.size) = c.rest message

variable {start s : σ} {message buffer : List β}

theorem Buffered.empty (c : Compression σ β) (start : σ) (whole : buffer.length = c.size)
    : Buffered c start [] start buffer where
  state :=
    (Compression.absorb_short start (show ([] : List β).length < c.size from c.positive)).symm
  length := whole
  front := by simp [Compression.rest]

/-- What comes later is taken in together with what was left. -/
theorem Buffered.append (buffered : Buffered c start message s buffer) {later buffer' : List β}
    {s' : σ} (state : s' = c.absorb s (c.rest message ++ later))
    (length : buffer'.length = c.size)
    (front : buffer'.take ((c.rest message ++ later).length % c.size)
      = c.rest (c.rest message ++ later))
    : Buffered c start (message ++ later) s' buffer' where
  state := by rw [state, buffered.state, ← Compression.absorb_append]
  length := length
  front := by
    have ends : (message ++ later).length % c.size
        = (c.rest message ++ later).length % c.size := by
      rw [List.length_append, List.length_append, c.length_rest, Nat.mod_add_mod]
    rw [ends, Compression.rest_append, front]

end BlockHash
