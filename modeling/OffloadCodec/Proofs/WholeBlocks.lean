import OffloadCodec.Bytes

/-!
# Whole blocks of a byte string

A byte string that arrives in parts fills blocks of a fixed size and leaves fewer bytes than a block
behind. `Bytes.whole` are the blocks that it fills and `Bytes.leftover` is what stands behind them;
both can be taken part by part (`whole_append`, `leftover_append`), and chunking the leftover at the
end gives the chunks of the whole string (`chunks_eq_whole_append`).
-/

namespace OffloadCodec.Bytes

/-- The consecutive blocks of `size` bytes that a byte string fills. -/
def whole (size : Nat) (bytes : Bytes) : List Bytes :=
  chunks size (bytes.take (bytes.length / size * size))

/-- What stands behind the last block that is filled. -/
def leftover (size : Nat) (bytes : Bytes) : Bytes :=
  bytes.drop (bytes.length / size * size)

variable {size : Nat}

/-- Block by block: a property of what fills no block that holds on in front of which one more block
stands holds of every byte string. -/
theorem block_induction {P : Bytes → Prop} (positive : 0 < size)
    (short : ∀ bytes : Bytes, bytes.length < size → P bytes)
    (block : ∀ first rest : Bytes, first.length = size → P rest → P (first ++ rest))
    (bytes : Bytes) : P bytes := by
  induction hlength : bytes.length using Nat.strongRecOn generalizing bytes with
  | ind n ih =>
    subst hlength
    rcases Nat.lt_or_ge bytes.length size with less | enough
    · exact short bytes less
    · have dropped : (bytes.drop size).length < bytes.length := by
        rw [List.length_drop]
        omega
      have rest : P (bytes.drop size) := ih _ dropped _ rfl
      have taken : (bytes.take size).length = size := by
        rw [List.length_take]
        omega
      have both := block _ _ taken rest
      rwa [List.take_append_drop] at both

/-! ## One block in front -/

theorem chunks_block_append {first : Bytes} (positive : 0 < size) (length : first.length = size)
    (rest : Bytes) : chunks size (first ++ rest) = first :: chunks size rest := by
  have nonempty : first ++ rest ≠ [] := by
    intro empty
    rw [List.append_eq_nil_iff] at empty
    rw [empty.1] at length
    exact absurd length (by simp only [List.length_nil]; omega)
  rw [chunks_of_ne_nil positive nonempty, List.take_left' length, List.drop_left' length]

theorem length_div_block_append {first : Bytes} (positive : 0 < size)
    (length : first.length = size) (rest : Bytes) :
    (first ++ rest).length / size * size = size + rest.length / size * size := by
  rw [List.length_append, length, Nat.add_comm size, Nat.add_div_right _ positive,
    Nat.succ_mul, Nat.add_comm]

theorem whole_block_append {first : Bytes} (positive : 0 < size) (length : first.length = size)
    (rest : Bytes) : whole size (first ++ rest) = first :: whole size rest := by
  rw [whole, length_div_block_append positive length, List.take_append, length,
    Nat.add_sub_cancel_left, List.take_of_length_le (by omega),
    chunks_block_append positive length, whole]

theorem leftover_block_append {first : Bytes} (positive : 0 < size)
    (length : first.length = size) (rest : Bytes) :
    leftover size (first ++ rest) = leftover size rest := by
  rw [leftover, length_div_block_append positive length, List.drop_append, length,
    Nat.add_sub_cancel_left, List.drop_of_length_le (by omega), List.nil_append, leftover]

/-! ## Less than a block -/

theorem whole_of_lt {bytes : Bytes} (less : bytes.length < size) : whole size bytes = [] := by
  rw [whole, Nat.div_eq_of_lt less, Nat.zero_mul, List.take_zero, chunks_nil]

theorem leftover_of_lt {bytes : Bytes} (less : bytes.length < size) :
    leftover size bytes = bytes := by
  rw [leftover, Nat.div_eq_of_lt less, Nat.zero_mul, List.drop_zero]

/-- What fills no block is one chunk, or none if it is empty. -/
theorem chunks_of_lt {bytes : Bytes} (less : bytes.length < size) :
    chunks size bytes = if bytes = [] then [] else [bytes] := by
  split
  · next empty => rw [empty, chunks_nil]
  · next nonempty =>
    rw [chunks_of_ne_nil (by omega) nonempty, List.take_of_length_le (by omega),
      List.drop_of_length_le (by omega), chunks_nil]

theorem whole_block {block : Bytes} (positive : 0 < size) (length : block.length = size) :
    whole size block = [block] := by
  have alone := whole_block_append positive length []
  have none : whole size [] = [] := whole_of_lt positive
  rwa [List.append_nil, none] at alone

theorem leftover_block {block : Bytes} (positive : 0 < size) (length : block.length = size) :
    leftover size block = [] := by
  have alone := leftover_block_append positive length []
  have none : leftover size [] = [] := leftover_of_lt positive
  rwa [List.append_nil, none] at alone

/-! ## Parts of a byte string -/

theorem chunks_eq_whole_append (positive : 0 < size) (bytes : Bytes) :
    chunks size bytes = whole size bytes ++ chunks size (leftover size bytes) := by
  induction bytes using block_induction positive with
  | short bytes less => rw [whole_of_lt less, leftover_of_lt less, List.nil_append]
  | block first rest length ih =>
    rw [chunks_block_append positive length, whole_block_append positive length,
      leftover_block_append positive length, ih, List.cons_append]

theorem whole_append (positive : 0 < size) (bytes more : Bytes) :
    whole size (bytes ++ more) = whole size bytes ++ whole size (leftover size bytes ++ more) := by
  induction bytes using block_induction positive with
  | short bytes less => rw [whole_of_lt less, leftover_of_lt less, List.nil_append]
  | block first rest length ih =>
    rw [List.append_assoc, whole_block_append positive length, whole_block_append positive length,
      leftover_block_append positive length, ih, List.cons_append]

theorem leftover_append (positive : 0 < size) (bytes more : Bytes) :
    leftover size (bytes ++ more) = leftover size (leftover size bytes ++ more) := by
  induction bytes using block_induction positive with
  | short bytes less => rw [leftover_of_lt less]
  | block first rest length ih =>
    rw [List.append_assoc, leftover_block_append positive length,
      leftover_block_append positive length, ih]

end OffloadCodec.Bytes
