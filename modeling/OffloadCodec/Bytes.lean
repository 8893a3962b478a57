/-!
# Byte strings

Byte strings are lists, so that framing and chunking are facts about append, `take` and `drop`.

* `le32` writes a length as four bytes, least significant first, and `ofLe` reads it back
  (`ofLe_le32`).
* `chunks` cuts a byte string into consecutive pieces of one size, the last one possibly shorter
  (`flatten_chunks`, `length_le_of_mem_chunks`).
-/

namespace OffloadCodec

abbrev Bytes := List UInt8

namespace Bytes

/-- A number as four bytes, least significant first; what does not fit 32 bits is dropped. -/
def le32 (n : Nat) : Bytes :=
  [UInt8.ofNat n, UInt8.ofNat (n >>> 8), UInt8.ofNat (n >>> 16), UInt8.ofNat (n >>> 24)]

/-- The number that a byte string denotes, least significant byte first. -/
def ofLe : Bytes → Nat
  | [] => 0
  | b :: bs => b.toNat + UInt8.size * ofLe bs

/-- Bytes as pairs of lower-case hexadecimal digits. -/
def toHex (bytes : Bytes) : String :=
  String.ofList (bytes.flatMap fun b => [(b.toNat / 16).digitChar, (b.toNat % 16).digitChar])

@[simp] theorem length_le32 (n : Nat) : (le32 n).length = 4 := rfl

theorem ofLe_le32 {n : Nat} (h : n < UInt32.size) : ofLe (le32 n) = n := by
  simp only [le32, ofLe, UInt8.toNat_ofNat', UInt8.size, UInt32.size] at h ⊢
  omega

/-- Consecutive pieces of `size` bytes, the last one possibly shorter; none when `size` is zero. -/
def chunks (size : Nat) (bytes : Bytes) : List Bytes :=
  if _h : size = 0 ∨ bytes = [] then [] else bytes.take size :: chunks size (bytes.drop size)
termination_by bytes.length
decreasing_by
  have := List.length_pos_iff.2 (not_or.1 _h).2
  simp only [List.length_drop]
  omega

/-- The pieces that fill a block of `size` bytes with `room` bytes left, then further blocks. -/
def pieces (room size : Nat) (bytes : Bytes) : List Bytes :=
  if bytes = [] then [] else bytes.take room :: chunks size (bytes.drop room)

@[simp] theorem chunks_nil (size : Nat) : chunks size [] = [] := by
  rw [chunks]; simp

theorem chunks_of_ne_nil {size : Nat} {bytes : Bytes} (hs : 0 < size) (hb : bytes ≠ []) :
    chunks size bytes = bytes.take size :: chunks size (bytes.drop size) := by
  rw [chunks, dif_neg (by simp [hb]; omega)]

/-- Cutting loses nothing and keeps the order. -/
theorem flatten_chunks {size : Nat} (hs : 0 < size) (bytes : Bytes) :
    (chunks size bytes).flatten = bytes := by
  fun_induction chunks size bytes with
  | case1 bytes h =>
    rcases h with h | h
    · omega
    · simp [h]
  | case2 bytes h ih => simp [ih]

theorem length_le_of_mem_chunks {size : Nat} {bytes piece : Bytes}
    (h : piece ∈ chunks size bytes) : piece.length ≤ size ∧ 0 < piece.length := by
  fun_induction chunks size bytes with
  | case1 => simp at h
  | case2 bytes hne ih =>
    rcases List.mem_cons.1 h with rfl | h
    · have := List.length_pos_iff.2 (not_or.1 hne).2
      simp only [List.length_take]
      omega
    · exact ih h

end Bytes

end OffloadCodec
