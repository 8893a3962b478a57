import OffloadCodec.Bytes

/-!
# Memory regions

A region has a fixed size and starts out zero. Only the front that has been written is kept, so an
untouched region of any size costs nothing; `toBytes` is what the region holds.

* `read` is a window on the view: `read_eq`.
* `write` overlays bytes at an offset and clips what does not fit: `toBytes_write`.
* What is written behind a front extends the front: `read_write_append`.
-/

namespace OffloadCodec

/-- The largest size of an object in memory: half of the addresses that a machine word holds. -/
def maxObjectSize : Nat := UInt64.size / 2 - 1

/-- A region of `size` bytes that holds `front`, then zeros. -/
structure Memory where
  size : Nat
  front : Bytes
  front_le : front.length ≤ size

namespace Memory

/-- An untouched region. -/
def zeros (size : Nat) : Memory := ⟨size, [], Nat.zero_le _⟩

/-- A region that holds exactly these bytes. -/
def ofBytes (bytes : Bytes) : Memory := ⟨bytes.length, bytes, Nat.le_refl _⟩

/-- `n` bytes, all `byte`. -/
def filled (byte : UInt8) (n : Nat) : Memory := ofBytes (List.replicate n byte)

/-- Everything the region holds. -/
def toBytes (m : Memory) : Bytes := m.front ++ List.replicate (m.size - m.front.length) 0

/-- The bytes from `offset` on, `length` of them or as many as there are. -/
def read (m : Memory) (offset length : Nat) : Bytes :=
  let n := min length (m.size - offset)
  let known := (m.front.drop offset).take n
  known ++ List.replicate (n - known.length) 0

/-- Overlays `bytes` from `offset` on; what would lie past the end is not written. -/
def write (m : Memory) (offset : Nat) (bytes : Bytes) : Memory where
  size := m.size
  front :=
    (m.front.take offset ++ List.replicate (offset - m.front.length) 0 ++ bytes ++
      m.front.drop (offset + bytes.length)).take m.size
  front_le := List.length_take_le _ _

@[simp] theorem size_zeros (n : Nat) : (zeros n).size = n := rfl
@[simp] theorem size_ofBytes (bytes : Bytes) : (ofBytes bytes).size = bytes.length := rfl
@[simp] theorem size_write (m : Memory) (offset : Nat) (bytes : Bytes) :
    (m.write offset bytes).size = m.size := rfl

@[simp] theorem toBytes_zeros (n : Nat) : (zeros n).toBytes = List.replicate n 0 := by
  simp [zeros, toBytes]

@[simp] theorem toBytes_ofBytes (bytes : Bytes) : (ofBytes bytes).toBytes = bytes := by
  simp [ofBytes, toBytes]

@[simp] theorem length_toBytes (m : Memory) : m.toBytes.length = m.size := by
  have := m.front_le
  simp only [toBytes, List.length_append, List.length_replicate]
  omega

theorem read_eq (m : Memory) (offset length : Nat) :
    m.read offset length = (m.toBytes.drop offset).take length := by
  have := m.front_le
  apply List.ext_getElem
  · simp only [read, List.length_append, List.length_take, List.length_drop,
      List.length_replicate, length_toBytes]
    omega
  · intro i h₁ h₂
    simp only [List.length_take, List.length_drop, length_toBytes] at h₂
    simp only [read, toBytes, List.getElem_take, List.getElem_drop, List.getElem_append,
      List.length_take, List.length_drop, List.getElem_replicate]
    split <;> split <;> first | rfl | omega

@[simp] theorem length_read (m : Memory) (offset length : Nat) :
    (m.read offset length).length = min length (m.size - offset) := by
  simp [read_eq]

theorem toBytes_write (m : Memory) (offset : Nat) (bytes : Bytes) :
    (m.write offset bytes).toBytes =
      (m.toBytes.take offset ++ List.replicate (offset - m.size) 0 ++ bytes ++
        m.toBytes.drop (offset + bytes.length)).take m.size := by
  have := m.front_le
  apply List.ext_getElem
  · simp only [length_toBytes, size_write, List.length_take, List.length_append,
      List.length_drop, List.length_replicate]
    omega
  · intro i h₁ h₂
    simp only [length_toBytes, size_write] at h₁
    simp only [write, toBytes, List.getElem_take, List.getElem_drop, List.getElem_append,
      List.length_take, List.length_drop, List.length_append, List.length_replicate,
      List.getElem_replicate]
    repeat' split
    all_goals first | rfl | omega | (congr 1; omega)

/-- Bytes written right behind the first `n` are read together with them. -/
theorem read_write_append {m : Memory} {n : Nat} {bytes : Bytes}
    (fits : n + bytes.length ≤ m.size) :
    (m.write n bytes).read 0 (n + bytes.length) = m.read 0 n ++ bytes := by
  have front : (m.toBytes.take n).length = n := by
    rw [List.length_take, length_toBytes]
    omega
  have whole : (m.toBytes.take n ++ bytes).length = n + bytes.length := by
    rw [List.length_append, front]
  rw [read_eq, read_eq, toBytes_write, Nat.sub_eq_zero_of_le (by omega), List.replicate_zero,
    List.append_nil, List.drop_zero, List.drop_zero, List.take_take, Nat.min_eq_left fits,
    List.take_left' whole]

@[simp] theorem read_zero (m : Memory) (offset : Nat) : m.read offset 0 = [] := by
  rw [read_eq, List.take_zero]

/-- What is written somewhere is read there, as far as it reaches. -/
theorem read_write {m : Memory} {offset n : Nat} {bytes : Bytes} (fits : offset + n ≤ m.size)
    (reaches : n ≤ bytes.length) : (m.write offset bytes).read offset n = bytes.take n := by
  have front : (m.toBytes.take offset).length = offset := by
    rw [List.length_take, length_toBytes]
    omega
  rw [read_eq, toBytes_write, Nat.sub_eq_zero_of_le (by omega), List.replicate_zero,
    List.append_nil, List.drop_take, List.append_assoc, List.drop_left' front, List.take_take,
    Nat.min_eq_left (by omega), List.take_append_of_le_length reaches]

/-- What is written to the front is read there. -/
theorem read_write_front {m : Memory} {n : Nat} {bytes : Bytes} (fits : n ≤ m.size)
    (reaches : n ≤ bytes.length) : (m.write 0 bytes).read 0 n = bytes.take n :=
  read_write ((Nat.zero_add n).symm ▸ fits) reaches

/-- A header in front of what was written behind it is read together with it. -/
theorem read_write_header {m : Memory} {header bytes : Bytes} {n : Nat}
    (fits : header.length + n ≤ m.size) (reaches : n ≤ bytes.length) :
    ((m.write header.length bytes).write 0 header).read 0 (header.length + n) =
      header ++ bytes.take n := by
  have front : (m.toBytes.take header.length).length = header.length := by
    rw [List.length_take, length_toBytes]
    omega
  have behind : (m.write header.length bytes).toBytes.drop header.length =
      (bytes ++ m.toBytes.drop (header.length + bytes.length)).take
        (m.size - header.length) := by
    rw [toBytes_write, Nat.sub_eq_zero_of_le (by omega), List.replicate_zero, List.append_nil,
      List.drop_take, List.append_assoc, List.drop_left' front]
  have room : n ≤ (bytes ++ m.toBytes.drop (header.length + bytes.length)).length := by
    rw [List.length_append]
    omega
  rw [read_eq, toBytes_write, List.take_zero, Nat.zero_sub, List.replicate_zero, List.nil_append,
    List.nil_append, List.drop_zero, List.take_take, size_write, Nat.min_eq_left fits,
    Nat.zero_add, behind, List.take_length_add_append, List.take_take,
    Nat.min_eq_left (by omega), List.take_append_of_le_length reaches]

theorem take_read (m : Memory) (offset length n : Nat) :
    (m.read offset length).take n = m.read offset (min n length) := by
  rw [read_eq, read_eq, List.take_take]

theorem drop_read (m : Memory) (offset length n : Nat) :
    (m.read offset length).drop n = m.read (offset + n) (length - n) := by
  rw [read_eq, read_eq, List.drop_take, List.drop_drop]

@[simp] theorem read_ofBytes (bytes : Bytes) : (ofBytes bytes).read 0 bytes.length = bytes := by
  rw [read_eq, toBytes_ofBytes, List.drop_zero, List.take_length]

end Memory

end OffloadCodec
