import OffloadCodec.Error
import OffloadCodec.Memory

/-!
# Views of caller memory

A `View` is a window on a memory region. `View.range` builds one exactly when the window lies
inside the region, with the sum of offset and length taken in unbounded arithmetic, so it cannot
wrap. `View.bytes` is what the window shows and `View.store` overlays bytes inside it.
-/

namespace OffloadCodec

structure View where
  memory : Memory
  offset : Nat
  length : Nat
  inside : offset + length ≤ memory.size

namespace View

/-- The whole region. -/
def whole (memory : Memory) : View := ⟨memory, 0, memory.size, by omega⟩

/-- `length` bytes of the region from `offset` on. -/
def range (memory : Memory) (offset length : Nat) : Except CodecError View :=
  if h : offset + length ≤ memory.size then .ok ⟨memory, offset, length, h⟩
  else .error (.outOfRange offset length memory.size)

/-- The bytes in the window. -/
def bytes (view : View) : Bytes := view.memory.read view.offset view.length

/-- Overlays bytes from the window's start on; what would lie past its end is not written. -/
def store (view : View) (bytes : Bytes) : View where
  memory := view.memory.write view.offset (bytes.take view.length)
  offset := view.offset
  length := view.length
  inside := view.inside

/-- The window's length as a 32-bit field. -/
def length32 (view : View) : Except CodecError UInt32 :=
  if view.length ≤ maxNativeLength then .ok (UInt32.ofNat view.length)
  else .error (.tooLarge view.length)

/-- The window's length as the capacity of an output region. An empty region has no address to write
to, which `what` names. -/
def capacity32 (view : View) (what : String) : Except CodecError UInt32 :=
  if view.length = 0 then .error (.outOfMemory what) else view.length32

@[simp] theorem length_whole (memory : Memory) : (whole memory).length = memory.size := rfl

theorem bytes_eq (view : View) :
    view.bytes = (view.memory.toBytes.drop view.offset).take view.length :=
  view.memory.read_eq _ _

/-- What is stored in the window stands there, as far as it reaches. -/
theorem read_store {view : View} {bytes : Bytes} {n : Nat} (fits : n ≤ view.length)
    (reaches : n ≤ bytes.length) :
    (view.store bytes).memory.read view.offset n = bytes.take n := by
  have inside := view.inside
  have enough : n ≤ (bytes.take view.length).length := by
    rw [List.length_take]
    omega
  calc (view.store bytes).memory.read view.offset n
      = (bytes.take view.length).take n := Memory.read_write (by omega) enough
    _ = bytes.take n := by rw [List.take_take, Nat.min_eq_left fits]

theorem length32_ok_iff {view : View} {length : UInt32} :
    view.length32 = .ok length ↔
      view.length ≤ maxNativeLength ∧ length = UInt32.ofNat view.length := by
  unfold length32
  split <;> simp [*, eq_comm]

theorem capacity32_ok_iff {view : View} {what : String} {capacity : UInt32} :
    view.capacity32 what = .ok capacity ↔
      0 < view.length ∧ view.length ≤ maxNativeLength ∧ capacity = UInt32.ofNat view.length := by
  unfold capacity32
  split
  · simp [*]
  · rw [length32_ok_iff]
    exact ⟨fun within => ⟨Nat.pos_of_ne_zero ‹_›, within⟩, fun within => within.2⟩

end View

end OffloadCodec
