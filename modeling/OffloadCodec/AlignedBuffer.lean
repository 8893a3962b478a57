import OffloadCodec.Error
import OffloadCodec.Memory

/-!
# Aligned buffers

Zeroed heap memory at an alignment of the caller's choice. A capacity of zero, an alignment that is
no power of two, a region larger than an object may be and an allocator that refuses are all reported
as lack of memory.
-/

namespace OffloadCodec

structure AlignedBuffer where
  alignment : Nat
  memory : Memory

namespace AlignedBuffer

def defaultAlignment : Nat := 64

/-- The alignment is a power of two, and the capacity rounded up to it is the size of an object. -/
def isLayout (capacity alignment : Nat) : Bool :=
  1 <<< alignment.log2 = alignment &&
    (capacity + (alignment - 1)) / alignment * alignment ≤ maxObjectSize

/-- There are addresses for so many bytes, where addresses have 47 bits. -/
def hasAddresses (capacity : Nat) : Bool := capacity < 1 <<< 47

/-- `capacity` zeroed bytes at a multiple of `alignment`. Whether the memory is granted is the
allocator's answer; unless one is given it is granted as far as there are addresses. -/
def new (capacity alignment : Nat) (granted : Bool := hasAddresses capacity) :
    Except CodecError AlignedBuffer :=
  if capacity = 0 then .error (.outOfMemory "aligned native buffer")
  else if isLayout capacity alignment && granted then .ok ⟨alignment, .zeros capacity⟩
  else .error (.outOfMemory "aligned native buffer")

def withDefaultAlignment (capacity : Nat) (granted : Bool := hasAddresses capacity) :
    Except CodecError AlignedBuffer :=
  new capacity defaultAlignment granted

def capacity (buffer : AlignedBuffer) : Nat := buffer.memory.size

/-- A one-line description. -/
def describe (buffer : AlignedBuffer) : String :=
  "AlignedBuffer \x7b capacity: " ++ toString buffer.capacity ++ ", alignment: " ++
    toString buffer.alignment ++ " \x7d"

end AlignedBuffer

end OffloadCodec
