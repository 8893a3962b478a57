import OffloadCodec.Library

/-!
# Working buffers

A stream adapter works in two buffers, either plain heap memory or memory from the native library's
allocator. `allocatePair` obtains both or none: when the second is refused the first is given back.

`Library.blockBound` checks a block size and asks for the compressed size that goes with it, which
is what every reader and writer of block streams does first.
-/

namespace OffloadCodec

inductive Scratch
  | heap (memory : Memory)
  | native (buffer : NativeBuffer)

namespace Scratch

variable {σ ι : Type}

def memory : Scratch → Memory
  | .heap memory => memory
  | .native buffer => buffer.memory

/-- The same buffer with other contents. -/
def withMemory (scratch : Scratch) (memory : Memory) : Scratch :=
  match scratch with
  | .heap _ => .heap memory
  | .native buffer => .native { buffer with memory }

def size (scratch : Scratch) : Nat := scratch.memory.size

@[simp] theorem memory_withMemory (scratch : Scratch) (memory : Memory) :
    (scratch.withMemory memory).memory = memory := by
  cases scratch <;> rfl

/-- A zeroed buffer of the preferred kind. -/
def allocate (library : Library σ ι) (size : Nat) (prefs : BufferPrefs) :
    Act σ CodecError Scratch :=
  if prefs.useNative then
    return .native (← NativeBuffer.allocate library size prefs.numa prefs.forcePinned)
  else return .heap (.zeros size)

/-- A buffer of the preferred kind can have this size. The program stops where heap memory for more is
asked for; what the native allocator grants is its own affair. -/
def isPossible (size : Nat) (prefs : BufferPrefs) : Bool :=
  prefs.useNative || size ≤ maxObjectSize

/-- Gives the buffer back. -/
def release (scratch : Scratch) (library : Library σ ι) (world : World σ) : World σ :=
  match scratch with
  | .heap _ => world
  | .native buffer => buffer.release library world

/-- Two buffers, or neither of them. -/
def allocatePair (library : Library σ ι) (first second : Nat) (prefs : BufferPrefs) :
    Act σ CodecError (Scratch × Scratch) := do
  let one ← allocate library first prefs
  Act.of fun world =>
    match (allocate library second prefs).runOn world with
    | (.ok two, world) => (.ok (one, two), world)
    | (.error e, world) => (.error e, one.release library world)

end Scratch

/-- A codec operation as part of a stream operation. -/
def Act.streamed {σ α : Type} (act : Act σ CodecError α) : Act σ StreamFailure α :=
  act.mapError fun e => .error (.codec e)

/-- The largest payload of a frame for blocks of some size. -/
def Library.maxBlockPayload {σ ι : Type} (library : Library σ ι) (blockSize : Nat) :
    Act σ StreamFailure Nat :=
  (library.maxCompressedLength blockSize).streamed

/-- The largest payload for blocks of some size, which has to be usable. -/
def Library.blockBound {σ ι : Type} (library : Library σ ι) (blockSize : Nat) :
    Act σ StreamFailure Nat :=
  if StreamOptions.isUsable blockSize then library.maxBlockPayload blockSize
  else throw (.error (.unusableBlockSize blockSize))

end OffloadCodec
