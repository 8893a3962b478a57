import OffloadCodec.Bytes
import OffloadCodec.Params

/-!
# The native library's interface

The codec does no compression of its own: it calls a native library, of which only the entry points
are known. `EntryPoints σ ι` is the table of them for a library with internal state `σ` that keeps
data of type `ι` in each session it has set up. A call reads and changes the state, and nothing is
assumed about how it does, nor about the lengths and statuses it reports.

Two entry points are optional. `Image` is a loaded file before it is known which entry points it
has, and `Image.resolve?` binds them, the required ones in a fixed order.
-/

namespace OffloadCodec

/-- The library's record of one session. It is set up lazily: `internal` is absent until the first
call that reaches the codec. -/
structure SessionRecord (ι : Type) where
  internal : Option ι := none
  totalIn : UInt64 := 0
  totalOut : UInt64 := 0
deriving DecidableEq, Repr

/-- What a compress or decompress call leaves behind. -/
structure CodecReply (ι : Type) where
  status : Int32
  /-- The length stored in place of the capacity. -/
  reported : UInt32
  /-- What was written from the start of the output region on. -/
  written : Bytes
  record : SessionRecord ι

/-- Where a native allocation lies. -/
abbrev Address := Nat

structure EntryPoints (σ ι : Type) where
  /-- Compresses an input into an output of some capacity; the flag says that it is the last. -/
  compress : SessionRecord ι → Bytes → (capacity : UInt32) → (last : Bool) → σ →
    CodecReply ι × σ
  decompress : SessionRecord ι → Bytes → (capacity : UInt32) → σ → CodecReply ι × σ
  /-- Overwrites a parameter block with the process-wide defaults. -/
  getDefaults : RawParams → σ → (Int32 × RawParams) × σ
  setDefaults : RawParams → σ → Int32 × σ
  /-- An upper bound on the compressed size of an input of some length. -/
  maxCompressedLength : UInt32 → σ → UInt32 × σ
  /-- Memory of some size; `none` when it is refused. -/
  malloc : (size : Nat) → (numa pinned : Bool) → σ → Option Address × σ
  free : Option (Address → σ → σ)
  teardown : Option (SessionRecord ι → σ → Int32 × σ)

/-- The entry points that a loaded file exports, and where it was found. -/
structure Image (σ ι : Type) where
  path : String
  compress : Option (SessionRecord ι → Bytes → UInt32 → Bool → σ → CodecReply ι × σ)
  decompress : Option (SessionRecord ι → Bytes → UInt32 → σ → CodecReply ι × σ)
  getDefaults : Option (RawParams → σ → (Int32 × RawParams) × σ)
  setDefaults : Option (RawParams → σ → Int32 × σ)
  maxCompressedLength : Option (UInt32 → σ → UInt32 × σ)
  malloc : Option (Nat → Bool → Bool → σ → Option Address × σ)
  free : Option (Address → σ → σ)
  teardown : Option (SessionRecord ι → σ → Int32 × σ)

/-- The platform's loader: the file under a name, or the reason why it is not loaded. -/
abbrev Loader (σ ι : Type) := String → σ → Except String (Image σ ι)

namespace EntryPoints

/-- The entry points without which a library cannot be used, in the order in which they are bound. -/
def requiredSymbols : List String :=
  ["qzCompress", "qzDecompress", "qzGetDefaults", "qzSetDefaults", "qzMaxCompressedLength",
    "qzMalloc"]

/-- The entry points that are bound when the library has them. -/
def optionalSymbols : List String := ["qzFree", "qzTeardownSession"]

variable {σ ι : Type}

/-- The number of optional entry points. -/
def optionalCount (entries : EntryPoints σ ι) : Nat :=
  entries.free.isSome.toNat + entries.teardown.isSome.toNat

/-- The same library where its state is a part of a larger one. -/
def within {τ : Type} (part : τ → σ) (put : σ → τ → τ) (entries : EntryPoints σ ι) :
    EntryPoints τ ι :=
  let on {α : Type} (call : σ → α × σ) (t : τ) : α × τ :=
    let (a, s) := call (part t)
    (a, put s t)
  { compress := fun record input capacity last => on (entries.compress record input capacity last)
    decompress := fun record input capacity => on (entries.decompress record input capacity)
    getDefaults := fun raw => on (entries.getDefaults raw)
    setDefaults := fun raw => on (entries.setDefaults raw)
    maxCompressedLength := fun length => on (entries.maxCompressedLength length)
    malloc := fun size numa pinned => on (entries.malloc size numa pinned)
    free := entries.free.map fun free address t => put (free address (part t)) t
    teardown := entries.teardown.map fun teardown record => on (teardown record) }

end EntryPoints

/-- An entry point that must be there; its name if it is not. -/
def Image.require {α : Type} (entry : Option α) (symbol : String) : Except String α :=
  match entry with
  | some entry => .ok entry
  | none => .error symbol

/-- Binds the entry points; the first required one that is missing is the error. -/
def Image.resolve? {σ ι : Type} (image : Image σ ι) : Except String (EntryPoints σ ι) := do
  let compress ← require image.compress "qzCompress"
  let decompress ← require image.decompress "qzDecompress"
  let getDefaults ← require image.getDefaults "qzGetDefaults"
  let setDefaults ← require image.setDefaults "qzSetDefaults"
  let maxCompressedLength ← require image.maxCompressedLength "qzMaxCompressedLength"
  let malloc ← require image.malloc "qzMalloc"
  return {
    compress, decompress, getDefaults, setDefaults, maxCompressedLength, malloc
    free := image.free
    teardown := image.teardown }

end OffloadCodec
