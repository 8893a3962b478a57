import OffloadCodec.Memory
import OffloadCodec.Native
import OffloadCodec.Text.Quoted
import OffloadCodec.World

/-!
# A bound library

`Library` is a name together with bound entry points. `Library.openWith` opens one through the
platform's loader; `ofEntryPoints` wraps a table that is at hand already.

`NativeBuffer` is memory from the library's own allocator, zeroed when it is obtained and given back
through `release`.
-/

namespace OffloadCodec

structure Library (σ ι : Type) where
  /-- The name under which it was opened or registered. -/
  name : String
  /-- The file it was loaded from, if it was loaded from one. -/
  path? : Option String
  entries : EntryPoints σ ι

namespace Library

variable {σ ι : Type}

def ofEntryPoints (name : String) (entries : EntryPoints σ ι) : Library σ ι :=
  ⟨name, none, entries⟩

/-- Opens a library under a name and binds its entry points. There is no loader on a platform without
dynamic loading. -/
def openWith (loader : Option (Loader σ ι)) (name : String) : Act σ LinkError (Library σ ι) :=
  Act.of fun world =>
    match loader with
    | none => (.error (.unsupported name), world)
    | some load =>
      if name.toList.contains '\x00' then
        (.error (.libraryNotFound name "file name contains a NUL byte"), world)
      else match load name world.native with
        | .error reason => (.error (.libraryNotFound name reason), world)
        | .ok image =>
          match image.resolve? with
          | .error symbol => (.error (.missingSymbol name symbol), world)
          | .ok entries =>
            (.ok ⟨name, some image.path, entries⟩,
              world.say 4 ("qatcodec: bound " ++ name ++ " (" ++
                toString entries.optionalCount ++ " optional symbols)\n"))

/-- Where the library was loaded from; its name if it was not loaded from a file. -/
def path (library : Library σ ι) : String := library.path?.getD library.name

/-- A one-line description. -/
def describe (library : Library σ ι) : String :=
  "QzLibrary \x7b name: " ++ Text.quoted library.name ++ ", dynamic: " ++
    toString library.path?.isSome ++ ", qzFree: " ++ toString library.entries.free.isSome ++
    ", qzTeardownSession: " ++ toString library.entries.teardown.isSome ++ " \x7d"

/-- An upper bound on the compressed size of an input of some length. -/
def maxCompressedLength (library : Library σ ι) (length : Nat) : Act σ CodecError Nat :=
  Act.of fun world =>
    if length ≤ maxNativeLength then
      let (bound, native) := library.entries.maxCompressedLength (UInt32.ofNat length) world.native
      (.ok bound.toNat, { world with native })
    else (.error (.tooLarge length), world)

end Library

/-- Memory that the native allocator returned. -/
structure NativeBuffer where
  address : Address
  memory : Memory

namespace NativeBuffer

variable {σ ι : Type}

/-- Zeroed memory from the native allocator. A size of zero is refused without asking it. -/
def allocate (library : Library σ ι) (size : Nat) (numa pinned : Bool) :
    Act σ CodecError NativeBuffer :=
  Act.of fun world =>
    if size = 0 then (.error (.outOfMemory "qzMalloc buffer"), world)
    else match library.entries.malloc size numa pinned world.native with
      | (some address, native) => (.ok ⟨address, .zeros size⟩, { world with native })
      | (none, native) => (.error (.outOfMemory "qzMalloc buffer"), { world with native })

/-- Gives the memory back, if the library can take it. -/
def release (buffer : NativeBuffer) (library : Library σ ι) (world : World σ) : World σ :=
  match library.entries.free with
  | some free => { world with native := free buffer.address world.native }
  | none => world

def capacity (buffer : NativeBuffer) : Nat := buffer.memory.size

/-- A one-line description. -/
def describe (buffer : NativeBuffer) : String :=
  "QzBuffer \x7b capacity: " ++ toString buffer.capacity ++ " \x7d"

end NativeBuffer

end OffloadCodec
